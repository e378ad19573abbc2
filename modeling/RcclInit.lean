import RcclInit.Basic
import RcclInit.Init
import RcclInit.AllGather1
import RcclInit.AllGather3
import RcclInit.Intra
import RcclInit.Heap
import RcclInit.Bootstrap
import RcclInit.CollNet
import RcclInit.Returns
import RcclInit.Affinity
import RcclInit.Channels
import RcclInit.Lifecycle
import RcclInit.Entry
import RcclInit.Client
import RcclInit.CollTrace
import RcclInit.Clique
import RcclInit.IntraHeap
import RcclInit.InitTransports
import RcclInit.TransportClient
