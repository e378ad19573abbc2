import RcclInit.Heap
import RcclInit.CollNet
import RcclInit.Returns

/-!
# The life of a communicator: `commAlloc`, `commFree` and `ncclCommDestroy`

`commAlloc` checks its arguments, then allocates the communicator and its host arrays one
after another; `commFree` releases them, with `peerInfo`, the bootstrap state and, when the
caller is the last rank of its process, the five intra-process objects, and `ncclCommDestroy`
reaches it through `commDestroy`, which moves to the communicator's device and back.
`ncclCommInitRankSync` ties the two ends together: its cleanup aborts the bootstrap state of
the communicator `*newcomm` holds and sets `*newcomm = NULL`.

The build modelled is the one with `ENABLE_COLLTRACE` defined and `ENABLE_PROFILING` not:
`commAlloc` allocates the trace ring and starts the trace thread of `RcclInit.CollTrace`, and
`commFree` stops the thread and frees the ring. Device memory, events, streams and pinned host
cells belong to allocators `src/` does not define, and the outcome of every call on them is an
input (`AllocCalls`, `FreeCalls`, `DestroyCalls`, `SyncCalls`). `bootstrap.cc` is not under
`src/` either: its state is a block of the heap, which `bootstrapInit` stores into
`comm->bootstrap` and `bootstrapClose` and `bootstrapAbort` read and, when they succeed, free.

`ncclCommInitRankSync` is written once, over the program `initTransportsRank` runs on the new
communicator (`ncclCommInitRankSyncWith`). `Lifecycle.ncclCommInitRankSync` takes that program
to be `bootstrapInit` followed by the result of the rest of the function;
`RcclInit.InitTransports` gives it the heap effects of the rest as well.

Main results: the round trip through `ncclCommInitRankSync`, the queries and `ncclCommDestroy`
gives the heap back (`commAlloc_destroy_round_trip`); `commAlloc` frees nothing
(`commAlloc_never_frees`), so a failed `ncclCommInitRankSync` leaks what it allocated
(`ncclCommInitRankSync_failure_leaks`) but releases a bootstrap state it holds
(`ncclCommInitRankSync_aborts_held_bootstrap`); a destroyed communicator is gone
(`ncclCommDestroy_frees_owned`), and a failed `ncclCommDestroy` cannot be retried
(`ncclCommDestroy_retry_double_free`).
-/

set_option autoImplicit false

namespace RcclInit

open NcclResult

/-! ## `commAlloc` -/

/-- Where `commAlloc` allocates: with `ncclCalloc` on the heap, or with `ncclCudaHostCalloc`
outside it (`abortFlag`, `p2pNet`, and the trace ring's `collTraceTail` and `collTrace`). -/
inductive AllocSite where
  | comm
  | abortFlag
  | p2pNet
  | collTraceTail
  | collTrace
  | asyncOps
  | connectSend
  | connectRecv
  | p2pSends
  | p2pRecvs
  deriving DecidableEq, Repr

/-- The outcomes of the calls `commAlloc` makes that `src/` does not define. -/
structure AllocCalls where
  /-- `hipEventCreateWithFlags(&doneEvent, hipEventDisableTiming)`: the event, or `none`
  when it fails. -/
  eventCreate : Option Nat
  /-- The result of the allocation at each site. -/
  calloc : AllocSite → NcclResult
  /-- What `hipGetDevice(&comm->cudaDev)` writes, `none` when it fails; its result is not
  checked. -/
  getDevice : Option Int
  /-- `getBusId(cudaDev, &comm->busId)`: its result and the id it writes. -/
  getBusId : Int → NcclResult × Int

/-- `commAlloc(comret, ndev, rank)`, lines 367-444: the result and the value written into
`*comret`, if any. The trace thread `pthread_create` starts (line 420) reads the ring, not the
heap, and its result is not checked. -/
def commAlloc (calls : AllocCalls) (ndev rank : Int) : LifeM (NcclResult × Option Nat) := do
  if ndev < 1 then return (ncclInvalidArgument, none)
  if rank ≥ ndev ∨ rank < 0 then return (ncclInvalidArgument, none)
  let some doneEvent := calls.eventCreate | return (ncclUnhandledCudaError, none)
  let some comm ← ncclCalloc (calls.calloc .comm) | return (calls.calloc .comm, none)
  let cudaDev := calls.getDevice.getD 0
  writeComm comm fun c => { c with rank := rank, nRanks := ndev, cudaDev := cudaDev }
  let (res, busId) := calls.getBusId cudaDev
  if res ≠ ncclSuccess then return (res, none)
  writeComm comm fun c => { c with busId := busId, doneEvent := doneEvent }
  writeComm comm fun c => { c with fatalError := ncclSuccess }
  if calls.calloc .abortFlag ≠ ncclSuccess then return (calls.calloc .abortFlag, none)
  if calls.calloc .p2pNet ≠ ncclSuccess then return (calls.calloc .p2pNet, none)
  if calls.calloc .collTraceTail ≠ ncclSuccess then return (calls.calloc .collTraceTail, none)
  if calls.calloc .collTrace ≠ ncclSuccess then return (calls.calloc .collTrace, none)
  let res ← callocInto comm (calls.calloc .asyncOps) fun c p => { c with asyncOps := p }
  if res ≠ ncclSuccess then return (res, none)
  let res ← callocInto comm (calls.calloc .connectSend) fun c p => { c with connectSend := p }
  if res ≠ ncclSuccess then return (res, none)
  let res ← callocInto comm (calls.calloc .connectRecv) fun c p => { c with connectRecv := p }
  if res ≠ ncclSuccess then return (res, none)
  let res ← callocInto comm (calls.calloc .p2pSends) fun c p => { c with p2pSends := p }
  if res ≠ ncclSuccess then return (res, none)
  let res ← callocInto comm (calls.calloc .p2pRecvs) fun c p => { c with p2pRecvs := p }
  if res ≠ ncclSuccess then return (res, none)
  return (ncclSuccess, some comm)

/-! ## The bootstrap state -/

/-- `bootstrapInit(commId, rank, nranks, &comm->bootstrap, &rootPid)` of `initTransportsRank`
(line 750), with outcome `res`. Its effect on the heap is that of
`NCCLCHECK(ncclCalloc(&comm->bootstrap, 1))`: when it succeeds, a fresh block, the bootstrap
state, is stored into `comm->bootstrap`. -/
def bootstrapInit (res : NcclResult) (comm : Nat) : LifeM NcclResult :=
  callocInto comm res fun c p => { c with bootstrap := p }

/-- `bootstrapAbort(state)` with outcome `res`: it reads the state, and frees it when it
succeeds. -/
def bootstrapAbort (res : NcclResult) (state : Nat) : LifeM Unit := do
  useBlock state
  if res = ncclSuccess then hostFree state

/-- `bootstrapClose(state)` with outcome `res`: as `bootstrapAbort`, returning `res`. -/
def bootstrapClose (res : NcclResult) (state : Nat) : LifeM NcclResult := do
  bootstrapAbort res state
  return res

/-! ## `commFree`, `commDestroy` and `ncclCommDestroy` -/

/-- The outcomes of the calls `commFree` makes that `src/` does not define. -/
structure FreeCalls where
  /-- `ncclCudaHostFree` of `comm->hostDevComm.collTrace` and of `collTraceTail`. -/
  hostFreeCollTrace : NcclResult
  hostFreeCollTraceTail : NcclResult
  bootstrapClose : NcclResult
  /-- `hipFree(comm->hostDevComm.channels)` returns `hipSuccess`. -/
  hipFreeChannels : Bool
  /-- `hipFree(comm->devComm)` returns `hipSuccess`. -/
  hipFreeDevComm : Bool
  /-- `freeChannel(comm->channels+channel, comm->nRanks)`. -/
  freeChannel : Nat → NcclResult
  hipEventDestroy : Bool
  /-- `hipStreamDestroy(comm->groupStream)`. -/
  hipStreamDestroy : Bool
  /-- `ncclCpuBarrierIn(comm, &isLast)`: its result, and the `isLast` it writes. -/
  cpuBarrierIn : NcclResult
  isLast : Bool
  /-- `ncclCudaHostFree` of `comm->abortFlag` and of `comm->p2pNet`. -/
  hostFreeAbortFlag : NcclResult
  hostFreeP2pNet : NcclResult

/-- The checked calls of lines 331-346, after the bootstrap state is closed and before the
barrier's frees, in source order; none of them touches the heap. -/
def FreeCalls.middle (calls : FreeCalls) (maxChannels : Nat) (c : Comm) : List NcclResult :=
  [cudaCheck calls.hipFreeChannels, cudaCheck calls.hipFreeDevComm] ++
  (List.range maxChannels).map calls.freeChannel ++
  [if c.doneEvent ≠ 0 then cudaCheck calls.hipEventDestroy else ncclSuccess,
    if c.launchMode = .GROUP then cudaCheck calls.hipStreamDestroy else ncclSuccess,
    calls.cpuBarrierIn]

/-- What `commPoison` leaves in a communicator. -/
def Comm.poison (c : Comm) : Comm := { c with rank := -1, cudaDev := -1, busId := -1, nRanks := -1 }

/-- `commPoison(comm)`, lines 164-166. -/
def commPoison (comm : Nat) : LifeM Unit := writeComm comm Comm.poison

/-- The host arrays `commFree` releases first, lines 272-276. -/
def hostArrays : List (Comm → Nat) :=
  [Comm.connectSend, Comm.connectRecv, Comm.p2pSends, Comm.p2pRecvs, Comm.asyncOps]

/-- The five intra-process objects the last rank of a process releases, lines 347-351, in
the order `ncclCommSetIntra` allocates them. -/
def intraObjects : List (Comm → Nat) :=
  [(·.intra .intraBarrier), (·.intra .intraParams), (·.intra .intraCudaDevs),
    (·.intra .intraCGMode), (·.intra .intraCC)]

/-- Lines 328-329 of `commFree`: `bootstrapClose` of the state `c` holds, if any. -/
def closeBootstrap (calls : FreeCalls) (c : Comm) : LifeM NcclResult :=
  if c.bootstrap ≠ 0 then bootstrapClose calls.bootstrapClose c.bootstrap else pure ncclSuccess

/-- Lines 331-361 of `commFree`, once the bootstrap state `c` held is closed: the checked calls,
the frees of the last rank of the process, and the release of the communicator itself. -/
def commFreeTail (maxChannels : Nat) (calls : FreeCalls) (comm : Nat) (c : Comm) :
    LifeM NcclResult := do
  let res := firstFailure (calls.middle maxChannels c)
  if res ≠ ncclSuccess then return res
  if calls.isLast then freeFields comm intraObjects
  if calls.hostFreeAbortFlag ≠ ncclSuccess then return calls.hostFreeAbortFlag
  if calls.hostFreeP2pNet ≠ ncclSuccess then return calls.hostFreeP2pNet
  commPoison comm
  hostFree comm
  return ncclSuccess

/-- `commFree(comm)`, lines 269-362, on `MAXCHANNELS` channels. The `ENABLE_COLLTRACE` block
(lines 318-323) stores `collTraceExit`, joins the trace thread, which leaves its loop once it
reads that flag, and frees the ring; `ncclTopoFree` releases memory of `graph/`, which is not
under `src/`. -/
def commFree (maxChannels : Nat) (calls : FreeCalls) (comm : Nat) : LifeM NcclResult := do
  if comm = 0 then return ncclSuccess
  freeFields comm hostArrays
  if calls.hostFreeCollTrace ≠ ncclSuccess then return calls.hostFreeCollTrace
  if calls.hostFreeCollTraceTail ≠ ncclSuccess then return calls.hostFreeCollTraceTail
  freeFields comm [Comm.peerInfo]
  let c ← readComm comm
  let res ← closeBootstrap calls c
  if res ≠ ncclSuccess then return res
  commFreeTail maxChannels calls comm c

/-- The outcomes of the calls `commDestroy` makes that `src/` does not define, with those
of its `commFree`. -/
structure DestroyCalls where
  /-- `hipGetDevice(&savedDevice)` returns `hipSuccess`; it reads the current device. -/
  getDevice : Bool
  /-- `hipSetDevice(dev)` returns `hipSuccess`; it makes `dev` current. -/
  setDevice : Int → Bool
  /-- `hipStreamSynchronize(comm->groupStream)` returns `hipSuccess`. -/
  streamSynchronize : Bool
  proxyDestroy : NcclResult
  free : FreeCalls

/-- `commDestroy(comm)`, lines 1217-1242. -/
def commDestroy (maxChannels : Nat) (calls : DestroyCalls) (comm : Nat) :
    LifeM NcclResult := do
  if !calls.getDevice then return ncclUnhandledCudaError
  let savedDevice := (← get).device
  let commDevice := (← readComm comm).cudaDev
  if savedDevice ≠ commDevice then
    if !calls.setDevice commDevice then return ncclUnhandledCudaError
    modify fun s => { s with device := commDevice }
  if !calls.streamSynchronize then return ncclUnhandledCudaError
  if calls.proxyDestroy ≠ ncclSuccess then return calls.proxyDestroy
  let res ← commFree maxChannels calls.free comm
  if res ≠ ncclSuccess then return res
  if savedDevice ≠ commDevice then
    if !calls.setDevice savedDevice then return ncclUnhandledCudaError
    modify fun s => { s with device := savedDevice }
  return ncclSuccess

/-- The test of line 1252 for a communicator `commPoison` has overwritten. -/
def Comm.poisoned (c : Comm) : Prop :=
  c.rank = -1 ∨ c.nRanks ≤ 0 ∨ c.cudaDev = -1 ∨ c.busId = -1

instance (c : Comm) : Decidable c.poisoned := inferInstanceAs (Decidable (_ ∨ _))

/-- `ncclCommDestroy(comm)`, lines 1244-1263: `delete comm->cliqueManager` runs the
destructor, which `src/` does not define, and frees the object. -/
def ncclCommDestroy (maxChannels : Nat) (calls : DestroyCalls) (comm : Nat) :
    LifeM NcclResult := do
  if comm = 0 then return ncclSuccess
  let c ← readComm comm
  if c.poisoned then return ncclInvalidArgument
  if c.cliqueManager ≠ 0 then hostFree c.cliqueManager
  commDestroy maxChannels calls comm

/-- `ncclCommAbort(comm)`, lines 1265-1277: it stores `1` into `*comm->abortFlag`, which only
device code and the proxy read, and destroys nothing. -/
def ncclCommAbort (comm : Nat) : LifeM NcclResult := do
  if comm = 0 then return ncclSuccess
  let _ ← readComm comm
  return ncclSuccess

/-! ## `ncclCommInitRankSync` -/

/-- The outcomes of the calls `ncclCommInitRankSync` makes, with those of its `commAlloc`. -/
structure SyncCalls where
  /-- `hipSetDevice(cudaDev)` returns `hipSuccess`; it makes `cudaDev` current. -/
  hipSetDevice : Bool
  alloc : AllocCalls
  /-- `bootstrapInit` of `initTransportsRank`, and the result of the rest of that function. -/
  bootstrapInit : NcclResult
  initTransportsRank : NcclResult
  devCommSetup : NcclResult
  /-- `bootstrapAbort` of the cleanup. -/
  bootstrapAbort : NcclResult

/-- The label `cleanup` of `ncclCommInitRankSync`, lines 1150-1153: when `*newcomm` is not
`NULL` and holds a bootstrap state, `bootstrapAbort` (outcome `abortRes`) releases it; then
`*newcomm = NULL`. -/
def initRankSyncCleanup (abortRes : NcclResult) (newcomm : Nat) (res : NcclResult) :
    LifeM (NcclResult × Nat) := do
  if newcomm ≠ 0 then
    let c ← readComm newcomm
    if c.bootstrap ≠ 0 then bootstrapAbort abortRes c.bootstrap
  return (res, 0)

/-- `ncclCommInitRankSync(newcomm, nranks, commId, myrank, cudaDev)`, lines 1139-1154, on the
heap, with `initTransportsRank` the program `initTransportsRank(*newcomm, &commId)` runs on
the new communicator: `newcomm` is the value of `*newcomm` on entry, and the result pairs the
result with the value `*newcomm` holds on return (`commAlloc` writes it only when it
succeeds). `devCommSetup` is given by its result. -/
def ncclCommInitRankSyncWith (initTransportsRank : Nat → LifeM NcclResult) (calls : SyncCalls)
    (newcomm : Nat) (nranks myrank cudaDev : Int) : LifeM (NcclResult × Nat) := do
  if !calls.hipSetDevice then return (ncclUnhandledCudaError, newcomm)
  modify fun s => { s with device := cudaDev }
  let (res, out) ← commAlloc calls.alloc nranks myrank
  let newcomm := out.getD newcomm
  if res ≠ ncclSuccess then initRankSyncCleanup calls.bootstrapAbort newcomm res
  else
    let res ← initTransportsRank newcomm
    if res ≠ ncclSuccess then initRankSyncCleanup calls.bootstrapAbort newcomm res
    else if calls.devCommSetup ≠ ncclSuccess then
      initRankSyncCleanup calls.bootstrapAbort newcomm calls.devCommSetup
    else return (ncclSuccess, newcomm)

/-- `initTransportsRank(comm, commId)`, lines 739-1137, by its effect on this heap:
`bootstrapInit` with outcome `boot`, then the rest of the function, which returns `rest`. -/
def initTransportsRankResult (boot rest : NcclResult) (comm : Nat) : LifeM NcclResult := do
  let res ← bootstrapInit boot comm
  if res ≠ ncclSuccess then return res
  return rest

/-- `ncclCommInitRankSync` with `initTransportsRank` taken by its results. -/
def Lifecycle.ncclCommInitRankSync (calls : SyncCalls) (newcomm : Nat) (nranks myrank cudaDev : Int) :
    LifeM (NcclResult × Nat) :=
  ncclCommInitRankSyncWith (initTransportsRankResult calls.bootstrapInit calls.initTransportsRank)
    calls newcomm nranks myrank cudaDev

/-! ## The queries -/

/-- `ncclCommGetAsyncError`, `ncclCommCount`, `ncclCommCuDevice` and `ncclCommUserRank`
(lines 1292-1327): `PtrCheck` of the communicator and of the output pointer, then one field
of the communicator, which is written through the output pointer (`none`: nothing is
written). -/
def commQuery {α : Type} (field : Comm → α) (comm out : Nat) :
    LifeM (NcclResult × Option α) := do
  if ptrCheck comm ≠ ncclSuccess then return (ptrCheck comm, none)
  if ptrCheck out ≠ ncclSuccess then return (ptrCheck out, none)
  return (ncclSuccess, some (field (← readComm comm)))

def ncclCommGetAsyncError (comm asyncError : Nat) : LifeM (NcclResult × Option NcclResult) :=
  commQuery Comm.fatalError comm asyncError

def ncclCommCount (comm count : Nat) : LifeM (NcclResult × Option Int) :=
  commQuery Comm.nRanks comm count

def ncclCommCuDevice (comm devid : Nat) : LifeM (NcclResult × Option Int) :=
  commQuery Comm.cudaDev comm devid

def ncclCommUserRank (comm rank : Nat) : LifeM (NcclResult × Option Int) :=
  commQuery Comm.rank comm rank

/-! ## `commFree` -/

/-- The fields whose blocks `commFree` frees when every check passes, besides the
communicator's own: the host arrays, `peerInfo`, the bootstrap state, and the intra-process
objects when the caller is the last rank of its process. -/
def freedFields (isLast : Bool) : List (Comm → Nat) :=
  hostArrays ++ [Comm.peerInfo, Comm.bootstrap] ++ if isLast then intraObjects else []

/-- The host blocks `ncclCommDestroy` frees for the communicator `c` besides its own, in
the order it frees them: the `CliqueManager`, then those of `commFree`. -/
def Comm.released (c : Comm) (isLast : Bool) : List Nat :=
  c.cliqueManager :: (freedFields isLast).map (· c)

/-- `comm` is a live communicator each of whose blocks can be freed once. -/
def Owns (s : Proc) (comm : Nat) : Prop :=
  comm ∈ s.heap.live ∧ Frees s.heap comm ((s.comm comm).released true)

/-- What `commFree` returns when its frees are defined: the first failure among its
checked calls. -/
def FreeCalls.result (calls : FreeCalls) (maxChannels : Nat) (c : Comm) : NcclResult :=
  firstFailure ([calls.hostFreeCollTrace, calls.hostFreeCollTraceTail,
      if c.bootstrap ≠ 0 then calls.bootstrapClose else ncclSuccess] ++
    calls.middle maxChannels c ++ [calls.hostFreeAbortFlag, calls.hostFreeP2pNet])

/-- The fields whose blocks `commFree` frees, besides the communicator's own: it stops at its
first failed check. -/
def FreeCalls.freed (calls : FreeCalls) (maxChannels : Nat) (c : Comm) : List (Comm → Nat) :=
  hostArrays ++
    if calls.hostFreeCollTrace ≠ ncclSuccess ∨ calls.hostFreeCollTraceTail ≠ ncclSuccess then []
    else Comm.peerInfo ::
      if c.bootstrap ≠ 0 ∧ calls.bootstrapClose ≠ ncclSuccess then []
      else Comm.bootstrap ::
        if firstFailure (calls.middle maxChannels c) = ncclSuccess ∧ calls.isLast then
          intraObjects
        else []

theorem FreeCalls.freed_sublist (calls : FreeCalls) (maxChannels : Nat) (c : Comm) :
    List.Sublist (calls.freed maxChannels c) (freedFields true) := by
  unfold FreeCalls.freed freedFields
  rw [List.append_assoc]
  refine List.Sublist.append_left ?_ _
  split_ifs <;> simp_all

/-- `commFree` frees each of its blocks when every check passes. -/
theorem FreeCalls.freed_of_result (calls : FreeCalls) (maxChannels : Nat) (c : Comm)
    (h : calls.result maxChannels c = ncclSuccess) :
    calls.freed maxChannels c = freedFields calls.isLast := by
  simp only [FreeCalls.result, firstFailure_eq_success_iff, List.mem_append, List.mem_cons,
    List.not_mem_nil, or_false] at h
  have hm : firstFailure (calls.middle maxChannels c) = ncclSuccess :=
    (firstFailure_eq_success_iff _).mpr fun r hr => h r (Or.inl (Or.inr hr))
  have hb : ¬(c.bootstrap ≠ 0 ∧ calls.bootstrapClose ≠ ncclSuccess) := fun ⟨hb, hc⟩ =>
    hc (by simpa [hb] using h _ (Or.inl (Or.inl (Or.inr (Or.inr rfl)))))
  simp only [FreeCalls.freed, freedFields, h _ (Or.inl (Or.inl (Or.inl rfl))),
    h _ (Or.inl (Or.inl (Or.inr (Or.inl rfl)))), hb, hm, ne_eq, not_true_eq_false, or_self,
    if_false, true_and, List.append_assoc, List.cons_append, List.singleton_append,
    List.nil_append]

/-- `commFreeTail` from a state where `comm` is live and the intra-process objects can be
freed. -/
theorem commFreeTail_run (maxChannels : Nat) (calls : FreeCalls) {s : Proc} {comm : Nat}
    (hcomm : comm ∈ s.heap.live) (hf : Frees s.heap comm (intraObjects.map (· (s.comm comm)))) :
    (commFreeTail maxChannels calls comm (s.comm comm)).run s =
      let c := s.comm comm
      let heap := s.heap.releaseAll ((if firstFailure (calls.middle maxChannels c) = ncclSuccess ∧
        calls.isLast = true then intraObjects else []).map (· c))
      let res := firstFailure (calls.middle maxChannels c ++
        [calls.hostFreeAbortFlag, calls.hostFreeP2pNet])
      if res = ncclSuccess then
        pure (ncclSuccess,
          { s with heap := heap.release comm, comm := Function.update s.comm comm c.poison })
      else pure (res, { s with heap := heap }) := by
  by_cases hm : firstFailure (calls.middle maxChannels (s.comm comm)) = ncclSuccess
  swap
  · simp [commFreeTail, firstFailure_append, hm]
  simp only [commFreeTail, hm, ne_eq, not_true_eq_false, if_false, true_and, firstFailure_append,
    if_true]
  cases calls.isLast
  · -- not the last rank of its process: the communicator alone is freed
    have hfc := hostFree_run_live
      (s := { s with comm := Function.update s.comm comm (s.comm comm).poison }) hcomm
    by_cases ha : calls.hostFreeAbortFlag = ncclSuccess <;>
      by_cases hp : calls.hostFreeP2pNet = ncclSuccess <;>
      simp [firstFailure, ha, hp, commPoison, writeComm_run_live _ hcomm, hfc]
  · -- the last rank frees the five intra-process objects first
    have hcomm' : comm ∈ (s.heap.releaseAll (intraObjects.map (· (s.comm comm)))).live := by
      rw [Heap.releaseAll_live, Finset.mem_sdiff, List.mem_toFinset]
      exact ⟨hcomm, hf.2.1⟩
    have hw := writeComm_run_live
      (s := { s with heap := s.heap.releaseAll (intraObjects.map (· (s.comm comm))) })
      Comm.poison hcomm'
    have hfc := hostFree_run_live
      (s := { s with
        heap := s.heap.releaseAll (intraObjects.map (· (s.comm comm)))
        comm := Function.update s.comm comm (s.comm comm).poison }) hcomm'
    simp only [if_true, StateT.run_bind, freeFields_run intraObjects hcomm hf, pure_bind]
    by_cases ha : calls.hostFreeAbortFlag = ncclSuccess <;>
      by_cases hp : calls.hostFreeP2pNet = ncclSuccess <;>
      simp [firstFailure, ha, hp, commPoison, hw, hfc]

theorem bootstrapAbort_run_live {res : NcclResult} {p : Nat} {s : Proc} (hp : p ∈ s.heap.live) :
    (bootstrapAbort res p).run s =
      pure ((), if res = ncclSuccess then { s with heap := s.heap.release p } else s) := by
  by_cases hres : res = ncclSuccess <;>
    simp [bootstrapAbort, hres, useBlock_run_live hp, hostFree_run_live hp]

theorem closeBootstrap_run (calls : FreeCalls) (c : Comm) {s : Proc}
    (hb : c.bootstrap = 0 ∨ c.bootstrap ∈ s.heap.live) :
    (closeBootstrap calls c).run s =
      if c.bootstrap ≠ 0 ∧ calls.bootstrapClose ≠ ncclSuccess then pure (calls.bootstrapClose, s)
      else pure (ncclSuccess, { s with heap := s.heap.releaseAll [c.bootstrap] }) := by
  rcases hb with hb | hb
  · simp [closeBootstrap, hb, Heap.releaseAll_cons]
  · have h0 := Heap.ne_zero_of_mem hb
    by_cases hcl : calls.bootstrapClose = ncclSuccess <;>
      simp [closeBootstrap, bootstrapClose, h0, hcl, bootstrapAbort_run_live hb, Heap.releaseAll_cons]

theorem closeBootstrap_run_dead (calls : FreeCalls) {c : Comm} {s : Proc} (hb0 : c.bootstrap ≠ 0)
    (hb : c.bootstrap ∉ s.heap.live) : (closeBootstrap calls c).run s = throw .undefinedBehaviour := by
  simp only [closeBootstrap, hb0, ne_eq, not_false_eq_true, if_true, bootstrapClose, bootstrapAbort,
    StateT.run_bind, useBlock_run_dead hb]
  rfl

/-- `commFree` up to line 327 when the trace ring is freed: the host arrays and `peerInfo` are
freed, and the communicator is read again. -/
theorem commFree_run_head (maxChannels : Nat) (calls : FreeCalls) {s : Proc} {comm : Nat}
    (hcomm : comm ∈ s.heap.live)
    (hf : Frees s.heap comm ((hostArrays ++ [Comm.peerInfo]).map (· (s.comm comm))))
    (hct : calls.hostFreeCollTrace = ncclSuccess ∧ calls.hostFreeCollTraceTail = ncclSuccess) :
    (commFree maxChannels calls comm).run s =
      (do
        let res ← closeBootstrap calls (s.comm comm)
        if res ≠ ncclSuccess then return res
        commFreeTail maxChannels calls comm (s.comm comm)).run
        { s with heap := (s.heap.releaseAll
          ((hostArrays ++ [Comm.peerInfo]).map fun f : Comm → Nat => f (s.comm comm))) } := by
  have hcomm2 : comm ∈ (s.heap.releaseAll ((hostArrays ++ [Comm.peerInfo]).map (· (s.comm comm)))).live := by
    rw [Heap.releaseAll_live, Finset.mem_sdiff, List.mem_toFinset]
    exact ⟨hcomm, hf.2.1⟩
  rw [List.map_append] at hf hcomm2 ⊢
  rw [Heap.releaseAll_append] at hcomm2 ⊢
  have hpeer := freeFields_run
    (s := { s with heap := s.heap.releaseAll (hostArrays.map (· (s.comm comm))) })
    [Comm.peerInfo] (hf.live_after hcomm) hf.append
  simp only [List.map_cons, List.map_nil] at hpeer hcomm2 ⊢
  simp only [commFree, if_neg (Heap.ne_zero_of_mem hcomm), hct.1, hct.2, ne_eq,
    not_true_eq_false, if_false, StateT.run_bind, pure_bind,
    freeFields_run hostArrays hcomm (hf.sublist (List.sublist_append_left _ _)), hpeer,
    readComm_run_live (s := { s with heap :=
      (s.heap.releaseAll (hostArrays.map (· (s.comm comm)))).releaseAll [(s.comm comm).peerInfo] })
      hcomm2]

/-- `commFree` of a live communicator whose blocks can each be freed once: it frees the blocks
`FreeCalls.freed` names and returns `FreeCalls.result`, and when every check passes it poisons
and frees the communicator. -/
theorem commFree_run (maxChannels : Nat) (calls : FreeCalls) {s : Proc} {comm : Nat}
    (hcomm : comm ∈ s.heap.live)
    (hf : Frees s.heap comm ((freedFields true).map (· (s.comm comm)))) :
    (commFree maxChannels calls comm).run s =
      let c := s.comm comm
      let heap := s.heap.releaseAll ((calls.freed maxChannels c).map (· c))
      if calls.result maxChannels c = ncclSuccess then
        pure (ncclSuccess,
          { s with heap := heap.release comm, comm := Function.update s.comm comm c.poison })
      else pure (calls.result maxChannels c, { s with heap := heap }) := by
  have hf' : Frees s.heap comm (((hostArrays ++ [Comm.peerInfo]).map (· (s.comm comm)) ++
      [(s.comm comm).bootstrap]) ++ intraObjects.map (· (s.comm comm))) := by
    simpa [freedFields] using hf
  by_cases hct : calls.hostFreeCollTrace = ncclSuccess ∧ calls.hostFreeCollTraceTail = ncclSuccess
  swap
  · -- `ncclCudaHostFree` of the trace ring fails
    have hfA : Frees s.heap comm (hostArrays.map (· (s.comm comm))) :=
      hf'.sublist (by simp)
    simp only [commFree, if_neg (Heap.ne_zero_of_mem hcomm), StateT.run_bind,
      freeFields_run hostArrays hcomm hfA, pure_bind]
    by_cases hct1 : calls.hostFreeCollTrace = ncclSuccess <;>
      simp_all [FreeCalls.result, FreeCalls.freed, firstFailure]
  -- the bootstrap state
  have hfB := (hf'.sublist (List.sublist_append_left _ _)).append
  have hb : (s.comm comm).bootstrap = 0 ∨ (s.comm comm).bootstrap ∈
      (s.heap.releaseAll ((hostArrays ++ [Comm.peerInfo]).map (· (s.comm comm)))).live :=
    hfB.1 _ (List.mem_singleton_self _)
  rw [commFree_run_head maxChannels calls hcomm
      (hf'.sublist ((List.sublist_append_left _ _).trans (List.sublist_append_left _ _))) hct,
    StateT.run_bind, closeBootstrap_run calls _ hb]
  by_cases hcl : (s.comm comm).bootstrap ≠ 0 ∧ calls.bootstrapClose ≠ ncclSuccess
  · simp [hcl, FreeCalls.result, FreeCalls.freed, hct.1, hct.2, firstFailure,
      Heap.releaseAll_append]
  -- the rest, once the state is closed
  have hfC := hf'.append
  have hcomm3 := hf'.live_after hcomm
  rw [Heap.releaseAll_append] at hfC hcomm3
  have htail := commFreeTail_run maxChannels calls (s := { s with heap :=
    ((s.heap.releaseAll ((hostArrays ++ [Comm.peerInfo]).map (· (s.comm comm)))).releaseAll
      [(s.comm comm).bootstrap]) }) hcomm3 hfC
  have hclose : (if (s.comm comm).bootstrap ≠ 0 then calls.bootstrapClose else ncclSuccess) =
      ncclSuccess := by
    split_ifs with hb0
    · exact not_not.mp fun h => hcl ⟨hb0, h⟩
    · rfl
  simp only [if_neg hcl, pure_bind, ne_eq, not_true_eq_false, if_false]
  rw [htail]
  simp [FreeCalls.result, FreeCalls.freed, hct.1, hct.2, hcl, hclose, Heap.releaseAll_append,
    Heap.releaseAll_cons]

/-- `commFree` of a communicator whose bootstrap state is freed already: once the trace ring is
freed, `bootstrapClose` reads the freed state. -/
theorem commFree_run_bootstrap_dead (maxChannels : Nat) (calls : FreeCalls) {s : Proc}
    {comm : Nat} (hcomm : comm ∈ s.heap.live)
    (hf : Frees s.heap comm ((hostArrays ++ [Comm.peerInfo]).map (· (s.comm comm))))
    (hct : calls.hostFreeCollTrace = ncclSuccess ∧ calls.hostFreeCollTraceTail = ncclSuccess)
    (hb0 : (s.comm comm).bootstrap ≠ 0) (hb : (s.comm comm).bootstrap ∉ s.heap.live) :
    (commFree maxChannels calls comm).run s = throw .undefinedBehaviour := by
  rw [commFree_run_head maxChannels calls hcomm hf hct, StateT.run_bind,
    closeBootstrap_run_dead calls hb0 (by simp [hb])]
  rfl

/-! ## `ncclCommDestroy` -/

/-- Every call `commDestroy` and its `commFree` make succeeds, for the communicator `c`
destroyed from `device`. -/
def DestroyCalls.Succeed (calls : DestroyCalls) (maxChannels : Nat) (device : Int) (c : Comm) :
    Prop :=
  calls.getDevice = true ∧
    (device ≠ c.cudaDev → calls.setDevice c.cudaDev = true ∧ calls.setDevice device = true) ∧
    calls.streamSynchronize = true ∧ calls.proxyDestroy = ncclSuccess ∧
    calls.free.result maxChannels c = ncclSuccess

/-- `commDestroy` when every call succeeds: `commFree` frees the blocks, and the caller's
device is current again. -/
theorem commDestroy_run_succeed (maxChannels : Nat) (calls : DestroyCalls) {s : Proc}
    {comm : Nat} (hcomm : comm ∈ s.heap.live)
    (hf : Frees s.heap comm ((freedFields true).map (· (s.comm comm))))
    (hcalls : calls.Succeed maxChannels s.device (s.comm comm)) :
    (commDestroy maxChannels calls comm).run s = pure (ncclSuccess,
      { s with
        heap := (s.heap.releaseAll
          ((calls.free.freed maxChannels (s.comm comm)).map (· (s.comm comm)))).release comm
        comm := Function.update s.comm comm (s.comm comm).poison }) := by
  obtain ⟨hget, hset, hsync, hproxy, hres⟩ := hcalls
  by_cases hd : s.device = (s.comm comm).cudaDev
  · simp only [commDestroy, StateT.run_bind, readComm_run_live hcomm, pure_bind, hget,
      Bool.not_true, Bool.false_eq_true, if_false, StateT.run_get, hd, ne_eq, not_true_eq_false,
      hsync, hproxy, if_true, not_false_eq_true, commFree_run maxChannels calls.free hcomm hf, hres]
    rfl
  · obtain ⟨hs1, hs2⟩ := hset hd
    simp only [commDestroy, StateT.run_bind, readComm_run_live hcomm, pure_bind, hget,
      Bool.not_true, Bool.false_eq_true, if_false, StateT.run_get, hd, ne_eq, not_false_eq_true,
      if_true, hs1, hs2, StateT.run_modify, hsync, hproxy, not_true_eq_false,
      commFree_run (s := { s with device := (s.comm comm).cudaDev }) maxChannels calls.free hcomm hf,
      hres]
    rfl

/-- `ncclCommDestroy` when every call succeeds: it frees exactly the communicator and the
blocks it owns, and the caller's device is current again. -/
theorem ncclCommDestroy_run_owned (maxChannels : Nat) (calls : DestroyCalls) {s : Proc}
    {comm : Nat} (hown : Owns s comm) (hok : ¬(s.comm comm).poisoned)
    (hcalls : calls.Succeed maxChannels s.device (s.comm comm)) :
    ∃ s', (ncclCommDestroy maxChannels calls comm).run s = .ok (ncclSuccess, s') ∧
      s'.heap.live = s.heap.live \ insert comm ((s.comm comm).released calls.free.isLast).toFinset ∧
      s'.device = s.device ∧ s'.comm comm = (s.comm comm).poison := by
  obtain ⟨hcomm, hf⟩ := hown
  have h0 := Heap.ne_zero_of_mem hcomm
  have h0live : (0 : Nat) ∉ s.heap.live := fun h => Heap.ne_zero_of_mem h rfl
  obtain ⟨hq, hqc, hf1⟩ := hf.cons
  change Frees (s.heap.releaseAll [(s.comm comm).cliqueManager]) comm _ at hf1
  have htcomm : comm ∈ (s.heap.releaseAll [(s.comm comm).cliqueManager]).live := by
    simpa using ⟨hcomm, hqc.symm⟩
  -- `commDestroy` after `delete comm->cliqueManager`
  have hrun := commDestroy_run_succeed
    (s := { s with heap := s.heap.releaseAll [(s.comm comm).cliqueManager] }) maxChannels calls
    htcomm hf1 hcalls
  refine ⟨{ s with
    heap := ((s.heap.releaseAll [(s.comm comm).cliqueManager]).releaseAll
      ((calls.free.freed maxChannels (s.comm comm)).map (· (s.comm comm)))).release comm
    comm := Function.update s.comm comm (s.comm comm).poison }, ?_, ?_, rfl, by simp⟩
  · rcases hq with hq0 | hql
    · simp only [ncclCommDestroy, if_neg h0, StateT.run_bind, readComm_run_live hcomm, pure_bind,
        if_neg hok, hq0, ne_eq, not_true_eq_false, if_false]
      rw [hq0] at hrun
      exact hrun
    · have hq0 := Heap.ne_zero_of_mem hql
      simp only [ncclCommDestroy, if_neg h0, StateT.run_bind, readComm_run_live hcomm, pure_bind,
        if_neg hok, ne_eq, hq0, not_false_eq_true, if_true, hostFree_run_live hql]
      rw [Heap.releaseAll_cons, if_neg hq0, Heap.releaseAll_nil] at hrun ⊢
      exact hrun
  · ext q
    rw [FreeCalls.freed_of_result _ _ _ hcalls.2.2.2.2]
    simp only [Heap.release_live, Heap.releaseAll_live, Finset.mem_erase, Finset.mem_sdiff,
      Finset.mem_insert, List.mem_toFinset, Comm.released, List.mem_cons, List.mem_singleton,
      List.not_mem_nil, or_false, not_or]
    tauto

/-! ## `commAlloc` -/
/-! ## `commAlloc` -/

/-- Every call `commAlloc` makes succeeds, with `doneEvent` the event it creates and `busId` the
id `getBusId` reports. -/
def AllocCalls.Succeed (calls : AllocCalls) (doneEvent : Nat) (busId : Int) : Prop :=
  calls.eventCreate = some doneEvent ∧ (∀ site, calls.calloc site = ncclSuccess) ∧
    calls.getBusId (calls.getDevice.getD 0) = (ncclSuccess, busId)

/-- The communicator `commAlloc` builds in block `p`: its arrays are the next five blocks. -/
def allocatedComm (p : Nat) (ndev rank cudaDev busId : Int) (doneEvent : Nat) : Comm :=
  { Comm.zero with
    rank := rank, nRanks := ndev, cudaDev := cudaDev, busId := busId, doneEvent := doneEvent
    asyncOps := p + 1, connectSend := p + 2, connectRecv := p + 3, p2pSends := p + 4
    p2pRecvs := p + 5 }

theorem commAlloc_run_succeed (calls : AllocCalls) {ndev rank : Int} {doneEvent : Nat}
    {busId : Int} (hndev : 1 ≤ ndev) (hrank : 0 ≤ rank ∧ rank < ndev)
    (hcalls : calls.Succeed doneEvent busId) (s : Proc) :
    ∃ s', (commAlloc calls ndev rank).run s = .ok ((ncclSuccess, some s.heap.next), s') ∧
      s'.heap.live = s.heap.live ∪ Finset.Ico s.heap.next (s.heap.next + 6) ∧
      s'.heap.next = s.heap.next + 6 ∧
      s'.comm s.heap.next = allocatedComm s.heap.next ndev rank (calls.getDevice.getD 0) busId
        doneEvent ∧
      s'.device = s.device ∧ ∀ q < s.heap.next, s'.comm q = s.comm q := by
  obtain ⟨hev, hcal, hbus⟩ := hcalls
  have hn := s.heap.next_not_mem
  simp only [commAlloc, show ¬ndev < 1 by omega, show ¬(rank ≥ ndev ∨ rank < 0) by omega, if_false,
    if_true, hev, hcal, hbus, ne_eq, not_true_eq_false, callocInto, bind_pure_comp, map_pure,
    ite_not, bind_assoc, pure_bind, StateT.run_bind, ncclCalloc_run_success, Heap.calloc_live,
    Finset.mem_insert, true_or, writeComm_run_live, Function.update_same, Function.update_idem,
    StateT.run_map, bind_map_left, StateT.run_pure, Heap.calloc_next, self_eq_add_right,
    one_ne_zero, or_true, not_false_eq_true, Function.update_noteq]
  refine ⟨_, rfl, ?_, by simp only [Heap.calloc_next], ?_, rfl, fun q hq => ?_⟩
  · ext q
    simp only [Heap.calloc_live, Heap.calloc_next, Finset.mem_insert, Finset.mem_union,
      Finset.mem_Ico]
    by_cases hq : q ∈ s.heap.live
    · simp only [hq, or_true, true_or]
    · simp only [hq, or_false, false_or]
      omega
  · simp [Function.update_apply, allocatedComm, Comm.zero, add_assoc]
  · have hk : ∀ k, q = s.heap.next + k ↔ False := fun k => iff_false_intro (by omega)
    simp [Function.update_apply, hk, hq.ne, Nat.add_assoc]

theorem released_allocatedComm (p b : Nat) (ndev rank cudaDev busId : Int) (doneEvent : Nat)
    (isLast : Bool) :
    ({ allocatedComm p ndev rank cudaDev busId doneEvent with bootstrap := b } : Comm).released
      isLast = [0, p + 2, p + 3, p + 4, p + 5, p + 1, 0, b] ++
        if isLast then [0, 0, 0, 0, 0] else [] := by
  cases isLast <;> rfl

/-- The communicator `commAlloc` builds, with a bootstrap state stored in the block after its
arrays or none, owns its five arrays and that state. -/
theorem owns_allocatedComm {s : Proc} {p b : Nat} {ndev rank cudaDev busId : Int}
    {doneEvent : Nat}
    (hcomm : s.comm p = { allocatedComm p ndev rank cudaDev busId doneEvent with bootstrap := b })
    (hblocks : ∀ k < 6, p + k ∈ s.heap.live) (hb : b = 0 ∨ b = p + 6 ∧ b ∈ s.heap.live) :
    Owns s p := by
  have hp : p ≠ 0 := Heap.ne_zero_of_mem (hblocks 0 (by omega))
  refine ⟨hblocks 0 (by omega), ?_, ?_, ?_⟩ <;>
    simp only [hcomm, released_allocatedComm, if_true, List.cons_append, List.nil_append,
      List.mem_cons, List.not_mem_nil, or_false]
  · rintro q (rfl | rfl | rfl | rfl | rfl | rfl | rfl | rfl | rfl | rfl | rfl | rfl | rfl) <;>
      first | exact Or.inl rfl | exact Or.inr (hblocks _ (by omega)) | exact hb.imp_right And.right
  · omega
  · rcases hb with rfl | ⟨rfl, -⟩ <;>
      simp [List.filter, show p + 2 ≠ 0 by omega, show p + 3 ≠ 0 by omega,
        show p + 4 ≠ 0 by omega, show p + 5 ≠ 0 by omega]

/-- Outcomes of `commAlloc`'s calls where each succeeds: event `1` on device `0`, bus id `0`. -/
def AllocCalls.allOk : AllocCalls := ⟨some 1, fun _ => ncclSuccess, some 0, fun _ => (ncclSuccess, 0)⟩

/-- Outcomes of `commFree`'s calls where each succeeds, for the last rank of its process. -/
def FreeCalls.allOk : FreeCalls :=
  ⟨ncclSuccess, ncclSuccess, ncclSuccess, true, true, fun _ => ncclSuccess, true, true, ncclSuccess,
    true, ncclSuccess, ncclSuccess⟩

/-- Outcomes of `commDestroy`'s calls where each succeeds. -/
def DestroyCalls.allOk : DestroyCalls := ⟨true, fun _ => true, true, ncclSuccess, FreeCalls.allOk⟩

/-- `commDestroy`'s calls where `hipFree(comm->devComm)` fails and every other call succeeds. -/
def DestroyCalls.devCommFreeFails : DestroyCalls :=
  { DestroyCalls.allOk with free := { FreeCalls.allOk with hipFreeDevComm := false } }

/-- What `commAlloc` leaves from `Proc.init` for rank `0` of one: the communicator in block `1`
and its arrays in blocks `2` to `6`. -/
def oneRankProc : Proc where
  heap := ⟨{1, 2, 3, 4, 5, 6}, 7, by decide, by decide⟩
  comm := Function.update (fun _ => Comm.zero) 1 (allocatedComm 1 1 0 0 0 1)
  device := 0

theorem owns_oneRankProc : Owns oneRankProc 1 :=
  owns_allocatedComm (b := 0)
    (show oneRankProc.comm 1 = allocatedComm 1 1 0 0 0 1 by simp [oneRankProc]) (by decide)
    (Or.inl rfl)

theorem commQuery_run {α : Type} (field : Comm → α) {s : Proc} {comm out : Nat}
    (hcomm : comm ∈ s.heap.live) (hout : out ≠ 0) :
    (commQuery field comm out).run s = pure ((ncclSuccess, some (field (s.comm comm))), s) := by
  simp [commQuery, ptrCheck, Heap.ne_zero_of_mem hcomm, hout, readComm_run_live hcomm]
/-! ## `commAlloc` frees nothing -/

/-- `s` is `s0` with the blocks from `s0.heap.next` to `s.heap.next` allocated: nothing freed,
no block that was already there written, and the same device. -/
def Grown (s0 s : Proc) : Prop :=
  s0.heap.next ≤ s.heap.next ∧ s.heap.live = s0.heap.live ∪ Finset.Ico s0.heap.next s.heap.next ∧
    (∀ q < s0.heap.next, s.comm q = s0.comm q) ∧ s.device = s0.device

theorem Grown.refl (s : Proc) : Grown s s := ⟨le_rfl, by simp, fun _ _ => rfl, rfl⟩

theorem Grown.calloc {s0 s : Proc} (h : Grown s0 s) :
    Grown s0 { s with heap := s.heap.calloc, comm := Function.update s.comm s.heap.next Comm.zero } := by
  obtain ⟨hle, hlive, hcomm, hdev⟩ := h
  refine ⟨by simp; omega, ?_, fun q hq => ?_, hdev⟩
  · ext q
    by_cases hq : q ∈ s0.heap.live <;> simp [hlive, hq]
    omega
  · exact (Function.update_noteq (by omega : q ≠ s.heap.next) _ _).trans (hcomm q hq)

theorem Grown.write {s0 s : Proc} (h : Grown s0 s) {p : Nat} (hp : s0.heap.next ≤ p) (c : Comm) :
    Grown s0 { s with comm := Function.update s.comm p c } :=
  ⟨h.1, h.2.1, fun q hq => (Function.update_noteq (by omega : q ≠ p) _ _).trans (h.2.2.1 q hq), h.2.2.2⟩

theorem Grown.mem {s0 s : Proc} (h : Grown s0 s) {p : Nat} (hlo : s0.heap.next ≤ p)
    (hhi : p < s.heap.next) : p ∈ s.heap.live := by
  rw [h.2.1]; exact Finset.mem_union_right _ (Finset.mem_Ico.mpr ⟨hlo, hhi⟩)

/-- What holds in `commAlloc` once `*comm` is allocated: the heap has grown from `s0`, and
`comm` is one of the new blocks. -/
def AllocInv (s0 : Proc) (comm : Nat) (s : Proc) : Prop :=
  Grown s0 s ∧ s0.heap.next ≤ comm ∧ comm < s.heap.next

/-- `commAlloc`'s arguments are valid and every call it makes succeeds. -/
def AllocOk (calls : AllocCalls) (ndev rank : Int) : Prop :=
  1 ≤ ndev ∧ (0 ≤ rank ∧ rank < ndev) ∧ ∃ doneEvent busId, calls.Succeed doneEvent busId

/-- What holds at every return of `commAlloc` started in `s0`: the heap has grown, `*comret`
is written, with a live block, exactly when the result is `ncclSuccess`, and that result
means `ok`. -/
def AllocPost (s0 : Proc) (ok : Prop) (r : NcclResult × Option Nat) (s : Proc) : Prop :=
  Grown s0 s ∧ (r.2 = none ↔ r.1 ≠ ncclSuccess) ∧ (∀ p, r.2 = some p → p ∈ s.heap.live) ∧
    (r.1 = ncclSuccess → ok)

section AllocTriples

variable {E : Stuck → Prop} {ok : Prop}

/-- A fact of the precondition that does not mention the state is a hypothesis. -/
theorem exceptTriple_of_and {α : Type} {P : Proc → Prop} {R : Prop} {m : LifeM α}
    {Q : α → Proc → Prop} (h : R → ExceptTriple P m Q E) :
    ExceptTriple (fun s => P s ∧ R) m Q E :=
  fun s hs => h hs.2 s hs.1

theorem ncclCalloc_grown (s0 : Proc) (res : NcclResult) :
    ExceptTriple (Grown s0) (ncclCalloc res) (fun o s => Grown s0 s ∧
      (o = none ↔ res ≠ ncclSuccess) ∧ ∀ p, o = some p → s0.heap.next ≤ p ∧ p < s.heap.next) E := by
  intro s hs
  by_cases hres : res = ncclSuccess
  · subst hres
    simp only [ncclCalloc_run_success]
    exact ⟨hs.calloc, by simp, fun p hp => by cases hp; simp; exact hs.1⟩
  · simp only [ncclCalloc_run_failure hres]
    exact ⟨hs, by simpa using hres, fun _ h => nomatch h⟩

theorem writeComm_allocInv (s0 : Proc) (comm : Nat) (f : Comm → Comm) :
    ExceptTriple (AllocInv s0 comm) (writeComm comm f) (fun _ => AllocInv s0 comm) E :=
  fun s hs => by
    rw [writeComm_run_live f (hs.1.mem hs.2.1 hs.2.2)]
    exact ⟨hs.1.write hs.2.1 _, hs.2⟩

theorem callocInto_allocInv (s0 : Proc) (comm : Nat) (res : NcclResult) (set : Comm → Nat → Comm) :
    ExceptTriple (AllocInv s0 comm) (callocInto comm res set)
      (fun r s => AllocInv s0 comm s ∧ r = res) E := by
  intro s ⟨hg, hlo, hhi⟩
  by_cases hres : res = ncclSuccess
  · subst hres
    have hmem : comm ∈ (s.heap.calloc).live := by simp [hg.mem hlo hhi]
    simp only [callocInto, StateT.run_bind, ncclCalloc_run_success, pure_bind]
    rw [writeComm_run_live (s := { s with heap := s.heap.calloc, comm := _ }) _ hmem]
    exact ⟨⟨hg.calloc.write hlo _, hlo, by simp; omega⟩, rfl⟩
  · simp only [callocInto, StateT.run_bind, ncclCalloc_run_failure hres, pure_bind]
    exact ⟨⟨hg, hlo, hhi⟩, rfl⟩

/-- A return through `NCCLCHECK` or `CUDACHECK`: a failure, and `*comret` untouched. -/
theorem allocPost_failure {P : Proc → Prop} {s0 : Proc} {r : NcclResult} (hr : r ≠ ncclSuccess)
    (hP : ∀ s, P s → Grown s0 s) : ExceptTriple P (pure (r, none)) (AllocPost s0 ok) E :=
  exceptTriple_pure _ fun s hs => ⟨hP s hs, by simpa using hr, fun _ h => (nomatch h), fun h => absurd h hr⟩

/-- One `NCCLCHECK(ncclCalloc(&comm->field, n))` of `commAlloc`, followed by the rest `k`,
which runs only when the allocation succeeds. -/
theorem callocInto_then {s0 : Proc} {comm : Nat} {res : NcclResult} {set : Comm → Nat → Comm}
    {k : LifeM (NcclResult × Option Nat)}
    (hk : res = ncclSuccess → ExceptTriple (AllocInv s0 comm) k (AllocPost s0 ok) E) :
    ExceptTriple (AllocInv s0 comm)
      (callocInto comm res set >>= fun r => if r ≠ ncclSuccess then pure (r, none) else k)
      (AllocPost s0 ok) E :=
  exceptTriple_bind _ (callocInto_allocInv s0 comm res set) fun _ =>
    exceptTriple_ite (fun hr => allocPost_failure hr fun _ h => h.1.1)
      fun hr s hs => hk (hs.2.symm.trans (not_not.mp hr)) s hs.1

/-- Every return of `commAlloc` satisfies `AllocPost`, and it never gets stuck. -/
theorem commAlloc_allocPost (calls : AllocCalls) (ndev rank : Int) (s0 : Proc) :
    ExceptTriple (Grown s0) (commAlloc calls ndev rank) (AllocPost s0 (AllocOk calls ndev rank)) E := by
  dsimp only [commAlloc]
  simp only [pure_bind]
  refine exceptTriple_ite (fun _ => allocPost_failure (by decide) fun _ h => h) fun hndev => ?_
  refine exceptTriple_ite (fun _ => allocPost_failure (by decide) fun _ h => h) fun hrank => ?_
  split
  case h_2 => exact allocPost_failure (by decide) fun _ h => h
  rename_i doneEvent hev
  refine exceptTriple_bind _ (ncclCalloc_grown s0 _) fun o => ?_
  rcases o with _ | comm
  · exact exceptTriple_pure _ fun s hs =>
      ⟨hs.1, by simpa using hs.2.1, fun _ h => (nomatch h), fun h => absurd h (by simpa using hs.2.1)⟩
  -- from here on `*comm` is allocated
  refine (exceptTriple_of_and (P := AllocInv s0 comm) (R := calls.calloc .comm = ncclSuccess)
    fun hcomm => ?_).mono
    (fun s hs => ⟨⟨hs.1, hs.2.2 comm rfl⟩, by simpa using hs.2.1⟩) (fun _ _ h => h) fun _ h => h
  dsimp only
  refine exceptTriple_bind _ (writeComm_allocInv s0 comm _) fun _ => ?_
  refine exceptTriple_ite (fun hr => allocPost_failure hr fun _ h => h.1) fun hbus => ?_
  refine exceptTriple_bind _ (writeComm_allocInv s0 comm _) fun _ => ?_
  refine exceptTriple_bind _ (writeComm_allocInv s0 comm _) fun _ => ?_
  refine exceptTriple_ite (fun hr => allocPost_failure hr fun _ h => h.1) fun habort => ?_
  refine exceptTriple_ite (fun hr => allocPost_failure hr fun _ h => h.1) fun hp2p => ?_
  refine exceptTriple_ite (fun hr => allocPost_failure hr fun _ h => h.1) fun htail => ?_
  refine exceptTriple_ite (fun hr => allocPost_failure hr fun _ h => h.1) fun htrace => ?_
  refine callocInto_then fun hasync => callocInto_then fun hsend => callocInto_then fun hrecv =>
    callocInto_then fun hsends => callocInto_then fun hrecvs => ?_
  refine exceptTriple_pure _ fun s hs => ⟨hs.1, by simp, fun p hp => by
    cases hp; exact hs.1.mem hs.2.1 hs.2.2, fun _ => ⟨by omega, by omega, doneEvent, _, hev,
      fun site => ?_, Prod.ext (not_not.mp hbus) rfl⟩⟩
  cases site <;> simp_all

end AllocTriples

/-- `commAlloc` is never undefined and frees nothing: every return leaves each block it found
live and unwritten, adds only fresh ones, keeps the device, and writes `*comret`, with a live
block, exactly when it returns `ncclSuccess`. A failure after `ncclCalloc(&comm, 1)` therefore
leaves the blocks allocated so far live, with no pointer to them returned. -/
theorem commAlloc_never_frees (calls : AllocCalls) (ndev rank : Int) (s : Proc) :
    ∃ res out s', (commAlloc calls ndev rank).run s = .ok ((res, out), s') ∧
      s.heap.next ≤ s'.heap.next ∧
      s'.heap.live = s.heap.live ∪ Finset.Ico s.heap.next s'.heap.next ∧
      (∀ q < s.heap.next, s'.comm q = s.comm q) ∧ s'.device = s.device ∧
      (out = none ↔ res ≠ ncclSuccess) ∧ ∀ p, out = some p → p ∈ s'.heap.live := by
  have h := commAlloc_allocPost (E := fun _ => False) calls ndev rank s s (Grown.refl s)
  revert h
  rcases (commAlloc calls ndev rank).run s with e | ⟨⟨res, out⟩, s'⟩
  · exact False.elim
  · rintro ⟨⟨hle, hlive, hcomm, hdev⟩, hout, hmem, -⟩
    exact ⟨res, out, s', rfl, hle, hlive, hcomm, hdev, hout, hmem⟩

/-! ## `ncclCommInitRankSync` -/

/-- The cleanup of a live communicator whose bootstrap state, if it holds one, is live:
`bootstrapAbort` frees the state when it succeeds. -/
theorem initRankSyncCleanup_run_live (abortRes r : NcclResult) {s : Proc} {p : Nat}
    (hp : p ∈ s.heap.live) (hb : (s.comm p).bootstrap = 0 ∨ (s.comm p).bootstrap ∈ s.heap.live) :
    (initRankSyncCleanup abortRes p r).run s =
      pure ((r, 0), if (s.comm p).bootstrap ≠ 0 ∧ abortRes = ncclSuccess then
        { s with heap := s.heap.release (s.comm p).bootstrap } else s) := by
  rcases hb with hb | hb
  · simp [initRankSyncCleanup, Heap.ne_zero_of_mem hp, readComm_run_live hp, hb]
  · by_cases ha : abortRes = ncclSuccess <;>
      simp [initRankSyncCleanup, Heap.ne_zero_of_mem hp, readComm_run_live hp,
        Heap.ne_zero_of_mem hb, bootstrapAbort_run_live hb, ha]

section InitRankSync

variable (initTransportsRank : Nat → LifeM NcclResult) (calls : SyncCalls) (newcomm : Nat)
  (nranks myrank cudaDev : Int) {s s1 : Proc}

theorem ncclCommInitRankSyncWith_run_setDevice_failure (hset : calls.hipSetDevice = false) :
    (ncclCommInitRankSyncWith initTransportsRank calls newcomm nranks myrank cudaDev).run s =
      pure ((ncclUnhandledCudaError, newcomm), s) := by
  simp [ncclCommInitRankSyncWith, hset]

/-- When `commAlloc` fails, the cleanup runs on `*newcomm` as the caller left it. -/
theorem ncclCommInitRankSyncWith_run_alloc_failure (hset : calls.hipSetDevice = true)
    {res : NcclResult} {out : Option Nat}
    (halloc : (commAlloc calls.alloc nranks myrank).run { s with device := cudaDev } =
      .ok ((res, out), s1)) (hres : res ≠ ncclSuccess) :
    (ncclCommInitRankSyncWith initTransportsRank calls newcomm nranks myrank cudaDev).run s =
      (initRankSyncCleanup calls.bootstrapAbort (out.getD newcomm) res).run s1 := by
  have halloc' : (commAlloc calls.alloc nranks myrank).run { s with device := cudaDev } =
      pure ((res, out), s1) := halloc
  simp [ncclCommInitRankSyncWith, hset, halloc', hres]

/-- When `commAlloc` succeeds with the communicator `p`, `initTransportsRank` runs on it, and the
first failure of it and `devCommSetup` goes to the cleanup of `p`. -/
theorem ncclCommInitRankSyncWith_run_alloc (hset : calls.hipSetDevice = true) {p : Nat}
    (halloc : (commAlloc calls.alloc nranks myrank).run { s with device := cudaDev } =
      .ok ((ncclSuccess, some p), s1))
    {r : NcclResult} {s2 : Proc} (hinit : (initTransportsRank p).run s1 = .ok (r, s2)) :
    (ncclCommInitRankSyncWith initTransportsRank calls newcomm nranks myrank cudaDev).run s =
      if firstFailure [r, calls.devCommSetup] = ncclSuccess then pure ((ncclSuccess, p), s2)
      else (initRankSyncCleanup calls.bootstrapAbort p (firstFailure [r, calls.devCommSetup])).run
        s2 := by
  have halloc' : (commAlloc calls.alloc nranks myrank).run { s with device := cudaDev } =
      pure ((ncclSuccess, some p), s1) := halloc
  have hinit' : (initTransportsRank p).run s1 = pure (r, s2) := hinit
  simp only [ncclCommInitRankSyncWith, hset, Bool.not_true, Bool.false_eq_true, if_false,
    StateT.run_bind, StateT.run_modify, pure_bind, halloc', Option.getD_some, ne_eq,
    not_true_eq_false, hinit']
  by_cases hr : r = ncclSuccess <;> by_cases hd : calls.devCommSetup = ncclSuccess <;>
    simp [firstFailure, hr, hd]

end InitRankSync

/-! ## `Lifecycle.ncclCommInitRankSync` -/

/-- `initTransportsRank` by its results, on a live communicator. -/
theorem initTransportsRankResult_run (boot rest : NcclResult) {s : Proc} {p : Nat}
    (hp : p ∈ s.heap.live) :
    (initTransportsRankResult boot rest p).run s =
      if boot = ncclSuccess then pure (rest,
        { s with
          heap := s.heap.calloc
          comm := Function.update (Function.update s.comm s.heap.next Comm.zero) p
            { s.comm p with bootstrap := s.heap.next } })
      else pure (boot, s) := by
  by_cases hboot : boot = ncclSuccess
  · subst hboot
    simp [initTransportsRankResult, bootstrapInit, callocInto_run_success hp]
  · simp [initTransportsRankResult, bootstrapInit, callocInto_run_failure hboot, hboot]

/-- `Lifecycle.ncclCommInitRankSync` when `hipSetDevice` and every call of `commAlloc` succeed.
The communicator is block `s.heap.next`, its arrays the next five, and the bootstrap state, when
`bootstrapInit` succeeds, the block after them. It returns the first failure of
`bootstrapInit`, the rest of `initTransportsRank` and `devCommSetup`, with `*newcomm = NULL`
and the bootstrap state freed when `bootstrapAbort` succeeds; or `ncclSuccess` and the
communicator. -/
theorem ncclCommInitRankSync_run_alloc (calls : SyncCalls) (newcomm : Nat) (cudaDev : Int)
    {nranks myrank : Int} {doneEvent : Nat} {busId : Int} (s : Proc)
    (hset : calls.hipSetDevice = true) (hnranks : 1 ≤ nranks)
    (hrank : 0 ≤ myrank ∧ myrank < nranks) (halloc : calls.alloc.Succeed doneEvent busId) :
    let res := firstFailure [calls.bootstrapInit, calls.initTransportsRank, calls.devCommSetup]
    ∃ s', (Lifecycle.ncclCommInitRankSync calls newcomm nranks myrank cudaDev).run s =
        .ok ((res, if res = ncclSuccess then s.heap.next else 0), s') ∧
      s'.heap.live = s.heap.live ∪ Finset.Ico s.heap.next (s.heap.next +
        if calls.bootstrapInit = ncclSuccess ∧
          (res = ncclSuccess ∨ calls.bootstrapAbort ≠ ncclSuccess) then 7 else 6) ∧
      s'.comm s.heap.next =
        { allocatedComm s.heap.next nranks myrank (calls.alloc.getDevice.getD 0) busId doneEvent with
          bootstrap := if calls.bootstrapInit = ncclSuccess then s.heap.next + 6 else 0 } ∧
      s'.device = cudaDev ∧ ∀ q < s.heap.next, s'.comm q = s.comm q := by
  intro res
  obtain ⟨s1, hrun, hlive1, hnext1, hcomm1, hdev1, hframe1⟩ :=
    commAlloc_run_succeed calls.alloc hnranks hrank halloc { s with device := cudaDev }
  dsimp only at hrun hlive1 hnext1 hcomm1 hdev1 hframe1
  have hp : s.heap.next ∈ s1.heap.live := by rw [hlive1]; simp
  have hinit := initTransportsRankResult_run calls.bootstrapInit calls.initTransportsRank hp
  by_cases hboot : calls.bootstrapInit = ncclSuccess
  swap
  · -- no bootstrap state to abort
    rw [if_neg hboot] at hinit
    have hres : res = calls.bootstrapInit := firstFailure_cons_of_ne hboot _
    rw [Lifecycle.ncclCommInitRankSync,
      ncclCommInitRankSyncWith_run_alloc _ _ _ _ _ _ hset hrun hinit,
      firstFailure_cons_of_ne hboot, if_neg hboot,
      initRankSyncCleanup_run_live _ _ hp (Or.inl (by rw [hcomm1]; rfl))]
    refine ⟨s1, ?_, ?_, ?_, hdev1, hframe1⟩
    · simp [hres, hboot, hcomm1, allocatedComm, Comm.zero]; rfl
    · simp [hlive1, hboot]
    · simp [hcomm1, hboot, allocatedComm, Comm.zero]
  -- the bootstrap state is block `s.heap.next + 6`
  rw [if_pos hboot] at hinit
  have hne : s.heap.next ≠ s1.heap.next := by omega
  have hb : s1.heap.next ∈ s1.heap.calloc.live := by simp
  have hlive2 : s1.heap.calloc.live = s.heap.live ∪ Finset.Ico s.heap.next (s.heap.next + 7) := by
    ext q
    simp only [Heap.calloc_live, Finset.mem_insert, hlive1, hnext1, Finset.mem_union,
      Finset.mem_Ico]
    by_cases hq : q ∈ s.heap.live
    · simp only [hq, true_or, or_true]
    · simp only [hq, false_or]
      omega
  have hframe2 : ∀ q < s.heap.next, Function.update (Function.update s1.comm s1.heap.next Comm.zero)
      s.heap.next { s1.comm s.heap.next with bootstrap := s1.heap.next } q = s.comm q := fun q hq => by
    rw [Function.update_noteq (by omega), Function.update_noteq (by omega), hframe1 q hq]
  have hres : res = firstFailure [calls.initTransportsRank, calls.devCommSetup] := by
    simp only [res, hboot, firstFailure_cons_success]
  have hp2 : s.heap.next ∈ s1.heap.calloc.live := by simp [hp]
  have hclean := initRankSyncCleanup_run_live calls.bootstrapAbort res (p := s.heap.next)
    (s := { s1 with
      heap := s1.heap.calloc
      comm := Function.update (Function.update s1.comm s1.heap.next Comm.zero) s.heap.next
        { s1.comm s.heap.next with bootstrap := s1.heap.next } }) hp2 (Or.inr (by simp))
  simp only [Function.update_same, ne_eq, show s1.heap.next ≠ 0 by omega, not_false_eq_true,
    true_and] at hclean
  rw [Lifecycle.ncclCommInitRankSync,
    ncclCommInitRankSyncWith_run_alloc _ _ _ _ _ _ hset hrun hinit, ← hres]
  by_cases hok : res = ncclSuccess
  · -- every call succeeds
    simp only [if_pos hok]
    rw [hok]
    exact ⟨_, rfl, by simpa [hboot] using hlive2, by simp [hcomm1, hboot, hnext1], hdev1,
      hframe2⟩
  · -- the cleanup aborts the bootstrap state
    simp only [if_neg hok, hclean]
    refine ⟨_, rfl, ?_, ?_, ?_, ?_⟩ <;> by_cases ha : calls.bootstrapAbort = ncclSuccess
    · have hfresh : s.heap.next + 6 ∉ s.heap.live := fun h => by
        have := (s.heap.bounded _ h).2; omega
      simp [ha, hok, hboot, Finset.erase_insert s1.heap.next_not_mem, hlive1, hnext1, hfresh]
    · simpa [ha, hok, hboot] using hlive2
    all_goals simp only [ha, if_true, if_false]
    · simp [hcomm1, hboot, hnext1]
    · simp [hcomm1, hboot, hnext1]
    · exact hdev1
    · exact hdev1
    · exact hframe2
    · exact hframe2

/-- `ncclCommInitRankSync`'s calls where each succeeds. -/
def SyncCalls.allOk : SyncCalls :=
  ⟨true, AllocCalls.allOk, ncclSuccess, ncclSuccess, ncclSuccess, ncclSuccess⟩

/-- When `commAlloc` succeeds and `bootstrapInit`, the rest of `initTransportsRank` or
`devCommSetup` fails, `ncclCommInitRankSync` returns the first of these failures and sets
`*newcomm = NULL`. Its cleanup frees the bootstrap state when `bootstrapInit` stored one and
`bootstrapAbort` succeeds, and nothing else: the six blocks `commAlloc` allocated stay live
with no pointer to them left, as does the bootstrap state when `bootstrapAbort` fails, and the
device `hipSetDevice` selected stays current. -/
theorem ncclCommInitRankSync_failure_leaks (calls : SyncCalls) (newcomm : Nat)
    {nranks myrank cudaDev : Int} {doneEvent : Nat} {busId : Int} (s : Proc)
    (hset : calls.hipSetDevice = true) (hnranks : 1 ≤ nranks) (hrank : 0 ≤ myrank ∧ myrank < nranks)
    (halloc : calls.alloc.Succeed doneEvent busId)
    (hfail : firstFailure [calls.bootstrapInit, calls.initTransportsRank, calls.devCommSetup] ≠
      ncclSuccess) :
    ∃ s', (Lifecycle.ncclCommInitRankSync calls newcomm nranks myrank cudaDev).run s =
        .ok ((firstFailure [calls.bootstrapInit, calls.initTransportsRank, calls.devCommSetup], 0),
          s') ∧
      s'.heap.live = s.heap.live ∪ Finset.Ico s.heap.next (s.heap.next +
        if calls.bootstrapInit = ncclSuccess ∧ calls.bootstrapAbort ≠ ncclSuccess then 7 else 6) ∧
      s'.device = cudaDev := by
  obtain ⟨s', hrun, hlive, -, hdev, -⟩ :=
    ncclCommInitRankSync_run_alloc calls newcomm cudaDev s hset hnranks hrank halloc
  simp only [hfail, if_false, false_or] at hrun hlive
  exact ⟨s', hrun, hlive, hdev⟩

theorem ncclCommInitRankSync_failure_leaks_one_rank :
    AllocCalls.allOk.Succeed 1 0 ∧
      firstFailure [ncclSuccess, ncclInternalError, ncclSuccess] ≠ ncclSuccess ∧
      ∃ s', (Lifecycle.ncclCommInitRankSync { SyncCalls.allOk with
          initTransportsRank := ncclInternalError } 0 1 0 0).run Proc.init =
          .ok ((firstFailure [ncclSuccess, ncclInternalError, ncclSuccess], 0), s') ∧
        s'.heap.live = Proc.init.heap.live ∪ Finset.Ico Proc.init.heap.next (Proc.init.heap.next +
          if ncclSuccess = ncclSuccess ∧ ncclSuccess ≠ ncclSuccess then 7 else 6) ∧
        s'.device = 0 :=
  have halloc : AllocCalls.allOk.Succeed 1 0 := ⟨rfl, fun _ => rfl, rfl⟩
  ⟨halloc, by decide, ncclCommInitRankSync_failure_leaks _ 0 Proc.init rfl (by decide) (by decide)
    halloc (by decide)⟩

/-- When `*newcomm` holds a communicator freed earlier, `ncclCommInitRankSync` is undefined
exactly when `hipSetDevice` succeeds and `commAlloc` fails: `commAlloc` then leaves
`*newcomm` as it was, and the cleanup reads `(*newcomm)->bootstrap`. -/
theorem ncclCommInitRankSync_stale_newcomm (calls : SyncCalls) {newcomm : Nat}
    (nranks myrank cudaDev : Int) {s : Proc} (h0 : newcomm ≠ 0) (hdead : newcomm ∉ s.heap.live)
    (hfreed : newcomm < s.heap.next) :
    (Lifecycle.ncclCommInitRankSync calls newcomm nranks myrank cudaDev).run s =
        .error .undefinedBehaviour ↔
      calls.hipSetDevice = true ∧ ∀ r s', (commAlloc calls.alloc nranks myrank).run
        { s with device := cudaDev } = .ok (r, s') → r.1 ≠ ncclSuccess := by
  cases hset : calls.hipSetDevice
  · simp [Lifecycle.ncclCommInitRankSync, ncclCommInitRankSyncWith_run_setDevice_failure _ _ _ _ _ _ hset]
  have hpost := commAlloc_allocPost (E := fun _ => False) calls.alloc nranks myrank
    { s with device := cudaDev } _ (Grown.refl _)
  revert hpost
  rcases hrun : (commAlloc calls.alloc nranks myrank).run { s with device := cudaDev } with
    e | ⟨⟨res, out⟩, s1⟩
  · exact False.elim
  rintro ⟨⟨-, hlive, -, -⟩, hout, -, hok⟩
  dsimp only at hlive hout hok
  have hfails : (∀ r s', (Except.ok ((res, out), s1) : Except Stuck _) = Except.ok (r, s') →
      r.1 ≠ ncclSuccess) ↔
      res ≠ ncclSuccess := ⟨fun h => h _ _ rfl, by rintro h r s' ⟨⟩; exact h⟩
  simp only [true_and, hfails]
  by_cases hres : res = ncclSuccess
  · -- `commAlloc` succeeds: every path is defined
    obtain ⟨hndev, hrank, doneEvent, busId, hcalls⟩ := hok hres
    obtain ⟨s', hrun', -⟩ :=
      ncclCommInitRankSync_run_alloc calls newcomm cudaDev s hset hndev hrank hcalls
    simp [hrun', hres]
  · -- `commAlloc` fails: `*newcomm` still holds the freed block
    have hdead1 : newcomm ∉ s1.heap.live := by
      rw [hlive]; simp only [Finset.mem_union, Finset.mem_Ico, not_or, not_and, not_lt]
      exact ⟨hdead, fun h => absurd hfreed (not_lt.mpr h)⟩
    rw [Lifecycle.ncclCommInitRankSync,
      ncclCommInitRankSyncWith_run_alloc_failure _ _ _ _ _ _ hset hrun hres, hout.mpr hres]
    simp [initRankSyncCleanup, h0, hres, readComm_bind_dead hdead1]
    rfl

theorem ncclCommInitRankSync_stale_newcomm_after_free :
    (1 ≠ 0 ∧ 1 ∉ Proc.afterFree.heap.live ∧ 1 < Proc.afterFree.heap.next) ∧
      ((Lifecycle.ncclCommInitRankSync { SyncCalls.allOk with
          alloc := { AllocCalls.allOk with eventCreate := none } } 1 1 0 0).run Proc.afterFree =
          .error .undefinedBehaviour ↔
        true = true ∧ ∀ r s', (commAlloc { AllocCalls.allOk with eventCreate := none } 1 0).run
          { Proc.afterFree with device := 0 } = .ok (r, s') → r.1 ≠ ncclSuccess) :=
  ⟨⟨by decide, by simp [Proc.afterFree], by decide⟩,
    ncclCommInitRankSync_stale_newcomm _ 1 0 0 (by decide) (by simp [Proc.afterFree]) (by decide)⟩

/-! ## After `ncclCommDestroy` -/

theorem ncclCommDestroy_run_dead (maxChannels : Nat) (calls : DestroyCalls) {s : Proc} {comm : Nat}
    (h0 : comm ≠ 0) (hdead : comm ∉ s.heap.live) :
    (ncclCommDestroy maxChannels calls comm).run s = throw .undefinedBehaviour := by
  simp only [ncclCommDestroy, h0, if_false, pure_bind, readComm_bind_dead hdead]

theorem ncclCommAbort_run_dead {s : Proc} {comm : Nat} (h0 : comm ≠ 0) (hdead : comm ∉ s.heap.live) :
    (ncclCommAbort comm).run s = throw .undefinedBehaviour := by
  simp only [ncclCommAbort, h0, if_false, pure_bind, readComm_bind_dead hdead]

theorem commQuery_run_dead {α : Type} (field : Comm → α) {s : Proc} {comm out : Nat}
    (h0 : comm ≠ 0) (hdead : comm ∉ s.heap.live) (hout : out ≠ 0) :
    (commQuery field comm out).run s = throw .undefinedBehaviour := by
  simp [commQuery, ptrCheck, h0, hout, readComm_run_dead hdead]; rfl

/-- A destroyed communicator is gone: when every call succeeds, `ncclCommDestroy` frees exactly
the communicator and the blocks it owns and makes the caller's device current again, and every
later `ncclCommDestroy`, `ncclCommAbort` or query of it is undefined. The marks `commPoison`
leaves, which line 1252 tests, are therefore never read by a defined call. -/
theorem ncclCommDestroy_frees_owned (maxChannels : Nat) (calls : DestroyCalls) {s : Proc}
    {comm : Nat} (hown : Owns s comm) (hok : ¬(s.comm comm).poisoned)
    (hcalls : calls.Succeed maxChannels s.device (s.comm comm)) :
    ∃ s', (ncclCommDestroy maxChannels calls comm).run s = .ok (ncclSuccess, s') ∧
      s'.heap.live = s.heap.live \ insert comm ((s.comm comm).released calls.free.isLast).toFinset ∧
      s'.device = s.device ∧
      (∀ calls', (ncclCommDestroy maxChannels calls' comm).run s' = throw .undefinedBehaviour) ∧
      (ncclCommAbort comm).run s' = throw .undefinedBehaviour ∧
      ∀ {α : Type} (field : Comm → α) (out : Nat), out ≠ 0 →
        (commQuery field comm out).run s' = throw .undefinedBehaviour := by
  obtain ⟨s', hrun, hlive, hdev, -⟩ := ncclCommDestroy_run_owned maxChannels calls hown hok hcalls
  have h0 := Heap.ne_zero_of_mem hown.1
  have hdead : comm ∉ s'.heap.live := by simp [hlive]
  exact ⟨s', hrun, hlive, hdev, fun _ => ncclCommDestroy_run_dead _ _ h0 hdead,
    ncclCommAbort_run_dead h0 hdead, fun field _ hout => commQuery_run_dead field h0 hdead hout⟩

theorem ncclCommDestroy_frees_owned_one_rank :
    Owns oneRankProc 1 ∧ ¬(oneRankProc.comm 1).poisoned ∧
      DestroyCalls.allOk.Succeed 0 oneRankProc.device (oneRankProc.comm 1) ∧
      ∃ s', (ncclCommDestroy 0 DestroyCalls.allOk 1).run oneRankProc = .ok (ncclSuccess, s') ∧
        s'.heap.live = oneRankProc.heap.live \
          insert 1 ((oneRankProc.comm 1).released FreeCalls.allOk.isLast).toFinset ∧
        s'.device = oneRankProc.device ∧
        (∀ calls', (ncclCommDestroy 0 calls' 1).run s' = throw .undefinedBehaviour) ∧
        (ncclCommAbort 1).run s' = throw .undefinedBehaviour ∧
        ∀ {α : Type} (field : Comm → α) (out : Nat), out ≠ 0 →
          (commQuery field 1 out).run s' = throw .undefinedBehaviour :=
  have hok : ¬(oneRankProc.comm 1).poisoned := by decide
  have hcalls : DestroyCalls.allOk.Succeed 0 oneRankProc.device (oneRankProc.comm 1) :=
    ⟨rfl, fun h => absurd rfl h, rfl, rfl, rfl⟩
  ⟨owns_oneRankProc, hok, hcalls,
    ncclCommDestroy_frees_owned 0 DestroyCalls.allOk owns_oneRankProc hok hcalls⟩

/-! ## A failed `ncclCommDestroy` cannot be retried -/

/-- Every call `commDestroy` makes before `commFree` succeeds, for a communicator on
`commDevice` destroyed from `device`. -/
def DestroyCalls.ReachFree (calls : DestroyCalls) (device commDevice : Int) : Prop :=
  calls.getDevice = true ∧ (device ≠ commDevice → calls.setDevice commDevice = true) ∧
    calls.streamSynchronize = true ∧ calls.proxyDestroy = ncclSuccess

/-- `ncclCommDestroy` of a live communicator that `commPoison` has not marked: `delete
comm->cliqueManager`, then `commDestroy`. -/
theorem ncclCommDestroy_run_live (maxChannels : Nat) (calls : DestroyCalls) {s : Proc} {comm : Nat}
    (hcomm : comm ∈ s.heap.live) (hok : ¬(s.comm comm).poisoned)
    (hq : (s.comm comm).cliqueManager = 0 ∨ (s.comm comm).cliqueManager ∈ s.heap.live) :
    (ncclCommDestroy maxChannels calls comm).run s = (commDestroy maxChannels calls comm).run
      { s with heap := s.heap.releaseAll [(s.comm comm).cliqueManager] } := by
  simp only [ncclCommDestroy, if_neg (Heap.ne_zero_of_mem hcomm), StateT.run_bind,
    readComm_run_live hcomm, pure_bind, if_neg hok]
  rcases hq with hq0 | hql
  · simp only [hq0, ne_eq, not_true_eq_false, if_false]; rfl
  · simp only [ne_eq, Heap.ne_zero_of_mem hql, not_false_eq_true, if_true, StateT.run_bind,
      hostFree_run_live hql, pure_bind, Heap.releaseAll_cons, if_false, Heap.releaseAll_nil]

/-- Past its checks, `commDestroy` returns what a failed `commFree` on the communicator's device
returns, with the device left switched. -/
theorem commDestroy_run_free_fails (maxChannels : Nat) (calls : DestroyCalls) {s s' : Proc}
    {comm : Nat} {r : NcclResult} (hcomm : comm ∈ s.heap.live)
    (hreach : calls.ReachFree s.device (s.comm comm).cudaDev)
    (hfree : (commFree maxChannels calls.free comm).run { s with device := (s.comm comm).cudaDev } =
      pure (r, s')) (hr : r ≠ ncclSuccess) :
    (commDestroy maxChannels calls comm).run s = pure (r, s') := by
  obtain ⟨hget, hset, hsync, hproxy⟩ := hreach
  by_cases hd : s.device = (s.comm comm).cudaDev
  · rw [← hd] at hfree
    simp only [commDestroy, StateT.run_bind, readComm_run_live hcomm, pure_bind, hget,
      Bool.not_true, Bool.false_eq_true, if_false, StateT.run_get, hd, ne_eq, not_true_eq_false,
      hsync, hproxy]
    rw [show s = { s with device := s.device } from rfl, hfree]
    simp [hr]
  · simp only [commDestroy, StateT.run_bind, readComm_run_live hcomm, pure_bind, hget,
      Bool.not_true, Bool.false_eq_true, if_false, StateT.run_get, hd, ne_eq, not_false_eq_true,
      if_true, hset hd, StateT.run_modify, hsync, hproxy, not_true_eq_false, hfree]
    simp [hr]

/-- Past its checks, `commDestroy` is undefined when its `commFree` is. -/
theorem commDestroy_run_free_stuck (maxChannels : Nat) (calls : DestroyCalls) {s : Proc}
    {comm : Nat} (hcomm : comm ∈ s.heap.live) (hreach : calls.ReachFree s.device (s.comm comm).cudaDev)
    (hfree : (commFree maxChannels calls.free comm).run { s with device := (s.comm comm).cudaDev } =
      throw .undefinedBehaviour) :
    (commDestroy maxChannels calls comm).run s = throw .undefinedBehaviour := by
  obtain ⟨hget, hset, hsync, hproxy⟩ := hreach
  by_cases hd : s.device = (s.comm comm).cudaDev
  · rw [← hd] at hfree
    simp only [commDestroy, StateT.run_bind, readComm_run_live hcomm, pure_bind, hget,
      Bool.not_true, Bool.false_eq_true, if_false, StateT.run_get, hd, ne_eq, not_true_eq_false,
      hsync, hproxy]
    rw [show s = { s with device := s.device } from rfl, hfree]; rfl
  · simp only [commDestroy, StateT.run_bind, readComm_run_live hcomm, pure_bind, hget,
      Bool.not_true, Bool.false_eq_true, if_false, StateT.run_get, hd, ne_eq, not_false_eq_true,
      if_true, hset hd, StateT.run_modify, hsync, hproxy, not_true_eq_false, hfree]; rfl

/-- `commFree` of a communicator whose host arrays are freed already, one not `NULL`. -/
theorem commFree_run_stuck (maxChannels : Nat) (calls : FreeCalls) {s : Proc} {comm : Nat}
    (hcomm : comm ∈ s.heap.live) (hdead : ∀ f ∈ hostArrays, f (s.comm comm) ∉ s.heap.live)
    (hne : ∃ f ∈ hostArrays, f (s.comm comm) ≠ 0) :
    (commFree maxChannels calls comm).run s = throw .undefinedBehaviour := by
  simp only [commFree, if_neg (Heap.ne_zero_of_mem hcomm), pure_bind, StateT.run_bind,
    freeFields_run_stuck hostArrays hcomm hdead hne]; rfl

/-- A communicator whose `CliqueManager` and host arrays are freed already, one of them not
`NULL`: a `ncclCommDestroy` that gets as far as `commFree` frees one a second time. -/
theorem ncclCommDestroy_run_freed_blocks (maxChannels : Nat) (calls : DestroyCalls) {s : Proc}
    {comm : Nat} (hcomm : comm ∈ s.heap.live) (hok : ¬(s.comm comm).poisoned)
    (hreach : calls.ReachFree s.device (s.comm comm).cudaDev)
    (hq : (s.comm comm).cliqueManager ∉ s.heap.live)
    (hdead : ∀ f ∈ hostArrays, f (s.comm comm) ∉ s.heap.live)
    (hblock : (s.comm comm).cliqueManager ≠ 0 ∨ ∃ f ∈ hostArrays, f (s.comm comm) ≠ 0) :
    (ncclCommDestroy maxChannels calls comm).run s = throw .undefinedBehaviour := by
  by_cases hq0 : (s.comm comm).cliqueManager = 0
  · -- `free` of the first host array that is not `NULL`
    rw [ncclCommDestroy_run_live maxChannels calls hcomm hok (Or.inl hq0)]
    simp only [hq0, Heap.releaseAll_cons, if_true, Heap.releaseAll_nil]
    exact commDestroy_run_free_stuck maxChannels calls hcomm hreach
      (commFree_run_stuck maxChannels calls.free hcomm hdead (hblock.resolve_left (not_not.mpr hq0)))
  · -- `delete comm->cliqueManager`
    simp only [ncclCommDestroy, if_neg (Heap.ne_zero_of_mem hcomm), StateT.run_bind,
      readComm_run_live hcomm, pure_bind, if_neg hok, ne_eq, hq0, not_false_eq_true, if_true,
      hostFree_run_dead hq0 hq]
    rfl

/-- A failed `ncclCommDestroy` cannot be retried. When `commFree` fails after its first frees,
`ncclCommDestroy` returns that failure and leaves the communicator live and unmarked by
`commPoison`, with its `CliqueManager`, its host arrays and whatever else `commFree` freed
before the failure already freed, and the communicator's device current. A retry that gets as
far as `commFree` then frees again the first of those blocks that is not `NULL`: the
`CliqueManager` (line 1258) or a host array (lines 272-276), which is undefined. -/
theorem ncclCommDestroy_retry_double_free (maxChannels : Nat) (calls : DestroyCalls) {s : Proc}
    {comm : Nat} (hown : Owns s comm) (hok : ¬(s.comm comm).poisoned)
    (hreach : calls.ReachFree s.device (s.comm comm).cudaDev)
    (hfail : calls.free.result maxChannels (s.comm comm) ≠ ncclSuccess)
    (hblock : (s.comm comm).cliqueManager ≠ 0 ∨ ∃ f ∈ hostArrays, f (s.comm comm) ≠ 0) :
    ∃ s', (ncclCommDestroy maxChannels calls comm).run s =
        .ok (calls.free.result maxChannels (s.comm comm), s') ∧
      comm ∈ s'.heap.live ∧ s'.comm comm = s.comm comm ∧ ¬(s'.comm comm).poisoned ∧
      s'.heap.live = s.heap.live \ ((s.comm comm).cliqueManager ::
        (calls.free.freed maxChannels (s.comm comm)).map (· (s.comm comm))).toFinset ∧
      s'.device = (s.comm comm).cudaDev ∧
      ∀ calls' : DestroyCalls, calls'.ReachFree s'.device (s.comm comm).cudaDev →
        (ncclCommDestroy maxChannels calls' comm).run s' = throw .undefinedBehaviour := by
  obtain ⟨hcomm, hf⟩ := hown
  obtain ⟨hq, hqc, hf1⟩ := hf.cons
  change Frees (s.heap.releaseAll [(s.comm comm).cliqueManager]) comm _ at hf1
  have hcomm1 : comm ∈ (s.heap.releaseAll [(s.comm comm).cliqueManager]).live := by
    simpa using ⟨hcomm, hqc.symm⟩
  -- the first `ncclCommDestroy` returns the failure of `commFree`
  have hfree := commFree_run maxChannels calls.free (s := { s with
      heap := s.heap.releaseAll [(s.comm comm).cliqueManager]
      device := (s.comm comm).cudaDev }) hcomm1 hf1
  dsimp only at hfree
  rw [if_neg hfail] at hfree
  have hrun := commDestroy_run_free_fails maxChannels calls
    (s := { s with heap := s.heap.releaseAll [(s.comm comm).cliqueManager] }) hcomm1 hreach hfree hfail
  rw [← ncclCommDestroy_run_live maxChannels calls hcomm hok hq] at hrun
  have hsub := (calls.free.freed_sublist maxChannels (s.comm comm)).map (· (s.comm comm))
  have hcomm2 : comm ∈ ((s.heap.releaseAll [(s.comm comm).cliqueManager]).releaseAll
      ((calls.free.freed maxChannels (s.comm comm)).map (· (s.comm comm)))).live := by
    rw [Heap.releaseAll_live, Finset.mem_sdiff, List.mem_toFinset]
    exact ⟨hcomm1, fun hm => hf1.2.1 (hsub.subset hm)⟩
  refine ⟨_, hrun, hcomm2, rfl, hok, ?_, rfl, fun calls' hreach' => ?_⟩
  · rw [← Heap.releaseAll_append, Heap.releaseAll_live]
    rfl
  -- the retry, from the state the first one left
  refine ncclCommDestroy_run_freed_blocks maxChannels calls' hcomm2 hok hreach' (by simp)
    (fun f hf => ?_) hblock
  simp only [Heap.releaseAll_live, Finset.mem_sdiff, List.mem_toFinset, List.mem_map,
    FreeCalls.freed, List.mem_append, not_and, not_not]
  exact fun _ => ⟨f, Or.inl hf, rfl⟩

theorem ncclCommDestroy_retry_double_free_devComm :
    DestroyCalls.devCommFreeFails.ReachFree oneRankProc.device (oneRankProc.comm 1).cudaDev ∧
      DestroyCalls.devCommFreeFails.free.result 0 (oneRankProc.comm 1) ≠ ncclSuccess ∧
      ∃ s', (ncclCommDestroy 0 DestroyCalls.devCommFreeFails 1).run oneRankProc =
          .ok (DestroyCalls.devCommFreeFails.free.result 0 (oneRankProc.comm 1), s') ∧
        1 ∈ s'.heap.live ∧ s'.comm 1 = oneRankProc.comm 1 ∧ ¬(s'.comm 1).poisoned ∧
        s'.heap.live = oneRankProc.heap.live \ ((oneRankProc.comm 1).cliqueManager ::
          (DestroyCalls.devCommFreeFails.free.freed 0 (oneRankProc.comm 1)).map
            (· (oneRankProc.comm 1))).toFinset ∧
        s'.device = (oneRankProc.comm 1).cudaDev ∧
        ∀ calls' : DestroyCalls, calls'.ReachFree s'.device (oneRankProc.comm 1).cudaDev →
          (ncclCommDestroy 0 calls' 1).run s' = throw .undefinedBehaviour :=
  have hreach : DestroyCalls.devCommFreeFails.ReachFree oneRankProc.device
      (oneRankProc.comm 1).cudaDev := ⟨rfl, fun h => absurd rfl h, rfl, rfl⟩
  have hfail : DestroyCalls.devCommFreeFails.free.result 0 (oneRankProc.comm 1) ≠ ncclSuccess := by
    decide
  ⟨hreach, hfail, ncclCommDestroy_retry_double_free 0 _ owns_oneRankProc (by decide) hreach hfail
    (Or.inr ⟨Comm.connectSend, by simp [hostArrays], by decide⟩)⟩

/-! ## The cleanup of `ncclCommInitRankSync` and a held communicator -/

/-- `ncclCommInitRankSync` with `*newcomm` holding a live communicator that has a bootstrap
state: when `commAlloc` fails, the cleanup of line 1151 aborts that communicator's state, and
frees it when `bootstrapAbort` succeeds, while the communicator stays live and untouched.
`ncclCommDestroy` of it, once it gets as far as `commFree` and frees the trace ring, then closes
the freed state again (line 329), which is undefined. -/
theorem ncclCommInitRankSync_aborts_held_bootstrap (calls : SyncCalls) (maxChannels : Nat)
    (dcalls : DestroyCalls) {comm : Nat} (nranks myrank cudaDev : Int) {s : Proc}
    (hown : Owns s comm) (hok : ¬(s.comm comm).poisoned) (hb : (s.comm comm).bootstrap ≠ 0)
    (hset : calls.hipSetDevice = true)
    (hfail : ∀ r s', (commAlloc calls.alloc nranks myrank).run { s with device := cudaDev } =
      .ok (r, s') → r.1 ≠ ncclSuccess)
    (habort : calls.bootstrapAbort = ncclSuccess)
    (hreach : dcalls.ReachFree cudaDev (s.comm comm).cudaDev)
    (hct : dcalls.free.hostFreeCollTrace = ncclSuccess ∧
      dcalls.free.hostFreeCollTraceTail = ncclSuccess) :
    ∃ res s', (Lifecycle.ncclCommInitRankSync calls comm nranks myrank cudaDev).run s =
        .ok ((res, 0), s') ∧ res ≠ ncclSuccess ∧
      comm ∈ s'.heap.live ∧ s'.comm comm = s.comm comm ∧
      (s.comm comm).bootstrap ∉ s'.heap.live ∧
      (ncclCommDestroy maxChannels dcalls comm).run s' = throw .undefinedBehaviour := by
  obtain ⟨hcomm, hf⟩ := hown
  obtain ⟨res, out, s1, hrun, -, hlive1, hframe1, hdev1, hout, -⟩ :=
    commAlloc_never_frees calls.alloc nranks myrank { s with device := cudaDev }
  dsimp only at hlive1 hframe1 hdev1
  have hres : res ≠ ncclSuccess := hfail _ _ hrun
  have hsub : s.heap.live ⊆ s1.heap.live := by rw [hlive1]; exact Finset.subset_union_left
  have hc1 : s1.comm comm = s.comm comm := hframe1 comm (s.heap.bounded comm hcomm).2
  -- the bootstrap state is none of the blocks `ncclCommDestroy` frees before it
  have hf' : Frees s.heap comm (((s.comm comm).cliqueManager ::
      (hostArrays ++ [Comm.peerInfo]).map (· (s.comm comm))) ++
      ((s.comm comm).bootstrap :: intraObjects.map (· (s.comm comm)))) := by
    simpa [Comm.released, freedFields] using hf
  have hbl : (s.comm comm).bootstrap ∈ s.heap.live ∧ (s.comm comm).bootstrap ∉
      (s.comm comm).cliqueManager :: (hostArrays ++ [Comm.peerInfo]).map (· (s.comm comm)) := by
    simpa [List.mem_toFinset] using hf'.append.cons.1.resolve_left hb
  have hbc : (s.comm comm).bootstrap ≠ comm := fun h => hf.2.1 (by simp [Comm.released, freedFields, h])
  -- the cleanup aborts the state
  rw [Lifecycle.ncclCommInitRankSync,
    ncclCommInitRankSyncWith_run_alloc_failure _ _ _ _ _ _ hset hrun hres, hout.mpr hres,
    Option.getD_none, initRankSyncCleanup_run_live _ _ (hsub hcomm) (Or.inr (hc1 ▸ hsub hbl.1))]
  simp only [hc1, ne_eq, hb, not_false_eq_true, habort, and_self, if_true]
  have hcomm2 : comm ∈ (s1.heap.release (s.comm comm).bootstrap).live :=
    Finset.mem_erase.mpr ⟨Ne.symm hbc, hsub hcomm⟩
  refine ⟨res, _, rfl, hres, hcomm2, hc1, by simp, ?_⟩
  -- `delete comm->cliqueManager`, then `commDestroy` reaches `bootstrapClose`
  obtain ⟨hq, hqc, hfA⟩ := (hf'.sublist (List.sublist_append_left _ _)).cons
  change Frees (s.heap.releaseAll [(s.comm comm).cliqueManager]) comm _ at hfA
  have hqb : (s.comm comm).cliqueManager ≠ (s.comm comm).bootstrap :=
    fun h => hbl.2 (h ▸ List.mem_cons_self _ _)
  have hq2 : (s.comm comm).cliqueManager = 0 ∨
      (s.comm comm).cliqueManager ∈ (s1.heap.release (s.comm comm).bootstrap).live :=
    hq.imp_right fun h => Finset.mem_erase.mpr ⟨hqb, hsub h⟩
  rw [ncclCommDestroy_run_live maxChannels dcalls hcomm2 (by simpa [hc1] using hok)
    (by simpa [hc1] using hq2)]
  have hcomm3 : comm ∈ ((s1.heap.release (s.comm comm).bootstrap).releaseAll
      [(s.comm comm).cliqueManager]).live := by simpa using ⟨⟨Ne.symm hbc, hsub hcomm⟩, hqc.symm⟩
  refine commDestroy_run_free_stuck maxChannels dcalls (by simpa [hc1] using hcomm3)
    (by simpa [hc1, hdev1] using hreach) (commFree_run_bootstrap_dead maxChannels dcalls.free
      (by simpa [hc1] using hcomm3) ?_ hct (by simpa [hc1] using hb) (by simp [hc1]))
  simp only [hc1]
  refine hfA.of_live fun p hp hpl => ?_
  have hpb : p ≠ (s.comm comm).bootstrap := fun h => hbl.2 (List.mem_cons_of_mem _ (h ▸ hp))
  simp only [Heap.releaseAll_live, Finset.mem_sdiff, List.mem_toFinset, List.mem_singleton] at hpl ⊢
  exact ⟨Finset.mem_erase.mpr ⟨hpb, hsub hpl.1⟩, hpl.2⟩

/-- What `ncclCommInitRankSync` leaves from `Proc.init` for rank `0` of one when every call
succeeds: the communicator in block `1`, its arrays in blocks `2` to `6` and its bootstrap state
in block `7`. -/
def initRankProc : Proc where
  heap := ⟨{1, 2, 3, 4, 5, 6, 7}, 8, by decide, by decide⟩
  comm := Function.update (fun _ => Comm.zero) 1 { allocatedComm 1 1 0 0 0 1 with bootstrap := 7 }
  device := 0

/-- `commAlloc`'s calls where `hipEventCreateWithFlags` fails. -/
def AllocCalls.noEvent : AllocCalls := { AllocCalls.allOk with eventCreate := none }

theorem ncclCommInitRankSync_aborts_held_bootstrap_reused :
    Owns initRankProc 1 ∧ ¬(initRankProc.comm 1).poisoned ∧ (initRankProc.comm 1).bootstrap ≠ 0 ∧
      (∀ r s', (commAlloc AllocCalls.noEvent 1 0).run { initRankProc with device := 0 } =
        .ok (r, s') → r.1 ≠ ncclSuccess) ∧
      DestroyCalls.allOk.ReachFree 0 (initRankProc.comm 1).cudaDev ∧
      ∃ res s', (Lifecycle.ncclCommInitRankSync { SyncCalls.allOk with alloc := AllocCalls.noEvent }
          1 1 0 0).run initRankProc = .ok ((res, 0), s') ∧ res ≠ ncclSuccess ∧
        1 ∈ s'.heap.live ∧ s'.comm 1 = initRankProc.comm 1 ∧
        (initRankProc.comm 1).bootstrap ∉ s'.heap.live ∧
        (ncclCommDestroy 0 DestroyCalls.allOk 1).run s' = throw .undefinedBehaviour :=
  have hown : Owns initRankProc 1 := owns_allocatedComm
    (show initRankProc.comm 1 = { allocatedComm 1 1 0 0 0 1 with bootstrap := 7 } by
      simp [initRankProc]) (by decide) (Or.inr ⟨rfl, by decide⟩)
  have hfail : ∀ r s', (commAlloc AllocCalls.noEvent 1 0).run { initRankProc with device := 0 } =
      .ok (r, s') → r.1 ≠ ncclSuccess := by
    rintro r s' h
    cases h
    decide
  have hreach : DestroyCalls.allOk.ReachFree 0 (initRankProc.comm 1).cudaDev :=
    ⟨rfl, fun h => absurd rfl h, rfl, rfl⟩
  ⟨hown, by decide, by decide, hfail, hreach,
    ncclCommInitRankSync_aborts_held_bootstrap _ 0 DestroyCalls.allOk 1 0 0 hown (by decide)
      (by decide) rfl hfail rfl hreach ⟨rfl, rfl⟩⟩

end RcclInit
