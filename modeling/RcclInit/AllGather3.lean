import RcclInit.AllGather1

/-!
# After AllGather3: reconciliation and the node table

Before AllGather3 each rank has searched its own tree, ring and collective-network graphs;
the results may differ from rank to rank. Each rank publishes its channel count, `gcn`,
the `ncclGraphInfo` of each graph and its `topoRanks` (`publishAllGather3`), and after the
exchange every rank holds the same array.

The reconciliation loop (`reconcile`) folds `std::min` over the array into the rank's own
values: `comm->nChannels` (and the tree and ring counts with it), `gcn`, and five fields of
each graph (`NcclTopoGraph.alignWith`, the one definition behind lines 993-1007). The
accumulators start from the rank's own published values, or from entry 0 for `gcn`, so each
ends at the least value published (`reconcile_field_isLeast`), and all ranks agree
(`reconciliation_rank_independent`), whichever rank holds the minimum.

The node table (`determineNodes`) scans the first ring rank each rank published. Its loop
invariant `NodeInv` ties the table after `i` entries to `firstOccurrences` of the first `i`
values. After the whole array the table lists the distinct values in order of first
occurrence, every store is in bounds, each node's tree pattern is the one published by the
lowest rank of that node, and `comm->node` is the position of the rank's own value
(`determineNodes_spec`).
-/

set_option autoImplicit false

namespace RcclInit

/-! ## What every rank publishes -/

/-- `struct ncclGraphInfo`: the part of a graph that AllGather3 carries. The speeds are
`float` in the code; here they range over a linear order `F`, so no NaN. -/
structure NcclGraphInfo (F : Type) where
  pattern : Int
  sameChannels : Int
  speedIntra : F
  speedInter : F
  typeIntra : Int
  typeInter : Int
  deriving DecidableEq, Repr

/-- The fields of `struct ncclTopoGraph` that `initTransportsRank` reads or writes after the
search. `intra` lists the ranks of each channel inside the node, `inter` its network
interfaces. -/
structure NcclTopoGraph (F : Type) where
  pattern : Int
  nChannels : Int
  sameChannels : Int
  speedIntra : F
  speedInter : F
  typeIntra : Int
  typeInter : Int
  intra : List Int
  inter : List Int
  deriving DecidableEq, Repr

/-- `struct ncclTopoRanks`; only `ringRecv[0]`, the first rank of the ring, is read here. -/
structure NcclTopoRanks where
  ringRecv : List Int
  deriving DecidableEq, Repr

/-- One element of AllGather3, with the fields the code sets and reads. -/
structure AllGather3Data (F : Type) where
  nChannels : Int
  gcn : Int
  tree : NcclGraphInfo F
  ring : NcclGraphInfo F
  collNet : NcclGraphInfo F
  topoRanks : NcclTopoRanks
  deriving DecidableEq, Repr

/-- What a rank holds when it publishes: `gcn` of its GPU, its three graphs as the search
left them, and the `topoRanks` that `ncclTopoPreset` filled. -/
structure RankGraphs (F : Type) where
  gcn : Int
  treeGraph : NcclTopoGraph F
  ringGraph : NcclTopoGraph F
  collNetGraph : NcclTopoGraph F
  topoRanks : NcclTopoRanks
  deriving DecidableEq, Repr

/-- The `ncclGraphInfo` of a graph, lines 942-959. -/
def NcclTopoGraph.info {F : Type} (g : NcclTopoGraph F) : NcclGraphInfo F :=
  ⟨g.pattern, g.sameChannels, g.speedIntra, g.speedInter, g.typeIntra, g.typeInter⟩

/-- The five fields that reconciliation aligns. -/
def NcclTopoGraph.aligned {F : Type} (g : NcclTopoGraph F) : Int × F × F × Int × Int :=
  (g.sameChannels, g.speedIntra, g.speedInter, g.typeIntra, g.typeInter)

section Reconciliation

variable {F : Type} [LinearOrder F]

/-- Lines 937-961: the channel count is cut to the smaller of the tree's and the ring's,
then published with `gcn`, the graphs' infos and `topoRanks`. The other components are
`comm->nChannels` and the tree and ring graphs with that count. -/
def publishAllGather3 (g : RankGraphs F) :
    AllGather3Data F × Int × NcclTopoGraph F × NcclTopoGraph F :=
  let nChannels := stdMin g.treeGraph.nChannels g.ringGraph.nChannels
  let treeGraph := { g.treeGraph with nChannels := nChannels }
  let ringGraph := { g.ringGraph with nChannels := nChannels }
  (⟨nChannels, g.gcn, treeGraph.info, ringGraph.info, g.collNetGraph.info, g.topoRanks⟩,
    nChannels, treeGraph, ringGraph)

/-! ## Reconciliation -/

/-- The values the loop of lines 984-1008 updates. -/
structure Reconciled (F : Type) where
  gcn : Int
  nChannels : Int
  treeGraph : NcclTopoGraph F
  ringGraph : NcclTopoGraph F
  collNetGraph : NcclTopoGraph F
  deriving DecidableEq, Repr

/-- The values reconciliation makes equal on every rank. -/
def Reconciled.agreed (rc : Reconciled F) :
    Int × Int × (Int × F × F × Int × Int) × (Int × F × F × Int × Int) × (Int × F × F × Int × Int) :=
  (rc.nChannels, rc.gcn, rc.treeGraph.aligned, rc.ringGraph.aligned, rc.collNetGraph.aligned)

/-- Lines 993-997 for the tree graph, and their copies 998-1002 for the ring and
1003-1007 for the collective-network graph: each aligned field becomes the smaller of the
published value and the rank's own. -/
def NcclTopoGraph.alignWith (g : NcclTopoGraph F) (info : NcclGraphInfo F) : NcclTopoGraph F :=
  { g with
    sameChannels := stdMin info.sameChannels g.sameChannels
    speedIntra := stdMin info.speedIntra g.speedIntra
    speedInter := stdMin info.speedInter g.speedInter
    typeIntra := stdMin info.typeIntra g.typeIntra
    typeInter := stdMin info.typeInter g.typeInter }

/-- One iteration of the loop of lines 988-1008, at a gathered entry. -/
def reconcileStep (st : Reconciled F) (e : AllGather3Data F) : Reconciled F :=
  let nChannels := stdMin e.nChannels st.nChannels
  { gcn := stdMin e.gcn st.gcn
    nChannels := nChannels
    treeGraph := { st.treeGraph.alignWith e.tree with nChannels := nChannels }
    ringGraph := { st.ringGraph.alignWith e.ring with nChannels := nChannels }
    collNetGraph := st.collNetGraph.alignWith e.collNet }

/-- The loop of lines 984-1008: `gcn` starts from entry 0, the channel count and the graphs
from the rank's own. The loop index only selects the entry. -/
def reconcile (allGather3Data : List (AllGather3Data F)) (nChannels : Int)
    (treeGraph ringGraph collNetGraph : NcclTopoGraph F) : Reconciled F :=
  allGather3Data.foldl reconcileStep
    ⟨(allGather3Data.map (·.gcn)).headD 0, nChannels, treeGraph, ringGraph, collNetGraph⟩

/-- Publication, the exchange's result, then reconciliation, on one rank. -/
def reconcileFrom (allGather3Data : List (AllGather3Data F)) (g : RankGraphs F) : Reconciled F :=
  let (_, nChannels, treeGraph, ringGraph) := publishAllGather3 g
  reconcile allGather3Data nChannels treeGraph ringGraph g.collNetGraph

/-- The five aligned fields of `g` hold the least values published under `sel`. -/
structure AlignedToLeast (allGather3Data : List (AllGather3Data F))
    (sel : AllGather3Data F → NcclGraphInfo F) (g : NcclTopoGraph F) : Prop where
  sameChannels : IsLeast {v | ∃ e ∈ allGather3Data, (sel e).sameChannels = v} g.sameChannels
  speedIntra : IsLeast {v | ∃ e ∈ allGather3Data, (sel e).speedIntra = v} g.speedIntra
  speedInter : IsLeast {v | ∃ e ∈ allGather3Data, (sel e).speedInter = v} g.speedInter
  typeIntra : IsLeast {v | ∃ e ∈ allGather3Data, (sel e).typeIntra = v} g.typeIntra
  typeInter : IsLeast {v | ∃ e ∈ allGather3Data, (sel e).typeInter = v} g.typeInter

/-- Two graphs aligned to the least published values agree on the aligned fields. -/
theorem AlignedToLeast.aligned_eq {a : List (AllGather3Data F)}
    {sel : AllGather3Data F → NcclGraphInfo F} {g g' : NcclTopoGraph F}
    (h : AlignedToLeast a sel g) (h' : AlignedToLeast a sel g') : g.aligned = g'.aligned := by
  simp only [NcclTopoGraph.aligned, h.sameChannels.unique h'.sameChannels,
    h.speedIntra.unique h'.speedIntra, h.speedInter.unique h'.speedInter,
    h.typeIntra.unique h'.typeIntra, h.typeInter.unique h'.typeInter]

/-- **Each reconciled field ends at the least published value**, for any field whose
iteration is a `std::min` with the entry and whose start is the rank's own published
value. -/
theorem reconcile_field_isLeast {α : Type} [LinearOrder α] (proj : Reconciled F → α)
    (pub : AllGather3Data F → α) (hstep : ∀ st e, proj (reconcileStep st e) = stdMin (pub e) (proj st))
    (a : List (AllGather3Data F)) (st : Reconciled F) (hown : ∃ e ∈ a, pub e = proj st) :
    IsLeast {v | ∃ e ∈ a, pub e = v} (proj (a.foldl reconcileStep st)) := by
  rw [← List.foldl_hom proj reconcileStep (fun m e => stdMin (pub e) m) a st
    (fun x y => (hstep x y).symm)]
  exact foldl_stdMin_isLeast pub a _ hown

theorem reconcile_nChannels_synced (a : List (AllGather3Data F)) (st : Reconciled F)
    (ht : st.treeGraph.nChannels = st.nChannels) (hr : st.ringGraph.nChannels = st.nChannels) :
    (a.foldl reconcileStep st).treeGraph.nChannels = (a.foldl reconcileStep st).nChannels ∧
      (a.foldl reconcileStep st).ringGraph.nChannels = (a.foldl reconcileStep st).nChannels := by
  induction a generalizing st with
  | nil => exact ⟨ht, hr⟩
  | cons e a ih => exact ih (reconcileStep st e) rfl rfl

/-- The state the loop starts from, after publishing. -/
def reconcileStart (a : List (AllGather3Data F)) (g : RankGraphs F) : Reconciled F :=
  ⟨(a.map (·.gcn)).headD 0, (publishAllGather3 g).2.1, (publishAllGather3 g).2.2.1,
    (publishAllGather3 g).2.2.2, g.collNetGraph⟩

theorem reconcileFrom_eq (a : List (AllGather3Data F)) (g : RankGraphs F) :
    reconcileFrom a g = a.foldl reconcileStep (reconcileStart a g) := rfl

/-- A graph aligned over the array from a start that some entry published ends aligned to
the least values. -/
theorem alignedToLeast_of_start (a : List (AllGather3Data F)) (st : Reconciled F)
    (proj : Reconciled F → NcclTopoGraph F) (sel : AllGather3Data F → NcclGraphInfo F)
    (hstep : ∀ st e, (proj (reconcileStep st e)).aligned = ((proj st).alignWith (sel e)).aligned)
    (hown : ∃ e ∈ a, sel e = (proj st).info) :
    AlignedToLeast a sel (proj (a.foldl reconcileStep st)) := by
  obtain ⟨e, he, hinfo⟩ := hown
  have hfield : ∀ {α : Type} [LinearOrder α] (fp : NcclTopoGraph F → α)
      (fi : NcclGraphInfo F → α), (∀ st e, fp (proj (reconcileStep st e)) =
        stdMin (fi (sel e)) (fp (proj st))) → fi (sel e) = fp (proj st) →
      IsLeast {v | ∃ e ∈ a, fi (sel e) = v} (fp (proj (a.foldl reconcileStep st))) :=
    fun fp fi hs hi => reconcile_field_isLeast (fun st => fp (proj st)) (fun e => fi (sel e)) hs a st
      ⟨e, he, hi⟩
  refine ⟨hfield (·.sameChannels) (·.sameChannels) (fun st e => congrArg (·.1) (hstep st e))
      (by rw [hinfo]; rfl),
    hfield (·.speedIntra) (·.speedIntra) (fun st e => congrArg (·.2.1) (hstep st e))
      (by rw [hinfo]; rfl),
    hfield (·.speedInter) (·.speedInter) (fun st e => congrArg (·.2.2.1) (hstep st e))
      (by rw [hinfo]; rfl),
    hfield (·.typeIntra) (·.typeIntra) (fun st e => congrArg (·.2.2.2.1) (hstep st e))
      (by rw [hinfo]; rfl),
    hfield (·.typeInter) (·.typeInter) (fun st e => congrArg (·.2.2.2.2) (hstep st e))
      (by rw [hinfo]; rfl)⟩

/-- **What one rank's reconciliation computes.** When the rank's own publication is among
the gathered entries, the channel count (with the tree's and the ring's), `gcn` and every
aligned field end at the least published value. -/
theorem reconcileFrom_spec (a : List (AllGather3Data F)) (g : RankGraphs F)
    (hown : (publishAllGather3 g).1 ∈ a) :
    IsLeast {v | ∃ e ∈ a, e.nChannels = v} (reconcileFrom a g).nChannels ∧
      (reconcileFrom a g).treeGraph.nChannels = (reconcileFrom a g).nChannels ∧
      (reconcileFrom a g).ringGraph.nChannels = (reconcileFrom a g).nChannels ∧
      AlignedToLeast a (·.tree) (reconcileFrom a g).treeGraph ∧
      AlignedToLeast a (·.ring) (reconcileFrom a g).ringGraph ∧
      AlignedToLeast a (·.collNet) (reconcileFrom a g).collNetGraph ∧
      IsLeast {v | ∃ e ∈ a, e.gcn = v} (reconcileFrom a g).gcn := by
  rw [reconcileFrom_eq]
  have hhead : ∃ e ∈ a, e.gcn = (reconcileStart a g).gcn := by
    cases a with
    | nil => simp at hown
    | cons e a => exact ⟨e, List.mem_cons_self e a, rfl⟩
  obtain ⟨ht, hr⟩ := reconcile_nChannels_synced a (reconcileStart a g) rfl rfl
  exact ⟨reconcile_field_isLeast (·.nChannels) (·.nChannels) (fun _ _ => rfl) a _ ⟨_, hown, rfl⟩,
    ht, hr,
    alignedToLeast_of_start a _ (·.treeGraph) (·.tree) (fun _ _ => rfl) ⟨_, hown, rfl⟩,
    alignedToLeast_of_start a _ (·.ringGraph) (·.ring) (fun _ _ => rfl) ⟨_, hown, rfl⟩,
    alignedToLeast_of_start a _ (·.collNetGraph) (·.collNet) (fun _ _ => rfl) ⟨_, hown, rfl⟩,
    reconcile_field_isLeast (·.gcn) (·.gcn) (fun _ _ => rfl) a _ hhead⟩

/-- **Every reduction over the gathered arrays is rank-independent.** On a rank whose own
entries are in the arrays: the minimum and maximum compute capability and the capped host
count of AllGather1 are those of the whole array; the reconciled channel count (which the
tree and ring graphs share), `gcn` and the five aligned fields of each graph are the least
values published in AllGather3; the channel count is at most the rank's own counts and
every rank's published count; and any other rank computes the same values. -/
theorem reconciliation_rank_independent (a1 : List AllGather1Data)
    (a3 : List (AllGather3Data F)) (r : Nat) (g : RankGraphs F) (hr : r < a1.length)
    (hown : a3[r]? = some (publishAllGather3 g).1) :
    IsLeast {v | ∃ e ∈ a1, e.cudaCompCap = v} (allGather1Scan a1 r).minCompCap ∧
    IsGreatest {v | ∃ e ∈ a1, e.cudaCompCap = v} (allGather1Scan a1 r).maxCompCap ∧
    (allGather1Scan a1 r).tmpNnodes = min 3 (a1.map (·.peerInfo.hostHash)).toFinset.card ∧
    IsLeast {v | ∃ e ∈ a3, e.nChannels = v} (reconcileFrom a3 g).nChannels ∧
    (reconcileFrom a3 g).treeGraph.nChannels = (reconcileFrom a3 g).nChannels ∧
    (reconcileFrom a3 g).ringGraph.nChannels = (reconcileFrom a3 g).nChannels ∧
    AlignedToLeast a3 (·.tree) (reconcileFrom a3 g).treeGraph ∧
    AlignedToLeast a3 (·.ring) (reconcileFrom a3 g).ringGraph ∧
    AlignedToLeast a3 (·.collNet) (reconcileFrom a3 g).collNetGraph ∧
    IsLeast {v | ∃ e ∈ a3, e.gcn = v} (reconcileFrom a3 g).gcn ∧
    (reconcileFrom a3 g).nChannels ≤ g.treeGraph.nChannels ∧
    (reconcileFrom a3 g).nChannels ≤ g.ringGraph.nChannels ∧
    (∀ e ∈ a3, (reconcileFrom a3 g).nChannels ≤ e.nChannels) ∧
    (∀ r' < a1.length, ∀ g' : RankGraphs F, a3[r']? = some (publishAllGather3 g').1 →
      (allGather1Scan a1 r').minCompCap = (allGather1Scan a1 r).minCompCap ∧
      (allGather1Scan a1 r').maxCompCap = (allGather1Scan a1 r).maxCompCap ∧
      (allGather1Scan a1 r').tmpNnodes = (allGather1Scan a1 r).tmpNnodes ∧
      (reconcileFrom a3 g').agreed = (reconcileFrom a3 g).agreed) := by
  obtain ⟨hn, ht, hrg, htree, hring, hcoll, hgcn⟩ :=
    reconcileFrom_spec a3 g (List.getElem?_mem hown)
  have hlow : (reconcileFrom a3 g).nChannels ≤ (publishAllGather3 g).2.1 :=
    hn.2 ⟨_, List.getElem?_mem hown, rfl⟩
  have hpub : (publishAllGather3 g).2.1 = min g.treeGraph.nChannels g.ringGraph.nChannels :=
    stdMin_eq_min _ _
  refine ⟨allGather1Scan_minCompCap hr, allGather1Scan_maxCompCap hr,
    allGather1Scan_tmpNnodes hr, hn, ht, hrg, htree, hring, hcoll, hgcn,
    hlow.trans (hpub ▸ min_le_left _ _), hlow.trans (hpub ▸ min_le_right _ _),
    fun e he => hn.2 ⟨e, he, rfl⟩, fun r' hr' g' hown' => ?_⟩
  obtain ⟨hn', -, -, htree', hring', hcoll', hgcn'⟩ :=
    reconcileFrom_spec a3 g' (List.getElem?_mem hown')
  refine ⟨(allGather1Scan_minCompCap hr').unique (allGather1Scan_minCompCap hr),
    (allGather1Scan_maxCompCap hr').unique (allGather1Scan_maxCompCap hr),
    (allGather1Scan_tmpNnodes hr').trans (allGather1Scan_tmpNnodes hr).symm, ?_⟩
  simp only [Reconciled.agreed, hn'.unique hn, hgcn'.unique hgcn, htree'.aligned_eq htree,
    hring'.aligned_eq hring, hcoll'.aligned_eq hcoll]

/-- A rank whose tree search found more channels than its ring search. -/
def wideTreeGraphs : RankGraphs Int :=
  ⟨4, ⟨1, 4, 1, 20, 10, 2, 3, [], []⟩, ⟨4, 2, 1, 24, 12, 2, 3, [], []⟩,
    ⟨5, 2, 0, 30, 15, 1, 3, [], []⟩, ⟨[0]⟩⟩

/-- A rank with three channels in both searches and slower links. -/
def narrowLinkGraphs : RankGraphs Int :=
  ⟨3, ⟨1, 3, 1, 12, 8, 2, 2, [], []⟩, ⟨4, 3, 1, 12, 8, 2, 2, [], []⟩,
    ⟨5, 1, 1, 18, 9, 2, 2, [], []⟩, ⟨[0]⟩⟩

def twoRankPeers : List AllGather1Data :=
  [⟨⟨7, 1, 3⟩, 11, 90⟩, ⟨⟨7, 2, 4⟩, 12, 94⟩]

def twoRankAllGather3 : List (AllGather3Data Int) :=
  [(publishAllGather3 wideTreeGraphs).1, (publishAllGather3 narrowLinkGraphs).1]

theorem reconciliation_two_ranks :
    0 < twoRankPeers.length ∧ twoRankAllGather3[0]? = some (publishAllGather3 wideTreeGraphs).1 ∧
      (reconcileFrom twoRankAllGather3 narrowLinkGraphs).agreed =
        (reconcileFrom twoRankAllGather3 wideTreeGraphs).agreed :=
  ⟨by decide, rfl, ((reconciliation_rank_independent twoRankPeers twoRankAllGather3 0
    wideTreeGraphs (by decide) rfl).2.2.2.2.2.2.2.2.2.2.2.2.2 1 (by decide) narrowLinkGraphs
    rfl).2.2.2⟩

end Reconciliation

/-! ## The node table -/

section Nodes

variable {F : Type}

/-- The first ring rank each rank published, `allGather3Data[i].topoRanks.ringRecv[0]`. -/
def firstRanks (allGather3Data : List (AllGather3Data F)) : List Int :=
  allGather3Data.map (·.topoRanks.ringRecv.getD 0 0)

/-- The tree pattern each rank published, `allGather3Data[i].tree.pattern`. -/
def treePatterns (allGather3Data : List (AllGather3Data F)) : List Int :=
  allGather3Data.map (·.tree.pattern)

/-- `comm->nNodes`, the `nranks`-element arrays `nodesFirstRank` and `nodesTreePatterns`,
and `comm->node`. -/
structure NodeTable where
  nNodes : Nat
  nodesFirstRank : List Int
  nodesTreePatterns : List Int
  node : Int
  deriving DecidableEq, Repr

/-- Before the loop: `comm->nNodes` and `comm->node` as `commAlloc` zeroed them, and the two
arrays as `ncclCalloc` returned them. -/
def NodeTable.start (nranks : Nat) : NodeTable :=
  ⟨0, List.replicate nranks 0, List.replicate nranks 0, 0⟩

/-- Lines 972-974: the last `n < nNodes` with `nodesFirstRank[n] == firstRank`, else `-1`. -/
def findNode (nodesFirstRank : List Int) (nNodes : Nat) (firstRank : Int) : Int :=
  (List.range nNodes).foldl
    (fun node n => if nodesFirstRank.getD n 0 = firstRank then (n : Int) else node) (-1)

/-- One iteration of the loop of lines 969-982, at entry `i`; `none` when a store is out of
bounds. -/
def nodeStep (allGather3Data : List (AllGather3Data F)) (rank : Nat) (t : NodeTable) (i : Nat) :
    Option NodeTable :=
  let firstRank := (firstRanks allGather3Data).getD i 0
  let node := findNode t.nodesFirstRank t.nNodes firstRank
  if node = -1 then do
    let nodesFirstRank ← store t.nodesFirstRank t.nNodes firstRank
    let nodesTreePatterns ←
      store t.nodesTreePatterns t.nNodes ((treePatterns allGather3Data).getD i 0)
    pure ⟨t.nNodes + 1, nodesFirstRank, nodesTreePatterns, if i = rank then t.nNodes else t.node⟩
  else pure { t with node := if i = rank then node else t.node }

/-- The loop of lines 965-982 on rank `rank`. -/
def determineNodes (allGather3Data : List (AllGather3Data F)) (rank : Nat) : Option NodeTable :=
  (List.range allGather3Data.length).foldlM (nodeStep allGather3Data rank)
    (NodeTable.start allGather3Data.length)

/-- The search of lines 972-974 over a table whose first entries have no repetition finds
the position of the value, or `-1`. -/
theorem findNode_eq (P Z : List Int) (hP : P.Nodup) (v : Int) :
    findNode (P ++ Z) P.length v = if v ∈ P then (P.indexOf v : Int) else -1 := by
  have key := foldl_range_invariant
    (fun j node => node = if v ∈ P.take j then (P.indexOf v : Int) else -1)
    (fun node n => if (P ++ Z).getD n 0 = v then (n : Int) else node) (-1) P.length
    (by simp) fun j node hj h => by
      have hget : (P ++ Z).getD j 0 = P[j] := by
        rw [List.getD_eq_getElem?_getD, List.getElem?_append_left hj, List.getElem?_eq_getElem hj]
        rfl
      dsimp only at h ⊢
      rw [hget, ← List.take_concat_get' P j hj]
      simp only [List.mem_append, List.mem_singleton]
      by_cases hv : P[j] = v
      · subst hv; simp [List.indexOf_getElem hP]
      · simp only [hv, if_false, h, Ne.symm hv, or_false]
  dsimp only at key
  rwa [List.take_length] at key

/-- The position of a value whose first occurrence is at `i`. -/
theorem indexOf_of_first {α : Type} [DecidableEq α] (l : List α) (i : Nat) (hi : i < l.length)
    (hnew : l[i] ∉ l.take i) : l.indexOf l[i] = i := by
  generalize hx : l[i] = x at hnew
  rw [← List.take_append_drop i l, List.indexOf_append_of_not_mem hnew,
    List.drop_eq_getElem_cons hi, hx, List.indexOf_cons_self, List.length_take,
    min_eq_left hi.le, Nat.add_zero]

/-- What the loop's locals hold after the first `i` entries. -/
structure NodeInv (a : List (AllGather3Data F)) (rank i : Nat) (t : NodeTable) : Prop where
  nNodes : t.nNodes = (firstOccurrences ((firstRanks a).take i)).length
  nodesFirstRank : t.nodesFirstRank =
    firstOccurrences ((firstRanks a).take i) ++ List.replicate (a.length - t.nNodes) 0
  nodesTreePatterns : t.nodesTreePatterns =
    (firstOccurrences ((firstRanks a).take i)).map
      (fun v => (treePatterns a).getD ((firstRanks a).indexOf v) 0) ++
      List.replicate (a.length - t.nNodes) 0
  node : t.node = if rank < i then
    ((firstOccurrences ((firstRanks a).take i)).indexOf ((firstRanks a).getD rank 0) : Int) else 0

@[simp] theorem length_firstRanks (a : List (AllGather3Data F)) : (firstRanks a).length = a.length :=
  List.length_map _ _

/-- Storing just past a prefix whose tail is still zeroed extends the prefix. -/
theorem set_append_replicate {α : Type} (P : List α) (m : Nat) (z x : α) (hm : P.length < m) :
    (P ++ List.replicate (m - P.length) z).set P.length x =
      P ++ [x] ++ List.replicate (m - (P.length + 1)) z := by
  obtain ⟨k, hk⟩ : ∃ k, m - P.length = k + 1 := ⟨m - P.length - 1, by omega⟩
  rw [hk, show m - (P.length + 1) = k by omega, List.replicate_succ,
    List.set_append_right _ _ le_rfl, Nat.sub_self]
  simp

theorem nodeInv_start (a : List (AllGather3Data F)) (rank : Nat) :
    NodeInv a rank 0 (NodeTable.start a.length) where
  nNodes := rfl
  nodesFirstRank := rfl
  nodesTreePatterns := rfl
  node := by simp [NodeTable.start]

/-- An entry below `i` is among the first `i`. -/
theorem getD_mem_take {l : List Int} {r i : Nat} (hr : r < i) (hi : i ≤ l.length) :
    l.getD r 0 ∈ l.take i := by
  rw [List.getD_eq_getElem?_getD, List.getElem?_eq_getElem (by omega)]
  exact List.mem_iff_getElem.mpr ⟨r, by simp; omega, by simp⟩

/-- The update of `comm->node` at entry `i` keeps it the position of the rank's own first
ring rank among the nodes found so far, when the new node list extends the old one. -/
theorem node_update {P P' fr : List Int} {rank i : Nat} {node : Int}
    (hnode : node = if rank < i then (P.indexOf (fr.getD rank 0) : Int) else 0)
    (hmem : rank < i → fr.getD rank 0 ∈ P) (hpre : ∀ v ∈ P, P'.indexOf v = P.indexOf v) :
    (if i = rank then (P'.indexOf (fr.getD i 0) : Int) else node) =
      if rank < i + 1 then (P'.indexOf (fr.getD rank 0) : Int) else 0 := by
  by_cases hir : i = rank
  · subst hir; simp
  · rw [if_neg hir, hnode]
    by_cases hlt : rank < i
    · rw [if_pos hlt, if_pos (by omega), hpre _ (hmem hlt)]
    · rw [if_neg hlt, if_neg (by omega)]

/-- **One iteration keeps the node-table invariant, and its stores are in bounds.** -/
theorem nodeInv_step {a : List (AllGather3Data F)} {rank i : Nat} {t : NodeTable}
    (hi : i < a.length) (h : NodeInv a rank i t) :
    ∃ t', nodeStep a rank t i = some t' ∧ NodeInv a rank (i + 1) t' := by
  have hfi : i < (firstRanks a).length := by simpa using hi
  have hv : (firstRanks a).getD i 0 = (firstRanks a)[i] := by
    rw [List.getD_eq_getElem?_getD, List.getElem?_eq_getElem hfi]; rfl
  have htake : (firstRanks a).take (i + 1) = (firstRanks a).take i ++ [(firstRanks a)[i]] :=
    (List.take_concat_get' _ i hfi).symm
  have hfind : findNode t.nodesFirstRank t.nNodes ((firstRanks a).getD i 0) =
      if (firstRanks a)[i] ∈ (firstRanks a).take i then
        ((firstOccurrences ((firstRanks a).take i)).indexOf (firstRanks a)[i] : Int) else -1 := by
    rw [h.nodesFirstRank, h.nNodes, hv, findNode_eq _ _ (nodup_firstOccurrences _)]
    simp only [mem_firstOccurrences]
  have hrank : rank < i → (firstRanks a).getD rank 0 ∈ firstOccurrences ((firstRanks a).take i) :=
    fun hlt => mem_firstOccurrences.mpr (getD_mem_take hlt hfi.le)
  by_cases hmem : (firstRanks a)[i] ∈ (firstRanks a).take i
  · -- a rank of a node already in the table
    have hP : firstOccurrences ((firstRanks a).take (i + 1)) =
        firstOccurrences ((firstRanks a).take i) := by
      rw [htake, firstOccurrences_append_singleton, if_pos hmem]
    refine ⟨{ t with node := if i = rank then
      ((firstOccurrences ((firstRanks a).take i)).indexOf ((firstRanks a).getD i 0) : Int)
        else t.node }, ?_, ⟨?_, ?_, ?_, ?_⟩⟩
    · simp only [nodeStep, hfind, if_pos hmem]
      rw [if_neg (by omega), hv]
      rfl
    · rw [hP]; exact h.nNodes
    · rw [hP]; exact h.nodesFirstRank
    · rw [hP]; exact h.nodesTreePatterns
    · rw [hP]; exact node_update h.node hrank fun _ _ => rfl
  · -- the first rank of a new node
    have hP : firstOccurrences ((firstRanks a).take (i + 1)) =
        firstOccurrences ((firstRanks a).take i) ++ [(firstRanks a)[i]] := by
      rw [htake, firstOccurrences_append_singleton, if_neg hmem]
    have hlen : (firstOccurrences ((firstRanks a).take i)).length < a.length :=
      lt_of_le_of_lt ((length_firstOccurrences_le _).trans (by simp)) hi
    have hnew : (firstRanks a)[i] ∉ firstOccurrences ((firstRanks a).take i) := by
      rwa [mem_firstOccurrences]
    have hpat : (treePatterns a).getD ((firstRanks a).indexOf (firstRanks a)[i]) 0 =
        (treePatterns a).getD i 0 := by
      rw [indexOf_of_first _ i hfi hmem]
    have hnode : (t.nNodes : Int) =
        ((firstOccurrences ((firstRanks a).take (i + 1))).indexOf ((firstRanks a).getD i 0) : Int) := by
      rw [hP, h.nNodes, hv, List.indexOf_append_of_not_mem hnew, List.indexOf_cons_self]; rfl
    refine ⟨⟨t.nNodes + 1,
      firstOccurrences ((firstRanks a).take (i + 1)) ++ List.replicate (a.length - (t.nNodes + 1)) 0,
      (firstOccurrences ((firstRanks a).take (i + 1))).map
        (fun v => (treePatterns a).getD ((firstRanks a).indexOf v) 0) ++
        List.replicate (a.length - (t.nNodes + 1)) 0,
      if i = rank then t.nNodes else t.node⟩, ?_, ⟨?_, rfl, rfl, ?_⟩⟩
    · have hl1 : t.nNodes < t.nodesFirstRank.length := by
        rw [h.nodesFirstRank, h.nNodes]; simp; omega
      have hl2 : t.nNodes < t.nodesTreePatterns.length := by
        rw [h.nodesTreePatterns, h.nNodes]; simp; omega
      simp only [nodeStep, hfind, if_neg hmem, if_true, store_of_lt _ hl1, store_of_lt _ hl2,
        Option.bind_eq_bind, Option.some_bind]
      rw [h.nodesFirstRank, h.nodesTreePatterns, h.nNodes, hv, hP, List.map_append,
        List.map_singleton, hpat]
      congr 3
      · exact set_append_replicate _ _ _ _ hlen
      · rw [← List.length_map _ (fun v => (treePatterns a).getD ((firstRanks a).indexOf v) 0)]
        exact set_append_replicate _ _ _ _ (by simpa using hlen)
    · rw [hP, h.nNodes, List.length_append, List.length_singleton]
    · rw [hnode]
      exact node_update h.node hrank fun v hv => by rw [hP, List.indexOf_append_of_mem hv]

/-- The loop runs to its end with every store in bounds. -/
theorem determineNodes_inv (a : List (AllGather3Data F)) (rank : Nat) :
    ∃ t, determineNodes a rank = some t ∧ NodeInv a rank a.length t :=
  foldlM_range_invariant (NodeInv a rank) (nodeStep a rank) _ a.length (nodeInv_start a rank)
    fun _ _ hi h => nodeInv_step hi h

theorem take_firstRanks (a : List (AllGather3Data F)) : (firstRanks a).take a.length = firstRanks a :=
  List.take_of_length_le (by simp)

/-- Reading a padded prefix below its length reads the prefix. -/
theorem getD_append_replicate (P : List Int) (m n : Nat) (hn : n < P.length) :
    (P ++ List.replicate m 0).getD n 0 = P[n] := by
  rw [List.getD_eq_getElem?_getD, List.getElem?_append_left hn, List.getElem?_eq_getElem hn]
  rfl

/-- **The node table is the list of distinct first ring ranks, and every rank builds the
same one.** On every gathered array, the loop of lines 965-982 keeps its stores in bounds
and ends with `nNodes` the number of distinct first ring ranks, `nodesFirstRank` listing
them in order of first occurrence, each node's tree pattern taken from its lowest rank, and
`comm->node` the position of the rank's own first ring rank; another rank builds the same
table and gets the same node exactly when it has the same first ring rank. -/
theorem determineNodes_spec (a : List (AllGather3Data F)) (rank : Nat) (hr : rank < a.length) :
    ∃ t, determineNodes a rank = some t ∧
      t.nNodes = (firstRanks a).toFinset.card ∧ 1 ≤ t.nNodes ∧ t.nNodes ≤ a.length ∧
      t.nodesFirstRank.take t.nNodes = firstOccurrences (firstRanks a) ∧
      (∀ n < t.nNodes, t.nodesTreePatterns.getD n 0 =
        (treePatterns a).getD ((firstRanks a).indexOf (t.nodesFirstRank.getD n 0)) 0) ∧
      t.node = ((firstOccurrences (firstRanks a)).indexOf ((firstRanks a).getD rank 0) : Int) ∧
      ∀ r' < a.length, ∃ t', determineNodes a r' = some t' ∧
        t'.nNodes = t.nNodes ∧ t'.nodesFirstRank = t.nodesFirstRank ∧
        t'.nodesTreePatterns = t.nodesTreePatterns ∧
        (t'.node = t.node ↔ (firstRanks a).getD r' 0 = (firstRanks a).getD rank 0) := by
  have hnode : ∀ {r t}, r < a.length → NodeInv a r a.length t →
      t.node = ((firstOccurrences (firstRanks a)).indexOf ((firstRanks a).getD r 0) : Int) :=
    fun hr h => by rw [h.node, if_pos hr, take_firstRanks]
  have hmem : ∀ {r}, r < a.length → (firstRanks a).getD r 0 ∈ firstOccurrences (firstRanks a) :=
    fun hr => mem_firstOccurrences.mpr (getD_mem 0 (by simpa using hr))
  obtain ⟨t, ht, h⟩ := determineNodes_inv a rank
  have hn := h.nNodes
  have hfr := h.nodesFirstRank
  have htp := h.nodesTreePatterns
  rw [take_firstRanks] at hn hfr htp
  refine ⟨t, ht, by rw [hn, length_firstOccurrences], ?_, ?_, ?_, ?_, hnode hr h, ?_⟩
  · exact hn ▸ List.length_pos_of_mem (hmem hr)
  · exact hn ▸ (length_firstOccurrences_le _).trans (by simp)
  · rw [hfr, List.take_left' hn.symm]
  · intro n hn'
    rw [hn] at hn'
    rw [htp, hfr, getD_append_replicate _ _ _ (by simpa using hn'),
      getD_append_replicate _ _ _ hn', List.getElem_map]
  · intro r' hr'
    obtain ⟨t', ht', h'⟩ := determineNodes_inv a r'
    refine ⟨t', ht', by rw [h'.nNodes, hn, take_firstRanks], by rw [h'.nodesFirstRank, hfr,
      h'.nNodes, hn, take_firstRanks], by rw [h'.nodesTreePatterns, htp, h'.nNodes, hn,
      take_firstRanks], ?_⟩
    rw [hnode hr' h', hnode hr h, Int.ofNat_inj, List.indexOf_inj (hmem hr') (hmem hr)]

/-- Four ranks on two nodes placed alternately: ranks 0 and 2 start the ring at rank 0,
ranks 1 and 3 at rank 1, and the two nodes use different tree patterns. -/
def alternatingNodesArray : List (AllGather3Data Int) :=
  [0, 1, 0, 1].map fun f =>
    ⟨2, 4, ⟨f + 1, 1, 20, 10, 2, 3⟩, ⟨4, 1, 20, 10, 2, 3⟩, ⟨5, 0, 20, 10, 2, 3⟩, ⟨[f]⟩⟩

theorem determineNodes_alternating :
    3 < alternatingNodesArray.length ∧ ∃ t t', determineNodes alternatingNodesArray 3 = some t ∧
      determineNodes alternatingNodesArray 1 = some t' ∧ t'.node = t.node := by
  obtain ⟨t, ht, -, -, -, -, -, -, hall⟩ := determineNodes_spec alternatingNodesArray 3 (by decide)
  obtain ⟨t', ht', -, -, -, hnode⟩ := hall 1 (by decide)
  exact ⟨by decide, t, t', ht, ht', hnode.mpr (by decide)⟩

end Nodes

end RcclInit
