import RcclInit.Client
import RcclInit.AllGather1
import RcclInit.IntraHeap

/-!
# The blocks of `initTransportsRank`

`initTransportsRank` allocates on the host heap as it goes: the bootstrap state
(`bootstrapInit`, line 750), `allGather1Data` (760), `comm->peerInfo` (767), a
`new CliqueManager` stored into `comm->cliqueManager` (866), `allGather3Data` (934),
`nodesFirstRank` and `nodesTreePatterns` (967-968), `allTopoRanks` (986), `rings` (1033), and,
through `ncclCommSetIntra` (1125), on the intraRank-0 member the five shared blocks of
`IntraHeap.lean`. The five arrays of lines 760-986 are freed together at lines 1042-1046 but
for `comm->peerInfo`, which is kept, and `rings` at line 1117. Every check from line 764 to line
1039 returns at once: by `NCCLCHECK`, or by the `return` of the duplicate-GPU and intra-rank
tests.

`initTransportsRankHeap` is the function on the heap of `Lifecycle`, in three parts: the
bootstrap, lines 760-1117 (`initTransportsRankArrays`), and lines 1120-1127
(`initTransportsRankEnd`). The outcomes of the calls whose code is not under `src/` are inputs
(`TransportCalls`). The two tests on the gathered array are `duplicateGpuCheck` and
`intraRanksCheck`; `ncclCommSetIntra` gets the member's `intraRank` and `intraRanks` and
`intraRank0Comm` from the scan of lines 770-790. Lines 1063-1114, whose calls and AllGathers
`initTransportsTail` models, enter by their result.

Nothing is freed before line 1042 (`NoFree`, kept by each heap operation the function uses),
and each kind of check of lines 764-1039 is one rule of `EarlyTriple`, applied in the order
of the code (`initTransportsRankArrays_earlyTriple`). So:
* when one of the checks of lines 764-1039 fails, the function returns the first failure and
  frees nothing it allocated, `allGather1Data` among them, whose only pointer was a local
  (`initTransportsRank_early_failure_leaks`). The duplicate-GPU error, the misuse
  `ncclInvalidUsage` reports, is such a failure;
* once those checks pass, the five arrays are freed and `rings` is freed unless lines 1067-1114
  fail. What is left is the blocks stored in the communicator: the bootstrap state,
  `comm->peerInfo`, the `CliqueManager` and whatever `ncclCommSetIntra` allocated
  (`initTransportsRank_late_frees`);
* those are what `ncclCommDestroy` frees besides the blocks of `commAlloc`, the shared blocks
  only on the last rank of the process: from `commAlloc` through `initTransportsRank` of the
  intraRank-0 member to `ncclCommDestroy`, with every call succeeding, the heap ends as it
  began but for the shared blocks when the destroy is not the last rank's
  (`commAlloc_initTransports_destroy_round_trip`).

On every path of the intraRank-0 member, or of another member whose `comm0` holds its shared
blocks, `initTransportsRank` frees no block it did not allocate, does not get stuck and keeps
the bootstrap state in the communicator (`initTransportsRankHeap_spec`). That is what makes
`Lifecycle.ncclCommInitRankSync`, which takes the rest of `initTransportsRank` by its result,
an abstraction of `ncclCommInitRankSync` with `initTransportsRank` run on the heap
(`ncclCommInitRankSync_refines`).
-/

set_option autoImplicit false

namespace RcclInit

open NcclResult

/-! ## The function on the heap -/

/-- The arrays `initTransportsRank` allocates with `ncclCalloc`. -/
inductive TransportArray where
  | allGather1Data
  | peerInfo
  | allGather3Data
  | nodesFirstRank
  | nodesTreePatterns
  | allTopoRanks
  | rings
  deriving DecidableEq, Repr

/-- The outcomes of what `initTransportsRank` calls, in the order of the code: `bootstrapInit`
(line 750); each `ncclCalloc`; `fillInfo` and the first AllGather (764-765); the topology
calls of lines 812-824; `CliqueManager::Init` (867); the graph search of lines 878-902;
`ncclTopoIdToIndex`, `ncclTopoPreset` and the third AllGather (936-963); `ncclTopoPostset`
(1035); `ncclTopoConnectCollNet` (1039, `ncclSuccess` when it is not called); lines 1067-1114
up to `free(rings)`; `ncclTopoTuneModel` (1120) and `ncclTopoComputeP2pChannels` (1123); what
the calls of `ncclCommSetIntra` return in the process, `intraRanks` apart (1125); and
`ncclProxyCreate` (1127, `ncclSuccess` when `comm->nNodes` is `0`). -/
structure TransportCalls where
  bootstrapInit : NcclResult
  calloc : TransportArray → NcclResult
  fillInfo : NcclResult
  allGather1 : NcclResult
  topoSystem : NcclResult
  cliqueInit : NcclResult
  graphSearch : NcclResult
  topoIdToIndex : NcclResult
  topoPreset : NcclResult
  allGather3 : NcclResult
  topoPostset : NcclResult
  connectCollNet : NcclResult
  connect : NcclResult
  tuneModel : NcclResult
  p2pChannels : NcclResult
  intra : IntraEnv
  proxyCreate : NcclResult

/-- Lines 760-1117 of `initTransportsRank` on the heap, from `allGather1Data` to `free(rings)`,
on rank `rank` of the gathered array `gathered`, for the live communicator `comm`. -/
def initTransportsRankArrays (calls : TransportCalls) (gathered : List AllGather1Data)
    (rank comm : Nat) : LifeM NcclResult := do
  let some allGather1Data ← ncclCalloc (calls.calloc .allGather1Data)
    | return calls.calloc .allGather1Data
  if calls.fillInfo ≠ ncclSuccess then return calls.fillInfo
  if calls.allGather1 ≠ ncclSuccess then return calls.allGather1
  let res ← callocInto comm (calls.calloc .peerInfo) fun c p => { c with peerInfo := p }
  if res ≠ ncclSuccess then return res
  if duplicateGpuCheck gathered rank ≠ ncclSuccess then return ncclInvalidUsage
  if intraRanksCheck gathered rank ≠ ncclSuccess then return ncclInternalError
  if calls.topoSystem ≠ ncclSuccess then return calls.topoSystem
  let _ ← callocInto comm ncclSuccess fun c p => { c with cliqueManager := p }
  if calls.cliqueInit ≠ ncclSuccess then return calls.cliqueInit
  if calls.graphSearch ≠ ncclSuccess then return calls.graphSearch
  let some allGather3Data ← ncclCalloc (calls.calloc .allGather3Data)
    | return calls.calloc .allGather3Data
  if calls.topoIdToIndex ≠ ncclSuccess then return calls.topoIdToIndex
  if calls.topoPreset ≠ ncclSuccess then return calls.topoPreset
  if calls.allGather3 ≠ ncclSuccess then return calls.allGather3
  let some nodesFirstRank ← ncclCalloc (calls.calloc .nodesFirstRank)
    | return calls.calloc .nodesFirstRank
  let some nodesTreePatterns ← ncclCalloc (calls.calloc .nodesTreePatterns)
    | return calls.calloc .nodesTreePatterns
  let some allTopoRanks ← ncclCalloc (calls.calloc .allTopoRanks)
    | return calls.calloc .allTopoRanks
  let some rings ← ncclCalloc (calls.calloc .rings) | return calls.calloc .rings
  if calls.topoPostset ≠ ncclSuccess then return calls.topoPostset
  if calls.connectCollNet ≠ ncclSuccess then return calls.connectCollNet
  hostFree allTopoRanks
  hostFree nodesTreePatterns
  hostFree nodesFirstRank
  hostFree allGather1Data
  hostFree allGather3Data
  if calls.connect ≠ ncclSuccess then return calls.connect
  hostFree rings
  return ncclSuccess

/-- Rank `rank`'s member number in its process's group, `intraRank` of lines 770-790. -/
def intraRankOf (gathered : List AllGather1Data) (rank : Nat) : Nat :=
  (allGather1Scan gathered rank).intraRank.toNat

/-- The group `ncclCommSetIntra` runs in on rank `rank`: `intraRanks` of lines 770-790, and
the process's calls. -/
def TransportCalls.intraEnv (calls : TransportCalls) (gathered : List AllGather1Data)
    (rank : Nat) : IntraEnv :=
  { calls.intra with ranks := (allGather1Scan gathered rank).intraRanks.toNat }

/-- Lines 1120-1127 of `initTransportsRank` on the heap. -/
def initTransportsRankEnd (calls : TransportCalls) (gathered : List AllGather1Data)
    (rank comm : Nat) : LifeM NcclResult := do
  if calls.tuneModel ≠ ncclSuccess then return calls.tuneModel
  if calls.p2pChannels ≠ ncclSuccess then return calls.p2pChannels
  let res ← ncclCommSetIntraHeap (calls.intraEnv gathered rank) (intraRankOf gathered rank) comm
    (intraRank0Comm gathered rank)
  if res ≠ ncclSuccess then return res
  return calls.proxyCreate

/-- `initTransportsRank` (lines 739-1136) on the heap, on rank `rank` of the gathered array
`gathered`, for the live communicator `comm`. -/
def initTransportsRankHeap (calls : TransportCalls) (gathered : List AllGather1Data)
    (rank comm : Nat) : LifeM NcclResult := do
  let res ← bootstrapInit calls.bootstrapInit comm
  if res ≠ ncclSuccess then return res
  let res ← initTransportsRankArrays calls gathered rank comm
  if res ≠ ncclSuccess then return res
  initTransportsRankEnd calls gathered rank comm

/-- The checks of lines 764-1039, in the order of the code. A failure of any of them returns
before line 1042. -/
def TransportCalls.early (calls : TransportCalls) (gathered : List AllGather1Data) (rank : Nat) :
    List NcclResult :=
  [calls.fillInfo, calls.allGather1, calls.calloc .peerInfo, duplicateGpuCheck gathered rank,
    intraRanksCheck gathered rank, calls.topoSystem, calls.cliqueInit, calls.graphSearch,
    calls.calloc .allGather3Data, calls.topoIdToIndex, calls.topoPreset, calls.allGather3,
    calls.calloc .nodesFirstRank, calls.calloc .nodesTreePatterns, calls.calloc .allTopoRanks,
    calls.calloc .rings, calls.topoPostset, calls.connectCollNet]

/-- What lines 1120-1127 return on rank `rank`. -/
def TransportCalls.late (calls : TransportCalls) (gathered : List AllGather1Data) (rank : Nat) :
    List NcclResult :=
  [calls.tuneModel, calls.p2pChannels,
    (calls.intraEnv gathered rank).setIntraResult (intraRankOf gathered rank), calls.proxyCreate]

theorem intraRanksCheck_cases (gathered : List AllGather1Data) (rank : Nat) :
    intraRanksCheck gathered rank = ncclSuccess ∨ intraRanksCheck gathered rank = ncclInternalError := by
  unfold intraRanksCheck
  dsimp only
  split <;> simp

/-! ## Nothing is freed before line 1042 -/

/-- Since `s0`: nothing has been freed and every block allocated since is live, the heap has
grown to at least `n`, the device is the same, no block `s0` had was written but the
communicator `comm`, and `comm` keeps its bootstrap state. -/
structure NoFree (s0 : Proc) (comm n : Nat) (s : Proc) : Prop where
  next_le : s0.heap.next ≤ s.heap.next
  bound_le : n ≤ s.heap.next
  live_eq : s.heap.live = s0.heap.live ∪ Finset.Ico s0.heap.next s.heap.next
  device_eq : s.device = s0.device
  frame : ∀ q < s0.heap.next, q ≠ comm → s.comm q = s0.comm q
  bootstrap_eq : (s.comm comm).bootstrap = (s0.comm comm).bootstrap

section NoFree

variable {E : Stuck → Prop} {s0 : Proc} {comm : Nat}

theorem NoFree.refl (s : Proc) (comm : Nat) : NoFree s comm s.heap.next s :=
  ⟨le_rfl, le_rfl, by simp, rfl, fun _ _ _ => rfl, rfl⟩

theorem NoFree.mono {m n : Nat} {s : Proc} (h : NoFree s0 comm m s) (hnm : n ≤ m) :
    NoFree s0 comm n s :=
  { h with bound_le := hnm.trans h.bound_le }

theorem NoFree.mem {n : Nat} {s : Proc} (h : NoFree s0 comm n s) {p : Nat} (hp : p ∈ s0.heap.live) :
    p ∈ s.heap.live := by
  rw [h.live_eq]; exact Finset.mem_union_left _ hp

/-- An allocation keeps `NoFree`, and a block it returns lies above the bound. -/
theorem ncclCalloc_noFree (n : Nat) (hcomm : comm ∈ s0.heap.live) (res : NcclResult) :
    ExceptTriple (NoFree s0 comm n) (ncclCalloc res) (fun o s => (o = none → NoFree s0 comm n s ∧
      res ≠ ncclSuccess) ∧
      ∀ p, o = some p → NoFree s0 comm (p + 1) s ∧ n ≤ p ∧ res = ncclSuccess) E := by
  intro s h
  have hcs : comm ≠ s.heap.next := fun hc => s.heap.next_not_mem (hc ▸ h.mem hcomm)
  by_cases hres : res = ncclSuccess
  · subst hres
    simp only [ncclCalloc_run_success]
    refine ⟨fun h => (nomatch h), fun p hp => ?_⟩
    cases hp
    refine ⟨⟨by simp; exact h.next_le.trans (Nat.le_succ _), le_rfl, ?_, h.device_eq,
      fun q hq hqc => (Function.update_noteq (by have := h.next_le; omega) _ _).trans
        (h.frame q hq hqc), (congrArg Comm.bootstrap (Function.update_noteq hcs _ _)).trans
        h.bootstrap_eq⟩, h.bound_le, trivial⟩
    ext q
    have := h.next_le
    simp only [Heap.calloc_live, Heap.calloc_next, Finset.mem_insert, h.live_eq, Finset.mem_union,
      Finset.mem_Ico]
    by_cases hq : q ∈ s0.heap.live
    · simp only [hq, true_or, or_true]
    · simp only [hq, false_or]
      omega
  · rw [ncclCalloc_run_failure hres]
    exact ⟨fun _ => ⟨h, hres⟩, fun _ h => nomatch h⟩

/-- Storing a fresh block into a field of the live communicator other than its bootstrap state
keeps `NoFree`. -/
theorem callocInto_noFree (n : Nat) (hcomm : comm ∈ s0.heap.live) (res : NcclResult)
    {set : Comm → Nat → Comm} (hset : ∀ c p, (set c p).bootstrap = c.bootstrap) :
    ExceptTriple (NoFree s0 comm n) (callocInto comm res set)
      (fun r s => r = res ∧ NoFree s0 comm n s) E :=
  exceptTriple_bind _ (ncclCalloc_noFree n hcomm res) fun o => by
    rcases o with _ | p
    · exact exceptTriple_pure _ fun s hs => ⟨rfl, (hs.1 rfl).1⟩
    · refine exceptTriple_bind (fun _ s => NoFree s0 comm n s ∧ res = ncclSuccess) (fun s hs => ?_)
        fun _ => exceptTriple_pure _ fun s hs => ⟨hs.2.symm, hs.1⟩
      obtain ⟨h, hnp, hres⟩ := hs.2 p rfl
      rw [writeComm_run_live _ (h.mem hcomm)]
      exact ⟨{ h.mono (Nat.le_succ_of_le hnp) with
        frame := fun q hq hqc => (Function.update_noteq hqc _ _).trans (h.frame q hq hqc)
        bootstrap_eq := by simp only [Function.update_same, hset, h.bootstrap_eq] }, hres⟩

/-- A triple whose postcondition and error condition always hold. -/
theorem exceptTriple_of_forall {α : Type} {P : Proc → Prop} {m : LifeM α} {Q : α → Proc → Prop}
    (hQ : ∀ a s, Q a s) (hE : ∀ e, E e) : ExceptTriple P m Q E := fun s _ => by
  cases m.run s with
  | ok r => exact hQ r.1 r.2
  | error e => exact hE e

end NoFree

/-! ## The checks of lines 764-1039 -/

/-- What the rest `m` of `initTransportsRank` does from a point where nothing has been freed
since `s0` and `allGather1Data`, the block at `s0.heap.next`, is allocated, when `l` are its
checks before line 1042: if one of them fails, it returns the first failure and frees
nothing; it gets stuck only if none fails. -/
def EarlyTriple (s0 : Proc) (comm : Nat) (l : List NcclResult) (m : LifeM NcclResult) : Prop :=
  ExceptTriple (NoFree s0 comm (s0.heap.next + 1)) m
    (fun r s => firstFailure l ≠ ncclSuccess →
      r = firstFailure l ∧ NoFree s0 comm (s0.heap.next + 1) s)
    (fun _ => firstFailure l = ncclSuccess)

namespace EarlyTriple

variable {s0 : Proc} {comm : Nat} {l : List NcclResult} {m : LifeM NcclResult} {x : NcclResult}

/-- Past the last check there is nothing left to fail. -/
theorem nil : EarlyTriple s0 comm [] m :=
  exceptTriple_of_forall (fun _ _ h => absurd rfl h) fun _ => rfl

/-- `if (x != ncclSuccess) return y;`, where `y` is `x` (`NCCLCHECK`) or the error the code
reports for it. -/
theorem check {y : NcclResult} (hy : x ≠ ncclSuccess → y = x)
    (hm : x = ncclSuccess → EarlyTriple s0 comm l m) :
    EarlyTriple s0 comm (x :: l) (if x ≠ ncclSuccess then pure y else pure () >>= fun _ => m) :=
  exceptTriple_ite (fun hx => exceptTriple_pure _ fun _ hs _ => ⟨by rw [hy hx, firstFailure_cons_of_ne hx], hs⟩)
    fun hx => by
      obtain rfl := not_not.1 hx
      rw [pure_bind, firstFailure_cons_success]
      exact hm rfl

/-- `NCCLCHECK(ncclCalloc(&p, n))` into a local `p`. -/
theorem alloc (hcomm : comm ∈ s0.heap.live) {k : Option Nat → LifeM NcclResult}
    (hnone : k none = pure x) (hsome : ∀ p, x = ncclSuccess → EarlyTriple s0 comm l (k (some p))) :
    EarlyTriple s0 comm (x :: l) (ncclCalloc x >>= k) :=
  exceptTriple_bind _ (ncclCalloc_noFree _ hcomm x) fun o => by
    rcases o with _ | p
    · rw [hnone]
      exact exceptTriple_pure _ fun _ hs _ =>
        ⟨(firstFailure_cons_of_ne (hs.1 rfl).2 l).symm, (hs.1 rfl).1⟩
    · intro s hs
      obtain ⟨hN, hnp, rfl⟩ := hs.2 p rfl
      rw [firstFailure_cons_success]
      exact hsome p rfl s (hN.mono (Nat.le_succ_of_le hnp))

/-- `NCCLCHECK(ncclCalloc(&comm->field, n))`, for the live communicator `comm` and a field
other than its bootstrap state. -/
theorem callocIntoCheck (hcomm : comm ∈ s0.heap.live) {set : Comm → Nat → Comm}
    (hset : ∀ c p, (set c p).bootstrap = c.bootstrap) (hm : x = ncclSuccess → EarlyTriple s0 comm l m) :
    EarlyTriple s0 comm (x :: l) (callocInto comm x set >>= fun res =>
      if res ≠ ncclSuccess then pure res else pure () >>= fun _ => m) :=
  exceptTriple_bind _ (callocInto_noFree _ hcomm x hset) fun _ s ⟨hres, hs⟩ => by
    subst hres
    exact check (fun _ => rfl) hm s hs

/-- An allocation into the live communicator that is not checked (`new CliqueManager`). -/
theorem callocInto (hcomm : comm ∈ s0.heap.live) {res : NcclResult}
    {set : Comm → Nat → Comm} (hset : ∀ c p, (set c p).bootstrap = c.bootstrap)
    (hm : EarlyTriple s0 comm l m) :
    EarlyTriple s0 comm l (RcclInit.callocInto comm res set >>= fun _ => m) :=
  exceptTriple_bind _ (callocInto_noFree _ hcomm res hset) fun _ => hm.mono (fun _ h => h.2)
    (fun _ _ => id) fun _ => id

end EarlyTriple

/-! ## Runs -/

section Run

variable (calls : TransportCalls) (gathered : List AllGather1Data) (rank comm : Nat)

/-- Once `allGather1Data` is allocated, `initTransportsRankArrays` runs its checks of lines
764-1039 one after another, each by one rule of `EarlyTriple`. -/
theorem initTransportsRankArrays_earlyTriple {s0 : Proc} (hcomm : comm ∈ s0.heap.live)
    (hag1 : calls.calloc .allGather1Data = ncclSuccess) :
    ExceptTriple (· = s0) (initTransportsRankArrays calls gathered rank comm)
      (fun r s => firstFailure (calls.early gathered rank) ≠ ncclSuccess →
        r = firstFailure (calls.early gathered rank) ∧ NoFree s0 comm (s0.heap.next + 1) s)
      (fun _ => firstFailure (calls.early gathered rank) = ncclSuccess) := by
  unfold initTransportsRankArrays
  refine exceptTriple_bind _ ((ncclCalloc_noFree s0.heap.next hcomm _).mono
    (fun _ h => by rw [h]; exact NoFree.refl s0 comm) (fun _ _ => id) fun _ => id) fun o => ?_
  rcases o with _ | p
  · exact exceptTriple_pure _ fun _ hs => absurd hag1 (hs.1 rfl).2
  intro s hs
  obtain ⟨hN, hnp, -⟩ := hs.2 p rfl
  refine (?_ : EarlyTriple s0 comm (calls.early gathered rank) _) s (hN.mono (Nat.succ_le_succ hnp))
  exact .check (fun _ => rfl) fun _ =>                                      -- fillInfo
    .check (fun _ => rfl) fun _ =>                                          -- AllGather1
    .callocIntoCheck hcomm (fun _ _ => rfl) fun _ =>                        -- peerInfo
    .check (fun h => ((duplicateGpuCheck_cases _ _).resolve_left h).symm) fun _ =>
    .check (fun h => ((intraRanksCheck_cases _ _).resolve_left h).symm) fun _ =>
    .check (fun _ => rfl) fun _ =>                                          -- topology
    .callocInto hcomm (fun _ _ => rfl) <|                                   -- CliqueManager
    .check (fun _ => rfl) fun _ =>                                          -- its Init
    .check (fun _ => rfl) fun _ =>                                          -- graph search
    .alloc hcomm rfl fun _ _ =>                                             -- allGather3Data
    .check (fun _ => rfl) fun _ =>
    .check (fun _ => rfl) fun _ =>
    .check (fun _ => rfl) fun _ =>                                          -- AllGather3
    .alloc hcomm rfl fun _ _ =>                                             -- nodesFirstRank
    .alloc hcomm rfl fun _ _ =>                                             -- nodesTreePatterns
    .alloc hcomm rfl fun _ _ =>                                             -- allTopoRanks
    .alloc hcomm rfl fun _ _ =>                                             -- rings
    .check (fun _ => rfl) fun _ =>                                          -- ncclTopoPostset
    .check (fun _ => rfl) fun _ => .nil                                     -- ConnectCollNet

/-- `initTransportsRankArrays` when a check of lines 764-1039 fails. -/
theorem initTransportsRankArrays_run_early {s0 : Proc} (hcomm : comm ∈ s0.heap.live)
    (hag1 : calls.calloc .allGather1Data = ncclSuccess)
    (hfail : firstFailure (calls.early gathered rank) ≠ ncclSuccess) :
    ∃ s', (initTransportsRankArrays calls gathered rank comm).run s0 =
      .ok (firstFailure (calls.early gathered rank), s') ∧ NoFree s0 comm (s0.heap.next + 1) s' := by
  have h := initTransportsRankArrays_earlyTriple calls gathered rank comm hcomm hag1 s0 rfl
  revert h
  cases (initTransportsRankArrays calls gathered rank comm).run s0 with
  | error _ => exact fun h => absurd h hfail
  | ok r => exact fun h => ⟨r.2, by rw [← (h hfail).1], (h hfail).2⟩

theorem initTransportsRankArrays_run_ag1_failure {s0 : Proc}
    (hag1 : calls.calloc .allGather1Data ≠ ncclSuccess) :
    (initTransportsRankArrays calls gathered rank comm).run s0 =
      pure (calls.calloc .allGather1Data, s0) := by
  simp only [initTransportsRankArrays, StateT.run_bind, ncclCalloc_run_failure hag1, pure_bind]
  rfl

/-- `initTransportsRankArrays` once the checks of lines 764-1039 pass: the blocks it leaves
live, and the communicator, which gains `peerInfo` and `cliqueManager`. -/
theorem initTransportsRankArrays_run_late {s : Proc} (hcomm : comm ∈ s.heap.live)
    (hag1 : calls.calloc .allGather1Data = ncclSuccess)
    (hearly : firstFailure (calls.early gathered rank) = ncclSuccess) :
    ∃ s', (initTransportsRankArrays calls gathered rank comm).run s = .ok (calls.connect, s') ∧
      s'.heap.live = s.heap.live ∪ {s.heap.next + 1, s.heap.next + 2} ∪
        (if calls.connect = ncclSuccess then ∅ else {s.heap.next + 7}) ∧
      s'.heap.next = s.heap.next + 8 ∧
      s'.comm comm =
        { s.comm comm with peerInfo := s.heap.next + 1, cliqueManager := s.heap.next + 2 } ∧
      s'.device = s.device ∧ ∀ q < s.heap.next, q ≠ comm → s'.comm q = s.comm q := by
  simp only [firstFailure_eq_success_iff, TransportCalls.early, List.mem_cons, List.mem_singleton,
    forall_eq_or_imp, forall_eq, List.not_mem_nil, or_false] at hearly
  have hlive : ∀ q ∈ s.heap.live, q < s.heap.next := fun q hq => (s.heap.bounded q hq).2
  have hlt := hlive comm hcomm
  have hk : ∀ k, comm = s.heap.next + k ↔ False := fun k => iff_false_intro (by omega)
  have hk0 : comm = s.heap.next ↔ False := iff_false_intro (by omega)
  simp only [initTransportsRankArrays, hag1, hearly, ne_eq, not_true_eq_false,
    not_false_eq_true, if_false, pure_bind, StateT.run_bind, ncclCalloc_run_success,
    callocInto_run_success, hostFree_run_live, Heap.calloc_live, Heap.calloc_next,
    Heap.release_live, Finset.mem_insert, Finset.mem_erase, hcomm, or_true, true_or, and_true,
    true_and, Nat.add_assoc, Nat.reduceAdd, Nat.reduceEqDiff, add_right_eq_self, self_eq_add_right,
    hk, hk0, Function.update_noteq, Function.update_same]
  by_cases hc : calls.connect = ncclSuccess <;>
  simp only [hc, not_true_eq_false, not_false_eq_true, if_false, if_true, StateT.run_bind,
    StateT.run_pure, pure_bind, hostFree_run_live, Heap.release_live, Heap.release_next,
    Heap.calloc_live, Heap.calloc_next, Finset.mem_erase, Finset.mem_insert, Nat.add_assoc,
    Nat.reduceAdd, Nat.reduceEqDiff, add_right_eq_self, true_or, and_true, ne_eq]
  all_goals
    refine ⟨_, rfl, ?_, by simp only [Heap.release_next, Heap.calloc_next],
      by simp [Function.update_noteq, hk, hk0], rfl, fun q hq hqc => ?_⟩
    · ext x
      simp only [Heap.release_live, Heap.calloc_live, Heap.calloc_next, Nat.add_assoc,
        Nat.reduceAdd, Finset.mem_erase, Finset.mem_insert, Finset.mem_union,
        Finset.mem_singleton, Finset.not_mem_empty, or_false]
      by_cases hx : x ∈ s.heap.live
      · have := hlive x hx
        simp only [hx, true_or, or_true, iff_true, and_true]
        omega
      · simp only [hx, or_false, false_or]
        omega
    · have hqk : ∀ k, q = s.heap.next + k ↔ False := fun k => iff_false_intro (by omega)
      have hq0 : q = s.heap.next ↔ False := iff_false_intro (by omega)
      simp [Function.update_apply, hqc, hqk, hq0]

/-- Lines 1120-1127 on a live communicator, when the member is the intraRank-0 one or its
`comm0` is another communicator holding five live blocks: they return the first failure, and
what `ncclCommSetIntra` does is all that changes. -/
theorem initTransportsRankEnd_run {s : Proc} (hcomm : comm ∈ s.heap.live)
    (hk : intraRankOf gathered rank = 0 ∨
      SharedReady s (intraRank0Comm gathered rank) ∧ intraRank0Comm gathered rank ≠ comm) :
    ∃ s', (initTransportsRankEnd calls gathered rank comm).run s =
        .ok (firstFailure (calls.late gathered rank), s') ∧ SetIntraStep comm s s' ∧
      (firstFailure (calls.late gathered rank) = ncclSuccess →
        s'.heap.next = s.heap.next + (if intraRankOf gathered rank = 0 then 5 else 0) ∧
        (s'.comm comm).launchMode = launchModeOf (calls.intraEnv gathered rank) ∧
        ∀ f, (s'.comm comm).intra f = if intraRankOf gathered rank = 0 then s.heap.next + f.index
          else (s.comm (intraRank0Comm gathered rank)).intra f) := by
  by_cases htune : calls.tuneModel = ncclSuccess
  swap
  · have hff : firstFailure (calls.late gathered rank) = calls.tuneModel :=
      firstFailure_cons_of_ne htune _
    refine ⟨s, ?_, .refl comm s, fun h => absurd (hff ▸ h) htune⟩
    simp only [initTransportsRankEnd, htune, hff, ne_eq, not_false_eq_true, if_true]
    rfl
  by_cases hp2p : calls.p2pChannels = ncclSuccess
  swap
  · have hff : firstFailure (calls.late gathered rank) = calls.p2pChannels := by
      simp only [TransportCalls.late, htune, firstFailure_cons_success, firstFailure_cons_of_ne hp2p]
    refine ⟨s, ?_, .refl comm s, fun h => absurd (hff ▸ h) hp2p⟩
    simp only [initTransportsRankEnd, htune, hp2p, hff, ne_eq, not_true_eq_false,
      not_false_eq_true, if_false, if_true, pure_bind]
    rfl
  obtain ⟨s', hrun, hstep, hok⟩ := ncclCommSetIntraHeap_run (calls.intraEnv gathered rank) hcomm hk
  have hrun' : (ncclCommSetIntraHeap (calls.intraEnv gathered rank) (intraRankOf gathered rank) comm
      (intraRank0Comm gathered rank)).run s = pure (_, s') := hrun
  have hff : firstFailure (calls.late gathered rank) = firstFailure
      [(calls.intraEnv gathered rank).setIntraResult (intraRankOf gathered rank),
        calls.proxyCreate] := by
    simp only [TransportCalls.late, htune, hp2p, firstFailure_cons_success]
  refine ⟨s', ?_, hstep, fun h => hok ?_⟩
  · simp only [initTransportsRankEnd, htune, hp2p, hff, ne_eq, not_true_eq_false, if_false,
      pure_bind, StateT.run_bind, hrun']
    by_cases hr : (calls.intraEnv gathered rank).setIntraResult (intraRankOf gathered rank) =
      ncclSuccess
    · simp only [hr, not_true_eq_false, if_false, firstFailure_cons_success,
        firstFailure_singleton]
      rfl
    · simp only [hr, not_false_eq_true, if_true, firstFailure_cons_of_ne hr]
      rfl
  · exact (firstFailure_eq_success_iff _).1 (hff ▸ h) _ (List.mem_cons_self _ _)

/-- `bootstrapInit` succeeding on the live communicator `comm`: the state is block
`s.heap.next`. -/
theorem bootstrapInit_run_success {s : Proc} (hcomm : comm ∈ s.heap.live) :
    ∃ s0, (bootstrapInit ncclSuccess comm).run s = .ok (ncclSuccess, s0) ∧
      s0.heap.next = s.heap.next + 1 ∧ s0.heap.live = insert s.heap.next s.heap.live ∧
      s0.comm comm = { s.comm comm with bootstrap := s.heap.next } ∧ s0.device = s.device ∧
      ∀ q < s.heap.next, q ≠ comm → s0.comm q = s.comm q :=
  ⟨_, callocInto_run_success hcomm _, rfl, rfl, Function.update_same _ _ _, rfl,
    fun q hq hqc => (Function.update_noteq hqc _ _).trans (Function.update_noteq (by omega) _ _)⟩

theorem initTransportsRankHeap_run_boot_failure {s : Proc}
    (hboot : calls.bootstrapInit ≠ ncclSuccess) :
    (initTransportsRankHeap calls gathered rank comm).run s = pure (calls.bootstrapInit, s) := by
  simp only [initTransportsRankHeap, bootstrapInit, StateT.run_bind, callocInto_run_failure hboot,
    pure_bind, ne_eq, hboot, not_false_eq_true, if_true]
  rfl

/-- Past the bootstrap, `initTransportsRankHeap` is lines 760-1117 and, when they succeed, lines
1120-1127. -/
theorem initTransportsRankHeap_run_of_bootstrap {s s0 s1 : Proc} {r : NcclResult}
    (hboot : calls.bootstrapInit = ncclSuccess)
    (h0 : (bootstrapInit ncclSuccess comm).run s = .ok (ncclSuccess, s0))
    (h1 : (initTransportsRankArrays calls gathered rank comm).run s0 = .ok (r, s1)) :
    (initTransportsRankHeap calls gathered rank comm).run s =
      if r ≠ ncclSuccess then pure (r, s1) else (initTransportsRankEnd calls gathered rank comm).run s1 := by
  have h0' : (bootstrapInit ncclSuccess comm).run s = pure (ncclSuccess, s0) := h0
  have h1' : (initTransportsRankArrays calls gathered rank comm).run s0 = pure (r, s1) := h1
  simp only [initTransportsRankHeap, hboot, StateT.run_bind, h0', pure_bind, ne_eq,
    not_true_eq_false, if_false, h1']
  split_ifs <;> rfl

/-- When the bootstrap and the allocation of `allGather1Data` succeed and a check of lines
764-1039 fails, `initTransportsRank` returns the first failure without freeing anything:
every block live before is live after, so is every block it allocated, `allGather1Data` (the
block after the bootstrap state) among them, and it does not get stuck. -/
theorem initTransportsRank_early_failure_leaks {s : Proc} (hcomm : comm ∈ s.heap.live)
    (hboot : calls.bootstrapInit = ncclSuccess)
    (hag1 : calls.calloc .allGather1Data = ncclSuccess)
    (hfail : firstFailure (calls.early gathered rank) ≠ ncclSuccess) :
    ∃ s', (initTransportsRankHeap calls gathered rank comm).run s =
        .ok (firstFailure (calls.early gathered rank), s') ∧
      s.heap.next + 1 ∈ s'.heap.live ∧
      s'.heap.live = s.heap.live ∪ Finset.Ico s.heap.next s'.heap.next := by
  obtain ⟨s0, h0, hnext0, hlive0, -⟩ := bootstrapInit_run_success comm hcomm
  obtain ⟨s', hrun, hN⟩ := initTransportsRankArrays_run_early calls gathered rank comm
    (by rw [hlive0]; exact Finset.mem_insert_of_mem hcomm) hag1 hfail
  have hbound := hN.bound_le
  refine ⟨s', ?_, ?_, ?_⟩
  · rw [initTransportsRankHeap_run_of_bootstrap calls gathered rank comm hboot h0 hrun, if_pos hfail]
    rfl
  · rw [hN.live_eq]
    exact Finset.mem_union_right _ (Finset.mem_Ico.2 ⟨by omega, by omega⟩)
  · rw [hN.live_eq, hlive0, hnext0, insert_union_Ico (by omega)]

/-- One member, on a GPU of compute capability `90`, whose calls all succeed. -/
def IntraEnv.oneMember : IntraEnv where
  ranks := 1
  members _ := ⟨0, 90, true, some 1⟩
  launchModeEnv := none
  cudartAtLeast9000 := true
  callocOk _ := true

/-- Outcomes where every call of `initTransportsRank` succeeds. -/
def TransportCalls.allOk : TransportCalls where
  bootstrapInit := ncclSuccess
  calloc _ := ncclSuccess
  fillInfo := ncclSuccess
  allGather1 := ncclSuccess
  topoSystem := ncclSuccess
  cliqueInit := ncclSuccess
  graphSearch := ncclSuccess
  topoIdToIndex := ncclSuccess
  topoPreset := ncclSuccess
  allGather3 := ncclSuccess
  topoPostset := ncclSuccess
  connectCollNet := ncclSuccess
  connect := ncclSuccess
  tuneModel := ncclSuccess
  p2pChannels := ncclSuccess
  intra := IntraEnv.oneMember
  proxyCreate := ncclSuccess

/-- Rank `0` of `duplicatePairArray` shares its GPU with rank `1`: `initTransportsRank` returns
`ncclInvalidUsage` with the bootstrap state (block `7`), `allGather1Data` (block `8`) and
`comm->peerInfo` (block `9`) still live. -/
theorem initTransportsRank_early_failure_leaks_duplicate :
    1 ∈ oneRankProc.heap.live ∧
      firstFailure (TransportCalls.allOk.early duplicatePairArray 0) = ncclInvalidUsage ∧
      ∃ s', (initTransportsRankHeap TransportCalls.allOk duplicatePairArray 0 1).run oneRankProc =
          .ok (firstFailure (TransportCalls.allOk.early duplicatePairArray 0), s') ∧
        oneRankProc.heap.next + 1 ∈ s'.heap.live ∧
        s'.heap.live = oneRankProc.heap.live ∪ Finset.Ico oneRankProc.heap.next s'.heap.next :=
  ⟨by decide, by decide,
    initTransportsRank_early_failure_leaks _ _ _ _ (by decide) rfl rfl (by decide)⟩

/-- `initTransportsRankHeap` once the bootstrap, `allGather1Data` and the checks of lines
764-1039 succeed, on the intraRank-0 member or another whose `comm0` holds its five blocks.
The bootstrap state is block `s.heap.next`, `comm->peerInfo` and the `CliqueManager` blocks
`s.heap.next + 2` and `s.heap.next + 3`, `rings` block `s.heap.next + 8`, and what
`ncclCommSetIntra` allocates comes after. -/
theorem initTransportsRankHeap_run_late {s : Proc} (hcomm : comm ∈ s.heap.live)
    (hboot : calls.bootstrapInit = ncclSuccess)
    (hag1 : calls.calloc .allGather1Data = ncclSuccess)
    (hearly : firstFailure (calls.early gathered rank) = ncclSuccess)
    (hk : intraRankOf gathered rank = 0 ∨
      SharedReady s (intraRank0Comm gathered rank) ∧ intraRank0Comm gathered rank ≠ comm) :
    ∃ s', (initTransportsRankHeap calls gathered rank comm).run s =
        .ok (firstFailure (calls.connect :: calls.late gathered rank), s') ∧
      s'.heap.live = s.heap.live ∪ {s.heap.next, s.heap.next + 2, s.heap.next + 3} ∪
        (if calls.connect = ncclSuccess then ∅ else {s.heap.next + 8}) ∪
        Finset.Ico (s.heap.next + 9) s'.heap.next ∧
      s.heap.next + 9 ≤ s'.heap.next ∧ s'.device = s.device ∧
      (∀ q < s.heap.next, q ≠ comm → s'.comm q = s.comm q) ∧
      s'.comm comm = { s.comm comm with
        bootstrap := s.heap.next, peerInfo := s.heap.next + 2, cliqueManager := s.heap.next + 3,
        intra := (s'.comm comm).intra, launchMode := (s'.comm comm).launchMode } ∧
      (∀ x, s.heap.next + 9 ≤ x → x < s'.heap.next → ∃ f, (s'.comm comm).intra f = x) ∧
      (firstFailure (calls.connect :: calls.late gathered rank) = ncclSuccess →
        s'.heap.next = s.heap.next + 9 + (if intraRankOf gathered rank = 0 then 5 else 0) ∧
        (s'.comm comm).launchMode = launchModeOf (calls.intraEnv gathered rank) ∧
        ∀ f, (s'.comm comm).intra f = if intraRankOf gathered rank = 0 then
          s.heap.next + 9 + f.index else (s.comm (intraRank0Comm gathered rank)).intra f) := by
  obtain ⟨s0, h0, hnext0, hlive0, hc0, hdev0, hframe0⟩ := bootstrapInit_run_success comm hcomm
  have hcomm0 : comm ∈ s0.heap.live := by rw [hlive0]; exact Finset.mem_insert_of_mem hcomm
  obtain ⟨s1, h1, hlive1, hnext1, hc1, hdev1, hframe1⟩ :=
    initTransportsRankArrays_run_late calls gathered rank comm hcomm0 hag1 hearly
  rw [hnext0] at hlive1 hnext1 hc1
  rw [hc0] at hc1
  rw [initTransportsRankHeap_run_of_bootstrap calls gathered rank comm hboot h0 h1]
  -- what lines 760-1117 leave
  have hlive1' : s1.heap.live = s.heap.live ∪ {s.heap.next, s.heap.next + 2, s.heap.next + 3} ∪
      (if calls.connect = ncclSuccess then ∅ else {s.heap.next + 8}) := by
    rw [hlive1, hlive0]
    ext x
    by_cases hx : x ∈ s.heap.live <;> split_ifs <;> simp [hx] <;> omega
  have hframe1' : ∀ q < s.heap.next, q ≠ comm → s1.comm q = s.comm q := fun q hq hqc =>
    (hframe1 q (by omega) hqc).trans (hframe0 q hq hqc)
  have hsub1 : s.heap.live ⊆ s1.heap.live := by
    rw [hlive1']; exact Finset.subset_union_left.trans Finset.subset_union_left
  by_cases hconn : calls.connect = ncclSuccess
  swap
  · -- lines 1067-1114 fail: `rings` stays live
    refine ⟨s1, ?_, by rw [hlive1', hnext1]; simp, by omega, hdev1.trans hdev0, hframe1', ?_,
      fun x hx hx' => absurd hx' (by omega), fun h => absurd ((firstFailure_cons_of_ne hconn _).symm.trans h) hconn⟩
    · rw [if_pos hconn, firstFailure_cons_of_ne hconn]
      rfl
    · rw [hc1]
  -- lines 1120-1127
  have hcomm1 : comm ∈ s1.heap.live := hsub1 hcomm
  have hk1 : intraRankOf gathered rank = 0 ∨
      SharedReady s1 (intraRank0Comm gathered rank) ∧ intraRank0Comm gathered rank ≠ comm :=
    hk.imp_right fun ⟨⟨hc0', hready⟩, hne⟩ => ⟨⟨hsub1 hc0', fun f => by
      rw [hframe1' _ (s.heap.bounded _ hc0').2 hne]; exact hsub1 (hready f)⟩, hne⟩
  obtain ⟨s', hrun, hstep, hok⟩ :=
    initTransportsRankEnd_run calls gathered rank comm (s := s1) hcomm1 hk1
  refine ⟨s', ?_, ?_, by have := hstep.next_le; omega, hstep.device_eq.trans (hdev1.trans hdev0),
    fun q hq hqc => (hstep.frame q (by omega) hqc).trans (hframe1' q hq hqc), ?_,
    fun x hx hx' => hstep.stored x (by omega) hx', fun h => ?_⟩
  · rw [if_neg (not_not.2 hconn), hconn, firstFailure_cons_success]
    exact hrun
  · rw [hstep.live_eq, hlive1', hnext1]
  · rw [hstep.comm_eq, hc1]
  · rw [hconn, firstFailure_cons_success] at h
    obtain ⟨hn, hmode, hintra⟩ := hok h
    refine ⟨by rw [hn, hnext1], hmode, fun f => ?_⟩
    rw [hintra f, hnext1]
    split_ifs with hk0
    · rfl
    · obtain ⟨⟨hc0', -⟩, hne⟩ := hk.resolve_left hk0
      rw [hframe1' _ (s.heap.bounded _ hc0').2 hne]

/-- When the bootstrap, `allGather1Data` and every check of lines 764-1039 succeed, on the
intraRank-0 member or another whose `comm0` holds its five blocks, `initTransportsRank` frees
the five arrays of lines 1042-1046 and, unless lines 1067-1114 fail, `rings`, without getting
stuck, and returns the first failure of what follows. What it leaves live is the blocks it
stored in the communicator: the bootstrap state, `comm->peerInfo`, `comm->cliqueManager`, and
the blocks `ncclCommSetIntra` allocated, each held in one of the shared pointers; and `rings`
when lines 1067-1114 fail. -/
theorem initTransportsRank_late_frees {s : Proc} (hcomm : comm ∈ s.heap.live)
    (hboot : calls.bootstrapInit = ncclSuccess)
    (hag1 : calls.calloc .allGather1Data = ncclSuccess)
    (hearly : firstFailure (calls.early gathered rank) = ncclSuccess)
    (hk : intraRankOf gathered rank = 0 ∨
      SharedReady s (intraRank0Comm gathered rank) ∧ intraRank0Comm gathered rank ≠ comm) :
    ∃ s', (initTransportsRankHeap calls gathered rank comm).run s =
        .ok (firstFailure (calls.connect :: calls.late gathered rank), s') ∧
      s'.heap.live = s.heap.live ∪ {s.heap.next, s.heap.next + 2, s.heap.next + 3} ∪
        (if calls.connect = ncclSuccess then ∅ else {s.heap.next + 8}) ∪
        Finset.Ico (s.heap.next + 9) s'.heap.next ∧
      (s'.comm comm).bootstrap = s.heap.next ∧ (s'.comm comm).peerInfo = s.heap.next + 2 ∧
      (s'.comm comm).cliqueManager = s.heap.next + 3 ∧
      ∀ x, s.heap.next + 9 ≤ x → x < s'.heap.next → ∃ f, (s'.comm comm).intra f = x := by
  obtain ⟨s', hrun, hlive, -, -, -, hc, hstored, -⟩ :=
    initTransportsRankHeap_run_late calls gathered rank comm hcomm hboot hag1 hearly hk
  exact ⟨s', hrun, hlive, by rw [hc], by rw [hc], by rw [hc], hstored⟩

/-- Outcomes where lines 1067-1114 fail and every other call succeeds. -/
def TransportCalls.connectFails : TransportCalls :=
  { TransportCalls.allOk with connect := ncclSystemError }

/-- A single rank on its own GPU. -/
def singleRankArray : List AllGather1Data := [⟨⟨5, 1, 10⟩, 1, 90⟩]

/-- Lines 1067-1114 fail on the one rank of `oneRankProc`: `rings` (block `15`) stays live
beside the bootstrap state, `comm->peerInfo` and `comm->cliqueManager` (blocks `7`, `9` and
`10`), and `ncclCommSetIntra` is not reached. -/
theorem initTransportsRank_late_frees_connectFails :
    1 ∈ oneRankProc.heap.live ∧
      firstFailure (TransportCalls.connectFails.early singleRankArray 0) = ncclSuccess ∧
      intraRankOf singleRankArray 0 = 0 ∧
      ∃ s', (initTransportsRankHeap TransportCalls.connectFails singleRankArray 0 1).run oneRankProc =
          .ok (firstFailure (ncclSystemError :: TransportCalls.connectFails.late singleRankArray 0),
            s') ∧
        s'.heap.live = oneRankProc.heap.live ∪
          {oneRankProc.heap.next, oneRankProc.heap.next + 2, oneRankProc.heap.next + 3} ∪
          (if ncclSystemError = ncclSuccess then ∅ else {oneRankProc.heap.next + 8}) ∪
          Finset.Ico (oneRankProc.heap.next + 9) s'.heap.next ∧
        (s'.comm 1).bootstrap = oneRankProc.heap.next ∧
        (s'.comm 1).peerInfo = oneRankProc.heap.next + 2 ∧
        (s'.comm 1).cliqueManager = oneRankProc.heap.next + 3 ∧
        ∀ x, oneRankProc.heap.next + 9 ≤ x → x < s'.heap.next → ∃ f, (s'.comm 1).intra f = x :=
  ⟨by decide, by decide, by decide,
    initTransportsRank_late_frees _ _ _ _ (by decide) rfl rfl (by decide) (Or.inl (by decide))⟩

/-- `initTransportsRank` on a live communicator, on the intraRank-0 member or another whose
`comm0` holds its five blocks, whatever its calls return: it does not get stuck, frees no block
that was live when it was called, writes no block it found but `comm`, and keeps the device;
the bootstrap state, once `bootstrapInit` has succeeded, stays live and held by `comm`. When it
succeeds, what it leaves live besides the blocks it found is the blocks it stored in `comm`. -/
theorem initTransportsRankHeap_spec {s : Proc} (hcomm : comm ∈ s.heap.live)
    (hk : intraRankOf gathered rank = 0 ∨
      SharedReady s (intraRank0Comm gathered rank) ∧ intraRank0Comm gathered rank ≠ comm) :
    ∃ r s', (initTransportsRankHeap calls gathered rank comm).run s = .ok (r, s') ∧
      s.heap.next ≤ s'.heap.next ∧ s.heap.live ⊆ s'.heap.live ∧ s'.device = s.device ∧
      (∀ q < s.heap.next, q ≠ comm → s'.comm q = s.comm q) ∧
      (calls.bootstrapInit = ncclSuccess →
        s.heap.next ∈ s'.heap.live ∧ (s'.comm comm).bootstrap = s.heap.next) ∧
      (calls.bootstrapInit ≠ ncclSuccess → r = calls.bootstrapInit ∧ s' = s) ∧
      (r = ncclSuccess →
        s'.heap.live = s.heap.live ∪ {s.heap.next, s.heap.next + 2, s.heap.next + 3} ∪
          Finset.Ico (s.heap.next + 9) s'.heap.next ∧
        s'.heap.next = s.heap.next + 9 + (if intraRankOf gathered rank = 0 then 5 else 0) ∧
        s'.comm comm = { s.comm comm with
          bootstrap := s.heap.next, peerInfo := s.heap.next + 2, cliqueManager := s.heap.next + 3,
          intra := fun f => if intraRankOf gathered rank = 0 then s.heap.next + 9 + f.index
            else (s.comm (intraRank0Comm gathered rank)).intra f,
          launchMode := launchModeOf (calls.intraEnv gathered rank) }) := by
  by_cases hboot : calls.bootstrapInit = ncclSuccess
  swap
  · exact ⟨_, s, initTransportsRankHeap_run_boot_failure calls gathered rank comm hboot, le_rfl,
      subset_rfl, rfl, fun _ _ _ => rfl, fun h => absurd h hboot, fun _ => ⟨rfl, rfl⟩,
      fun h => absurd h hboot⟩
  obtain ⟨s0, h0, hnext0, hlive0, hc0, hdev0, hframe0⟩ := bootstrapInit_run_success comm hcomm
  have hsub0 : s.heap.live ⊆ s0.heap.live := by rw [hlive0]; exact Finset.subset_insert _ _
  have hb0 : s.heap.next ∈ s0.heap.live := by rw [hlive0]; exact Finset.mem_insert_self _ _
  by_cases hag1 : calls.calloc .allGather1Data = ncclSuccess
  swap
  · -- `allGather1Data` is not allocated
    refine ⟨_, s0, ?_, by omega, hsub0, hdev0, hframe0, fun _ => ⟨hb0, by rw [hc0]⟩,
      fun h => absurd hboot h, fun h => absurd h hag1⟩
    rw [initTransportsRankHeap_run_of_bootstrap calls gathered rank comm hboot h0
      (initTransportsRankArrays_run_ag1_failure calls gathered rank comm hag1), if_pos hag1]
    rfl
  by_cases hearly : firstFailure (calls.early gathered rank) = ncclSuccess
  · -- the checks pass
    obtain ⟨s', hrun, hlive, hle, hdev, hframe, hc, -, hok⟩ :=
      initTransportsRankHeap_run_late calls gathered rank comm hcomm hboot hag1 hearly hk
    refine ⟨_, s', hrun, by omega, fun x hx => ?_, hdev, hframe,
      fun _ => ⟨?_, by rw [hc]⟩, fun h => absurd hboot h, fun hr => ?_⟩
    · rw [hlive]; simp [hx]
    · rw [hlive]; simp
    obtain ⟨hn, hmode, hintra⟩ := hok hr
    have hconn : calls.connect = ncclSuccess :=
      (firstFailure_eq_success_iff _).1 hr _ (List.mem_cons_self _ _)
    refine ⟨by rw [hlive, hconn, if_pos rfl, Finset.union_empty], hn, ?_⟩
    rw [hc, hmode, show (s'.comm comm).intra = _ from funext hintra]
  · -- a check fails: nothing is freed
    obtain ⟨s', hrun, hN⟩ := initTransportsRankArrays_run_early calls gathered rank comm
      (hsub0 hcomm) hag1 hearly
    refine ⟨_, s', ?_, by have := hN.next_le; omega, fun x hx => hN.mem (hsub0 hx),
      hN.device_eq.trans hdev0, fun q hq hqc => (hN.frame q (by omega) hqc).trans
        (hframe0 q hq hqc), fun _ => ⟨hN.mem hb0, by rw [hN.bootstrap_eq, hc0]⟩,
      fun h => absurd hboot h, fun h => absurd h hearly⟩
    rw [initTransportsRankHeap_run_of_bootstrap calls gathered rank comm hboot h0 hrun,
      if_pos hearly]
    rfl

/-! ## From `commAlloc` to `ncclCommDestroy` -/

/-- The communicator `initTransportsRank` of the intraRank-0 member leaves in block `p`, which
`commAlloc` built with its arrays in blocks `p + 1` to `p + 5`: the bootstrap state in block
`q`, `peerInfo` and the `CliqueManager` in blocks `q + 2` and `q + 3`, the shared blocks from
`q + 9` on, and the launch mode `mode`. -/
def initializedComm (p q : Nat) (ndev rank cudaDev busId : Int) (doneEvent : Nat)
    (mode : LaunchMode) : Comm :=
  { allocatedComm p ndev rank cudaDev busId doneEvent with
    bootstrap := q, peerInfo := q + 2, cliqueManager := q + 3, launchMode := mode,
    intra := fun f => q + 9 + f.index }

theorem released_initializedComm (p q : Nat) (ndev rank cudaDev busId : Int) (doneEvent : Nat)
    (mode : LaunchMode) (isLast : Bool) :
    (initializedComm p q ndev rank cudaDev busId doneEvent mode).released isLast =
      [q + 3, p + 2, p + 3, p + 4, p + 5, p + 1, q + 2, q] ++
        if isLast then [q + 9, q + 10, q + 11, q + 12, q + 13] else [] := by
  cases isLast <;> rfl

/-- The communicator after `initTransportsRank` of the intraRank-0 member owns the blocks of
`commAlloc`, the bootstrap state, `peerInfo`, the `CliqueManager` and the five shared
blocks. -/
theorem owns_initializedComm {s : Proc} {p q : Nat} {ndev rank cudaDev busId : Int}
    {doneEvent : Nat} {mode : LaunchMode}
    (hcomm : s.comm p = initializedComm p q ndev rank cudaDev busId doneEvent mode)
    (hq : p + 6 ≤ q) (hblocks : ∀ k < 6, p + k ∈ s.heap.live)
    (hstate : ∀ k, k = 0 ∨ k = 2 ∨ k = 3 ∨ 9 ≤ k ∧ k < 14 → q + k ∈ s.heap.live) : Owns s p := by
  have hp : p ≠ 0 := Heap.ne_zero_of_mem (hblocks 0 (by omega))
  refine ⟨hblocks 0 (by omega), ?_, ?_, ?_⟩ <;>
    simp only [hcomm, released_initializedComm, if_true, List.cons_append, List.nil_append,
      List.mem_cons, List.not_mem_nil, or_false]
  · rintro x (rfl | rfl | rfl | rfl | rfl | rfl | rfl | rfl | rfl | rfl | rfl | rfl | rfl)
    all_goals first | exact Or.inr (hblocks _ (by omega)) | exact Or.inr (hstate _ (by omega)) |
      exact Or.inr (hstate 0 (by omega))
  · omega
  · simp [List.filter, show p + 2 ≠ 0 by omega, show p + 3 ≠ 0 by omega,
      show p + 4 ≠ 0 by omega, show p + 5 ≠ 0 by omega, show q ≠ 0 by omega]
    omega

/-- What the destroy of that communicator leaves of the heap `commAlloc` and
`initTransportsRank` grew from `L`, all of whose blocks lie below `n`: `L`, and the five
shared blocks unless the last rank of the process freed them. -/
theorem live_sdiff_released_initializedComm (L : Finset Nat) (n : Nat) (hL : ∀ x ∈ L, x < n)
    (isLast : Bool) :
    (L ∪ Finset.Ico n (n + 6) ∪ {n + 6, n + 6 + 2, n + 6 + 3} ∪
        Finset.Ico (n + 6 + 9) (n + 6 + 9 + 5)) \
      insert n ([n + 6 + 3, n + 2, n + 3, n + 4, n + 5, n + 1, n + 6 + 2, n + 6] ++
        if isLast then [n + 6 + 9, n + 6 + 10, n + 6 + 11, n + 6 + 12, n + 6 + 13]
        else []).toFinset =
      L ∪ if isLast then ∅ else Finset.Ico (n + 15) (n + 20) := by
  ext x
  simp only [Finset.mem_sdiff, Finset.mem_union, Finset.mem_Ico, Finset.mem_insert,
    Finset.mem_singleton, List.mem_toFinset, List.mem_append, List.mem_cons, List.not_mem_nil,
    or_false]
  by_cases hx : x ∈ L
  · have := hL x hx
    cases isLast <;> simp [hx] <;> omega
  · cases isLast <;> simp [hx] <;> omega

/-- One rank's communicator from `commAlloc` through `initTransportsRank` of the intraRank-0
member, with every call succeeding, to `ncclCommDestroy`, with every call succeeding: each block
allocated on the way is freed once, but for the five shared blocks, which only the last rank of
the process frees. The heap ends as it began, and with the shared blocks still live when the
destroy is not the last rank's. -/
theorem commAlloc_initTransports_destroy_round_trip (maxChannels : Nat) (acalls : AllocCalls)
    (tcalls : TransportCalls) (dcalls : DestroyCalls) (gathered : List AllGather1Data)
    {ndev rank busId : Int} {doneEvent : Nat} (s : Proc)
    (hndev : 1 ≤ ndev) (hrank : 0 ≤ rank ∧ rank < ndev) (hcalls : acalls.Succeed doneEvent busId)
    (hdev : acalls.getDevice.getD 0 ≠ -1) (hbus : busId ≠ -1)
    (hboot : tcalls.bootstrapInit = ncclSuccess)
    (hag1 : tcalls.calloc .allGather1Data = ncclSuccess)
    (hearly : firstFailure (tcalls.early gathered rank.toNat) = ncclSuccess)
    (hconnect : tcalls.connect = ncclSuccess) (hk : intraRankOf gathered rank.toNat = 0)
    (hlate : firstFailure (tcalls.late gathered rank.toNat) = ncclSuccess)
    (hdestroy : dcalls.Succeed maxChannels s.device
      (initializedComm s.heap.next (s.heap.next + 6) ndev rank (acalls.getDevice.getD 0) busId
        doneEvent (launchModeOf (tcalls.intraEnv gathered rank.toNat)))) :
    ∃ s1 s2 s3, (commAlloc acalls ndev rank).run s = .ok ((ncclSuccess, some s.heap.next), s1) ∧
      (initTransportsRankHeap tcalls gathered rank.toNat s.heap.next).run s1 =
        .ok (ncclSuccess, s2) ∧
      (ncclCommDestroy maxChannels dcalls s.heap.next).run s2 = .ok (ncclSuccess, s3) ∧
      s3.heap.live = s.heap.live ∪
        if dcalls.free.isLast then ∅ else Finset.Ico (s.heap.next + 15) (s.heap.next + 20) := by
  obtain ⟨s1, hrun1, hlive1, hnext1, hcomm1, hdev1, -⟩ :=
    commAlloc_run_succeed acalls hndev hrank hcalls s
  have hblocks : ∀ k < 6, s.heap.next + k ∈ s1.heap.live := fun k hk => by
    rw [hlive1]; exact Finset.mem_union_right _ (Finset.mem_Ico.mpr ⟨by omega, by omega⟩)
  have hff : firstFailure (tcalls.connect :: tcalls.late gathered rank.toNat) = ncclSuccess := by
    rw [hconnect, firstFailure_cons_success, hlate]
  obtain ⟨s2, hrun2, hlive2, -, hdev2, -, hc2, -, hok2⟩ := initTransportsRankHeap_run_late tcalls
    gathered rank.toNat s.heap.next (hblocks 0 (by omega)) hboot hag1 hearly (Or.inl hk)
  obtain ⟨hnext2, hmode2, hintra2⟩ := hok2 hff
  rw [hff] at hrun2
  rw [hnext1, hk, if_pos rfl] at hnext2
  rw [hconnect, if_pos rfl, Finset.union_empty, hnext1, hnext2] at hlive2
  have hcomm2 : s2.comm s.heap.next = initializedComm s.heap.next (s.heap.next + 6) ndev rank
      (acalls.getDevice.getD 0) busId doneEvent (launchModeOf (tcalls.intraEnv gathered rank.toNat)) := by
    rw [hc2, hcomm1, hmode2, hnext1, show (s2.comm s.heap.next).intra = _ from funext hintra2]
    simp only [hk, if_pos, hnext1]
    rfl
  have hmem : ∀ k, k = 0 ∨ k = 2 ∨ k = 3 ∨ 9 ≤ k ∧ k < 14 →
      s.heap.next + 6 + k ∈ s2.heap.live := fun k hk => by
    rw [hlive2]
    simp only [Finset.mem_union, Finset.mem_insert, Finset.mem_singleton, Finset.mem_Ico]
    omega
  have hown := owns_initializedComm hcomm2 le_rfl (fun k hk => by
    rw [hlive2]; exact Finset.mem_union_left _ (Finset.mem_union_left _ (hblocks k hk))) hmem
  have hok : ¬(s2.comm s.heap.next).poisoned := by
    simp only [hcomm2, initializedComm, allocatedComm, Comm.poisoned]; omega
  rw [← hdev1, ← hdev2] at hdestroy
  obtain ⟨s3, hrun3, hlive3, -, -⟩ :=
    ncclCommDestroy_run_owned maxChannels dcalls hown hok (hcomm2 ▸ hdestroy)
  refine ⟨s1, s2, s3, hrun1, hrun2, hrun3, ?_⟩
  rw [hlive3, hlive2, hlive1, hcomm2, released_initializedComm]
  exact live_sdiff_released_initializedComm s.heap.live s.heap.next
    (fun x hx => (s.heap.bounded x hx).2) dcalls.free.isLast

/-- One rank on `Proc.init`: the communicator in block `1`, its arrays in `2` to `6`, the
bootstrap state in `7`, the shared blocks in `16` to `20`, and an empty heap after
`ncclCommDestroy` by the last rank of the process. -/
theorem commAlloc_initTransports_destroy_round_trip_one_rank :
    AllocCalls.allOk.Succeed 1 0 ∧
      firstFailure (TransportCalls.allOk.early singleRankArray 0) = ncclSuccess ∧
      intraRankOf singleRankArray 0 = 0 ∧
      firstFailure (TransportCalls.allOk.late singleRankArray 0) = ncclSuccess ∧
      DestroyCalls.allOk.Succeed 0 0 (initializedComm 1 7 1 0 0 0 1
        (launchModeOf (TransportCalls.allOk.intraEnv singleRankArray 0))) ∧
      ∃ s1 s2 s3, (commAlloc AllocCalls.allOk 1 0).run Proc.init = .ok ((ncclSuccess, some 1), s1) ∧
        (initTransportsRankHeap TransportCalls.allOk singleRankArray 0 1).run s1 =
          .ok (ncclSuccess, s2) ∧
        (ncclCommDestroy 0 DestroyCalls.allOk 1).run s2 = .ok (ncclSuccess, s3) ∧
        s3.heap.live = Proc.init.heap.live ∪
          if DestroyCalls.allOk.free.isLast then ∅ else Finset.Ico 16 21 :=
  have hcalls : AllocCalls.allOk.Succeed 1 0 := ⟨rfl, fun _ => rfl, rfl⟩
  have hdestroy : DestroyCalls.allOk.Succeed 0 0 (initializedComm 1 7 1 0 0 0 1
      (launchModeOf (TransportCalls.allOk.intraEnv singleRankArray 0))) :=
    ⟨rfl, fun h => absurd rfl h, rfl, rfl, by decide⟩
  ⟨hcalls, by decide, by decide, by decide, hdestroy, commAlloc_initTransports_destroy_round_trip 0
    AllocCalls.allOk TransportCalls.allOk DestroyCalls.allOk singleRankArray Proc.init (by decide)
    (by decide) hcalls (by decide) (by decide) rfl rfl (by decide) rfl (by decide) (by decide)
    hdestroy⟩

/-! ## `ncclCommInitRankSync` with `initTransportsRank` on the heap -/

/-- `ncclCommInitRankSync(newcomm, nranks, commId, myrank, cudaDev)`, lines 1139-1154, with
`initTransportsRank` run on the heap as `initTransportsRankHeap` for rank `myrank` of
`gathered`; `calls.bootstrapInit` and `calls.initTransportsRank` are not read. -/
def Transports.ncclCommInitRankSync (calls : SyncCalls) (tcalls : TransportCalls)
    (gathered : List AllGather1Data) (newcomm : Nat) (nranks myrank cudaDev : Int) :
    LifeM (NcclResult × Nat) :=
  ncclCommInitRankSyncWith (initTransportsRankHeap tcalls gathered myrank.toNat) calls newcomm
    nranks myrank cudaDev

/-- A run `c` of a detailed model against a run `a` of an abstract one: both get stuck on the
same error, or both return the same value on the same device, every block live after `a`
being live after `c`. -/
def Refines {α : Type} : Except Stuck (α × Proc) → Except Stuck (α × Proc) → Prop
  | .ok (x, c), .ok (y, a) => x = y ∧ a.heap.live ⊆ c.heap.live ∧ a.device = c.device
  | .error e, .error e' => e = e'
  | _, _ => False

theorem Refines.refl {α : Type} (x : Except Stuck (α × Proc)) : Refines x x := by
  rcases x with _ | ⟨_, _⟩ <;> simp [Refines]

/-- The cleanup of a communicator whose bootstrap state is the same in both runs. -/
theorem initRankSyncCleanup_refines (abortRes r : NcclResult) {a c : Proc} {p : Nat}
    (hp : p ∈ a.heap.live) (hsub : a.heap.live ⊆ c.heap.live) (hdev : a.device = c.device)
    (hb : (c.comm p).bootstrap = (a.comm p).bootstrap)
    (hba : (a.comm p).bootstrap = 0 ∨ (a.comm p).bootstrap ∈ a.heap.live) :
    Refines ((initRankSyncCleanup abortRes p r).run c) ((initRankSyncCleanup abortRes p r).run a) := by
  rw [initRankSyncCleanup_run_live _ _ hp hba,
    initRankSyncCleanup_run_live _ _ (hsub hp) (hb ▸ hba.imp_right (@hsub _)), hb]
  refine ⟨rfl, ?_, ?_⟩ <;> split_ifs
  · exact Finset.erase_subset_erase _ hsub
  · exact hsub
  · exact hdev
  · exact hdev

/-- `Lifecycle.ncclCommInitRankSync`, which takes the rest of `initTransportsRank` by its
result, abstracts the run with `initTransportsRank` on the heap, on the intraRank-0 member or
another whose `comm0` holds its five blocks: for the result `initTransportsRank` returns there,
with the same `bootstrapInit`, the two runs get stuck alike or return the same result and
`*newcomm` on the same device, and what the abstract run leaves live the detailed one leaves
live too. So what `Lifecycle.ncclCommInitRankSync` keeps live, in particular the blocks its
failures leak, stays live when `initTransportsRank`'s own blocks are counted. -/
theorem ncclCommInitRankSync_refines (calls : SyncCalls) (tcalls : TransportCalls)
    (gathered : List AllGather1Data) (newcomm : Nat) (nranks myrank cudaDev : Int) (s : Proc)
    (hk : intraRankOf gathered myrank.toNat = 0 ∨
      SharedReady s (intraRank0Comm gathered myrank.toNat)) :
    ∃ r, Refines
      ((Transports.ncclCommInitRankSync calls tcalls gathered newcomm nranks myrank cudaDev).run s)
      ((Lifecycle.ncclCommInitRankSync
        { calls with bootstrapInit := tcalls.bootstrapInit, initTransportsRank := r } newcomm
          nranks myrank cudaDev).run s) := by
  by_cases hset : calls.hipSetDevice = true
  swap
  · have hset' : calls.hipSetDevice = false := by simpa using hset
    refine ⟨ncclSuccess, ?_⟩
    rw [Transports.ncclCommInitRankSync, Lifecycle.ncclCommInitRankSync,
      ncclCommInitRankSyncWith_run_setDevice_failure _ _ _ _ _ _ hset',
      ncclCommInitRankSyncWith_run_setDevice_failure _
        { calls with bootstrapInit := tcalls.bootstrapInit, initTransportsRank := ncclSuccess }
        _ _ _ _ hset']
    exact Refines.refl _
  have hpost := commAlloc_allocPost (E := fun _ => False) calls.alloc nranks myrank
    { s with device := cudaDev } _ (Grown.refl _)
  revert hpost
  rcases hrun : (commAlloc calls.alloc nranks myrank).run { s with device := cudaDev } with
    e | ⟨⟨res, o⟩, s1⟩
  · exact False.elim
  rintro ⟨-, -, -, hok⟩
  by_cases hres : res = ncclSuccess
  swap
  · refine ⟨ncclSuccess, ?_⟩
    rw [Transports.ncclCommInitRankSync, Lifecycle.ncclCommInitRankSync,
      ncclCommInitRankSyncWith_run_alloc_failure _ _ _ _ _ _ hset hrun hres,
      ncclCommInitRankSyncWith_run_alloc_failure _
        { calls with bootstrapInit := tcalls.bootstrapInit, initTransportsRank := ncclSuccess }
        _ _ _ _ hset hrun hres]
    exact Refines.refl _
  -- `commAlloc` succeeded: its communicator is block `s.heap.next`
  obtain ⟨hndev, hrank, doneEvent, busId, hcalls⟩ := hok hres
  obtain ⟨s1', hrun1, hlive1, -, -, hdev1, hframe1⟩ :=
    commAlloc_run_succeed calls.alloc hndev hrank hcalls { s with device := cudaDev }
  obtain ⟨⟨rfl, rfl⟩, rfl⟩ := Prod.mk.inj (Except.ok.inj (hrun.symm.trans hrun1))
  dsimp only at hlive1 hdev1 hframe1
  have hp : s.heap.next ∈ s1.heap.live := by rw [hlive1]; simp
  have hsub1 : s.heap.live ⊆ s1.heap.live := by rw [hlive1]; exact Finset.subset_union_left
  have hk1 : intraRankOf gathered myrank.toNat = 0 ∨
      SharedReady s1 (intraRank0Comm gathered myrank.toNat) ∧
        intraRank0Comm gathered myrank.toNat ≠ s.heap.next :=
    hk.imp_right fun ⟨h0, hready⟩ => by
      have hlt := (s.heap.bounded _ h0).2
      exact ⟨⟨hsub1 h0, fun f => by rw [hframe1 _ hlt]; exact hsub1 (hready f)⟩, by omega⟩
  obtain ⟨r, s2, hrun2, -, hsub2, hdev2, -, hbootok, hbootfail, -⟩ :=
    initTransportsRankHeap_spec tcalls gathered myrank.toNat s.heap.next hp hk1
  refine ⟨r, ?_⟩
  have hinit := initTransportsRankResult_run tcalls.bootstrapInit r hp
  rw [Transports.ncclCommInitRankSync, ncclCommInitRankSyncWith_run_alloc _ _ _ _ _ _ hset hrun hrun2,
    Lifecycle.ncclCommInitRankSync]
  dsimp only
  by_cases hboot : tcalls.bootstrapInit = ncclSuccess
  swap
  · -- no bootstrap state: both runs go on from `s1` with `bootstrapInit`'s result
    obtain ⟨rfl, rfl⟩ := hbootfail hboot
    rw [if_neg hboot] at hinit
    rw [ncclCommInitRankSyncWith_run_alloc _
      { calls with bootstrapInit := tcalls.bootstrapInit, initTransportsRank := tcalls.bootstrapInit }
      _ _ _ _ hset hrun hinit]
    exact Refines.refl _
  -- the bootstrap state is block `s1.heap.next` in both runs
  rw [if_pos hboot] at hinit
  rw [ncclCommInitRankSyncWith_run_alloc _
    { calls with bootstrapInit := tcalls.bootstrapInit, initTransportsRank := r }
    _ _ _ _ hset hrun hinit]
  obtain ⟨hb2, hbc2⟩ := hbootok hboot
  have hsubA : (insert s1.heap.next s1.heap.live) ⊆ s2.heap.live :=
    Finset.insert_subset hb2 hsub2
  split_ifs
  · exact ⟨rfl, hsubA, hdev2.symm⟩
  · refine initRankSyncCleanup_refines _ _ (by simp [hp]) hsubA hdev2.symm ?_ (Or.inr ?_) <;>
      simp [hbc2]

/-- One rank of its own process on `Proc.init`. -/
theorem ncclCommInitRankSync_refines_one_rank :
    (intraRankOf singleRankArray 0 = 0 ∨ SharedReady Proc.init (intraRank0Comm singleRankArray 0)) ∧
      ∃ r, Refines
        ((Transports.ncclCommInitRankSync SyncCalls.allOk TransportCalls.allOk singleRankArray 0 1 0
          0).run Proc.init)
        ((Lifecycle.ncclCommInitRankSync { SyncCalls.allOk with
          bootstrapInit := TransportCalls.allOk.bootstrapInit, initTransportsRank := r } 0 1 0
            0).run Proc.init) :=
  ⟨Or.inl (by decide), ncclCommInitRankSync_refines SyncCalls.allOk TransportCalls.allOk
    singleRankArray 0 1 0 0 Proc.init (Or.inl (by decide))⟩

end Run

end RcclInit
