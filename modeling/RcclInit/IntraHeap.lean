import RcclInit.Heap
import RcclInit.CollNet

/-!
# `ncclCommSetIntra` on the heap

`Intra.lean` runs the members of a process's group together, interleaved, to show that they
agree on the shared blocks and the launch mode. Here one member's `ncclCommSetIntra` (lines
533-590) runs on the heap of `Lifecycle`, as `initTransportsRank` calls it at line 1125. The
intraRank-0 member allocates the five shared blocks and stores each into its communicator
(`allocShared`); another member copies `comm0`'s five pointers into its own (`adoptShared`);
then each writes into the blocks it holds (`setIntraLaunch`).

The run is sequential: a pointer of `comm0` that is still `NULL` is a wait
(`Stuck.blocked`), and whether such a wait ends is the question `Intra.lean` answers over the
interleavings. One member after another, `*comm->intraCC` holds the intraRank-0 member's
compute capability by the time another member reads it.

The intraRank-0 member's allocations return the first failure, and the blocks of the fields
before it are new blocks, stored into the communicator in turn (`allocShared_run`). So
`ncclCommSetIntra` of the intraRank-0 member, or of another member whose `comm0` holds five
live blocks (`SharedReady`), frees nothing and does not get stuck; each block it allocates is
held by the communicator; and on success the communicator holds the intraRank-0 member's
block `s.heap.next + f.index` in each field `f`, or `comm0`'s (`ncclCommSetIntraHeap_run`).
-/

set_option autoImplicit false

namespace RcclInit

open NcclResult

/-! ## The function -/

/-- The shared fields in the order of lines 540-560. -/
def sharedFields : List SharedField :=
  [.intraBarrier, .intraParams, .intraCudaDevs, .intraCGMode, .intraCC]

theorem mem_sharedFields (f : SharedField) : f ∈ sharedFields := by
  cases f <;> simp [sharedFields]

theorem sharedFields_nodup : sharedFields.Nodup := by decide

/-- What `ncclCalloc` for the shared field `f` returns: `ncclSystemError` when `calloc`
fails. -/
def IntraEnv.callocResult (env : IntraEnv) (f : SharedField) : NcclResult :=
  if env.callocOk f then ncclSuccess else ncclSystemError

/-- Lines 540-553, on the intraRank-0 member: `NCCLCHECK(ncclCalloc(...))` for each of `fs` in
turn, the block stored into the communicator's field. `bar`, `CGMode` and `CC` are locals
stored into the communicator right after their allocation; what is written into the blocks is
not modelled. -/
def allocShared (env : IntraEnv) (comm : Nat) : List SharedField → LifeM NcclResult
  | [] => pure ncclSuccess
  | f :: fs => do
    let res ← callocInto comm (env.callocResult f) fun c p =>
      { c with intra := Function.update c.intra f p }
    if res ≠ ncclSuccess then return res
    allocShared env comm fs

/-- Lines 556-560, on another member: `comm->f = waitForNonNullPtr(&comm0->f)` for each of
`fs` in turn; a pointer `comm0` does not hold yet is a wait. -/
def adoptShared (comm comm0 : Nat) : List SharedField → LifeM Unit
  | [] => pure ()
  | f :: fs => do
    let c0 ← readComm comm0
    if c0.intra f = 0 then throw .blocked
    writeComm comm fun c => { c with intra := Function.update c.intra f (c0.intra f) }
    adoptShared comm comm0 fs

/-- Lines 563-589 on member `k`: its slot of `intraCudaDevs`, its entry of `intraParams`
(`initParams`), the launch mode, the group stream, the read of `*comm->intraCC` when CUDA 9
is compiled in, and `*comm->intraCGMode = 0x10` when `cgMdLaunch` ends `0`. -/
def setIntraLaunch (env : IntraEnv) (k comm : Nat) : LifeM NcclResult := do
  let c ← readComm comm
  useBlock (c.intra .intraCudaDevs)
  useBlock (c.intra .intraParams)
  writeComm comm fun c => { c with launchMode := launchModeOf env }
  if launchModeOf env = .GROUP then
    if !(env.members k).streamCreated then return ncclUnhandledCudaError
    if env.cudartAtLeast9000 then useBlock (c.intra .intraCC)
  if cgMdLaunchOf env k = 0 then useBlock (c.intra .intraCGMode)
  return ncclSuccess

/-- `ncclCommSetIntra(comm, k, env.ranks, comm0)`, lines 533-590, on the heap: member `k` of the
group `env`. The `assert(comm == comm0)` of line 541 and the fields `intraRank`, `intraRanks`
and `intraPhase`, which no modelled function reads, are left out. -/
def ncclCommSetIntraHeap (env : IntraEnv) (k comm comm0 : Nat) : LifeM NcclResult := do
  if k = 0 then
    let res ← allocShared env comm sharedFields
    if res ≠ ncclSuccess then return res
  else adoptShared comm comm0 sharedFields
  setIntraLaunch env k comm

/-- What `ncclCommSetIntra` returns on member `k`: the first failed allocation of the
intraRank-0 member, then `ncclUnhandledCudaError` when the group stream is not created. -/
def IntraEnv.setIntraResult (env : IntraEnv) (k : Nat) : NcclResult :=
  firstFailure [if k = 0 then firstFailure (sharedFields.map env.callocResult) else ncclSuccess,
    if launchModeOf env = .GROUP ∧ (env.members k).streamCreated = false then
      ncclUnhandledCudaError else ncclSuccess]

/-- `comm0` is a live communicator holding five live blocks: what another member needs to
copy them without waiting. -/
def SharedReady (s : Proc) (comm0 : Nat) : Prop :=
  comm0 ∈ s.heap.live ∧ ∀ f, (s.comm comm0).intra f ∈ s.heap.live

/-- From `s` to `s'`, `ncclCommSetIntra` on `comm` has at most allocated new blocks, each
stored into one of `comm`'s shared pointers, and written `comm`'s shared pointers and launch
mode: nothing is freed and nothing else changes. -/
structure SetIntraStep (comm : Nat) (s s' : Proc) : Prop where
  next_le : s.heap.next ≤ s'.heap.next
  live_eq : s'.heap.live = s.heap.live ∪ Finset.Ico s.heap.next s'.heap.next
  device_eq : s'.device = s.device
  frame : ∀ q < s.heap.next, q ≠ comm → s'.comm q = s.comm q
  comm_eq : s'.comm comm = { s.comm comm with
    intra := (s'.comm comm).intra, launchMode := (s'.comm comm).launchMode }
  stored : ∀ x, s.heap.next ≤ x → x < s'.heap.next → ∃ f, (s'.comm comm).intra f = x

theorem SetIntraStep.refl (comm : Nat) (s : Proc) : SetIntraStep comm s s :=
  ⟨le_rfl, by simp, rfl, fun _ _ _ => rfl, rfl, fun _ h h' => absurd h' (by omega)⟩

/-! ## The intraRank-0 member's allocations -/

/-- The shared pointers `intra` after blocks `b`, `b + 1`, ... are stored into the fields `fs`
in turn. -/
def storeShared (intra : SharedField → Nat) (b : Nat) : List SharedField → SharedField → Nat
  | [] => intra
  | f :: fs => storeShared (Function.update intra f b) (b + 1) fs

theorem storeShared_of_not_mem (intra : SharedField → Nat) (b : Nat) {fs : List SharedField}
    {f : SharedField} (hf : f ∉ fs) : storeShared intra b fs f = intra f := by
  induction fs generalizing intra b with
  | nil => rfl
  | cons g fs ih =>
    simp only [List.mem_cons, not_or] at hf
    rw [storeShared, ih _ _ hf.2, Function.update_noteq hf.1]

theorem storeShared_getElem (intra : SharedField → Nat) (b : Nat) {fs : List SharedField}
    (hnd : fs.Nodup) (i : Nat) (hi : i < fs.length) : storeShared intra b fs fs[i] = b + i := by
  induction fs generalizing intra b i with
  | nil => cases hi
  | cons g fs ih =>
    rw [List.nodup_cons] at hnd
    cases i with
    | zero => simp [storeShared, storeShared_of_not_mem _ _ hnd.1]
    | succ i =>
      rw [List.getElem_cons_succ, storeShared, ih _ _ hnd.2 i (by simpa using hi)]
      omega

/-- Every field gets its block when all five are stored. -/
theorem storeShared_sharedFields (intra : SharedField → Nat) (b : Nat) (f : SharedField) :
    storeShared intra b sharedFields f = b + f.index := by
  cases f <;> rfl

/-- The intraRank-0 member's allocations of `fs` from `s`: they return the first failure, the
fields before it get the new blocks from `s.heap.next` on, in turn, and nothing else
changes. -/
theorem allocShared_run (env : IntraEnv) {comm : Nat} (fs : List SharedField) {s : Proc}
    (hcomm : comm ∈ s.heap.live) :
    ∃ s', (allocShared env comm fs).run s = .ok (firstFailure (fs.map env.callocResult), s') ∧
      s'.heap.next = s.heap.next + (fs.takeWhile env.callocOk).length ∧
      s'.heap.live = s.heap.live ∪ Finset.Ico s.heap.next s'.heap.next ∧ s'.device = s.device ∧
      (∀ q < s.heap.next, q ≠ comm → s'.comm q = s.comm q) ∧
      s'.comm comm = { s.comm comm with
        intra := storeShared (s.comm comm).intra s.heap.next (fs.takeWhile env.callocOk) } := by
  induction fs generalizing s with
  | nil => exact ⟨s, rfl, rfl, by simp, rfl, fun _ _ _ => rfl, rfl⟩
  | cons f fs ih =>
    cases hf : env.callocOk f
    · -- `calloc` fails: the member returns `ncclSystemError`
      have hres : env.callocResult f = ncclSystemError := by simp [IntraEnv.callocResult, hf]
      refine ⟨s, ?_, by simp [hf], by simp, rfl, fun _ _ _ => rfl, by simp [hf, storeShared]⟩
      simp [allocShared, hres, callocInto_run_failure, firstFailure]; rfl
    · -- block `s.heap.next` goes into `f`
      have hres : env.callocResult f = ncclSuccess := by simp [IntraEnv.callocResult, hf]
      have hne : comm ≠ s.heap.next := fun h => s.heap.next_not_mem (h ▸ hcomm)
      obtain ⟨s', hrun, hnext, hlive, hdev, hframe, hc⟩ := ih (s := { s with
        heap := s.heap.calloc
        comm := Function.update (Function.update s.comm s.heap.next Comm.zero) comm
          { s.comm comm with intra := Function.update (s.comm comm).intra f s.heap.next } })
        (by simp [hcomm])
      refine ⟨s', ?_, ?_, ?_, hdev, fun q hq hqc => ?_, ?_⟩
      · simp only [allocShared, StateT.run_bind, hres, callocInto_run_success hcomm, pure_bind,
          ne_eq, not_true_eq_false, if_false, List.map_cons, firstFailure_cons_success]
        exact hrun
      · simp only [hnext, Heap.calloc_next, List.takeWhile_cons, hf, if_true, List.length_cons]
        omega
      · rw [hlive, Heap.calloc_live, Heap.calloc_next,
          insert_union_Ico (by rw [hnext, Heap.calloc_next]; omega)]
      · rw [hframe q (by simp; omega) hqc]
        exact (Function.update_noteq hqc _ _).trans (Function.update_noteq (by omega) _ _)
      · rw [hc, List.takeWhile_cons, hf, if_pos rfl]
        simp only [Function.update_same]
        rfl

/-! ## Another member's copies -/

/-- Another member copying `comm0`'s pointers of `fs` into `comm`, when `comm0` is a live
communicator other than `comm` that holds all of them: only `comm`'s fields `fs` change. -/
theorem adoptShared_run {comm comm0 : Nat} (fs : List SharedField) {s : Proc}
    (hcomm : comm ∈ s.heap.live) (h0 : comm0 ∈ s.heap.live) (hne : comm0 ≠ comm)
    (hready : ∀ f, (s.comm comm0).intra f ≠ 0) :
    ∃ s', (adoptShared comm comm0 fs).run s = .ok ((), s') ∧ s'.heap = s.heap ∧
      s'.device = s.device ∧ (∀ q, q ≠ comm → s'.comm q = s.comm q) ∧
      s'.comm comm = { s.comm comm with
        intra := fun f => if f ∈ fs then (s.comm comm0).intra f else (s.comm comm).intra f } := by
  induction fs generalizing s with
  | nil => exact ⟨s, rfl, rfl, rfl, fun _ _ => rfl, by simp⟩
  | cons f fs ih =>
    obtain ⟨s', hrun, hheap, hdev, hframe, hc⟩ := ih (s := { s with
      comm := Function.update s.comm comm { s.comm comm with
        intra := Function.update (s.comm comm).intra f ((s.comm comm0).intra f) } }) hcomm h0
      (by simpa [Function.update_noteq hne] using hready)
    refine ⟨s', ?_, hheap, hdev, fun q hq => (hframe q hq).trans (Function.update_noteq hq _ _), ?_⟩
    · simp only [adoptShared, StateT.run_bind, readComm_run_live h0, pure_bind, hready, if_false,
        writeComm_run_live _ hcomm]
      exact hrun
    · rw [hc]
      simp only [Function.update_same, Function.update_noteq hne]
      congr 1
      funext g
      by_cases hg : g ∈ fs
      · simp [hg]
      · rcases eq_or_ne g f with rfl | hgf <;> simp [hg, *]

/-! ## The launch mode -/

/-- Lines 563-589 on a member whose communicator holds five live blocks: only `launchMode`
changes, and the result is the group stream's. -/
theorem setIntraLaunch_run (env : IntraEnv) (k : Nat) {comm : Nat} {s : Proc}
    (hcomm : comm ∈ s.heap.live) (hblocks : ∀ f, (s.comm comm).intra f ∈ s.heap.live) :
    (setIntraLaunch env k comm).run s = pure
      (if launchModeOf env = .GROUP ∧ (env.members k).streamCreated = false then
        ncclUnhandledCudaError else ncclSuccess,
      { s with comm := (Function.update s.comm comm
        { s.comm comm with launchMode := launchModeOf env }) }) := by
  have hu (f : SharedField) (t : Proc) (ht : t.heap = s.heap) :
      (useBlock ((s.comm comm).intra f)).run t = pure ((), t) :=
    useBlock_run_live (by rw [ht]; exact hblocks f)
  simp only [setIntraLaunch, StateT.run_bind, readComm_run_live hcomm, hu _ s rfl,
    writeComm_run_live _ hcomm, pure_bind]
  by_cases hg : launchModeOf env = .GROUP <;> cases hs : (env.members k).streamCreated <;>
    simp [hg, hs, hu] <;> split_ifs <;> simp [hu]

/-- `ncclCommSetIntra` of member `k` on the live communicator `comm`, when `k` is the
intraRank-0 member or `comm0` is another communicator holding five live blocks: it does not get
stuck, frees nothing and returns `env.setIntraResult k`; each block it allocates is held by
`comm`; and on success `comm` is in the launch mode of the group and holds block
`s.heap.next + f.index` in each field `f` on the intraRank-0 member, `comm0`'s on another. -/
theorem ncclCommSetIntraHeap_run (env : IntraEnv) {k comm comm0 : Nat} {s : Proc}
    (hcomm : comm ∈ s.heap.live) (hk : k = 0 ∨ SharedReady s comm0 ∧ comm0 ≠ comm) :
    ∃ s', (ncclCommSetIntraHeap env k comm comm0).run s = .ok (env.setIntraResult k, s') ∧
      SetIntraStep comm s s' ∧
      (env.setIntraResult k = ncclSuccess →
        s'.heap.next = s.heap.next + (if k = 0 then 5 else 0) ∧
        (s'.comm comm).launchMode = launchModeOf env ∧ ∀ f, (s'.comm comm).intra f =
          if k = 0 then s.heap.next + f.index else (s.comm comm0).intra f) := by
  by_cases hk0 : k = 0
  · -- the intraRank-0 member allocates
    subst hk0
    obtain ⟨s1, hrun1, hnext1, hlive1, hdev1, hframe1, hc1⟩ :=
      allocShared_run env sharedFields hcomm
    have hrun1' : (allocShared env comm sharedFields).run s = pure (_, s1) := hrun1
    have hstored : ∀ x, s.heap.next ≤ x → x < s1.heap.next → ∃ f, (s1.comm comm).intra f = x :=
      fun x hx hx' => ⟨_, by
        rw [hc1]
        exact (storeShared_getElem _ _ (sharedFields_nodup.sublist (List.takeWhile_sublist _))
          (x - s.heap.next) (by omega)).trans (by omega)⟩
    by_cases hR : firstFailure (sharedFields.map env.callocResult) = ncclSuccess
    swap
    · -- an allocation fails
      refine ⟨s1, ?_, ⟨by omega, hlive1, hdev1, hframe1, by rw [hc1], hstored⟩, fun h => ?_⟩
      · simp only [ncclCommSetIntraHeap, if_true, StateT.run_bind, hrun1', pure_bind, hR, ne_eq,
          not_false_eq_true, if_true]
        simp [IntraEnv.setIntraResult, firstFailure_cons_of_ne hR]
        rfl
      · simp [IntraEnv.setIntraResult, firstFailure_cons_of_ne hR] at h
        exact absurd h hR
    -- all five succeed: field `f` holds block `s.heap.next + f.index`
    have hall : sharedFields.takeWhile env.callocOk = sharedFields := by
      rw [List.takeWhile_eq_self_iff]
      intro f hf
      have := (firstFailure_eq_success_iff _).1 hR _ (List.mem_map_of_mem _ hf)
      simpa [IntraEnv.callocResult] using this
    rw [hall] at hnext1 hc1
    have hintra : ∀ f, (s1.comm comm).intra f = s.heap.next + f.index := fun f => by
      rw [hc1]; exact storeShared_sharedFields _ _ f
    have hcomm1 : comm ∈ s1.heap.live := by rw [hlive1]; exact Finset.mem_union_left _ hcomm
    have hblocks : ∀ f, (s1.comm comm).intra f ∈ s1.heap.live := fun f => by
      rw [hintra, hlive1, hnext1]
      have := f.index_le
      simp only [sharedFields, List.length_cons, List.length_nil]
      exact Finset.mem_union_right _ (Finset.mem_Ico.2 ⟨by omega, by omega⟩)
    refine ⟨{ s1 with comm := (Function.update s1.comm comm
        { s1.comm comm with launchMode := launchModeOf env }) }, ?_,
      ⟨show s.heap.next ≤ s1.heap.next by omega, hlive1, hdev1, fun q hq hqc => ?_, ?_,
      fun x hx hx' => ?_⟩, fun _ => ⟨by simpa [sharedFields] using hnext1, by simp, fun f => ?_⟩⟩
    · simp only [ncclCommSetIntraHeap, if_true, StateT.run_bind, hrun1', pure_bind, hR, ne_eq,
        not_true_eq_false, if_false, setIntraLaunch_run env 0 hcomm1 hblocks]
      simp [IntraEnv.setIntraResult, hR]
      rfl
    · simp only [Function.update_noteq hqc, hframe1 q hq hqc]
    · simp only [Function.update_same, hc1]
    · obtain ⟨f, hf⟩ := hstored x hx hx'
      exact ⟨f, by simpa using hf⟩
    · simp [hintra]
  · -- another member copies `comm0`'s pointers
    obtain ⟨⟨h0, hready⟩, hne⟩ := hk.resolve_left hk0
    obtain ⟨s1, hrun1, hheap1, hdev1, hframe1, hc1⟩ :=
      adoptShared_run sharedFields hcomm h0 hne fun f => Heap.ne_zero_of_mem (hready f)
    simp only [mem_sharedFields, if_true] at hc1
    have hrun1' : (adoptShared comm comm0 sharedFields).run s = pure ((), s1) := hrun1
    have hL := setIntraLaunch_run env k (s := s1) (by rw [hheap1]; exact hcomm)
      (fun f => by rw [hc1, hheap1]; exact hready f)
    refine ⟨{ s1 with comm := (Function.update s1.comm comm
        { s1.comm comm with launchMode := launchModeOf env }) }, ?_, ⟨by simp [hheap1],
      by simp [hheap1], hdev1, fun q _ hqc => ?_, ?_,
      fun x hx hx' => absurd hx' (by simp [hheap1]; omega)⟩,
      fun _ => ⟨by simp [hk0, hheap1], by simp, fun f => ?_⟩⟩
    · simp only [ncclCommSetIntraHeap, hk0, if_false, StateT.run_bind, hrun1', pure_bind, hL]
      simp [IntraEnv.setIntraResult, hk0]
      rfl
    · simp [Function.update_noteq hqc, hframe1 q hqc]
    · simp [hc1]
    · simp [hk0, hc1]

end RcclInit
