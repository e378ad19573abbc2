import RcclInit.Intra
import Mathlib.Order.Interval.Finset.Nat

/-!
# The host heap of the process

The model of the host memory that `init.cc` allocates with `ncclCalloc` and releases with
`free`: a heap of blocks (`Heap`) in which `calloc` returns a fresh address, never reused,
and `free` of an address that is not live is undefined, as is a read of a field of a
communicator whose block is not live (`readComm`) or of a cell of a freed block
(`useBlock`). A block read as a communicator holds a `Comm`, the fields of `struct ncclComm`
that the modelled code reads or writes; the process (`Proc`) is the heap, what each block
holds, and the calling thread's current device. Code of the process is a `LifeM` program,
which gets stuck on undefined behaviour or by blocking forever.

Every operation has one run lemma for each of its outcomes (`ncclCalloc_run_success`,
`hostFree_run_live`, `hostFree_run_dead`, ...), and the later modules cite these instead of
unfolding the operations. Freeing a list of blocks is `Heap.releaseAll`, whose live blocks are
the old ones minus the list (`Heap.releaseAll_live`); `Frees h comm ps` says that freeing `ps`
one after another is defined and keeps `comm` live, and then `freeFields` frees exactly those
blocks (`freeFields_run`), while over fields whose blocks are already freed it is undefined
(`freeFields_run_stuck`).
-/

set_option autoImplicit false

namespace RcclInit

open NcclResult

/-! ## The heap -/

/-- The blocks `calloc` has returned and `free` has not released, and the address the next
`calloc` returns. Addresses are never reused and `0` is `NULL`, so every live block lies in
`[1, next)`. -/
structure Heap where
  live : Finset Nat
  next : Nat
  next_pos : 0 < next
  bounded : ∀ p ∈ live, 0 < p ∧ p < next

namespace Heap

/-- The heap after `calloc`, whose block is the old `next`. -/
def calloc (h : Heap) : Heap where
  live := insert h.next h.live
  next := h.next + 1
  next_pos := Nat.succ_pos _
  bounded p hp := by
    rcases Finset.mem_insert.mp hp with rfl | hp
    · exact ⟨h.next_pos, Nat.lt_succ_self _⟩
    · exact ⟨(h.bounded p hp).1, Nat.lt_succ_of_lt (h.bounded p hp).2⟩

/-- The heap after `free` of the live block `p`. -/
def release (h : Heap) (p : Nat) : Heap where
  live := h.live.erase p
  next := h.next
  next_pos := h.next_pos
  bounded q hq := h.bounded q (Finset.mem_of_mem_erase hq)

@[simp] theorem calloc_live (h : Heap) : h.calloc.live = insert h.next h.live := rfl
@[simp] theorem calloc_next (h : Heap) : h.calloc.next = h.next + 1 := rfl
@[simp] theorem release_live (h : Heap) (p : Nat) : (h.release p).live = h.live.erase p := rfl
@[simp] theorem release_next (h : Heap) (p : Nat) : (h.release p).next = h.next := rfl

theorem next_not_mem (h : Heap) : h.next ∉ h.live := fun hm => lt_irrefl _ (h.bounded _ hm).2

theorem ne_zero_of_mem {h : Heap} {p : Nat} (hp : p ∈ h.live) : p ≠ 0 :=
  (h.bounded p hp).1.ne'

end Heap

/-- A block allocated just below a range of fresh blocks joins it. -/
theorem insert_union_Ico {L : Finset Nat} {n m : Nat} (h : n < m) :
    insert n L ∪ Finset.Ico (n + 1) m = L ∪ Finset.Ico n m := by
  ext x
  simp only [Finset.mem_union, Finset.mem_insert, Finset.mem_Ico]
  by_cases hx : x ∈ L
  · simp only [hx, or_true, true_or]
  · simp only [hx, or_false, false_or]
    omega

/-! ## A communicator -/

/-- The fields of `struct ncclComm` that its life reads or writes: the four `commPoison`
overwrites, the result `ncclCommGetAsyncError` reports, and every handle `commFree` tests
or releases. The host arrays, `peerInfo`, the bootstrap state, the five intra-process objects
and the `CliqueManager` are blocks of the heap. -/
structure Comm where
  rank : Int
  nRanks : Int
  cudaDev : Int
  busId : Int
  fatalError : NcclResult
  doneEvent : Nat
  asyncOps : Nat
  connectSend : Nat
  connectRecv : Nat
  p2pSends : Nat
  p2pRecvs : Nat
  peerInfo : Nat
  bootstrap : Nat
  launchMode : LaunchMode
  intra : SharedField → Nat
  cliqueManager : Nat

/-- A communicator as `ncclCalloc` returns it: every field zero. `launchMode` is the
enumerator `GROUP`, whose value is `0`. -/
def Comm.zero : Comm where
  rank := 0
  nRanks := 0
  cudaDev := 0
  busId := 0
  fatalError := ncclSuccess
  doneEvent := 0
  asyncOps := 0
  connectSend := 0
  connectRecv := 0
  p2pSends := 0
  p2pRecvs := 0
  peerInfo := 0
  bootstrap := 0
  launchMode := .GROUP
  intra _ := 0
  cliqueManager := 0

/-- The process: its heap, what each block holds when read as a communicator (a freed
block keeps what was last written), and the calling thread's current device. -/
structure Proc where
  heap : Heap
  comm : Nat → Comm
  device : Int

/-- Code of the process; it gets stuck on undefined behaviour. -/
abbrev LifeM := StateT Proc (Except Stuck)

/-! ## Heap operations -/

/-- `ncclCalloc(&p, n)` with outcome `res`: a fresh zeroed block, or `none`. -/
def ncclCalloc (res : NcclResult) : LifeM (Option Nat) := do
  if res ≠ ncclSuccess then return none
  let s ← get
  set { s with heap := s.heap.calloc, comm := Function.update s.comm s.heap.next Comm.zero }
  return some s.heap.next

/-- `free(p)`: nothing for `NULL`, undefined for a block that is not live. -/
def hostFree (p : Nat) : LifeM Unit := do
  if p = 0 then return ()
  let s ← get
  if p ∈ s.heap.live then set { s with heap := s.heap.release p }
  else throw .undefinedBehaviour

/-- Reading `*comm`: undefined unless `comm` is a live block. -/
def readComm (p : Nat) : LifeM Comm := do
  let s ← get
  if p ∈ s.heap.live then return s.comm p else throw .undefinedBehaviour

/-- Writing fields of `*comm`. -/
def writeComm (p : Nat) (f : Comm → Comm) : LifeM Unit := do
  let c ← readComm p
  modify fun s => { s with comm := Function.update s.comm p (f c) }

/-- `NCCLCHECK(ncclCalloc(&comm->field, n))`: a fresh block stored into the field with
`set`, or the failure. -/
def callocInto (comm : Nat) (res : NcclResult) (set : Comm → Nat → Comm) :
    LifeM NcclResult := do
  let some p ← ncclCalloc res | return res
  writeComm comm fun c => set c p
  return ncclSuccess

/-- A read or write through `p` of a cell of its block: undefined unless the block is live.
What the cell holds is left to the models of the code that reads it. -/
def useBlock (p : Nat) : LifeM Unit := do
  if p ∉ (← get).heap.live then throw .undefinedBehaviour

/-- The result `CUDACHECK` turns a runtime call into. -/
def cudaCheck (ok : Bool) : NcclResult := if ok then ncclSuccess else ncclUnhandledCudaError


/-- `free(comm->field)` for each field in turn, reading the field just before its `free`. -/
def freeFields (comm : Nat) : List (Comm → Nat) → LifeM Unit
  | [] => pure ()
  | field :: fields => do
    hostFree (field (← readComm comm))
    freeFields comm fields


/-! ## One lemma per heap operation -/

section Run

variable {s : Proc}

@[simp] theorem ncclCalloc_run_success (s : Proc) : (ncclCalloc ncclSuccess).run s =
    pure (some s.heap.next,
      { s with heap := s.heap.calloc, comm := Function.update s.comm s.heap.next Comm.zero }) :=
  rfl

theorem ncclCalloc_run_failure {res : NcclResult} (h : res ≠ ncclSuccess) :
    (ncclCalloc res).run s = pure (none, s) := by
  simp [ncclCalloc, h]

@[simp] theorem hostFree_run_null (s : Proc) : (hostFree 0).run s = pure ((), s) := rfl

theorem hostFree_run_live {p : Nat} (hp : p ∈ s.heap.live) :
    (hostFree p).run s = pure ((), { s with heap := s.heap.release p }) := by
  simp [hostFree, Heap.ne_zero_of_mem hp, hp]

theorem hostFree_run_dead {p : Nat} (h0 : p ≠ 0) (hp : p ∉ s.heap.live) :
    (hostFree p).run s = throw .undefinedBehaviour := by
  simp [hostFree, h0, hp]; rfl

theorem readComm_run_live {p : Nat} (hp : p ∈ s.heap.live) :
    (readComm p).run s = pure (s.comm p, s) := by
  simp [readComm, hp]

theorem readComm_run_dead {p : Nat} (hp : p ∉ s.heap.live) :
    (readComm p).run s = throw .undefinedBehaviour := by
  simp [readComm, hp]; rfl

theorem writeComm_run_live {p : Nat} (f : Comm → Comm) (hp : p ∈ s.heap.live) :
    (writeComm p f).run s =
      pure ((), { s with comm := Function.update s.comm p (f (s.comm p)) }) := by
  simp [writeComm, readComm_run_live hp]

theorem useBlock_run_live {p : Nat} (hp : p ∈ s.heap.live) : (useBlock p).run s = pure ((), s) := by
  simp [useBlock, hp]

theorem useBlock_run_dead {p : Nat} (hp : p ∉ s.heap.live) :
    (useBlock p).run s = throw .undefinedBehaviour := by
  simp [useBlock, hp]; rfl

@[simp] theorem pure_ne_error {ε α : Type} (a : α) (e : ε) : (pure a : Except ε α) ≠ .error e :=
  nofun

theorem readComm_bind_dead {α : Type} {s : Proc} {p : Nat} (hp : p ∉ s.heap.live)
    (f : Comm → LifeM α) : (readComm p >>= f).run s = throw .undefinedBehaviour := by
  rw [StateT.run_bind, readComm_run_dead hp]; rfl

theorem callocInto_run_failure {s : Proc} {comm : Nat} {res : NcclResult} (h : res ≠ ncclSuccess)
    (set : Comm → Nat → Comm) : (callocInto comm res set).run s = pure (res, s) := by
  simp only [callocInto, StateT.run_bind, ncclCalloc_run_failure h, pure_bind]; rfl

theorem callocInto_run_success {s : Proc} {comm : Nat} (hcomm : comm ∈ s.heap.live)
    (set : Comm → Nat → Comm) :
    (callocInto comm ncclSuccess set).run s = pure (ncclSuccess,
      { s with
        heap := s.heap.calloc
        comm := Function.update (Function.update s.comm s.heap.next Comm.zero) comm
          (set (s.comm comm) s.heap.next) }) := by
  have hne : comm ≠ s.heap.next := fun h => s.heap.next_not_mem (h ▸ hcomm)
  simp only [callocInto, StateT.run_bind, ncclCalloc_run_success, pure_bind]
  rw [writeComm_run_live _ (by simp [hcomm])]
  simp [Function.update_noteq hne]

end Run

/-! ## Freeing a list of blocks -/

namespace Heap

/-- The heap after `free` of each of `ps` in turn, each live or `NULL`. -/
def releaseAll (h : Heap) (ps : List Nat) : Heap :=
  ps.foldl (fun h p => if p = 0 then h else h.release p) h

@[simp] theorem releaseAll_nil (h : Heap) : h.releaseAll [] = h := rfl

theorem releaseAll_cons (h : Heap) (p : Nat) (ps : List Nat) :
    h.releaseAll (p :: ps) = (if p = 0 then h else h.release p).releaseAll ps := rfl

theorem releaseAll_append (h : Heap) (ps qs : List Nat) :
    h.releaseAll (ps ++ qs) = (h.releaseAll ps).releaseAll qs := List.foldl_append _ _ _ _

@[simp] theorem releaseAll_next (h : Heap) (ps : List Nat) : (h.releaseAll ps).next = h.next := by
  induction ps generalizing h with
  | nil => rfl
  | cons p ps ih => rw [releaseAll_cons, ih]; split <;> rfl

/-- Freeing `NULL` or a block twice changes nothing more: the live blocks left are those
not listed. -/
@[simp] theorem releaseAll_live (h : Heap) (ps : List Nat) :
    (h.releaseAll ps).live = h.live \ ps.toFinset := by
  induction ps generalizing h with
  | nil => simp [releaseAll]
  | cons p ps ih =>
      rw [releaseAll_cons, ih]
      ext q
      by_cases hp : p = 0
      · subst hp
        simp only [if_true, Finset.mem_sdiff, List.mem_toFinset, List.mem_cons]
        exact ⟨fun ⟨hq, hn⟩ => ⟨hq, fun h' => h'.elim (fun e => ne_zero_of_mem hq e) hn⟩,
          fun ⟨hq, hn⟩ => ⟨hq, fun h' => hn (Or.inr h')⟩⟩
      · simp only [hp, if_false, Finset.mem_sdiff, release_live, Finset.mem_erase,
          List.mem_toFinset, List.mem_cons, not_or]
        tauto

end Heap

/-- Freeing each of `ps` in turn is defined and leaves `comm` live: each is `NULL` or a live
block other than `comm`, and no block appears twice. -/
def Frees (h : Heap) (comm : Nat) (ps : List Nat) : Prop :=
  (∀ p ∈ ps, p = 0 ∨ p ∈ h.live) ∧ comm ∉ ps ∧ (ps.filter (· ≠ 0)).Nodup

theorem Frees.cons {h : Heap} {comm p : Nat} {ps : List Nat} (hf : Frees h comm (p :: ps)) :
    (p = 0 ∨ p ∈ h.live) ∧ p ≠ comm ∧
      Frees (if p = 0 then h else h.release p) comm ps := by
  obtain ⟨hlive, hcomm, hnodup⟩ := hf
  simp only [List.mem_cons, not_or] at hcomm
  refine ⟨hlive p (List.mem_cons_self _ _), Ne.symm hcomm.1, fun q hq => ?_, hcomm.2,
    hnodup.sublist ((List.sublist_cons_self p ps).filter _)⟩
  rcases hlive q (List.mem_cons_of_mem _ hq) with hq0 | hql
  · exact Or.inl hq0
  · split_ifs with hp
    · exact Or.inr hql
    · refine Or.inr (Finset.mem_erase.mpr ⟨?_, hql⟩)
      rintro rfl
      rw [List.filter_cons_of_pos (by simpa using hp), List.nodup_cons] at hnodup
      exact hnodup.1 (List.mem_filter.mpr ⟨hq, by simpa using hp⟩)

/-- `freeFields` frees the fields' blocks in turn and touches nothing else. -/
theorem freeFields_run {comm : Nat} (fields : List (Comm → Nat)) {s : Proc}
    (hcomm : comm ∈ s.heap.live) (hf : Frees s.heap comm (fields.map (· (s.comm comm)))) :
    (freeFields comm fields).run s =
      pure ((), { s with heap := s.heap.releaseAll (fields.map (· (s.comm comm))) }) := by
  induction fields generalizing s with
  | nil => rfl
  | cons f fs ih =>
      obtain ⟨hp, hne, hrest⟩ := hf.cons
      dsimp only at hp hne
      simp only [freeFields, StateT.run_bind, readComm_run_live hcomm, pure_bind,
        List.map_cons, Heap.releaseAll_cons] at hrest ⊢
      rcases hp with h0 | hp
      · -- `free(NULL)`
        rw [h0, if_pos rfl] at hrest ⊢
        rw [hostFree_run_null, pure_bind]
        exact ih hcomm hrest
      · -- a live block other than `comm`
        have h0 := Heap.ne_zero_of_mem hp
        rw [if_neg h0] at hrest ⊢
        rw [hostFree_run_live hp, pure_bind]
        exact ih (Finset.mem_erase.mpr ⟨Ne.symm hne, hcomm⟩) hrest

theorem Frees.sublist {h : Heap} {comm : Nat} {ps qs : List Nat} (hs : List.Sublist ps qs)
    (hf : Frees h comm qs) : Frees h comm ps :=
  ⟨fun p hp => hf.1 p (hs.subset hp), fun hc => hf.2.1 (hs.subset hc), hf.2.2.sublist (hs.filter _)⟩

theorem Frees.append {h : Heap} {comm : Nat} {ps qs : List Nat} (hf : Frees h comm (ps ++ qs)) :
    Frees (h.releaseAll ps) comm qs := by
  induction ps generalizing h with
  | nil => exact hf
  | cons p ps ih => exact ih hf.cons.2.2

/-- `Frees` holds in any heap where the blocks of the list that were live still are. -/
theorem Frees.of_live {h h' : Heap} {comm : Nat} {ps : List Nat} (hf : Frees h comm ps)
    (hlive : ∀ p ∈ ps, p ∈ h.live → p ∈ h'.live) : Frees h' comm ps :=
  ⟨fun p hp => (hf.1 p hp).imp_right (hlive p hp), hf.2.1, hf.2.2⟩

/-- `comm` is still live once the first blocks of a list that `Frees` are freed. -/
theorem Frees.live_after {h : Heap} {comm : Nat} {ps qs : List Nat} (hcomm : comm ∈ h.live)
    (hf : Frees h comm (ps ++ qs)) : comm ∈ (h.releaseAll ps).live := by
  rw [Heap.releaseAll_live, Finset.mem_sdiff, List.mem_toFinset]
  exact ⟨hcomm, fun hm => hf.2.1 (List.mem_append_left _ hm)⟩

/-- `freeFields` over fields whose blocks are all dead, one of them not `NULL`: the first such
`free` is undefined. -/
theorem freeFields_run_stuck {comm : Nat} (fields : List (Comm → Nat)) {s : Proc}
    (hcomm : comm ∈ s.heap.live) (hdead : ∀ f ∈ fields, f (s.comm comm) ∉ s.heap.live)
    (hne : ∃ f ∈ fields, f (s.comm comm) ≠ 0) :
    (freeFields comm fields).run s = throw .undefinedBehaviour := by
  induction fields with
  | nil => obtain ⟨f, hf, -⟩ := hne; cases hf
  | cons f fs ih =>
      simp only [freeFields, StateT.run_bind, readComm_run_live hcomm, pure_bind]
      by_cases h0 : f (s.comm comm) = 0
      · rw [h0, hostFree_run_null, pure_bind]
        refine ih (fun g hg => hdead g (List.mem_cons_of_mem _ hg)) ?_
        obtain ⟨g, hg, hg0⟩ := hne
        rcases List.mem_cons.mp hg with rfl | hg
        · exact absurd h0 hg0
        · exact ⟨g, hg, hg0⟩
      · rw [hostFree_run_dead h0 (hdead f (List.mem_cons_self _ _))]; rfl

/-- The process before its first allocation, on device `0`. -/
def Proc.init : Proc := ⟨⟨∅, 1, Nat.one_pos, by simp⟩, fun _ => Comm.zero, 0⟩

/-- The process after block `1` was allocated and freed. -/
def Proc.afterFree : Proc := { Proc.init with heap := ⟨∅, 2, by decide, by simp⟩ }

end RcclInit
