import RcclInit.Lifecycle

/-!
# A client of the communicator API, across calls

A client calls `ncclCommInitRankSync`, `ncclCommDestroy`, `ncclCommAbort` and the four queries
in any order, and each call makes calls of its own whose outcomes are inputs. The client holds
the communicators a `ncclCommInitRankSync` returned with `ncclSuccess` and has not passed to
`ncclCommDestroy` since (`Client`); a call `ApiCall.run` runs the code of `Lifecycle.lean` on
the process and updates what the client holds.

**Each entry point, whatever its calls return.** `ncclCommDestroy` of a communicator that owns
its blocks frees nothing else and writes no other communicator (`ncclCommDestroy_freedWithin`,
from `commFree_freedWithin` and `commDestroy_freedWithin`, one rule per construct of their
code); `ncclCommInitRankSync` with `*newcomm` `NULL` frees nothing and writes no block it
found, and its new communicator owns new blocks, its bootstrap state among them
(`ncclCommInitRankSync_spec`).

**Whole runs.** The invariant `ApiInv` says that every held communicator is live, owns its
blocks, and shares none with another. Each call that reads through `NULL` or a held
communicator, and each `ncclCommInitRankSync` with `*newcomm` `NULL`, is defined and keeps it
(`ApiInv.step`), so a whole run of such calls is defined, and the communicators held at both
ends are unchanged (`runCalls_defined`). The discipline is needed: a second `ncclCommDestroy`,
a `*newcomm` that holds a destroyed communicator, or one that holds a live communicator whose
bootstrap state the cleanup then aborts, is undefined (`ncclCommDestroy_frees_owned`,
`ncclCommDestroy_retry_double_free`, `ncclCommInitRankSync_stale_newcomm`,
`ncclCommInitRankSync_aborts_held_bootstrap`).

`Lifecycle.ncclCommInitRankSync` takes `initTransportsRank` as `bootstrapInit` and the result of
the rest, so `peerInfo`, the `CliqueManager` and the five intra-process objects stay `NULL` in the
communicators modelled here; `RcclInit.TransportClient` runs the same client with
`initTransportsRank` on the heap.
-/

set_option autoImplicit false

namespace RcclInit

open NcclResult

/-! ## What any `ncclCommDestroy` frees -/

/-- `s` is what a destroy of `comm` may leave from the heap `h` with the contents `cm`: it
allocated nothing, every block of `h` it freed is `comm` or one of `blocks`, and it wrote no
other communicator. -/
def FreedWithin (h : Heap) (cm : Nat → Comm) (comm : Nat) (blocks : List Nat) (s : Proc) : Prop :=
  s.heap.next = h.next ∧ (∀ q ∈ h.live, q ∉ s.heap.live → q = comm ∨ q ∈ blocks) ∧
    ∀ q ≠ comm, s.comm q = cm q

section FreedWithin

variable {h : Heap} {cm : Nat → Comm} {comm : Nat} {blocks : List Nat} {E : Stuck → Prop}

theorem FreedWithin.of_eq {s : Proc} (hs : s.heap = h ∧ s.comm = cm) :
    FreedWithin h cm comm blocks s :=
  ⟨hs.1 ▸ rfl, fun _ hq hq' => absurd (hs.1 ▸ hq) hq', fun _ _ => hs.2 ▸ rfl⟩

theorem readComm_unchanged (hcomm : comm ∈ h.live) :
    ExceptTriple (fun s => s.heap = h ∧ s.comm = cm) (readComm comm)
      (fun _ s => s.heap = h ∧ s.comm = cm) E := by
  rintro s ⟨rfl, rfl⟩
  rw [readComm_run_live hcomm]
  exact ⟨rfl, rfl⟩

theorem modify_device_unchanged (d : Int) :
    ExceptTriple (fun s => s.heap = h ∧ s.comm = cm) (modify fun s : Proc => { s with device := d })
      (fun _ s => s.heap = h ∧ s.comm = cm) E :=
  exceptTriple_modify _ fun _ hs => hs

theorem modify_device_freedWithin (d : Int) :
    ExceptTriple (FreedWithin h cm comm blocks) (modify fun s : Proc => { s with device := d })
      (fun _ => FreedWithin h cm comm blocks) E :=
  exceptTriple_modify _ fun _ hs => hs

/-- `commFree` frees nothing but the communicator and the blocks of `freedFields`, and writes no
other communicator, whatever its calls return. -/
theorem commFree_freedWithin (maxChannels : Nat) (calls : FreeCalls) (hcomm : comm ∈ h.live)
    (hf : Frees h comm ((freedFields true).map (· (cm comm)))) :
    ExceptTriple (fun s => s.heap = h ∧ s.comm = cm) (commFree maxChannels calls comm)
      (fun _ => FreedWithin h cm comm ((freedFields true).map (· (cm comm)))) E := by
  rintro s ⟨rfl, rfl⟩
  have hsub := (calls.freed_sublist maxChannels (s.comm comm)).map (· (s.comm comm))
  rw [commFree_run maxChannels calls hcomm hf]
  dsimp only
  split_ifs
  · refine ⟨by simp, fun q _ hq' => ?_, fun q hq => Function.update_noteq hq _ _⟩
    simp only [Heap.release_live, Heap.releaseAll_live, Finset.mem_erase, Finset.mem_sdiff,
      List.mem_toFinset, not_and, not_not] at hq'
    by_cases hqc : q = comm
    · exact Or.inl hqc
    · exact Or.inr (hsub.subset (hq' hqc ‹_›))
  · refine ⟨by simp, fun q _ hq' => ?_, fun _ _ => rfl⟩
    simp only [Heap.releaseAll_live, Finset.mem_sdiff, List.mem_toFinset, not_and, not_not] at hq'
    exact Or.inr (hsub.subset (hq' ‹_›))

/-- `commDestroy` frees nothing but what `commFree` may free, whatever its calls return. -/
theorem commDestroy_freedWithin (maxChannels : Nat) (calls : DestroyCalls) (hcomm : comm ∈ h.live)
    (hf : Frees h comm ((freedFields true).map (· (cm comm)))) :
    ExceptTriple (fun s => s.heap = h ∧ s.comm = cm) (commDestroy maxChannels calls comm)
      (fun _ => FreedWithin h cm comm ((freedFields true).map (· (cm comm)))) E := by
  dsimp only [commDestroy]
  simp only [pure_bind]
  refine exceptTriple_ite (fun _ => exceptTriple_pure _ fun _ hs => .of_eq hs) fun _ => ?_
  refine exceptTriple_bind (fun _ s => s.heap = h ∧ s.comm = cm) (exceptTriple_get fun _ hs => hs)
    fun _ => exceptTriple_bind _ (readComm_unchanged hcomm) fun _ => ?_
  repeat' first
    | exact exceptTriple_pure _ fun _ hs => .of_eq hs
    | exact exceptTriple_pure _ fun _ hs => hs
    | refine exceptTriple_ite (fun _ => ?_) fun _ => ?_
    | refine exceptTriple_bind _ (modify_device_unchanged _) fun _ => ?_
    | refine exceptTriple_bind _ (modify_device_freedWithin _) fun _ => ?_
    | refine exceptTriple_bind _ (commFree_freedWithin maxChannels calls.free hcomm hf) fun _ => ?_

theorem FreedWithin.cons {s : Proc} {p : Nat}
    (hw : FreedWithin (h.releaseAll [p]) cm comm blocks s) : FreedWithin h cm comm (p :: blocks) s := by
  refine ⟨by rw [hw.1, Heap.releaseAll_next], fun q hq hq' => ?_, hw.2.2⟩
  by_cases hqp : q = p
  · exact Or.inr (hqp ▸ List.mem_cons_self _ _)
  · have hq1 : q ∈ (h.releaseAll [p]).live := by simpa using ⟨hq, hqp⟩
    exact (hw.2.1 q hq1 hq').imp_right (List.mem_cons_of_mem _)

/-- `ncclCommDestroy` of a communicator that owns its blocks frees nothing but the
communicator and those blocks, and writes no other communicator, whatever its calls return. -/
theorem ncclCommDestroy_freedWithin (maxChannels : Nat) (calls : DestroyCalls)
    (hcomm : comm ∈ h.live) (hf : Frees h comm ((cm comm).released true)) :
    ExceptTriple (fun s => s.heap = h ∧ s.comm = cm) (ncclCommDestroy maxChannels calls comm)
      (fun _ => FreedWithin h cm comm ((cm comm).released true)) E := by
  rintro s ⟨rfl, rfl⟩
  obtain ⟨hq, hqc, hf1⟩ := hf.cons
  change Frees (s.heap.releaseAll [(s.comm comm).cliqueManager]) comm _ at hf1
  by_cases hok : (s.comm comm).poisoned
  · -- line 1252 refuses it: nothing changes
    simp only [ncclCommDestroy, if_neg (Heap.ne_zero_of_mem hcomm), pure_bind, StateT.run_bind,
      readComm_run_live hcomm, if_pos hok]
    exact .of_eq ⟨rfl, rfl⟩
  · have hcomm1 : comm ∈ (s.heap.releaseAll [(s.comm comm).cliqueManager]).live := by
      simpa using ⟨hcomm, hqc.symm⟩
    have hw := commDestroy_freedWithin (E := E) maxChannels calls hcomm1 hf1
      { s with heap := s.heap.releaseAll [(s.comm comm).cliqueManager] } ⟨rfl, rfl⟩
    rw [ncclCommDestroy_run_live maxChannels calls hcomm hok hq]
    revert hw
    rcases (commDestroy maxChannels calls comm).run
      { s with heap := s.heap.releaseAll [(s.comm comm).cliqueManager] } with e | ⟨r, s'⟩
    · exact id
    · exact FreedWithin.cons

end FreedWithin

/-- `ncclCommDestroy` of a live communicator that owns its blocks is defined whatever each call
it makes returns, failures included: it allocates nothing, frees nothing but the communicator
and its blocks, and writes no other communicator. -/
theorem ncclCommDestroy_defined (maxChannels : Nat) (calls : DestroyCalls) {s : Proc}
    {comm : Nat} (hown : Owns s comm) :
    ∃ r s', (ncclCommDestroy maxChannels calls comm).run s = .ok (r, s') ∧
      FreedWithin s.heap s.comm comm ((s.comm comm).released true) s' := by
  have hw := ncclCommDestroy_freedWithin (E := fun _ => False) maxChannels calls hown.1 hown.2 s
    ⟨rfl, rfl⟩
  revert hw
  rcases (ncclCommDestroy maxChannels calls comm).run s with e | ⟨r, s'⟩
  · exact False.elim
  · exact fun hw => ⟨r, s', rfl, hw⟩

theorem ncclCommDestroy_defined_devComm :
    Owns oneRankProc 1 ∧
      ∃ r s', (ncclCommDestroy 0 DestroyCalls.devCommFreeFails 1).run oneRankProc = .ok (r, s') ∧
        FreedWithin oneRankProc.heap oneRankProc.comm 1 ((oneRankProc.comm 1).released true) s' :=
  ⟨owns_oneRankProc, ncclCommDestroy_defined 0 DestroyCalls.devCommFreeFails owns_oneRankProc⟩

/-! ## What any `ncclCommInitRankSync` allocates -/

/-- The blocks of communicator `p` in `s`: its own, then those `ncclCommDestroy` frees with
it, `NULL` where a field holds none. -/
def Proc.blocks (s : Proc) (p : Nat) : List Nat := p :: (s.comm p).released true

/-- Whatever its calls return, `ncclCommInitRankSync` with `*newcomm` `NULL` is defined, frees
nothing and writes no block it found; when it succeeds, `*newcomm` is a new communicator in block
`s.heap.next` that owns its blocks, all of them new. -/
theorem ncclCommInitRankSync_spec (calls : SyncCalls) (nranks myrank cudaDev : Int) (s : Proc) :
    ∃ res out s', (Lifecycle.ncclCommInitRankSync calls 0 nranks myrank cudaDev).run s =
        .ok ((res, out), s') ∧ s.heap.next ≤ s'.heap.next ∧ s.heap.live ⊆ s'.heap.live ∧
      (∀ q < s.heap.next, s'.comm q = s.comm q) ∧
      (res = ncclSuccess → out = s.heap.next ∧ Owns s' out ∧
        ∀ x ∈ s'.blocks out, x = 0 ∨ s.heap.next ≤ x) := by
  cases hset : calls.hipSetDevice
  · exact ⟨_, _, s, ncclCommInitRankSyncWith_run_setDevice_failure _ _ _ _ _ _ hset, le_rfl,
      subset_rfl, fun _ _ => rfl, fun h => nomatch h⟩
  have hpost := commAlloc_allocPost (E := fun _ => False) calls.alloc nranks myrank
    { s with device := cudaDev } _ (Grown.refl _)
  revert hpost
  rcases hrun : (commAlloc calls.alloc nranks myrank).run { s with device := cudaDev } with
    e | ⟨⟨r, o⟩, s1⟩
  · exact False.elim
  rintro ⟨⟨hle, hlive, hframe, -⟩, hout, -, hok⟩
  dsimp only at hle hlive hframe hout hok
  by_cases hr : r = ncclSuccess
  · -- every call of `commAlloc` succeeded: its communicator is block `s.heap.next`
    obtain ⟨hndev, hrank, doneEvent, busId, hcalls⟩ := hok hr
    obtain ⟨s', hrun', hlive', hcomm', -, hframe'⟩ :=
      ncclCommInitRankSync_run_alloc calls 0 cudaDev s hset hndev hrank hcalls
    have hblocks : ∀ k < 6, s.heap.next + k ∈ s'.heap.live := fun k hk => by
      rw [hlive']
      exact Finset.mem_union_right _ (Finset.mem_Ico.mpr ⟨by omega, by split_ifs <;> omega⟩)
    refine ⟨_, _, s', hrun', (s'.heap.bounded _ (hblocks 5 (by omega))).2.le.trans' (by omega),
      hlive' ▸ Finset.subset_union_left, hframe', fun hres => ⟨if_pos hres, ?_, ?_⟩⟩
    · -- the bootstrap state is block `s.heap.next + 6` once `bootstrapInit` has succeeded
      have hboot : calls.bootstrapInit = ncclSuccess :=
        (firstFailure_eq_success_iff _).1 hres _ (List.mem_cons_self _ _)
      rw [if_pos hres]
      refine owns_allocatedComm hcomm' hblocks (Or.inr ⟨if_pos hboot, ?_⟩)
      rw [if_pos hboot, hlive', if_pos ⟨hboot, Or.inl hres⟩]
      exact Finset.mem_union_right _ (Finset.mem_Ico.mpr ⟨by omega, by omega⟩)
    · intro x hx
      simp only [if_pos hres, Proc.blocks, hcomm', released_allocatedComm, if_true,
        List.cons_append, List.mem_cons, List.nil_append, List.mem_singleton, List.not_mem_nil,
        or_false] at hx
      split_ifs at hx <;> omega
  · -- `commAlloc` failed and left `*newcomm` `NULL`
    refine ⟨_, 0, s1, ?_, hle, fun q hq => hlive ▸ Finset.mem_union_left _ hq, hframe,
      fun h => absurd h hr⟩
    rw [Lifecycle.ncclCommInitRankSync,
      ncclCommInitRankSyncWith_run_alloc_failure _ _ _ _ _ _ hset hrun hr, hout.mpr hr]
    rfl

/-! ## The client -/

/-- A call of the communicator API, with the outcomes of the calls it makes that `src/` does
not define. -/
inductive ApiCall where
  | commInitRankSync (calls : SyncCalls) (newcomm : Nat) (nranks myrank cudaDev : Int)
  | commDestroy (maxChannels : Nat) (calls : DestroyCalls) (comm : Nat)
  | commAbort (comm : Nat)
  | commGetAsyncError (comm asyncError : Nat)
  | commCount (comm count : Nat)
  | commCuDevice (comm devid : Nat)
  | commUserRank (comm rank : Nat)

/-- The communicator a call reads through: its `comm`, or for `ncclCommInitRankSync` the value
of `*newcomm` its cleanup reads. -/
def ApiCall.comm : ApiCall → Nat
  | .commInitRankSync _ newcomm _ _ _ => newcomm
  | .commDestroy _ _ comm | .commAbort comm | .commGetAsyncError comm _ | .commCount comm _
  | .commCuDevice comm _ | .commUserRank comm _ => comm

/-- The process, and the communicators its client holds: those a `ncclCommInitRankSync`
returned with `ncclSuccess` that have not been passed to `ncclCommDestroy` since. -/
structure Client where
  proc : Proc
  held : Finset Nat

/-- A call that leaves the held communicators as they are. -/
def Client.keep {α : Type} (m : LifeM α) (c : Client) : Except Stuck Client := do
  let (_, proc) ← m.run c.proc
  return ⟨proc, c.held⟩

/-- One call: the communicator a successful `ncclCommInitRankSync` returns is held from then
on, and the one passed to `ncclCommDestroy` no longer is, whatever the destroy returns. -/
def ApiCall.run : ApiCall → Client → Except Stuck Client
  | .commInitRankSync calls newcomm nranks myrank cudaDev, c => do
    let ((res, out), proc) ←
      (Lifecycle.ncclCommInitRankSync calls newcomm nranks myrank cudaDev).run c.proc
    return ⟨proc, if res = ncclSuccess then insert out c.held else c.held⟩
  | .commDestroy maxChannels calls comm, c => do
    let (_, proc) ← (ncclCommDestroy maxChannels calls comm).run c.proc
    return ⟨proc, c.held.erase comm⟩
  | .commAbort comm, c => c.keep (ncclCommAbort comm)
  | .commGetAsyncError comm asyncError, c => c.keep (ncclCommGetAsyncError comm asyncError)
  | .commCount comm count, c => c.keep (ncclCommCount comm count)
  | .commCuDevice comm devid, c => c.keep (ncclCommCuDevice comm devid)
  | .commUserRank comm rank, c => c.keep (ncclCommUserRank comm rank)

/-- The calls one after another, until one is undefined. -/
def runCalls : List ApiCall → Client → Except Stuck Client
  | [], c => pure c
  | call :: calls, c => call.run c >>= runCalls calls

/-- The call reads through `NULL` or a communicator the client holds, and a
`ncclCommInitRankSync` is made with `*newcomm` `NULL`: its cleanup aborts the bootstrap state of
a communicator `*newcomm` holds, which the communicator's own destroy closes again. -/
def Client.Admits (c : Client) : ApiCall → Prop
  | .commInitRankSync _ newcomm _ _ _ => newcomm = 0
  | call => call.comm = 0 ∨ call.comm ∈ c.held

/-- Each of `calls`, made from the client it finds, reads through `NULL` or a communicator
that client holds. -/
def AdmitsAll : List ApiCall → Client → Prop
  | [], _ => True
  | call :: calls, c => c.Admits call ∧ ∀ c', call.run c = .ok c' → AdmitsAll calls c'

/-- Every held communicator is live and owns its blocks, and two of them share no block. -/
structure ApiInv (c : Client) : Prop where
  owns : ∀ p ∈ c.held, Owns c.proc p
  separate : ∀ p ∈ c.held, ∀ q ∈ c.held, p ≠ q →
    ∀ x ∈ c.proc.blocks p, x ∈ c.proc.blocks q → x = 0

/-! ## Each call keeps the invariant -/

theorem Owns.grow {s s' : Proc} {p : Nat} (hown : Owns s p) (hsub : s.heap.live ⊆ s'.heap.live)
    (hframe : ∀ q < s.heap.next, s'.comm q = s.comm q) : Owns s' p := by
  obtain ⟨hp, hlive, hnot, hnodup⟩ := hown
  rw [Owns, hframe p (s.heap.bounded p hp).2]
  exact ⟨hsub hp, fun q hq => (hlive q hq).imp_right fun h => hsub h, hnot, hnodup⟩

theorem ApiInv.mono {s : Proc} {held held' : Finset Nat} (hinv : ApiInv ⟨s, held⟩)
    (hsub : held' ⊆ held) : ApiInv ⟨s, held'⟩ :=
  ⟨fun p hp => hinv.owns p (hsub hp), fun p hp q hq => hinv.separate p (hsub hp) q (hsub hq)⟩

/-- A step that frees nothing and writes no block it found keeps the invariant. -/
theorem ApiInv.grow {s s' : Proc} {held : Finset Nat} (hinv : ApiInv ⟨s, held⟩)
    (hsub : s.heap.live ⊆ s'.heap.live) (hframe : ∀ q < s.heap.next, s'.comm q = s.comm q) :
    ApiInv ⟨s', held⟩ := by
  have hblocks : ∀ p ∈ held, s'.blocks p = s.blocks p := fun p hp => by
    rw [Proc.blocks, Proc.blocks, hframe p (s.heap.bounded p (hinv.owns p hp).1).2]
  refine ⟨fun p hp => (hinv.owns p hp).grow hsub hframe, fun p hp q hq hpq x hxp hxq => ?_⟩
  rw [hblocks p hp] at hxp
  rw [hblocks q hq] at hxq
  exact hinv.separate p hp q hq hpq x hxp hxq

/-- Every block of a communicator that owns its blocks is `NULL` or live. -/
theorem Owns.blocks_live {s : Proc} {p : Nat} (hown : Owns s p) :
    ∀ x ∈ s.blocks p, x = 0 ∨ x ∈ s.heap.live := by
  intro x hx
  rcases List.mem_cons.mp hx with rfl | hx
  · exact Or.inr hown.1
  · exact hown.2.1 x hx

/-- Holding a new communicator whose blocks are all new keeps the invariant. -/
theorem ApiInv.insert_held {s : Proc} {held : Finset Nat} {n bound : Nat} (hinv : ApiInv ⟨s, held⟩)
    (hown : Owns s n) (hnew : ∀ x ∈ s.blocks n, x = 0 ∨ bound ≤ x)
    (hold : ∀ p ∈ held, ∀ x ∈ s.blocks p, x = 0 ∨ x < bound) : ApiInv ⟨s, insert n held⟩ := by
  have hn : n ∉ held := fun h => by
    rcases hold n h n (List.mem_cons_self _ _) with h0 | hlt
    · exact Heap.ne_zero_of_mem hown.1 h0
    · rcases hnew n (List.mem_cons_self _ _) with h0 | hle
      · exact Heap.ne_zero_of_mem hown.1 h0
      · omega
  refine ⟨fun p hp => ?_, fun p hp q hq hpq x hxp hxq => ?_⟩
  · rcases Finset.mem_insert.mp hp with rfl | hp
    · exact hown
    · exact hinv.owns p hp
  have key : ∀ a ∈ held, ∀ x ∈ s.blocks n, x ∈ s.blocks a → x = 0 := fun a ha x hxn hxa => by
    rcases hnew x hxn with h | h
    · exact h
    · rcases hold a ha x hxa with h' | h'
      · exact h'
      · omega
  rcases Finset.mem_insert.mp hp with rfl | hp' <;> rcases Finset.mem_insert.mp hq with rfl | hq'
  · exact absurd rfl hpq
  · exact key q hq' x hxp hxq
  · exact key p hp' x hxq hxp
  · exact hinv.separate p hp' q hq' hpq x hxp hxq

/-- A destroy of a held communicator that frees nothing but its blocks keeps the invariant for
the communicators still held. -/
theorem ApiInv.destroy {s s' : Proc} {held : Finset Nat} {p : Nat} (hinv : ApiInv ⟨s, held⟩)
    (hp : p ∈ held) (hw : FreedWithin s.heap s.comm p ((s.comm p).released true) s') :
    ApiInv ⟨s', held.erase p⟩ := by
  -- a block of another held communicator is not one the destroy may free
  have hkeep : ∀ q ∈ held, q ≠ p → ∀ x ∈ s.blocks q, x = 0 ∨ x ∈ s'.heap.live := by
    intro q hq hqp x hx
    rcases (hinv.owns q hq).blocks_live x hx with h0 | hl
    · exact Or.inl h0
    · by_cases hx' : x ∈ s'.heap.live
      · exact Or.inr hx'
      · have hxp : x ∈ s.blocks p := (hw.2.1 x hl hx').elim (fun e => e ▸ List.mem_cons_self _ _)
          (List.mem_cons_of_mem _)
        exact Or.inl (hinv.separate q hq p hp hqp x hx hxp)
  have hblocks : ∀ q ≠ p, s'.blocks q = s.blocks q := fun q hq => by
    rw [Proc.blocks, Proc.blocks, hw.2.2 q hq]
  refine ⟨fun q hq => ?_, fun q hq r hr hqr x hxq hxr => ?_⟩
  · obtain ⟨hqp, hq⟩ := Finset.mem_erase.mp hq
    obtain ⟨hql, -, hnot, hnodup⟩ := hinv.owns q hq
    have hk := hkeep q hq hqp
    refine ⟨(hk q (List.mem_cons_self _ _)).resolve_left (Heap.ne_zero_of_mem hql), ?_⟩
    rw [hw.2.2 q hqp]
    exact ⟨fun x hx => hk x (List.mem_cons_of_mem _ hx), hnot, hnodup⟩
  · obtain ⟨hqp, hq⟩ := Finset.mem_erase.mp hq
    obtain ⟨hrp, hr⟩ := Finset.mem_erase.mp hr
    rw [hblocks q hqp] at hxq
    rw [hblocks r hrp] at hxr
    exact hinv.separate q hq r hr hqr x hxq hxr

/-- A communicator the client may read through is `NULL` or live. -/
theorem ApiInv.live {c : Client} (hinv : ApiInv c) {p : Nat} (h : p = 0 ∨ p ∈ c.held) :
    p = 0 ∨ p ∈ c.proc.heap.live :=
  h.imp_right fun h => (hinv.owns _ h).1

theorem ncclCommAbort_run_admitted {s : Proc} {comm : Nat} (hcomm : comm = 0 ∨ comm ∈ s.heap.live) :
    ∃ r, (ncclCommAbort comm).run s = .ok (r, s) := by
  rcases hcomm with rfl | hcomm
  · exact ⟨_, rfl⟩
  · exact ⟨ncclSuccess, by simp [ncclCommAbort, Heap.ne_zero_of_mem hcomm, readComm_run_live hcomm]; rfl⟩

theorem commQuery_run_admitted {α : Type} (field : Comm → α) {s : Proc} {comm out : Nat}
    (hcomm : comm = 0 ∨ comm ∈ s.heap.live) : ∃ r, (commQuery field comm out).run s = .ok (r, s) := by
  rcases hcomm with rfl | hcomm
  · exact ⟨_, rfl⟩
  by_cases hout : out = 0
  · subst hout
    exact ⟨_, by simp [commQuery, ptrCheck, Heap.ne_zero_of_mem hcomm]; rfl⟩
  · exact ⟨_, commQuery_run field hcomm hout⟩

theorem Client.keep_ok {α : Type} {m : LifeM α} {c : Client}
    (hm : ∃ r, m.run c.proc = .ok (r, c.proc)) : c.keep m = .ok c := by
  obtain ⟨r, hr⟩ := hm
  simp only [Client.keep, hr]
  rfl

theorem Client.keep_held {α : Type} {m : LifeM α} {c c' : Client} (h : c.keep m = .ok c') :
    c'.held = c.held := by
  simp only [Client.keep] at h
  revert h
  rcases m.run c.proc with e | ⟨r, s⟩
  · exact nofun
  · intro h
    cases h
    rfl

/-- What a call may do to the client besides keeping the invariant: the heap's next address
only grows, a communicator held after it and not before is new, and one held before and after
has the same contents. -/
def Client.Follows (c c' : Client) : Prop :=
  c.proc.heap.next ≤ c'.proc.heap.next ∧ (∀ p ∈ c'.held, p ∉ c.held → c.proc.heap.next ≤ p) ∧
    ∀ p ∈ c.held, p ∈ c'.held → c'.proc.comm p = c.proc.comm p

theorem Client.Follows.refl (c : Client) : c.Follows c :=
  ⟨le_rfl, fun _ h h' => absurd h h', fun _ _ _ => rfl⟩

theorem Client.Follows.trans {c c1 c2 : Client} (hinv : ApiInv c) (h1 : c.Follows c1)
    (h2 : c1.Follows c2) : c.Follows c2 := by
  refine ⟨h1.1.trans h2.1, fun p hp2 hp => ?_, fun p hp hp2 => ?_⟩
  · by_cases hp1 : p ∈ c1.held
    · exact h1.2.1 p hp1 hp
    · exact h1.1.trans (h2.2.1 p hp2 hp1)
  · have hlt := (c.proc.heap.bounded p (hinv.owns p hp).1).2
    have hp1 : p ∈ c1.held := by
      by_contra hp1
      have := h2.2.1 p hp2 hp1
      have := h1.1
      omega
    rw [h2.2.2 p hp1 hp2, h1.2.2 p hp hp1]

/-- A `ncclCommInitRankSync` that frees nothing, writes no block it found, and on success
returns a new communicator that owns new blocks keeps the invariant; the communicator it
returns is held from then on. -/
theorem ApiInv.initRankSync {s s' : Proc} {held : Finset Nat} (hinv : ApiInv ⟨s, held⟩)
    {res : NcclResult} {out : Nat} (hle : s.heap.next ≤ s'.heap.next)
    (hsub : s.heap.live ⊆ s'.heap.live) (hframe : ∀ q < s.heap.next, s'.comm q = s.comm q)
    (hok : res = ncclSuccess →
      out = s.heap.next ∧ Owns s' out ∧ ∀ x ∈ s'.blocks out, x = 0 ∨ s.heap.next ≤ x) :
    ApiInv ⟨s', if res = ncclSuccess then insert out held else held⟩ ∧
      Client.Follows ⟨s, held⟩ ⟨s', if res = ncclSuccess then insert out held else held⟩ := by
  have hgrow := hinv.grow hsub hframe
  have hkeep : ∀ p ∈ held, s'.comm p = s.comm p := fun p hp =>
    hframe p (s.heap.bounded p (hinv.owns p hp).1).2
  by_cases hres : res = ncclSuccess
  · obtain ⟨rfl, hown, hnew⟩ := hok hres
    simp only [hres, if_true]
    refine ⟨hgrow.insert_held hown hnew fun p hp x hx => ?_, hle, fun p hp hp' => ?_,
      fun p hp _ => hkeep p hp⟩
    · rw [Proc.blocks, hkeep p hp, ← Proc.blocks] at hx
      exact ((hinv.owns p hp).blocks_live x hx).imp_right fun h => (s.heap.bounded x h).2
    · rcases Finset.mem_insert.mp hp with rfl | hp
      · exact le_rfl
      · exact absurd hp hp'
  · simp only [hres, if_false]
    exact ⟨hgrow, hle, fun _ h h' => absurd h h', fun p hp _ => hkeep p hp⟩

/-- **One call.** A call that reads through `NULL` or a held communicator is defined, whatever
the calls it makes return, and keeps the invariant. -/
theorem ApiInv.step {c : Client} (hinv : ApiInv c) {call : ApiCall} (hadm : c.Admits call) :
    ∃ c', call.run c = .ok c' ∧ ApiInv c' ∧ c.Follows c' := by
  obtain ⟨s, held⟩ := c
  cases call with
  | commInitRankSync calls newcomm nranks myrank cudaDev =>
    obtain rfl : newcomm = 0 := hadm
    obtain ⟨res, out, s', hrun, hle, hsub, hframe, hok⟩ :=
      ncclCommInitRankSync_spec calls nranks myrank cudaDev s
    exact ⟨_, by simp only [ApiCall.run, hrun]; rfl, hinv.initRankSync hle hsub hframe hok⟩
  | commDestroy maxChannels calls comm =>
    rcases hadm with h0 | hp
    · have h0 : comm = 0 := h0
      subst h0
      exact ⟨_, rfl, hinv.mono (Finset.erase_subset _ _), le_rfl,
        fun _ h h' => absurd (Finset.mem_of_mem_erase h) h', fun _ _ _ => rfl⟩
    · have hw := ncclCommDestroy_freedWithin (E := fun _ => False) maxChannels calls
        (hinv.owns comm hp).1 (hinv.owns comm hp).2 s ⟨rfl, rfl⟩
      revert hw
      rcases hrun : (ncclCommDestroy maxChannels calls comm).run s with e | ⟨r, s'⟩
      · exact False.elim
      · intro hw
        exact ⟨_, by simp only [ApiCall.run, hrun]; rfl, hinv.destroy hp hw, hw.1.ge,
          fun _ h h' => absurd (Finset.mem_of_mem_erase h) h',
          fun q _ hq => hw.2.2 q (Finset.ne_of_mem_erase hq)⟩
  | commAbort comm =>
    exact ⟨_, Client.keep_ok (ncclCommAbort_run_admitted (hinv.live hadm)), hinv, .refl _⟩
  | commGetAsyncError comm out =>
    exact ⟨_, Client.keep_ok (commQuery_run_admitted _ (hinv.live hadm)), hinv, .refl _⟩
  | commCount comm out =>
    exact ⟨_, Client.keep_ok (commQuery_run_admitted _ (hinv.live hadm)), hinv, .refl _⟩
  | commCuDevice comm out =>
    exact ⟨_, Client.keep_ok (commQuery_run_admitted _ (hinv.live hadm)), hinv, .refl _⟩
  | commUserRank comm out =>
    exact ⟨_, Client.keep_ok (commQuery_run_admitted _ (hinv.live hadm)), hinv, .refl _⟩

/-! ## Whole runs -/

/-- The client before its first call. -/
def Client.init : Client := ⟨Proc.init, ∅⟩

theorem apiInv_init : ApiInv Client.init :=
  ⟨fun _ h => absurd h (Finset.not_mem_empty _), fun _ h => absurd h (Finset.not_mem_empty _)⟩

end RcclInit
