import Mathlib.Data.List.Basic
import Mathlib.Data.Nat.Defs

/-!
# The collective-trace thread

With `ENABLE_COLLTRACE`, `commAlloc` clears a ring of `COLLTRACE_NUM_ITEMS` entries in pinned
host memory, sets `collTraceHead`, `*collTraceTail` and `collTraceExit` to zero (lines
414-418) and starts `ncclCommThreadMain` (lines 169-264), which prints the entries the device
writes into the ring. The thread keeps `head`, the slot it reads next. At the top of its loop
it loads the tail, reduced modulo the ring size, and counts the slots from `head` to it
(`collTraceCount`). With nothing counted it leaves the loop if `collTraceExit` is set, and
polls again otherwise. Then it reads up to `count` slots from `head`: it stops at a slot whose
type is `ncclCollTraceNotReady`, and otherwise prints the entry's line (`traceLine`), stores
`ncclCollTraceNotReady` into the slot and moves `head` on. `threadStep` is one step of the
thread at that granularity.

The device's side of the ring is not in `init.cc`. The model lets the device do what the
thread relies on, in any interleaving with it: claim the entry at the tail, advancing
`*collTraceTail`, while fewer than `COLLTRACE_NUM_ITEMS` entries are unprinted
(`TraceState.claim`), and write a ready entry into a slot it has claimed, the claims in any
order (`TraceState.fill`). The host may set `collTraceExit` at any time, as `commFree` does
(line 319). `TraceReachable` is the set of states of any interleaving of these steps from the
state `commAlloc` leaves. The ghost field `published` records the entry written for each claim.

`TraceInv` relates the ring to the claims: `head` is the number of printed entries modulo the
ring size, the unprinted claims are less than a ring apart, and a slot is ready exactly when it
holds the entry written for an unprinted claim. Each step keeps it, so it holds in every
reachable state (`traceInv_of_reachable`). Three consequences:

* the thread prints the lines of the written entries in the order of their claims, each once
  and none skipped (`collTrace_prints_in_claim_order`);
* `count` is the number of unprinted claims only when they do not wrap past the end of the
  ring. When they wrap, it is `2 * COLLTRACE_NUM_ITEMS` minus that number, and when the ring
  is full it is `0`, so a full ring looks empty (`collTraceCount_of_reachable`). The first
  result holds whatever `count` is, since the thread stops at the first slot that is not
  ready;
* the name of a kernel-launch or collective-end entry is read at
  `func_names + MAX_NAME_LENGTH*fIdx` before `fIdx` is checked against `FUNC_INDEX_P2P`. So
  the thread reaches undefined behaviour exactly when the next entry to print has a larger
  index, and it never prints "ERROR bad function index" (`threadStep_undefined_iff`).

The thread also makes progress. When the ring is not full and every claimed entry is written,
`count` is at least the number of unprinted claims, so the thread alone (`threadRun`) prints
all of them and polls again (`collTrace_drains`).
-/

set_option autoImplicit false

namespace RcclInit

/-! ## Entries and the lines printed for them -/

/-- The values of `ncclCollTrace::type` the thread tells apart; `ncclCollTraceNotReady` is the
zero the ring is cleared to. -/
inductive CollTraceType where
  | ncclCollTraceNotReady
  | ncclCollTraceKernelLaunchType
  | ncclCollTraceCollEndType
  | ncclCollTraceAbortType
  | ncclCollTraceDataType
  | other (type : Nat)
  deriving DecidableEq, Repr, Inhabited

open CollTraceType

/-- `struct ncclCollTrace`: the type, the function index, and the fields the thread only
prints (`timeStamp`, `bid`, `opCount`, `data_0`, `data_1` and the `p2p` and `coll` unions),
kept as one value. -/
structure NcclCollTrace where
  type : CollTraceType
  funcIndex : UInt16
  fields : Nat
  deriving DecidableEq, Repr, Inhabited

/-- What follows the function name in a kernel-launch or collective-end line. -/
inductive FuncIndexText where
  /-- `"ERROR bad function index %d"` -/
  | badFunctionIndex (fIdx : Nat)
  /-- `"nt %d dt %d"` -/
  | p2p
  /-- `"nt %d bi %d nc %d"` -/
  | coll
  deriving DecidableEq, Repr

/-- A line the thread prints with `INFO`: which `sprintf` wrote it, the entry it shows, and,
for the kernel-launch and collective-end lines, the offset of the function name in
`func_names` and what follows it. -/
inductive TraceLine where
  | dataType (td : NcclCollTrace)
  | kernelLaunch (td : NcclCollTrace) (name : Nat) (text : FuncIndexText)
  | collEnd (td : NcclCollTrace) (name : Nat) (text : FuncIndexText)
  | kernelEnd (td : NcclCollTrace)
  | abort (td : NcclCollTrace)
  | unknown (td : NcclCollTrace)
  deriving DecidableEq, Repr

/-- The line ends in "ERROR bad function index". -/
def TraceLine.badIndex : TraceLine → Bool
  | kernelLaunch _ _ (.badFunctionIndex _) => true
  | collEnd _ _ (.badFunctionIndex _) => true
  | _ => false

section Lines

variable (FUNC_INDEX_P2P : Nat)

/-- The `%s` argument `func_names+MAX_NAME_LENGTH*fIdx`, as the offset it reads from.
`func_names` holds `FUNC_INDEX_P2P+1` names of `MAX_NAME_LENGTH = 32` bytes (line 173), so an
index above `FUNC_INDEX_P2P` reads past it: undefined behaviour, `none`. -/
def funcNameAt (fIdx : UInt16) : Option Nat :=
  if fIdx.toNat ≤ FUNC_INDEX_P2P then some (32 * fIdx.toNat) else none

/-- The text after the name, lines 227-232 and 238-243. -/
def funcIndexText (fIdx : UInt16) : FuncIndexText :=
  if fIdx.toNat > FUNC_INDEX_P2P then .badFunctionIndex fIdx.toNat
  else if fIdx.toNat = FUNC_INDEX_P2P then .p2p
  else .coll

/-- The line printed for the entry `td` (lines 213-251), or `none` where writing it is
undefined behaviour. -/
def traceLine (td : NcclCollTrace) : Option TraceLine :=
  match td.type with
  | ncclCollTraceDataType => some (.dataType td)
  | ncclCollTraceKernelLaunchType =>
      (funcNameAt FUNC_INDEX_P2P td.funcIndex).map fun name =>
        .kernelLaunch td name (funcIndexText FUNC_INDEX_P2P td.funcIndex)
  | ncclCollTraceCollEndType =>
      if td.funcIndex ≠ 0xffff then
        (funcNameAt FUNC_INDEX_P2P td.funcIndex).map fun name =>
          .collEnd td name (funcIndexText FUNC_INDEX_P2P td.funcIndex)
      else some (.kernelEnd td)
  | ncclCollTraceAbortType => some (.abort td)
  | _ => some (.unknown td)

/-- **Undefined behaviour on a bad index.** Writing an entry's line is undefined exactly for
a kernel-launch entry, or a collective-end entry with an index other than `0xffff`, whose
index is above `FUNC_INDEX_P2P`. -/
theorem traceLine_eq_none_iff (td : NcclCollTrace) :
    traceLine FUNC_INDEX_P2P td = none ↔
      (td.type = ncclCollTraceKernelLaunchType ∨
        td.type = ncclCollTraceCollEndType ∧ td.funcIndex ≠ 0xffff) ∧
      FUNC_INDEX_P2P < td.funcIndex.toNat := by
  unfold traceLine funcNameAt
  by_cases hf : td.funcIndex = 0xffff <;> by_cases h : td.funcIndex.toNat ≤ FUNC_INDEX_P2P
  all_goals cases td.type <;> simp [h, hf, Nat.lt_of_not_le, Nat.not_lt.mpr]

theorem funcIndexText_of_funcNameAt {fIdx : UInt16} {name : Nat}
    (h : funcNameAt FUNC_INDEX_P2P fIdx = some name) :
    funcIndexText FUNC_INDEX_P2P fIdx = if fIdx.toNat = FUNC_INDEX_P2P then .p2p else .coll := by
  unfold funcNameAt at h
  split_ifs at h with hle
  exact if_neg (Nat.not_lt.mpr hle)

/-- The index is checked only after the name has been read, so a line that is written never
reports a bad index. -/
theorem traceLine_badIndex {td : NcclCollTrace} {line : TraceLine}
    (h : traceLine FUNC_INDEX_P2P td = some line) : line.badIndex = false := by
  unfold traceLine at h
  split at h
  any_goals split at h
  all_goals first
    | cases h; rfl
    | obtain ⟨name, hname, rfl⟩ := Option.map_eq_some'.mp h
      rw [funcIndexText_of_funcNameAt _ hname]
      split <;> rfl

end Lines

/-! ## The thread and the device -/

/-- Where the thread is in its loop. -/
inductive TracePc where
  /-- Line 190: about to load the tail. -/
  | poll
  /-- Line 197: nothing counted, about to load `collTraceExit`. -/
  | checkExit
  /-- Line 204: iteration `i` of the loop over `count` slots. -/
  | drain (i count : Nat)
  /-- After line 259: the loop has been left. -/
  | exited
  deriving DecidableEq, Repr

/-- The ring, the counters the thread and the device share, and the thread's locals. -/
structure TraceState where
  /-- `collTrace`, `COLLTRACE_NUM_ITEMS` entries. -/
  ring : List NcclCollTrace
  /-- `*collTraceTail`, the number of entries the device has claimed. -/
  tail : Nat
  /-- `collTraceExit`. -/
  exit : Bool
  /-- The thread's `head`. -/
  head : Nat
  pc : TracePc
  /-- The lines the thread has printed, in order. -/
  out : List TraceLine
  /-- Ghost: for each claim, the entry the device wrote for it, `none` until it does. -/
  published : List (Option NcclCollTrace)
  deriving DecidableEq, Repr

section Thread

variable (COLLTRACE_NUM_ITEMS FUNC_INDEX_P2P : Nat)

/-- The state `commAlloc` leaves, lines 414-420: the ring cleared, the counters and the exit
flag zero, the thread at the top of its loop. -/
def TraceState.init : TraceState :=
  ⟨List.replicate COLLTRACE_NUM_ITEMS default, 0, false, 0, .poll, [], []⟩

/-- `count`, lines 191-195, from `head` and the tail modulo the ring size. -/
def collTraceCount (head tail : Nat) : Nat :=
  if head ≤ tail then tail - head else COLLTRACE_NUM_ITEMS + head - tail

/-- Lines 252-258, once the line `line` of the entry at `head` has been printed. -/
def TraceState.advance (line : TraceLine) (s : TraceState) : TraceState :=
  { s with
    ring := s.ring.set s.head { s.ring.getD s.head default with type := ncclCollTraceNotReady }
    head := (s.head + 1) % COLLTRACE_NUM_ITEMS
    out := s.out ++ [line] }

/-- One step of `ncclCommThreadMain`; `none` is undefined behaviour. After the loop the thread
does nothing more. -/
def threadStep (s : TraceState) : Option TraceState :=
  match s.pc with
  | .poll =>
      let count := collTraceCount COLLTRACE_NUM_ITEMS s.head (s.tail % COLLTRACE_NUM_ITEMS)
      some { s with pc := if count = 0 then .checkExit else .drain 0 count }
  | .checkExit => some { s with pc := if s.exit then .exited else .poll }
  | .drain i count =>
      if i < count then
        let td := s.ring.getD s.head default
        if td.type = ncclCollTraceNotReady then some { s with pc := .poll }
        else (traceLine FUNC_INDEX_P2P td).map fun line =>
          { s.advance COLLTRACE_NUM_ITEMS line with pc := .drain (i + 1) count }
      else some { s with pc := .poll }
  | .exited => some s

/-- The device claims the entry at the tail. -/
def TraceState.claim (s : TraceState) : TraceState :=
  { s with tail := s.tail + 1, published := s.published ++ [none] }

/-- The device writes the entry `e` for its claim `k`, into slot `k % COLLTRACE_NUM_ITEMS`. -/
def TraceState.fill (k : Nat) (e : NcclCollTrace) (s : TraceState) : TraceState :=
  { s with
    ring := s.ring.set (k % COLLTRACE_NUM_ITEMS) e
    published := s.published.set k (some e) }

/-- `n` steps of the thread alone; `none` when one of them is undefined. -/
def threadRun : Nat → TraceState → Option TraceState
  | 0, s => some s
  | n + 1, s => (threadStep COLLTRACE_NUM_ITEMS FUNC_INDEX_P2P s).bind (threadRun n)

/-- One step of the thread, of the device, or of the host setting `collTraceExit`. -/
inductive TraceStep : TraceState → TraceState → Prop where
  | thread {s s' : TraceState} :
      threadStep COLLTRACE_NUM_ITEMS FUNC_INDEX_P2P s = some s' → TraceStep s s'
  | claim {s : TraceState} : s.tail < s.out.length + COLLTRACE_NUM_ITEMS → TraceStep s s.claim
  | fill {s : TraceState} (k : Nat) (e : NcclCollTrace) : s.published[k]? = some none →
      e.type ≠ ncclCollTraceNotReady → TraceStep s (s.fill COLLTRACE_NUM_ITEMS k e)
  | exit {s : TraceState} : TraceStep s { s with exit := true }

/-- The states of any interleaving of the thread, the device and the host. -/
inductive TraceReachable : TraceState → Prop where
  | init : TraceReachable (TraceState.init COLLTRACE_NUM_ITEMS)
  | step {s s' : TraceState} : TraceReachable s →
      TraceStep COLLTRACE_NUM_ITEMS FUNC_INDEX_P2P s s' → TraceReachable s'

end Thread

/-! ## One step of the thread -/

section Steps

variable {COLLTRACE_NUM_ITEMS FUNC_INDEX_P2P : Nat} {s s' : TraceState}

/-- What one step of the thread can do: move to another point of its loop, or print the entry
at `head`. -/
theorem threadStep_cases (h : threadStep COLLTRACE_NUM_ITEMS FUNC_INDEX_P2P s = some s') :
    (∃ pc, s' = { s with pc := pc }) ∨
      ∃ i count line, s.pc = .drain i count ∧ i < count ∧
        (s.ring.getD s.head default).type ≠ ncclCollTraceNotReady ∧
        traceLine FUNC_INDEX_P2P (s.ring.getD s.head default) = some line ∧
        s' = { s.advance COLLTRACE_NUM_ITEMS line with pc := .drain (i + 1) count } := by
  unfold threadStep at h
  split at h
  · exact .inl ⟨_, (Option.some.inj h).symm⟩
  · exact .inl ⟨_, (Option.some.inj h).symm⟩
  · rename_i i count hpc
    dsimp only at h
    split_ifs at h with hi hready
    · exact .inl ⟨_, (Option.some.inj h).symm⟩
    · obtain ⟨line, hline, rfl⟩ := Option.map_eq_some'.mp h
      exact .inr ⟨i, count, line, hpc, hi, hready, hline, rfl⟩
    · exact .inl ⟨_, (Option.some.inj h).symm⟩
  · exact .inl ⟨s.pc, (Option.some.inj h).symm⟩

/-- The thread's step is undefined exactly when it is in its loop at a ready entry whose line
cannot be written. -/
theorem threadStep_eq_none_iff :
    threadStep COLLTRACE_NUM_ITEMS FUNC_INDEX_P2P s = none ↔
      (∃ i count, s.pc = .drain i count ∧ i < count) ∧
        (s.ring.getD s.head default).type ≠ ncclCollTraceNotReady ∧
        traceLine FUNC_INDEX_P2P (s.ring.getD s.head default) = none := by
  unfold threadStep
  split
  · simp_all
  · simp_all
  · rename_i i count hpc
    dsimp only
    split_ifs with hi hready
    · exact ⟨fun h => (by cases h), fun h => absurd hready h.2.1⟩
    · rw [Option.map_eq_none']
      exact ⟨fun hl => ⟨⟨i, count, hpc, hi⟩, hready, hl⟩, fun h => h.2.2⟩
    · refine ⟨fun h => (by cases h), fun ⟨⟨i', c', hpc', hi'⟩, _⟩ => ?_⟩
      rw [hpc] at hpc'
      cases hpc'
      exact absurd hi' hi
  · simp_all

end Steps

/-! ## Slots and claims -/

/-- Two claims less than a ring apart, the later one no earlier than the other, in one slot are
the same claim. -/
theorem eq_of_mod_eq_of_lt_add {N a b : Nat} (h : b % N = a % N) (hab : a ≤ b)
    (hb : b < a + N) : b = a := by
  have := Nat.sub_mod_eq_zero_of_mod_eq h
  rw [Nat.mod_eq_of_lt (by omega : b - a < N)] at this
  omega

/-- Distinct claims in a window of less than a ring use distinct slots. -/
theorem mod_ne_of_window {N c k k' : Nat} (hk : c ≤ k) (hk' : c ≤ k') (hkN : k < c + N)
    (hk'N : k' < c + N) (hne : k ≠ k') : k % N ≠ k' % N := fun h => by
  rcases le_total k k' with hle | hle
  · exact hne (eq_of_mod_eq_of_lt_add h.symm hle (by omega)).symm
  · exact hne (eq_of_mod_eq_of_lt_add h hle (by omega))

theorem lt_length_of_getElem?_eq_some {α : Type} {l : List α} {k : Nat} {a : α}
    (h : l[k]? = some a) : k < l.length :=
  (List.getElem?_eq_some_iff.mp h).1

theorem getElem?_append_none {α : Type} {l : List (Option α)} {k : Nat} {a : α}
    (h : (l ++ [none])[k]? = some (some a)) : l[k]? = some (some a) := by
  rcases lt_or_ge k l.length with hk | hk
  · rwa [List.getElem?_append_left hk] at h
  · rw [List.getElem?_append_right hk] at h
    obtain ⟨j, rfl⟩ := Nat.exists_eq_add_of_le hk
    cases j <;> simp at h

/-- A slot read with a default that is not ready is a slot of the ring. -/
theorem getElem?_of_getD_ready {l : List NcclCollTrace} {i : Nat}
    (h : (l.getD i default).type ≠ ncclCollTraceNotReady) : l[i]? = some (l.getD i default) := by
  rw [List.getD_eq_getElem?_getD] at h ⊢
  cases hl : l[i]? with
  | none => rw [hl] at h; exact absurd rfl h
  | some td => rfl

/-! ## The invariant -/

section Invariant

variable (COLLTRACE_NUM_ITEMS FUNC_INDEX_P2P : Nat)

/-- The ring against the claims, `c = s.out.length` being the number of printed entries. -/
structure TraceInv (s : TraceState) : Prop where
  ring_length : s.ring.length = COLLTRACE_NUM_ITEMS
  head_eq : s.head = s.out.length % COLLTRACE_NUM_ITEMS
  published_length : s.published.length = s.tail
  printed_le_tail : s.out.length ≤ s.tail
  tail_le : s.tail ≤ s.out.length + COLLTRACE_NUM_ITEMS
  /-- The printed lines are those of the first `c` entries written. -/
  printed : (s.published.take s.out.length).map (·.bind (traceLine FUNC_INDEX_P2P)) =
    s.out.map some
  published_ready : ∀ (k : Nat) (e : NcclCollTrace), s.published[k]? = some (some e) → e.type ≠ ncclCollTraceNotReady
  /-- A ready slot holds the entry written for an unprinted claim. -/
  slot_ready : ∀ (slot : Nat) (td : NcclCollTrace), s.ring[slot]? = some td → td.type ≠ ncclCollTraceNotReady →
    ∃ k, s.out.length ≤ k ∧ k % COLLTRACE_NUM_ITEMS = slot ∧ s.published[k]? = some (some td)
  /-- The entry written for an unprinted claim is in its slot. -/
  slot_published : ∀ (k : Nat) (e : NcclCollTrace), s.out.length ≤ k → s.published[k]? = some (some e) →
    s.ring[k % COLLTRACE_NUM_ITEMS]? = some e

variable {COLLTRACE_NUM_ITEMS FUNC_INDEX_P2P} {s : TraceState}

theorem traceInv_init : TraceInv COLLTRACE_NUM_ITEMS FUNC_INDEX_P2P
    (TraceState.init COLLTRACE_NUM_ITEMS) where
  ring_length := List.length_replicate _ _
  head_eq := rfl
  published_length := rfl
  printed_le_tail := le_rfl
  tail_le := Nat.zero_le _
  printed := rfl
  published_ready := by simp [TraceState.init]
  slot_ready := by
    intro slot td h hready
    simp only [TraceState.init, List.getElem?_replicate] at h
    split at h
    · cases h; exact absurd rfl hready
    · cases h
  slot_published := by simp [TraceState.init]

namespace TraceInv

variable (h : TraceInv COLLTRACE_NUM_ITEMS FUNC_INDEX_P2P s)
include h

/-- The thread's point in its loop and the exit flag do not matter. -/
theorem with_pc_exit (pc : TracePc) (exit : Bool) :
    TraceInv COLLTRACE_NUM_ITEMS FUNC_INDEX_P2P { s with pc := pc, exit := exit } :=
  ⟨h.1, h.2, h.3, h.4, h.5, h.6, h.7, h.8, h.9⟩

theorem with_pc (pc : TracePc) : TraceInv COLLTRACE_NUM_ITEMS FUNC_INDEX_P2P { s with pc := pc } :=
  h.with_pc_exit pc s.exit

/-- Every printed claim has its entry written. -/
theorem published_of_lt {k : Nat} (hk : k < s.out.length) : s.published[k]? ≠ some none := by
  intro hnone
  have := congrArg (·[k]?) h.printed
  simp only [List.getElem?_map, List.getElem?_take_of_lt hk, hnone,
    List.getElem?_eq_getElem hk] at this
  simp at this

/-- The entry at `head`, when ready, is the one written for the next claim to print. -/
theorem head_published {td : NcclCollTrace} (htd : s.ring[s.head]? = some td)
    (hready : td.type ≠ ncclCollTraceNotReady) : s.published[s.out.length]? = some (some td) := by
  obtain ⟨k, hck, hkmod, hpk⟩ := h.slot_ready s.head td htd hready
  have hkt : k < s.tail := h.published_length ▸ lt_length_of_getElem?_eq_some hpk
  rwa [eq_of_mod_eq_of_lt_add (hkmod.trans h.head_eq) hck (by have := h.tail_le; omega)] at hpk

/-- Printing the entry at `head` keeps the invariant. -/
theorem advance {line : TraceLine}
    (hready : (s.ring.getD s.head default).type ≠ ncclCollTraceNotReady)
    (hline : traceLine FUNC_INDEX_P2P (s.ring.getD s.head default) = some line) :
    TraceInv COLLTRACE_NUM_ITEMS FUNC_INDEX_P2P (s.advance COLLTRACE_NUM_ITEMS line) := by
  have htd := getElem?_of_getD_ready hready
  have hpc := h.head_published htd hready
  simp only [List.getD_eq_getElem?_getD] at hline hpc htd hready
  have hct : s.out.length < s.tail :=
    h.published_length ▸ lt_length_of_getElem?_eq_some hpc
  have hmod : ∀ k, s.out.length < k → k < s.tail → k % COLLTRACE_NUM_ITEMS ≠ s.head := by
    intro k hk hkt
    rw [h.head_eq]
    exact mod_ne_of_window (Nat.le_of_lt hk) (le_refl _) (by have := h.tail_le; omega)
      (by have := h.tail_le; omega) (Nat.ne_of_gt hk)
  refine ⟨by simp [TraceState.advance, h.ring_length], ?_, h.published_length, ?_, ?_, ?_,
    h.published_ready, ?_, ?_⟩
  · simp [TraceState.advance, h.head_eq]
  · simpa [TraceState.advance] using hct
  · simp only [TraceState.advance, List.length_append, List.length_singleton]
    have := h.tail_le; omega
  · simp [TraceState.advance, List.take_succ, hpc, h.printed, hline]
  · intro slot td' hslot hready'
    by_cases hs : slot = s.head
    · subst hs
      simp [TraceState.advance, List.getElem?_set_self (lt_length_of_getElem?_eq_some htd)]
        at hslot
      subst hslot
      exact absurd rfl hready'
    · simp only [TraceState.advance, List.getElem?_set_ne (Ne.symm hs)] at hslot
      obtain ⟨k, hck, hkmod, hpk⟩ := h.slot_ready slot td' hslot hready'
      have hkc : k ≠ s.out.length := by
        rintro rfl
        exact hs (hkmod.symm.trans h.head_eq.symm)
      refine ⟨k, ?_, hkmod, hpk⟩
      simp only [TraceState.advance, List.length_append, List.length_singleton]
      omega
  · intro k e hk hpk
    simp only [TraceState.advance, List.length_append, List.length_singleton] at hk
    have hkt : k < s.tail := h.published_length ▸ lt_length_of_getElem?_eq_some hpk
    simp only [TraceState.advance, List.getElem?_set_ne (hmod k hk hkt).symm]
    exact h.slot_published k e (by omega) hpk

/-- A claim keeps the invariant while the ring has room. -/
theorem claim (hroom : s.tail < s.out.length + COLLTRACE_NUM_ITEMS) :
    TraceInv COLLTRACE_NUM_ITEMS FUNC_INDEX_P2P s.claim := by
  refine ⟨h.ring_length, h.head_eq, by simp [TraceState.claim, h.published_length],
    by simp [TraceState.claim]; have := h.printed_le_tail; omega, by simp [TraceState.claim]; omega,
    ?_, fun k e hk => h.published_ready k e (getElem?_append_none hk), ?_,
    fun k e hk hpk => h.slot_published k e hk (getElem?_append_none hpk)⟩
  · rw [TraceState.claim, List.take_append_of_le_length (h.published_length ▸ h.printed_le_tail)]
    exact h.printed
  · intro slot td hslot hready
    obtain ⟨k, hck, hkmod, hpk⟩ := h.slot_ready slot td hslot hready
    exact ⟨k, hck, hkmod, by
      rw [TraceState.claim, List.getElem?_append_left (lt_length_of_getElem?_eq_some hpk)]
      exact hpk⟩

/-- Writing a ready entry for a claim not yet written keeps the invariant. -/
theorem fill {k : Nat} {e : NcclCollTrace} (hk : s.published[k]? = some none)
    (he : e.type ≠ ncclCollTraceNotReady) :
    TraceInv COLLTRACE_NUM_ITEMS FUNC_INDEX_P2P (s.fill COLLTRACE_NUM_ITEMS k e) := by
  have hck : s.out.length ≤ k := Nat.le_of_not_lt fun hlt => h.published_of_lt hlt hk
  have hkt : k < s.tail := h.published_length ▸ lt_length_of_getElem?_eq_some hk
  have hN : k % COLLTRACE_NUM_ITEMS < s.ring.length := by
    rw [h.ring_length]
    exact Nat.mod_lt _ (by have := h.tail_le; omega)
  have hpub : ∀ k', (s.published.set k (some e))[k']? =
      if k = k' then some (some e) else s.published[k']? := fun k' => by
    rw [List.getElem?_set, if_pos (h.published_length ▸ hkt : k < s.published.length)]
  refine ⟨by simp [TraceState.fill, h.ring_length], h.head_eq,
    by simp [TraceState.fill, h.published_length], h.printed_le_tail, h.tail_le, ?_, ?_, ?_, ?_⟩
  · have htake : (s.published.set k (some e)).take s.out.length = s.published.take s.out.length :=
      List.ext_getElem? fun i => by
        rw [List.getElem?_take, List.getElem?_take]
        split
        · rw [List.getElem?_set_ne (by omega)]
        · rfl
    simp only [TraceState.fill, htake, h.printed]
  · intro k' e' hk'
    simp only [TraceState.fill, hpub] at hk'
    split at hk'
    · cases hk'; exact he
    · exact h.published_ready k' e' hk'
  · intro slot td hslot hready
    simp only [TraceState.fill, List.getElem?_set, if_pos hN] at hslot
    split at hslot
    · rename_i hs
      cases hslot
      exact ⟨k, hck, hs, by simp [TraceState.fill, hpub]⟩
    · rename_i hs
      obtain ⟨k', hck', hkmod', hpk'⟩ := h.slot_ready slot td hslot hready
      have hne : k ≠ k' := fun hkk => hs (hkk ▸ hkmod')
      exact ⟨k', hck', hkmod', by simp only [TraceState.fill, hpub, if_neg hne, hpk']⟩
  · intro k' e' hck' hk'
    simp only [TraceState.fill, hpub] at hk'
    split at hk'
    · rename_i hkk
      cases hkk; cases hk'
      simp [TraceState.fill, hN]
    · rename_i hkk
      have hk't : k' < s.tail := h.published_length ▸ lt_length_of_getElem?_eq_some hk'
      change s.out.length ≤ k' at hck'
      have hslot : k % COLLTRACE_NUM_ITEMS ≠ k' % COLLTRACE_NUM_ITEMS :=
        mod_ne_of_window hck hck' (by have := h.tail_le; omega) (by have := h.tail_le; omega) hkk
      simp only [TraceState.fill, List.getElem?_set_ne hslot]
      exact h.slot_published k' e' hck' hk'

/-- `count` against the number `w` of claimed entries not yet printed. -/
theorem collTraceCount_eq :
    collTraceCount COLLTRACE_NUM_ITEMS s.head (s.tail % COLLTRACE_NUM_ITEMS) =
      if s.tail = s.out.length + COLLTRACE_NUM_ITEMS then 0
      else if s.head + (s.tail - s.out.length) < COLLTRACE_NUM_ITEMS then s.tail - s.out.length
      else 2 * COLLTRACE_NUM_ITEMS - (s.tail - s.out.length) := by
  obtain ⟨w, hw⟩ : ∃ w, s.tail = s.out.length + w := ⟨_, (Nat.add_sub_cancel' h.printed_le_tail).symm⟩
  have hwN : w ≤ COLLTRACE_NUM_ITEMS := by have := h.tail_le; omega
  rw [hw, Nat.add_sub_cancel_left, ← Nat.mod_add_mod, ← h.head_eq]
  rcases Nat.lt_or_ge w COLLTRACE_NUM_ITEMS with hlt | hge
  · have hhead : s.head < COLLTRACE_NUM_ITEMS := h.head_eq ▸ Nat.mod_lt _ (by omega)
    rw [if_neg (by omega)]
    unfold collTraceCount
    by_cases hsum : s.head + w < COLLTRACE_NUM_ITEMS
    · rw [Nat.mod_eq_of_lt hsum, if_pos hsum, if_pos (by omega)]
      omega
    · rw [Nat.mod_eq_sub_mod (by omega), Nat.mod_eq_of_lt (by omega), if_neg hsum,
        if_neg (by omega)]
      omega
  · obtain rfl : w = COLLTRACE_NUM_ITEMS := by omega
    rw [if_pos rfl, Nat.add_mod_right, h.head_eq, Nat.mod_mod]
    simp [collTraceCount]


/-- One step of the thread keeps the invariant. -/
theorem thread {s' : TraceState} (hs : threadStep COLLTRACE_NUM_ITEMS FUNC_INDEX_P2P s = some s') :
    TraceInv COLLTRACE_NUM_ITEMS FUNC_INDEX_P2P s' := by
  rcases threadStep_cases hs with ⟨pc, rfl⟩ | ⟨i, count, line, -, -, hready, hline, rfl⟩
  · exact h.with_pc pc
  · exact (h.advance hready hline).with_pc _

/-- Every step keeps the invariant. -/
theorem step {s' : TraceState} (hs : TraceStep COLLTRACE_NUM_ITEMS FUNC_INDEX_P2P s s') :
    TraceInv COLLTRACE_NUM_ITEMS FUNC_INDEX_P2P s' := by
  cases hs with
  | thread hs => exact h.thread hs
  | claim hroom => exact h.claim hroom
  | fill k e hk he => exact h.fill hk he
  | exit => exact h.with_pc_exit s.pc true

end TraceInv

theorem traceInv_of_reachable (hs : TraceReachable COLLTRACE_NUM_ITEMS FUNC_INDEX_P2P s) :
    TraceInv COLLTRACE_NUM_ITEMS FUNC_INDEX_P2P s := by
  induction hs with
  | init => exact traceInv_init
  | step _ hstep ih => exact ih.step hstep

end Invariant

/-! ## What the thread prints -/

section Results

variable {COLLTRACE_NUM_ITEMS FUNC_INDEX_P2P : Nat} {s : TraceState}

/-- **The thread prints what the device wrote, in the order of the claims.** In every state of
every interleaving, the thread's lines are the lines of the entries written for the first
claims, one line for each claim and in their order, and it has printed no more entries than
were claimed. -/
theorem collTrace_prints_in_claim_order
    (hs : TraceReachable COLLTRACE_NUM_ITEMS FUNC_INDEX_P2P s) :
    (s.published.take s.out.length).map (·.bind (traceLine FUNC_INDEX_P2P)) = s.out.map some ∧
      s.out.length ≤ s.tail :=
  have h := traceInv_of_reachable hs
  ⟨h.printed, h.printed_le_tail⟩

/-- A kernel launch of function `2`, and the state after the thread has printed it from a ring
of two entries. -/
def kernelLaunchTrace : NcclCollTrace := ⟨ncclCollTraceKernelLaunchType, 2, 0⟩

def TraceState.printedOne : TraceState :=
  ⟨[{ kernelLaunchTrace with type := ncclCollTraceNotReady }, default], 1, false, 1, .drain 1 1,
    [.kernelLaunch kernelLaunchTrace 64 .coll], [some kernelLaunchTrace]⟩

theorem collTrace_prints_in_claim_order_printedOne :
    TraceReachable 2 3 TraceState.printedOne ∧
      (TraceState.printedOne.published.take TraceState.printedOne.out.length).map
          (·.bind (traceLine 3)) = TraceState.printedOne.out.map some ∧
        TraceState.printedOne.out.length ≤ TraceState.printedOne.tail :=
  have h : TraceReachable 2 3 TraceState.printedOne :=
    .step (.step (.step (.step .init (.claim (by decide)))
      (.fill 0 kernelLaunchTrace rfl (by decide))) (.thread rfl)) (.thread rfl)
  ⟨h, collTrace_prints_in_claim_order h⟩

/-- **A bad function index is undefined behaviour, and its error line is never printed.** In
every reachable state, the thread's next step is undefined exactly when it is inside its loop
and the entry written for the next claim is a kernel launch, or a collective end with an index
other than `0xffff`, whose index is above `FUNC_INDEX_P2P`. No line the thread has printed
reports a bad function index. -/
theorem threadStep_undefined_iff (hs : TraceReachable COLLTRACE_NUM_ITEMS FUNC_INDEX_P2P s) :
    (threadStep COLLTRACE_NUM_ITEMS FUNC_INDEX_P2P s = none ↔
      (∃ i count, s.pc = .drain i count ∧ i < count) ∧
        ∃ e, s.published[s.out.length]? = some (some e) ∧
          (e.type = ncclCollTraceKernelLaunchType ∨
            e.type = ncclCollTraceCollEndType ∧ e.funcIndex ≠ 0xffff) ∧
          FUNC_INDEX_P2P < e.funcIndex.toNat) ∧
      ∀ line ∈ s.out, line.badIndex = false := by
  have h := traceInv_of_reachable hs
  refine ⟨threadStep_eq_none_iff.trans ⟨?_, ?_⟩, fun line hline => ?_⟩
  · rintro ⟨hpc, hready, hnone⟩
    exact ⟨hpc, _, h.head_published (getElem?_of_getD_ready hready) hready,
      (traceLine_eq_none_iff _ _).mp hnone⟩
  · rintro ⟨hpc, e, hpe, hbad⟩
    have hslot : s.ring[s.head]? = some e := h.head_eq ▸ h.slot_published _ e le_rfl hpe
    rw [List.getD_eq_getElem?_getD, hslot, Option.getD_some]
    exact ⟨hpc, h.published_ready _ e hpe, (traceLine_eq_none_iff _ _).mpr hbad⟩
  · have hmem : some line ∈ (s.published.take s.out.length).map
        (·.bind (traceLine FUNC_INDEX_P2P)) := h.printed ▸ List.mem_map_of_mem some hline
    obtain ⟨o, -, ho⟩ := List.mem_map.mp hmem
    obtain ⟨e, -, he⟩ := Option.bind_eq_some.mp ho
    exact traceLine_badIndex _ he

/-- A kernel launch of function `9`, past `FUNC_INDEX_P2P = 3`, and the state in which the
thread is about to print it. -/
def badKernelLaunchTrace : NcclCollTrace := ⟨ncclCollTraceKernelLaunchType, 9, 0⟩

def TraceState.badPending : TraceState :=
  ⟨[badKernelLaunchTrace, default], 1, false, 0, .drain 0 1, [], [some badKernelLaunchTrace]⟩

theorem threadStep_undefined_iff_badPending :
    TraceReachable 2 3 TraceState.badPending ∧
      ((threadStep 2 3 TraceState.badPending = none ↔
        (∃ i count, TraceState.badPending.pc = .drain i count ∧ i < count) ∧
          ∃ e, TraceState.badPending.published[TraceState.badPending.out.length]? =
              some (some e) ∧
            (e.type = ncclCollTraceKernelLaunchType ∨
              e.type = ncclCollTraceCollEndType ∧ e.funcIndex ≠ 0xffff) ∧
            3 < e.funcIndex.toNat) ∧
        ∀ line ∈ TraceState.badPending.out, line.badIndex = false) :=
  have h : TraceReachable 2 3 TraceState.badPending :=
    .step (.step (.step .init (.claim (by decide)))
      (.fill 0 badKernelLaunchTrace rfl (by decide))) (.thread rfl)
  ⟨h, threadStep_undefined_iff h⟩

/-- **What `count` counts.** In every reachable state, with `w` the number of claimed entries
not yet printed, the thread's count is `w` when those entries do not wrap past the end of the
ring, `2 * COLLTRACE_NUM_ITEMS - w` when they do, and `0` when the ring is full. -/
theorem collTraceCount_of_reachable (hs : TraceReachable COLLTRACE_NUM_ITEMS FUNC_INDEX_P2P s) :
    collTraceCount COLLTRACE_NUM_ITEMS s.head (s.tail % COLLTRACE_NUM_ITEMS) =
      if s.tail = s.out.length + COLLTRACE_NUM_ITEMS then 0
      else if s.head + (s.tail - s.out.length) < COLLTRACE_NUM_ITEMS then s.tail - s.out.length
      else 2 * COLLTRACE_NUM_ITEMS - (s.tail - s.out.length) :=
  (traceInv_of_reachable hs).collTraceCount_eq

/-- Two entries written in a ring of two: the ring is full, and the thread is about to poll. -/
def TraceState.fullRing : TraceState :=
  ⟨[kernelLaunchTrace, badKernelLaunchTrace], 2, false, 0, .poll, [],
    [some kernelLaunchTrace, some badKernelLaunchTrace]⟩

theorem collTraceCount_of_reachable_fullRing :
    TraceReachable 2 3 TraceState.fullRing ∧
      collTraceCount 2 TraceState.fullRing.head (TraceState.fullRing.tail % 2) =
        if TraceState.fullRing.tail = TraceState.fullRing.out.length + 2 then 0
        else if TraceState.fullRing.head + (TraceState.fullRing.tail -
            TraceState.fullRing.out.length) < 2 then
          TraceState.fullRing.tail - TraceState.fullRing.out.length
        else 2 * 2 - (TraceState.fullRing.tail - TraceState.fullRing.out.length) :=
  have h : TraceReachable 2 3 TraceState.fullRing :=
    .step (.step (.step (.step .init (.claim (by decide)))
      (.fill 0 kernelLaunchTrace rfl (by decide))) (.claim (by decide)))
      (.fill 1 badKernelLaunchTrace rfl (by decide))
  ⟨h, collTraceCount_of_reachable h⟩

/-! ## Progress of the thread -/

/-- The lines of the claims not yet printed, in claim order. -/
def TraceState.pendingLines (FUNC_INDEX_P2P : Nat) (s : TraceState) : List TraceLine :=
  (s.published.drop s.out.length).filterMap (·.bind (traceLine FUNC_INDEX_P2P))

theorem threadRun_succ (n : Nat) (s : TraceState) :
    threadRun COLLTRACE_NUM_ITEMS FUNC_INDEX_P2P (n + 1) s =
      (threadStep COLLTRACE_NUM_ITEMS FUNC_INDEX_P2P s).bind
        (threadRun COLLTRACE_NUM_ITEMS FUNC_INDEX_P2P n) := rfl

namespace TraceInv

variable (h : TraceInv COLLTRACE_NUM_ITEMS FUNC_INDEX_P2P s)
include h

/-- In the loop over `count` slots, the entry written for the next claim is printed. -/
theorem threadStep_drain_print {i count : Nat} {e : NcclCollTrace} {line : TraceLine}
    (hpc : s.pc = .drain i count) (hi : i < count) (hpe : s.published[s.out.length]? = some (some e))
    (hline : traceLine FUNC_INDEX_P2P e = some line) :
    threadStep COLLTRACE_NUM_ITEMS FUNC_INDEX_P2P s =
      some { s.advance COLLTRACE_NUM_ITEMS line with pc := .drain (i + 1) count } := by
  have hslot : s.ring[s.head]? = some e := h.head_eq ▸ h.slot_published _ e le_rfl hpe
  have htd : s.ring.getD s.head default = e := by
    rw [List.getD_eq_getElem?_getD, hslot, Option.getD_some]
  simp only [threadStep, hpc, if_pos hi, htd, if_neg (h.published_ready _ e hpe), hline,
    Option.map_some']

/-- With every claim printed, the loop over `count` slots ends at the next step. -/
theorem threadStep_drain_done {i count : Nat} (hpc : s.pc = .drain i count)
    (hdone : s.tail = s.out.length) :
    threadStep COLLTRACE_NUM_ITEMS FUNC_INDEX_P2P s = some { s with pc := .poll } := by
  simp only [threadStep, hpc]
  split_ifs with hi hready
  · rfl
  · have hpc' := h.head_published (getElem?_of_getD_ready hready) hready
    have := lt_length_of_getElem?_eq_some hpc'
    rw [h.published_length] at this
    omega
  · rfl

/-- From iteration `i` of the loop, with `count` large enough for the `w` claims not printed,
all of them written with lines that can be printed, the thread prints their lines and polls
again. -/
theorem drain_loop (w : Nat) {i count : Nat} (hpc : s.pc = .drain i count)
    (hw : s.tail = s.out.length + w) (hcount : i + w ≤ count)
    (hwritten : ∀ k, s.out.length ≤ k → k < s.tail →
      ∃ e line, s.published[k]? = some (some e) ∧ traceLine FUNC_INDEX_P2P e = some line) :
    ∃ n s', threadRun COLLTRACE_NUM_ITEMS FUNC_INDEX_P2P n s = some s' ∧ s'.pc = .poll ∧
      s'.out.length = s.tail ∧ s'.out = s.out ++ s.pendingLines FUNC_INDEX_P2P := by
  induction w generalizing s i with
  | zero =>
    refine ⟨1, { s with pc := .poll }, ?_, rfl, hw.symm, ?_⟩
    · rw [threadRun_succ, h.threadStep_drain_done hpc hw]; rfl
    · simp [TraceState.pendingLines,
        List.drop_eq_nil_of_le (show s.published.length ≤ s.out.length by have := h.published_length; omega)]
  | succ w ih =>
    obtain ⟨e, line, hpe, hline⟩ := hwritten s.out.length le_rfl (by omega)
    have hstep := h.threadStep_drain_print hpc (by omega) hpe hline
    have h1 := (h.thread hstep)
    obtain ⟨n, s', hrun, hpoll, hlen', hout⟩ := ih h1 rfl
      (by simp [TraceState.advance, hw]; omega) (by omega) fun k hk hkt =>
        hwritten k (by simp [TraceState.advance] at hk; omega) hkt
    refine ⟨n + 1, s', by rw [threadRun_succ, hstep]; exact hrun, hpoll, hlen', ?_⟩
    have hlen : s.out.length < s.published.length := lt_length_of_getElem?_eq_some hpe
    have hget : s.published[s.out.length] = some e := by
      rw [List.getElem?_eq_getElem hlen] at hpe
      exact Option.some.inj hpe
    rw [hout]
    simp only [TraceState.pendingLines, TraceState.advance, List.length_append,
      List.length_singleton, List.drop_eq_getElem_cons hlen, hget, List.filterMap_cons,
      Option.some_bind, hline, List.append_assoc, List.singleton_append]

end TraceInv

/-- **A written entry is printed at the next poll unless the ring is full.** From every
reachable state in which the thread is about to poll, the ring has room, and the entry for the
next claim has been written with a line that can be printed, the thread's next two steps print
that line. -/
theorem threadStep_prints_next {e : NcclCollTrace} {line : TraceLine}
    (hs : TraceReachable COLLTRACE_NUM_ITEMS FUNC_INDEX_P2P s) (hpoll : s.pc = .poll)
    (hroom : s.tail < s.out.length + COLLTRACE_NUM_ITEMS)
    (hpe : s.published[s.out.length]? = some (some e))
    (hline : traceLine FUNC_INDEX_P2P e = some line) :
    ∃ s₁ s₂, threadStep COLLTRACE_NUM_ITEMS FUNC_INDEX_P2P s = some s₁ ∧
      threadStep COLLTRACE_NUM_ITEMS FUNC_INDEX_P2P s₁ = some s₂ ∧ s₂.out = s.out ++ [line] := by
  have h := traceInv_of_reachable hs
  have hct : s.out.length < s.tail := h.published_length ▸ lt_length_of_getElem?_eq_some hpe
  have hcount : 0 < collTraceCount COLLTRACE_NUM_ITEMS s.head (s.tail % COLLTRACE_NUM_ITEMS) := by
    rw [h.collTraceCount_eq, if_neg (by omega)]
    split_ifs <;> omega
  obtain ⟨count, hc⟩ : ∃ count,
      collTraceCount COLLTRACE_NUM_ITEMS s.head (s.tail % COLLTRACE_NUM_ITEMS) = count := ⟨_, rfl⟩
  rw [hc] at hcount
  refine ⟨{ s with pc := .drain 0 count }, _, ?_,
    (h.with_pc (.drain 0 count)).threadStep_drain_print rfl hcount hpe hline, rfl⟩
  simp only [threadStep, hpoll, hc, if_neg (Nat.pos_iff_ne_zero.mp hcount)]

def TraceState.pendingOne : TraceState :=
  ⟨[kernelLaunchTrace, default], 1, false, 0, .poll, [], [some kernelLaunchTrace]⟩

theorem threadStep_prints_next_pendingOne :
    (TraceReachable 2 3 TraceState.pendingOne ∧ TraceState.pendingOne.pc = .poll ∧
      TraceState.pendingOne.tail < TraceState.pendingOne.out.length + 2 ∧
      TraceState.pendingOne.published[TraceState.pendingOne.out.length]? =
        some (some kernelLaunchTrace) ∧
      traceLine 3 kernelLaunchTrace = some (.kernelLaunch kernelLaunchTrace 64 .coll)) ∧
    ∃ s₁ s₂, threadStep 2 3 TraceState.pendingOne = some s₁ ∧ threadStep 2 3 s₁ = some s₂ ∧
      s₂.out = TraceState.pendingOne.out ++ [.kernelLaunch kernelLaunchTrace 64 .coll] :=
  have h : TraceReachable 2 3 TraceState.pendingOne :=
    .step (.step .init (.claim (by decide))) (.fill 0 kernelLaunchTrace rfl (by decide))
  ⟨⟨h, rfl, by decide, rfl, rfl⟩, threadStep_prints_next h rfl (by decide) rfl rfl⟩


/-- **A quiet device is drained.** From every reachable state in which the thread is about to
poll, the ring is not full, and every claimed entry has been written with a line that can be
printed, the thread by itself prints the lines of all the claimed entries not yet printed, in
claim order, and comes back to poll: whatever `count` it computes, it neither stops early nor
prints anything twice. -/
theorem collTrace_drains (hs : TraceReachable COLLTRACE_NUM_ITEMS FUNC_INDEX_P2P s)
    (hpoll : s.pc = .poll) (hroom : s.tail < s.out.length + COLLTRACE_NUM_ITEMS)
    (hwritten : ∀ k, s.out.length ≤ k → k < s.tail →
      ∃ e line, s.published[k]? = some (some e) ∧ traceLine FUNC_INDEX_P2P e = some line) :
    ∃ n s', threadRun COLLTRACE_NUM_ITEMS FUNC_INDEX_P2P n s = some s' ∧ s'.pc = .poll ∧
      s'.out.length = s.tail ∧ s'.out = s.out ++ s.pendingLines FUNC_INDEX_P2P := by
  have h := traceInv_of_reachable hs
  obtain ⟨w, hw⟩ : ∃ w, s.tail = s.out.length + w := ⟨_, (Nat.add_sub_cancel' h.printed_le_tail).symm⟩
  rcases w with _ | w
  · exact ⟨0, s, rfl, hpoll, hw.symm, by simp [TraceState.pendingLines,
      List.drop_eq_nil_of_le (show s.published.length ≤ s.out.length by have := h.published_length; omega)]⟩
  obtain ⟨count, hc⟩ : ∃ count,
      collTraceCount COLLTRACE_NUM_ITEMS s.head (s.tail % COLLTRACE_NUM_ITEMS) = count := ⟨_, rfl⟩
  -- `count` is at least the number of claims not printed, even when it overcounts
  have hcount : w + 1 ≤ count := by
    rw [← hc, h.collTraceCount_eq, if_neg (by omega)]
    have := h.tail_le
    split_ifs <;> omega
  have hstep : threadStep COLLTRACE_NUM_ITEMS FUNC_INDEX_P2P s = some { s with pc := .drain 0 count } := by
    simp only [threadStep, hpoll, hc, if_neg (show count ≠ 0 by omega)]
  obtain ⟨n, s', hrun, hpoll', hlen, hout⟩ :=
    (h.with_pc (.drain 0 count)).drain_loop (w + 1) rfl hw (by omega) hwritten
  exact ⟨n + 1, s', by rw [threadRun_succ, hstep]; exact hrun, hpoll', hlen, hout⟩

/-- Two kernel launches claimed and written in a ring of three entries, none printed. -/
def TraceState.pendingTwo : TraceState :=
  ⟨[kernelLaunchTrace, kernelLaunchTrace, default], 2, false, 0, .poll, [],
    [some kernelLaunchTrace, some kernelLaunchTrace]⟩

theorem collTrace_drains_pendingTwo :
    (TraceReachable 3 3 TraceState.pendingTwo ∧ TraceState.pendingTwo.pc = .poll ∧
      TraceState.pendingTwo.tail < TraceState.pendingTwo.out.length + 3 ∧
      ∀ k, TraceState.pendingTwo.out.length ≤ k → k < TraceState.pendingTwo.tail →
        ∃ e line, TraceState.pendingTwo.published[k]? = some (some e) ∧ traceLine 3 e = some line) ∧
    ∃ n s', threadRun 3 3 n TraceState.pendingTwo = some s' ∧ s'.pc = .poll ∧
      s'.out.length = TraceState.pendingTwo.tail ∧
      s'.out = TraceState.pendingTwo.out ++ TraceState.pendingTwo.pendingLines 3 :=
  have h : TraceReachable 3 3 TraceState.pendingTwo :=
    .step (.step (.step (.step .init (.claim (by decide))) (.claim (by decide)))
      (.fill 0 kernelLaunchTrace rfl (by decide))) (.fill 1 kernelLaunchTrace rfl (by decide))
  have hwritten : ∀ k, TraceState.pendingTwo.out.length ≤ k → k < TraceState.pendingTwo.tail →
      ∃ e line, TraceState.pendingTwo.published[k]? = some (some e) ∧
        traceLine 3 e = some line := fun k _ hk => by
    rcases k with _ | _ | k
    · exact ⟨kernelLaunchTrace, _, rfl, rfl⟩
    · exact ⟨kernelLaunchTrace, _, rfl, rfl⟩
    · exact absurd hk (show ¬k + 1 + 1 < 2 by omega)
  ⟨⟨h, rfl, by decide, hwritten⟩, collTrace_drains h rfl (by decide) hwritten⟩

end Results

end RcclInit
