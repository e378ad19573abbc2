import RcclInit.Basic
import Mathlib.Logic.Relation

/-!
# The bootstrap network: what the ranks exchange after AllGather3

After AllGather3 the ranks of a communicator talk to each other only through the bootstrap
network: `bootstrapAllGather` in `collNetSetup` and `checkCollNetSetup`, and the
`bootstrapSend`/`bootstrapRecv` pair by which a recv-side CollNet master hands its
`sendrecvExchange` to the send-side master.

A rank's code is a `Prog`: it returns, reaches undefined behaviour, or makes one of the
three bootstrap calls and continues with its result. `Prog` is a monad, so the rank's code
is written in `do` notation over it. `Sys` is `n` ranks running their programs: the
messages in flight from each rank to each other rank, first in first out, and the AllGather
rounds each rank has completed. `Step` is one move of the system: a send, a receive of the
oldest message from that peer, or an AllGather round, which happens only when every rank is
in an AllGather of the same element size and gives every rank the same array.

So a rank that waits in an AllGather while another rank has returned waits forever
(`allGather_waits_forever`): this is how a mismatched collective shows in the model.
`Sys.next` is a scheduler that takes some step when one exists, and `Sys.run` iterates it;
it evaluates concrete runs, and every state it reaches is reachable (`run_reachable`).
-/

set_option autoImplicit false

namespace RcclInit

/-! ## What the ranks exchange -/

/-- One rank's element of a `bootstrapAllGather` after AllGather3: the `allConnects` entry of
`collNetSetup` (`int isMaster; ncclConnect connect;`) or the `int` of `checkCollNetSetup`.
A connect handle is `none` while it is uninitialised stack memory, `some d` once written. -/
inductive Slot where
  | connects (isMaster : Int) (connect : Option Nat)
  | failure (collNetSetupFail : Int)
  deriving DecidableEq, Repr

/-- The element size a `bootstrapAllGather` is called with. -/
inductive SlotKind where
  | connects
  | failure
  deriving DecidableEq, Repr

def Slot.kind : Slot → SlotKind
  | connects _ _ => .connects
  | failure _ => .failure

/-- `sendrecvExchange`: what a recv-side master sends to its send-side master. -/
structure Exchange where
  collNetRank : Int
  connect : Option Nat
  deriving DecidableEq, Repr

/-! ## Programs -/

/-- What a rank does from here on, as far as the other ranks can see: return, reach
undefined behaviour, or make a bootstrap call and continue with its result. -/
inductive Prog (α : Type) where
  | ret (a : α)
  | ub
  | allGather (mine : Slot) (k : List Slot → Prog α)
  | send (peer : Nat) (msg : Exchange) (k : Prog α)
  | recv (peer : Nat) (k : Exchange → Prog α)

namespace Prog

variable {α β : Type}

def bind : Prog α → (α → Prog β) → Prog β
  | ret a, f => f a
  | ub, _ => ub
  | allGather m k, f => allGather m fun l => (k l).bind f
  | send p m k, f => send p m (k.bind f)
  | recv p k, f => recv p fun x => (k x).bind f

instance : Monad Prog where
  pure := ret
  bind := bind

/-- What a program has returned, if it has. -/
def result? : Prog α → Option α
  | ret a => some a
  | _ => none

theorem eq_ret_of_result? {p : Prog α} {a : α} (h : p.result? = some a) : p = ret a := by
  cases p with
  | ret a' => cases h; rfl
  | _ => cases h

/-- The element a program contributes if it is in an AllGather. -/
def slot : Prog α → Option Slot
  | allGather m _ => some m
  | _ => none

/-- The program after its AllGather returns `l`; other programs are left alone. -/
def feed : Prog α → List Slot → Prog α
  | allGather _ k, l => k l
  | p, _ => p

theorem eq_allGather_of_slot {p : Prog α} {m : Slot} (h : p.slot = some m) :
    p = allGather m p.feed := by
  cases p with
  | allGather m' k => cases h; rfl
  | _ => cases h

end Prog

/-! ## The system -/

/-- The ranks' programs, the messages in flight from each rank to each rank, oldest first,
and the AllGather rounds each rank has completed. -/
structure Sys (α : Type) where
  prog : Nat → Prog α
  mail : Nat → Nat → List Exchange
  rounds : Nat → List SlotKind

namespace Sys

variable {α : Type}

/-- Every rank about to run its program, with nothing in flight. -/
def start (p : Nat → Prog α) : Sys α := ⟨p, fun _ _ => [], fun _ => []⟩

/-- Rank `i` has sent `msg` to `peer` and goes on as `k`. -/
def afterSend (s : Sys α) (i peer : Nat) (msg : Exchange) (k : Prog α) : Sys α :=
  { s with
    prog := Function.update s.prog i k
    mail := Function.update s.mail i (Function.update (s.mail i) peer (s.mail i peer ++ [msg])) }

/-- Rank `i` has taken the oldest message from `peer`, leaving `rest`, and goes on as `p`. -/
def afterRecv (s : Sys α) (i peer : Nat) (rest : List Exchange) (p : Prog α) : Sys α :=
  { s with
    prog := Function.update s.prog i p
    mail := Function.update s.mail peer (Function.update (s.mail peer) i rest) }

/-- The first `n` ranks complete an AllGather round of `kind`, each with the array of what
every rank contributed. -/
def gather (s : Sys α) (n : Nat) (kind : SlotKind) : Sys α :=
  let all := (List.range n).map fun i => ((s.prog i).slot).getD (.failure 0)
  { s with
    prog := fun i => if i < n then (s.prog i).feed all else s.prog i
    rounds := fun i => if i < n then s.rounds i ++ [kind] else s.rounds i }

end Sys

/-- One move of `n` ranks. -/
inductive Step {α : Type} (n : Nat) : Sys α → Sys α → Prop
  | send {s : Sys α} {i peer : Nat} {msg : Exchange} {k : Prog α} :
      i < n → peer < n → s.prog i = .send peer msg k → Step n s (s.afterSend i peer msg k)
  | recv {s : Sys α} {i peer : Nat} {k : Exchange → Prog α} {msg : Exchange}
      {rest : List Exchange} :
      i < n → s.prog i = .recv peer k → s.mail peer i = msg :: rest →
      Step n s (s.afterRecv i peer rest (k msg))
  | allGather {s : Sys α} (kind : SlotKind) :
      0 < n → (∀ i < n, ∃ m, (s.prog i).slot = some m ∧ m.kind = kind) →
      Step n s (s.gather n kind)

/-! ## A rank in an AllGather waits for the others -/

section Waits

variable {α : Type} {n : Nat} {s s' : Sys α}

/-- A step leaves alone the program of a rank that has returned, and that of a rank in an
AllGather unless every rank is in one. -/
theorem Step.prog_eq_of_ret_allGather (h : Step n s s') {i j : Nat} {a : α} {m : Slot}
    {k : List Slot → Prog α} (hj : j < n) (hret : s.prog j = .ret a)
    (hi : s.prog i = .allGather m k) : s'.prog i = s.prog i ∧ s'.prog j = s.prog j := by
  cases h with
  | @send i' _ _ _ _ _ hsend =>
      have hi' : i ≠ i' := by rintro rfl; simp [hi] at hsend
      have hj' : j ≠ i' := by rintro rfl; simp [hret] at hsend
      simp [Sys.afterSend, Function.update_noteq hi', Function.update_noteq hj']
  | @recv i' _ _ _ _ _ hrecv =>
      have hi' : i ≠ i' := by rintro rfl; simp [hi] at hrecv
      have hj' : j ≠ i' := by rintro rfl; simp [hret] at hrecv
      simp [Sys.afterRecv, Function.update_noteq hi', Function.update_noteq hj']
  | allGather kind _ hall =>
      obtain ⟨m', hm', -⟩ := hall j hj
      simp [hret, Prog.slot] at hm'

/-- **A rank waiting in an AllGather while another rank has returned waits forever**: no run
from there moves it. -/
theorem allGather_waits_forever {i j : Nat} {a : α} {m : Slot} {k : List Slot → Prog α}
    (hj : j < n) (hret : s.prog j = .ret a) (hi : s.prog i = .allGather m k)
    (h : Relation.ReflTransGen (Step n) s s') : s'.prog i = s.prog i := by
  suffices s'.prog i = s.prog i ∧ s'.prog j = s.prog j from this.1
  induction h with
  | refl => exact ⟨rfl, rfl⟩
  | tail _ hstep ih =>
      obtain ⟨hi', hj'⟩ := hstep.prog_eq_of_ret_allGather hj (ih.2.trans hret) (ih.1.trans hi)
      exact ⟨hi'.trans ih.1, hj'.trans ih.2⟩

end Waits

/-! ## A scheduler -/

namespace Sys

variable {α : Type}

/-- The kind of AllGather round the first `n` ranks can take now: every one of them is in an
AllGather of rank 0's element size. -/
def gatherKind (s : Sys α) (n : Nat) : Option SlotKind :=
  match (s.prog 0).slot with
  | some m0 =>
      if 0 < n ∧ ∀ i < n, ((s.prog i).slot).map Slot.kind = some m0.kind then some m0.kind
      else none
  | none => none

/-- The send or receive rank `i` can make now. -/
def p2p (s : Sys α) (n i : Nat) : Option (Sys α) :=
  match s.prog i with
  | .send peer msg k => if peer < n then some (s.afterSend i peer msg k) else none
  | .recv peer k =>
      match s.mail peer i with
      | msg :: rest => some (s.afterRecv i peer rest (k msg))
      | [] => none
  | _ => none

/-- An AllGather round if one can be taken, else the first rank's send or receive. -/
def next (s : Sys α) (n : Nat) : Option (Sys α) :=
  match s.gatherKind n with
  | some kind => some (s.gather n kind)
  | none => ((List.range n).filterMap (s.p2p n)).head?

/-- At most `fuel` steps of `next`, stopping where it stops. -/
def run (s : Sys α) (n : Nat) : Nat → Sys α
  | 0 => s
  | fuel + 1 =>
      match s.next n with
      | some s' => s'.run n fuel
      | none => s

variable {s s' : Sys α} {n : Nat}

/-- An AllGather round of `kind` can be taken exactly when every rank is in one of `kind`. -/
theorem gatherKind_eq_some_iff {kind : SlotKind} :
    s.gatherKind n = some kind ↔ 0 < n ∧ ∀ i < n, ∃ m, (s.prog i).slot = some m ∧ m.kind = kind := by
  constructor
  · intro h
    unfold gatherKind at h
    split at h
    · split_ifs at h with hall
      cases h
      exact ⟨hall.1, fun i hi => Option.map_eq_some'.mp (hall.2 i hi)⟩
    · cases h
  · rintro ⟨hn, hall⟩
    obtain ⟨m0, hm0, rfl⟩ := hall 0 hn
    have hall' : ∀ i < n, ((s.prog i).slot).map Slot.kind = some m0.kind := fun i hi => by
      obtain ⟨m, hm, hkm⟩ := hall i hi
      simp [hm, hkm]
    simp only [gatherKind, hm0, if_pos (And.intro hn hall')]

theorem p2p_step {i : Nat} (hi : i < n) (h : s.p2p n i = some s') : Step n s s' := by
  unfold p2p at h
  split at h
  · next peer msg k hp =>
      split_ifs at h with hpeer
      cases h
      exact .send hi hpeer hp
  · next peer k hp =>
      split at h
      · next msg rest hm => cases h; exact .recv hi hp hm
      · cases h
  · cases h

/-- Every step the scheduler takes is a step of the system. -/
theorem next_step (h : s.next n = some s') : Step n s s' := by
  unfold next at h
  split at h
  · next kind hk =>
      cases h
      obtain ⟨hn, hall⟩ := gatherKind_eq_some_iff.mp hk
      exact .allGather kind hn hall
  · obtain ⟨i, hmem, hi⟩ := List.mem_filterMap.mp (List.mem_of_mem_head? h)
    exact p2p_step (List.mem_range.mp hmem) hi

/-- Every state `run` reaches is reachable. -/
theorem run_reachable (s : Sys α) (n fuel : Nat) :
    Relation.ReflTransGen (Step n) s (s.run n fuel) := by
  induction fuel generalizing s with
  | zero => exact .refl
  | succ fuel ih =>
      unfold run
      split
      · next s' hs => exact .head (next_step hs) (ih s')
      · exact .refl

end Sys

end RcclInit
