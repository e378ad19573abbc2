import RcclInit.Bootstrap

/-!
# What holds at every return of a rank's code

`p.Post Q` says that every value the program `p` can return satisfies `Q`, whatever the
other ranks contribute to its AllGathers and send to it. A branch that reaches undefined
behaviour returns nothing, so it satisfies every `Post`: these are statements about the
returns of a rank's code, as the claims about `initTransportsRank` are.

A rank's code with its own state is a `StateT σ Prog` program, and `Triple P m Q` says that
from every state satisfying `P`, every return of `m` satisfies `Q` of the value returned and
the state at that point. The rules for `pure`, `>>=`, `get`, `modify`, `if` and a `for` loop
are the lemmas of this file (`triple_bind`, `triple_forIn`, ...); a property of a `do` block
is proved from them, one rule per construct. A call whose body the property does not depend
on, such as `collNetSetup`, is passed over with `triple_const`, and a block whose value and
state the rest does not read with `triple_bind_const`.

Code that runs without the other ranks but may get stuck is a `StateT σ (Except ε)` program.
`ExceptTriple P m Q E` adds to the triple a condition `E` on every way it gets stuck, with the
same rules (`exceptTriple_bind`, `exceptTriple_forIn`, ...) and one for `throw`.
-/

set_option autoImplicit false

namespace RcclInit

namespace Prog

variable {α β : Type}

/-- Every value `p` can return satisfies `Q`, whatever it receives from the other ranks. -/
def Post (Q : α → Prop) : Prog α → Prop
  | ret a => Q a
  | ub => True
  | allGather _ k => ∀ l, (k l).Post Q
  | send _ _ k => k.Post Q
  | recv _ k => ∀ x, (k x).Post Q

theorem post_bind (p : Prog α) (f : α → Prog β) (Q : β → Prop) :
    (p >>= f).Post Q ↔ p.Post fun a => (f a).Post Q := by
  induction p with
  | ret a => rfl
  | ub => exact Iff.rfl
  | allGather m k ih => exact forall_congr' ih
  | send p m k ih => exact ih
  | recv p k ih => exact forall_congr' ih

theorem Post.mono {p : Prog α} {Q Q' : α → Prop} (h : p.Post Q) (hQ : ∀ a, Q a → Q' a) :
    p.Post Q' := by
  induction p with
  | ret a => exact hQ a h
  | ub => trivial
  | allGather m k ih => exact fun l => ih l (h l)
  | send p m k ih => exact ih h
  | recv p k ih => exact fun x => ih x (h x)

/-- A fact that does not depend on the value holds at every return. -/
theorem post_const (p : Prog α) {P : Prop} (h : P) : p.Post fun _ => P := by
  induction p with
  | ret a => exact h
  | ub => trivial
  | allGather m k ih => exact ih
  | send p m k ih => exact ih
  | recv p k ih => exact ih

end Prog

/-! ## Triples over a rank's code -/

section Triple

variable {σ α β γ : Type}

/-- From every state satisfying `P`, every return of `m` satisfies `Q` of its value and of the
state it leaves. -/
def Triple (P : σ → Prop) (m : StateT σ Prog α) (Q : α → σ → Prop) : Prop :=
  ∀ s, P s → (m.run s).Post fun r => Q r.1 r.2

theorem Triple.mono {P P' : σ → Prop} {m : StateT σ Prog α} {Q Q' : α → σ → Prop}
    (h : Triple P m Q) (hP : ∀ s, P' s → P s) (hQ : ∀ a s, Q a s → Q' a s) : Triple P' m Q' :=
  fun s hs => (h s (hP s hs)).mono fun r => hQ r.1 r.2

/-- A precondition that does not mention the state is a plain hypothesis. -/
theorem triple_of_imp {P : Prop} {m : StateT σ Prog α} {Q : α → σ → Prop}
    (h : P → Triple (fun _ => True) m Q) : Triple (fun _ => P) m Q := fun s hs => h hs s trivial

/-- A fact that holds before the block and does not mention its value or state holds after it;
this is how a call whose body the property does not depend on is passed over. -/
theorem triple_const {P : σ → Prop} (m : StateT σ Prog α) {Q : Prop} (h : ∀ s, P s → Q) :
    Triple P m fun _ _ => Q := fun s hs => (m.run s).post_const (h s hs)

theorem triple_pure {P : σ → Prop} (a : α) {Q : α → σ → Prop} (h : ∀ s, P s → Q a s) :
    Triple P (pure a) Q := h

theorem triple_bind {P : σ → Prop} {m : StateT σ Prog α} (R : α → σ → Prop)
    {f : α → StateT σ Prog β} {Q : β → σ → Prop} (hm : Triple P m R)
    (hf : ∀ a, Triple (R a) (f a) Q) : Triple P (m >>= f) Q := fun s hs => by
  rw [StateT.run_bind, Prog.post_bind]
  exact (hm s hs).mono fun a ha => hf a.1 a.2 ha

/-- A block whose value and state what follows does not need is passed over. -/
theorem triple_bind_const {P : σ → Prop} (m : StateT σ Prog α) {f : α → StateT σ Prog β}
    {Q : β → σ → Prop} (hf : ∀ a, Triple (fun _ => True) (f a) Q) : Triple P (m >>= f) Q :=
  triple_bind (fun _ _ => True) (triple_const m fun _ _ => trivial) hf

theorem triple_get {P : σ → Prop} {Q : σ → σ → Prop} (h : ∀ s, P s → Q s s) :
    Triple P (get : StateT σ Prog σ) Q := h

theorem triple_modify {P : σ → Prop} (f : σ → σ) {Q : PUnit → σ → Prop}
    (h : ∀ s, P s → Q () (f s)) : Triple P (modify f : StateT σ Prog PUnit) Q := h

theorem triple_ite {P : σ → Prop} {c : Prop} [Decidable c] {t e : StateT σ Prog α}
    {Q : α → σ → Prop} (ht : c → Triple P t Q) (he : ¬c → Triple P e Q) :
    Triple P (if c then t else e) Q := by
  split
  · exact ht ‹c›
  · exact he ‹¬c›

/-- **The loop rule.** An invariant of the entries processed so far that each iteration keeps,
unless it leaves the loop with a value satisfying `Q`, gives `Q` at the end of the loop. -/
theorem triple_forIn {I : List γ → β → σ → Prop} {Q : β → σ → Prop} (xs : List γ) (b : β)
    {f : γ → β → StateT σ Prog (ForInStep β)}
    (hf : ∀ pre x suf b, pre ++ x :: suf = xs →
      Triple (I pre b) (f x b) fun r s => match r with
        | .done b' => Q b' s
        | .yield b' => I (pre ++ [x]) b' s)
    (hend : ∀ b s, I xs b s → Q b s) :
    Triple (I [] b) (forIn xs b f) Q := by
  suffices h : ∀ suf pre b, pre ++ suf = xs → Triple (I pre b) (forIn suf b f) Q from
    h xs [] b rfl
  intro suf
  induction suf with
  | nil => intro pre b h s hs; exact hend b s (by rwa [← h, List.append_nil])
  | cons x suf ih =>
      intro pre b h
      rw [List.forIn_cons]
      refine triple_bind _ (hf pre x suf b h) fun r => ?_
      cases r with
      | done b' => exact triple_pure b' fun _ hs => hs
      | yield b' => exact ih (pre ++ [x]) b' (by rw [← h, List.append_assoc]; rfl)

end Triple

/-! ## Triples over code that may get stuck -/

section ExceptTriple

variable {σ ε α β γ : Type}

/-- From every state satisfying `P`, a return of `m` satisfies `Q` of its value and the state
it leaves, and an outcome `.error e` satisfies `E e`. -/
def ExceptTriple (P : σ → Prop) (m : StateT σ (Except ε) α) (Q : α → σ → Prop)
    (E : ε → Prop) : Prop :=
  ∀ s, P s → match m.run s with
    | .ok r => Q r.1 r.2
    | .error e => E e

variable {P : σ → Prop} {Q : β → σ → Prop} {E : ε → Prop}

theorem ExceptTriple.mono {P' : σ → Prop} {m : StateT σ (Except ε) β} {Q' : β → σ → Prop}
    {E' : ε → Prop} (h : ExceptTriple P m Q E) (hP : ∀ s, P' s → P s)
    (hQ : ∀ a s, Q a s → Q' a s) (hE : ∀ e, E e → E' e) : ExceptTriple P' m Q' E' := fun s hs => by
  have := h s (hP s hs)
  revert this
  cases m.run s with
  | ok r => exact hQ r.1 r.2
  | error e => exact hE e

theorem exceptTriple_of_imp {P₀ : Prop} {m : StateT σ (Except ε) β}
    (h : P₀ → ExceptTriple (fun _ => True) m Q E) : ExceptTriple (fun _ => P₀) m Q E :=
  fun s hs => h hs s trivial

theorem exceptTriple_pure (a : β) (h : ∀ s, P s → Q a s) :
    ExceptTriple P (pure a : StateT σ (Except ε) β) Q E := h

theorem exceptTriple_throw (e : ε) (h : E e) :
    ExceptTriple P (throw e : StateT σ (Except ε) β) Q E := fun _ _ => h

theorem exceptTriple_bind {m : StateT σ (Except ε) α} (R : α → σ → Prop)
    {f : α → StateT σ (Except ε) β} (hm : ExceptTriple P m R E)
    (hf : ∀ a, ExceptTriple (R a) (f a) Q E) : ExceptTriple P (m >>= f) Q E := fun s hs => by
  have := hm s hs
  rw [StateT.run_bind]
  revert this
  cases m.run s with
  | ok r => exact hf r.1 r.2
  | error e => exact id

theorem exceptTriple_get {Q : σ → σ → Prop} (h : ∀ s, P s → Q s s) :
    ExceptTriple P (get : StateT σ (Except ε) σ) Q E := h

theorem exceptTriple_modify (f : σ → σ) {Q : PUnit → σ → Prop} (h : ∀ s, P s → Q () (f s)) :
    ExceptTriple P (modify f : StateT σ (Except ε) PUnit) Q E := h

theorem exceptTriple_ite {c : Prop} [Decidable c] {t e : StateT σ (Except ε) β}
    (ht : c → ExceptTriple P t Q E) (he : ¬c → ExceptTriple P e Q E) :
    ExceptTriple P (if c then t else e) Q E := by
  split
  · exact ht ‹c›
  · exact he ‹¬c›

/-- **The loop rule**, as `triple_forIn`. -/
theorem exceptTriple_forIn {I : List γ → β → σ → Prop} (xs : List γ) (b : β)
    {f : γ → β → StateT σ (Except ε) (ForInStep β)}
    (hf : ∀ pre x suf b, pre ++ x :: suf = xs →
      ExceptTriple (I pre b) (f x b) (fun r s => match r with
        | .done b' => Q b' s
        | .yield b' => I (pre ++ [x]) b' s) E)
    (hend : ∀ b s, I xs b s → Q b s) :
    ExceptTriple (I [] b) (forIn xs b f) Q E := by
  suffices h : ∀ suf pre b, pre ++ suf = xs → ExceptTriple (I pre b) (forIn suf b f) Q E from
    h xs [] b rfl
  intro suf
  induction suf with
  | nil => intro pre b h s hs; exact hend b s (by rwa [← h, List.append_nil])
  | cons x suf ih =>
      intro pre b h
      rw [List.forIn_cons]
      refine exceptTriple_bind _ (hf pre x suf b h) fun r => ?_
      cases r with
      | done b' => exact exceptTriple_pure b' fun _ hs => hs
      | yield b' => exact ih (pre ++ [x]) b' (by rw [← h, List.append_assoc]; rfl)

end ExceptTriple

end RcclInit
