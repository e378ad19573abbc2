import Mathlib.Order.Bounds.Basic
import Mathlib.Data.List.Basic
import Mathlib.Data.Finset.Card

/-!
# Result codes, `std::min`, and stores into C arrays

The vocabulary the rest of the development shares with `init.cc`.

`NcclResult` is `ncclResult_t`. Several functions of `init.cc` return `int` but use
`NCCLCHECK`, which returns the failing `ncclResult_t`; the caller then sees
`NcclResult.toInt` of it, and `toInt_eq_one_iff` records which error reads as the
value `1` that `collNetSetup` uses for "supported".

`stdMin` and `stdMax` are `std::min` and `std::max` as the C++ library defines them, by
one strict comparison; on a linear order they are `min` and `max` (`stdMin_eq_min`,
`stdMax_eq_max`). A left fold of `stdMin` that starts from one of the values it scans
ends at the least of them (`foldl_stdMin_isLeast`); this is the shape of every
reconciliation loop after an AllGather.

`Stuck` is how a call can fail to return: undefined behaviour, or blocking forever.

`store xs i v` is the assignment `xs[i] = v` into a C array of `xs.length` elements. It
fails when `i` is out of bounds, so "every write of this loop is in bounds" is the
statement that the loop does not fail.
-/

set_option autoImplicit false

namespace RcclInit

/-! ## Result codes -/

/-- `ncclResult_t`, with the members `nccl.h` declares, in its order. -/
inductive NcclResult where
  | ncclSuccess
  | ncclUnhandledCudaError
  | ncclSystemError
  | ncclInternalError
  | ncclInvalidArgument
  | ncclInvalidUsage
  deriving DecidableEq, Repr, Inhabited

namespace NcclResult

/-- The integer value of a result code, as `nccl.h` numbers them. -/
def toInt : NcclResult → Int
  | ncclSuccess => 0
  | ncclUnhandledCudaError => 1
  | ncclSystemError => 2
  | ncclInternalError => 3
  | ncclInvalidArgument => 4
  | ncclInvalidUsage => 5

/-- The only result code whose value is `1` is an error. -/
theorem toInt_eq_one_iff (r : NcclResult) : r.toInt = 1 ↔ r = ncclUnhandledCudaError := by
  cases r <;> decide

theorem toInt_eq_zero_iff (r : NcclResult) : r.toInt = 0 ↔ r = ncclSuccess := by
  cases r <;> decide

end NcclResult

/-- How a call of the process can fail to return. -/
inductive Stuck where
  | undefinedBehaviour
  /-- Blocked forever: in `pthread_mutex_lock` on a lock no thread will release, or spinning
  in `waitForNonNullPtr` on a pointer no thread will publish. -/
  | blocked
  deriving DecidableEq, Repr

/-- Modelled from the spec: `PtrCheck(ptr, opname, ptrname)` of `checks.h`, which is not under
`src/`, with the contract the specification gives every entry point: `ncclInvalidArgument` for
a `NULL` pointer. -/
def ptrCheck (ptr : Nat) : NcclResult :=
  if ptr = 0 then .ncclInvalidArgument else .ncclSuccess

/-! ## `std::min` and `std::max` -/

section MinMax

variable {α : Type} [LinearOrder α]

/-- `std::min(a, b)`: `(b < a) ? b : a`. -/
def stdMin (a b : α) : α := if b < a then b else a

/-- `std::max(a, b)`: `(a < b) ? b : a`. -/
def stdMax (a b : α) : α := if a < b then b else a

@[simp] theorem stdMin_eq_min (a b : α) : stdMin a b = min a b := by
  unfold stdMin
  split_ifs with h
  · exact (min_eq_right h.le).symm
  · exact (min_eq_left (not_lt.mp h)).symm

@[simp] theorem stdMax_eq_max (a b : α) : stdMax a b = max a b := by
  unfold stdMax
  split_ifs with h
  · exact (max_eq_right h.le).symm
  · exact (max_eq_left (not_lt.mp h)).symm

/-- Folding `min` over a list from `m` gives a value below `m` and below every entry,
equal to `m` or to one of the entries. -/
theorem foldl_min_spec {β : Type} (f : β → α) (xs : List β) (m : α) :
    xs.foldl (fun acc x => min (f x) acc) m ≤ m ∧
      (∀ x ∈ xs, xs.foldl (fun acc x => min (f x) acc) m ≤ f x) ∧
      (xs.foldl (fun acc x => min (f x) acc) m = m ∨
        ∃ x ∈ xs, xs.foldl (fun acc x => min (f x) acc) m = f x) := by
  induction xs generalizing m with
  | nil => simp
  | cons y ys ih =>
      obtain ⟨hm, hall, hmem⟩ := ih (min (f y) m)
      simp only [List.foldl_cons, List.mem_cons, forall_eq_or_imp, exists_eq_or_imp]
      refine ⟨hm.trans (min_le_right _ _), ⟨hm.trans (min_le_left _ _), hall⟩, ?_⟩
      rcases hmem with h | h
      · rcases min_choice (f y) m with h' | h'
        · exact Or.inr (Or.inl (h.trans h'))
        · exact Or.inl (h.trans h')
      · exact Or.inr (Or.inr h)

/-- **A `std::min` reconciliation ends at the least value.** Starting the fold from a value
that is itself among those scanned, the result is the least of them. -/
theorem foldl_stdMin_isLeast {β : Type} (f : β → α) (xs : List β) (m : α)
    (hm : ∃ x ∈ xs, f x = m) :
    IsLeast {v | ∃ x ∈ xs, f x = v} (xs.foldl (fun acc x => stdMin (f x) acc) m) := by
  simp only [stdMin_eq_min]
  obtain ⟨hle, hall, hmem⟩ := foldl_min_spec f xs m
  obtain ⟨y, hy, rfl⟩ := hm
  refine ⟨?_, ?_⟩
  · rcases hmem with h | ⟨x, hx, h⟩
    · exact ⟨y, hy, h.symm⟩
    · exact ⟨x, hx, h.symm⟩
  · rintro v ⟨x, hx, rfl⟩
    exact hall x hx

/-- The `std::max` dual of `foldl_stdMin_isLeast`. -/
theorem foldl_stdMax_isGreatest {β : Type} (f : β → α) (xs : List β) (m : α)
    (hm : ∃ x ∈ xs, f x = m) :
    IsGreatest {v | ∃ x ∈ xs, f x = v} (xs.foldl (fun acc x => stdMax (f x) acc) m) := by
  simp only [stdMax_eq_max]
  have := foldl_stdMin_isLeast (α := αᵒᵈ) (fun x => OrderDual.toDual (f x)) xs
    (OrderDual.toDual m) (by simpa using hm)
  simpa [stdMin_eq_min] using this

end MinMax

/-! ## Loops over the ranks -/

/-- A loop `for (i = 0; i < n; i++)` is a left fold over `List.range n`; an invariant that
holds before it and that each iteration keeps holds after it. -/
theorem foldl_range_invariant {σ : Type} (P : Nat → σ → Prop) (f : σ → Nat → σ) (s : σ)
    (n : Nat) (h0 : P 0 s) (hstep : ∀ i t, i < n → P i t → P (i + 1) (f t i)) :
    P n ((List.range n).foldl f s) := by
  induction n with
  | zero => simpa using h0
  | succ n ih =>
      rw [List.range_succ, List.foldl_append, List.foldl_cons, List.foldl_nil]
      exact hstep n _ (Nat.lt_succ_self n) (ih fun i t hi => hstep i t (Nat.lt_succ_of_lt hi))

/-- Reading every index of a list below its length gives the list back. -/
theorem map_getD_range {α : Type} (xs : List α) (d : α) :
    (List.range xs.length).map (fun i => xs.getD i d) = xs := by
  apply List.ext_getElem (by simp)
  intro i h1 h2
  simp [List.getD_eq_getElem?_getD, List.getElem?_eq_getElem h2]

theorem getD_mem {α : Type} {xs : List α} {i : Nat} (d : α) (h : i < xs.length) :
    xs.getD i d ∈ xs := by
  rw [List.getD_eq_getElem?_getD, List.getElem?_eq_getElem h]
  exact List.getElem_mem h

/-- A property of some entry read by index below the length is a property of some
member. -/
theorem exists_range_getD_iff {α : Type} (xs : List α) (d : α) (P : α → Prop) :
    (∃ j ∈ List.range xs.length, P (xs.getD j d)) ↔ ∃ x ∈ xs, P x := by
  conv_rhs => rw [← map_getD_range xs d]
  simp

/-- The invariant rule for a loop whose iterations may fail: if each iteration from a state
satisfying the invariant succeeds and keeps it, the whole loop succeeds. -/
theorem foldlM_range_invariant {σ : Type} (P : Nat → σ → Prop) (f : σ → Nat → Option σ)
    (s : σ) (n : Nat) (h0 : P 0 s)
    (hstep : ∀ i t, i < n → P i t → ∃ t', f t i = some t' ∧ P (i + 1) t') :
    ∃ t, (List.range n).foldlM f s = some t ∧ P n t := by
  induction n with
  | zero => exact ⟨s, rfl, h0⟩
  | succ n ih =>
      obtain ⟨t, ht, hP⟩ := ih fun i t hi => hstep i t (Nat.lt_succ_of_lt hi)
      obtain ⟨t', ht', hP'⟩ := hstep n t (Nat.lt_succ_self n) hP
      refine ⟨t', ?_, hP'⟩
      rw [List.range_succ, List.foldlM_append, ht]
      simpa using ht'

/-! ## Distinct values in order of first occurrence -/

section FirstOccurrences

variable {α : Type} [DecidableEq α]

/-- The values of a list without repetition, in the order of their first occurrence. -/
def firstOccurrences : List α → List α
  | [] => []
  | x :: xs => x :: (firstOccurrences xs).filter (· ≠ x)

@[simp] theorem mem_firstOccurrences {l : List α} {x : α} : x ∈ firstOccurrences l ↔ x ∈ l := by
  induction l with
  | nil => rfl
  | cons y ys ih =>
      by_cases h : x = y <;> simp [firstOccurrences, List.mem_filter, ih, h]

theorem nodup_firstOccurrences (l : List α) : (firstOccurrences l).Nodup := by
  induction l with
  | nil => exact List.nodup_nil
  | cons y ys ih =>
      exact List.nodup_cons.mpr ⟨by simp [List.mem_filter], ih.filter _⟩

/-- Appending a value adds it at the end exactly when it is new. -/
theorem firstOccurrences_append_singleton (l : List α) (x : α) :
    firstOccurrences (l ++ [x]) =
      if x ∈ l then firstOccurrences l else firstOccurrences l ++ [x] := by
  induction l with
  | nil => simp [firstOccurrences]
  | cons y ys ih =>
      rw [List.cons_append, firstOccurrences, ih, firstOccurrences]
      by_cases hx : x ∈ ys
      · simp [hx]
      · by_cases hxy : x = y
        · subst hxy; simp [hx, List.filter_append]
        · simp [hx, hxy, List.filter_append]

/-- The number of distinct values. -/
theorem length_firstOccurrences (l : List α) : (firstOccurrences l).length = l.toFinset.card := by
  rw [← List.toFinset_card_of_nodup (nodup_firstOccurrences l)]
  congr 1
  ext x
  simp

theorem length_firstOccurrences_le (l : List α) : (firstOccurrences l).length ≤ l.length := by
  rw [length_firstOccurrences]; exact List.toFinset_card_le l

end FirstOccurrences

/-! ## Stores into C arrays -/

/-- `xs[i] = v` on a C array of `xs.length` elements; `none` when `i` is out of bounds,
where the C code has undefined behaviour. -/
def store {α : Type} (xs : List α) (i : Nat) (v : α) : Option (List α) :=
  if i < xs.length then some (xs.set i v) else none

@[simp] theorem store_of_lt {α : Type} {xs : List α} {i : Nat} (v : α) (h : i < xs.length) :
    store xs i v = some (xs.set i v) := if_pos h

@[simp] theorem store_of_le {α : Type} {xs : List α} {i : Nat} (v : α) (h : xs.length ≤ i) :
    store xs i v = none := if_neg (Nat.not_lt.mpr h)

end RcclInit
