import RcclInit.Basic
import Mathlib.Data.Finset.Card
import Mathlib.Order.Bounds.Basic

/-!
# After AllGather1: duplicate devices, intra-node ranks, and the host count

AllGather1 gives every rank the same array: each rank's peer information, its
communicator pointer and its compute capability. `initTransportsRank` then scans it twice.

The first scan rejects a duplicate device. Rank `r` compares every other entry with its own
(`duplicateGpuCheck`), so it returns `ncclInvalidUsage` exactly when another rank shares
its host hash and bus id (`duplicateGpuCheck_eq_invalidUsage_iff`). The verdict is about
`r`'s own device: a rank outside the duplicate pair goes on (`duplicateGpuCheck_local`).

The second scan (`allGather1Scan`) computes, in one pass, the rank's intra-node group
(the ranks with its host and process hash), the minimum and maximum compute capability,
and a count of hosts capped at three. Its invariant `ScanInv` says what each field holds
after any prefix of the ranks. After the whole array: `intraRank0` is the least member of
the group, `intraRanks` its size, `intraRank` the number of members below the rank
(`allGather1Scan_intra`); the capabilities are the least and greatest published
(`allGather1Scan_minCompCap`, `allGather1Scan_maxCompCap`); `tmpNnodes` is the number of
distinct host hashes, capped at three (`allGather1Scan_tmpNnodes`).

Since membership in a group is an equivalence, every member computes the same group, so
the members agree on `intraRank0`, `intraRanks` and the communicator pointer of
`intraRank0`, and their `intraRank` values number the group from `0`
(`intraRanks_agree`).
-/

set_option autoImplicit false

namespace RcclInit

open NcclResult

/-! ## The gathered array -/

/-- The fields of `struct ncclPeerInfo` that the rendezvous reads. -/
structure NcclPeerInfo where
  hostHash : UInt64
  pidHash : UInt64
  busId : Int
  deriving DecidableEq, Repr, Inhabited

/-- One element of AllGather1: `{ peerInfo, comm, cudaCompCap }`. The communicator pointer
is an address, `0` for `NULL`. -/
structure AllGather1Data where
  peerInfo : NcclPeerInfo
  comm : Nat
  cudaCompCap : Int
  deriving DecidableEq, Repr, Inhabited

/-! ## Duplicate devices -/

/-- Entry `i` reports the same host and bus id as rank `rank`'s own entry. -/
def sameDevice (allGather1Data : List AllGather1Data) (i rank : Nat) : Bool :=
  (allGather1Data.getD i default).peerInfo.hostHash ==
      (allGather1Data.getD rank default).peerInfo.hostHash &&
    (allGather1Data.getD i default).peerInfo.busId ==
      (allGather1Data.getD rank default).peerInfo.busId

/-- The loop of lines 768-774 on rank `rank`: it returns `ncclInvalidUsage` at the first
other rank with the same host hash and bus id, and otherwise lets initialisation go on. -/
def duplicateGpuCheck (allGather1Data : List AllGather1Data) (rank : Nat) : NcclResult :=
  match (List.range allGather1Data.length).find?
      (fun i => i != rank && sameDevice allGather1Data i rank) with
  | some _ => ncclInvalidUsage
  | none => ncclSuccess

theorem duplicateGpuCheck_eq_invalidUsage_iff (a : List AllGather1Data) (rank : Nat) :
    duplicateGpuCheck a rank = ncclInvalidUsage ↔
      ∃ i < a.length, i ≠ rank ∧ sameDevice a i rank = true := by
  unfold duplicateGpuCheck
  split
  · rename_i h
    obtain ⟨i, hi, hp⟩ := List.find?_isSome.mp (by rw [h]; rfl)
    simp only [Bool.and_eq_true, bne_iff_ne, ne_eq] at hp
    exact iff_of_true rfl ⟨i, List.mem_range.mp hi, hp⟩
  · rename_i h
    refine iff_of_false (by decide) ?_
    rintro ⟨i, hi, hne, hs⟩
    exact List.find?_eq_none.mp h i (List.mem_range.mpr hi) (by simp [hne, hs])

/-- The check returns one of its two verdicts. -/
theorem duplicateGpuCheck_cases (a : List AllGather1Data) (rank : Nat) :
    duplicateGpuCheck a rank = ncclSuccess ∨ duplicateGpuCheck a rank = ncclInvalidUsage := by
  unfold duplicateGpuCheck
  split <;> simp

theorem sameDevice_comm (a : List AllGather1Data) (i j : Nat) :
    sameDevice a i j = sameDevice a j i := by
  unfold sameDevice
  simp only [Bool.beq_comm]

/-- **Each rank judges its own device.** Rank `r` returns `ncclInvalidUsage` exactly when
another rank reports its host hash and bus id; both ranks of a duplicate pair do, and when
no two ranks share a device, none does. -/
theorem duplicateGpuCheck_local (a : List AllGather1Data) :
    (∀ r < a.length, duplicateGpuCheck a r = ncclInvalidUsage ↔
      ∃ j < a.length, j ≠ r ∧ sameDevice a j r = true) ∧
    (∀ i < a.length, ∀ j < a.length, i ≠ j → sameDevice a i j = true →
      duplicateGpuCheck a i = ncclInvalidUsage ∧ duplicateGpuCheck a j = ncclInvalidUsage) ∧
    ((∀ i < a.length, ∀ j < a.length, i ≠ j → sameDevice a i j = false) →
      ∀ r < a.length, duplicateGpuCheck a r = ncclSuccess) := by
  refine ⟨fun r _ => duplicateGpuCheck_eq_invalidUsage_iff a r, ?_, ?_⟩
  · intro i hi j hj hij hs
    refine ⟨(duplicateGpuCheck_eq_invalidUsage_iff a i).mpr ⟨j, hj, Ne.symm hij, ?_⟩,
      (duplicateGpuCheck_eq_invalidUsage_iff a j).mpr ⟨i, hi, hij, hs⟩⟩
    rwa [sameDevice_comm]
  · intro hnone r hr
    refine (duplicateGpuCheck_cases a r).resolve_right fun h => ?_
    obtain ⟨j, hj, hne, hs⟩ := (duplicateGpuCheck_eq_invalidUsage_iff a r).mp h
    simp [hnone j hj r hr hne] at hs

/-- Three ranks, the first two on one device of one host, the third on another device. -/
def duplicatePairArray : List AllGather1Data :=
  [⟨⟨7, 1, 3⟩, 1, 90⟩, ⟨⟨7, 1, 3⟩, 2, 90⟩, ⟨⟨7, 1, 4⟩, 3, 90⟩]

/-- Ranks `0` and `1` share a device and reject; rank `2` does not. -/
theorem duplicateGpuCheck_third_rank_continues :
    sameDevice duplicatePairArray 0 1 = true ∧
      duplicateGpuCheck duplicatePairArray 0 = ncclInvalidUsage ∧
      duplicateGpuCheck duplicatePairArray 1 = ncclInvalidUsage ∧
      duplicateGpuCheck duplicatePairArray 2 = ncclSuccess := by
  decide

/-! ## The intra-node scan -/

/-- Entry `i` shares rank `rank`'s host hash and process hash. -/
def sameProcess (allGather1Data : List AllGather1Data) (i rank : Nat) : Bool :=
  (allGather1Data.getD i default).peerInfo.hostHash ==
      (allGather1Data.getD rank default).peerInfo.hostHash &&
    (allGather1Data.getD i default).peerInfo.pidHash ==
      (allGather1Data.getD rank default).peerInfo.pidHash

/-- The locals of the loop of lines 782-799. `otherHostHash` is uninitialised until the
loop first meets another host. -/
structure IntraScan where
  intraRank0 : Int
  intraRank : Int
  intraRanks : Int
  minCompCap : Int
  maxCompCap : Int
  otherHostHash : Option UInt64
  tmpNnodes : Int
  deriving DecidableEq, Repr

/-- Their values before the loop, from the rank's own compute capability. -/
def IntraScan.start (myCompCap : Int) : IntraScan :=
  ⟨-1, -1, 0, myCompCap, myCompCap, none, 1⟩

/-- One iteration of the loop of lines 782-799, at entry `i`. -/
def scanStep (allGather1Data : List AllGather1Data) (rank : Nat) (s : IntraScan) (i : Nat) :
    IntraScan :=
  let e := allGather1Data.getD i default
  let me := allGather1Data.getD rank default
  let s :=
    if e.peerInfo.hostHash = me.peerInfo.hostHash then
      if e.peerInfo.pidHash = me.peerInfo.pidHash then
        { s with
          intraRank0 := if s.intraRanks = 0 then i else s.intraRank0
          intraRank := if i = rank then s.intraRanks else s.intraRank
          intraRanks := s.intraRanks + 1 }
      else s
    else if s.tmpNnodes = 1 then { s with otherHostHash := some e.peerInfo.hostHash, tmpNnodes := 2 }
    else if s.tmpNnodes = 2 ∧ s.otherHostHash ≠ some e.peerInfo.hostHash then
      { s with tmpNnodes := 3 }
    else s
  { s with
    minCompCap := stdMin e.cudaCompCap s.minCompCap
    maxCompCap := stdMax e.cudaCompCap s.maxCompCap }

/-- The loop of lines 782-799 on rank `rank`. -/
def allGather1Scan (allGather1Data : List AllGather1Data) (rank : Nat) : IntraScan :=
  (List.range allGather1Data.length).foldl (scanStep allGather1Data rank)
    (IntraScan.start (allGather1Data.getD rank default).cudaCompCap)

/-- The check of line 802: `ncclInternalError` when the group could not be resolved. -/
def intraRanksCheck (allGather1Data : List AllGather1Data) (rank : Nat) : NcclResult :=
  let s := allGather1Scan allGather1Data rank
  if s.intraRank = -1 ∨ s.intraRank0 = -1 ∨
      (allGather1Data.getD s.intraRank0.toNat default).comm = 0 then ncclInternalError
  else ncclSuccess

/-- `intraRank0Comm`, the communicator pointer of `intraRank0`, line 807. -/
def intraRank0Comm (allGather1Data : List AllGather1Data) (rank : Nat) : Nat :=
  (allGather1Data.getD (allGather1Scan allGather1Data rank).intraRank0.toNat default).comm

/-! ## What the scan computes -/

/-- The ranks below `i` that share `rank`'s host and process hash. -/
def groupBelow (allGather1Data : List AllGather1Data) (rank i : Nat) : Finset Nat :=
  (Finset.range i).filter (fun j => sameProcess allGather1Data j rank)

/-- `G(rank)`: the ranks that share `rank`'s host and process hash. -/
def intraGroup (allGather1Data : List AllGather1Data) (rank : Nat) : Finset Nat :=
  groupBelow allGather1Data rank allGather1Data.length

/-- The host hashes other than `rank`'s among the first `i` entries. -/
def otherHosts (allGather1Data : List AllGather1Data) (rank i : Nat) : Finset UInt64 :=
  ((Finset.range i).filter (fun j => (allGather1Data.getD j default).peerInfo.hostHash ≠
      (allGather1Data.getD rank default).peerInfo.hostHash)).image
    (fun j => (allGather1Data.getD j default).peerInfo.hostHash)

/-- What the scan's locals hold after the first `i` entries. -/
structure ScanInv (allGather1Data : List AllGather1Data) (rank i : Nat) (s : IntraScan) :
    Prop where
  intraRanks : s.intraRanks = (groupBelow allGather1Data rank i).card
  intraRank0 : (groupBelow allGather1Data rank i = ∅ ∧ s.intraRank0 = -1) ∨
    ∃ k : Nat, s.intraRank0 = k ∧ IsLeast ↑(groupBelow allGather1Data rank i) k
  intraRank : s.intraRank = if rank < i then ((groupBelow allGather1Data rank rank).card : Int)
    else -1
  minCompCap : s.minCompCap = (List.range i).foldl
    (fun m j => stdMin (allGather1Data.getD j default).cudaCompCap m)
    (allGather1Data.getD rank default).cudaCompCap
  maxCompCap : s.maxCompCap = (List.range i).foldl
    (fun m j => stdMax (allGather1Data.getD j default).cudaCompCap m)
    (allGather1Data.getD rank default).cudaCompCap
  hosts : (otherHosts allGather1Data rank i = ∅ ∧ s.tmpNnodes = 1) ∨
    (∃ h, otherHosts allGather1Data rank i = {h} ∧ s.tmpNnodes = 2 ∧ s.otherHostHash = some h) ∨
    (2 ≤ (otherHosts allGather1Data rank i).card ∧ s.tmpNnodes = 3)

section Scan

variable (a : List AllGather1Data) (r : Nat)

@[simp] theorem sameProcess_self : sameProcess a r r = true := by simp [sameProcess]

theorem sameProcess_trans {i j : Nat} (h : sameProcess a i r = true) :
    sameProcess a j i = sameProcess a j r := by
  simp only [sameProcess, Bool.and_eq_true, beq_iff_eq] at h ⊢
  rw [h.1, h.2]

theorem groupBelow_succ (i : Nat) :
    groupBelow a r (i + 1) =
      if sameProcess a i r then insert i (groupBelow a r i) else groupBelow a r i := by
  unfold groupBelow
  rw [Finset.range_succ, Finset.filter_insert]

theorem not_mem_groupBelow (i : Nat) : i ∉ groupBelow a r i := by simp [groupBelow]

theorem otherHosts_succ (i : Nat) :
    otherHosts a r (i + 1) =
      if (a.getD i default).peerInfo.hostHash ≠ (a.getD r default).peerInfo.hostHash then
        insert (a.getD i default).peerInfo.hostHash (otherHosts a r i)
      else otherHosts a r i := by
  unfold otherHosts
  rw [Finset.range_succ, Finset.filter_insert]
  split_ifs <;> simp [Finset.image_insert]

theorem scanStep_minCompCap (s : IntraScan) (i : Nat) :
    (scanStep a r s i).minCompCap = stdMin (a.getD i default).cudaCompCap s.minCompCap := by
  unfold scanStep
  dsimp only
  split_ifs <;> rfl

theorem scanStep_maxCompCap (s : IntraScan) (i : Nat) :
    (scanStep a r s i).maxCompCap = stdMax (a.getD i default).cudaCompCap s.maxCompCap := by
  unfold scanStep
  dsimp only
  split_ifs <;> rfl

/-- An entry of the rank's own process joins the group. -/
theorem scanStep_of_sameProcess (s : IntraScan) (i : Nat) (h : sameProcess a i r = true) :
    (scanStep a r s i).intraRank0 = (if s.intraRanks = 0 then (i : Int) else s.intraRank0) ∧
      (scanStep a r s i).intraRank = (if i = r then s.intraRanks else s.intraRank) ∧
      (scanStep a r s i).intraRanks = s.intraRanks + 1 ∧
      (scanStep a r s i).tmpNnodes = s.tmpNnodes ∧
      (scanStep a r s i).otherHostHash = s.otherHostHash := by
  simp only [sameProcess, Bool.and_eq_true, beq_iff_eq] at h
  unfold scanStep
  dsimp only
  rw [if_pos h.1, if_pos h.2]
  exact ⟨rfl, rfl, rfl, rfl, rfl⟩

/-- Any other entry leaves the group as it is. -/
theorem scanStep_intra_of_not_sameProcess (s : IntraScan) (i : Nat)
    (h : sameProcess a i r = false) :
    (scanStep a r s i).intraRank0 = s.intraRank0 ∧ (scanStep a r s i).intraRank = s.intraRank ∧
      (scanStep a r s i).intraRanks = s.intraRanks := by
  simp only [sameProcess, Bool.and_eq_false_iff, beq_eq_false_iff_ne] at h
  unfold scanStep
  dsimp only
  split_ifs <;> simp_all

/-- An entry of the rank's own host leaves the host count as it is. -/
theorem scanStep_hosts_of_eq (s : IntraScan) (i : Nat)
    (h : (a.getD i default).peerInfo.hostHash = (a.getD r default).peerInfo.hostHash) :
    (scanStep a r s i).tmpNnodes = s.tmpNnodes ∧
      (scanStep a r s i).otherHostHash = s.otherHostHash := by
  unfold scanStep
  dsimp only
  split_ifs <;> simp_all

/-- An entry of another host moves the host count as lines 790-795 say. -/
theorem scanStep_hosts_of_ne (s : IntraScan) (i : Nat)
    (h : (a.getD i default).peerInfo.hostHash ≠ (a.getD r default).peerInfo.hostHash) :
    (scanStep a r s i).intraRanks = s.intraRanks ∧
    ((scanStep a r s i).tmpNnodes, (scanStep a r s i).otherHostHash) =
      if s.tmpNnodes = 1 then (2, some (a.getD i default).peerInfo.hostHash)
      else if s.tmpNnodes = 2 ∧ s.otherHostHash ≠ some (a.getD i default).peerInfo.hostHash
        then (3, s.otherHostHash)
      else (s.tmpNnodes, s.otherHostHash) := by
  unfold scanStep
  dsimp only
  split_ifs <;> simp_all

theorem scanInv_start : ScanInv a r 0 (IntraScan.start (a.getD r default).cudaCompCap) where
  intraRanks := by simp [IntraScan.start, groupBelow]
  intraRank0 := Or.inl ⟨by simp [groupBelow], rfl⟩
  intraRank := by simp [IntraScan.start]
  minCompCap := rfl
  maxCompCap := rfl
  hosts := Or.inl ⟨by simp [otherHosts], rfl⟩

/-- Joining entry `i`, the least member of the group stays least. -/
theorem isLeast_groupBelow_succ {i k : Nat} (hk : IsLeast ↑(groupBelow a r i) k) :
    IsLeast ↑(insert i (groupBelow a r i)) k := by
  have hki : k < i := by
    have := hk.1
    simp only [groupBelow, Finset.coe_filter, Finset.mem_range, Set.mem_setOf_eq] at this
    exact this.1
  rw [Finset.coe_insert]
  exact ⟨Set.mem_insert_of_mem _ hk.1, fun x hx => hx.elim (fun h => h ▸ hki.le) (hk.2 ·)⟩

theorem scanInv_intraRank0 {i : Nat} {s : IntraScan} (h : ScanInv a r i s) :
    (groupBelow a r (i + 1) = ∅ ∧ (scanStep a r s i).intraRank0 = -1) ∨
      ∃ k : Nat, (scanStep a r s i).intraRank0 = k ∧ IsLeast ↑(groupBelow a r (i + 1)) k := by
  rw [groupBelow_succ]
  cases hp : sameProcess a i r
  · simpa [(scanStep_intra_of_not_sameProcess a r s i hp).1] using h.intraRank0
  · simp only [if_true, (scanStep_of_sameProcess a r s i hp).1]
    split_ifs with h0
    · have hG : groupBelow a r i = ∅ := by
        rw [← Finset.card_eq_zero]; exact_mod_cast h.intraRanks.symm.trans h0
      exact Or.inr ⟨i, rfl, by simp [hG]⟩
    · rcases h.intraRank0 with ⟨hG, -⟩ | ⟨k, hk, hleast⟩
      · exact absurd (by simp [h.intraRanks, hG]) h0
      · exact Or.inr ⟨k, hk, isLeast_groupBelow_succ a r hleast⟩

theorem scanInv_intraRank {i : Nat} {s : IntraScan} (h : ScanInv a r i s) :
    (scanStep a r s i).intraRank =
      if r < i + 1 then ((groupBelow a r r).card : Int) else -1 := by
  by_cases hir : i = r
  · subst hir
    simp [(scanStep_of_sameProcess a i s i (sameProcess_self a i)).2.1, h.intraRanks]
  · have hlt : r < i + 1 ↔ r < i := by omega
    cases hp : sameProcess a i r
    · simp [(scanStep_intra_of_not_sameProcess a r s i hp).2.1, h.intraRank, hlt]
    · simp [(scanStep_of_sameProcess a r s i hp).2.1, hir, h.intraRank, hlt]

theorem scanInv_hosts {i : Nat} {s : IntraScan} (h : ScanInv a r i s) :
    (otherHosts a r (i + 1) = ∅ ∧ (scanStep a r s i).tmpNnodes = 1) ∨
    (∃ g, otherHosts a r (i + 1) = {g} ∧ (scanStep a r s i).tmpNnodes = 2 ∧
      (scanStep a r s i).otherHostHash = some g) ∨
    (2 ≤ (otherHosts a r (i + 1)).card ∧ (scanStep a r s i).tmpNnodes = 3) := by
  rw [otherHosts_succ]
  by_cases hh : (a.getD i default).peerInfo.hostHash = (a.getD r default).peerInfo.hostHash
  · obtain ⟨ht, ho⟩ := scanStep_hosts_of_eq a r s i hh
    simp only [ne_eq, hh, not_true_eq_false, if_false, ht, ho]
    exact h.hosts
  · obtain ⟨-, hs⟩ := scanStep_hosts_of_ne a r s i hh
    have h21 : ¬ ((2 : Int) = 1) := by decide
    simp only [ne_eq, hh, not_false_eq_true, if_true]
    rcases h.hosts with ⟨hO, ht⟩ | ⟨g, hO, ht, ho⟩ | ⟨hO, ht⟩
    · simp only [ht, if_true, Prod.mk.injEq] at hs
      exact Or.inr (Or.inl ⟨_, by simp [hO], hs.1, hs.2⟩)
    · by_cases hg : g = (a.getD i default).peerInfo.hostHash
      · simp only [ht, ho, hg, h21, if_false, ne_eq, not_true_eq_false,
          and_false, Prod.mk.injEq] at hs
        exact Or.inr (Or.inl ⟨g, by simp [hO, hg], hs.1, hs.2.trans (by rw [hg])⟩)
      · simp only [ht, ho, h21, if_false, ne_eq, Option.some.injEq, hg,
          not_false_eq_true, and_self, if_true, Prod.mk.injEq] at hs
        refine Or.inr (Or.inr ⟨?_, hs.1⟩)
        rw [hO, Finset.card_insert_of_not_mem (by simpa [eq_comm] using hg)]
        simp
    · have h3 : ¬ (3 : Int) = 1 ∧ ¬ ((3 : Int) = 2) := by decide
      simp only [ht, h3.1, h3.2, if_false, false_and, Prod.mk.injEq] at hs
      exact Or.inr (Or.inr ⟨hO.trans (Finset.card_le_card (Finset.subset_insert _ _)), hs.1⟩)

/-- **One iteration keeps the scan invariant.** -/
theorem scanInv_step {i : Nat} {s : IntraScan} (h : ScanInv a r i s) :
    ScanInv a r (i + 1) (scanStep a r s i) where
  intraRanks := by
    rw [groupBelow_succ]
    cases hp : sameProcess a i r
    · simp [(scanStep_intra_of_not_sameProcess a r s i hp).2.2, h.intraRanks]
    · simp [(scanStep_of_sameProcess a r s i hp).2.2.1, h.intraRanks,
        Finset.card_insert_of_not_mem (not_mem_groupBelow a r i)]
  intraRank0 := scanInv_intraRank0 a r h
  intraRank := scanInv_intraRank a r h
  minCompCap := by
    rw [scanStep_minCompCap, h.minCompCap, List.range_succ, List.foldl_append]; rfl
  maxCompCap := by
    rw [scanStep_maxCompCap, h.maxCompCap, List.range_succ, List.foldl_append]; rfl
  hosts := scanInv_hosts a r h

/-- The invariant after the whole loop. -/
theorem scanInv_allGather1Scan : ScanInv a r a.length (allGather1Scan a r) :=
  foldl_range_invariant (ScanInv a r) _ _ _ (scanInv_start a r) fun _ _ _ h => scanInv_step a r h

end Scan

section Final

variable {a : List AllGather1Data} {r : Nat}

theorem mem_intraGroup {i : Nat} :
    i ∈ intraGroup a r ↔ i < a.length ∧ sameProcess a i r = true := by
  simp [intraGroup, groupBelow]

theorem self_mem_intraGroup (hr : r < a.length) : r ∈ intraGroup a r :=
  mem_intraGroup.mpr ⟨hr, sameProcess_self a r⟩

/-- Members of one group see the same group, below every bound. -/
theorem groupBelow_eq_of_mem {r' : Nat} (h : r' ∈ intraGroup a r) (k : Nat) :
    groupBelow a r' k = groupBelow a r k := by
  unfold groupBelow
  congr 1
  funext j
  rw [sameProcess_trans a r (mem_intraGroup.mp h).2]

theorem intraGroup_eq_of_mem {r' : Nat} (h : r' ∈ intraGroup a r) :
    intraGroup a r' = intraGroup a r :=
  groupBelow_eq_of_mem h a.length

theorem groupBelow_self_eq_filter (hr : r < a.length) :
    groupBelow a r r = (intraGroup a r).filter (· < r) := by
  ext j
  simp only [groupBelow, intraGroup, Finset.mem_filter, Finset.mem_range]
  constructor
  · rintro ⟨hj, hs⟩; exact ⟨⟨by omega, hs⟩, hj⟩
  · rintro ⟨⟨-, hs⟩, hj⟩; exact ⟨hj, hs⟩

/-- **The intra-node fields of one rank.** `intraRank0` is the least member of the group,
`intraRanks` its size and `intraRank` the number of members below the rank. -/
theorem allGather1Scan_intra (hr : r < a.length) :
    (∃ k : Nat, (allGather1Scan a r).intraRank0 = k ∧ IsLeast ↑(intraGroup a r) k) ∧
      (allGather1Scan a r).intraRanks = (intraGroup a r).card ∧
      (allGather1Scan a r).intraRank = ((intraGroup a r).filter (· < r)).card := by
  have h := scanInv_allGather1Scan a r
  refine ⟨?_, h.intraRanks, ?_⟩
  · rcases h.intraRank0 with ⟨hG, -⟩ | hk
    · exact absurd (self_mem_intraGroup hr) (by rw [intraGroup, hG]; simp)
    · exact hk
  · rw [h.intraRank, if_pos hr, groupBelow_self_eq_filter hr]

/-- The capabilities the loop reads by index are those of the array. -/
theorem compCaps_by_index :
    {v | ∃ j ∈ List.range a.length, (a.getD j default).cudaCompCap = v} =
      {v | ∃ e ∈ a, e.cudaCompCap = v} := by
  ext v
  exact exists_range_getD_iff a default (fun e => e.cudaCompCap = v)

theorem allGather1Scan_minCompCap (hr : r < a.length) :
    IsLeast {v | ∃ e ∈ a, e.cudaCompCap = v} (allGather1Scan a r).minCompCap := by
  rw [(scanInv_allGather1Scan a r).minCompCap]
  have := foldl_stdMin_isLeast (fun j => (a.getD j default).cudaCompCap) (List.range a.length)
    (a.getD r default).cudaCompCap ⟨r, List.mem_range.mpr hr, rfl⟩
  rwa [compCaps_by_index] at this

theorem allGather1Scan_maxCompCap (hr : r < a.length) :
    IsGreatest {v | ∃ e ∈ a, e.cudaCompCap = v} (allGather1Scan a r).maxCompCap := by
  rw [(scanInv_allGather1Scan a r).maxCompCap]
  have := foldl_stdMax_isGreatest (fun j => (a.getD j default).cudaCompCap)
    (List.range a.length) (a.getD r default).cudaCompCap ⟨r, List.mem_range.mpr hr, rfl⟩
  rwa [compCaps_by_index] at this

/-- The host hashes of the array are the rank's own and the others. -/
theorem hostHashes_eq (hr : r < a.length) :
    (a.map (·.peerInfo.hostHash)).toFinset =
      insert (a.getD r default).peerInfo.hostHash (otherHosts a r a.length) := by
  ext x
  simp only [List.mem_toFinset, List.mem_map, Finset.mem_insert, otherHosts, Finset.mem_image,
    Finset.mem_filter, Finset.mem_range]
  rw [← exists_range_getD_iff a default (fun e => e.peerInfo.hostHash = x)]
  simp only [List.mem_range]
  constructor
  · rintro ⟨j, hj, rfl⟩
    by_cases hh : (a.getD j default).peerInfo.hostHash = (a.getD r default).peerInfo.hostHash
    · exact Or.inl hh
    · exact Or.inr ⟨j, ⟨hj, hh⟩, rfl⟩
  · rintro (rfl | ⟨j, ⟨hj, -⟩, rfl⟩)
    · exact ⟨r, hr, rfl⟩
    · exact ⟨j, hj, rfl⟩

/-- **The host count.** `tmpNnodes` is the number of distinct host hashes, capped at three,
whichever rank computes it. -/
theorem allGather1Scan_tmpNnodes (hr : r < a.length) :
    (allGather1Scan a r).tmpNnodes = min 3 ((a.map (·.peerInfo.hostHash)).toFinset.card) := by
  have hnot : (a.getD r default).peerInfo.hostHash ∉ otherHosts a r a.length := by
    simp [otherHosts]
  rw [hostHashes_eq hr, Finset.card_insert_of_not_mem hnot]
  rcases (scanInv_allGather1Scan a r).hosts with ⟨hO, ht⟩ | ⟨g, hO, ht, -⟩ | ⟨hO, ht⟩
  · simp [hO, ht]
  · simp [hO, ht]
  · rw [ht]; omega

/-- A member's `intraRank` counts the members of its group below it. -/
theorem intraRank_eq_card {r' : Nat} (h : r' ∈ intraGroup a r) :
    (allGather1Scan a r').intraRank = (groupBelow a r r').card := by
  rw [(scanInv_allGather1Scan a r').intraRank, if_pos (mem_intraGroup.mp h).1,
    groupBelow_eq_of_mem h]

theorem groupBelow_ssubset {r' : Nat} (h : r' ∈ intraGroup a r) :
    groupBelow a r r' ⊂ intraGroup a r := by
  refine Finset.ssubset_iff_subset_ne.mpr ⟨fun j hj => ?_, fun he => ?_⟩
  · simp only [groupBelow, Finset.mem_filter, Finset.mem_range] at hj
    exact mem_intraGroup.mpr ⟨by have := (mem_intraGroup.mp h).1; omega, hj.2⟩
  · exact not_mem_groupBelow a r r' (he ▸ h)

theorem groupBelow_card_lt {r₁ r₂ : Nat} (h₁ : r₁ ∈ intraGroup a r) (hlt : r₁ < r₂) :
    (groupBelow a r r₁).card < (groupBelow a r r₂).card := by
  refine Finset.card_lt_card (Finset.ssubset_iff_subset_ne.mpr ⟨fun j hj => ?_, fun he => ?_⟩)
  · simp only [groupBelow, Finset.mem_filter, Finset.mem_range] at hj ⊢
    exact ⟨by omega, hj.2⟩
  · have : r₁ ∈ groupBelow a r r₂ := by
      simp only [groupBelow, Finset.mem_filter, Finset.mem_range]
      exact ⟨hlt, (mem_intraGroup.mp h₁).2⟩
    exact not_mem_groupBelow a r r₁ (he ▸ this)

/-- No two members of a group get the same `intraRank`. -/
theorem intraRank_injective {r₁ r₂ : Nat} (h₁ : r₁ ∈ intraGroup a r) (h₂ : r₂ ∈ intraGroup a r)
    (he : (allGather1Scan a r₁).intraRank = (allGather1Scan a r₂).intraRank) : r₁ = r₂ := by
  rw [intraRank_eq_card h₁, intraRank_eq_card h₂, Int.ofNat_inj] at he
  rcases Nat.lt_trichotomy r₁ r₂ with hlt | heq | hgt
  · exact absurd he (groupBelow_card_lt h₁ hlt).ne
  · exact heq
  · exact absurd he (groupBelow_card_lt h₂ hgt).ne'

/-- A member is first in its group when no member lies below it. -/
theorem groupBelow_eq_empty_iff {r' : Nat} (h : r' ∈ intraGroup a r) :
    groupBelow a r r' = ∅ ↔ IsLeast ↑(intraGroup a r) r' := by
  constructor
  · intro he
    refine ⟨h, fun j hj => Nat.le_of_not_lt fun hlt => ?_⟩
    have : j ∈ groupBelow a r r' := by
      simp only [groupBelow, Finset.mem_filter, Finset.mem_range]
      exact ⟨hlt, (mem_intraGroup.mp hj).2⟩
    simp [he] at this
  · intro hl
    refine Finset.eq_empty_of_forall_not_mem fun j hj => ?_
    simp only [groupBelow, Finset.mem_filter, Finset.mem_range] at hj
    have := hl.2 (mem_intraGroup.mpr ⟨by have := (mem_intraGroup.mp h).1; omega, hj.2⟩)
    omega

/-- **Intra-node grouping is a bijection agreed by the whole group.** Every rank's scan
gives `intraRank0 = min G(r)`, `intraRanks = |G(r)|` and
`intraRank = |{i ∈ G(r) | i < r}|`; the check of line 802 passes; the members of a group
agree on `intraRank0`, `intraRanks` and `intraRank0Comm`; their `intraRank` values are
distinct, lie in `[0, intraRanks)` and fill it; and the member with `intraRank = 0` is
`intraRank0`, whose communicator is the `comm0` that `ncclCommSetIntra` asserts. -/
theorem intraRanks_agree (a : List AllGather1Data) (hcomm : ∀ e ∈ a, e.comm ≠ 0) (r : Nat)
    (hr : r < a.length) :
    (∃ k : Nat, (allGather1Scan a r).intraRank0 = k ∧ IsLeast ↑(intraGroup a r) k) ∧
    (allGather1Scan a r).intraRanks = (intraGroup a r).card ∧
    (allGather1Scan a r).intraRank = ((intraGroup a r).filter (· < r)).card ∧
    intraRanksCheck a r = ncclSuccess ∧
    (∀ r' ∈ intraGroup a r,
      (allGather1Scan a r').intraRank0 = (allGather1Scan a r).intraRank0 ∧
      (allGather1Scan a r').intraRanks = (allGather1Scan a r).intraRanks ∧
      intraRank0Comm a r' = intraRank0Comm a r ∧
      0 ≤ (allGather1Scan a r').intraRank ∧
      (allGather1Scan a r').intraRank < (allGather1Scan a r).intraRanks ∧
      ((allGather1Scan a r').intraRank = 0 ↔ (r' : Int) = (allGather1Scan a r).intraRank0) ∧
      ((allGather1Scan a r').intraRank = 0 → (a.getD r' default).comm = intraRank0Comm a r)) ∧
    (∀ r₁ ∈ intraGroup a r, ∀ r₂ ∈ intraGroup a r,
      (allGather1Scan a r₁).intraRank = (allGather1Scan a r₂).intraRank → r₁ = r₂) ∧
    (∀ k : Nat, (k : Int) < (allGather1Scan a r).intraRanks →
      ∃ r' ∈ intraGroup a r, (allGather1Scan a r').intraRank = k) := by
  obtain ⟨⟨k, hk, hleast⟩, hranks, hrank⟩ := allGather1Scan_intra hr
  have hkn : k < a.length := (mem_intraGroup.mp hleast.1).1
  /- what every member computes, through the group it shares with `r` -/
  have member : ∀ r' ∈ intraGroup a r,
      (allGather1Scan a r').intraRank0 = k ∧ (allGather1Scan a r').intraRanks = (intraGroup a r).card := by
    intro r' h
    obtain ⟨⟨k', hk', hleast'⟩, hranks', -⟩ := allGather1Scan_intra (mem_intraGroup.mp h).1
    rw [intraGroup_eq_of_mem h] at hleast' hranks'
    exact ⟨hk'.trans (congrArg _ (hleast'.unique hleast)), hranks'⟩
  have hcomm0 : intraRank0Comm a r = (a.getD k default).comm := by
    simp [intraRank0Comm, hk]
  refine ⟨⟨k, hk, hleast⟩, hranks, hrank, ?_, ?_, fun _ h₁ _ h₂ => intraRank_injective h₁ h₂, ?_⟩
  · -- the check of line 802
    have hne : (a.getD k default).comm ≠ 0 := hcomm _ (getD_mem default hkn)
    simp only [intraRanksCheck, hk, hrank, Int.toNat_natCast]
    rw [if_neg]
    push_neg
    exact ⟨by omega, by omega, hne⟩
  · intro r' h
    obtain ⟨h0, hn⟩ := member r' h
    have hcard := Finset.card_lt_card (groupBelow_ssubset h)
    have hzero : (allGather1Scan a r').intraRank = 0 ↔ (r' : Int) = k := by
      rw [intraRank_eq_card h, Int.ofNat_eq_zero, Finset.card_eq_zero,
        groupBelow_eq_empty_iff h, Int.ofNat_inj]
      exact ⟨fun hl => hl.unique hleast, fun he => he ▸ hleast⟩
    refine ⟨h0.trans hk.symm, hn.trans hranks.symm, by simp [intraRank0Comm, h0, hk], ?_, ?_,
      hzero.trans (by rw [hk]), fun hz => ?_⟩
    · rw [intraRank_eq_card h]; exact Int.ofNat_nonneg _
    · rw [intraRank_eq_card h, hranks]; exact_mod_cast hcard
    · rw [hcomm0, Int.ofNat_inj.mp (hzero.mp hz)]
  · intro m hm
    rw [hranks] at hm
    obtain ⟨r', hr', he⟩ := Finset.surj_on_of_inj_on_of_card_le
      (s := intraGroup a r) (t := Finset.range (intraGroup a r).card)
      (fun r' _ => (groupBelow a r r').card)
      (fun r' h => Finset.mem_range.mpr (Finset.card_lt_card (groupBelow_ssubset h)))
      (fun r₁ r₂ h₁ h₂ he => intraRank_injective h₁ h₂ (by
        rw [intraRank_eq_card h₁, intraRank_eq_card h₂]; exact_mod_cast he))
      (by simp) m (Finset.mem_range.mpr (by exact_mod_cast hm))
    exact ⟨r', hr', by rw [intraRank_eq_card hr']; exact_mod_cast he.symm⟩

/-- Four ranks on one host: ranks `0` and `2` in one process, ranks `1` and `3` in another. -/
def interleavedGroupsArray : List AllGather1Data :=
  [⟨⟨5, 1, 10⟩, 11, 80⟩, ⟨⟨5, 2, 20⟩, 12, 90⟩, ⟨⟨5, 1, 30⟩, 13, 80⟩, ⟨⟨5, 2, 40⟩, 14, 90⟩]

theorem intraRanks_agree_interleaved :
    (∀ e ∈ interleavedGroupsArray, e.comm ≠ 0) ∧ 3 < interleavedGroupsArray.length ∧
      intraRanksCheck interleavedGroupsArray 3 = ncclSuccess :=
  ⟨by decide, by decide, (intraRanks_agree interleavedGroupsArray (by decide) 3 (by decide)).2.2.2.1⟩

end Final

end RcclInit
