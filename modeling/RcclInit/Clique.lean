import RcclInit.AllGather1

/-!
# Clique mode

After the topology search, `initTransportsRank` decides whether the clique-based kernels can
be used (lines 826-865). When every rank of the communicator is in the rank's own process
(`intraRanks == nranks`), it checks with `hipDeviceCanAccessPeer` that each rank's device can
access every other rank's. The two nested loops (`hasPeerAccessLoop`) skip a rank paired with
itself and stop at the first pair without access. Unless `rcclParamForceEnableClique()` is
set, it then asks for a CR8G topology with one GPU per rank. `cliqueModeOf` is that decision.

The loops compute whether every ordered pair of distinct ranks has peer access
(`hasPeerAccessLoop_eq_true_iff`). The test of line 849 repeats the one of line 828, so the
branch that picks `CLIQUE_SINGLE_NODE` is dead (`cliqueModeOf_eq`). Over the AllGather1 scan,
the mode is `CLIQUE_SINGLE_PROCESS` exactly when three things hold, and `CLIQUE_DISABLED`
otherwise (`cliqueMode_of_scan`):
- every rank shares the rank's host and process hash;
- every pair of distinct ranks has peer access;
- clique is forced, or the topology qualifies.

The test on `intraRanks` gives the same answer on every rank, since sharing a process is an
equivalence. So when the runtime and the topology answer all the ranks of a communicator
alike, they all choose the same mode (`cliqueMode_agree`).
-/

set_option autoImplicit false

namespace RcclInit

/-- `CliqueManager::cliqueMode_t`. -/
inductive CliqueMode where
  | CLIQUE_DISABLED
  | CLIQUE_SINGLE_NODE
  | CLIQUE_SINGLE_PROCESS
  deriving DecidableEq, Repr

open CliqueMode

/-- What the decision asks of the runtime, the parameters and the topology:
`hipDeviceCanAccessPeer(&p2p, cudaDev1, cudaDev2)` as whether it returned `hipSuccess` and the
`p2p` it wrote, `rcclParamForceEnableClique()`, `comm->topo->nodes[GPU].count`,
`comm->topo->nRanks`, and whether `comm->topo->type` has the bit `RCCL_TOPO_CR8G`. -/
structure CliqueCalls where
  hipDeviceCanAccessPeer : Int → Int → Bool × Int
  forceEnableClique : Int
  gpuCount : Int
  topoNRanks : Int
  cr8g : Bool

/-- The test of line 840: the call failed, or it reported no access. -/
def noPeerAccess (calls : CliqueCalls) (cudaDev1 cudaDev2 : Int) : Bool :=
  let (ok, p2p) := calls.hipDeviceCanAccessPeer cudaDev1 cudaDev2
  !ok || p2p == 0

/-- The inner loop of lines 834-844 for rank `i`, over the ranks `js` it has still to visit.
`cudaDevs` holds the `peerInfo.cudaDev` of each AllGather1 entry. The loop skips `i` itself
(`continue`), and returns `false` at the first rank whose device `i`'s cannot access
(`hasPeerAccess = false; break`). -/
def peerLoop (calls : CliqueCalls) (cudaDevs : List Int) (i : Nat) : List Nat → Bool
  | [] => true
  | j :: js =>
      if i = j then peerLoop calls cudaDevs i js
      else if noPeerAccess calls (cudaDevs.getD i 0) (cudaDevs.getD j 0) then false
      else peerLoop calls cudaDevs i js

/-- The loops of lines 830-845: `hasPeerAccess` after the outer loop, which runs while it
holds. -/
def hasPeerAccessLoop (calls : CliqueCalls) (cudaDevs : List Int) (nranks : Nat) : Bool :=
  (List.range nranks).foldl
    (fun hasPeerAccess i => hasPeerAccess && peerLoop calls cudaDevs i (List.range nranks)) true

/-- Lines 827-864: the clique mode of a rank that has `intraRanks` of the `nranks` ranks in its
process. -/
def cliqueModeOf (calls : CliqueCalls) (cudaDevs : List Int) (intraRanks nranks : Int) :
    CliqueMode :=
  if intraRanks = nranks then
    let hasPeerAccess := hasPeerAccessLoop calls cudaDevs nranks.toNat
    let cliqueMode :=
      if hasPeerAccess then
        if intraRanks = nranks then CLIQUE_SINGLE_PROCESS else CLIQUE_SINGLE_NODE
      else CLIQUE_DISABLED
    if calls.forceEnableClique = 0 then
      if ¬(calls.gpuCount = calls.topoNRanks ∧ calls.cr8g = true) then CLIQUE_DISABLED
      else cliqueMode
    else cliqueMode
  else CLIQUE_DISABLED

/-! ## The peer-access loops -/

section Loops

variable (calls : CliqueCalls) (cudaDevs : List Int)

/-- The inner loop finds no pair without access among the ranks it visits. -/
theorem peerLoop_eq_true_iff (i : Nat) (js : List Nat) :
    peerLoop calls cudaDevs i js = true ↔
      ∀ j ∈ js, i ≠ j → noPeerAccess calls (cudaDevs.getD i 0) (cudaDevs.getD j 0) = false := by
  induction js with
  | nil => simp [peerLoop]
  | cons j js ih =>
      by_cases hij : i = j
      · subst hij
        simp [peerLoop, ih]
      · cases hno : noPeerAccess calls (cudaDevs.getD i 0) (cudaDevs.getD j 0) <;>
          simp [peerLoop, hij, hno, ih]

/-- A loop that stops once its flag is `false` and a fold of `&&` agree. -/
theorem foldl_and_eq_all (f : Nat → Bool) (l : List Nat) (b : Bool) :
    l.foldl (fun acc i => acc && f i) b = (b && l.all f) := by
  induction l generalizing b with
  | nil => simp
  | cons x xs ih => simp [ih, Bool.and_assoc]

/-- **What the loops compute.** `hasPeerAccess` ends `true` exactly when every rank's device
can access every other rank's. -/
theorem hasPeerAccessLoop_eq_true_iff (nranks : Nat) :
    hasPeerAccessLoop calls cudaDevs nranks = true ↔
      ∀ i < nranks, ∀ j < nranks, i ≠ j →
        noPeerAccess calls (cudaDevs.getD i 0) (cudaDevs.getD j 0) = false := by
  simp [hasPeerAccessLoop, foldl_and_eq_all, peerLoop_eq_true_iff]

/-- The decision without its dead branch: the mode is `CLIQUE_SINGLE_PROCESS` when all ranks
are in the process, the loops find access between all of them, and clique is forced or the
topology qualifies, and `CLIQUE_DISABLED` otherwise. -/
theorem cliqueModeOf_eq (intraRanks nranks : Int) :
    cliqueModeOf calls cudaDevs intraRanks nranks =
      if intraRanks = nranks ∧ hasPeerAccessLoop calls cudaDevs nranks.toNat = true ∧
          (calls.forceEnableClique ≠ 0 ∨ calls.gpuCount = calls.topoNRanks ∧ calls.cr8g = true)
      then CLIQUE_SINGLE_PROCESS else CLIQUE_DISABLED := by
  unfold cliqueModeOf
  split_ifs <;> simp_all

end Loops

/-! ## Over the AllGather1 scan -/

section Scan

variable {a : List AllGather1Data} {r : Nat}

/-- All ranks are in the rank's process exactly when its scan counts them all. -/
theorem intraRanks_eq_length_iff (hr : r < a.length) :
    (allGather1Scan a r).intraRanks = a.length ↔ ∀ i < a.length, sameProcess a i r = true := by
  have h := Finset.card_filter_eq_iff (s := Finset.range a.length)
    (p := fun j => sameProcess a j r = true)
  rw [Finset.card_range] at h
  rw [(allGather1Scan_intra hr).2.1, Int.ofNat_inj]
  simpa [intraGroup, groupBelow] using h

/-- Whether all ranks share one process does not depend on the rank that asks. -/
theorem forall_sameProcess_iff {r' : Nat} (hr : r < a.length) (hr' : r' < a.length) :
    (∀ i < a.length, sameProcess a i r = true) ↔ ∀ i < a.length, sameProcess a i r' = true :=
  ⟨fun h i hi => (sameProcess_trans a r (h r' hr')).trans (h i hi),
    fun h i hi => (sameProcess_trans a r' (h r hr)).trans (h i hi)⟩

/-- **The clique mode from the gathered peers.** On every rank, the mode is
`CLIQUE_SINGLE_PROCESS` exactly when every rank shares its host and process hash, every
rank's device can access every other rank's, and clique is forced or the topology has one GPU
per rank and is CR8G; otherwise it is `CLIQUE_DISABLED`, and never `CLIQUE_SINGLE_NODE`. -/
theorem cliqueMode_of_scan (a : List AllGather1Data) (hr : r < a.length) (calls : CliqueCalls)
    (cudaDevs : List Int) :
    cliqueModeOf calls cudaDevs (allGather1Scan a r).intraRanks a.length =
      if (∀ i < a.length, sameProcess a i r = true) ∧
          (∀ i < a.length, ∀ j < a.length, i ≠ j →
            noPeerAccess calls (cudaDevs.getD i 0) (cudaDevs.getD j 0) = false) ∧
          (calls.forceEnableClique ≠ 0 ∨ calls.gpuCount = calls.topoNRanks ∧ calls.cr8g = true)
      then CLIQUE_SINGLE_PROCESS else CLIQUE_DISABLED := by
  simp only [cliqueModeOf_eq, Int.toNat_natCast, intraRanks_eq_length_iff hr,
    hasPeerAccessLoop_eq_true_iff]

/-- Two ranks of one host and one process, and a runtime that gives every pair access on a
CR8G topology of two GPUs. -/
def oneProcessArray : List AllGather1Data :=
  [⟨⟨5, 1, 10⟩, 11, 90⟩, ⟨⟨5, 1, 20⟩, 12, 90⟩]

def CliqueCalls.allPeers : CliqueCalls := ⟨fun _ _ => (true, 1), 0, 2, 2, true⟩

theorem cliqueMode_of_scan_one_process :
    1 < oneProcessArray.length ∧
      cliqueModeOf CliqueCalls.allPeers [0, 1] (allGather1Scan oneProcessArray 1).intraRanks
          oneProcessArray.length =
        if (∀ i < oneProcessArray.length, sameProcess oneProcessArray i 1 = true) ∧
            (∀ i < oneProcessArray.length, ∀ j < oneProcessArray.length, i ≠ j →
              noPeerAccess CliqueCalls.allPeers ([0, 1].getD i 0) ([0, 1].getD j 0) = false) ∧
            (CliqueCalls.allPeers.forceEnableClique ≠ 0 ∨
              CliqueCalls.allPeers.gpuCount = CliqueCalls.allPeers.topoNRanks ∧
                CliqueCalls.allPeers.cr8g = true)
        then CLIQUE_SINGLE_PROCESS else CLIQUE_DISABLED :=
  ⟨by decide, cliqueMode_of_scan oneProcessArray (by decide) CliqueCalls.allPeers [0, 1]⟩

/-- **The ranks agree on the clique mode.** Any two ranks of a communicator that get the same
answers from the runtime and the topology choose the same mode. -/
theorem cliqueMode_agree (a : List AllGather1Data) {r r' : Nat} (hr : r < a.length)
    (hr' : r' < a.length) (calls : CliqueCalls) (cudaDevs : List Int) :
    cliqueModeOf calls cudaDevs (allGather1Scan a r').intraRanks a.length =
      cliqueModeOf calls cudaDevs (allGather1Scan a r).intraRanks a.length := by
  simp only [cliqueModeOf_eq, intraRanks_eq_length_iff hr, intraRanks_eq_length_iff hr',
    forall_sameProcess_iff hr hr']

theorem cliqueMode_agree_interleaved :
    0 < interleavedGroupsArray.length ∧ 3 < interleavedGroupsArray.length ∧
      cliqueModeOf CliqueCalls.allPeers [0, 1, 2, 3]
          (allGather1Scan interleavedGroupsArray 3).intraRanks interleavedGroupsArray.length =
        cliqueModeOf CliqueCalls.allPeers [0, 1, 2, 3]
          (allGather1Scan interleavedGroupsArray 0).intraRanks interleavedGroupsArray.length :=
  ⟨by decide, by decide,
    cliqueMode_agree interleavedGroupsArray (by decide) (by decide) CliqueCalls.allPeers _⟩

end Scan

end RcclInit
