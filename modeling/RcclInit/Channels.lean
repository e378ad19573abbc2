import RcclInit.Basic
import Mathlib.Data.List.Rotate

/-!
# The channels of `initTransportsRank`: ring order, compaction, and the ring's NICs

Three loops of `initTransportsRank` work on C arrays of channels and ranks. Each is
modelled on lists: a read outside its array is `none` (`xs[i]?`), and so is a write
outside it (`store`). A loop that returns `some` has therefore stayed inside its arrays.

* `setupChannel` rotates the ring that `ncclTopoPostset` published so that it starts at
  the calling rank. `setupChannel_rotates` shows the result is the rotation of the ring by
  the rank's first position in it, and so a permutation that keeps the ring's cyclic order.
* `compactChannels` moves the channels `ncclTopoPreset` duplicated down to follow the
  channels kept by reconciliation. The target block `[C1, 2 * C1)` and the source block
  `[C0, C0 + C1)` overlap when `2 * C1 > C0`, but the copy runs forward and the source is
  ahead, so no iteration reads a slot an earlier one wrote (`compactChannels_spec`).
* `countNets` collects the NICs of the ring's channels. `countNets_spec` shows that it ends
  with the distinct NICs in order of first occurrence, and that it never writes past
  `nets[MAXCHANNELS*2]`.

The search loop `for (k = 0; k < n; k++) if (xs[k] == v) break;` appears twice, in
`setupChannel` and in the NIC count. It is `firstIndex`, and it finds the first position
of `v`, or `n` when `v` is absent (`firstIndex_eq`).
-/

set_option autoImplicit false

namespace RcclInit

open NcclResult

/-! ## Searching a C array -/

/-- The loop `for (k = start; k < start + m; k++) if (xs[k] == v) break;` started at
`k = start` with `m` iterations left: the value of `k` after it, or `none` when it reads
past the end of `xs`. -/
def firstIndexFrom (xs : List Int) (v : Int) : Nat → Nat → Option Nat
  | k, 0 => some k
  | k, m + 1 => do
      let x ← xs[k]?
      if x = v then some k else firstIndexFrom xs v (k + 1) m

/-- `for (k = 0; k < n; k++) if (xs[k] == v) break;`: the value of `k` after the loop. -/
def firstIndex (xs : List Int) (v : Int) (n : Nat) : Option Nat := firstIndexFrom xs v 0 n

theorem firstIndexFrom_eq (xs : List Int) (v : Int) (k m : Nat) (h : k + m ≤ xs.length) :
    firstIndexFrom xs v k m = some (k + ((xs.drop k).take m).indexOf v) := by
  induction m generalizing k with
  | zero => simp [firstIndexFrom]
  | succ m ih =>
      have hk : k < xs.length := by omega
      rw [firstIndexFrom, List.getElem?_eq_getElem hk, List.drop_eq_getElem_cons hk,
        List.take_succ_cons]
      by_cases hx : xs[k] = v
      · simp [hx, List.indexOf_cons_eq]
      · simp [hx, ih (k + 1) (by omega), List.indexOf_cons_ne _ hx]
        omega

/-- Within the array, the loop stops at the first position of `v` among the first `n`
entries, or at `n`. -/
theorem firstIndex_eq (xs : List Int) (v : Int) (n : Nat) (h : n ≤ xs.length) :
    firstIndex xs v n = some ((xs.take n).indexOf v) := by
  simpa [firstIndex] using firstIndexFrom_eq xs v 0 n (by omega)

/-! ## `setupChannel` -/

/-- `setupChannel(comm, channelId, rank, nranks, ringRanks)`, lines 498-514, with the
result of its `initChannel`: the result and the channel's `ring.userRanks` after it. -/
def setupChannel (initChannel : NcclResult) (rank : Int) (nranks : Nat)
    (ringRanks userRanks : List Int) : Option (NcclResult × List Int) := do
  if initChannel ≠ ncclSuccess then return (initChannel, userRanks)
  let shift ← firstIndex ringRanks rank nranks
  let userRanks ← (List.range nranks).foldlM
    (fun u i => do store u i (← ringRanks[(i + shift) % nranks]?)) userRanks
  return (ncclSuccess, userRanks)

/-- Entry `j` of the rotation of a ring is the entry `j` places after the start. -/
theorem getElem?_rotate_of_lt {l : List Int} {n j : Nat} (hj : j < l.length) :
    (l.rotate n)[j]? = l[(j + n) % l.length]? := List.getElem?_rotate hj

/-- Rotating keeps the cyclic order: the entry after entry `i` of the rotation, wrapping at
the end, is the entry after the one it came from. -/
theorem rotate_succ_cyclic (l : List Int) (k i : Nat) (hi : i < l.length) :
    ∃ j < l.length, (l.rotate k)[i]? = l[j]? ∧
      (l.rotate k)[(i + 1) % l.length]? = l[(j + 1) % l.length]? := by
  have hpos : 0 < l.length := by omega
  refine ⟨(i + k) % l.length, Nat.mod_lt _ hpos, getElem?_rotate_of_lt hi, ?_⟩
  rw [getElem?_rotate_of_lt (Nat.mod_lt _ hpos), Nat.mod_add_mod, Nat.mod_add_mod]
  congr 2
  omega

theorem setupChannel_rotates (rank : Int) (nranks : Nat) (ringRanks userRanks : List Int)
    (hn : 1 ≤ nranks) (hring : ringRanks.length = nranks) (hmem : rank ∈ ringRanks)
    (huser : userRanks.length = nranks) :
    ∃ u, setupChannel ncclSuccess rank nranks ringRanks userRanks = some (ncclSuccess, u) ∧
      (∀ i < nranks, u[i]? = ringRanks[(i + ringRanks.indexOf rank) % nranks]?) ∧
      u[0]? = some rank ∧ u = ringRanks.rotate (ringRanks.indexOf rank) ∧ u.Perm ringRanks ∧
      ∀ i < nranks, ∃ j < nranks, u[i]? = ringRanks[j]? ∧
        u[(i + 1) % nranks]? = ringRanks[(j + 1) % nranks]? := by
  set k := ringRanks.indexOf rank with hk
  have hkn : k < nranks := hring ▸ List.indexOf_lt_length.mpr hmem
  have hfind : firstIndex ringRanks rank nranks = some k := by
    rw [firstIndex_eq _ _ _ hring.ge, ← hring, List.take_length]
  -- the copy loop writes entry `i` of the rotation into `userRanks[i]`
  obtain ⟨u, hu, hlen, hget⟩ := foldlM_range_invariant
    (fun i (u : List Int) => u.length = nranks ∧
      ∀ j < i, u[j]? = ringRanks[(j + k) % nranks]?)
    (fun u i => do store u i (← ringRanks[(i + k) % nranks]?)) userRanks nranks
    ⟨huser, fun _ h => absurd h (Nat.not_lt_zero _)⟩ fun i u hi ⟨hlen, hget⟩ => by
      have hr : (i + k) % nranks < ringRanks.length := hring ▸ Nat.mod_lt _ (by omega)
      refine ⟨u.set i ringRanks[(i + k) % nranks], ?_, by simp [hlen], fun j hj => ?_⟩
      · simp [List.getElem?_eq_getElem hr, store_of_lt _ (hlen ▸ hi : i < u.length)]
      · rcases Nat.lt_succ_iff_lt_or_eq.mp hj with hj | rfl
        · rw [List.getElem?_set_ne (by omega), hget j hj]
        · rw [List.getElem?_set_self (by omega), List.getElem?_eq_getElem hr]
  have hrot : u = ringRanks.rotate k := by
    apply List.ext_getElem? fun j => ?_
    by_cases hj : j < nranks
    · rw [hget j hj, getElem?_rotate_of_lt (hring ▸ hj), hring]
    · rw [List.getElem?_eq_none (by omega), List.getElem?_eq_none (by simp; omega)]
  have hsetup : setupChannel ncclSuccess rank nranks ringRanks userRanks =
      some (ncclSuccess, u) := by
    simp only [setupChannel, ne_eq, not_true_eq_false, if_false, hfind]
    exact congrArg (· >>= fun us => pure (ncclSuccess, us)) hu
  refine ⟨u, hsetup, fun i hi => hget i hi, ?_, hrot,
    hrot ▸ List.rotate_perm _ _, fun i hi => ?_⟩
  · rw [hrot, ← List.head?_eq_getElem?, List.head?_rotate (hring ▸ hkn),
      List.getElem?_indexOf hmem]
  · obtain ⟨j, hj, h⟩ := rotate_succ_cyclic ringRanks k i (hring ▸ hi)
    exact ⟨j, hring ▸ hj, hrot ▸ hring ▸ h⟩

theorem setupChannel_rotates_four :
    ∃ u, setupChannel ncclSuccess 3 4 [2, 0, 3, 1] [0, 0, 0, 0] = some (ncclSuccess, u) ∧
      u = [3, 1, 2, 0] := by
  obtain ⟨u, h, -, -, hrot, -⟩ :=
    setupChannel_rotates 3 4 [2, 0, 3, 1] [0, 0, 0, 0] (by decide) rfl (by decide) rfl
  exact ⟨u, h, hrot.trans (by decide)⟩

/-! ## Compaction after reconciliation -/

/-- One iteration of the loop of lines 1026-1030, `memcpy(comm->channels+nChannels+i,
comm->channels+nChannelsOrig+i, sizeof(struct ncclChannel))`, on the channel array. -/
def compactStep {α : Type} (nChannels nChannelsOrig : Nat) (channels : List α) (i : Nat) :
    Option (List α) := do
  store channels (nChannels + i) (← channels[nChannelsOrig + i]?)

/-- Lines 1026-1030: when reconciliation lowered `comm->nChannels` below `nChannelsOrig`, move
the duplicates `ncclTopoPreset` made down to follow the kept channels. -/
def compactChannels {α : Type} (channels : List α) (nChannels nChannelsOrig : Nat) :
    Option (List α) :=
  if nChannels < nChannelsOrig then
    (List.range nChannels).foldlM (compactStep nChannels nChannelsOrig) channels
  else some channels

/-- After `i` iterations, slots `[C1, C1 + i)` hold what slots `[C0, C0 + i)` held, and every
other slot is as it was. -/
theorem foldlM_compactStep {α : Type} (channels : List α) {C1 C0 : Nat} (hlt : C1 < C0)
    (hlen : 2 * C0 ≤ channels.length) {i : Nat} (hi : i ≤ C1) :
    ∃ ch, (List.range i).foldlM (compactStep C1 C0) channels = some ch ∧
      ∀ j, ch[j]? = if C1 ≤ j ∧ j < C1 + i then channels[C0 + (j - C1)]? else channels[j]? := by
  obtain ⟨ch, hch, -, hget⟩ := foldlM_range_invariant
    (fun i (ch : List α) => ch.length = channels.length ∧
      ∀ j, ch[j]? = if C1 ≤ j ∧ j < C1 + i then channels[C0 + (j - C1)]? else channels[j]?)
    (compactStep C1 C0) channels i ⟨rfl, fun j => by rw [if_neg (by omega)]⟩ fun k ch hk ⟨hl, hget⟩ => by
      -- the slot this iteration reads has not been written yet
      have hread : ch[C0 + k]? = some channels[C0 + k] := by
        rw [hget, if_neg (by omega), List.getElem?_eq_getElem (by omega)]
      refine ⟨ch.set (C1 + k) channels[C0 + k], ?_, by simp [hl], fun j => ?_⟩
      · simp [compactStep, hread, store_of_lt _ (by omega : C1 + k < ch.length)]
      · by_cases hj : j = C1 + k
        · subst hj
          rw [List.getElem?_set_self (by omega), if_pos (by omega), Nat.add_sub_cancel_left,
            List.getElem?_eq_getElem (by omega)]
        · rw [List.getElem?_set_ne (Ne.symm hj), hget]
          split_ifs <;> first | rfl | omega
  exact ⟨ch, hch, hget⟩

theorem compactChannels_spec {α : Type} (channels : List α) (C1 C0 maxChannels : Nat)
    (hlt : C1 < C0) (hmax : 2 * C0 ≤ maxChannels) (hlen : channels.length = maxChannels)
    (hcopy : ∀ i < C0, channels[C0 + i]? = channels[i]?) :
    ∃ out, compactChannels channels C1 C0 = some out ∧
      (∀ i < C1, out[i]? = channels[i]?) ∧
      (∀ i < C1, out[C1 + i]? = channels[C0 + i]? ∧ out[C1 + i]? = channels[i]?) ∧
      (∀ i < C1, ∃ ch, (List.range i).foldlM (compactStep C1 C0) channels = some ch ∧
        ch[C0 + i]? = channels[C0 + i]?) ∧
      compactChannels (channels.take (2 * C0)) C1 C0 = some (out.take (2 * C0)) := by
  obtain ⟨out, hout, hget⟩ := foldlM_compactStep channels hlt (by omega) le_rfl
  refine ⟨out, by simp [compactChannels, hlt, hout], fun i hi => by rw [hget, if_neg (by omega)],
    fun i hi => ?_, fun i hi => ?_, ?_⟩
  · rw [hget, if_pos (by omega), Nat.add_sub_cancel_left]
    exact ⟨rfl, hcopy i (by omega)⟩
  · obtain ⟨ch, hch, hget'⟩ := foldlM_compactStep channels hlt (by omega) hi.le
    exact ⟨ch, hch, by rw [hget', if_neg (by omega)]⟩
  · -- on the first `2 * C0` slots alone the loop makes the same moves
    obtain ⟨out', hout', hget'⟩ :=
      foldlM_compactStep (channels.take (2 * C0)) hlt (by simp; omega) le_rfl
    rw [compactChannels, if_pos hlt, hout']
    congr 1
    apply List.ext_getElem? fun j => ?_
    simp only [hget', hget, List.getElem?_take]
    split_ifs <;> first | rfl | omega

theorem compactChannels_three_to_two :
    ∃ out, compactChannels [10, 11, 12, 10, 11, 12] 2 3 = some out ∧
      out = [10, 11, 10, 11, 11, 12] := by
  obtain ⟨out, h, -⟩ := compactChannels_spec [10, 11, 12, 10, 11, 12] 2 3 6 (by decide)
    (by decide) rfl (by decide)
  refine ⟨out, h, Option.some.inj (h.symm.trans ?_)⟩
  decide

/-! ## The NICs the ring uses -/

/-- The inner step of lines 1015-1022 for one entry `x` of `ringGraph.inter`: search
`nets[0, nNets)` for it, and append it when it is not there. -/
def addNet (st : Nat × List Int) (x : Int) : Option (Nat × List Int) := do
  let k ← firstIndex st.2 x st.1
  if k ≥ st.1 then
    let nets ← store st.2 st.1 x
    return (st.1 + 1, nets)
  else return st

/-- Lines 1010-1024: count the NICs the ring uses into `nets[MAXCHANNELS*2]`, whatever it
held. The loop condition `comm->topo->nodes[GPU].count != comm->topo->nRanks` does not
change across iterations, so the loop runs in full or not at all. -/
def countNets (gpuCount nRanks : Int) (nChannels : Nat) (inter nets : List Int) :
    Option (Nat × List Int) :=
  if gpuCount ≠ nRanks then
    (List.range nChannels).foldlM
      (fun st i => [0, 1].foldlM (fun st j => do addNet st (← inter[i * 2 + j]?)) st) (0, nets)
  else some (0, nets)

/-- One value more: `nets[0, nNets)` stays the distinct values so far in order of first
occurrence, and the store is inside `nets` when it has room for every value seen. -/
theorem addNet_spec {l nets : List Int} {nNets : Nat} (x : Int)
    (htake : nets.take nNets = firstOccurrences l) (hn : nNets = (firstOccurrences l).length)
    (hroom : l.length < nets.length) :
    ∃ st, addNet (nNets, nets) x = some st ∧ st.2.length = nets.length ∧
      st.1 = (firstOccurrences (l ++ [x])).length ∧ st.2.take st.1 = firstOccurrences (l ++ [x]) := by
  have hle := length_firstOccurrences_le l
  have hfind : firstIndex nets x nNets = some ((firstOccurrences l).indexOf x) := by
    rw [firstIndex_eq _ _ _ (by omega), htake]
  rw [firstOccurrences_append_singleton]
  by_cases hx : x ∈ l
  · have hlt : (firstOccurrences l).indexOf x < nNets :=
      hn ▸ List.indexOf_lt_length.mpr (mem_firstOccurrences.mpr hx)
    exact ⟨(nNets, nets), by simp [addNet, hfind, hlt], rfl, by simp [hx, hn], by simp [hx, htake]⟩
  · have heq : (firstOccurrences l).indexOf x = nNets :=
      hn ▸ List.indexOf_eq_length.mpr (mt mem_firstOccurrences.mp hx)
    refine ⟨(nNets + 1, nets.set nNets x), by simp [addNet, hfind, heq, store_of_lt _
      (by omega : nNets < nets.length)], by simp, by simp [hx, hn], ?_⟩
    rw [if_neg hx, List.take_succ, List.set_take, List.set_eq_of_length_le (by simp),
      List.getElem?_set_self (by omega), htake]
    rfl

theorem countNets_spec (maxChannels : Nat) (gpuCount nRanks : Int) (nChannels : Nat)
    (inter nets : List Int) (hch : nChannels ≤ maxChannels / 2)
    (hinter : inter.length = maxChannels * 2) (hnets : nets.length = maxChannels * 2) :
    ∃ nNets nets', countNets gpuCount nRanks nChannels inter nets = some (nNets, nets') ∧
      nets'.length = maxChannels * 2 ∧
      (gpuCount ≠ nRanks → nets'.take nNets = firstOccurrences (inter.take (2 * nChannels))) ∧
      (gpuCount = nRanks → nNets = 0) ∧
      nNets ≤ 2 * nChannels ∧ 2 * nChannels ≤ maxChannels := by
  by_cases hg : gpuCount = nRanks
  · exact ⟨0, nets, by simp [countNets, hg], hnets, fun h => absurd hg h, fun _ => rfl,
      Nat.zero_le _, by omega⟩
  obtain ⟨⟨nNets, nets'⟩, hrun, hlen, hn, htake⟩ := foldlM_range_invariant
    (fun i (st : Nat × List Int) => st.2.length = maxChannels * 2 ∧
      st.1 = (firstOccurrences (inter.take (2 * i))).length ∧
      st.2.take st.1 = firstOccurrences (inter.take (2 * i)))
    (fun st i => [0, 1].foldlM (fun st j => do addNet st (← inter[i * 2 + j]?)) st) (0, nets)
    nChannels ⟨hnets, by simp [firstOccurrences], by simp [firstOccurrences]⟩
    fun i ⟨nNets, nets⟩ hi ⟨hlen, hn, htake⟩ => by
      dsimp only at hlen hn htake
      have h0 : i * 2 < inter.length := by omega
      have h1 : i * 2 + 1 < inter.length := by omega
      have ht0 : inter.take (2 * i) ++ [inter[i * 2]] = inter.take (i * 2 + 1) := by
        rw [Nat.mul_comm]; exact List.take_concat_get' inter _ h0
      have ht1 : inter.take (i * 2 + 1) ++ [inter[i * 2 + 1]] = inter.take (2 * (i + 1)) := by
        rw [show 2 * (i + 1) = i * 2 + 1 + 1 by omega]; exact List.take_concat_get' inter _ h1
      obtain ⟨st, hst, hlen', hn', htake'⟩ :=
        addNet_spec inter[i * 2] htake hn (by simp; omega)
      rw [ht0] at hn' htake'
      obtain ⟨st', hst', hlen'', hn'', htake''⟩ :=
        addNet_spec inter[i * 2 + 1] htake' hn' (by simp; omega)
      rw [ht1] at hn'' htake''
      refine ⟨st', ?_, hlen''.trans (hlen'.trans hlen), hn'', htake''⟩
      simp [List.getElem?_eq_getElem h0, List.getElem?_eq_getElem h1, hst, hst']
  have hbound : nNets ≤ 2 * nChannels := by
    have := length_firstOccurrences_le (inter.take (2 * nChannels))
    simp only [List.length_take] at this
    omega
  exact ⟨nNets, nets', by simpa [countNets, hg] using hrun, hlen, fun _ => htake,
    fun h => absurd h hg, hbound, by omega⟩

theorem countNets_three_nics :
    ∃ nNets nets', countNets 8 4 2 [5, 7, 5, 9, 0, 0, 0, 0] [3, 3, 3, 3, 3, 3, 3, 3] =
      some (nNets, nets') ∧ nets'.take nNets = [5, 7, 9] := by
  obtain ⟨nNets, nets', h, -, htake, -⟩ := countNets_spec 4 8 4 2 [5, 7, 5, 9, 0, 0, 0, 0]
    [3, 3, 3, 3, 3, 3, 3, 3] (by decide) rfl rfl
  exact ⟨nNets, nets', h, (htake (by decide)).trans (by decide)⟩

end RcclInit
