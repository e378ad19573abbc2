import RcclInit.Returns
import RcclInit.CollNet

/-!
# Where `initTransportsRank` leaves the thread's CPU affinity

Line 1066 saves the calling thread's affinity and `ncclTopoSetAffinity` pins it to the CPUs
near the GPU; the label `affinity_restore` at line 1133 puts the saved one back. The ring and
tree calls reach that label through `NCCLCHECKGOTO`, but every other call after the pin is
wrapped in `NCCLCHECK`, which returns from `initTransportsRank` at once.

* `initTransportsTail_returns`: from every state, a return of `ncclSuccess` restores the
  saved affinity and comes only after every call of the stretch succeeded, the CollNet
  phase's connects, setup and `calloc` included. The CollNet phase is passed over with
  `collNetPhase_returns`, which reads nothing of `collNetSetup` but its type.
* `initTransportsRank_error_keeps_local_affinity`: when `computeBuffSizes` fails the rank
  returns that error with the thread still pinned.
* `rankProg_collNet_disabled`: without the CollNet phase the rank's code makes no bootstrap
  call, and it returns the first failure among its calls with the thread still pinned
  exactly when that failure is not in the ring and tree connects (`returnsPinned`).
-/

set_option autoImplicit false

namespace RcclInit

open NcclResult

/-! ## What a successful CollNet phase has called -/

/-- Every call of the CollNet phase whose failure it passes on succeeded: both connects on
every logical channel, the CollNet `ncclTransportP2pSetup`, and the `calloc` of
`checkCollNetSetup`. -/
def collNetCallsSucceeded (r : RankInputs) : Prop :=
  (∀ c < r.nChannels / 2, r.calls.p2pConnectCollNet c 1 = ncclSuccess ∧
    r.calls.p2pConnectCollNet c 0 = ncclSuccess) ∧
  r.calls.p2pSetupCollNet = ncclSuccess ∧ r.calls.calloc .allGatherFailures = true

theorem checkCollNetSetup_success (r : RankInputs) (fail : Int) :
    Triple (fun _ => True) (checkCollNetSetup r fail) fun res _ =>
      res = ncclSuccess → r.calls.calloc .allGatherFailures = true := by
  unfold checkCollNetSetup
  split
  · exact triple_pure _ fun _ _ h => absurd h (by decide)
  · rename_i h
    exact (triple_const _ (Q := r.calls.calloc .allGatherFailures = true) fun _ _ => by
      simpa using h).mono (fun _ h => h) fun _ _ h _ => h

theorem collNetPhase_returns (r : RankInputs) :
    Triple (fun _ => True) (collNetPhase r) fun o _ =>
      (∀ e, o = some e → e ≠ ncclSuccess) ∧
      (o = none → collNetEnabled r = true → collNetCallsSucceeded r) := by
  unfold collNetPhase
  dsimp only
  split
  · rename_i hen
    refine triple_bind (fun b _ =>
        (b.fst = none ∧ ∀ c < r.nChannels / 2, r.calls.p2pConnectCollNet c 1 = ncclSuccess ∧
          r.calls.p2pConnectCollNet c 0 = ncclSuccess) ∨
        ∃ e, b.fst = some (some e) ∧ e ≠ ncclSuccess)
      ((triple_forIn (I := fun pre b _ => b.fst = none ∧ ∀ c ∈ pre,
          r.calls.p2pConnectCollNet c 1 = ncclSuccess ∧ r.calls.p2pConnectCollNet c 0 = ncclSuccess)
        _ _ (fun pre c suf b hxs => ?_) fun b _ h => Or.inl ⟨h.1, fun c hc => h.2 c (List.mem_range.mpr hc)⟩).mono
        (fun _ _ => ⟨rfl, by simp⟩) fun _ _ h => h) fun b => ?_
    · refine triple_of_imp fun ⟨hb, hpre⟩ => ?_
      repeat' first
        | exact triple_pure _ fun _ _ => by simp_all [or_imp, forall_and]
        | refine triple_ite (fun h => ?_) (fun h => ?_)
        | refine triple_bind_const _ fun _ => ?_
    · refine triple_of_imp fun hb => ?_
      split
      · rename_i hnone
        have hall := (hb.resolve_right fun ⟨e, he, _⟩ => by simp_all).2
        repeat' first
          | exact triple_pure _ fun _ hs => by simp_all [collNetCallsSucceeded]
          | refine triple_ite (fun h => ?_) (fun h => ?_)
          | refine triple_bind _ (checkCollNetSetup_success r _) fun _ => ?_
          | refine triple_bind_const _ fun _ => ?_
      · rename_i a hsome
        obtain ⟨e, he, hne⟩ := hb.resolve_left fun h => by simp_all
        obtain rfl : a = some e := Option.some.inj (hsome.symm.trans he)
        exact triple_pure _ fun _ _ => ⟨fun _ h => Option.some.inj h ▸ hne, fun h => nomatch h⟩
  · exact triple_pure _ fun _ _ => ⟨fun e h => (nomatch h), fun _ h => by simp_all⟩

/-! ## The stretch from the pin to the restore -/

/-- The calls of lines 1067-1133 whose failure `initTransportsRank` passes on, in the order it
makes them, leaving out the CollNet phase. -/
def tailCalls (r : RankInputs) : List NcclResult :=
  [r.calls.topoSetAffinity, r.calls.computeBuffSizes, connectRingsTrees r, r.calls.tuneModel,
    r.calls.computeP2pChannels, r.calls.commSetIntra] ++
  if r.nNodes ≠ 0 then [r.calls.proxyCreate] else []

theorem initTransportsTail_returns (r : RankInputs) (a : Nat) :
    Triple (·.affinity = a) (initTransportsTail r) fun res c =>
      res = ncclSuccess → c.affinity = a ∧ (∀ x ∈ tailCalls r, x = ncclSuccess) ∧
        (collNetEnabled r = true → collNetCallsSucceeded r) := by
  unfold initTransportsTail
  refine triple_bind (fun save _ => save.affinity = a) (triple_get fun _ h => h) fun save => ?_
  refine triple_of_imp fun hsave => ?_
  dsimp only
  refine triple_ite (fun htopo => triple_pure _ fun _ _ h => absurd h htopo) fun htopo => ?_
  refine triple_bind_const _ fun _ => ?_
  refine triple_bind_const _ fun _ => ?_
  refine triple_ite (fun hbuf => triple_pure _ fun _ _ h => absurd h hbuf) fun hbuf => ?_
  refine triple_bind_const _ fun _ => ?_
  refine triple_ite (fun hret => ?_) fun hret => ?_
  · refine triple_bind _ (collNetPhase_returns r) fun o => triple_of_imp fun ⟨hsome, hnone⟩ => ?_
    split
    · exact triple_pure _ fun _ _ h => absurd h (hsome _ rfl)
    rename_i hno
    have hcoll := hnone (Option.eq_none_iff_forall_not_mem.mpr hno)
    refine triple_bind_const _ fun _ => ?_
    refine triple_bind (fun b _ => (b.fst = none ∧ r.calls.tuneModel = ncclSuccess ∧
        r.calls.computeP2pChannels = ncclSuccess ∧ r.calls.commSetIntra = ncclSuccess) ∨
        ∃ e, b.fst = some e ∧ e ≠ ncclSuccess)
      ((triple_forIn (I := fun pre b _ => b.fst = none ∧ ∀ x ∈ pre, x = ncclSuccess) _ _
        (fun pre c suf b hxs => ?_) fun b _ h => Or.inl ⟨h.1, by simpa using h.2⟩).mono
        (fun _ _ => ⟨rfl, by simp⟩) fun _ _ h => h) fun b => triple_of_imp fun hb => ?_
    · refine triple_of_imp fun ⟨_, hpre⟩ => triple_ite
        (fun hc => triple_pure _ fun _ _ => Or.inr ⟨c, rfl, hc⟩) fun hc => ?_
      refine triple_bind_const _ fun _ => ?_
      exact triple_pure _ fun _ _ => ⟨rfl, fun x hx => (List.mem_append.mp hx).elim (hpre x)
        fun h => (List.mem_singleton.mp h).trans (not_not.mp hc)⟩
    split
    · rename_i hnone'
      obtain ⟨-, htune, hp2p, hintra⟩ := hb.resolve_right fun ⟨e, he, _⟩ => by simp_all
      refine triple_bind_const _ fun _ => ?_
      refine triple_ite (fun hproxy => triple_pure _ fun _ _ h => absurd h hproxy.2) fun hproxy => ?_
      refine triple_bind_const _ fun _ => ?_
      refine triple_bind (fun _ c => c.affinity = a) (triple_modify _ fun _ _ => hsave) fun _ => ?_
      refine triple_pure _ fun _ hc _ => ⟨hc, ?_, fun h => hcoll h⟩
      simp_all [tailCalls]
    · rename_i e' he'
      obtain ⟨e, he, hne⟩ := hb.resolve_left fun h => by simp_all
      exact triple_pure _ fun _ _ h => absurd (Option.some.inj (he'.symm.trans he) ▸ h) hne
  · refine triple_bind_const _ fun _ => ?_
    refine triple_bind_const _ fun _ => ?_
    exact triple_pure _ fun _ _ h => absurd h hret

theorem initTransportsRank_error_keeps_local_affinity (r : RankInputs) (affinity : Nat)
    (hset : r.calls.topoSetAffinity = ncclSuccess) (hbuf : r.calls.computeBuffSizes ≠ ncclSuccess) :
    rankProg r affinity =
      .ret (r.calls.computeBuffSizes, { RankComm.start affinity with affinity := r.localAffinity }) := by
  simp [rankProg, initTransportsTail, hset, hbuf]
  rfl

/-- `computeBuffSizes` fails on rank 0 of the two-node run; every other call succeeds. -/
def buffSizesFailure : RankInputs :=
  twoNodeRank 0 { okCalls 0 with computeBuffSizes := ncclSystemError } 1

theorem buffSizes_failure_leaves_pinned :
    buffSizesFailure.calls.topoSetAffinity = ncclSuccess ∧
      buffSizesFailure.calls.computeBuffSizes ≠ ncclSuccess ∧
      rankProg buffSizesFailure 5 = .ret (ncclSystemError, { RankComm.start 5 with affinity := 7 }) :=
  ⟨rfl, by decide, initTransportsRank_error_keeps_local_affinity _ 5 rfl (by decide)⟩

/-- The thread is still pinned when `initTransportsRank` returns: `ncclTopoSetAffinity`
succeeded and a later call failed, but not one of the ring and tree calls, whose
`NCCLCHECKGOTO`s reach `affinity_restore`. -/
def returnsPinned (r : RankInputs) : Prop :=
  r.calls.topoSetAffinity = ncclSuccess ∧ firstFailure (tailCalls r) ≠ ncclSuccess ∧
    (r.calls.computeBuffSizes ≠ ncclSuccess ∨ connectRingsTrees r = ncclSuccess)

instance (r : RankInputs) : Decidable (returnsPinned r) :=
  inferInstanceAs (Decidable (_ ∧ _))

theorem rankProg_collNet_disabled (r : RankInputs) (a : Nat) (h : collNetEnabled r = false) :
    rankProg r a = .ret (firstFailure (tailCalls r),
      { RankComm.start a with affinity := if returnsPinned r then r.localAffinity else a }) := by
  simp only [returnsPinned, tailCalls]
  -- one case per call, in source order: the first call that fails ends the run
  by_cases h1 : r.calls.topoSetAffinity = ncclSuccess
  swap
  · simp [rankProg, initTransportsTail, collNetPhase, firstFailure, *]; rfl
  by_cases h2 : r.calls.computeBuffSizes = ncclSuccess
  swap
  · simp [rankProg, initTransportsTail, collNetPhase, firstFailure, *]; rfl
  by_cases h3 : connectRingsTrees r = ncclSuccess
  swap
  · simp [rankProg, initTransportsTail, collNetPhase, firstFailure, *]; rfl
  by_cases h4 : r.calls.tuneModel = ncclSuccess
  swap
  · simp [rankProg, initTransportsTail, collNetPhase, firstFailure, *]; rfl
  by_cases h5 : r.calls.computeP2pChannels = ncclSuccess
  swap
  · simp [rankProg, initTransportsTail, collNetPhase, firstFailure, *]; rfl
  by_cases h6 : r.calls.commSetIntra = ncclSuccess
  swap
  · simp [rankProg, initTransportsTail, collNetPhase, firstFailure, *]; rfl
  by_cases h7 : r.nNodes ≠ 0 ∧ r.calls.proxyCreate ≠ ncclSuccess
  · simp [rankProg, initTransportsTail, collNetPhase, firstFailure, *]; rfl
  · have h8 : firstFailure (if r.nNodes = 0 then [] else [r.calls.proxyCreate]) = ncclSuccess := by
      split <;> simp_all [firstFailure]
    simp [rankProg, initTransportsTail, collNetPhase, firstFailure, *]
    rfl

/-- `ncclTopoTuneModel` fails on rank 0 of the two-node run, whose search found no CollNet
channel; every other call succeeds. -/
def tuningFailure : RankInputs :=
  twoNodeRank 0 { okCalls 0 with tuneModel := ncclInternalError } 0

theorem rankProg_collNet_disabled_tuning :
    collNetEnabled tuningFailure = false ∧
      rankProg tuningFailure 5 = .ret (firstFailure (tailCalls tuningFailure),
        { RankComm.start 5 with
          affinity := if returnsPinned tuningFailure then tuningFailure.localAffinity else 5 }) :=
  ⟨rfl, rankProg_collNet_disabled _ 5 rfl⟩

end RcclInit
