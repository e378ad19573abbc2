import RcclInit.InitTransports

/-!
# The client, with `initTransportsRank` on the heap

`Client.lean` follows a client across calls of the API, with `ncclCommInitRankSync` taking the
rest of `initTransportsRank` by its result. Here the client's `ncclCommInitRankSync` runs
`initTransportsRank` on the heap (`Transports.ncclCommInitRankSync`), so each communicator it
returns also owns `comm->peerInfo`, its `CliqueManager` and the five shared blocks
`ncclCommSetIntra` allocates, and a failed initialization leaves behind the arrays
`initTransportsRank` did not free.

The discipline is that of `Client.lean` with one more condition: `ncclCommInitRankSync` is made
for the intraRank-0 member of its process. Another member's communicator holds the
intraRank-0 member's shared blocks, which only the last rank of the process to be destroyed
frees, so two held communicators would share blocks; a client of one thread makes no group.

**One call.** Whatever its calls return, `ncclCommInitRankSync` with `*newcomm` `NULL` frees
nothing and writes no block it found, and on success its new communicator owns new blocks
(`Transports.ncclCommInitRankSync_spec`, from `commAlloc_run_succeed` and
`initTransportsRankHeap_spec`). It therefore keeps the client's invariant `ApiInv` by the same
rule as the abstract call (`ApiInv.initRankSync`); every other call is the one of `ApiCall`.

**Whole runs.** A run of admitted calls is defined at every step, and at its end every held
communicator owns its blocks, none shared (`runTransportCalls_defined`). So the discipline of
`Client.lean` still rules out undefined behaviour when the blocks of `initTransportsRank` are on
the heap.
-/

set_option autoImplicit false

namespace RcclInit

open NcclResult

/-! ## One `ncclCommInitRankSync` -/

/-- Whatever its calls return, `ncclCommInitRankSync` with `initTransportsRank` on the heap,
`*newcomm` `NULL` and the intraRank-0 member is defined, frees nothing and writes no block it
found; when it succeeds, `*newcomm` is a new communicator in block `s.heap.next` that owns its
blocks, all of them new. -/
theorem Transports.ncclCommInitRankSync_spec (calls : SyncCalls) (tcalls : TransportCalls)
    (gathered : List AllGather1Data) (nranks myrank cudaDev : Int) (s : Proc)
    (hk : intraRankOf gathered myrank.toNat = 0) :
    ∃ res out s', (Transports.ncclCommInitRankSync calls tcalls gathered 0 nranks myrank
        cudaDev).run s = .ok ((res, out), s') ∧
      s.heap.next ≤ s'.heap.next ∧ s.heap.live ⊆ s'.heap.live ∧
      (∀ q < s.heap.next, s'.comm q = s.comm q) ∧
      (res = ncclSuccess → out = s.heap.next ∧ Owns s' out ∧
        ∀ x ∈ s'.blocks out, x = 0 ∨ s.heap.next ≤ x) := by
  cases hset : calls.hipSetDevice
  · exact ⟨_, _, s, ncclCommInitRankSyncWith_run_setDevice_failure _ _ _ _ _ _ hset, le_rfl,
      subset_rfl, fun _ _ => rfl, fun h => nomatch h⟩
  have hpost := commAlloc_allocPost (E := fun _ => False) calls.alloc nranks myrank
    { s with device := cudaDev } _ (Grown.refl _)
  revert hpost
  rcases hrun : (commAlloc calls.alloc nranks myrank).run { s with device := cudaDev } with
    e | ⟨⟨r, o⟩, s1⟩
  · exact False.elim
  rintro ⟨⟨hle, hlive, hframe, -⟩, hout, -, hok⟩
  dsimp only at hle hlive hframe hout hok
  by_cases hr : r = ncclSuccess
  swap
  · -- `commAlloc` failed and left `*newcomm` `NULL`
    refine ⟨_, 0, s1, ?_, hle, fun q hq => hlive ▸ Finset.mem_union_left _ hq, hframe,
      fun h => absurd h hr⟩
    rw [Transports.ncclCommInitRankSync,
      ncclCommInitRankSyncWith_run_alloc_failure _ _ _ _ _ _ hset hrun hr, hout.mpr hr]
    rfl
  -- every call of `commAlloc` succeeded: its communicator is block `s.heap.next`
  obtain ⟨hndev, hrank, doneEvent, busId, hcalls⟩ := hok hr
  obtain ⟨s1', hrun1, hlive1, hnext1, hcomm1, -, hframe1⟩ :=
    commAlloc_run_succeed calls.alloc hndev hrank hcalls { s with device := cudaDev }
  obtain ⟨⟨rfl, rfl⟩, rfl⟩ := Prod.mk.inj (Except.ok.inj (hrun.symm.trans hrun1))
  dsimp only at hlive1 hnext1 hcomm1 hframe1
  have hblocks : ∀ k < 6, s.heap.next + k ∈ s1.heap.live := fun k hk => by
    rw [hlive1]; exact Finset.mem_union_right _ (Finset.mem_Ico.mpr ⟨by omega, by omega⟩)
  have hsub1 : s.heap.live ⊆ s1.heap.live := by rw [hlive1]; exact Finset.subset_union_left
  have hp : s.heap.next ∈ s1.heap.live := hblocks 0 (by omega)
  obtain ⟨r2, s2, hrun2, hle2, hsub2, -, hframe2, hbootok, hbootfail, hok2⟩ :=
    initTransportsRankHeap_spec tcalls gathered myrank.toNat s.heap.next hp (Or.inl hk)
  have hframe' : ∀ q < s.heap.next, s2.comm q = s.comm q := fun q hq =>
    (hframe2 q (by omega) (by omega)).trans (hframe1 q hq)
  rw [Transports.ncclCommInitRankSync, ncclCommInitRankSyncWith_run_alloc _ _ _ _ _ _ hset hrun hrun2]
  split_ifs with hff
  · -- every call succeeded: the communicator owns the blocks of `initTransportsRank` too
    obtain ⟨hlive2, hnext2, hcomm2⟩ :=
      hok2 ((firstFailure_eq_success_iff _).1 hff _ (List.mem_cons_self _ _))
    rw [hk, if_pos rfl, hnext1] at hnext2
    rw [hnext2, hnext1] at hlive2
    have hcomm2' : s2.comm s.heap.next = initializedComm s.heap.next (s.heap.next + 6) nranks
        myrank (calls.alloc.getDevice.getD 0) busId doneEvent
        (launchModeOf (tcalls.intraEnv gathered myrank.toNat)) := by
      rw [hcomm2, hcomm1, hnext1]
      simp only [hk, if_true]
      rfl
    refine ⟨_, _, s2, rfl, by omega, hsub1.trans hsub2, hframe', fun _ => ⟨rfl,
      owns_initializedComm hcomm2' le_rfl (fun k hk => hsub2 (hblocks k hk)) fun k hk => ?_,
      fun x hx => ?_⟩⟩
    · rw [hlive2]
      simp only [Finset.mem_union, Finset.mem_insert, Finset.mem_singleton, Finset.mem_Ico]
      omega
    · simp only [Proc.blocks, hcomm2', released_initializedComm, if_true, List.cons_append,
        List.nil_append, List.mem_cons, List.not_mem_nil, or_false] at hx
      omega
  · -- the cleanup aborts the bootstrap state, a block `initTransportsRank` allocated
    have hb : (s2.comm s.heap.next).bootstrap = 0 ∨ (s2.comm s.heap.next).bootstrap = s1.heap.next ∧
        (s2.comm s.heap.next).bootstrap ∈ s2.heap.live := by
      by_cases hboot : tcalls.bootstrapInit = ncclSuccess
      · obtain ⟨hb, hbc⟩ := hbootok hboot
        exact Or.inr ⟨hbc, hbc ▸ hb⟩
      · obtain ⟨-, rfl⟩ := hbootfail hboot
        exact Or.inl (by rw [hcomm1]; rfl)
    rw [initRankSyncCleanup_run_live _ _ (hsub2 hp) (hb.imp_right And.right)]
    refine ⟨_, 0, _, rfl, ?_, fun q hq => ?_, fun q hq => ?_, fun h => absurd h hff⟩ <;>
      split_ifs with habort
    · simpa using hle2.trans' (by omega)
    · omega
    · rcases hb with hb | ⟨hb, -⟩
      · exact absurd hb habort.1
      · have := (s.heap.bounded q hq).2
        exact Finset.mem_erase.2 ⟨by omega, hsub2 (hsub1 hq)⟩
    · exact hsub2 (hsub1 hq)
    · exact hframe' q hq
    · exact hframe' q hq

/-- `ncclCommInitRankSync` with `initTransportsRank` on the heap, on the intraRank-0 member,
when every call succeeds: `*newcomm` is block `s.heap.next`. -/
theorem Transports.ncclCommInitRankSync_run_succeed (calls : SyncCalls) (tcalls : TransportCalls)
    (gathered : List AllGather1Data) (newcomm : Nat) {nranks myrank cudaDev : Int}
    {doneEvent : Nat} {busId : Int} (s : Proc) (hset : calls.hipSetDevice = true)
    (hnranks : 1 ≤ nranks) (hrank : 0 ≤ myrank ∧ myrank < nranks)
    (halloc : calls.alloc.Succeed doneEvent busId) (hboot : tcalls.bootstrapInit = ncclSuccess)
    (hag1 : tcalls.calloc .allGather1Data = ncclSuccess)
    (hearly : firstFailure (tcalls.early gathered myrank.toNat) = ncclSuccess)
    (hconnect : tcalls.connect = ncclSuccess) (hk : intraRankOf gathered myrank.toNat = 0)
    (hlate : firstFailure (tcalls.late gathered myrank.toNat) = ncclSuccess)
    (hdc : calls.devCommSetup = ncclSuccess) :
    ∃ s', (Transports.ncclCommInitRankSync calls tcalls gathered newcomm nranks myrank
      cudaDev).run s = .ok ((ncclSuccess, s.heap.next), s') := by
  obtain ⟨s1, hrun1, hlive1, -⟩ :=
    commAlloc_run_succeed calls.alloc hnranks hrank halloc { s with device := cudaDev }
  have hp : s.heap.next ∈ s1.heap.live := by
    rw [hlive1]; exact Finset.mem_union_right _ (Finset.mem_Ico.mpr ⟨le_rfl, by simp⟩)
  obtain ⟨s2, hrun2, -⟩ := initTransportsRankHeap_run_late tcalls gathered myrank.toNat
    s.heap.next hp hboot hag1 hearly (Or.inl hk)
  rw [hconnect, firstFailure_cons_success, hlate] at hrun2
  refine ⟨s2, ?_⟩
  rw [Transports.ncclCommInitRankSync, ncclCommInitRankSyncWith_run_alloc _ _ _ _ _ _ hset hrun1 hrun2,
    hdc, firstFailure_cons_success, firstFailure_singleton, if_pos rfl]
  rfl

/-! ## The client -/

/-- A call of the communicator API in which `ncclCommInitRankSync` runs `initTransportsRank` on
the heap, for rank `myrank` of the gathered array `gathered`; the other calls are those of
`ApiCall`. -/
inductive TransportCall where
  | commInitRankSync (calls : SyncCalls) (tcalls : TransportCalls) (gathered : List AllGather1Data)
      (newcomm : Nat) (nranks myrank cudaDev : Int)
  | other (call : ApiCall)

/-- One call: the communicator a successful `ncclCommInitRankSync` returns is held from then
on; any other call is run as in `ApiCall.run`. -/
def TransportCall.run : TransportCall → Client → Except Stuck Client
  | .commInitRankSync calls tcalls gathered newcomm nranks myrank cudaDev, c => do
    let ((res, out), proc) ← (Transports.ncclCommInitRankSync calls tcalls gathered newcomm nranks
      myrank cudaDev).run c.proc
    return ⟨proc, if res = ncclSuccess then insert out c.held else c.held⟩
  | .other call, c => call.run c

/-- The calls one after another, until one is undefined. -/
def runTransportCalls : List TransportCall → Client → Except Stuck Client
  | [], c => pure c
  | call :: calls, c => call.run c >>= runTransportCalls calls

/-- The discipline of `Client.Admits`, with `ncclCommInitRankSync` made for the intraRank-0
member of its process. -/
def Client.AdmitsTransport (c : Client) : TransportCall → Prop
  | .commInitRankSync _ _ gathered newcomm _ myrank _ =>
    newcomm = 0 ∧ intraRankOf gathered myrank.toNat = 0
  | .other call => c.Admits call

/-- Each of `calls` is admitted by the client it finds. -/
def TransportAdmitsAll : List TransportCall → Client → Prop
  | [], _ => True
  | call :: calls, c => c.AdmitsTransport call ∧
      ∀ c', call.run c = .ok c' → TransportAdmitsAll calls c'

/-- **One call.** An admitted call is defined, whatever the calls it makes return, and keeps
the invariant. -/
theorem ApiInv.transportStep {c : Client} (hinv : ApiInv c) {call : TransportCall}
    (hadm : c.AdmitsTransport call) :
    ∃ c', call.run c = .ok c' ∧ ApiInv c' ∧ c.Follows c' := by
  cases call with
  | other call => exact hinv.step hadm
  | commInitRankSync calls tcalls gathered newcomm nranks myrank cudaDev =>
    obtain ⟨s, held⟩ := c
    obtain ⟨rfl, hk⟩ := hadm
    obtain ⟨res, out, s', hrun, hle, hsub, hframe, hok⟩ :=
      Transports.ncclCommInitRankSync_spec calls tcalls gathered nranks myrank cudaDev s hk
    exact ⟨_, by simp only [TransportCall.run, hrun]; rfl, hinv.initRankSync hle hsub hframe hok⟩

/-- **Whole runs.** With `initTransportsRank` on the heap, a run of calls each admitted by the
client it finds (`ncclCommInitRankSync` with `*newcomm` `NULL` on the intraRank-0 member, every
other call through `NULL` or a held communicator) is defined, whatever the calls it makes
return. At its end every communicator the client holds is live, owns its blocks,
`comm->peerInfo`, the `CliqueManager` and the shared blocks among them, and shares none with
another; one held at the end and not at the start is new; and one held at both ends has the
contents it had at the start. -/
theorem runTransportCalls_defined (calls : List TransportCall) {c : Client} (hinv : ApiInv c)
    (hadm : TransportAdmitsAll calls c) :
    ∃ c', runTransportCalls calls c = .ok c' ∧ ApiInv c' ∧ c.Follows c' := by
  induction calls generalizing c with
  | nil => exact ⟨c, rfl, hinv, .refl c⟩
  | cons call calls ih =>
    obtain ⟨c1, hrun, hinv1, hfollow1⟩ := hinv.transportStep hadm.1
    obtain ⟨c2, hrun2, hinv2, hfollow2⟩ := ih hinv1 (hadm.2 c1 hrun)
    exact ⟨c2, by simp only [runTransportCalls, hrun]; exact hrun2, hinv2, hfollow1.trans hinv hfollow2⟩

theorem runTransportCalls_defined_init_count_destroy :
    ApiInv Client.init ∧
      TransportAdmitsAll [.commInitRankSync SyncCalls.allOk TransportCalls.allOk singleRankArray 0
        1 0 0, .other (.commCount 1 8), .other (.commDestroy 0 DestroyCalls.allOk 1)] Client.init ∧
      ∃ c', runTransportCalls [.commInitRankSync SyncCalls.allOk TransportCalls.allOk
        singleRankArray 0 1 0 0, .other (.commCount 1 8),
        .other (.commDestroy 0 DestroyCalls.allOk 1)] Client.init = .ok c' ∧ ApiInv c' ∧
        Client.init.Follows c' := by
  obtain ⟨s1, hs1⟩ := @Transports.ncclCommInitRankSync_run_succeed SyncCalls.allOk
    TransportCalls.allOk singleRankArray 0 1 0 0 1 0 Proc.init rfl (by decide) (by decide)
    ⟨rfl, fun _ => rfl, rfl⟩ rfl rfl (by decide) rfl (by decide) (by decide) rfl
  have hadm : TransportAdmitsAll [.commInitRankSync SyncCalls.allOk TransportCalls.allOk
      singleRankArray 0 1 0 0, .other (.commCount 1 8),
      .other (.commDestroy 0 DestroyCalls.allOk 1)] Client.init := by
    refine ⟨⟨rfl, by decide⟩, fun c1 h1 => ?_⟩
    simp [TransportCall.run, Client.init, hs1] at h1
    subst h1
    refine ⟨Or.inr (Finset.mem_singleton_self _), fun c2 h2 => ⟨Or.inr ?_, fun _ _ => trivial⟩⟩
    rw [Client.keep_held h2]
    exact Finset.mem_singleton_self _
  exact ⟨apiInv_init, hadm, runTransportCalls_defined _ apiInv_init hadm⟩

end RcclInit
