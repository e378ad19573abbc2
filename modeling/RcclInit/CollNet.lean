import RcclInit.Bootstrap

/-!
# `collNetSetup`, `checkCollNetSetup` and the end of `initTransportsRank`

From the saving of the CPU affinity to its return, `initTransportsRank` connects rings and
trees, then (the CollNet phase) tries to set up the collective network on every logical
channel and lets the ranks vote on the outcome, then tunes, sets up the intra-node state and
the proxy, and restores the affinity. `initTransportsTail` is that code on one rank, a
`RankM` program: it changes the rank's own `RankComm` and talks to the other ranks through
the bootstrap calls of `Prog`.

Everything this file does not define is an input of the rank (`RankInputs`): its graph
and parameters, and the outcome of every call (`RankCalls`), indexed by the channel or
logical channel and the side it is made for. `collNetSetup` returns `int`, yet it uses
`NCCLCHECK`, which returns the failing `ncclResult_t`: the model keeps that, so an error
reads as whatever number its code is.

The consolidation loop of `collNetSetup` is the pure `consolidate`; it stays inside
`masterConnects` exactly when at most `nMasters` entries are flagged, and it then copies their
handles in rank order and finds the caller's position (`consolidate_eq`).
`checkCollNetSetup`'s vote is `anyFailure`.

Four runs of two ranks on two nodes show where the CollNet phase breaks its contract:
* `collNetPhase_gate_mismatch_deadlock`: the two ranks' searches disagree on whether there is
  a CollNet channel. The gate of line 1093 reads that rank-local count, so rank 0 skips the
  phase and returns, while rank 1 enters `collNetSetup`'s AllGather and waits in it forever.
* `collNetSupport_despite_probe_error`: rank 0's send-side `canConnect` fails with
  `ncclUnhandledCudaError`. `NCCLCHECK` returns that code, `1`, from the `int` function
  `collNetSetup`, which the caller reads as "supported": the ranks vote no failure and both
  end with `collNetSupport = 1`.
* `exchange_left_unreceived` and `connect_with_uninitialised_handle`: rank 0's recv-side
  `canConnect` reports "unsupported". Rank 0 still publishes `isMaster = 1` with its
  never-written `myConnect`, so rank 1 calls `connect` on a table whose first handle is
  uninitialised; and rank 0 still sends its exchange to its send-side master, itself, but
  the `else if` of line 1108 skips its send side, so the message is never received.
-/

set_option autoImplicit false

namespace RcclInit

open NcclResult

/-! ## A rank's own state -/

/-- The send (`type` 0) or recv (`type` 1) connector of `channels[c].peers[nranks]`, the
collective-network root peer: whether its `transportComm` is set, and the
`transportResources` pointer (`0` is `NULL`). -/
structure Connector where
  transportComm : Bool
  transportResources : Nat
  deriving DecidableEq, Repr

/-- One call `transportComm->connect(comm, masterConnects, nMasters, rankInCollNet, conn)`:
the channel, the side, and the table and position it was given. -/
structure ConnectCall where
  channel : Nat
  type : Nat
  masterConnects : List (Option Nat)
  rankInCollNet : Int
  deriving DecidableEq, Repr

/-- The part of one rank's state that the end of `initTransportsRank` reads or writes. -/
structure RankComm where
  /-- `channels[c].peers[nranks]`'s connector of side `type`. -/
  collNetConn : Nat → Nat → Connector
  collNetSupport : Int
  /-- The calling thread's CPU affinity. -/
  affinity : Nat
  /-- The `connect` calls made so far, oldest first. -/
  connectCalls : List ConnectCall

/-- One rank's code after AllGather3. -/
abbrev RankM := StateT RankComm Prog

namespace RankComm

def setConn (c : RankComm) (ch type : Nat) (f : Connector → Connector) : RankComm :=
  let conns := Function.update (c.collNetConn ch) type (f (c.collNetConn ch type))
  { c with collNetConn := Function.update c.collNetConn ch conns }

end RankComm

/-! ## The bootstrap calls -/

def bootstrapAllGather (mine : Slot) : RankM (List Slot) :=
  StateT.lift (.allGather mine .ret)

/-- `bootstrapSend` to a rank given as an `int`; a negative one is undefined behaviour. -/
def bootstrapSend (peer : Int) (msg : Exchange) : RankM Unit :=
  StateT.lift (if peer < 0 then .ub else .send peer.toNat msg (.ret ()))

def bootstrapRecv (peer : Int) : RankM Exchange :=
  StateT.lift (if peer < 0 then .ub else .recv peer.toNat .ret)

def undefinedBehaviour {α : Type} : RankM α := StateT.lift .ub

/-! ## The inputs of a rank -/

/-- Where `ncclCalloc` is called in the CollNet phase. -/
inductive CallocSite where
  | masterConnects (c type : Nat)
  | allConnects (c : Nat)
  | allGatherFailures
  deriving DecidableEq, Repr

/-- What `collNetTransport.{send,recv}.setup` does: its result, the `transportResources` it
leaves in the connector, and the connect handle it writes into `myConnect`. -/
structure SetupResult where
  res : NcclResult
  resources : Nat
  connect : Nat
  deriving DecidableEq, Repr

/-- The outcomes of the calls the end of `initTransportsRank` makes and this file does not
define. The CollNet calls are indexed by logical channel and `type`, `free` by channel and
side, the connect calls of the ring and tree loops by channel. -/
structure RankCalls where
  topoSetAffinity : NcclResult
  computeBuffSizes : NcclResult
  /-- `initChannel`, the only call `setupChannel` makes. -/
  initChannel : Nat → NcclResult
  p2pConnectRing : Nat → NcclResult
  p2pSetupRing : NcclResult
  /-- The two `ncclTransportP2pConnect` calls of the tree loop, down-up first. -/
  p2pConnectTree : Nat → Nat → NcclResult
  p2pSetupTree : NcclResult
  /-- The two `ncclTransportP2pConnect` calls of the CollNet loop, recv channel (`1`) first. -/
  p2pConnectCollNet : Nat → Nat → NcclResult
  p2pSetupCollNet : NcclResult
  /-- `canConnect`: its `NCCLCHECK` failure, or the value it writes into `ret`. -/
  canConnect : Nat → Nat → Except NcclResult Int
  setup : Nat → Nat → SetupResult
  connect : Nat → Nat → NcclResult
  hipMemcpy : Nat → Nat → Bool
  calloc : CallocSite → Bool
  free : Nat → Nat → NcclResult
  tuneModel : NcclResult
  computeP2pChannels : NcclResult
  commSetIntra : NcclResult
  proxyCreate : NcclResult

/-- The fields of `collNetGraph` that the CollNet phase reads. -/
structure CollNetGraph where
  pattern : Int
  nChannels : Int
  intra : List Int
  deriving DecidableEq, Repr

/-- Everything one rank's `initTransportsTail` reads. -/
structure RankInputs where
  rank : Nat
  nranks : Nat
  nNodes : Nat
  /-- `comm->nChannels`, as the reconciliation left it. -/
  nChannels : Nat
  localRanks : Nat
  /-- `ncclParamCollNetEnable()`. -/
  collNetEnable : Int
  /-- `collNetSupport()`. -/
  collNetSupported : Bool
  collNetGraph : CollNetGraph
  /-- The affinity `ncclTopoSetAffinity` sets. -/
  localAffinity : Nat
  calls : RankCalls

/-- `NCCL_TOPO_PATTERN_TREE` of `graph.h`: send and receive on the same rank. -/
def ncclTopoPatternTree : Int := 3

/-! ## `collNetSetup` -/

/-- The handle of entry `r` of a gathered `allConnects` array, if it is flagged `isMaster`. -/
def masterConnect (allConnects : List Slot) (r : Nat) : Option (Option Nat) :=
  match allConnects.getD r (.failure 0) with
  | .connects isMaster connect => if isMaster ≠ 0 then some connect else none
  | .failure _ => none

/-- Lines 666-673: copy the handle of every entry flagged `isMaster`, in rank order, into
`masterConnects` at the next position `c`, and note the caller's position in
`rankInCollNet`; `none` when a copy falls outside the table. -/
def consolidate (allConnects : List Slot) (rank nranks : Nat)
    (masterConnects : List (Option Nat)) (rankInCollNet : Int) :
    Option (List (Option Nat) × Int × Nat) :=
  (List.range nranks).foldlM
    (fun (st : List (Option Nat) × Int × Nat) r =>
      match masterConnect allConnects r with
      | some connect =>
          (store st.1 st.2.2 connect).map fun mc =>
            (mc, if r = rank then (st.2.2 : Int) else st.2.1, st.2.2 + 1)
      | none => some st)
    (masterConnects, rankInCollNet, 0)

/-- The handles of the entries flagged `isMaster` among the first `i`, in rank order. -/
def mastersBelow (allConnects : List Slot) (i : Nat) : List (Option Nat) :=
  (List.range i).filterMap (masterConnect allConnects)

theorem mastersBelow_succ (allConnects : List Slot) (i : Nat) :
    mastersBelow allConnects (i + 1) =
      mastersBelow allConnects i ++ (masterConnect allConnects i).toList := by
  simp only [mastersBelow, List.range_succ, List.filterMap_append, List.filterMap_cons,
    List.filterMap_nil]
  cases masterConnect allConnects i <;> rfl

/-- Storing at the end of a prefix written over a table extends the prefix. -/
theorem set_append_drop {α : Type} (M xs : List α) (x : α) (h : M.length < xs.length) :
    (M ++ xs.drop M.length).set M.length x = M ++ [x] ++ xs.drop (M.length + 1) := by
  rw [List.set_append_right _ _ le_rfl, Nat.sub_self]
  obtain ⟨y, hy⟩ : ∃ y, xs.drop M.length = y :: xs.drop (M.length + 1) :=
    ⟨_, List.drop_eq_getElem_cons h⟩
  rw [hy]
  simp

/-- Entry `n` adds nothing to the caller's position unless it is the caller's flagged entry. -/
theorem lt_succ_and_master_iff {allConnects : List Slot} {rank n : Nat}
    (h : n = rank → masterConnect allConnects n = none) :
    (rank < n + 1 ∧ (masterConnect allConnects rank).isSome) ↔
      (rank < n ∧ (masterConnect allConnects rank).isSome) := by
  constructor
  · rintro ⟨h1, h2⟩
    refine ⟨Nat.lt_of_le_of_ne (Nat.le_of_lt_succ h1) fun he => ?_, h2⟩
    subst he; simp [h rfl] at h2
  · exact fun h' => ⟨Nat.lt_succ_of_lt h'.1, h'.2⟩

/-- **The consolidation loop.** It stays inside the table exactly when at most as many
entries are flagged as the table has elements; it then leaves the flagged handles at the
front in rank order, and `rankInCollNet` the caller's position among them, or as it was if
the caller is not flagged. -/
theorem consolidate_eq (allConnects : List Slot) (rank nranks : Nat) (mc : List (Option Nat))
    (ric : Int) :
    consolidate allConnects rank nranks mc ric =
      if (mastersBelow allConnects nranks).length ≤ mc.length then
        some (mastersBelow allConnects nranks ++ mc.drop (mastersBelow allConnects nranks).length,
          if rank < nranks ∧ (masterConnect allConnects rank).isSome then
            ((mastersBelow allConnects rank).length : Int) else ric,
          (mastersBelow allConnects nranks).length)
      else none := by
  induction nranks with
  | zero => simp [consolidate, mastersBelow]
  | succ n ih =>
      unfold consolidate at ih ⊢
      have hlen := mastersBelow_succ allConnects n
      rw [List.range_succ, List.foldlM_append, ih]
      by_cases hle : (mastersBelow allConnects n).length ≤ mc.length
      · rw [if_pos hle]
        simp only [Option.bind_eq_bind, Option.some_bind, List.foldlM_cons, List.foldlM_nil]
        cases hm : masterConnect allConnects n with
        | none => simp [hlen, hm, hle, lt_succ_and_master_iff fun _ => hm]
        | some conn =>
            have hlen' : (mastersBelow allConnects (n + 1)).length =
                (mastersBelow allConnects n).length + 1 := by
              rw [hlen, hm]; simp
            by_cases hlt : (mastersBelow allConnects n).length < mc.length
            · -- the copy lands inside the table
              rw [if_pos (by omega : (mastersBelow allConnects (n + 1)).length ≤ mc.length)]
              have hin : (mastersBelow allConnects n).length <
                  (mastersBelow allConnects n ++
                    mc.drop (mastersBelow allConnects n).length).length := by simp; omega
              simp only [hm, store_of_lt _ hin, Option.map_some', set_append_drop _ _ _ hlt,
                hlen', bind_pure]
              rw [hlen, hm]
              by_cases hr : n = rank
              · subst hr; simp [hm]
              · simp [hr, lt_succ_and_master_iff fun he => absurd he hr]
            · -- the table is full: the copy is out of bounds
              rw [if_neg (by omega : ¬(mastersBelow allConnects (n + 1)).length ≤ mc.length)]
              have hout : (mastersBelow allConnects n ++
                  mc.drop (mastersBelow allConnects n).length).length ≤
                  (mastersBelow allConnects n).length := by simp; omega
              simp [hm, store_of_le _ hout]
      · have hge : ¬(mastersBelow allConnects (n + 1)).length ≤ mc.length := by
          rw [hlen, List.length_append]; omega
        simp [hle, hge]

/-- `xs[i] = v` for an `int` index; a negative one is out of bounds. -/
def storeAt {α : Type} (xs : List α) (i : Int) (v : α) : Option (List α) :=
  if 0 ≤ i then store xs i.toNat v else none

/-- `collNetSetup(comm, &collNetGraph, channels + ch, rank, nranks, masterRank, masterPeer,
nMasters, type)` on logical channel `c`: `1` supported, `0` not, or the code an `NCCLCHECK`
returned. -/
def collNetSetup (r : RankInputs) (c ch : Nat) (masterRank masterPeer : Int) (type : Nat) :
    RankM Int := do
  let nMasters := r.nNodes
  let isMaster : Int := if (r.rank : Int) = masterRank then 1 else 0
  let mut ret : Int := 1
  if isMaster = 1 then
    match r.calls.canConnect c type with
    | .error e => return e.toInt
    | .ok v => ret := v
  let mut rankInCollNet : Int := -1
  let mut exchange : Option Exchange := none
  if isMaster = 1 ∧ type = 0 then
    let e ← bootstrapRecv masterPeer
    exchange := some e
    rankInCollNet := e.collNetRank
  modify fun comm => comm.setConn ch type fun conn => { conn with transportComm := true }
  let mut myConnect : Option Nat := none
  if isMaster = 1 ∧ 0 < ret then
    let st := r.calls.setup c type
    modify fun comm => comm.setConn ch type fun conn =>
      { conn with transportResources := st.resources }
    if st.res ≠ ncclSuccess then return st.res.toInt
    myConnect := some st.connect
  if !r.calls.calloc (.masterConnects c type) then return ncclSystemError.toInt
  let mut masterConnects : List (Option Nat) := List.replicate nMasters (some 0)
  if type = 1 then
    if !r.calls.calloc (.allConnects c) then return ncclSystemError.toInt
    let allConnects ← bootstrapAllGather (.connects isMaster myConnect)
    match consolidate allConnects r.rank r.nranks masterConnects rankInCollNet with
    | some st =>
        masterConnects := st.1
        rankInCollNet := st.2.1
    | none => undefinedBehaviour
  else if isMaster = 1 then
    match storeAt masterConnects rankInCollNet ((exchange.map (·.connect)).getD none) with
    | some mc => masterConnects := mc
    | none => undefinedBehaviour
  if isMaster = 1 ∧ 0 < ret then
    modify fun comm => { comm with
      connectCalls := comm.connectCalls ++ [⟨ch, type, masterConnects, rankInCollNet⟩] }
    if r.calls.connect c type ≠ ncclSuccess then return 0
    if !r.calls.hipMemcpy c type then return 0
  if isMaster = 1 ∧ type = 1 then
    if 0 ≤ rankInCollNet ∧ rankInCollNet.toNat < masterConnects.length then
      bootstrapSend masterPeer ⟨rankInCollNet, masterConnects.getD rankInCollNet.toNat none⟩
    else undefinedBehaviour
  return if 0 < ret then 1 else 0

/-! ## `checkCollNetSetup` -/

/-- Entry `i` of the gathered `allGatherFailures`. -/
def failureAt (allGatherFailures : List Slot) (i : Nat) : Int :=
  match allGatherFailures.getD i (.failure 0) with
  | .failure v => v
  | .connects _ _ => 0

/-- Lines 710-715: the vote; some rank reported a failure. -/
def anyFailure (allGatherFailures : List Slot) (nranks : Nat) : Bool :=
  (List.range nranks).any fun i => failureAt allGatherFailures i ≠ 0

/-- Lines 720-726 on channel `ch`: free each side's resources when they and its
`transportComm` are set, then null both pointers; the result of a failing `free`. -/
def freeCollNetChannel (r : RankInputs) (ch : Nat) : RankM (Option NcclResult) := do
  for type in [0, 1] do
    let conn := (← get).collNetConn ch type
    if conn.transportResources ≠ 0 ∧ conn.transportComm then
      let res := r.calls.free ch type
      if res ≠ ncclSuccess then return some res
  for type in [0, 1] do
    modify fun comm => comm.setConn ch type fun conn => { conn with transportResources := 0 }
  return none

/-- `checkCollNetSetup(comm, rank, collNetSetupFail)`. -/
def checkCollNetSetup (r : RankInputs) (collNetSetupFail : Int) : RankM NcclResult := do
  if !r.calls.calloc .allGatherFailures then return ncclSystemError
  let allGatherFailures ← bootstrapAllGather (.failure collNetSetupFail)
  let collNetSetupFail := if anyFailure allGatherFailures r.nranks then 1 else collNetSetupFail
  if collNetSetupFail ≠ 0 then
    for ch in List.range r.nChannels do
      if let some res ← freeCollNetChannel r ch then return res
    modify fun comm => { comm with collNetSupport := 0 }
  else
    modify fun comm => { comm with collNetSupport := 1 }
  return ncclSuccess

/-! ## The end of `initTransportsRank` -/

/-- The first failing result of calls made one after another, or `ncclSuccess`. -/
def firstFailure : List NcclResult → NcclResult
  | [] => ncclSuccess
  | res :: rest => if res ≠ ncclSuccess then res else firstFailure rest

@[simp] theorem firstFailure_cons_success (l : List NcclResult) :
    firstFailure (ncclSuccess :: l) = firstFailure l := rfl

theorem firstFailure_cons_of_ne {x : NcclResult} (h : x ≠ ncclSuccess) (l : List NcclResult) :
    firstFailure (x :: l) = x := if_pos h

@[simp] theorem firstFailure_singleton (x : NcclResult) : firstFailure [x] = x := by
  by_cases h : x = ncclSuccess
  · simp [h, firstFailure]
  · exact firstFailure_cons_of_ne h []

theorem firstFailure_append (l l' : List NcclResult) :
    firstFailure (l ++ l') =
      if firstFailure l = ncclSuccess then firstFailure l' else firstFailure l := by
  induction l with
  | nil => rfl
  | cons r l ih => by_cases hr : r = ncclSuccess <;> simp [firstFailure, hr, ih]

theorem firstFailure_eq_success_iff (l : List NcclResult) :
    firstFailure l = ncclSuccess ↔ ∀ r ∈ l, r = ncclSuccess := by
  induction l with
  | nil => simp [firstFailure]
  | cons r l ih => by_cases hr : r = ncclSuccess <;> simp [firstFailure, hr, ih]

/-- Lines 1072-1090: the ring and tree loops, whose `NCCLCHECKGOTO`s leave `ret` at the first
failure. -/
def connectRingsTrees (r : RankInputs) : NcclResult :=
  firstFailure <|
    ((List.range r.nChannels).flatMap fun c =>
      r.calls.initChannel c :: if r.nranks = 1 then [] else [r.calls.p2pConnectRing c]) ++
    [r.calls.p2pSetupRing] ++
    ((List.range r.nChannels).flatMap fun c =>
      if r.nranks = 1 then [] else [r.calls.p2pConnectTree c 0, r.calls.p2pConnectTree c 1]) ++
    [r.calls.p2pSetupTree]

/-- Whether the CollNet phase runs, lines 1093-1095. -/
def collNetEnabled (r : RankInputs) : Bool :=
  1 < r.nNodes ∧ r.collNetEnable = 1 ∧ r.collNetSupported ∧ r.collNetGraph.nChannels ≠ 0

/-- Lines 1093-1115, the CollNet phase: `some e` when an `NCCLCHECK` in it returns `e` from
`initTransportsRank`. -/
def collNetPhase (r : RankInputs) : RankM (Option NcclResult) := do
  if collNetEnabled r then
    let logicChannels := r.nChannels / 2
    let sendIndex := if r.collNetGraph.pattern = ncclTopoPatternTree then 0 else 1
    let mut collNetSetupFail : Int := 0
    for c in List.range logicChannels do
      if r.calls.p2pConnectCollNet c 1 ≠ ncclSuccess then return some (r.calls.p2pConnectCollNet c 1)
      if r.calls.p2pConnectCollNet c 0 ≠ ncclSuccess then return some (r.calls.p2pConnectCollNet c 0)
      let recvMaster := r.collNetGraph.intra.getD (c * r.localRanks) 0
      let sendMaster := r.collNetGraph.intra.getD (c * r.localRanks + sendIndex) 0
      if (← collNetSetup r c (logicChannels + c) recvMaster sendMaster 1) ≠ 1 then
        collNetSetupFail := 1
      else if (← collNetSetup r c c sendMaster recvMaster 0) ≠ 1 then
        collNetSetupFail := 1
    if r.calls.p2pSetupCollNet ≠ ncclSuccess then return some r.calls.p2pSetupCollNet
    let res ← checkCollNetSetup r collNetSetupFail
    if res ≠ ncclSuccess then return some res
  return none

/-- Lines 1063-1136: from saving the affinity to the return of `initTransportsRank`. -/
def initTransportsTail (r : RankInputs) : RankM NcclResult := do
  let affinitySave := (← get).affinity
  if r.calls.topoSetAffinity ≠ ncclSuccess then return r.calls.topoSetAffinity
  modify fun comm => { comm with affinity := r.localAffinity }
  if r.calls.computeBuffSizes ≠ ncclSuccess then return r.calls.computeBuffSizes
  let ret := connectRingsTrees r
  if ret = ncclSuccess then
    if let some res ← collNetPhase r then return res
    for res in [r.calls.tuneModel, r.calls.computeP2pChannels, r.calls.commSetIntra] do
      if res ≠ ncclSuccess then return res
    if r.nNodes ≠ 0 ∧ r.calls.proxyCreate ≠ ncclSuccess then return r.calls.proxyCreate
  modify fun comm => { comm with affinity := affinitySave }
  return ret

/-- A rank's state when it reaches line 1063: no CollNet connector set up, and the caller's
affinity. -/
def RankComm.start (affinity : Nat) : RankComm := ⟨fun _ _ => ⟨false, 0⟩, 0, affinity, []⟩

/-- The rank's program from line 1063, with what it returns and its state at the end. -/
def rankProg (r : RankInputs) (affinity : Nat) : Prog (NcclResult × RankComm) :=
  (initTransportsTail r).run (RankComm.start affinity)

/-! ## Two ranks on two nodes

Four runs of `initTransportsTail` on two ranks, one per node, with two channels (so one
logical channel), the collective network enabled and a tree pattern, so that each rank is both
the recv-side and the send-side master of its node. Every external call succeeds except the
one each scenario names; `Sys.run` evaluates each run, and `Sys.run_reachable` makes its final
state a reachable state of the system. -/

/-- Every call succeeds; `setup` leaves resources and writes a handle that name the rank,
the logical channel and the side. -/
def okCalls (rank : Nat) : RankCalls where
  topoSetAffinity := ncclSuccess
  computeBuffSizes := ncclSuccess
  initChannel _ := ncclSuccess
  p2pConnectRing _ := ncclSuccess
  p2pSetupRing := ncclSuccess
  p2pConnectTree _ _ := ncclSuccess
  p2pSetupTree := ncclSuccess
  p2pConnectCollNet _ _ := ncclSuccess
  p2pSetupCollNet := ncclSuccess
  canConnect _ _ := .ok 1
  setup c type := ⟨ncclSuccess, 100 + 10 * rank + 2 * c + type, 10 * (rank + 1) + type⟩
  connect _ _ := ncclSuccess
  hipMemcpy _ _ := true
  calloc _ := true
  free _ _ := ncclSuccess
  tuneModel := ncclSuccess
  computeP2pChannels := ncclSuccess
  commSetIntra := ncclSuccess
  proxyCreate := ncclSuccess

/-- Rank `rank` of two, one per node, with two channels, the collective network enabled and
a tree pattern whose only rank is itself; its search found `collNetChannels` channels. -/
def twoNodeRank (rank : Nat) (calls : RankCalls) (collNetChannels : Int) : RankInputs where
  rank := rank
  nranks := 2
  nNodes := 2
  nChannels := 2
  localRanks := 1
  collNetEnable := 1
  collNetSupported := true
  collNetGraph := ⟨ncclTopoPatternTree, collNetChannels, [rank]⟩
  localAffinity := 7
  calls := calls

/-- The two ranks at line 1063, each called with affinity `5`. -/
def twoNodeStart (inputs : Nat → RankInputs) : Sys (NcclResult × RankComm) :=
  Sys.start fun i => rankProg (inputs i) 5

/-- The scheduler's run of the two ranks, long enough to reach its end. -/
def twoNodeRun (inputs : Nat → RankInputs) : Sys (NcclResult × RankComm) :=
  (twoNodeStart inputs).run 2 40

/-- What rank `i` returned, and its `collNetSupport`, if it has returned. -/
def returned (s : Sys (NcclResult × RankComm)) (i : Nat) : Option (NcclResult × Int) :=
  ((s.prog i).result?).map fun r => (r.1, r.2.collNetSupport)

/-! ## The gate is rank-local -/

/-- Rank 0's search found no CollNet channel, rank 1's found one. -/
def gateMismatch (i : Nat) : RankInputs := twoNodeRank i (okCalls i) (if i = 0 then 0 else 1)

/-- **The ranks disagree on whether the CollNet phase runs.** Rank 0 returns `ncclSuccess`
from `initTransportsRank` having completed no AllGather after AllGather3, while rank 1 has
issued the recv-side AllGather of `collNetSetup`; no run from there ever moves rank 1. -/
theorem collNetPhase_gate_mismatch_deadlock :
    Relation.ReflTransGen (Step 2) (twoNodeStart gateMismatch) (twoNodeRun gateMismatch) ∧
      returned (twoNodeRun gateMismatch) 0 = some (ncclSuccess, 0) ∧
      (twoNodeRun gateMismatch).rounds 0 = [] ∧
      ((twoNodeRun gateMismatch).prog 1).slot.map Slot.kind = some .connects ∧
      ∀ s', Relation.ReflTransGen (Step 2) (twoNodeRun gateMismatch) s' →
        s'.prog 1 = (twoNodeRun gateMismatch).prog 1 := by
  have hret : ((twoNodeRun gateMismatch).prog 0).result?.isSome := by decide
  have hslot : ((twoNodeRun gateMismatch).prog 1).slot.isSome := by decide
  obtain ⟨a, ha⟩ := Option.isSome_iff_exists.mp hret
  obtain ⟨m, hm⟩ := Option.isSome_iff_exists.mp hslot
  exact ⟨Sys.run_reachable _ 2 40, by decide, by decide, by decide, fun _ hs' =>
    allGather_waits_forever (by decide) (Prog.eq_ret_of_result? ha)
      (Prog.eq_allGather_of_slot hm) hs'⟩

/-! ## An error reads as "supported" -/

/-- Rank 0's send-side `canConnect` fails with `ncclUnhandledCudaError`. -/
def sendProbeError (i : Nat) : RankInputs :=
  twoNodeRank i (if i = 0 then { okCalls 0 with
    canConnect := fun _ type => if type = 0 then .error ncclUnhandledCudaError else .ok 1 }
    else okCalls i) 1

/-- **A failed probe leaves the collective network enabled.** Rank 0's probe fails, yet both
ranks complete `checkCollNetSetup` and return with `collNetSupport = 1`. -/
theorem collNetSupport_despite_probe_error :
    (sendProbeError 0).calls.canConnect 0 0 = .error ncclUnhandledCudaError ∧
      Relation.ReflTransGen (Step 2) (twoNodeStart sendProbeError) (twoNodeRun sendProbeError) ∧
      ∀ i < 2, returned (twoNodeRun sendProbeError) i = some (ncclSuccess, 1) :=
  ⟨rfl, Sys.run_reachable _ 2 40, by decide⟩

/-! ## A master that reports "unsupported" still takes part -/

/-- Rank 0's recv-side `canConnect` reports the collective network unsupported. -/
def recvProbeUnsupported (i : Nat) : RankInputs :=
  twoNodeRank i (if i = 0 then { okCalls 0 with
    canConnect := fun _ type => if type = 1 then .ok 0 else .ok 1 } else okCalls i) 1

/-- **An exchange is never received.** Both ranks return `ncclSuccess` with the collective
network disabled, and the exchange rank 0 sent to its send-side master (itself) is still in
flight. -/
theorem exchange_left_unreceived :
    Relation.ReflTransGen (Step 2) (twoNodeStart recvProbeUnsupported)
        (twoNodeRun recvProbeUnsupported) ∧
      (∀ i < 2, returned (twoNodeRun recvProbeUnsupported) i = some (ncclSuccess, 0)) ∧
      (twoNodeRun recvProbeUnsupported).mail 0 0 = [⟨0, none⟩] :=
  ⟨Sys.run_reachable _ 2 40, by decide, by decide⟩

/-- **A master connects with an uninitialised handle.** Rank 0 is flagged a master but made
no `setup` call, so its handle in the gathered table is the never-written `myConnect`; rank
1's recv-side `connect` is given that table. -/
theorem connect_with_uninitialised_handle :
    (recvProbeUnsupported 0).calls.canConnect 0 1 = .ok 0 ∧
      Relation.ReflTransGen (Step 2) (twoNodeStart recvProbeUnsupported)
        (twoNodeRun recvProbeUnsupported) ∧
      ((twoNodeRun recvProbeUnsupported).prog 1).result?.map (·.2.connectCalls.head?) =
        some (some ⟨1, 1, [none, some 21], 1⟩) :=
  ⟨rfl, Sys.run_reachable _ 2 40, by decide⟩

end RcclInit
