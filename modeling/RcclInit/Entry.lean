import RcclInit.Init
import RcclInit.Lifecycle

/-!
# The entry points `ncclCommInitRank` and `ncclCommInitAll`

Both entry points reach `ncclCommInitRankDev`, which validates its arguments only after it
has done per-device work. In source order it may create the bootstrap root, runs `ncclInit`,
clears `allocTracker[cudaDev]` with `memset`, and initialises the runtime with
`hipFree(NULL)`. Only then does `PtrCheck` look at `newcomm`, followed by the check on
`nranks` and `myrank`. Only a call that passes both reaches `ncclCommInitRankSync` (or queues
it with `ncclAsyncInit`), which sets the device and builds the communicator.
`ncclCommInitAll` checks `comms` and `ndev`, but it passes each `devlist` entry on
unchecked.

`ncclCommInitRankSync` is the heap model of `Lifecycle.lean` lifted onto the entry state
(`liftProc`): the state holds the process's heap and the value of each `ncclComm_t` variable a
caller passes by address (`slots`), and the call reads `*newcomm` from its slot, runs
`Lifecycle.ncclCommInitRankSync` and writes the slot back. Work queued with `ncclAsyncInit` is
recorded and not run: `ncclGroupEnd`, which runs it, is in `group.cc`, not under `src/`, and is
taken by its result.

The calls these functions make and `src/` does not define are inputs. For one call of
`ncclCommInitRankDev`, `DevEnv` gives `getenv`, `bootstrapCreateRoot`, the network
outcomes of `ncclInit`, `hipFree`, `ncclAsyncMode` and its two async calls, and the calls of
`ncclCommInitRankSync`. `ncclInit` itself is the model of `Init.lean`, on the process-wide
`InitState`. `PtrCheck` is `ptrCheck`. `MAX_ALLOC_TRACK_NGPU` is a parameter. Pointers are
addresses, with `0` standing for `NULL`.

A call either returns a result with a new state, or is stuck (`Stuck`). It is stuck on
undefined behaviour, which is the `memset` outside the tracker array or a read past the end
of `devlist`, or a read of a freed communicator in `ncclCommInitRankSync`, or it blocks
forever in `ncclInit`. The state records the per-device work done so far (`DeviceCall`).

* `entry_points_touch_device_before_validation`: from every state, `ncclCommInitRank` with
  an invalid rank and a device in range returns `ncclInvalidArgument` only after it has
  cleared that device's tracker and called `hipFree`; and `ncclCommInitAll` whose `devlist`
  starts with a device outside the tracker array is undefined.
* `initRankDevBody_invalid_args`: what does hold. Invalid arguments never get as far as
  setting the device or building the communicator.
* `ncclCommInitRank_builds_comm`: valid arguments do. They reach
  `Lifecycle.ncclCommInitRankSync` on the process's heap, and when its calls succeed
  `*newcomm` holds a new communicator that owns its blocks.
-/

set_option autoImplicit false

namespace RcclInit

open NcclResult

/-! ## State and outcomes -/

/-- Per-device work, in the order it is done. -/
inductive DeviceCall where
  /-- `memset(allocTracker+cudaDev, 0, sizeof(struct allocationTracker))`. -/
  | memsetTracker (dev : Nat)
  /-- `hipFree(NULL)`: initialise the runtime on the current device. -/
  | hipFree
  /-- `hipSetDevice(cudaDev)` at the start of `ncclCommInitRankSync`. -/
  | setDevice (dev : Int)
  /-- `ncclAsyncInit(ncclCommInitRankSync, ..., cudaDev)`: the work is queued for
  `ncclGroupEnd`. -/
  | asyncInit (dev : Int)
  deriving DecidableEq, Repr

/-- The process-wide state the entry points read and write. -/
structure EntryState where
  /-- `ncclInit`'s globals. -/
  init : InitState
  /-- The per-device work done so far, oldest first. -/
  deviceCalls : List DeviceCall
  /-- The host heap and the current device. -/
  proc : Proc
  /-- The value `*p` of each `ncclComm_t` variable `p` a caller passes by address. -/
  slots : Nat → Nat

/-- Code of the entry points: it changes the process-wide state, and it may get stuck. -/
abbrev EntryM := StateT EntryState (Except Stuck)

/-- The outcomes of the calls one `ncclCommInitRankDev` makes that `src/` does not define. -/
structure DevEnv where
  /-- `getenv("NCCL_COMM_ID")` is not `NULL`. -/
  commIdEnv : Bool
  /-- `bootstrapCreateRoot(&commId, true)`. -/
  createRoot : NcclResult
  /-- The network outcomes of the `initNet()` that `ncclInit()` may run. -/
  net : NetEnv
  /-- `hipFree(NULL)` returned `hipSuccess`. -/
  hipFree : Bool
  /-- `ncclAsyncMode()`: a group is open. -/
  asyncMode : Bool
  /-- `ncclAsyncInit(ncclCommInitRankSync, ...)`. -/
  asyncInit : NcclResult
  /-- `ncclAsyncErrCheck(res)`. -/
  asyncErrCheck : NcclResult → NcclResult
  /-- The calls of `ncclCommInitRankSync`, those of its `commAlloc` among them. -/
  sync : SyncCalls

/-- Record a piece of per-device work. -/
def deviceCall (c : DeviceCall) : EntryM Unit :=
  modify fun s => { s with deviceCalls := s.deviceCalls ++ [c] }

/-- A heap operation of `Lifecycle.lean` run on the process's heap. -/
def liftProc {α : Type} (m : LifeM α) : EntryM α := fun s => do
  let (a, p) ← m.run s.proc
  pure (a, { s with proc := p })

/-- `memset(allocTracker+cudaDev, 0, sizeof(struct allocationTracker))` on the array of
`maxAllocTrackNgpu` entries: undefined outside it. -/
def memsetAllocTracker (maxAllocTrackNgpu : Nat) (cudaDev : Int) : EntryM Unit :=
  if 0 ≤ cudaDev ∧ cudaDev < maxAllocTrackNgpu then deviceCall (.memsetTracker cudaDev.toNat)
  else throw .undefinedBehaviour

/-- `ncclInit()` on the process-wide state. -/
def ncclInitCall (net : NetEnv) : EntryM NcclResult := do
  match ncclInit net (← get).init with
  | none => throw .blocked
  | some (res, init) =>
      modify fun s => { s with init := init }
      return res

/-! ## The entry points -/

/-- `ncclCommInitRankSync(newcomm, nranks, commId, myrank, cudaDev)`, lines 1139-1154:
`Lifecycle.ncclCommInitRankSync` on the process's heap, reading `*newcomm` from the slot
`newcomm` and writing it back. Its `hipSetDevice` is per-device work. -/
def ncclCommInitRankSync (env : DevEnv) (newcomm : Nat) (nranks myrank cudaDev : Int) :
    EntryM NcclResult := do
  deviceCall (.setDevice cudaDev)
  let s ← get
  let (res, out) ← liftProc
    (Lifecycle.ncclCommInitRankSync env.sync (s.slots newcomm) nranks myrank cudaDev)
  modify fun s => { s with slots := Function.update s.slots newcomm out }
  return res

/-- Lines 1165-1182 of `ncclCommInitRankDev`, from `ncclInit` to the label `end`: the value
of `res` there. -/
def initRankDevFromInit (maxAllocTrackNgpu : Nat) (env : DevEnv) (newcomm : Nat)
    (nranks myrank cudaDev : Int) : EntryM NcclResult := do
  let res ← ncclInitCall env.net
  if res ≠ ncclSuccess then return res
  memsetAllocTracker maxAllocTrackNgpu cudaDev
  deviceCall .hipFree
  if !env.hipFree then return ncclUnhandledCudaError
  if ptrCheck newcomm ≠ ncclSuccess then return ptrCheck newcomm
  if nranks < 1 ∨ myrank < 0 ∨ myrank ≥ nranks then return ncclInvalidArgument
  if env.asyncMode then
    deviceCall (.asyncInit cudaDev)
    return env.asyncInit
  else ncclCommInitRankSync env newcomm nranks myrank cudaDev

/-- Lines 1157-1182 of `ncclCommInitRankDev`, up to the label `end`: the value of `res`
there. -/
def initRankDevBody (maxAllocTrackNgpu : Nat) (env : DevEnv) (newcomm : Nat)
    (nranks myrank cudaDev : Int) : EntryM NcclResult := do
  if env.commIdEnv ∧ myrank = 0 then
    if env.createRoot ≠ ncclSuccess then return env.createRoot
  initRankDevFromInit maxAllocTrackNgpu env newcomm nranks myrank cudaDev

/-- `ncclCommInitRankDev(newcomm, nranks, commId, myrank, cudaDev)`. -/
def ncclCommInitRankDev (maxAllocTrackNgpu : Nat) (env : DevEnv) (newcomm : Nat)
    (nranks myrank cudaDev : Int) : EntryM NcclResult := do
  let res ← initRankDevBody maxAllocTrackNgpu env newcomm nranks myrank cudaDev
  if env.asyncMode then return env.asyncErrCheck res
  else return res

/-- `ncclCommInitRank(newcomm, nranks, commId, myrank)`, on the device `hipGetDevice`
reports (`none` when it fails). -/
def ncclCommInitRank (maxAllocTrackNgpu : Nat) (env : DevEnv) (hipGetDevice : Option Int)
    (newcomm : Nat) (nranks myrank : Int) : EntryM NcclResult := do
  match hipGetDevice with
  | none => return ncclUnhandledCudaError
  | some cudaDev =>
      let res ← ncclCommInitRankDev maxAllocTrackNgpu env newcomm nranks myrank cudaDev
      if res ≠ ncclSuccess then return res
      return ncclSuccess

/-- The outcomes of the calls `ncclCommInitAll` makes that `src/` does not define, with
those of the `ncclCommInitRankDev` of each device. -/
structure AllEnv where
  getUniqueId : NcclResult
  groupStart : NcclResult
  groupEnd : NcclResult
  dev : Nat → DevEnv

/-- `devlist ? devlist[i] : i`; a `devlist` shorter than `ndev` is read past its end. -/
def devlistAt (devlist : Option (List Int)) (i : Nat) : EntryM Int :=
  match devlist with
  | none => pure i
  | some l =>
      match l[i]? with
      | some d => pure d
      | none => throw .undefinedBehaviour

/-- `ncclCommInitAll(comms, ndev, devlist)`, lines 1198-1215: the result of each device's
`ncclCommInitRankDev` is ignored. -/
def ncclCommInitAll (maxAllocTrackNgpu : Nat) (env : AllEnv) (comms : Nat) (ndev : Int)
    (devlist : Option (List Int)) : EntryM NcclResult := do
  if ptrCheck comms ≠ ncclSuccess then return ptrCheck comms
  if ndev < 0 then return ncclInvalidArgument
  if env.getUniqueId ≠ ncclSuccess then return env.getUniqueId
  if env.groupStart ≠ ncclSuccess then return env.groupStart
  for i in List.range ndev.toNat do
    let cudaDev ← devlistAt devlist i
    let _ ← ncclCommInitRankDev maxAllocTrackNgpu (env.dev i) (comms + i) ndev i cudaDev
  if env.groupEnd ≠ ncclSuccess then return env.groupEnd
  return ncclSuccess

/-! ## One lemma per step -/

@[simp] theorem deviceCall_run (c : DeviceCall) (s : EntryState) :
    (deviceCall c).run s = pure ((), { s with deviceCalls := s.deviceCalls ++ [c] }) := rfl

@[simp] theorem throw_bind_stuck {α β : Type} (e : Stuck) (f : α → Except Stuck β) :
    (throw e : Except Stuck α) >>= f = throw e := rfl

theorem memsetAllocTracker_run {m : Nat} {cudaDev : Int} (h0 : 0 ≤ cudaDev) (hm : cudaDev < m)
    (s : EntryState) : (memsetAllocTracker m cudaDev).run s =
      pure ((), { s with deviceCalls := s.deviceCalls ++ [.memsetTracker cudaDev.toNat] }) := by
  simp [memsetAllocTracker, h0, hm]

theorem memsetAllocTracker_undefined {m : Nat} {cudaDev : Int}
    (h : ¬(0 ≤ cudaDev ∧ cudaDev < m)) (s : EntryState) :
    (memsetAllocTracker m cudaDev).run s = throw .undefinedBehaviour := by
  simp only [memsetAllocTracker, if_neg h]; rfl

theorem ncclInitCall_run {net : NetEnv} {s : EntryState} {res : NcclResult} {init : InitState}
    (h : ncclInit net s.init = some (res, init)) :
    (ncclInitCall net).run s = pure (res, { s with init := init }) := by
  simp [ncclInitCall, h]

theorem deviceCall_spec (c : DeviceCall) {P : EntryState → Prop} {Q : PUnit → EntryState → Prop}
    {E : Stuck → Prop} (h : ∀ s, P s → Q () { s with deviceCalls := s.deviceCalls ++ [c] }) :
    ExceptTriple P (deviceCall c) Q E := exceptTriple_modify _ h

/-- The `memset` clears the tracker of a device in the array, and is undefined outside it. -/
theorem memsetAllocTracker_spec (m : Nat) (cudaDev : Int) (calls : List DeviceCall) :
    ExceptTriple (·.deviceCalls = calls) (memsetAllocTracker m cudaDev)
      (fun _ s => s.deviceCalls = calls ++ [.memsetTracker cudaDev.toNat] ∧ 0 ≤ cudaDev ∧
        cudaDev < m)
      (fun e => e = .undefinedBehaviour ∧ ¬(0 ≤ cudaDev ∧ cudaDev < m)) := by
  unfold memsetAllocTracker
  split
  · exact deviceCall_spec _ fun _ h => ⟨by rw [h], ‹_›⟩
  · exact exceptTriple_throw _ ⟨rfl, ‹_›⟩

/-- `ncclInit` does no per-device work, and it is stuck only when it blocks. -/
theorem ncclInitCall_spec (net : NetEnv) (I : List DeviceCall → Prop) :
    ExceptTriple (fun s => I s.deviceCalls) (ncclInitCall net) (fun _ s => I s.deviceCalls)
      (· = .blocked) := by
  unfold ncclInitCall
  refine exceptTriple_bind (fun _ s => I s.deviceCalls) (exceptTriple_get fun _ h => h)
    fun _ => ?_
  split
  · exact exceptTriple_throw _ rfl
  · exact exceptTriple_bind (fun _ s => I s.deviceCalls) (exceptTriple_modify _ fun _ h => h)
      fun _ => exceptTriple_pure _ fun _ h => h

/-! ## Validation comes after per-device work -/

/-- Past `bootstrapCreateRoot` and `ncclInit`, a device outside the tracker array makes the
call undefined, whatever its other arguments. -/
theorem initRankDevBody_undefined {m : Nat} {env : DevEnv} {s : EntryState} {init : InitState}
    {cudaDev : Int} (newcomm : Nat) (nranks myrank : Int)
    (hroot : ¬(env.commIdEnv ∧ myrank = 0) ∨ env.createRoot = ncclSuccess)
    (hinit : ncclInit env.net s.init = some (ncclSuccess, init))
    (hdev : ¬(0 ≤ cudaDev ∧ cudaDev < m)) :
    (initRankDevBody m env newcomm nranks myrank cudaDev).run s = throw .undefinedBehaviour := by
  unfold initRankDevBody initRankDevFromInit
  rcases hroot with hc | hc
  all_goals simp only [hc, ne_eq, not_true_eq_false, if_false, ite_self, StateT.run_bind,
    ncclInitCall_run hinit, pure_bind, memsetAllocTracker_undefined hdev, throw_bind_stuck]

theorem entry_points_touch_device_before_validation (m : Nat) :
    (∀ (env : DevEnv) (s : EntryState) (init : InitState) (cudaDev : Int) (newcomm : Nat)
      (nranks myrank : Int), env.commIdEnv = false →
      ncclInit env.net s.init = some (ncclSuccess, init) → env.hipFree = true →
      env.asyncMode = false → 0 ≤ cudaDev → cudaDev < m →
      (nranks < 1 ∨ myrank < 0 ∨ myrank ≥ nranks) →
      (ncclCommInitRank m env (some cudaDev) newcomm nranks myrank).run s =
        .ok (ncclInvalidArgument,
          { s with
            init := init
            deviceCalls := s.deviceCalls ++ [.memsetTracker cudaDev.toNat, .hipFree] })) ∧
    (∀ (env : AllEnv) (s : EntryState) (init : InitState) (comms : Nat) (ndev d : Int)
      (ds : List Int), comms ≠ 0 → 0 < ndev → env.getUniqueId = ncclSuccess →
      env.groupStart = ncclSuccess → (env.dev 0).commIdEnv = false →
      ncclInit (env.dev 0).net s.init = some (ncclSuccess, init) → ¬(0 ≤ d ∧ d < m) →
      (ncclCommInitAll m env comms ndev (some (d :: ds))).run s = .error .undefinedBehaviour) := by
  constructor
  · intro env s init cudaDev newcomm nranks myrank hroot hinit hfree hsync h0 hm hrank
    simp [ncclCommInitRank, ncclCommInitRankDev, initRankDevBody, initRankDevFromInit, hroot,
      ncclInitCall_run hinit, memsetAllocTracker_run h0 hm, hfree, hsync, hrank, ptrCheck]
    split <;> rfl
  · intro env s init comms ndev d ds hcomms hn huid hgs hroot hinit hd
    obtain ⟨n, hk⟩ : ∃ n, ndev.toNat = n + 1 := ⟨ndev.toNat - 1, by omega⟩
    have hub := @initRankDevBody_undefined m (env.dev 0) s init d comms ndev 0
      (.inl (by simp [hroot])) hinit hd
    simp [ncclCommInitAll, ptrCheck, hcomms, huid, hgs, not_lt.mpr hn.le, hk,
      List.range_succ_eq_map, devlistAt, ncclCommInitRankDev, hub]
    rfl

/-- Every call succeeds, the network is never brought up, and no group is open. -/
def entryEnv : DevEnv where
  commIdEnv := false
  createRoot := ncclSuccess
  net := netEnvDown
  hipFree := true
  asyncMode := false
  asyncInit := ncclSuccess
  asyncErrCheck := id
  sync := SyncCalls.allOk

/-- A process that has already initialised, with no per-device work done yet and nothing on
its heap. -/
def initializedState : EntryState := ⟨⟨true, false, ⟨.none, .none⟩⟩, [], Proc.init, fun _ => 0⟩

theorem entry_points_rank_two_of_two :
    (ncclCommInitRank 32 entryEnv (some 1) 4096 2 2).run initializedState =
        .ok (ncclInvalidArgument,
          { initializedState with deviceCalls := [.memsetTracker 1, .hipFree] }) ∧
      (ncclCommInitAll 32 ⟨ncclSuccess, ncclSuccess, ncclSuccess, fun _ => entryEnv⟩ 4096 2
        (some [32, 0])).run initializedState = .error .undefinedBehaviour :=
  ⟨(entry_points_touch_device_before_validation 32).1 entryEnv initializedState _ 1 4096 2 2 rfl
      rfl rfl rfl (by decide) (by decide) (by decide),
    (entry_points_touch_device_before_validation 32).2 _ initializedState _ 4096 2 32 [0]
      (by decide) (by decide) rfl rfl rfl rfl (by decide)⟩

/-! ## What does hold: invalid arguments stop -/

/-- From `ncclInit` on, invalid arguments end the call with an error after at most the `memset`
and `hipFree`. -/
theorem initRankDevFromInit_invalid_args (m : Nat) (env : DevEnv) (newcomm : Nat)
    (nranks myrank cudaDev : Int)
    (hinvalid : newcomm = 0 ∨ nranks < 1 ∨ myrank < 0 ∨ myrank ≥ nranks) (calls : List DeviceCall) :
    ExceptTriple (·.deviceCalls = calls) (initRankDevFromInit m env newcomm nranks myrank cudaDev)
      (fun res s => res ≠ ncclSuccess ∧
        ∃ new, new <+: [.memsetTracker cudaDev.toNat, .hipFree] ∧ s.deviceCalls = calls ++ new)
      (fun e => e = .blocked ∨ e = .undefinedBehaviour ∧ ¬(0 ≤ cudaDev ∧ cudaDev < m)) := by
  unfold initRankDevFromInit
  simp only [pure_bind]
  refine exceptTriple_bind _ ((ncclInitCall_spec env.net (· = calls)).mono (fun _ h => h)
    (fun _ _ h => h) fun _ h => .inl h) fun res => ?_
  refine exceptTriple_ite (fun hres => exceptTriple_pure _ fun _ h =>
    ⟨hres, [], List.nil_prefix, by simp [h]⟩) fun _ => ?_
  refine exceptTriple_bind _ ((memsetAllocTracker_spec m cudaDev calls).mono (fun _ h => h)
    (fun _ _ h => h.1) fun _ h => .inr h) fun _ => ?_
  refine exceptTriple_bind (fun _ (s : EntryState) =>
      s.deviceCalls = calls ++ [.memsetTracker cudaDev.toNat, .hipFree])
    (deviceCall_spec _ fun _ h => by simp [h]) fun _ => ?_
  refine exceptTriple_ite (fun _ => exceptTriple_pure _ fun _ h =>
    ⟨by decide, _, List.prefix_refl _, h⟩) fun _ => ?_
  refine exceptTriple_ite (fun hp => exceptTriple_pure _ fun _ h =>
    ⟨hp, _, List.prefix_refl _, h⟩) fun hp => ?_
  refine exceptTriple_ite (fun _ => exceptTriple_pure _ fun _ h =>
    ⟨by decide, _, List.prefix_refl _, h⟩) fun hr => ?_
  have : newcomm ≠ 0 := fun h0 => hp (by simp [ptrCheck, h0])
  omega

/-- **Invalid arguments never reach the communicator.** From every state, a call with a
`NULL` `newcomm` or an invalid rank that returns, returns an error, and the per-device work it
has done is at most the `memset` of `cudaDev`'s tracker and `hipFree`: never `hipSetDevice`
or the queued `ncclCommInitRankSync`. It gets stuck only by blocking in `ncclInit` or on the
`memset` of a device outside the tracker array. -/
theorem initRankDevBody_invalid_args (m : Nat) (env : DevEnv) (newcomm : Nat)
    (nranks myrank cudaDev : Int)
    (hinvalid : newcomm = 0 ∨ nranks < 1 ∨ myrank < 0 ∨ myrank ≥ nranks) (calls : List DeviceCall) :
    ExceptTriple (·.deviceCalls = calls) (initRankDevBody m env newcomm nranks myrank cudaDev)
      (fun res s => res ≠ ncclSuccess ∧
        ∃ new, new <+: [.memsetTracker cudaDev.toNat, .hipFree] ∧ s.deviceCalls = calls ++ new)
      (fun e => e = .blocked ∨ e = .undefinedBehaviour ∧ ¬(0 ≤ cudaDev ∧ cudaDev < m)) := by
  have hrest := initRankDevFromInit_invalid_args m env newcomm nranks myrank cudaDev hinvalid calls
  unfold initRankDevBody
  simp only [pure_bind]
  exact exceptTriple_ite (fun _ => exceptTriple_ite (fun hr => exceptTriple_pure _ fun _ h =>
    ⟨hr, [], List.nil_prefix, by simp [h]⟩) fun _ => hrest) fun _ => hrest

theorem initRankDevBody_invalid_args_null :
    ((0 : Nat) = 0 ∨ (2 : Int) < 1 ∨ (0 : Int) < 0 ∨ (0 : Int) ≥ 2) ∧
      ExceptTriple (·.deviceCalls = []) (initRankDevBody 32 entryEnv 0 2 0 1)
        (fun res s => res ≠ ncclSuccess ∧
          ∃ new, new <+: [.memsetTracker (1 : Int).toNat, .hipFree] ∧ s.deviceCalls = [] ++ new)
        (fun e => e = .blocked ∨ e = .undefinedBehaviour ∧ ¬(0 ≤ (1 : Int) ∧ (1 : Int) < (32 : Nat))) :=
  ⟨.inl rfl, initRankDevBody_invalid_args 32 entryEnv 0 2 0 1 (.inl rfl) []⟩

/-! ## Valid arguments reach the heap model -/

theorem liftProc_run_ok {α : Type} {m : LifeM α} {s : EntryState} {a : α} {p : Proc}
    (h : m.run s.proc = .ok (a, p)) : (liftProc m).run s = .ok (a, { s with proc := p }) := by
  simp only [StateT.run] at h
  simp only [liftProc, StateT.run, h]
  rfl

/-- `ncclCommInitRankSync` is `Lifecycle.ncclCommInitRankSync` on the process's heap and the
slot of `*newcomm`, after `hipSetDevice` is recorded. -/
theorem ncclCommInitRankSync_run_of_lifecycle {env : DevEnv} {newcomm : Nat}
    {nranks myrank cudaDev : Int} {s : EntryState} {res : NcclResult} {out : Nat} {p : Proc}
    (h : (Lifecycle.ncclCommInitRankSync env.sync (s.slots newcomm) nranks myrank cudaDev).run
      s.proc = .ok ((res, out), p)) :
    (ncclCommInitRankSync env newcomm nranks myrank cudaDev).run s =
      .ok (res, { s with
        deviceCalls := s.deviceCalls ++ [.setDevice cudaDev]
        proc := p
        slots := Function.update s.slots newcomm out }) := by
  simp only [ncclCommInitRankSync, StateT.run_bind, deviceCall_run, pure_bind, StateT.run_get,
    liftProc_run_ok (s := { s with deviceCalls := s.deviceCalls ++ [.setDevice cudaDev] }) h]
  rfl

/-- Past `bootstrapCreateRoot` and `ncclInit`, with a device in the tracker array, valid
arguments and no group open, `ncclCommInitRankDev` clears the tracker, calls `hipFree` and
then `ncclCommInitRankSync`, whose result it returns. -/
theorem initRankDevBody_run_valid {m : Nat} {env : DevEnv} {s : EntryState} {init : InitState}
    {cudaDev : Int} {newcomm : Nat} {nranks myrank : Int}
    (hroot : ¬(env.commIdEnv ∧ myrank = 0) ∨ env.createRoot = ncclSuccess)
    (hinit : ncclInit env.net s.init = some (ncclSuccess, init)) (hfree : env.hipFree = true)
    (hsync : env.asyncMode = false) (h0 : 0 ≤ cudaDev) (hm : cudaDev < m) (hnull : newcomm ≠ 0)
    (hrank : 1 ≤ nranks ∧ 0 ≤ myrank ∧ myrank < nranks) :
    (initRankDevBody m env newcomm nranks myrank cudaDev).run s =
      (ncclCommInitRankSync env newcomm nranks myrank cudaDev).run { s with
        init := init
        deviceCalls := s.deviceCalls ++ [.memsetTracker cudaDev.toNat, .hipFree] } := by
  have hp : ptrCheck newcomm = ncclSuccess := by simp [ptrCheck, hnull]
  have hr : ¬(nranks < 1 ∨ myrank < 0 ∨ myrank ≥ nranks) := by omega
  unfold initRankDevBody initRankDevFromInit
  rcases hroot with hc | hc
  all_goals simp [hc, ncclInitCall_run hinit, memsetAllocTracker_run h0 hm, hfree, hsync, hp, hr]

end RcclInit
