import RcclInit.Basic

/-!
# Process-wide initialisation: `initNet` and `ncclInit`

`ncclInit` is the guarded initializer every public entry point calls first. It reads the
flag `initialized` without the lock, then takes `initLock`, checks the flag again, runs
`initEnv` and `initNet`, sets the flag and releases the lock.

`initNet` selects the network: a plugin if `librccl-net.so` loads and its network
initialises, else InfiniBand, else sockets. Its outcome depends on calls this file does
not define (`bootstrapNetInit`, `dlopen`, `dlsym` and each network's `init` and
`devices`), which `NetEnv` supplies. `initNetPlugin` returns `ncclSuccess` on every path
(`initNetPlugin_result`), so `initNet` fails exactly when the bootstrap network fails or
when there is no plugin network and neither InfiniBand nor sockets initialise
(`initNet_ok_iff`).

Calls are made one after another; the mutex is the default kind, so `pthread_mutex_lock`
on a lock that is already held never returns, and `ncclInit` is then `none`.
`NCCLCHECK(initNet())` sits between the lock and the unlock: a failing `initNet` returns
with the lock held (`ncclInit_initNet_fails`), and every later call that finds the flag
clear blocks (`ncclInits_after_failure`). Every run from program start is one of two:
the first call's `initNet` succeeds and every later call returns `ncclSuccess` without
running it again (`ncclInits_initialized_stable`), or it fails and the second call blocks
(`ncclInits_from_start`).
-/

set_option autoImplicit false

namespace RcclInit

open NcclResult

/-! ## Network selection -/

/-- `initNet(ncclNet_t*)` and `initCollNet(ncclCollNet_t*)`, which have the same body:
the results of the network's `init` and `devices` calls and the device count. -/
def initNetDevice (init devices : NcclResult) (ndev : Int) : NcclResult :=
  if init ≠ ncclSuccess then ncclInternalError
  else if devices ≠ ncclSuccess then ncclInternalError
  else if ndev ≤ 0 then ncclSystemError
  else ncclSuccess

/-- How one network initialises: the results of its `init` and `devices` calls and the
device count it reports. -/
structure NetInit where
  init : NcclResult
  devices : NcclResult
  ndev : Int
  deriving DecidableEq, Repr

/-- `initNet(net)` for one network. -/
def NetInit.result (n : NetInit) : NcclResult := initNetDevice n.init n.devices n.ndev

/-- The value of `ncclNet` (and of `ncclCollNet`): no network yet, the plugin's, or one of
the two internal ones. -/
inductive NetChoice where
  | none
  | plugin
  | ib
  | socket
  deriving DecidableEq, Repr

/-- The outcomes of the calls `initNet()` makes and this file does not define. -/
structure NetEnv where
  /-- `bootstrapNetInit()`. -/
  bootstrapNetInit : NcclResult
  /-- `dlopen("librccl-net.so")` found the library. -/
  pluginFound : Bool
  /-- `dlsym` of the network symbol: `none` when it is missing. -/
  pluginNet : Option NetInit
  /-- `dlsym` of the collective-network symbol: `none` when it is missing. -/
  pluginCollNet : Option NetInit
  /-- The internal InfiniBand network. -/
  ib : NetInit
  /-- The internal socket network. -/
  socket : NetInit
  deriving DecidableEq, Repr

/-- The globals `ncclNet` and `ncclCollNet`. -/
structure Nets where
  ncclNet : NetChoice
  ncclCollNet : NetChoice
  deriving DecidableEq, Repr

/-- `initNetPlugin(&ncclNet, &ncclCollNet)`: the result and the globals after it. -/
def initNetPlugin (env : NetEnv) (nets : Nets) : NcclResult × Nets :=
  if !env.pluginFound then (ncclSuccess, nets)
  else match env.pluginNet with
    | none => (ncclSuccess, nets)
    | some net =>
        if net.result = ncclSuccess then
          let collNet := match env.pluginCollNet with
            | some c => if c.result = ncclSuccess then NetChoice.plugin else nets.ncclCollNet
            | none => nets.ncclCollNet
          (ncclSuccess, { ncclNet := .plugin, ncclCollNet := collNet })
        else (ncclSuccess, nets)

/-- `initNet()`: the result and the globals after it. -/
def initNet (env : NetEnv) (nets : Nets) : NcclResult × Nets :=
  if env.bootstrapNetInit ≠ ncclSuccess then (env.bootstrapNetInit, nets)
  else
    let (res, nets) := initNetPlugin env nets
    if res ≠ ncclSuccess then (res, nets)
    else if nets.ncclNet ≠ .none then (ncclSuccess, nets)
    else if env.ib.result = ncclSuccess then (ncclSuccess, { nets with ncclNet := .ib })
    else if env.socket.result ≠ ncclSuccess then (env.socket.result, nets)
    else (ncclSuccess, { nets with ncclNet := .socket })

/-- `initNetPlugin` returns `ncclSuccess` on every path. -/
theorem initNetPlugin_result (env : NetEnv) (nets : Nets) :
    (initNetPlugin env nets).1 = ncclSuccess := by
  unfold initNetPlugin
  split_ifs
  · rfl
  · split
    · rfl
    · split_ifs <;> rfl

/-- `initNet` fails exactly when the bootstrap network fails, or when neither a network
chosen earlier, nor the plugin, nor InfiniBand, nor sockets initialise. -/
theorem initNet_ok_iff (env : NetEnv) (nets : Nets) :
    (initNet env nets).1 = ncclSuccess ↔
      env.bootstrapNetInit = ncclSuccess ∧
        ((initNetPlugin env nets).2.ncclNet ≠ .none ∨ env.ib.result = ncclSuccess ∨
          env.socket.result = ncclSuccess) := by
  unfold initNet
  by_cases hb : env.bootstrapNetInit = ncclSuccess
  · simp only [hb, ne_eq, not_true_eq_false, if_false, initNetPlugin_result, true_and]
    split_ifs <;> simp_all
  · simp [hb]

/-- When `initNet` succeeds it leaves a network selected. -/
theorem initNet_selects (env : NetEnv) (nets : Nets)
    (h : (initNet env nets).1 = ncclSuccess) : (initNet env nets).2.ncclNet ≠ .none := by
  unfold initNet at h ⊢
  simp only [initNetPlugin_result, ne_eq, not_true_eq_false, if_false] at h ⊢
  split_ifs at h ⊢ <;> simp_all

/-! ## The guarded initializer -/

/-- The process-wide state `ncclInit` reads and writes. -/
structure InitState where
  /-- The static flag `initialized`. -/
  initialized : Bool
  /-- `initLock` is held. -/
  initLock : Bool
  /-- The network globals `initNet` writes. -/
  nets : Nets
  deriving DecidableEq, Repr

/-- The state at program start: `initialized = false`, `PTHREAD_MUTEX_INITIALIZER`, and
both networks `NULL`. -/
def InitState.start : InitState := ⟨false, false, ⟨.none, .none⟩⟩

/-- `ncclInit()`, with the outcomes of the `initNet()` it may run: the result and the state
after it, or `none` when the call blocks forever in `pthread_mutex_lock`. -/
def ncclInit (env : NetEnv) (s : InitState) : Option (NcclResult × InitState) :=
  if s.initialized then some (ncclSuccess, s)
  else if s.initLock then none
  else
    let s := { s with initLock := true }
    if !s.initialized then
      let (res, nets) := initNet env s.nets
      let s := { s with nets := nets }
      if res ≠ ncclSuccess then some (res, s)
      else some (ncclSuccess, { s with initialized := true, initLock := false })
    else some (ncclSuccess, { s with initLock := false })

/-- A sequence of calls made one after another, each with the outcomes its `initNet`
would have: the results of the calls that returned, and the state after the last; the
sequence stops at a call that blocks. -/
def ncclInits : List NetEnv → InitState → List NcclResult × Option InitState
  | [], s => ([], some s)
  | env :: envs, s =>
      match ncclInit env s with
      | none => ([], none)
      | some (res, s') =>
          let (rest, final) := ncclInits envs s'
          (res :: rest, final)

/-- **A failing `initNet` leaves the lock held.** From a state with the flag clear and the
lock free, a call whose `initNet` fails returns that error with `initLock` still held. -/
theorem ncclInit_initNet_fails (env : NetEnv) (s : InitState) (hinit : s.initialized = false)
    (hlock : s.initLock = false) (hfail : (initNet env s.nets).1 ≠ ncclSuccess) :
    ncclInit env s =
      some ((initNet env s.nets).1, { s with initLock := true, nets := (initNet env s.nets).2 }) := by
  simp [ncclInit, hinit, hlock, hfail]

/-- A call that finds the flag clear and the lock held never returns. -/
theorem ncclInit_blocks (env : NetEnv) (s : InitState) (hinit : s.initialized = false)
    (hlock : s.initLock = true) : ncclInit env s = none := by
  simp [ncclInit, hinit, hlock]

/-- A call that finds the flag set returns `ncclSuccess` and changes nothing, without
running `initNet`. -/
@[simp] theorem ncclInit_initialized (env : NetEnv) (s : InitState) (h : s.initialized = true) :
    ncclInit env s = some (ncclSuccess, s) := by
  simp [ncclInit, h]

/-- **Once set, the flag stays set**, and every later call returns `ncclSuccess` with the
state unchanged: `initNet` is never run again. -/
theorem ncclInits_initialized_stable (envs : List NetEnv) (s : InitState)
    (h : s.initialized = true) :
    ncclInits envs s = (envs.map fun _ => ncclSuccess, some s) := by
  induction envs with
  | nil => rfl
  | cons env envs ih => simp [ncclInits, h, ih]

/-- **Every run of `ncclInit` from program start.** The first call runs `initNet`. When it
succeeds, which is exactly when the bootstrap network comes up and some network initialises
(the plugin's, InfiniBand or sockets), the flag is set, the lock released and a network
selected, and every later call returns `ncclSuccess` without running `initNet` again. When it
fails, the call returns the failure with the flag clear and the lock held, and the next call
never returns. -/
theorem ncclInits_from_start (env : NetEnv) (envs : List NetEnv) :
    ncclInits (env :: envs) InitState.start =
      (if (initNet env InitState.start.nets).1 = ncclSuccess then
        (ncclSuccess :: envs.map fun _ => ncclSuccess,
          some ⟨true, false, (initNet env InitState.start.nets).2⟩)
      else ([(initNet env InitState.start.nets).1],
        if envs = [] then some ⟨false, true, (initNet env InitState.start.nets).2⟩ else none)) ∧
    ((initNet env InitState.start.nets).1 = ncclSuccess ↔
      env.bootstrapNetInit = ncclSuccess ∧
        ((initNetPlugin env InitState.start.nets).2.ncclNet ≠ .none ∨
          env.ib.result = ncclSuccess ∨ env.socket.result = ncclSuccess)) ∧
    ((initNet env InitState.start.nets).1 = ncclSuccess →
      (initNet env InitState.start.nets).2.ncclNet ≠ .none) := by
  refine ⟨?_, initNet_ok_iff env _, initNet_selects env _⟩
  by_cases h : (initNet env InitState.start.nets).1 = ncclSuccess
  · have hfirst : ncclInit env InitState.start =
        some (ncclSuccess, ⟨true, false, (initNet env InitState.start.nets).2⟩) := by
      unfold ncclInit
      simp only [InitState.start] at h ⊢
      simp [h]
    simp only [ncclInits, hfirst, ncclInits_initialized_stable envs ⟨true, false, _⟩ rfl, if_pos h]
  · have hfirst := ncclInit_initNet_fails env InitState.start rfl rfl h
    cases envs with
    | nil => simp only [ncclInits, hfirst, if_neg h, if_true]; rfl
    | cons env' envs =>
        simp only [ncclInits, hfirst, if_neg h, reduceCtorEq, if_false,
          ncclInit_blocks env' { InitState.start with
            initLock := true, nets := (initNet env InitState.start.nets).2 } rfl rfl]

/-- The network outcomes of a failing first initialisation: the bootstrap network itself
cannot be brought up. -/
def netEnvDown : NetEnv where
  bootstrapNetInit := ncclSystemError
  pluginFound := false
  pluginNet := none
  pluginCollNet := none
  ib := ⟨ncclSuccess, ncclSuccess, 1⟩
  socket := ⟨ncclSuccess, ncclSuccess, 1⟩

/-- **A failed initialisation cannot be retried.** Two calls in a row from program start,
the first with a network that fails to come up: the first returns the error with the lock
still held, and the second, whatever its network would do, never returns. -/
theorem ncclInits_after_failure (env : NetEnv) :
    ncclInits [netEnvDown, env] InitState.start = ([ncclSystemError], none) ∧
      (ncclInit netEnvDown InitState.start).map (·.2.initLock) = some true :=
  ⟨rfl, rfl⟩

end RcclInit
