import RcclInit.Basic

/-!
# `ncclCommSetIntra`: the members of one process publish and adopt shared state

The communicators of one process that share a node (its intra-node group, as
`allGather1Scan` computes it) run `ncclCommSetIntra` concurrently. The member with
`intraRank` 0 allocates five objects, `intraBarrier`, `intraParams`, `intraCudaDevs`,
`intraCGMode` and `intraCC`, and stores each pointer into its own communicator, `comm0`;
every other member spins in `waitForNonNullPtr` on each of `comm0`'s fields in the same
order and copies the pointer. Then every member writes its slot of `intraCudaDevs`, picks
its launch mode, creates its group stream, may query cooperative multi-device launch, and
writes `0x10` into `*intraCGMode` when the query said no.

The members are threads of one process, so the model is a shared-memory system
(`IntraState`): a program counter per member (`IntraPc`), each communicator's five
pointers, and a heap of `int` cells addressed by allocation block and offset. `intraStep`
is one atomic action of one member; each action touches at most one shared location.
`IntraReachable` is every interleaving from the start.

The invariant `IntraInv` says how far member 0 has allocated, that every other member
holds exactly the pointers it has waited for, that launch modes and query results are
the ones `launchModeOf` and `cgMdLaunchOf` compute, and what the two shared cells hold.
From it: every member past a wait holds the pointer `comm0` published there, every
member picks the same launch mode, and `*intraCGMode` is `0x10` exactly when some member
that returned `ncclSuccess` ran the attribute query and was told no
(`setIntra_agreement`). The query runs only when `CUDART_VERSION >= 9000`, `*intraCC` is
nonzero and the member's compute capability equals it; a member whose capability
differs leaves `0x11` (`setIntra_mismatched_compCap`), although the comment of line 584
disables `cgMdLaunch` "if any rank does not support it". Every step moves its member
forward (`intraStep_stage_lt`), so every interleaving is finite, and when every allocation
succeeds it stops only once every member has returned (`setIntra_terminates`).
-/

set_option autoImplicit false

namespace RcclInit

open NcclResult

/-! ## The shared fields and the members' program counters -/

/-- The five pointers of `struct ncclComm` that the intraRank-0 member allocates and the
others copy, in the order both sides handle them. -/
inductive SharedField where
  | intraBarrier
  | intraParams
  | intraCudaDevs
  | intraCGMode
  | intraCC
  deriving DecidableEq, Repr

namespace SharedField

/-- The position of the field in the order of lines 541-562. -/
def index : SharedField → Nat
  | intraBarrier => 0
  | intraParams => 1
  | intraCudaDevs => 2
  | intraCGMode => 3
  | intraCC => 4

@[simp] theorem index_intraBarrier : intraBarrier.index = 0 := rfl
@[simp] theorem index_intraParams : intraParams.index = 1 := rfl
@[simp] theorem index_intraCudaDevs : intraCudaDevs.index = 2 := rfl
@[simp] theorem index_intraCGMode : intraCGMode.index = 3 := rfl
@[simp] theorem index_intraCC : intraCC.index = 4 := rfl

/-- The heap block `ncclCalloc` returns for the field: blocks are handed out from `1` in
allocation order, and `0` is `NULL`. -/
def block (f : SharedField) : Nat := f.index + 1

theorem index_le (f : SharedField) : f.index ≤ 4 := by cases f <;> decide

theorem index_injective {f g : SharedField} (h : f.index = g.index) : f = g := by
  cases f <;> cases g <;> first | rfl | cases h

end SharedField

/-- `ncclComm::launchMode`. -/
inductive LaunchMode where
  | GROUP
  | PARALLEL
  deriving DecidableEq, Repr

/-- Where a member is in `ncclCommSetIntra`. -/
inductive IntraPc where
  /-- The intraRank-0 member is about to allocate field `f` and publish it (lines 541-556). -/
  | alloc (f : SharedField)
  /-- Another member spins in `waitForNonNullPtr` on `comm0`'s field `f` (lines 558-562). -/
  | wait (f : SharedField)
  /-- Lines 564-565: the member's `intraCudaDevs` slot and its launch parameters. -/
  | setDevice
  /-- Lines 567-582: the launch mode, the group stream and the attribute query. -/
  | setLaunchMode
  /-- Lines 585-587: `*comm->intraCGMode = 0x10` when `cgMdLaunch == 0`. -/
  | setCGMode
  /-- Returned with `res`. -/
  | done (res : NcclResult)
  deriving DecidableEq, Repr

namespace IntraPc

/-- The number of actions a member has taken to reach the counter. -/
def stage : IntraPc → Nat
  | alloc f => f.index
  | wait f => f.index
  | setDevice => 5
  | setLaunchMode => 6
  | setCGMode => 7
  | done _ => 8

@[simp] theorem stage_alloc (f : SharedField) : (alloc f).stage = f.index := rfl
@[simp] theorem stage_wait (f : SharedField) : (wait f).stage = f.index := rfl
@[simp] theorem stage_setDevice : setDevice.stage = 5 := rfl
@[simp] theorem stage_setLaunchMode : setLaunchMode.stage = 6 := rfl
@[simp] theorem stage_setCGMode : setCGMode.stage = 7 := rfl
@[simp] theorem stage_done (res : NcclResult) : (done res).stage = 8 := rfl

/-- Where the intraRank-0 member goes after publishing `f`. -/
def afterAlloc : SharedField → IntraPc
  | .intraBarrier => alloc .intraParams
  | .intraParams => alloc .intraCudaDevs
  | .intraCudaDevs => alloc .intraCGMode
  | .intraCGMode => alloc .intraCC
  | .intraCC => setDevice

/-- Where another member goes after copying `f`. -/
def afterWait : SharedField → IntraPc
  | .intraBarrier => wait .intraParams
  | .intraParams => wait .intraCudaDevs
  | .intraCudaDevs => wait .intraCGMode
  | .intraCGMode => wait .intraCC
  | .intraCC => setDevice

@[simp] theorem stage_afterAlloc (f : SharedField) : (afterAlloc f).stage = f.index + 1 := by
  cases f <;> rfl

@[simp] theorem stage_afterWait (f : SharedField) : (afterWait f).stage = f.index + 1 := by
  cases f <;> rfl

/-- A member that has not reached the write of `0x10` has neither queried nor returned
`ncclSuccess`. -/
theorem not_queried {pc : IntraPc} (h : pc.stage < 7) :
    ¬(pc = setCGMode ∨ pc = done ncclSuccess) := by
  rintro (rfl | rfl) <;> simp at h

theorem stage_le (pc : IntraPc) : pc.stage ≤ 8 := by
  cases pc with
  | alloc f => exact f.index_le.trans (by decide)
  | wait f => exact f.index_le.trans (by decide)
  | _ => simp

theorem ne_done_of_stage {pc : IntraPc} (h : pc.stage < 8) (res : NcclResult) :
    pc ≠ done res := by
  rintro rfl; simp at h

theorem afterAlloc_ne_wait (f g : SharedField) : afterAlloc f ≠ wait g := by
  cases f <;> simp [afterAlloc]

theorem afterWait_ne_alloc (f g : SharedField) : afterWait f ≠ alloc g := by
  cases f <;> simp [afterWait]

end IntraPc

/-! ## The members' environment -/

/-- What one member's calls outside `init.cc` return. -/
structure IntraMember where
  cudaDev : Int
  /-- `ncclCudaCompCap()` on the member's device. -/
  cudaCompCap : Int
  /-- `hipStreamCreateWithFlags` succeeds. -/
  streamCreated : Bool
  /-- The value `hipDeviceGetAttribute(&cgMdLaunch, cudaDevAttrCooperativeMultiDeviceLaunch, ...)`
  writes, or `none` when the call fails and writes nothing (its result is cast to `void`). -/
  cooperativeMultiDeviceLaunch : Option Int
  deriving DecidableEq, Repr

/-- The group and its process: the members' calls, the environment variable, the build,
and whether each of the intraRank-0 member's allocations succeeds. -/
structure IntraEnv where
  /-- `intraRanks`; the members are `0, ..., ranks - 1`, member `k` with `intraRank = k`. -/
  ranks : Nat
  members : Nat → IntraMember
  /-- `getenv("NCCL_LAUNCH_MODE")`, the same for every thread of the process. -/
  launchModeEnv : Option String
  /-- `CUDART_VERSION >= 9000`: whether lines 577-580 are compiled in. -/
  cudartAtLeast9000 : Bool
  /-- `ncclCalloc` for the field succeeds. -/
  callocOk : SharedField → Bool

/-- `str && strcmp(str, "PARALLEL") == 0`. -/
def parallelRequested : Option String → Bool
  | some str => str == "PARALLEL"
  | none => false

/-- `comm->launchMode` after lines 569-574. It reads only `intraRanks` and the process's
environment, so it is the same on every member. -/
def launchModeOf (env : IntraEnv) : LaunchMode :=
  if env.ranks = 1 ∨ parallelRequested env.launchModeEnv = true then .PARALLEL else .GROUP

/-- `cgMdLaunch` after lines 567-582, on member `k` in launch mode `mode`, reading
`*comm->intraCC` as `intraCC`. -/
def cgMdLaunchAfter (env : IntraEnv) (k : Nat) (mode : LaunchMode) (intraCC : Int) : Int :=
  if mode = .GROUP ∧ env.cudartAtLeast9000 = true ∧ intraCC ≠ 0 ∧
      (env.members k).cudaCompCap = intraCC then
    (env.members k).cooperativeMultiDeviceLaunch.getD 1
  else 1

/-- What `cgMdLaunch` ends as on member `k`: `*intraCC` is the intraRank-0 member's compute
capability. -/
def cgMdLaunchOf (env : IntraEnv) (k : Nat) : Int :=
  cgMdLaunchAfter env k (launchModeOf env) (env.members 0).cudaCompCap

/-- The query says no exactly when it runs and the attribute call writes `0`. -/
theorem cgMdLaunchOf_eq_zero_iff (env : IntraEnv) (k : Nat) :
    cgMdLaunchOf env k = 0 ↔
      launchModeOf env = .GROUP ∧ env.cudartAtLeast9000 = true ∧
        (env.members 0).cudaCompCap ≠ 0 ∧
        (env.members k).cudaCompCap = (env.members 0).cudaCompCap ∧
        (env.members k).cooperativeMultiDeviceLaunch = some 0 := by
  unfold cgMdLaunchOf cgMdLaunchAfter
  split_ifs with h
  · cases hc : (env.members k).cooperativeMultiDeviceLaunch <;> simp [h, hc]
  · simp only [show (1 : Int) ≠ 0 by decide, false_iff]
    exact fun h' => h ⟨h'.1, h'.2.1, h'.2.2.1, h'.2.2.2.1⟩

/-! ## The system -/

/-- The state of the group: each member's program counter, its communicator's five
pointers (member 0's are `comm0`'s), its `launchMode` (`none` before it is set) and its
local `cgMdLaunch`; the `int` cells of the heap by block and offset; and the next block
`malloc` returns. -/
structure IntraState where
  pc : Nat → IntraPc
  ptr : Nat → SharedField → Nat
  launchMode : Nat → Option LaunchMode
  cgMdLaunch : Nat → Int
  mem : Nat × Nat → Int
  nextBlock : Nat

/-- At the call: member 0 about to allocate, the others about to wait, every pointer
`NULL` as `commAlloc`'s `ncclCalloc` left it. -/
def IntraState.start : IntraState where
  pc k := if k = 0 then .alloc .intraBarrier else .wait .intraBarrier
  ptr _ _ := 0
  launchMode _ := none
  cgMdLaunch _ := 1
  mem _ := 0
  nextBlock := 1

/-- The value member `k` stores into a new object before publishing it: `*CGMode = 0x11`,
`*CC = ncclCudaCompCap()`, and `ncclCalloc`'s zero otherwise (`bar[0] = bar[1] = 0`). -/
def allocValue (env : IntraEnv) (k : Nat) : SharedField → Int
  | .intraCGMode => 0x11
  | .intraCC => (env.members k).cudaCompCap
  | _ => 0

/-- One atomic action of member `k`, or `none` when it cannot move: it has returned, or it
waits on a field `comm0` has not published. -/
def intraStep (env : IntraEnv) (s : IntraState) (k : Nat) : Option IntraState :=
  match s.pc k with
  | .alloc f =>
      if env.callocOk f then
        some { s with
          pc := Function.update s.pc k (IntraPc.afterAlloc f)
          ptr := Function.update s.ptr k (Function.update (s.ptr k) f s.nextBlock)
          mem := fun c => if c.1 = s.nextBlock then (if c.2 = 0 then allocValue env k f else 0)
            else s.mem c
          nextBlock := s.nextBlock + 1 }
      else some { s with pc := Function.update s.pc k (.done ncclSystemError) }
  | .wait f =>
      if s.ptr 0 f = 0 then none
      else some { s with
        pc := Function.update s.pc k (IntraPc.afterWait f)
        ptr := Function.update s.ptr k (Function.update (s.ptr k) f (s.ptr 0 f)) }
  | .setDevice =>
      some { s with
        pc := Function.update s.pc k .setLaunchMode
        mem := Function.update s.mem (s.ptr k .intraCudaDevs, k) (env.members k).cudaDev }
  | .setLaunchMode =>
      if launchModeOf env = .GROUP ∧ (env.members k).streamCreated = false then
        some { s with
          pc := Function.update s.pc k (.done ncclUnhandledCudaError)
          launchMode := Function.update s.launchMode k (some (launchModeOf env)) }
      else
        some { s with
          pc := Function.update s.pc k .setCGMode
          launchMode := Function.update s.launchMode k (some (launchModeOf env))
          cgMdLaunch := Function.update s.cgMdLaunch k
            (cgMdLaunchAfter env k (launchModeOf env) (s.mem (s.ptr k .intraCC, 0))) }
  | .setCGMode =>
      some { s with
        pc := Function.update s.pc k (.done ncclSuccess)
        mem := if s.cgMdLaunch k = 0 then Function.update s.mem (s.ptr k .intraCGMode, 0) 0x10
          else s.mem }
  | .done _ => none

/-- Every interleaving of the members' actions from the start. -/
inductive IntraReachable (env : IntraEnv) : IntraState → Prop
  | start : IntraReachable env IntraState.start
  | step {s s' : IntraState} (k : Nat) : k < env.ranks → IntraReachable env s →
      intraStep env s k = some s' → IntraReachable env s'

/-- The members' actions in the order `ks`, or `none` if one of them cannot move. -/
def intraRun (env : IntraEnv) (ks : List Nat) (s : IntraState) : Option IntraState :=
  ks.foldlM (intraStep env) s

theorem intraRun_reachable (env : IntraEnv) (ks : List Nat) (hks : ∀ k ∈ ks, k < env.ranks)
    {s s' : IntraState} (hs : IntraReachable env s) (h : intraRun env ks s = some s') :
    IntraReachable env s' := by
  induction ks generalizing s with
  | nil => cases h; exact hs
  | cons k ks ih =>
      simp only [intraRun, List.foldlM_cons] at h
      obtain ⟨t, ht, h⟩ := Option.bind_eq_some.mp h
      exact ih (fun j hj => hks j (List.mem_cons_of_mem k hj))
        (.step k (hks k (List.mem_cons_self k ks)) hs ht) h

/-! ## What one action does -/

section Step

variable {env : IntraEnv} {s s' : IntraState} {k : Nat}

/-- An action changes only its actor's counter, pointers, launch mode and `cgMdLaunch`. -/
theorem intraStep_frame (h : intraStep env s k = some s') {j : Nat} (hj : j ≠ k) :
    s'.pc j = s.pc j ∧ s'.ptr j = s.ptr j ∧ s'.launchMode j = s.launchMode j ∧
      s'.cgMdLaunch j = s.cgMdLaunch j := by
  unfold intraStep at h
  split at h
  · split_ifs at h <;> cases h <;> simp [Function.update_noteq hj]
  · split_ifs at h; cases h; simp [Function.update_noteq hj]
  · cases h; simp [Function.update_noteq hj]
  · split_ifs at h <;> cases h <;> simp [Function.update_noteq hj]
  · cases h; simp [Function.update_noteq hj]
  · cases h

/-- **Every action moves its actor forward**, so a member takes at most eight actions and
every interleaving is finite. -/
theorem intraStep_stage_lt (h : intraStep env s k = some s') :
    (s.pc k).stage < (s'.pc k).stage := by
  unfold intraStep at h
  split at h
  · next f hpc =>
      have := f.index_le
      split_ifs at h <;> cases h <;> simp [hpc]; omega
  · next f hpc => split_ifs at h; cases h; simp [hpc]
  · next hpc => cases h; simp [hpc]
  · next hpc => split_ifs at h <;> cases h <;> simp [hpc]
  · next hpc => cases h; simp [hpc]
  · cases h

end Step

/-! ## The invariant -/

/-- Some member `j < ranks` has returned `ncclSuccess` with `cgMdLaunch == 0`, so it wrote
`0x10`. -/
def CgDisabled (ranks : Nat) (pc : Nat → IntraPc) (cg : Nat → Int) : Prop :=
  ∃ j < ranks, pc j = .done ncclSuccess ∧ cg j = 0

instance (ranks : Nat) (pc : Nat → IntraPc) (cg : Nat → Int) :
    Decidable (CgDisabled ranks pc cg) :=
  inferInstanceAs (Decidable (∃ j < ranks, pc j = .done ncclSuccess ∧ cg j = 0))

/-- An action of a member that has not returned adds at most itself to `CgDisabled`. -/
theorem cgDisabled_update {ranks k : Nat} {pc : Nat → IntraPc} {cg : Nat → Int} (hk : k < ranks)
    (hpc : pc k ≠ .done ncclSuccess) (p : IntraPc) (c : Int) :
    CgDisabled ranks (Function.update pc k p) (Function.update cg k c) ↔
      CgDisabled ranks pc cg ∨ (p = .done ncclSuccess ∧ c = 0) := by
  constructor
  · rintro ⟨j, hj, hp, hc⟩
    by_cases hjk : j = k
    · subst hjk; simp_all
    · simp only [Function.update_noteq hjk] at hp hc
      exact Or.inl ⟨j, hj, hp, hc⟩
  · rintro (⟨j, hj, hp, hc⟩ | ⟨rfl, rfl⟩)
    · have hjk : j ≠ k := by rintro rfl; exact hpc hp
      exact ⟨j, hj, by simpa [Function.update_noteq hjk], by simpa [Function.update_noteq hjk]⟩
    · exact ⟨k, hk, by simp, by simp⟩

/-- An action that leaves `cgMdLaunch` alone and does not return `ncclSuccess` leaves
`CgDisabled` as it was. -/
theorem cgDisabled_update_pc {ranks k : Nat} {pc : Nat → IntraPc} {cg : Nat → Int}
    (hk : k < ranks) (hpc : pc k ≠ .done ncclSuccess) {p : IntraPc} (hp : p ≠ .done ncclSuccess) :
    CgDisabled ranks (Function.update pc k p) cg ↔ CgDisabled ranks pc cg := by
  have h : CgDisabled ranks (Function.update pc k p) (Function.update cg k (cg k)) ↔ _ :=
    cgDisabled_update hk hpc p (cg k)
  rwa [Function.update_eq_self, or_iff_left fun h => hp h.1] at h

/-- What the intraRank-0 member's counter and `comm0`'s pointers say about the heap: the
fields below `nextBlock` are published, each at its own block, and unless an allocation
failed the counter says how many. -/
structure FirstInv (pc : IntraPc) (comm0 : SharedField → Nat) (nextBlock : Nat) : Prop where
  not_wait : ∀ f : SharedField, pc ≠ .wait f
  nextBlock_eq : pc ≠ .done ncclSystemError → min pc.stage 5 + 1 = nextBlock
  nextBlock_le : nextBlock ≤ 6
  comm0 : ∀ f : SharedField, comm0 f = if f.block < nextBlock then f.block else 0

/-- What another member's counter says about its pointers: it holds exactly the blocks it
has waited for, and those are published. -/
structure OtherInv (pc : IntraPc) (comm : SharedField → Nat) (nextBlock : Nat) : Prop where
  not_alloc : ∀ f : SharedField, pc ≠ .alloc f
  adopted : ∀ f : SharedField, comm f = if f.index < pc.stage then f.block else 0
  published : ∀ f : SharedField, f.index < pc.stage → f.block < nextBlock

/-- What one member's own state says, given how many blocks are published: the
intraRank-0 member's part or another member's, and its launch mode and query result. -/
structure MemberInv (env : IntraEnv) (nextBlock j : Nat) (pc : IntraPc)
    (comm : SharedField → Nat) (mode : Option LaunchMode) (cg : Int) : Prop where
  first : j = 0 → FirstInv pc comm nextBlock
  other : j ≠ 0 → OtherInv pc comm nextBlock
  launchMode : ∀ m, mode = some m → m = launchModeOf env
  modeSet : 6 < pc.stage → pc ≠ .done ncclSystemError → mode = some (launchModeOf env)
  queried : pc = .setCGMode ∨ pc = .done ncclSuccess → cg = cgMdLaunchOf env j
  allocFailed : pc = .done ncclSystemError → ∃ f, env.callocOk f = false

/-- The invariant of every reachable state: each member's own part, and the two shared
cells once they are published. -/
structure IntraInv (env : IntraEnv) (s : IntraState) : Prop where
  member : ∀ j, MemberInv env s.nextBlock j (s.pc j) (s.ptr j) (s.launchMode j) (s.cgMdLaunch j)
  intraCC : SharedField.intraCC.block < s.nextBlock →
    s.mem (SharedField.intraCC.block, 0) = (env.members 0).cudaCompCap
  intraCGMode : SharedField.intraCGMode.block < s.nextBlock →
    s.mem (SharedField.intraCGMode.block, 0) =
      if CgDisabled env.ranks s.pc s.cgMdLaunch then 0x10 else 0x11

/-! ## The invariant holds at the start and after every action -/

section Invariant

variable {env : IntraEnv} {s s' : IntraState} {k : Nat}

theorem intraInv_start : IntraInv env IntraState.start where
  member j := by
    by_cases hj : j = 0
    · subst hj
      refine ⟨fun _ => ⟨?_, fun _ => rfl, by decide, fun f => ?_⟩, fun h => absurd rfl h,
        ?_, ?_, ?_, ?_⟩ <;> simp [IntraState.start, SharedField.block]
    · refine ⟨fun h => absurd h hj, fun _ => ⟨?_, fun f => ?_, fun f => ?_⟩, ?_, ?_, ?_, ?_⟩ <;>
        simp [IntraState.start, hj, SharedField.index]
  intraCC := by simp [IntraState.start, SharedField.block, SharedField.index]
  intraCGMode := by simp [IntraState.start, SharedField.block, SharedField.index]

theorem FirstInv.nextBlock_of_alloc {f : SharedField} {comm : SharedField → Nat} {n : Nat}
    (h : FirstInv (.alloc f) comm n) : n = f.block := by
  have := h.nextBlock_eq (by simp)
  have := f.index_le
  simp only [IntraPc.stage_alloc, SharedField.block] at *
  omega

/-- A pointer `comm0` holds is its field's published block. -/
theorem FirstInv.published {pc : IntraPc} {comm : SharedField → Nat} {n : Nat}
    (h : FirstInv pc comm n) {f : SharedField} (hf : comm f ≠ 0) : comm f = f.block ∧ f.block < n := by
  rw [h.comm0] at hf ⊢
  split_ifs at hf ⊢ with hlt
  · exact ⟨rfl, hlt⟩
  · exact absurd rfl hf

/-- Publishing `f` moves the intraRank-0 member on by one block. -/
theorem FirstInv.alloc {f : SharedField} {comm : SharedField → Nat} {n : Nat}
    (h : FirstInv (.alloc f) comm n) :
    FirstInv (IntraPc.afterAlloc f) (Function.update comm f n) (n + 1) := by
  have hn := h.nextBlock_of_alloc
  have hf := f.index_le
  refine ⟨IntraPc.afterAlloc_ne_wait f, fun _ => ?_, ?_, fun g => ?_⟩
  · simp only [IntraPc.stage_afterAlloc, hn, SharedField.block]; omega
  · simp only [hn, SharedField.block]; omega
  · by_cases hg : g = f
    · subst hg; simp [hn]
    · have hne : g.block ≠ n := fun he =>
        hg (SharedField.index_injective (by simp only [hn, SharedField.block] at he; omega))
      rw [Function.update_noteq hg, h.comm0]
      simp only [show g.block < n ↔ g.block < n + 1 by omega]

/-- Copying a published `f` moves another member on by one field. -/
theorem OtherInv.wait {f : SharedField} {comm : SharedField → Nat} {n : Nat}
    (h : OtherInv (.wait f) comm n) (hf : f.block < n) :
    OtherInv (IntraPc.afterWait f) (Function.update comm f f.block) n := by
  refine ⟨IntraPc.afterWait_ne_alloc f, fun g => ?_, fun g hg => ?_⟩
  · by_cases hgf : g = f
    · subst hgf; simp
    · have hne : g.index ≠ f.index := fun he => hgf (SharedField.index_injective he)
      rw [Function.update_noteq hgf, h.adopted, IntraPc.stage_wait, IntraPc.stage_afterWait]
      simp only [show g.index < f.index ↔ g.index < f.index + 1 by omega]
  · by_cases hgf : g = f
    · subst hgf; exact hf
    · have hne : g.index ≠ f.index := fun he => hgf (SharedField.index_injective he)
      rw [IntraPc.stage_afterWait] at hg
      exact h.published g (by rw [IntraPc.stage_wait]; omega)

/-- Another member's invariant survives more blocks being published. -/
theorem OtherInv.mono {pc : IntraPc} {comm : SharedField → Nat} {n n' : Nat}
    (h : OtherInv pc comm n) (hn : n ≤ n') : OtherInv pc comm n' :=
  ⟨h.not_alloc, h.adopted, fun f hf => (h.published f hf).trans_le hn⟩

/-- Past the waits, a member's pointer part stays as it is. -/
theorem MemberInv.advance {n j : Nat} {pc pc' : IntraPc} {comm : SharedField → Nat}
    {mode mode' : Option LaunchMode} {cg cg' : Int} (h : MemberInv env n j pc comm mode cg)
    (hpc : 5 ≤ pc.stage) (hne : pc ≠ .done ncclSystemError) (hpc' : 5 ≤ pc'.stage)
    (hne' : pc' ≠ .done ncclSystemError) (hmode : ∀ m, mode' = some m → m = launchModeOf env)
    (hset : 6 < pc'.stage → mode' = some (launchModeOf env))
    (hq : pc' = .setCGMode ∨ pc' = .done ncclSuccess → cg' = cgMdLaunchOf env j) :
    MemberInv env n j pc' comm mode' cg' := by
  have hlt : ∀ f : SharedField, f.index < 5 := fun f => Nat.lt_succ_of_le f.index_le
  refine ⟨fun hj => ?_, fun hj => ?_, hmode, fun h _ => hset h, hq, fun h => absurd h hne'⟩
  · have h0 := h.first hj
    refine ⟨fun f he => by rw [he, IntraPc.stage_wait] at hpc'; exact absurd (hlt f) (by omega),
      fun _ => ?_,
      h0.nextBlock_le, h0.comm0⟩
    rw [← h0.nextBlock_eq hne, min_eq_right hpc, min_eq_right hpc']
  · have h1 := h.other hj
    refine ⟨fun f he => by rw [he, IntraPc.stage_alloc] at hpc'; exact absurd (hlt f) (by omega),
      fun f => ?_,
      fun f _ => h1.published f ((hlt f).trans_le hpc)⟩
    rw [h1.adopted, if_pos ((hlt f).trans_le hpc), if_pos ((hlt f).trans_le hpc')]

theorem IntraInv.eq_zero_of_alloc (hinv : IntraInv env s) {f : SharedField}
    (h : s.pc k = .alloc f) : k = 0 :=
  Classical.byContradiction fun hk => ((hinv.member k).other hk).not_alloc f h

theorem IntraInv.ne_zero_of_wait (hinv : IntraInv env s) {f : SharedField}
    (h : s.pc k = .wait f) : k ≠ 0 := by
  rintro rfl
  exact ((hinv.member 0).first rfl).not_wait f h

/-- **A member past the waits holds all five published blocks.** -/
theorem IntraInv.ptr_eq_block (hinv : IntraInv env s) (hk : 5 ≤ (s.pc k).stage)
    (hne : s.pc k ≠ .done ncclSystemError) (f : SharedField) :
    s.ptr k f = f.block ∧ s.nextBlock = 6 := by
  have hf := f.index_le
  by_cases h0 : k = 0
  · subst h0
    have h1 := (hinv.member 0).first rfl
    have hn := h1.nextBlock_eq hne
    rw [min_eq_right hk] at hn
    refine ⟨?_, hn.symm⟩
    rw [h1.comm0, if_pos (by simp only [SharedField.block]; omega)]
  · have ho := (hinv.member k).other h0
    have hcc := ho.published .intraCC (by simp only [SharedField.index]; omega)
    refine ⟨by rw [ho.adopted, if_pos (by omega)], ?_⟩
    have := ((hinv.member 0).first rfl).nextBlock_le
    simp only [SharedField.block, SharedField.index] at hcc
    omega

/-- An action leaves `nextBlock` alone, except an allocation, which takes one block. -/
theorem intraStep_nextBlock (h : intraStep env s k = some s') :
    s'.nextBlock = s.nextBlock ∨ (∃ f, s.pc k = .alloc f) ∧ s'.nextBlock = s.nextBlock + 1 := by
  unfold intraStep at h
  split at h
  · next f hpc => split_ifs at h <;> cases h
                  · exact Or.inr ⟨⟨f, hpc⟩, rfl⟩
                  · exact Or.inl rfl
  · split_ifs at h; cases h; exact Or.inl rfl
  · cases h; exact Or.inl rfl
  · split_ifs at h <;> cases h <;> exact Or.inl rfl
  · cases h; exact Or.inl rfl
  · cases h

/-- The members that do not act keep their part of the invariant. -/
theorem IntraInv.member_step (hinv : IntraInv env s) (h : intraStep env s k = some s')
    {j : Nat} (hj : j ≠ k) :
    MemberInv env s'.nextBlock j (s'.pc j) (s'.ptr j) (s'.launchMode j) (s'.cgMdLaunch j) := by
  obtain ⟨hpc, hptr, hmode, hcg⟩ := intraStep_frame h hj
  rw [hpc, hptr, hmode, hcg]
  have hm := hinv.member j
  rcases intraStep_nextBlock h with hn | ⟨⟨f, hf⟩, hn⟩
  · rwa [hn]
  · have hk0 := hinv.eq_zero_of_alloc hf
    exact ⟨fun hj0 => absurd (hj0.trans hk0.symm) hj,
      fun hj0 => (hm.other hj0).mono (by omega), hm.launchMode, hm.modeSet, hm.queried,
      hm.allocFailed⟩

/-- Assembling the invariant after an action of `k` from the actor's part, the others'
parts and the two cells. -/
theorem IntraInv.of_actor (hinv : IntraInv env s) (h : intraStep env s k = some s')
    (hown : MemberInv env s'.nextBlock k (s'.pc k) (s'.ptr k) (s'.launchMode k) (s'.cgMdLaunch k))
    (hcc : SharedField.intraCC.block < s'.nextBlock →
      s'.mem (SharedField.intraCC.block, 0) = (env.members 0).cudaCompCap)
    (hcg : SharedField.intraCGMode.block < s'.nextBlock →
      s'.mem (SharedField.intraCGMode.block, 0) =
        if CgDisabled env.ranks s'.pc s'.cgMdLaunch then 0x10 else 0x11) :
    IntraInv env s' := by
  refine ⟨fun j => ?_, hcc, hcg⟩
  by_cases hj : j = k
  · subst hj; exact hown
  · exact hinv.member_step h hj

/-- The intraRank-0 member allocates, or fails to allocate, field `f`. -/
theorem IntraInv.step_alloc (hinv : IntraInv env s) (hk : k < env.ranks) {f : SharedField}
    (hpc : s.pc k = .alloc f) (h : intraStep env s k = some s') : IntraInv env s' := by
  obtain rfl := hinv.eq_zero_of_alloc hpc
  have h1 := (hinv.member 0).first rfl
  rw [hpc] at h1
  have hn := h1.nextBlock_of_alloc
  have hf := f.index_le
  have hnd : s.pc 0 ≠ .done ncclSuccess := by simp [hpc]
  have hstep := h
  simp only [intraStep, hpc] at h
  split_ifs at h <;> cases h
  · have hq : ¬(IntraPc.afterAlloc f = .setCGMode ∨ IntraPc.afterAlloc f = .done ncclSuccess) :=
      IntraPc.not_queried (by simp; omega)
    refine hinv.of_actor hstep ⟨fun _ => by simpa using h1.alloc, fun h => absurd rfl h,
      by simpa using (hinv.member 0).launchMode, fun h => by simp at h; omega,
      fun h => absurd (by simpa using h) hq,
      fun h => absurd (by simpa using h) (IntraPc.ne_done_of_stage (by simp; omega) _)⟩
      (fun hlt => ?_) (fun hlt => ?_)
    · -- only the allocation of `intraCC` publishes it
      simp only [hn, SharedField.block, SharedField.index_intraCC] at hlt
      obtain rfl : f = .intraCC :=
        SharedField.index_injective (by simp only [SharedField.index_intraCC]; omega)
      simp [hn, allocValue]
    · simp only [hn, SharedField.block, SharedField.index_intraCGMode] at hlt
      by_cases hcg : f = .intraCGMode
      · -- the cell starts at `0x11`, and no member can have returned yet
        subst hcg
        have hnone : ¬CgDisabled env.ranks (Function.update s.pc 0 (IntraPc.afterAlloc .intraCGMode))
            s.cgMdLaunch := by
          rintro ⟨j, -, hj, -⟩
          by_cases hj0 : j = 0
          · subst hj0; simp [IntraPc.afterAlloc] at hj
          · rw [Function.update_noteq hj0] at hj
            have := ((hinv.member j).other hj0).published .intraCC (by simp [hj])
            simp [hn, SharedField.block] at this
        simp [hn, allocValue, hnone]
      · -- the allocation of `intraCC` leaves the cell alone
        obtain rfl : f = .intraCC := SharedField.index_injective (by
          have : f.index ≠ 3 := fun he => hcg (SharedField.index_injective he)
          simp only [SharedField.index_intraCC]; omega)
        have hold := hinv.intraCGMode (by simp [hn, SharedField.block])
        simp only [cgDisabled_update_pc hk hnd (by simp [IntraPc.afterAlloc] : IntraPc.afterAlloc
          .intraCC ≠ .done ncclSuccess)]
        simpa [hn, SharedField.block] using hold
  · refine hinv.of_actor hstep ⟨fun _ => ?_, fun h => absurd rfl h,
      by simpa using (hinv.member 0).launchMode, fun _ h => by simp at h, fun h => by simp at h,
      fun _ => ⟨f, by simpa using ‹¬env.callocOk f = true›⟩⟩
      (fun hlt => hinv.intraCC hlt) (fun hlt => ?_)
    · have h0 := (hinv.member 0).first rfl
      exact ⟨by simp, fun h => by simp at h, h0.nextBlock_le, by simpa using h0.comm0⟩
    · simpa [cgDisabled_update_pc hk hnd] using hinv.intraCGMode hlt

/-- Another member copies the published field `f`. -/
theorem IntraInv.step_wait (hinv : IntraInv env s) (hk : k < env.ranks) {f : SharedField}
    (hpc : s.pc k = .wait f) (h : intraStep env s k = some s') : IntraInv env s' := by
  have hk0 := hinv.ne_zero_of_wait hpc
  have hf := f.index_le
  have hstep := h
  simp only [intraStep, hpc] at h
  split_ifs at h with h0
  cases h
  obtain ⟨hblock, hlt⟩ := ((hinv.member 0).first rfl).published h0
  have ho := (hinv.member k).other hk0
  rw [hpc] at ho
  have hq : ¬(IntraPc.afterWait f = .setCGMode ∨ IntraPc.afterWait f = .done ncclSuccess) :=
    IntraPc.not_queried (by simp; omega)
  refine hinv.of_actor hstep ⟨fun h => absurd h hk0, fun _ => by simpa [hblock] using ho.wait hlt,
    by simpa using (hinv.member k).launchMode, fun h => by simp at h; omega,
    fun h => absurd (by simpa using h) hq,
    fun h => absurd (by simpa using h) (IntraPc.ne_done_of_stage (by simp; omega) _)⟩
    hinv.intraCC fun hlt => ?_
  simpa [cgDisabled_update_pc hk (by simp [hpc] : s.pc k ≠ _) fun h => hq (Or.inr h)]
    using hinv.intraCGMode hlt

/-- A member writes its `intraCudaDevs` slot: the cell is in the `intraCudaDevs` block,
so neither shared cell changes. -/
theorem IntraInv.step_setDevice (hinv : IntraInv env s) (hk : k < env.ranks)
    (hpc : s.pc k = .setDevice) (h : intraStep env s k = some s') : IntraInv env s' := by
  have hptr := hinv.ptr_eq_block (k := k) (by simp [hpc]) (by simp [hpc])
  have hstep := h
  simp only [intraStep, hpc] at h
  cases h
  have hown : MemberInv env s.nextBlock k .setLaunchMode (s.ptr k) (s.launchMode k)
      (s.cgMdLaunch k) := (hinv.member k).advance (by simp [hpc]) (by simp [hpc]) (by simp)
    (by simp) (hinv.member k).launchMode (fun h => by simp at h) (fun h => by simp at h)
  have hdev : (s.ptr k .intraCudaDevs, k) ≠ (SharedField.intraCC.block, 0) ∧
      (s.ptr k .intraCudaDevs, k) ≠ (SharedField.intraCGMode.block, 0) := by
    simp [(hptr _).1, SharedField.block, SharedField.index]
  have hnd : s.pc k ≠ .done ncclSuccess := by simp [hpc]
  refine hinv.of_actor hstep (by simpa using hown) (fun hlt => ?_) (fun hlt => ?_)
  · simpa [Function.update_noteq hdev.1.symm] using hinv.intraCC hlt
  · simpa [Function.update_noteq hdev.2.symm, cgDisabled_update_pc hk hnd]
      using hinv.intraCGMode hlt

/-- A member sets its launch mode, creates its stream and runs the query, reading
`*intraCC` through the pointer it adopted. -/
theorem IntraInv.step_setLaunchMode (hinv : IntraInv env s) (hk : k < env.ranks)
    (hpc : s.pc k = .setLaunchMode) (h : intraStep env s k = some s') : IntraInv env s' := by
  have hptr := hinv.ptr_eq_block (k := k) (by simp [hpc]) (by simp [hpc])
  have hcc : s.mem (s.ptr k .intraCC, 0) = (env.members 0).cudaCompCap := by
    rw [(hptr _).1]
    exact hinv.intraCC (by rw [(hptr .intraCC).2]; decide)
  have hnd : s.pc k ≠ .done ncclSuccess := by simp [hpc]
  have hmode : ∀ m, some (launchModeOf env) = some m → m = launchModeOf env :=
    fun m h => (Option.some.inj h).symm
  have hstep := h
  simp only [intraStep, hpc] at h
  split_ifs at h <;> cases h
  · have hown : MemberInv env s.nextBlock k (.done ncclUnhandledCudaError) (s.ptr k)
        (some (launchModeOf env)) (s.cgMdLaunch k) :=
      (hinv.member k).advance (by simp [hpc]) (by simp [hpc]) (by simp) (by simp) hmode
        (fun _ => rfl) (fun h => by simp at h)
    refine hinv.of_actor hstep (by simpa using hown) hinv.intraCC fun hlt => ?_
    simpa [cgDisabled_update_pc hk hnd] using hinv.intraCGMode hlt
  · have hown : MemberInv env s.nextBlock k .setCGMode (s.ptr k) (some (launchModeOf env))
        (cgMdLaunchAfter env k (launchModeOf env) (s.mem (s.ptr k .intraCC, 0))) :=
      (hinv.member k).advance (by simp [hpc]) (by simp [hpc]) (by simp) (by simp) hmode
        (fun _ => rfl) (fun _ => by rw [hcc]; rfl)
    refine hinv.of_actor hstep (by simpa using hown) hinv.intraCC fun hlt => ?_
    have hdis : CgDisabled env.ranks (Function.update s.pc k .setCGMode)
        (Function.update s.cgMdLaunch k _) ↔ _ := cgDisabled_update hk hnd .setCGMode
      (cgMdLaunchAfter env k (launchModeOf env) (s.mem (s.ptr k .intraCC, 0)))
    simp only [reduceCtorEq, false_and, or_false] at hdis
    simpa [hdis] using hinv.intraCGMode hlt

/-- A member returns `ncclSuccess`, writing `0x10` through its adopted pointer when its
query said no. -/
theorem IntraInv.step_setCGMode (hinv : IntraInv env s) (hk : k < env.ranks)
    (hpc : s.pc k = .setCGMode) (h : intraStep env s k = some s') : IntraInv env s' := by
  have hptr := hinv.ptr_eq_block (k := k) (by simp [hpc]) (by simp [hpc])
  have hq := (hinv.member k).queried (Or.inl hpc)
  have hdis : CgDisabled env.ranks (Function.update s.pc k (.done ncclSuccess))
      (Function.update s.cgMdLaunch k (s.cgMdLaunch k)) ↔ _ :=
    cgDisabled_update hk (by simp [hpc]) (.done ncclSuccess) (s.cgMdLaunch k)
  rw [Function.update_eq_self] at hdis
  have hstep := h
  simp only [intraStep, hpc] at h
  cases h
  have hown : MemberInv env s.nextBlock k (.done ncclSuccess) (s.ptr k) (s.launchMode k)
      (s.cgMdLaunch k) := (hinv.member k).advance (by simp [hpc]) (by simp [hpc]) (by simp)
    (by simp) (hinv.member k).launchMode
    (fun _ => (hinv.member k).modeSet (by simp [hpc]) (by simp [hpc])) (fun _ => hq)
  refine hinv.of_actor hstep (by simpa using hown) (fun hlt => ?_) (fun hlt => ?_)
  · have hne : (s.ptr k .intraCGMode, 0) ≠ (SharedField.intraCC.block, 0) := by
      simp [(hptr _).1, SharedField.block, SharedField.index]
    split_ifs <;> simpa [Function.update_noteq hne.symm] using hinv.intraCC hlt
  · by_cases h0 : s.cgMdLaunch k = 0
    · have hdis' := hdis.mpr (Or.inr ⟨rfl, h0⟩)
      simp only [h0, if_true, hdis']
      rw [(hptr .intraCGMode).1, Function.update_same]
    · simpa [h0, hdis] using hinv.intraCGMode hlt

/-- **Every action keeps the invariant.** -/
theorem intraInv_step (hinv : IntraInv env s) (hk : k < env.ranks)
    (h : intraStep env s k = some s') : IntraInv env s' := by
  cases hpc : s.pc k with
  | alloc f => exact hinv.step_alloc hk hpc h
  | wait f => exact hinv.step_wait hk hpc h
  | setDevice => exact hinv.step_setDevice hk hpc h
  | setLaunchMode => exact hinv.step_setLaunchMode hk hpc h
  | setCGMode => exact hinv.step_setCGMode hk hpc h
  | done r => simp [intraStep, hpc] at h

/-- The invariant holds in every reachable state. -/
theorem intraInv_reachable (hs : IntraReachable env s) : IntraInv env s := by
  induction hs with
  | start => exact intraInv_start
  | step k hk _ h ih => exact intraInv_step ih hk h

end Invariant

/-! ## Agreement, progress and termination -/

section Runs

variable {env : IntraEnv} {s : IntraState}

/-- Member 0 publishes everything, member 1 adopts it, then each finishes in turn. -/
def publishThenAdopt : List Nat := [0, 0, 0, 0, 0, 1, 1, 1, 1, 1, 0, 0, 0, 1, 1, 1]

/-- Two members on GPUs of one compute capability; member 1's device reports no
cooperative multi-device launch. -/
def refusedQueryEnv : IntraEnv where
  ranks := 2
  members k := if k = 0 then ⟨0, 90, true, some 1⟩ else ⟨1, 90, true, some 0⟩
  launchModeEnv := none
  cudartAtLeast9000 := true
  callocOk _ := true

def refusedQueryRun : IntraState :=
  (intraRun refusedQueryEnv publishThenAdopt IntraState.start).getD IntraState.start

/-- **The shared launch state is agreed in every interleaving.** In every reachable state:
every member past a wait holds the pointer `comm0` published there; every member that has
set its launch mode has set `launchModeOf env`; once `intraCGMode` is published its cell
holds `0x10` or `0x11`, and `0x10` exactly when some member that returned `ncclSuccess` ran
the attribute query (launch mode `GROUP`, the query compiled in, `*intraCC` nonzero and
equal to the member's own compute capability) and was told `0`. When every member has
returned `ncclSuccess`, every member holds all five of `comm0`'s pointers, none `NULL`, and
the launch mode `launchModeOf env`. -/
theorem setIntra_agreement (env : IntraEnv) (s : IntraState) (hs : IntraReachable env s) :
    (∀ k (f : SharedField), k ≠ 0 → f.index < (s.pc k).stage →
      s.ptr k f = s.ptr 0 f ∧ s.ptr 0 f ≠ 0) ∧
    (∀ k m, s.launchMode k = some m → m = launchModeOf env) ∧
    (s.ptr 0 .intraCGMode ≠ 0 →
      (s.mem (s.ptr 0 .intraCGMode, 0) = 0x10 ∨ s.mem (s.ptr 0 .intraCGMode, 0) = 0x11) ∧
      (s.mem (s.ptr 0 .intraCGMode, 0) = 0x10 ↔
        ∃ k < env.ranks, s.pc k = .done ncclSuccess ∧ launchModeOf env = .GROUP ∧
          env.cudartAtLeast9000 = true ∧ (env.members 0).cudaCompCap ≠ 0 ∧
          (env.members k).cudaCompCap = (env.members 0).cudaCompCap ∧
          (env.members k).cooperativeMultiDeviceLaunch = some 0)) ∧
    ((∀ k < env.ranks, s.pc k = .done ncclSuccess) → ∀ k < env.ranks, ∀ f,
      s.ptr k f = s.ptr 0 f ∧ s.ptr 0 f ≠ 0 ∧ s.launchMode k = some (launchModeOf env)) := by
  have hinv := intraInv_reachable hs
  have h0 := (hinv.member 0).first rfl
  refine ⟨fun k f hk hf => ?_, fun k => (hinv.member k).launchMode, fun hcg => ?_,
    fun hall k hk f => ?_⟩
  · have ho := (hinv.member k).other hk
    rw [ho.adopted, if_pos hf, h0.comm0, if_pos (ho.published f hf)]
    exact ⟨rfl, Nat.succ_ne_zero _⟩
  · obtain ⟨hblock, hlt⟩ := h0.published hcg
    have hiff : CgDisabled env.ranks s.pc s.cgMdLaunch ↔
        ∃ k < env.ranks, s.pc k = .done ncclSuccess ∧ cgMdLaunchOf env k = 0 :=
      exists_congr fun k => and_congr_right fun _ => and_congr_right fun hd => by
        rw [(hinv.member k).queried (Or.inr hd)]
    simp only [← cgMdLaunchOf_eq_zero_iff, ← hiff]
    rw [hblock, hinv.intraCGMode hlt]
    split_ifs with hd
    · exact ⟨Or.inl rfl, iff_of_true rfl hd⟩
    · exact ⟨Or.inr rfl, iff_of_false (by decide) hd⟩
  · have hdone : ∀ j < env.ranks, 5 ≤ (s.pc j).stage ∧ s.pc j ≠ .done ncclSystemError :=
      fun j hj => by rw [hall j hj]; decide
    obtain ⟨hp, -⟩ := hinv.ptr_eq_block (hdone k hk).1 (hdone k hk).2 f
    obtain ⟨hp0, -⟩ := hinv.ptr_eq_block (hdone 0 (by omega)).1 (hdone 0 (by omega)).2 f
    exact ⟨hp.trans hp0.symm, by rw [hp0]; exact Nat.succ_ne_zero _,
      (hinv.member k).modeSet (by rw [hall k hk]; decide) (hdone k hk).2⟩

theorem setIntra_agreement_refused :
    IntraReachable refusedQueryEnv refusedQueryRun ∧
      refusedQueryRun.mem (refusedQueryRun.ptr 0 .intraCGMode, 0) = 0x10 := by
  have hs : IntraReachable refusedQueryEnv refusedQueryRun :=
    intraRun_reachable _ publishThenAdopt (by decide) .start rfl
  exact ⟨hs, ((setIntra_agreement refusedQueryEnv _ hs).2.2.1 (by decide)).2.mpr
    ⟨1, by decide, by decide, by decide, rfl, by decide, rfl, rfl⟩⟩

/-- A member that is neither waiting nor returned can always act. -/
theorem intraStep_isSome {k : Nat} (hw : ∀ f, s.pc k ≠ .wait f) (hd : ∀ r, s.pc k ≠ .done r) :
    (intraStep env s k).isSome := by
  cases hpc : s.pc k with
  | wait f => exact absurd hpc (hw f)
  | done r => exact absurd hpc (hd r)
  | _ => simp only [intraStep, hpc]; first | rfl | split_ifs <;> rfl

/-- **No interleaving deadlocks when every allocation succeeds**: while some member has not
returned, some member can act. Only a failed allocation leaves the others spinning. -/
theorem intraInv_progress (hinv : IntraInv env s) (hok : ∀ f, env.callocOk f = true)
    {k : Nat} (hk : k < env.ranks) (hnd : ∀ r, s.pc k ≠ .done r) :
    ∃ j < env.ranks, (intraStep env s j).isSome := by
  have h0 := (hinv.member 0).first rfl
  by_cases hd0 : ∃ r, s.pc 0 = .done r
  · obtain ⟨r, hr⟩ := hd0
    have hne : r ≠ ncclSystemError := by
      rintro rfl
      obtain ⟨f, hf⟩ := (hinv.member 0).allocFailed hr
      simp [hok] at hf
    have hnb := h0.nextBlock_eq (by rw [hr]; simpa using hne)
    rw [hr] at hnb
    refine ⟨k, hk, ?_⟩
    by_cases hw : ∃ f, s.pc k = .wait f
    · -- every field is published, so the wait ends
      obtain ⟨f, hf⟩ := hw
      have hlt : f.block < s.nextBlock := by
        have := f.index_le
        simp only [← hnb, IntraPc.stage_done, SharedField.block]
        omega
      have hpub : s.ptr 0 f ≠ 0 := by
        rw [h0.comm0, if_pos hlt]
        exact Nat.succ_ne_zero _
      simp [intraStep, hf, hpub]
    · exact intraStep_isSome (fun f h => hw ⟨f, h⟩) hnd
  · exact ⟨0, by omega, intraStep_isSome h0.not_wait fun r h => hd0 ⟨r, h⟩⟩

/-- A run adds to each member's stage at least the number of actions it takes. -/
theorem intraRun_count_stage (env : IntraEnv) (ks : List Nat) {s s' : IntraState}
    (h : intraRun env ks s = some s') (k : Nat) :
    ks.count k + (s.pc k).stage ≤ (s'.pc k).stage := by
  induction ks generalizing s with
  | nil => cases h; simp
  | cons j ks ih =>
      simp only [intraRun, List.foldlM_cons] at h
      obtain ⟨t, ht, h⟩ := Option.bind_eq_some.mp h
      have ih := ih h
      by_cases hjk : j = k
      · subst hjk
        have := intraStep_stage_lt ht
        simp only [List.count_cons_self]
        omega
      · rw [List.count_cons_of_ne (Ne.symm hjk), ← (intraStep_frame ht (Ne.symm hjk)).1]
        exact ih

/-- **Every interleaving is finite**: in a run from the start each member acts at most eight
times. -/
theorem intraRun_count_le (env : IntraEnv) (ks : List Nat) {s : IntraState}
    (h : intraRun env ks IntraState.start = some s) (k : Nat) : ks.count k ≤ 8 :=
  (Nat.le_add_right _ _).trans ((intraRun_count_stage env ks h k).trans (IntraPc.stage_le _))

/-- **Every interleaving ends, with every member returned.** In a run from the start each
member acts at most eight times; and when every allocation of member `0` succeeds, a reachable
state in which no member can act is one in which every member has returned. -/
theorem setIntra_terminates (env : IntraEnv) (hok : ∀ f, env.callocOk f = true) :
    (∀ ks s, intraRun env ks IntraState.start = some s → ∀ k, ks.count k ≤ 8) ∧
    ∀ s, IntraReachable env s → (∀ j < env.ranks, intraStep env s j = none) →
      ∀ k < env.ranks, ∃ r, s.pc k = .done r := by
  refine ⟨fun ks _ h k => intraRun_count_le env ks h k, fun s hs hstuck k hk => ?_⟩
  by_contra hnd
  obtain ⟨j, hj, hsome⟩ :=
    intraInv_progress (intraInv_reachable hs) hok hk fun r h => hnd ⟨r, h⟩
  rw [hstuck j hj] at hsome
  exact Bool.false_ne_true hsome

theorem setIntra_terminates_refused :
    (∀ f, refusedQueryEnv.callocOk f = true) ∧
      (∀ ks s, intraRun refusedQueryEnv ks IntraState.start = some s → ∀ k, ks.count k ≤ 8) ∧
      ∀ s, IntraReachable refusedQueryEnv s →
        (∀ j < refusedQueryEnv.ranks, intraStep refusedQueryEnv s j = none) →
        ∀ k < refusedQueryEnv.ranks, ∃ r, s.pc k = .done r :=
  ⟨fun _ => rfl, setIntra_terminates refusedQueryEnv fun _ => rfl⟩

/-- Two members whose GPUs differ: member 1's compute capability is not member 0's, and its
device reports no cooperative multi-device launch. -/
def mismatchedCompCapEnv : IntraEnv where
  ranks := 2
  members k := if k = 0 then ⟨0, 90, true, some 1⟩ else ⟨1, 94, true, some 0⟩
  launchModeEnv := none
  cudartAtLeast9000 := true
  callocOk _ := true

def mismatchedCompCapRun : IntraState :=
  (intraRun mismatchedCompCapEnv publishThenAdopt IntraState.start).getD IntraState.start

/-- **A member whose compute capability differs from `*intraCC` leaves `0x11`.** Both
members return `ncclSuccess` in launch mode `GROUP`; member 1's capability differs from
`*intraCC` and its device reports no cooperative launch, yet `*intraCGMode` ends `0x11`,
since member 1 never runs the query. -/
theorem setIntra_mismatched_compCap :
    IntraReachable mismatchedCompCapEnv mismatchedCompCapRun ∧
      (∀ k < 2, mismatchedCompCapRun.pc k = .done ncclSuccess ∧
        mismatchedCompCapRun.launchMode k = some .GROUP) ∧
      mismatchedCompCapRun.mem (mismatchedCompCapRun.ptr 0 .intraCGMode, 0) = 0x11 ∧
      (mismatchedCompCapEnv.members 1).cudaCompCap ≠
        mismatchedCompCapRun.mem (mismatchedCompCapRun.ptr 0 .intraCC, 0) ∧
      (mismatchedCompCapEnv.members 1).cooperativeMultiDeviceLaunch = some 0 :=
  ⟨intraRun_reachable _ publishThenAdopt (by decide) .start rfl, by decide, by decide, by decide,
    rfl⟩

end Runs

end RcclInit
