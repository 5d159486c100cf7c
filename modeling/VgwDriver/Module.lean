import Mathlib.Data.Int.Notation
import Mathlib.Data.List.Induction
import VgwDriver.Base.Run

/-!
# Loading and unloading the module

`ctnetlink_init` registers a kretprobe (through `vgw_tcptrack_init` and `kprobe_init`), the two nfnetlink
subsystems and the pernet operations, and sets `nfnl_ct_hook`; `ctnetlink_exit` takes them all down.  Each
registration call may fail, so a load attempt comes with the calls' return values.

* `loadSafe_iff` — over every sequence of load and unload attempts, the hooks are all there while the
  module is loaded, gone while it is not, and never unregistered twice, exactly when each load attempt's
  kretprobe registration succeeds if and only if the other three do.
-/

namespace VgwDriver

open Base

/-- What the module hooks into the kernel. -/
inductive Hook where
  | kretprobe
  | subsys
  | expSubsys
  | pernet
  | glueHook
  deriving DecidableEq, Repr

/-- The hooks that are registered, and whether some unregister call was made on one that was not. -/
structure HookState where
  registered : Hook → Bool
  badUnregister : Bool

def HookState.set (s : HookState) (hook : Hook) (b : Bool) : HookState :=
  { s with registered := fun x => if x = hook then b else s.registered x }

/-- A registration call that returns `ret`. -/
def register (hook : Hook) (ret : ℤ) (s : HookState) : HookState × ℤ :=
  if ret < 0 then (s, ret) else (s.set hook true, ret)

/-- An unregister call. -/
def unregister (hook : Hook) (s : HookState) : HookState :=
  { s.set hook false with badUnregister := s.badUnregister || !s.registered hook }

/-- The return values of the registration calls of one load attempt. -/
structure LoadOutcome where
  registerKretprobe : ℤ
  registerSubsys : ℤ
  registerExpSubsys : ℤ
  registerPernet : ℤ
  deriving DecidableEq, Repr

/-- `kprobe_init`. -/
def kprobeInit (o : LoadOutcome) (s : HookState) : HookState × ℤ :=
  match register .kretprobe o.registerKretprobe s with
  | (s, ret) => if ret < 0 then (s, ret) else (s, 0)

/-- `kprobe_exit`. -/
def kprobeExit (s : HookState) : HookState := unregister .kretprobe s

/-- `vgw_tcptrack_init`: the return value of `kprobe_init` is dropped. -/
def vgwTcptrackInit (o : LoadOutcome) (s : HookState) : HookState × ℤ := ((kprobeInit o s).1, 0)

/-- `vgw_tcptrack_exit`. -/
def vgwTcptrackExit (s : HookState) : HookState := kprobeExit s

/-- `ctnetlink_init`, with its unwinding labels. -/
def ctnetlinkInit (o : LoadOutcome) (s : HookState) : HookState × ℤ :=
  match vgwTcptrackInit o s with
  | (s, ret) =>
    if ret < 0 then (s, ret)
    else
      match register .subsys o.registerSubsys s with
      | (s, ret) =>
        if ret < 0 then (s, ret)
        else
          match register .expSubsys o.registerExpSubsys s with
          | (s, ret) =>
            if ret < 0 then (unregister .subsys s, ret)
            else
              match register .pernet o.registerPernet s with
              | (s, ret) =>
                if ret < 0 then (unregister .subsys (unregister .expSubsys s), ret)
                else (s.set .glueHook true, 0)

/-- `ctnetlink_exit`. -/
def ctnetlinkExit (s : HookState) : HookState :=
  let s := vgwTcptrackExit s
  let s := unregister .pernet s
  let s := unregister .expSubsys s
  let s := unregister .subsys s
  s.set .glueHook false

/-! ### Load and unload attempts -/

/-- The kernel's view of the module: loaded is what an init that returned 0 made it. -/
structure ModState where
  hooks : HookState
  loaded : Bool

def ModState.start : ModState := ⟨⟨fun _ => false, false⟩, false⟩

inductive ModAttempt where
  | load (o : LoadOutcome)
  | unload
  deriving DecidableEq, Repr

/-- One attempt.  The kernel loads no module twice, and unloads only a loaded one. -/
def modStep (m : ModState) : ModAttempt → ModState
  | .load o =>
    if m.loaded then m
    else
      match ctnetlinkInit o m.hooks with
      | (hooks, ret) => ⟨hooks, ret = 0⟩
  | .unload => if m.loaded then ⟨ctnetlinkExit m.hooks, false⟩ else m

/-- All hooks are registered while the module is loaded (an init returned 0), none while it is not (an
init failed, or an exit returned), and no unregister call met a hook that was not registered. -/
structure LoadSafe (m : ModState) : Prop where
  hooks : ∀ hook, m.hooks.registered hook = m.loaded
  noBad : m.hooks.badUnregister = false

/-- The kretprobe's registration succeeds exactly when all the others do. -/
def LoadOutcome.Aligned (o : LoadOutcome) : Prop :=
  0 ≤ o.registerKretprobe ↔
    0 ≤ o.registerSubsys ∧ 0 ≤ o.registerExpSubsys ∧ 0 ≤ o.registerPernet

theorem loadSafe_start : LoadSafe ModState.start := ⟨fun _ => rfl, rfl⟩

theorem Hook.forall_iff {P : Hook → Prop} :
    (∀ hook, P hook) ↔
      P .kretprobe ∧ P .subsys ∧ P .expSubsys ∧ P .pernet ∧ P .glueHook := by
  constructor
  · exact fun h => ⟨h _, h _, h _, h _, h _⟩
  · rintro ⟨h₁, h₂, h₃, h₄, h₅⟩ hook
    cases hook <;> assumption

theorem loadSafe_iff_hooks {m : ModState} :
    LoadSafe m ↔
      (∀ hook, m.hooks.registered hook = m.loaded) ∧ m.hooks.badUnregister = false :=
  ⟨fun h => ⟨h.hooks, h.noBad⟩, fun h => ⟨h.1, h.2⟩⟩

/-- Unloading a safely loaded module leaves nothing behind. -/
theorem loadSafe_unload {m : ModState} (hm : LoadSafe m) : LoadSafe (modStep m .unload) := by
  cases hloaded : m.loaded with
  | false => simpa [modStep, hloaded] using hm
  | true =>
    have hreg := fun hook => (hm.hooks hook).trans hloaded
    simp [modStep, hloaded, loadSafe_iff_hooks, Hook.forall_iff, ctnetlinkExit, vgwTcptrackExit,
      kprobeExit, unregister, HookState.set, hreg, hm.noBad]

/-- A load attempt is safe exactly when its outcome is aligned. -/
theorem loadSafe_load_iff {m : ModState} (hm : LoadSafe m) (o : LoadOutcome) :
    LoadSafe (modStep m (.load o)) ↔ (m.loaded = false → o.Aligned) := by
  cases hloaded : m.loaded with
  | true => simpa [modStep, hloaded] using hm
  | false =>
    have hreg := fun hook => (hm.hooks hook).trans hloaded
    have hbad := hm.noBad
    -- the calls are made in this order; each failure ends the attempt with its unwinding
    have hload : modStep m (.load o)
        = ⟨(ctnetlinkInit o m.hooks).1, (ctnetlinkInit o m.hooks).2 = 0⟩ := by
      simp [modStep, hloaded]
    rw [hload, loadSafe_iff_hooks, Hook.forall_iff]
    unfold ctnetlinkInit vgwTcptrackInit kprobeInit LoadOutcome.Aligned
    by_cases hk : o.registerKretprobe < 0 <;>
      by_cases hs : o.registerSubsys < 0 <;>
      by_cases he : o.registerExpSubsys < 0 <;>
      by_cases hp : o.registerPernet < 0 <;>
      simp [register, unregister, HookState.set, hk, hs, he, hp, hreg, hbad] <;> omega

/-- **Loading and unloading is safe** after every prefix of the attempts, if and only if each load attempt
made while the module is not loaded has an aligned outcome. -/
theorem loadSafe_iff (attempts : List ModAttempt) :
    (∀ pre post, attempts = pre ++ post → LoadSafe (run modStep .start pre)) ↔
      (∀ pre o post, attempts = pre ++ .load o :: post →
        (run modStep .start pre).loaded = false → o.Aligned) := by
  constructor
  · intro hsafe pre o post hsplit
    have hpre := hsafe pre (.load o :: post) hsplit
    have hafter := hsafe (pre ++ [.load o]) post (by simp [hsplit])
    rw [run_snoc] at hafter
    exact (loadSafe_load_iff hpre o).mp hafter
  · intro haligned pre
    induction pre using List.reverseRecOn with
    | nil => exact fun _ _ => loadSafe_start
    | append_singleton pre a ih =>
      intro post hsplit
      have hsplit' : attempts = pre ++ a :: post := by simp [hsplit]
      have hpre := ih (a :: post) hsplit'
      rw [run_snoc]
      cases a with
      | unload => exact loadSafe_unload hpre
      | load o => exact (loadSafe_load_iff hpre o).mpr (haligned pre o post hsplit')

/-- The stock module owns the conntrack subsystem: the load fails and leaves the kretprobe behind. -/
theorem loadSafe_fails :
    ¬ ∀ attempts pre post : List ModAttempt,
      attempts = pre ++ post → LoadSafe (run modStep .start pre) := by
  intro hall
  have h := (hall [.load ⟨0, -16, 0, 0⟩] [.load ⟨0, -16, 0, 0⟩] [] rfl).hooks .kretprobe
  revert h
  decide

end VgwDriver
