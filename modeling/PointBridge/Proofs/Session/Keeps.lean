import PointBridge.Proofs.Arena.Consistent
import PointBridge.Proofs.Registry.Poison
import PointBridge.Proofs.Session.Relates

/-!
# What lasts in a session

A property of registries lasts if no call to the registry ends it, wherever the call is cut short
(`Registry.Lasting`). Nothing else that can be requested touches the registry, so that such a
property lasts through all steps of a session (`Session.lasting_step`, `Session.lasting_run`). Two
properties that last are that the lock is poisoned (`lasting_poisoned`) and that the arena can be
reached by commands (`lasting_reachable`).
-/

namespace PointBridge

/-! ## Actions that keep a property of the registry -/

/-- Whatever the setup does, a registry has a property if the one before has it. -/
def Standing.Inherits (P : Registry → Prop) (x y : Standing) : Prop := P x.1 → P y.1

instance (P : Registry → Prop) : IsPreorder Standing (Standing.Inherits P) where
  refl _ := id
  trans _ _ _ h h' := h' ∘ h

namespace Bridge

/-- An action leaves a registry with a property if it finds one. -/
abbrev Keeps {α : Type} (P : Registry → Prop) (b : Bridge) (act : Action α) : Prop :=
  b.Relates (Standing.Inherits P) act

theorem keeps_initGlobal {P : Registry → Prop} (b : Bridge) (config : Trace.Config) :
    Keeps P b (initGlobal config) := by
  unfold initGlobal
  refine .get ?_
  split
  · exact .pure _
  · exact .throw _
  · dsimp only
    split
    · exact .set_bind id (.pure _)
    · exact .set_bind id (.pure _)

end Bridge

/-! ## Calls to the registry -/

namespace Registry

open Bridge (Keeps)

variable {P : Registry → Prop}

/-- No call to a registry ends a property of it, wherever the call is cut short. -/
def Lasting (P : Registry → Prop) : Prop :=
  ∀ (c : Call) (r : Registry) (jvm : Jvm) (alarm : Option Alarm), P r →
    P ((c.course r jvm).run alarm).registry

/-- **A poisoned lock stays poisoned.** -/
theorem lasting_poisoned : Lasting (·.poisoned = true) := by
  intro c r jvm alarm h
  refine Course.left_run (P := fun r _ => r.poisoned = true) (fun cut hcut => ?_) ?_
  · rw [(of_mem_cuts hcut).1]
    simp [leftAt, h]
  · simp [Call.course, operation, h]

/-- **All that a session reaches is reachable by commands to the arena.** -/
theorem lasting_reachable : Lasting (·.arena.Reachable) := by
  intro c r jvm alarm h
  have last : (c.course r jvm).registry.arena.Reachable := h.perform c.command
  refine Course.left_run (P := fun r _ => r.arena.Reachable) (fun cut hcut => ?_) last
  rw [(of_mem_cuts hcut).1]
  unfold leftAt
  dsimp only
  split
  · exact h
  · exact last

section Keeping

variable (lasting : Lasting P) (b : Bridge)
include lasting

theorem Lasting.keeps_call (c : Call) : Keeps P b (call c) :=
  .of_endsIn (follows_call b c) fun h => lasting c b.registry b.jvm b.alarm h

theorem Lasting.keeps_native (n : Native.Call) (jvm : Jvm) (elapsed : UInt64) :
    Keeps P b (Native.call n jvm elapsed) := by
  refine .of_endsIn (Native.endsIn_call b n jvm elapsed) fun h => ?_
  rw [Native.registry_settled, Native.Call.course, Course.run_spanned,
    (Course.left_completing ..).1]
  cases n.job with
  | registry c =>
    rw [Native.Job.course, Course.run_map]
    exact lasting c b.registry jvm b.alarm h
  | buffers x y =>
    rw [Native.Job.course, (Native.left_run_bufferCourse ..).1]
    exact h

end Keeping

end Registry

/-! ## Sessions -/

namespace Session

variable {P : Registry → Prop} {s : Session}

theorem respectsTracing_inherits (P : Registry → Prop) (s : Session) (c : TracingCall) :
    s.RespectsTracing (Standing.Inherits P) c where
  offer _ _ b _ := b.keeps_initGlobal _
  once _ _ := id
  switch _ _ _ := id

theorem registry_trace (c : TracingCall) (h : P s.bridge.registry) :
    P (s.trace c).2.bridge.registry := relates_trace (respectsTracing_inherits P s c) h

theorem registry_perform (lasting : Registry.Lasting P) (request : Request)
    (h : P s.bridge.registry) : P (s.perform request).2.bridge.registry :=
  relates_perform (R := Standing.Inherits P)
    ⟨lasting.keeps_call, lasting.keeps_native, fun c _ => respectsTracing_inherits P s c⟩ h

theorem lasting_step (lasting : Registry.Lasting P) (h : P s.bridge.registry) (x : Step) :
    P (s.step x).2.bridge.registry :=
  registry_perform (s := { s with bridge := s.armed x.alarm }) lasting x.request h

theorem lasting_run (lasting : Registry.Lasting P) (h : P s.bridge.registry) (steps : List Step) :
    P (s.run steps).2.bridge.registry :=
  s.run_induction (P := (P ·.bridge.registry)) (fun _ x h => lasting_step lasting h x) steps h

end Session

end PointBridge
