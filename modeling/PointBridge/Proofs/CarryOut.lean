import PointBridge.Bridge

/-!
# Carrying out actions

`Bridge.carryOut` gives what an action ends with and the bridge after it. Each way to combine
actions has an equation for it here, so that no proof has to open an action. Whether reporting an
event panics is up to the alarm (`carryOut_emit`); an alarm that goes off is used up.
-/

namespace PointBridge

open Trace (Event)

/-! ## Computations on a state that can fail -/

section Running

variable {σ ε α β : Type} (s : σ)

theorem run_run_bind (act : ExceptT ε (StateM σ) α) (f : α → ExceptT ε (StateM σ) β) :
    (act >>= f).run.run s = match act.run.run s with
      | (.ok value, s') => (f value).run.run s'
      | (.error e, s') => (.error e, s') := by
  change (ExceptT.bind act f).run.run s = _
  unfold ExceptT.bind
  change (match act.run.run s with | (r, s') => (ExceptT.bindCont f r).run s') = _
  rcases act.run.run s with ⟨r | r, s'⟩ <;> rfl

theorem run_run_tryCatch (act : ExceptT ε (StateM σ) α) (f : ε → ExceptT ε (StateM σ) α) :
    (tryCatch act f).run.run s = match act.run.run s with
      | (.ok value, s') => (.ok value, s')
      | (.error e, s') => (f e).run.run s' := by
  change (ExceptT.tryCatch act f).run.run s = _
  unfold ExceptT.run StateT.run
  simp only [ExceptT.tryCatch, ExceptT.mk, bind, StateT.bind]
  rcases act s with ⟨r | r, s'⟩ <;> rfl

end Running

/-! ## Alarms -/

/-- The panic that an alarm raises at an event, if it is set on the message of the event. -/
def panicAt (alarm : Option Alarm) (e : Event) : Option Payload :=
  alarm.bind fun a => if a.message = e.message then some a.payload else none

@[simp] theorem panicAt_none (e : Event) : panicAt none e = none := rfl

theorem panicAt_self (e : Event) (p : Payload) : panicAt (some ⟨e.message, p⟩) e = some p := by
  simp [panicAt]

theorem panicAt_eq_some_iff {a : Alarm} {e : Event} {p : Payload} :
    panicAt (some a) e = some p ↔ a.message = e.message ∧ a.payload = p := by
  by_cases h : a.message = e.message <;> simp [panicAt, h]

/-! ## Actions of the bridge -/

namespace Bridge

section Combining

variable {α β : Type} {b : Bridge}

/-- What an action ends with, and the bridge after it. -/
def carryOut (b : Bridge) (act : Action α) : Except Payload α × Bridge := act.run.run b

/-- What a following action ends with, unless the first one panicked. -/
def andThen (first : Except Payload α × Bridge) (f : α → Action β) :
    Except Payload β × Bridge :=
  match first with
  | (.ok value, b) => b.carryOut (f value)
  | (.error p, b) => (.error p, b)

@[simp] theorem andThen_ok (value : α) (b : Bridge) (f : α → Action β) :
    andThen (.ok value, b) f = b.carryOut (f value) := rfl

@[simp] theorem andThen_error (p : Payload) (b : Bridge) (f : α → Action β) :
    andThen (.error p, b) f = (.error p, b) := rfl

@[simp] theorem carryOut_bind (b : Bridge) (act : Action α) (f : α → Action β) :
    b.carryOut (act >>= f) = andThen (b.carryOut act) f := by
  unfold carryOut
  rw [run_run_bind]
  rcases act.run.run b with ⟨r | r, b'⟩ <;> rfl

/-- An action that gives a value goes on with what follows. -/
theorem carryOut_bind_of_ok {act : Action α} {value : α} (ok : (b.carryOut act).1 = .ok value)
    (f : α → Action β) :
    b.carryOut (act >>= f) = (b.carryOut act).2.carryOut (f value) := by
  have hrun : b.carryOut act = (.ok value, (b.carryOut act).2) := Prod.ext ok rfl
  exact (b.carryOut_bind act f).trans (congrArg (andThen · f) hrun)

/-- An action that panics does not go on. -/
theorem carryOut_bind_of_error {act : Action α} {p : Payload}
    (error : (b.carryOut act).1 = .error p) (f : α → Action β) :
    b.carryOut (act >>= f) = (.error p, (b.carryOut act).2) := by
  have hrun : b.carryOut act = (.error p, (b.carryOut act).2) := Prod.ext error rfl
  exact (b.carryOut_bind act f).trans (congrArg (andThen · f) hrun)

@[simp] theorem carryOut_get (b : Bridge) : b.carryOut get = (.ok b, b) := rfl

@[simp] theorem carryOut_set (b c : Bridge) : b.carryOut (set c) = (.ok (), c) := rfl

@[simp] theorem carryOut_modify (b : Bridge) (f : Bridge → Bridge) :
    b.carryOut (modify f) = (.ok (), f b) := rfl

@[simp] theorem carryOut_attempt (b : Bridge) (act : Action α) :
    b.carryOut (attempt act) = (.ok (b.carryOut act).1, (b.carryOut act).2) := by
  change (ExceptT.tryCatch (ExceptT.map Except.ok act) _).run.run b = _
  unfold carryOut ExceptT.run StateT.run
  simp only [ExceptT.tryCatch, ExceptT.map, ExceptT.mk, bind, StateT.bind]
  rcases act b with ⟨r | r, b'⟩ <;> rfl

@[simp] theorem carryOut_resume (b : Bridge) (outcome : Except Payload α) :
    b.carryOut (resume outcome) = (outcome, b) := by
  cases outcome <;> rfl

end Combining

/-! ## Reporting -/

/-- The bridge without an alarm. -/
def disarmed (b : Bridge) : Bridge := { b with alarm := none }

theorem carryOut_emit (b : Bridge) (e : Event) :
    b.carryOut (emit e) = match panicAt b.alarm e with
      | none => (.ok (), b.note e)
      | some p => (.error p, (b.note e).disarmed) := by
  have hnote : (b.note e).alarm = b.alarm := rfl
  unfold emit panicAt
  rw [carryOut_bind, carryOut_modify, andThen_ok, carryOut_bind, carryOut_get, andThen_ok, hnote]
  cases b.alarm with
  | none => rfl
  | some a =>
    simp only [Option.bind_some]
    by_cases h : a.message = e.message
    · simp only [h, if_true]
      rfl
    · simp only [h, if_false]
      rfl

end Bridge

end PointBridge
