import PointBridge.Proofs.CarryOut

/-!
# The course of an action

An action reports events, and at each of them the observer may panic. A `Course` says beforehand
all that can come of that: for every event of the action, in order, a `Cut` with what a panic there
leaves behind, and at the end what the action comes to if there is no panic. `Course.run` picks the
`Ending` that a given alarm makes of it. An action that ends so whatever the alarm follows the
course (`Bridge.Follows`).

Courses compose as actions do (`Follows.bind`), so that an operation is carried out in a proof only
once, for all alarms. An alarm goes off at the first cut that it is set on, or at none; these are
the two cases of every proof about endings (`calm_or_struck`, `Course.run_of_calm`,
`Course.run_of_struck`).

What installed subscribers show is left out here, as nothing else depends on it.
-/

namespace PointBridge

open Trace (Event)

/-! ## Cuts and endings -/

/-- A place where an action may be cut short, since the observer may panic at the event, with what
is reported on the way out and what is left. -/
structure Cut where
  event : Event
  unwinding : List Event := []
  registry : Registry
  jvm : Jvm

/-- Cuts at several events, at each of which a panic leaves the same and reports nothing more. -/
def cutsAt (events : List Event) (r : Registry) (jvm : Jvm) : List Cut :=
  events.map fun event => { event, registry := r, jvm }

@[simp] theorem map_event_cutsAt (events : List Event) (r : Registry) (jvm : Jvm) :
    (cutsAt events r jvm).map (·.event) = events := by
  simp [cutsAt, Function.comp_def]

theorem of_mem_cutsAt {events : List Event} {r : Registry} {jvm : Jvm} {cut : Cut}
    (h : cut ∈ cutsAt events r jvm) :
    cut.event ∈ events ∧ cut.unwinding = [] ∧ cut.registry = r ∧ cut.jvm = jvm := by
  obtain ⟨e, he, rfl⟩ := List.mem_map.1 h
  exact ⟨he, rfl, rfl, rfl⟩

/-- How an action ends: with a value or a panic, with what is left and the events reported
meanwhile, and with the alarm unless it went off. -/
structure Ending (α : Type) where
  outcome : Except Payload α
  registry : Registry
  jvm : Jvm
  events : List Event
  alarm : Option Alarm

/-- The ending of an action whose value is turned into another one. -/
def Ending.map {α β : Type} (e : Ending α) (f : α → β) : Ending β :=
  { e with outcome := e.outcome.map f }

/-- How an action ends that meets a cut before it ends in some way. -/
def Cut.meet {α : Type} (alarm : Option Alarm) (cut : Cut) (rest : Ending α) : Ending α :=
  match panicAt alarm cut.event with
  | some p => ⟨.error p, cut.registry, cut.jvm, cut.event :: cut.unwinding, none⟩
  | none => { rest with events := cut.event :: rest.events }

/-- The alarm goes off at no cut of a list. -/
def Calm (alarm : Option Alarm) (cuts : List Cut) : Prop :=
  ∀ cut ∈ cuts, panicAt alarm cut.event = none

/-- The alarm goes off at a cut of a list, with a panic, after it has met the cuts before. -/
structure Struck (alarm : Option Alarm) (cuts before : List Cut) (cut : Cut) (p : Payload) :
    Prop where
  calm : Calm alarm before
  panics : panicAt alarm cut.event = some p
  splits : ∃ after, cuts = before ++ cut :: after

theorem Struck.mem {alarm : Option Alarm} {cuts before : List Cut} {cut : Cut} {p : Payload}
    (struck : Struck alarm cuts before cut p) : cut ∈ cuts := by
  obtain ⟨-, -, after, rfl⟩ := struck
  simp

theorem calm_none (cuts : List Cut) : Calm none cuts := fun _ _ => rfl

theorem calm_or_struck (alarm : Option Alarm) (cuts : List Cut) :
    Calm alarm cuts ∨ ∃ before cut p, Struck alarm cuts before cut p := by
  induction cuts with
  | nil => exact .inl fun _ h => absurd h List.not_mem_nil
  | cons cut rest ih =>
    cases hp : panicAt alarm cut.event with
    | some p =>
      exact .inr ⟨[], cut, p, fun _ h => absurd h List.not_mem_nil, hp, rest, rfl⟩
    | none =>
      rcases ih with calm | ⟨before, hit, p, calm, panics, after, splits⟩
      · exact .inl (List.forall_mem_cons.2 ⟨hp, calm⟩)
      · exact .inr ⟨cut :: before, hit, p, List.forall_mem_cons.2 ⟨hp, calm⟩, panics, after,
          by rw [splits, List.cons_append]⟩

section Meeting

variable {α : Type} {alarm : Option Alarm} {cuts before : List Cut} {cut : Cut} {p : Payload}

/-- Where the alarm does not go off, all events are reported. -/
theorem foldr_meet_of_calm (calm : Calm alarm cuts) (last : Ending α) :
    cuts.foldr (Cut.meet alarm) last =
      { last with events := cuts.map (·.event) ++ last.events } := by
  induction cuts with
  | nil => rfl
  | cons cut rest ih =>
    obtain ⟨here, later⟩ := List.forall_mem_cons.1 calm
    rw [List.foldr_cons, ih later]
    simp [Cut.meet, here]

/-- Where the alarm goes off, what would have come later does not matter. -/
theorem foldr_meet_of_struck (struck : Struck alarm cuts before cut p) (last : Ending α) :
    cuts.foldr (Cut.meet alarm) last =
      ⟨.error p, cut.registry, cut.jvm,
        before.map (·.event) ++ cut.event :: cut.unwinding, none⟩ := by
  obtain ⟨calm, panics, after, rfl⟩ := struck
  rw [List.foldr_append, foldr_meet_of_calm calm, List.foldr_cons]
  simp [Cut.meet, panics]

end Meeting

/-! ## Courses -/

/-- What can come of an action: it is cut short, or it ends with a value or a panic of its own. -/
structure Course (α : Type) where
  cuts : List Cut
  outcome : Except Payload α
  registry : Registry
  jvm : Jvm

namespace Course

variable {α β : Type} {alarm : Option Alarm}

/-- The events that are reported if the observer does not panic. -/
def events (c : Course α) : List Event := c.cuts.map (·.event)

/-- The ending if the observer does not panic. -/
def last (c : Course α) (alarm : Option Alarm) : Ending α :=
  ⟨c.outcome, c.registry, c.jvm, [], alarm⟩

/-- How an action with this course ends under an alarm. -/
def run (c : Course α) (alarm : Option Alarm) : Ending α :=
  c.cuts.foldr (Cut.meet alarm) (c.last alarm)

/-- The course of an action that does nothing. -/
def pure (value : α) (r : Registry) (jvm : Jvm) : Course α := ⟨[], .ok value, r, jvm⟩

/-- The course of an action that only panics. -/
def throw (p : Payload) (r : Registry) (jvm : Jvm) : Course α := ⟨[], .error p, r, jvm⟩

/-- The course of reporting events. -/
def emit (events : List Event) (r : Registry) (jvm : Jvm) : Course Unit :=
  ⟨cutsAt events r jvm, .ok (), r, jvm⟩

/-- A course and then another one, unless the first one ends in a panic. -/
def bind (c : Course α) (d : α → Course β) : Course β :=
  match c.outcome with
  | .ok value => { d value with cuts := c.cuts ++ (d value).cuts }
  | .error p => ⟨c.cuts, .error p, c.registry, c.jvm⟩

/-- A course whose value is turned into another one. -/
def map (c : Course α) (f : α → β) : Course β := { c with outcome := c.outcome.map f }

theorem bind_pure (c : Course α) (f : α → β) :
    (c.bind fun value => pure (f value) c.registry c.jvm) = c.map f := by
  obtain ⟨cuts, outcome, registry, jvm⟩ := c
  cases outcome with
  | ok value => simp [bind, pure, map, Except.map]
  | error p => rfl

theorem run_of_calm {c : Course α} (calm : Calm alarm c.cuts) :
    c.run alarm = ⟨c.outcome, c.registry, c.jvm, c.events, alarm⟩ := by
  rw [run, foldr_meet_of_calm calm]
  simp [last, events]

theorem run_of_struck {c : Course α} {before : List Cut} {cut : Cut} {p : Payload}
    (struck : Struck alarm c.cuts before cut p) : c.run alarm =
      ⟨.error p, cut.registry, cut.jvm,
        before.map (·.event) ++ cut.event :: cut.unwinding, none⟩ :=
  foldr_meet_of_struck struck _

theorem run_map (c : Course α) (f : α → β) (alarm : Option Alarm) :
    (c.map f).run alarm = (c.run alarm).map f := by
  change c.cuts.foldr _ ((c.last alarm).map f) = _
  refine List.foldr_hom (Ending.map · f) fun cut rest => ?_
  unfold Cut.meet
  cases panicAt alarm cut.event <;> rfl

/-- Without an alarm, an action with this course does all that it is to do. -/
theorem run_none (c : Course α) :
    c.run none = ⟨c.outcome, c.registry, c.jvm, c.events, none⟩ := run_of_calm (calm_none _)

/-- What all cuts leave, and the end does, has the properties that these have in common. -/
theorem left_run {c : Course α} {P : Registry → Jvm → Prop}
    (cuts : ∀ cut ∈ c.cuts, P cut.registry cut.jvm) (last : P c.registry c.jvm) :
    P (c.run alarm).registry (c.run alarm).jvm := by
  rcases calm_or_struck alarm c.cuts with calm | ⟨before, cut, p, struck⟩
  · rw [run_of_calm calm]
    exact last
  · rw [run_of_struck struck]
    exact cuts cut struck.mem

/-- Reporting events leaves the registry and the machine as they are. -/
theorem left_run_emit (events : List Event) (r : Registry) (jvm : Jvm) :
    ((emit events r jvm).run alarm).registry = r ∧ ((emit events r jvm).run alarm).jvm = jvm :=
  left_run (c := emit events r jvm) (P := fun r' jvm' => r' = r ∧ jvm' = jvm)
    (fun _ h => (of_mem_cutsAt h).2.2) ⟨rfl, rfl⟩

/-- An alarm that is set on the message of an event goes off, there or before. -/
theorem run_of_mem_events {c : Course α} {e : Event} (h : e ∈ c.events) (p : Payload) :
    ∃ cut ∈ c.cuts, cut.event.message = e.message ∧
      (c.run (some ⟨e.message, p⟩)).outcome = .error p ∧
      (c.run (some ⟨e.message, p⟩)).registry = cut.registry ∧
      (c.run (some ⟨e.message, p⟩)).alarm = none := by
  obtain ⟨hit, hhit, rfl⟩ := List.mem_map.1 h
  rcases calm_or_struck (some ⟨hit.event.message, p⟩) c.cuts with
    calm | ⟨before, cut, q, struck⟩
  · have silent := calm hit hhit
    rw [panicAt_self] at silent
    cases silent
  · obtain ⟨same, rfl⟩ := panicAt_eq_some_iff.1 struck.panics
    rw [run_of_struck struck]
    exact ⟨cut, struck.mem, same.symm, rfl, rfl, rfl⟩

/-- What is reported is an event of a cut, or is reported on the way out. -/
theorem mem_events_run {c : Course α} {e : Event} (h : e ∈ (c.run alarm).events) :
    ∃ cut ∈ c.cuts, e = cut.event ∨ e ∈ cut.unwinding := by
  rcases calm_or_struck alarm c.cuts with calm | ⟨before, cut, p, struck⟩
  · rw [run_of_calm calm] at h
    obtain ⟨cut, hcut, rfl⟩ := List.mem_map.1 h
    exact ⟨cut, hcut, .inl rfl⟩
  · rw [run_of_struck struck] at h
    rcases List.mem_append.1 h with h | h
    · obtain ⟨earlier, hearlier, rfl⟩ := List.mem_map.1 h
      obtain ⟨-, -, after, splits⟩ := struck
      exact ⟨earlier, by rw [splits]; exact List.mem_append_left _ hearlier, .inl rfl⟩
    · exact ⟨cut, struck.mem, List.mem_cons.1 h⟩

/-- A course goes on where the first part of it ended, or ends in the panic of the first part. -/
theorem run_bind_ok {c : Course α} {d : α → Course β} {value : α}
    (ok : (c.run alarm).outcome = .ok value) :
    (c.bind d).run alarm =
      { (d value).run alarm with events := (c.run alarm).events ++ ((d value).run alarm).events } ∧
    c.outcome = .ok value ∧ (c.run alarm).registry = c.registry ∧ (c.run alarm).jvm = c.jvm ∧
    (c.run alarm).alarm = alarm := by
  rcases calm_or_struck alarm c.cuts with calm | ⟨before, cut, p, struck⟩
  · rw [run_of_calm calm] at ok ⊢
    simp only at ok
    refine ⟨?_, ok, rfl, rfl, rfl⟩
    simp only [bind, ok]
    rw [run, List.foldr_append, foldr_meet_of_calm calm]
    rfl
  · rw [run_of_struck struck] at ok
    cases ok

theorem run_bind_error {c : Course α} {d : α → Course β} {p : Payload}
    (error : (c.run alarm).outcome = .error p) :
    (c.bind d).run alarm =
      ⟨.error p, (c.run alarm).registry, (c.run alarm).jvm, (c.run alarm).events,
        (c.run alarm).alarm⟩ := by
  rcases calm_or_struck alarm c.cuts with calm | ⟨before, cut, q, struck⟩
  · rw [run_of_calm calm] at error ⊢
    simp only at error
    simp only [bind, error]
    rw [run_of_calm (c := ⟨c.cuts, .error p, c.registry, c.jvm⟩) calm]
    rfl
  · rw [run_of_struck struck] at error ⊢
    cases error
    have struck' : Struck alarm (c.bind d).cuts before cut p := by
      obtain ⟨calm, panics, after, splits⟩ := struck
      refine ⟨calm, panics, ?_⟩
      unfold bind
      cases c.outcome with
      | ok value => exact ⟨after ++ (d value).cuts, by simp [splits]⟩
      | error q => exact ⟨after, splits⟩
    exact run_of_struck struck'

end Course

/-! ## Following a course -/

/-- How a bridge is set up for tracing. -/
structure Setup where
  performance : PerformanceSwitch
  subscriber : Option Trace.Subscriber
  onceResult : Option Bool
  environment : Trace.Variables
deriving DecidableEq

namespace Bridge

variable {α β : Type} {b : Bridge}

/-- How the bridge is set up. -/
def setup (b : Bridge) : Setup := ⟨b.performance, b.subscriber, b.onceResult, b.environment⟩

/-- The events so far, without their spans. -/
def events (b : Bridge) : List Event := b.journal.toList.map (·.event)

@[simp] theorem events_note (b : Bridge) (e : Event) : (b.note e).events = b.events ++ [e] := by
  simp [events, note]

/-- An action ends in a given way, and leaves the bridge set up as it is. -/
structure EndsIn (b : Bridge) (act : Action α) (e : Ending α) : Prop where
  outcome : (b.carryOut act).1 = e.outcome
  registry : (b.carryOut act).2.registry = e.registry
  jvm : (b.carryOut act).2.jvm = e.jvm
  events : (b.carryOut act).2.events = b.events ++ e.events
  alarm : (b.carryOut act).2.alarm = e.alarm
  setup : (b.carryOut act).2.setup = b.setup

/-- An action ends as a course does under the alarm that is set. -/
def Follows (b : Bridge) (act : Action α) (c : Course α) : Prop := b.EndsIn act (c.run b.alarm)

/-- An action goes on with another one from where it ended. -/
theorem EndsIn.bind_ok {act : Action α} {f : α → Action β} {e : Ending α} {l : Ending β} {value : α}
    (first : b.EndsIn act e) (ok : e.outcome = .ok value)
    (next : ∀ b' : Bridge, b'.registry = e.registry → b'.jvm = e.jvm → b'.alarm = e.alarm →
      b'.setup = b.setup → b'.EndsIn (f value) l) :
    b.EndsIn (act >>= f) { l with events := e.events ++ l.events } := by
  obtain ⟨ho, hr, hj, he, ha, hs⟩ := first
  obtain ⟨ho', hr', hj', he', ha', hs'⟩ := next _ hr hj ha hs
  constructor <;> rw [carryOut_bind_of_ok (ho.trans ok)]
  · exact ho'
  · exact hr'
  · exact hj'
  · rw [he', he, List.append_assoc]
  · exact ha'
  · exact hs'.trans hs

/-- An action that panics does not go on. -/
theorem EndsIn.bind_error {act : Action α} {f : α → Action β} {e : Ending α} {p : Payload}
    (first : b.EndsIn act e) (error : e.outcome = .error p) :
    b.EndsIn (act >>= f) { e with outcome := .error p } := by
  obtain ⟨ho, hr, hj, he, ha, hs⟩ := first
  constructor <;> rw [carryOut_bind_of_error (ho.trans error)]
  · exact hr
  · exact hj
  · exact he
  · exact ha
  · exact hs

/-- An attempt ends where the action ends, with what that ended with. -/
theorem EndsIn.attempt {act : Action α} {e : Ending α} (h : b.EndsIn act e) :
    b.EndsIn (attempt act) { e with outcome := .ok e.outcome } := by
  obtain ⟨ho, hr, hj, he, ha, hs⟩ := h
  constructor <;> rw [carryOut_attempt]
  · exact congrArg Except.ok ho
  · exact hr
  · exact hj
  · exact he
  · exact ha
  · exact hs

/-- Where no alarm is set, an action does all that it is to do. -/
theorem Follows.quietly {act : Action α} {c : Course α} (h : b.Follows act c)
    (quiet : b.alarm = none) :
    b.EndsIn act ⟨c.outcome, c.registry, c.jvm, c.events, none⟩ := by
  rw [← c.run_none, ← quiet]
  exact h

theorem follows_pure (b : Bridge) (value : α) :
    b.Follows (pure value) (.pure value b.registry b.jvm) :=
  ⟨rfl, rfl, rfl, (List.append_nil _).symm, rfl, rfl⟩

theorem follows_throw (b : Bridge) (p : Payload) :
    b.Follows (throw p : Action α) (.throw p b.registry b.jvm) :=
  ⟨rfl, rfl, rfl, (List.append_nil _).symm, rfl, rfl⟩

theorem follows_emit (b : Bridge) (e : Event) :
    b.Follows (emit e) (.emit [e] b.registry b.jvm) := by
  have hrun : (Course.emit [e] b.registry b.jvm).run b.alarm =
      Cut.meet b.alarm { event := e, registry := b.registry, jvm := b.jvm }
        ⟨.ok (), b.registry, b.jvm, [], b.alarm⟩ := rfl
  have hnote : ((b.note e).disarmed).events = b.events ++ [e] := b.events_note e
  unfold Follows
  rw [hrun, Cut.meet]
  cases hp : panicAt b.alarm e with
  | none => constructor <;> simp [carryOut_emit, hp] <;> rfl
  | some p => constructor <;> simp [carryOut_emit, hp, hnote] <;> rfl

/-- **Actions compose as their courses do.** The second action starts from where the first one
ended. -/
theorem Follows.bind {act : Action α} {f : α → Action β} {c : Course α} {d : α → Course β}
    (first : b.Follows act c)
    (next : ∀ (b' : Bridge) (value : α), c.outcome = .ok value → b'.registry = c.registry →
      b'.jvm = c.jvm → b'.setup = b.setup → b'.Follows (f value) (d value)) :
    b.Follows (act >>= f) (c.bind d) := by
  unfold Follows
  cases hrun : (c.run b.alarm).outcome with
  | ok value =>
    obtain ⟨whole, ok, hreg, hjvm, halarm⟩ := Course.run_bind_ok (d := d) hrun
    rw [whole]
    refine EndsIn.bind_ok first hrun fun b' hr hj ha hs => ?_
    rw [← halarm, ← ha]
    exact next b' value ok (hr.trans hreg) (hj.trans hjvm) hs
  | error p =>
    rw [Course.run_bind_error (d := d) hrun]
    exact EndsIn.bind_error first hrun

/-- An action whose value is turned into another one. -/
theorem Follows.map {act : Action α} {c : Course α} (h : b.Follows act c) (f : α → β) :
    b.Follows (act >>= fun value => pure (f value)) (c.map f) := by
  rw [← c.bind_pure f]
  refine h.bind fun b' value _ hr hj _ => ?_
  have hpure := follows_pure b' (f value)
  rwa [hr, hj] at hpure

/-- An action that is carried out as another one ends as that one. -/
theorem EndsIn.congr {act act' : Action α} {e : Ending α} (h : b.EndsIn act e)
    (same : b.carryOut act' = b.carryOut act) : b.EndsIn act' e := by
  obtain ⟨ho, hr, hj, he, ha, hs⟩ := h
  rw [← same] at ho hr hj he ha hs
  exact ⟨ho, hr, hj, he, ha, hs⟩

/-- An action that looks at the bridge first ends as it does from there. -/
theorem EndsIn.get {f : Bridge → Action α} {e : Ending α} (h : b.EndsIn (f b) e) :
    b.EndsIn (get >>= f) e :=
  EndsIn.congr h (by rw [carryOut_bind, carryOut_get, andThen_ok])

theorem Follows.get {f : Bridge → Action α} {c : Course α} (h : b.Follows (f b) c) :
    b.Follows (get >>= f) c := EndsIn.get h

theorem follows_emitAll (b : Bridge) (events : List Event) :
    b.Follows (emitAll events) (.emit events b.registry b.jvm) := by
  unfold emitAll
  induction events generalizing b with
  | nil => exact follows_pure b ()
  | cons e rest ih =>
    refine (follows_emit b e).bind (d := fun _ => .emit rest b.registry b.jvm) ?_
    intro b' _ _ hr hj _
    have h := ih b'
    rwa [hr, hj] at h

end Bridge

end PointBridge
