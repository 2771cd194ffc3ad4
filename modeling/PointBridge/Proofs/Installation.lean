import PointBridge.Installation
import PointBridge.Proofs.Performance

/-!
# What an attempt to install a subscriber comes to

Where no alarm is set, what an attempt to install a subscriber ends with, what it reports and how
it leaves the bridge set up is a matter of the setup that it finds (`Setup.Yields`). The subscriber
of a configuration is offered: it is installed, with the settings for performance spans, unless
there is one (`Setup.offered`). Every attempt to install one once has one of three results
(`Setup.Once`, `Setup.exists_once`).
-/

namespace PointBridge

open Trace

/-! ## What a configuration settles on -/

namespace Trace.Config

variable {config : Config} {vars : Variables}

/-- The configuration without explicit directives. -/
def undirected (config : Config) : Config := { config with directives := none }

/-- A configuration settles on the subscriber that it describes or, where its directives are
refused, on the one that it describes without them. The refusal comes with the subscriber. -/
inductive SettlesOn (config : Config) (vars : Variables) : Subscriber → Option DirectiveError → Prop
  | accepted {s : Subscriber} (ok : Subscriber.ofConfig? config vars = .ok s) :
    SettlesOn config vars s none
  | refused {s : Subscriber} {e : DirectiveError}
    (refusal : Subscriber.ofConfig? config vars = .error (.refused e))
    (ok : Subscriber.ofConfig? config.undirected vars = .ok s) : SettlesOn config vars s (some e)

/-- There is only one subscriber that a configuration settles on. -/
theorem SettlesOn.unique {s t : Subscriber} {i j : Option DirectiveError}
    (h : config.SettlesOn vars s i) (h' : config.SettlesOn vars t j) : s = t ∧ i = j := by
  cases h with
  | accepted ok =>
    cases h' with
    | accepted ok' => exact ⟨Except.ok.inj (ok.symm.trans ok'), rfl⟩
    | refused refusal => cases ok.symm.trans refusal
  | refused refusal ok =>
    cases h' with
    | accepted ok' => cases refusal.symm.trans ok'
    | refused refusal' ok' =>
      cases refusal.symm.trans refusal'
      exact ⟨Except.ok.inj (ok.symm.trans ok'), rfl⟩

theorem ofConfig?_eq_error_iff {e : ReadError} :
    Subscriber.ofConfig? config vars = .error e ↔ config.filter vars = .error e := by
  unfold Subscriber.ofConfig?
  cases config.filter vars <;> simp [Except.map]

/-- Only explicit directives are refused. -/
theorem ofConfig?_eq_refused_iff {e : DirectiveError} :
    Subscriber.ofConfig? config vars = .error (.refused e) ↔
      ∃ text, config.directives = some text ∧ Filter.strict text = .error (.refused e) := by
  rw [ofConfig?_eq_error_iff]
  unfold filter
  cases config.directives with
  | some text => simp
  | none =>
    refine iff_of_false (fun h => ?_) (by simp)
    dsimp only at h
    split at h
    · cases h
    · cases h
    · cases hl : Filter.lenient config.defaultDirective <;> rw [hl] at h <;> cases h

end Trace.Config

/-! ## Yielding -/

section Yielding

variable {α β : Type} {b : Bridge}

/-- An action leads a bridge without an alarm to another one. -/
structure Bridge.LeadsTo (b : Bridge) (act : Bridge.Action α) (outcome : Except Payload α)
    (setup : Setup) (events : List Event) : Prop where
  outcome : (b.carryOut act).1 = outcome
  setup : (b.carryOut act).2.setup = setup
  events : (b.carryOut act).2.events = b.events ++ events
  alarm : (b.carryOut act).2.alarm = none

/-- What an action ends with, leaves as the setup and reports is a matter of the setup that it
finds, where no alarm is set. -/
def Setup.Yields (s : Setup) (act : Bridge.Action α) (outcome : Except Payload α) (s' : Setup)
    (events : List Event) : Prop :=
  ∀ b : Bridge, b.alarm = none → b.setup = s → b.LeadsTo act outcome s' events

namespace Setup.Yields

variable {s s' s'' : Setup} {events events' : List Event} {act : Bridge.Action α}
  {f : α → Bridge.Action β} {outcome : Except Payload β}

theorem bind_ok {value : α} (first : s.Yields act (.ok value) s' events)
    (next : s'.Yields (f value) outcome s'' events') :
    s.Yields (act >>= f) outcome s'' (events ++ events') := by
  intro b quiet hs
  obtain ⟨ho, hs', he, ha⟩ := first b quiet hs
  obtain ⟨ho', hs'', he', ha'⟩ := next _ ha hs'
  constructor <;> rw [Bridge.carryOut_bind_of_ok ho]
  · exact ho'
  · exact hs''
  · rw [he', he, List.append_assoc]
  · exact ha'

theorem bind_error {p : Payload} (first : s.Yields act (.error p) s' events) :
    s.Yields (act >>= f) (.error p) s' events := by
  intro b quiet hs
  obtain ⟨ho, hs', he, ha⟩ := first b quiet hs
  constructor <;> rw [Bridge.carryOut_bind_of_error ho]
  · exact hs'
  · exact he
  · exact ha

protected theorem pure (s : Setup) (value : α) :
    s.Yields (pure value : Bridge.Action α) (.ok value) s [] :=
  fun _ quiet hs => ⟨rfl, hs, (List.append_nil _).symm, quiet⟩

protected theorem get {f : Bridge → Bridge.Action β}
    (h : ∀ b : Bridge, b.setup = s → s.Yields (f b) outcome s' events) :
    s.Yields (get >>= f) outcome s' events := by
  intro b quiet hs
  obtain ⟨ho, hs', he, ha⟩ := h b hs b quiet hs
  constructor <;> rw [Bridge.carryOut_bind, Bridge.carryOut_get, Bridge.andThen_ok] <;> assumption

protected theorem emit (s : Setup) (e : Event) : s.Yields (Bridge.emit e) (.ok ()) s [e] := by
  intro b quiet hs
  obtain ⟨ho, -, -, he, ha, hs'⟩ := (b.follows_emit e).quietly quiet
  exact ⟨ho, hs'.trans hs, he, ha⟩

/-- A block of code that gives a value is timed. -/
theorem timed {value : α} (first : s.Yields act (.ok value) s' events)
    (target operation : String) : s.Yields (Bridge.timed target operation act) (.ok value) s'
      (events ++ [.blockTimed target operation]) := by
  refine first.bind_ok ?_
  exact (Yields.emit s' (.blockTimed target operation)).bind_ok (.pure s' value)

end Setup.Yields

end Yielding

/-! ## Installing -/

namespace Setup

variable {s s' : Setup} {config : Config} {subscriber : Subscriber}

/-- What a setup has installed once and for all, another one has, too. -/
structure Grows (s s' : Setup) : Prop where
  subscriber : ∀ subscriber, s.subscriber = some subscriber → s'.subscriber = some subscriber
  onceResult : ∀ installed, s.onceResult = some installed → s'.onceResult = some installed
  environment : s'.environment = s.environment

theorem Grows.refl (s : Setup) : s.Grows s := ⟨fun _ => id, fun _ => id, rfl⟩

theorem Grows.trans {s'' : Setup} (h : s.Grows s') (h' : s'.Grows s'') : s.Grows s'' :=
  ⟨fun x => h'.subscriber x ∘ h.subscriber x, fun i => h'.onceResult i ∘ h.onceResult i,
    h'.environment.trans h.environment⟩

/-- The setup after the subscriber of a configuration was offered. -/
def offered (s : Setup) (config : Config) (subscriber : Subscriber) : Setup :=
  if s.subscriber.isSome then s
  else
    { s with
      subscriber := some subscriber
      performance := .position config.performanceEnabled config.performanceThreshold }

theorem offered_of_installed (installed : s.subscriber.isSome) (config : Config)
    (subscriber : Subscriber) : s.offered config subscriber = s := if_pos installed

theorem offered_of_free (free : s.subscriber = none) (config : Config) (subscriber : Subscriber) :
    s.offered config subscriber =
      { s with
        subscriber := some subscriber
        performance := .position config.performanceEnabled config.performanceThreshold } := by
  refine if_neg ?_
  rw [free]
  exact Bool.false_ne_true

theorem onceResult_offered (s : Setup) (config : Config) (subscriber : Subscriber) :
    (s.offered config subscriber).onceResult = s.onceResult := by
  unfold offered
  split <;> rfl

theorem grows_offered (s : Setup) (config : Config) (subscriber : Subscriber) :
    s.Grows (s.offered config subscriber) := by
  cases installed : s.subscriber with
  | some old =>
    rw [offered_of_installed (Option.isSome_iff_exists.2 ⟨old, installed⟩)]
    exact .refl s
  | none =>
    rw [offered_of_free installed]
    refine ⟨fun x h => ?_, fun _ => id, rfl⟩
    cases installed.symm.trans h

theorem yields_initGlobal (ok : Subscriber.ofConfig? config s.environment = .ok subscriber) :
    s.Yields (Bridge.initGlobal config)
      (.ok (if s.subscriber.isSome then .error .alreadyInstalled else .ok ()))
      (s.offered config subscriber) [] := by
  rintro b quiet rfl
  have hok : Subscriber.ofConfig? config b.environment = .ok subscriber := ok
  cases installed : b.subscriber with
  | some old =>
    have hrun : b.carryOut (Bridge.initGlobal config) = (.ok (.error .alreadyInstalled),
        { b with outlook := b.outlook.consult [old, subscriber] }) := by
      unfold Bridge.initGlobal
      rw [Bridge.carryOut_bind, Bridge.carryOut_get, Bridge.andThen_ok, hok]
      simp only [installed]
      rfl
    have found : b.setup.subscriber.isSome = true := Option.isSome_iff_exists.2 ⟨old, installed⟩
    rw [offered_of_installed found, if_pos found]
    constructor <;> rw [hrun]
    · rfl
    · exact (List.append_nil _).symm
    · exact quiet
  | none =>
    have hrun : b.carryOut (Bridge.initGlobal config) = (.ok (.ok ()),
        { b with
          subscriber := some subscriber
          outlook := b.outlook.consult [subscriber]
          performance := .position config.performanceEnabled config.performanceThreshold }) := by
      unfold Bridge.initGlobal
      rw [Bridge.carryOut_bind, Bridge.carryOut_get, Bridge.andThen_ok, hok]
      simp only [installed]
      rfl
    have free : b.setup.subscriber = none := installed
    rw [offered_of_free free, free]
    constructor <;> rw [hrun]
    · rfl
    · rfl
    · exact (List.append_nil _).symm
    · exact quiet

theorem yields_initGlobal_of_refused {e : DirectiveError}
    (refusal : Subscriber.ofConfig? config s.environment = .error (.refused e)) :
    s.Yields (Bridge.initGlobal config) (.ok (.error (.invalidFilter e))) s [] := by
  refine .get fun b hs => ?_
  have hb : Subscriber.ofConfig? config b.environment = .error (.refused e) := by
    rw [← refusal, ← hs]
    rfl
  rw [hb]
  exact .pure s _

theorem yields_initGlobal_of_cut {e : Text.CutError}
    (cut : Subscriber.ofConfig? config s.environment = .error (.cut e)) :
    s.Yields (Bridge.initGlobal config) (.error (.owned e.message)) s [] := by
  refine .get fun b hs => ?_
  have hb : Subscriber.ofConfig? config b.environment = .error (.cut e) := by
    rw [← cut, ← hs]
    rfl
  rw [hb]
  exact fun _ quiet hs => ⟨rfl, hs, (List.append_nil _).symm, quiet⟩

/-- An attempt to install a subscriber reports nothing, takes nothing back, and is not an attempt to
install one once. -/
theorem exists_initGlobal (s : Setup) (config : Config) : ∃ outcome s', s.Grows s' ∧
    s'.onceResult = s.onceResult ∧ s.Yields (Bridge.initGlobal config) outcome s' [] := by
  cases h : Subscriber.ofConfig? config s.environment with
  | ok subscriber =>
    have untried := onceResult_offered s config subscriber
    exact ⟨_, _, grows_offered s config subscriber, untried, yields_initGlobal h⟩
  | error err =>
    cases err with
    | refused e => exact ⟨_, _, .refl s, rfl, yields_initGlobal_of_refused h⟩
    | cut e => exact ⟨_, _, .refl s, rfl, yields_initGlobal_of_cut h⟩

/-- What is reported about a refusal by the attempt that installs a subscriber in spite of it. -/
def refusalReports (s : Setup) (ignored : Option DirectiveError) : List Event :=
  if s.subscriber.isSome then [] else ignored.toList.map .directivesIgnored

theorem refusalReports_of_installed (installed : s.subscriber.isSome)
    (ignored : Option DirectiveError) : s.refusalReports ignored = [] := if_pos installed

theorem refusalReports_of_free (free : s.subscriber = none) (ignored : Option DirectiveError) :
    s.refusalReports ignored = ignored.toList.map .directivesIgnored := by
  refine if_neg ?_
  rw [free]
  exact Bool.false_ne_true

theorem yields_initLeniently {ignored : Option DirectiveError}
    (settles : config.SettlesOn s.environment subscriber ignored) :
    s.Yields (Bridge.initLeniently config) (.ok s.subscriber.isNone)
      (s.offered config subscriber) (s.refusalReports ignored) := by
  unfold Bridge.initLeniently
  cases settles with
  | accepted ok =>
    have first := yields_initGlobal ok
    have hreports : s.refusalReports none = [] ++ [] := by simp [refusalReports]
    rw [hreports]
    refine first.bind_ok ?_
    cases s.subscriber <;> exact .pure _ _
  | @refused e refusal ok =>
    have first := yields_initGlobal_of_refused refusal
    have second := yields_initGlobal ok
    have hoffered : s.offered config.undirected subscriber = s.offered config subscriber := rfl
    rw [hoffered] at second
    have hreports : s.refusalReports (some e) = [] ++ ([] ++ s.refusalReports (some e)) := rfl
    rw [hreports]
    refine first.bind_ok (second.bind_ok ?_)
    unfold refusalReports
    cases s.subscriber with
    | some old => exact .pure _ _
    | none => exact (Yields.emit _ (.directivesIgnored e)).bind_ok (.pure _ _)

/-- An attempt to install a subscriber panics if the configuration settles on none. -/
theorem exists_yields_initLeniently_of_not
    (unsettled : ∀ subscriber ignored, ¬ config.SettlesOn s.environment subscriber ignored) :
    ∃ p, s.Yields (Bridge.initLeniently config) (.error p) s [] := by
  unfold Bridge.initLeniently
  cases first : Subscriber.ofConfig? config s.environment with
  | ok subscriber => exact absurd (.accepted first) (unsettled subscriber none)
  | error err =>
    cases err with
    | cut e => exact ⟨_, (yields_initGlobal_of_cut first).bind_error⟩
    | refused e =>
      cases second : Subscriber.ofConfig? config.undirected s.environment with
      | ok subscriber => exact absurd (.refused first second) (unsettled subscriber (some e))
      | error err =>
        cases err with
        | cut e' =>
          exact ⟨_, (yields_initGlobal_of_refused first).bind_ok
            (yields_initGlobal_of_cut second).bind_error⟩
        | refused e' =>
          obtain ⟨text, directed, -⟩ := Config.ofConfig?_eq_refused_iff.1 second
          cases directed

/-! ## Installing once -/

/-- What an attempt to install the subscriber of a configuration once can come to. -/
inductive Once (s : Setup) (config : Config) : Except Payload Bool → Setup → List Event → Prop
  /-- It was tried before. -/
  | again {installed : Bool} (tried : s.onceResult = some installed) :
    Once s config (.ok installed) s []
  /-- It is tried. -/
  | first (untried : s.onceResult = none) {subscriber : Subscriber}
    {ignored : Option DirectiveError}
    (settles : config.SettlesOn s.environment subscriber ignored) :
    Once s config (.ok s.subscriber.isNone)
      { s.offered config subscriber with onceResult := some s.subscriber.isNone }
      (s.refusalReports ignored)
  /-- It is tried, with a panic. -/
  | panicked (untried : s.onceResult = none)
    (unsettled : ∀ subscriber ignored, ¬ config.SettlesOn s.environment subscriber ignored)
    (p : Payload) : Once s config (.error p) s []

theorem Once.grows {outcome : Except Payload Bool} {events : List Event}
    (h : s.Once config outcome s' events) : s.Grows s' := by
  cases h with
  | again tried => exact .refl s
  | @first untried subscriber ignored settles =>
    have offer := grows_offered s config subscriber
    refine ⟨offer.subscriber, fun i tried => ?_, offer.environment⟩
    rw [untried] at tried
    cases tried
  | panicked => exact .refl s

/-- An attempt to install a subscriber once reports nothing but that it ignores a refusal. -/
theorem Once.eq_of_mem {outcome : Except Payload Bool} {events : List Event}
    (h : s.Once config outcome s' events) :
    ∀ e ∈ events, ∃ refusal, e = .directivesIgnored refusal := by
  cases h with
  | first untried settles =>
    intro e he
    unfold refusalReports at he
    split at he
    · cases he
    · obtain ⟨refusal, -, rfl⟩ := List.mem_map.1 he
      exact ⟨refusal, rfl⟩
  | _ => exact fun _ he => absurd he List.not_mem_nil

theorem yields_initOnce_of_tried {installed : Bool} (tried : s.onceResult = some installed)
    (config : Config) : s.Yields (Bridge.initOnce config) (.ok installed) s [] := by
  refine .get fun b hs => ?_
  have hb : b.onceResult = some installed := by
    rw [← tried, ← hs]
    rfl
  rw [hb]
  exact .pure s installed

theorem yields_initOnce_of_untried (untried : s.onceResult = none) {outcome : Except Payload Bool}
    {events : List Event} (first : s.Yields (do
      let installed ← Bridge.initLeniently config
      modify fun b => { b with onceResult := some installed }
      return installed) outcome s' events) :
    s.Yields (Bridge.initOnce config) outcome s' events := by
  refine .get fun b hs => ?_
  have hb : b.onceResult = none := by
    rw [← untried, ← hs]
    rfl
  rw [hb]
  exact first

/-- **Every attempt to install a subscriber once has one of three results.** -/
theorem exists_once (s : Setup) (config : Config) : ∃ outcome s' events,
    s.Once config outcome s' events ∧ s.Yields (Bridge.initOnce config) outcome s' events := by
  cases tried : s.onceResult with
  | some installed => exact ⟨_, _, _, .again tried, yields_initOnce_of_tried tried config⟩
  | none =>
    by_cases settled : ∃ subscriber ignored, config.SettlesOn s.environment subscriber ignored
    · obtain ⟨subscriber, ignored, settles⟩ := settled
      refine ⟨_, _, _, .first tried settles, yields_initOnce_of_untried tried ?_⟩
      have hreports : s.refusalReports ignored = s.refusalReports ignored ++ [] := by simp
      rw [hreports]
      refine (yields_initLeniently settles).bind_ok ?_
      rintro b quiet hs
      exact ⟨rfl, by rw [← hs]; rfl, (List.append_nil _).symm, quiet⟩
    · have unsettled : ∀ subscriber ignored,
          ¬ config.SettlesOn s.environment subscriber ignored :=
        fun subscriber ignored settles => settled ⟨subscriber, ignored, settles⟩
      obtain ⟨p, panics⟩ := exists_yields_initLeniently_of_not unsettled
      exact ⟨_, _, _, .panicked tried unsettled p,
        yields_initOnce_of_untried tried panics.bind_error⟩

/-! ## Loading the library -/

section Loading

variable {events : List Event}

theorem yields_onLoad {installed : Bool} (yields : s.Yields
      (Bridge.initOnce (.ofVariables s.environment)) (.ok installed) s' events) :
    s.Yields Bridge.onLoad (.ok Bridge.jniVersion) s' (events ++
      [.blockTimed "jnipoint" "tracing_init", .libraryLoaded Bridge.libraryVersion installed]) := by
  refine .get fun b hs => ?_
  have hb : b.environment = s.environment := by rw [← hs]; rfl
  rw [hb]
  have hevents : events ++
      [.blockTimed "jnipoint" "tracing_init", .libraryLoaded Bridge.libraryVersion installed] =
      (events ++ [.blockTimed "jnipoint" "tracing_init"]) ++
        ([.libraryLoaded Bridge.libraryVersion installed] ++ []) := by simp
  rw [hevents]
  refine (yields.timed "jnipoint" "tracing_init").bind_ok ?_
  exact (Yields.emit s' (.libraryLoaded Bridge.libraryVersion installed)).bind_ok (.pure s' _)

theorem yields_onLoad_of_error {p : Payload} (yields : s.Yields
      (Bridge.initOnce (.ofVariables s.environment)) (.error p) s' events) :
    s.Yields Bridge.onLoad (.error p) s' events := by
  refine .get fun b hs => ?_
  have hb : b.environment = s.environment := by rw [← hs]; rfl
  rw [hb]
  exact yields.bind_error.bind_error

end Loading

end Setup

end PointBridge
