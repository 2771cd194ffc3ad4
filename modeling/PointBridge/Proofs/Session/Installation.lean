import PointBridge.Proofs.Session.Independence

/-!
# The installed subscriber in a session

Two things of a process are set once and for all, the installed subscriber and the result of the
first attempt to install one once. No request takes them back (`Session.grows_step`), and so no run
does (`Session.grows_after`): at most one request of a run installs a subscriber
(`Session.length_installers_le_one`), and all attempts to install one once are told the same
(`Session.onceResult_after`). What each attempt comes to, and
that one which installs nothing changes nothing, is `Session.subscriber_is_installed_once`.
-/

namespace PointBridge

open Trace

namespace Trace.Event

/-- Whether an event reports that directives are not used. -/
def isRefusal : Event → Bool
  | directivesIgnored _ => true
  | _ => false

/-- Whether a subscriber was installed once, if an event tells. -/
def installed? : Event → Option Bool
  | libraryLoaded _ installed => some installed
  | _ => none

end Trace.Event

/-! ## The settings for performance spans -/

namespace PerformanceSwitch

/-- The switch stands as a configuration says. The greatest word counts as no threshold. -/
structure SetBy (s : PerformanceSwitch) (config : Config) : Prop where
  enabled : s.enabled = config.performanceEnabled
  threshold : s.threshold = config.performanceThreshold.filter (· ≠ noThreshold)

theorem setBy_position (config : Config) :
    (position config.performanceEnabled config.performanceThreshold).SetBy config where
  enabled := rfl
  threshold := by
    unfold position threshold
    cases config.performanceThreshold with
    | none => rfl
    | some word =>
      by_cases h : word = noThreshold
      · simp [h, Option.filter]
      · simp [h, Option.filter]

end PerformanceSwitch

namespace Session

/-! ## What a run installs -/

theorem grows_after (s : Session) (requests : List Request) :
    s.bridge.setup.Grows (s.after requests).bridge.setup := by
  induction requests generalizing s with
  | nil => exact .refl _
  | cons request rest ih =>
    rw [after_cons]
    cases (s.step ⟨request, none⟩).1.aborted request with
    | true => exact s.grows_step request
    | false => exact (s.grows_step request).trans (ih _)

/-- The requests of a run that change which subscriber is installed. -/
def installers (s : Session) : List Request → List Request
  | [] => []
  | request :: rest =>
    let next := (s.step ⟨request, none⟩).2
    let later := if (s.step ⟨request, none⟩).1.aborted request then [] else next.installers rest
    if next.bridge.subscriber = s.bridge.subscriber then later else request :: later

/-- An installed subscriber stays. -/
theorem subscriber_step {s : Session} (installed : s.bridge.subscriber.isSome)
    (request : Request) :
    (s.step ⟨request, none⟩).2.bridge.subscriber = s.bridge.subscriber := by
  obtain ⟨subscriber, hs⟩ := Option.isSome_iff_exists.1 installed
  exact ((s.grows_step request).subscriber subscriber hs).trans hs.symm

theorem installers_of_installed {s : Session} (installed : s.bridge.subscriber.isSome)
    (requests : List Request) : s.installers requests = [] := by
  induction requests generalizing s with
  | nil => rfl
  | cons request rest ih =>
    have same := subscriber_step installed request
    rw [installers, if_pos same, ih (by rw [same]; exact installed), ite_self]

/-- **At most one request of a run installs a subscriber.** -/
theorem length_installers_le_one (s : Session) (requests : List Request) :
    (s.installers requests).length ≤ 1 := by
  induction requests generalizing s with
  | nil => exact Nat.zero_le 1
  | cons request rest ih =>
    rw [installers]
    split
    next =>
      cases (s.step ⟨request, none⟩).1.aborted request with
      | true => exact Nat.zero_le 1
      | false => exact ih _
    next changed =>
      have free : s.bridge.subscriber = none :=
        Option.not_isSome_iff_eq_none.1 fun installed => changed (subscriber_step installed request)
      rw [free] at changed
      rw [installers_of_installed (Option.isSome_iff_ne_none.2 changed), ite_self]
      exact Nat.le_refl 1

/-! ## What callers are told -/

end Session

/-- Whether a subscriber was installed once, if the caller of a request is told so: by the answer to
the attempt, or by the report about loading the library. -/
def StepResult.told? (result : StepResult) : Request → Option Bool
  | .tracing (.initOnce _) =>
    match result.outcome with
    | .ok (.flag installed) => some installed
    | _ => none
  | .tracing .onLoad => result.reported.findSome? Event.installed?
  | _ => none

namespace Session

/-- What the callers of the requests of a run are told about installing a subscriber once. -/
def told (s : Session) (requests : List Request) : List Bool :=
  (requests.zip (s.results requests)).filterMap fun entry => entry.2.told? entry.1

theorem told_cons (s : Session) (request : Request) (rest : List Request) :
    s.told (request :: rest) = ((s.step ⟨request, none⟩).1.told? request).toList ++
      if (s.step ⟨request, none⟩).1.aborted request then []
      else (s.step ⟨request, none⟩).2.told rest := by
  unfold told
  rw [results_cons, List.zip_cons_cons, List.filterMap_cons]
  cases (s.step ⟨request, none⟩).1.told? request <;>
    cases (s.step ⟨request, none⟩).1.aborted request <;> simp

/-- An attempt to install a subscriber once ends in a given way. Its caller is told the result, and
it reports what it ignores. -/
structure TriesOnce (s : Session) (c : TracingCall) (result : Except Payload Bool) (setup : Setup)
    (events : List Event) : Prop where
  told : (s.step ⟨.tracing c, none⟩).1.told? (.tracing c) = result.toOption
  panics : ∀ p, result = .error p → (s.step ⟨.tracing c, none⟩).1.outcome = .error p
  setup : (s.step ⟨.tracing c, none⟩).2.bridge.setup = setup
  refusals : (s.step ⟨.tracing c, none⟩).1.reported.filter Event.isRefusal = events

section Trying

variable {s : Session} {config : Config} {result : Except Payload Bool} {setup : Setup}
  {events : List Event}

theorem filter_isRefusal_of_once (once : s.bridge.setup.Once config result setup events) :
    events.filter Event.isRefusal = events := by
  refine List.filter_eq_self.2 fun e he => ?_
  obtain ⟨refusal, rfl⟩ := once.eq_of_mem e he
  rfl

theorem findSome?_installed?_of_once (once : s.bridge.setup.Once config result setup events) :
    events.findSome? Event.installed? = none := by
  refine List.findSome?_eq_none_iff.2 fun e he => ?_
  obtain ⟨refusal, rfl⟩ := once.eq_of_mem e he
  rfl

theorem triesOnce_initOnce (once : s.bridge.setup.Once config result setup events)
    (yields : s.bridge.setup.Yields (Bridge.initOnce config) result setup events) :
    s.TriesOnce (.initOnce config) result setup events := by
  have ends : s.TracesTo (.initOnce config) _ _ _ := tracesTo_of_yields yields rfl
  refine ⟨?_, ?_, congrArg TracingView.setup ends.view, ?_⟩
  · rw [StepResult.told?, ends.outcome]
    cases result <;> rfl
  · rintro p rfl
    exact ends.outcome
  · rw [ends.events, filter_isRefusal_of_once once]

theorem triesOnce_onLoad (once : s.bridge.setup.Once config result setup events)
    (yields : s.bridge.setup.Yields (Bridge.initOnce (.ofVariables s.bridge.environment)) result
      setup events) : s.TriesOnce .onLoad result setup events := by
  cases result with
  | ok installed =>
    have ends : s.TracesTo .onLoad _ _ _ := tracesTo_of_yields (Setup.yields_onLoad yields) rfl
    refine ⟨?_, nofun, congrArg TracingView.setup ends.view, ?_⟩
    · rw [StepResult.told?, ends.events, List.findSome?_append, findSome?_installed?_of_once once]
      rfl
    · rw [ends.events, List.filter_append, filter_isRefusal_of_once once]
      exact List.append_nil events
  | error p =>
    have ends : s.TracesTo .onLoad _ _ _ :=
      tracesTo_of_yields (Setup.yields_onLoad_of_error yields) rfl
    refine ⟨?_, ?_, congrArg TracingView.setup ends.view, ?_⟩
    · rw [StepResult.told?, ends.events, findSome?_installed?_of_once once]
      rfl
    · rintro _ ⟨⟩
      exact ends.outcome
    · rw [ends.events, filter_isRefusal_of_once once]

end Trying

/-- A call that asks to install a subscriber once tries that. -/
theorem exists_triesOnce (s : Session) {c : TracingCall} {config : Config}
    (asks : c.onceConfig? s.bridge.environment = some config) : ∃ result setup events,
    s.bridge.setup.Once config result setup events ∧ s.TriesOnce c result setup events := by
  obtain ⟨result, setup, events, once, yields⟩ := s.bridge.setup.exists_once config
  refine ⟨result, setup, events, once, ?_⟩
  cases c with
  | initOnce =>
    obtain rfl := Option.some.inj asks
    exact triesOnce_initOnce once yields
  | onLoad =>
    obtain rfl := Option.some.inj asks
    exact triesOnce_onLoad once yields
  | _ => cases asks

theorem told?_eq_none {c : TracingCall} {vars : Variables} (other : c.onceConfig? vars = none)
    (result : StepResult) : result.told? (.tracing c) = none := by
  cases c with
  | initOnce | onLoad => cases other
  | _ => rfl

/-- What a caller is told is remembered, and nothing else is. -/
theorem onceResult_step (s : Session) (request : Request) :
    (s.step ⟨request, none⟩).2.bridge.onceResult =
      ((s.step ⟨request, none⟩).1.told? request).or s.bridge.onceResult := by
  cases h : request.isTracing with
  | true =>
    cases request with
    | tracing c =>
      cases asks : c.onceConfig? s.bridge.environment with
      | some config =>
        obtain ⟨result, setup, events, once, tries⟩ := s.exists_triesOnce asks
        have hresult := congrArg Setup.onceResult tries.setup
        rw [tries.told]
        refine Eq.trans hresult ?_
        cases once with
        | again tried => exact tried
        | first => rfl
        | panicked => rfl
      | none =>
        obtain ⟨outcome, v, events, ends, -, untried, -⟩ := s.exists_tracesTo c
        rw [told?_eq_none asks]
        exact (congrArg (·.setup.onceResult) ends.view).trans (untried asks)
    | _ => cases h
  | false =>
    have same : (s.step ⟨request, none⟩).2.bridge.onceResult = s.bridge.onceResult :=
      congrArg (·.setup.onceResult) (tracing_sees_view.hidden s h)
    have untold : (s.step ⟨request, none⟩).1.told? request = none := by
      cases request with
      | tracing c => cases h
      | _ => rfl
    rw [same, untold]
    rfl

/-- **All callers are told the result of the first attempt.** -/
theorem onceResult_after (s : Session) (requests : List Request) :
    (∀ installed ∈ s.told requests, (s.after requests).bridge.onceResult = some installed) ∧
    (s.told requests = [] → (s.after requests).bridge.onceResult = s.bridge.onceResult) := by
  induction requests generalizing s with
  | nil => exact ⟨nofun, fun _ => rfl⟩
  | cons request rest ih =>
    obtain ⟨later, untold⟩ := ih (s.step ⟨request, none⟩).2
    have hstep := s.onceResult_step request
    rw [told_cons, after_cons]
    cases htold : (s.step ⟨request, none⟩).1.told? request with
    | none =>
      rw [htold] at hstep
      cases (s.step ⟨request, none⟩).1.aborted request with
      | true => exact ⟨nofun, fun _ => hstep⟩
      | false => exact ⟨later, fun h => (untold h).trans hstep⟩
    | some first =>
      rw [htold] at hstep
      cases (s.step ⟨request, none⟩).1.aborted request with
      | true =>
        refine ⟨fun installed h => ?_, nofun⟩
        obtain rfl := List.mem_singleton.1 h
        exact hstep
      | false =>
        refine ⟨fun installed h => ?_, nofun⟩
        rcases List.mem_cons.1 h with rfl | h
        · exact (grows_after _ rest).onceResult _ hstep
        · exact later installed h

/-! ## Attempts -/

/-- A request ends in a given way while no alarm is set, and leaves the bridge set up in a given
way. -/
def TurnsTo (s : Session) (request : Request) (outcome : Except Payload Answer) (setup : Setup) :
    Prop :=
  (s.step ⟨request, none⟩).1.outcome = outcome ∧
    (s.step ⟨request, none⟩).2.bridge.setup = setup

/-- What an attempt to install the subscriber of a configuration comes to. Explicit directives that
are refused are an error, whether a subscriber is installed or not. An installed subscriber stays,
and that is an error, too. Otherwise the one of the configuration is installed, with its settings
for performance spans. A filter text that cannot be cut into its parts is a panic, which changes
nothing. -/
structure Attempt (s : Session) (config : Config) : Prop where
  refused : ∀ text e, config.directives = some text → Filter.strict text = .error (.refused e) →
    s.TurnsTo (.tracing (.initGlobal config)) (.ok (.notInstalled (.invalidFilter e)))
      s.bridge.setup
  taken : ∀ subscriber, Subscriber.ofConfig? config s.bridge.environment = .ok subscriber →
    s.bridge.subscriber.isSome →
    s.TurnsTo (.tracing (.initGlobal config)) (.ok (.notInstalled .alreadyInstalled))
      s.bridge.setup
  free : ∀ subscriber, Subscriber.ofConfig? config s.bridge.environment = .ok subscriber →
    s.bridge.subscriber = none → ∃ performance : PerformanceSwitch, performance.SetBy config ∧
    s.TurnsTo (.tracing (.initGlobal config)) (.ok .done)
      { s.bridge.setup with subscriber := some subscriber, performance }
  cut : ∀ e, config.filter s.bridge.environment = .error (.cut e) →
    s.TurnsTo (.tracing (.initGlobal config)) (.error (.owned e.message)) s.bridge.setup

theorem attempt (s : Session) (config : Config) : s.Attempt config := by
  have turns {result : Except Payload (Except SetupError Unit)} {setup : Setup}
      (yields : s.bridge.setup.Yields (Bridge.initGlobal config) result setup []) :
      s.TurnsTo (.tracing (.initGlobal config)) (result.map setupAnswer) setup := by
    have ends : s.TracesTo (.initGlobal config) _ _ _ := tracesTo_of_yields yields rfl
    exact ⟨ends.outcome, congrArg TracingView.setup ends.view⟩
  refine ⟨fun text e directed refusal => ?_, fun subscriber ok installed => ?_,
    fun subscriber ok free => ?_, fun e cut => ?_⟩
  · exact turns (Setup.yields_initGlobal_of_refused
      (Config.ofConfig?_eq_refused_iff.2 ⟨text, directed, refusal⟩))
  · have found : s.bridge.setup.subscriber.isSome = true := installed
    have ends := turns (Setup.yields_initGlobal ok)
    rw [if_pos found, Setup.offered_of_installed found] at ends
    exact ends
  · have unset : s.bridge.setup.subscriber = none := free
    have ends := turns (Setup.yields_initGlobal ok)
    rw [Setup.offered_of_free unset, unset] at ends
    exact ⟨_, PerformanceSwitch.setBy_position config, ends⟩
  · exact turns (Setup.yields_initGlobal_of_cut (Config.ofConfig?_eq_error_iff.2 cut))

/-- What an attempt to install the subscriber of a configuration once comes to, if callers were told
results before. It is told the same as any before, and changes nothing. If it is the first and a
subscriber is installed already, it is told that it did not install one, and only that is
remembered. Otherwise it installs the subscriber on which the configuration settles, with its
settings for performance spans, and reports a refusal once. A configuration that settles on no
subscriber is a panic, which changes nothing. -/
structure OnceAttempt (s : Session) (c : TracingCall) (config : Config) (told : List Bool) :
    Prop where
  again : ∀ installed ∈ told,
    (s.step ⟨.tracing c, none⟩).1.told? (.tracing c) = some installed ∧
    (s.step ⟨.tracing c, none⟩).2.bridge.setup = s.bridge.setup
  taken : told = [] → s.bridge.subscriber.isSome → ∀ subscriber ignored,
    config.SettlesOn s.bridge.environment subscriber ignored →
    (s.step ⟨.tracing c, none⟩).1.told? (.tracing c) = some false ∧
    (s.step ⟨.tracing c, none⟩).2.bridge.setup =
      { s.bridge.setup with onceResult := some false } ∧
    (s.step ⟨.tracing c, none⟩).1.reported.filter Event.isRefusal = []
  free : told = [] → s.bridge.subscriber = none → ∀ subscriber ignored,
    config.SettlesOn s.bridge.environment subscriber ignored →
    (s.step ⟨.tracing c, none⟩).1.told? (.tracing c) = some true ∧
    (∃ performance : PerformanceSwitch, performance.SetBy config ∧
      (s.step ⟨.tracing c, none⟩).2.bridge.setup =
        { s.bridge.setup with
          subscriber := some subscriber
          performance
          onceResult := some true }) ∧
    (s.step ⟨.tracing c, none⟩).1.reported.filter Event.isRefusal =
      ignored.toList.map .directivesIgnored
  unsettled : told = [] →
    (∀ subscriber ignored, ¬ config.SettlesOn s.bridge.environment subscriber ignored) →
    ∃ p, s.TurnsTo (.tracing c) (.error p) s.bridge.setup

theorem onceAttempt {s : Session} {c : TracingCall} {config : Config} {told : List Bool}
    (asks : c.onceConfig? s.bridge.environment = some config)
    (remembered : ∀ installed ∈ told, s.bridge.onceResult = some installed)
    (untold : told = [] → s.bridge.onceResult = none) : s.OnceAttempt c config told := by
  obtain ⟨result, setup, events, once, tries⟩ := s.exists_triesOnce asks
  have first_of (untried : s.bridge.setup.onceResult = none) : told = [] :=
    List.eq_nil_iff_forall_not_mem.2 fun installed h => by
      cases untried.symm.trans (remembered installed h)
  cases once with
  | @again installed tried =>
    have later : told ≠ [] := fun h => by cases tried.symm.trans (untold h)
    refine ⟨fun other h => ?_, fun h => absurd h later, fun h => absurd h later,
      fun h => absurd h later⟩
    obtain rfl := Option.some.inj (tried.symm.trans (remembered other h))
    exact ⟨tries.told, tries.setup⟩
  | @first untried subscriber ignored settles =>
    obtain rfl := first_of untried
    refine ⟨fun _ h => absurd h List.not_mem_nil, fun _ installed _ _ _ => ?_,
      fun _ free subscriber' ignored' settles' => ?_,
      fun _ unsettled => (unsettled _ _ settles).elim⟩
    · have found : s.bridge.setup.subscriber.isSome = true := installed
      have taken : s.bridge.setup.subscriber.isNone = false := by simpa using found
      refine ⟨?_, ?_, ?_⟩
      · rw [tries.told, taken]
        rfl
      · rw [tries.setup, taken, Setup.offered_of_installed found]
      · rw [tries.refusals, Setup.refusalReports_of_installed found]
    · obtain ⟨rfl, rfl⟩ := settles.unique settles'
      have unset : s.bridge.setup.subscriber = none := free
      refine ⟨?_, ⟨_, PerformanceSwitch.setBy_position config, ?_⟩, ?_⟩
      · rw [tries.told, unset]
        rfl
      · rw [tries.setup, Setup.offered_of_free unset, unset]
        rfl
      · rw [tries.refusals, Setup.refusalReports_of_free unset]
  | panicked untried unsettled p =>
    obtain rfl := first_of untried
    exact ⟨fun _ h => absurd h List.not_mem_nil,
      fun _ _ subscriber ignored settles => (unsettled subscriber ignored settles).elim,
      fun _ _ subscriber ignored settles => (unsettled subscriber ignored settles).elim,
      fun _ _ => ⟨p, tries.panics p rfl, tries.setup⟩⟩

/-- **A subscriber is installed once.** Take any run of a process while no alarm is set. At most one
of its requests installs a subscriber. After it, an attempt to install the subscriber of a
configuration fails if the explicit directives are refused, and otherwise if a subscriber is
installed; where it fails, nothing is changed, and where it does not, the settings for performance
spans are those of the configuration. An attempt to install one once is told what all before were
told. The first one is told whether it installed a subscriber, which it does if there was none; it
does without directives that are refused, and reports that once. -/
theorem subscriber_is_installed_once (environment : Variables) (past : List Request) :
    let s := (start environment).after past
    ((start environment).installers past).length ≤ 1 ∧
    (∀ config : Config, s.Attempt config) ∧
    ∀ (c : TracingCall) (config : Config), c.onceConfig? environment = some config →
      s.OnceAttempt c config ((start environment).told past) := by
  intro s
  have henvironment : s.bridge.environment = environment :=
    (grows_after (start environment) past).environment
  obtain ⟨remembered, untold⟩ := (start environment).onceResult_after past
  refine ⟨length_installers_le_one _ _, s.attempt, fun c config asks => ?_⟩
  rw [← henvironment] at asks
  exact onceAttempt asks remembered untold

/-- The first attempt comes with directives that are refused and installs a subscriber in spite of
them; the second one, with other settings, is told so, too. -/
theorem subscriber_is_installed_once_in_spite_of_a_refusal :
    let config : Config := { Config.development with directives := some "jnipoint=loud" }
    let s := (start {}).after []
    let later := (start {}).after [.tracing (.initOnce config)]
    let e : DirectiveError := .badLevel
    (s.step ⟨.tracing (.initOnce config), none⟩).1.told? (.tracing (.initOnce config)) = some true ∧
      (s.step ⟨.tracing (.initOnce config), none⟩).1.reported.filter Event.isRefusal =
        [.directivesIgnored e] ∧
      later.bridge.performance.enabled = true ∧
      (later.step ⟨.tracing (.initOnce .continuousIntegration), none⟩).1.told?
        (.tracing (.initOnce .continuousIntegration)) = some true ∧
      (later.step ⟨.tracing (.initOnce .continuousIntegration), none⟩).2.bridge.setup =
        later.bridge.setup := by
  intro config s later e
  have refusal : Subscriber.ofConfig? config {} = .error (.refused e) := by decide +kernel
  have described : (Subscriber.ofConfig? config.undirected {}).isOk = true := by decide +kernel
  obtain ⟨subscriber, ok⟩ :
      ∃ subscriber, Subscriber.ofConfig? config.undirected {} = .ok subscriber := by
    cases h : Subscriber.ofConfig? config.undirected {} with
    | ok subscriber => exact ⟨subscriber, rfl⟩
    | error e =>
      rw [h] at described
      cases described
  obtain ⟨-, -, first⟩ := subscriber_is_installed_once {} []
  obtain ⟨told, -, reported⟩ :=
    (first (.initOnce config) config rfl).free rfl rfl subscriber (some e) (.refused refusal ok)
  obtain ⟨-, -, second⟩ := subscriber_is_installed_once {} [.tracing (.initOnce config)]
  have tolds : (start {}).told [.tracing (.initOnce config)] = [true] := by decide +kernel
  obtain ⟨again, same⟩ := (second (.initOnce .continuousIntegration) .continuousIntegration
    rfl).again true (by rw [tolds]; simp)
  exact ⟨told, reported, by decide +kernel, again, same⟩

/-- Two configurations for which an attempt does not do what they say: a threshold that no switch
can hold, and directives that are neither read nor refused. -/
theorem attempt_at_the_limits :
    let unbounded : Config :=
      { Config.development with performanceThreshold := some 0xffffffffffffffff }
    let divided : Config := { Config.development with directives := some " [é]" }
    let installed := step {} ⟨.tracing (.initGlobal unbounded), none⟩
    installed.1.outcome = .ok .done ∧
      installed.2.bridge.performance.threshold ≠ unbounded.performanceThreshold ∧
      (Filter.strict " [é]").isOk = false ∧
      (step {} ⟨.tracing (.initGlobal divided), none⟩).1.outcome.isOk = false := by
  decide +kernel

end Session

end PointBridge
