import Mathlib.Data.List.Forall2
import Mathlib.Data.List.ReduceOption
import PointBridge.Proofs.Installation
import PointBridge.Proofs.Trace.Environment

/-!
# Three routes to a filter

A configuration takes its filter from explicit directives, from the filter text that all programs
share, or from its default directive (`Config.Route`). The first two texts are read strictly, the
third one leniently, which makes no difference where a text can be read strictly and has any
directives (`Filter.lenient_of_strict`). So such a text enables the same levels on every route, and
only explicit directives are refused (`Config.routes_agree`).
-/

namespace PointBridge.Trace

/-! ## Reading all members of a list -/

section Lists

variable {α β ε : Type} {f : α → Except ε β} {l : List α}

theorem mapM_eq_ok_iff {r : List β} :
    l.mapM f = .ok r ↔ List.Forall₂ (fun a b => f a = .ok b) l r := by
  induction l generalizing r with
  | nil => simp [pure, Except.pure, eq_comm]
  | cons a l ih =>
    rw [List.mapM_cons, List.forall₂_cons_left_iff]
    simp only [← ih]
    cases f a with
    | error e => simp [bind, Except.bind]
    | ok b => cases l.mapM f <;> simp [bind, Except.bind, pure, Except.pure, eq_comm]

theorem exists_mapM_eq_ok_iff : (∃ r, l.mapM f = .ok r) ↔ ∀ a ∈ l, ∃ b, f a = .ok b := by
  induction l with
  | nil => simp [pure, Except.pure]
  | cons a l ih =>
    rw [List.mapM_cons, List.forall_mem_cons, ← ih]
    cases f a with
    | error e => simp [bind, Except.bind]
    | ok b => cases l.mapM f <;> simp [bind, Except.bind, pure, Except.pure]

end Lists

/-! ## Strict and lenient reading -/

namespace Filter

variable {text : String} {filter : Filter}

/-- **A text is read strictly if every piece of it is read**, and only then. -/
theorem exists_strict_eq_ok_iff (text : String) : (∃ filter, strict text = .ok filter) ↔
    ∀ piece ∈ pieces text, ∃ d, Directive.read piece = .ok d :=
  exists_mapM_eq_ok_iff

theorem eq_nil_iff_of_strict (read : strict text = .ok filter) :
    filter = [] ↔ pieces text = [] := by
  rw [← List.length_eq_zero_iff, ← (mapM_eq_ok_iff.1 read).length_eq, List.length_eq_zero_iff]

/-- A text without pieces is read strictly, as a filter without directives. -/
theorem strict_of_pieces_eq_nil (none : pieces text = []) : strict text = .ok [] := by
  rw [strict, none]
  rfl

theorem accepted_eq_error_iff {piece : List Char} {e : Text.CutError} :
    accepted piece = .error e ↔ Directive.read piece = .error (.cut e) := by
  unfold accepted
  cases Directive.read piece with
  | ok d => simp
  | error e' => cases e' <;> simp

theorem lenient_eq (text : String) : lenient text = ((pieces text).mapM accepted).map
    fun read => if read.reduceOption = [] then errorsOnly else read.reduceOption := by
  unfold lenient
  cases (pieces text).mapM accepted with
  | error e => rfl
  | ok read =>
    simp only [Except.map, bind, Except.bind]
    cases h : read.reduceOption with
    | nil => rfl
    | cons d rest => rfl

/-- Leniently, nothing stops the reading but a piece that cannot be cut into its parts. -/
theorem exists_lenient_eq_error_iff (text : String) : (∃ e, lenient text = .error e) ↔
    ∃ piece ∈ pieces text, ∃ e, Directive.read piece = .error (.cut e) := by
  have stops : (∃ e, lenient text = .error e) ↔
      ¬ ∃ read, (pieces text).mapM accepted = .ok read := by
    rw [lenient_eq]
    cases (pieces text).mapM accepted <;> simp [Except.map]
  rw [stops, exists_mapM_eq_ok_iff]
  simp only [← accepted_eq_error_iff, not_forall, exists_prop]
  refine exists_congr fun piece => and_congr_right fun _ => ?_
  cases accepted piece <;> simp

/-- **What is read strictly is read leniently as well.** Only where there are no directives, the
lenient reading lets errors pass. -/
theorem lenient_of_strict (read : strict text = .ok filter) :
    lenient text = .ok (if filter = [] then errorsOnly else filter) := by
  have kept : (pieces text).mapM accepted = .ok (filter.map some) := by
    rw [mapM_eq_ok_iff, List.forall₂_map_right_iff]
    refine (mapM_eq_ok_iff.1 read).imp fun piece d hd => ?_
    rw [accepted, hd]
  have all : (filter.map some).reduceOption = filter := by simp [List.reduceOption]
  rw [lenient_eq, kept]
  simp only [Except.map, all]

end Filter

/-! ## Routes -/

/-- A variable provides no filter: it has no text, or one that is refused. -/
def Variable.Unusable (v : Variable) : Prop :=
  ∀ text, v = .text text → ∃ e, Filter.strict text = .error (.refused e)

namespace Config

variable {config : Config} {vars : Variables}

/-- How a configuration comes to its filter, if it comes to one. -/
inductive Route (config : Config) (vars : Variables) : Except ReadError Filter → Prop
  /-- There are explicit directives. -/
  | directives {text : String} (explicit : config.directives = some text) :
    Route config vars (Filter.strict text)
  /-- There are none, and the shared filter text is not refused. -/
  | shared {text : String} (implicit : config.directives = none)
    (shared : vars.sharedFilter = .text text)
    (kept : ∀ e, Filter.strict text ≠ .error (.refused e)) :
    Route config vars (Filter.strict text)
  /-- There are none, and there is no shared filter text or it is refused. -/
  | fallback (implicit : config.directives = none) (unusable : vars.sharedFilter.Unusable) :
    Route config vars ((Filter.lenient config.defaultDirective).mapError .cut)

theorem Route.filter_eq {result : Except ReadError Filter} (route : Route config vars result) :
    config.filter vars = result := by
  cases route with
  | directives explicit => simp only [filter, explicit]
  | @shared text implicit shared kept =>
    simp only [filter, implicit, shared, Variable.value?, Option.map_some]
    cases hs : Filter.strict text with
    | ok f => rfl
    | error e =>
      cases e with
      | refused e => exact absurd hs (kept e)
      | cut e => rfl
  | fallback implicit unusable =>
    simp only [filter, implicit]
    cases hv : vars.sharedFilter with
    | unset => rfl
    | undecodable => rfl
    | text text =>
      obtain ⟨e, he⟩ := unusable text hv
      simp only [Variable.value?, Option.map_some, he]

/-- **A configuration takes one of the three routes.** -/
theorem route (config : Config) (vars : Variables) : Route config vars (config.filter vars) := by
  suffices ∃ result, Route config vars result by
    obtain ⟨result, taken⟩ := this
    exact taken.filter_eq ▸ taken
  cases hd : config.directives with
  | some text => exact ⟨_, .directives hd⟩
  | none =>
    by_cases unusable : vars.sharedFilter.Unusable
    · exact ⟨_, .fallback hd unusable⟩
    · unfold Variable.Unusable at unusable
      push Not at unusable
      obtain ⟨text, shared, kept⟩ := unusable
      exact ⟨_, .shared hd shared kept⟩

/-- A configuration panics over its filter if the text that it reads has a piece that cannot be cut
into its parts. Read strictly, the text is read up to the first piece that stops the reading. -/
inductive Breaks (config : Config) (vars : Variables) : Prop
  | directives {text : String} {e : Text.CutError} (explicit : config.directives = some text)
    (cut : Filter.strict text = .error (.cut e))
  | shared {text : String} {e : Text.CutError} (implicit : config.directives = none)
    (shared : vars.sharedFilter = .text text) (cut : Filter.strict text = .error (.cut e))
  | fallback {piece : List Char} {e : Text.CutError} (implicit : config.directives = none)
    (unusable : vars.sharedFilter.Unusable)
    (found : piece ∈ Filter.pieces config.defaultDirective)
    (cut : Directive.read piece = .error (.cut e))

theorem exists_filter_eq_cut_iff : (∃ e, config.filter vars = .error (.cut e)) ↔
    config.Breaks vars := by
  constructor
  · rintro ⟨e, he⟩
    have taken := config.route vars
    generalize config.filter vars = result at he taken
    cases taken with
    | directives explicit => exact .directives explicit he
    | shared implicit shared _ => exact .shared implicit shared he
    | fallback implicit unusable =>
      cases hl : Filter.lenient config.defaultDirective with
      | ok f => rw [hl] at he; cases he
      | error e' =>
        obtain ⟨piece, found, e, cut⟩ := (Filter.exists_lenient_eq_error_iff _).1 ⟨e', hl⟩
        exact .fallback implicit unusable found cut
  · intro breaks
    cases breaks with
    | directives explicit cut => exact ⟨_, (Route.directives explicit).filter_eq.trans cut⟩
    | shared implicit shared cut =>
      have kept : ∀ e, Filter.strict _ ≠ .error (.refused e) := fun e h => by
        rw [cut] at h
        cases h
      exact ⟨_, (Route.shared implicit shared kept).filter_eq.trans cut⟩
    | fallback implicit unusable found cut =>
      obtain ⟨e, he⟩ := (Filter.exists_lenient_eq_error_iff _).2 ⟨_, found, _, cut⟩
      refine ⟨e, (Route.fallback implicit unusable).filter_eq.trans ?_⟩
      rw [he]
      rfl

/-! ## Refusals -/

theorem exists_refused_iff : (∃ e, Subscriber.ofConfig? config vars = .error (.refused e)) ↔
    ∃ text, config.directives = some text ∧ ∃ e, Filter.strict text = .error (.refused e) := by
  simp only [ofConfig?_eq_refused_iff]
  rw [exists_comm]
  simp only [exists_and_left]

theorem exists_cut_iff : (∃ e, Subscriber.ofConfig? config vars = .error (.cut e)) ↔
    config.Breaks vars := by
  simp only [ofConfig?_eq_error_iff, exists_filter_eq_cut_iff]

/-- **Without a subscriber ends what has explicit directives that cannot be read**, and what has
none and panics. -/
theorem forall_ofConfig?_ne_ok_iff : (∀ s, Subscriber.ofConfig? config vars ≠ .ok s) ↔
    (∃ text, config.directives = some text ∧ ∀ f, Filter.strict text ≠ .ok f) ∨
      config.directives = none ∧ config.Breaks vars := by
  cases hd : config.directives with
  | some text =>
    have hf : config.filter vars = Filter.strict text := (Route.directives hd).filter_eq
    rw [Subscriber.ofConfig?, hf]
    cases read : Filter.strict text <;> simp [Except.map, read]
  | none =>
    rw [← exists_cut_iff]
    cases hs : Subscriber.ofConfig? config vars with
    | ok s => simp
    | error e =>
      cases e with
      | cut e => simp
      | refused e =>
        obtain ⟨text, explicit, -⟩ := exists_refused_iff.1 ⟨e, hs⟩
        rw [hd] at explicit
        cases explicit

/-! ## The environment -/

/-- The explicit directives that the environment gives, if it gives any. -/
theorem directives_ofVariables (vars : Variables) : (ofVariables vars).directives =
    match vars.directives with
    | .text text =>
      if Text.trim text.toList = [] then (ofProfile (vars.profile.value?.getD "local")).directives
      else some text
    | _ => (ofProfile (vars.profile.value?.getD "local")).directives := by
  rw [ofVariables_eq]
  cases vars.directives with
  | unset => rfl
  | undecodable => rfl
  | text text =>
    change (directives? text).or (preset vars.profile).directives = _
    unfold directives?
    split
    next blank => simp [blank, preset]
    next some => simp [some]

/-- No preset has directives that are refused. -/
theorem exists_strict_of_ofProfile {profile text : String}
    (h : (ofProfile profile).directives = some text) : ∃ f, Filter.strict text = .ok f := by
  unfold ofProfile at h
  dsimp only at h
  split at h
  · cases h
  · split at h
    · obtain rfl := Option.some.inj h
      exact ⟨[{ target := some "jnipoint", ceiling := some .debug },
        { target := some "points_core", ceiling := some .debug }, { ceiling := some .info }],
        by decide +kernel⟩
    · cases h

/-- **The environment is refused for its directives only**, if they are not blank. -/
theorem exists_ofVariables_refused_iff (vars : Variables) :
    (∃ e, Subscriber.ofConfig? (ofVariables vars) vars = .error (.refused e)) ↔
      ∃ text, vars.directives = .text text ∧ Text.trim text.toList ≠ [] ∧
        ∃ e, Filter.strict text = .error (.refused e) := by
  have preset (text : String) (e : DirectiveError)
      (h : (ofProfile (vars.profile.value?.getD "local")).directives = some text) :
      Filter.strict text ≠ .error (.refused e) := by
    obtain ⟨f, hf⟩ := exists_strict_of_ofProfile h
    rw [hf]
    exact nofun
  rw [exists_refused_iff, directives_ofVariables]
  cases vars.directives with
  | unset | undecodable => simpa using fun text h e => preset text e h
  | text text =>
    by_cases blank : Text.trim text.toList = []
    · simpa [blank] using fun text h e => preset text e h
    · simp [blank]

/-! ## Levels -/

/-- The levels of a target that a configuration lets pass, for events without fields. -/
def levels (config : Config) (vars : Variables) (target : String) :
    Except ReadError (List Level) :=
  (Subscriber.ofConfig? config vars).map (·.filter.levels target)

theorem levels_of_filter {f : Filter} (h : config.filter vars = .ok f) (target : String) :
    config.levels vars target = .ok (f.levels target) := by
  rw [levels, Subscriber.ofConfig?, h]
  rfl

section Levels

variable {text : String} {f : Filter} (read : Filter.strict text = .ok f) (config : Config)
  (vars : Variables)
include read

theorem levels_of_directives (target : String) :
    levels { config with directives := some text } vars target = .ok (f.levels target) :=
  levels_of_filter ((Route.directives rfl).filter_eq.trans read) target

theorem levels_of_shared (target : String) :
    levels { config with directives := none } { vars with sharedFilter := .text text } target =
      .ok (f.levels target) := by
  refine levels_of_filter ((Route.shared rfl rfl fun e h => ?_).filter_eq.trans read) target
  rw [read] at h
  cases h

theorem levels_of_fallback {v : Variable} (unusable : v.Unusable) (target : String) :
    levels { config with directives := none, defaultDirective := text }
      { vars with sharedFilter := v } target =
      .ok ((if f = [] then Filter.errorsOnly else f).levels target) := by
  refine levels_of_filter ((Route.fallback rfl unusable).filter_eq.trans ?_) target
  rw [Filter.lenient_of_strict read]
  rfl

end Levels

/-- **The three routes to a filter agree, and only explicit directives are refused.** A text is
read strictly if each of its pieces is read, and only then. A configuration is refused if its
explicit directives are refused, and only then; it panics if the text that it consults has a piece
that cannot be cut into its parts; and otherwise there is a subscriber. With explicit directives
neither the environment nor the default directive counts. A text with directives that is read
strictly enables the same levels as explicit directives, as the shared filter text, and as the
default directive where the shared one is of no use. One without directives enables nothing on the
first two routes and errors on the third. The environment is refused for its directives, if they are
a text that is not blank and is refused, and for nothing else. -/
theorem routes_agree :
    (∀ text, (∃ f, Filter.strict text = .ok f) ↔
      ∀ piece ∈ Filter.pieces text, ∃ d, Directive.read piece = .ok d) ∧
    (∀ (config : Config) (vars : Variables),
      ((∃ e, Subscriber.ofConfig? config vars = .error (.refused e)) ↔
        ∃ text, config.directives = some text ∧ ∃ e, Filter.strict text = .error (.refused e)) ∧
      ((∃ e, Subscriber.ofConfig? config vars = .error (.cut e)) ↔ config.Breaks vars) ∧
      ((∀ s, Subscriber.ofConfig? config vars ≠ .ok s) ↔
        (∃ text, config.directives = some text ∧ ∀ f, Filter.strict text ≠ .ok f) ∨
          config.directives = none ∧ config.Breaks vars) ∧
      ∀ text, config.directives = some text → ∀ (vars' : Variables) (fallback : String),
        Subscriber.ofConfig? { config with defaultDirective := fallback } vars' =
          Subscriber.ofConfig? config vars) ∧
    (∀ (config : Config) (vars : Variables) (v : Variable) (text target : String), v.Unusable →
      let explicit := levels { config with directives := some text } vars target
      let shared := levels { config with directives := none }
        { vars with sharedFilter := .text text } target
      let fallback := levels { config with directives := none, defaultDirective := text }
        { vars with sharedFilter := v } target
      (∀ f, Filter.strict text = .ok f → Filter.pieces text ≠ [] →
        explicit = .ok (f.levels target) ∧ shared = explicit ∧ fallback = explicit) ∧
      (Filter.pieces text = [] → explicit = .ok [] ∧ shared = .ok [] ∧ fallback = .ok [.error])) ∧
    ∀ vars : Variables,
      (∃ e, Subscriber.ofConfig? (ofVariables vars) vars = .error (.refused e)) ↔
        ∃ text, vars.directives = .text text ∧ Text.trim text.toList ≠ [] ∧
          ∃ e, Filter.strict text = .error (.refused e) := by
  refine ⟨Filter.exists_strict_eq_ok_iff, fun config vars => ⟨exists_refused_iff, exists_cut_iff,
    forall_ofConfig?_ne_ok_iff, fun text explicit vars' fallback => ?_⟩,
    fun config vars v text target unusable => ⟨fun f read some => ?_, fun none => ?_⟩,
    exists_ofVariables_refused_iff⟩
  · rw [Subscriber.ofConfig?, Subscriber.ofConfig?, (Route.directives explicit).filter_eq]
    refine congrArg _ (Route.filter_eq (.directives ?_))
    exact explicit
  · have directed : f ≠ [] := mt (Filter.eq_nil_iff_of_strict read).1 some
    rw [levels_of_directives read, levels_of_shared read, levels_of_fallback read _ _ unusable,
      if_neg directed]
    exact ⟨rfl, rfl, rfl⟩
  · have read := Filter.strict_of_pieces_eq_nil none
    rw [levels_of_directives read, levels_of_shared read, levels_of_fallback read _ _ unusable]
    exact ⟨rfl, rfl, rfl⟩

/-- A text without directives, and a shared filter text with a piece that cannot be cut: the first
lets nothing pass on two routes and errors on the third, the second ends without a subscriber where
there are no explicit directives. -/
theorem routes_at_the_limits :
    Filter.strict "" = .ok [] ∧
      levels { development with directives := some "" } {} "jnipoint" = .ok [] ∧
      levels development { sharedFilter := .text "" } "jnipoint" = .ok [] ∧
      levels { development with defaultDirective := "" } {} "jnipoint" = .ok [.error] ∧
      development.directives = none ∧
      (Subscriber.ofConfig? development { sharedFilter := .text " [é]" }).isOk = false := by
  decide +kernel

end Config

end PointBridge.Trace
