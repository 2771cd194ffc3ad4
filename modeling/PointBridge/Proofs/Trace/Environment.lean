import Mathlib.Logic.Function.Basic
import PointBridge.Proofs.Text
import PointBridge.Trace.Config

/-!
# Configurations from the environment

One variable names the preset of a configuration, and each of four others may replace fields of its
own in it (`Config.ofVariables_eq`). What the text of a variable means is told by a relation
(`NamesPreset`, `GivesDirectives`, `NamesFormat`, `Switches`, `WritesThreshold`); a text that means
nothing is like a variable that is not set. So every field is settled by the preset and one
variable, and no variable has a say in the fields of another (`Config.fields_settled_apart`).
-/

namespace PointBridge.Trace

/-! ## What texts mean -/

/-- The name of a format. -/
def Format.name : Format → String
  | compact => "compact"
  | pretty => "pretty"
  | json => "json"

/-- A text names a preset other than that for development, in any ASCII case. -/
def NamesPreset (t : String) (preset : Config) : Prop :=
  t.toLower = "ci" ∧ preset = .continuousIntegration ∨
    t.toLower = "performance" ∧ preset = .performance

/-- A text that is not blank gives directives: itself. -/
def GivesDirectives (t directives : String) : Prop := ¬ Text.Blank t.toList ∧ directives = t

/-- A text names a format, in any ASCII case and with white space around. -/
def NamesFormat (t : String) (f : Format) : Prop :=
  String.ofList ((Text.trim t.toList).map Char.toLower) = f.name

/-- A text switches performance spans on if it says so, in any ASCII case, and off otherwise. -/
def Switches (t : String) (on : Bool) : Prop :=
  on = true ↔ t.toLower = "true" ∨ t.toLower = "yes" ∨ t = "1"

/-- A text writes a threshold, with white space around. -/
def WritesThreshold (t : String) (threshold : UInt64) : Prop :=
  Text.Numeral threshold.toNat (Text.trim t.toList)

/-- The directives that a text gives. -/
def directives? (t : String) : Option String := if Text.trim t.toList = [] then none else some t

/-- The position into which a text switches performance spans. -/
def switch? (t : String) : Option Bool := some (Config.isAffirmative t)

/-- The threshold that a text writes. -/
def threshold? (t : String) : Option UInt64 := Text.readWord? (Text.trim t.toList)

theorem directives?_eq_some_iff (t directives : String) :
    directives? t = some directives ↔ GivesDirectives t directives := by
  rw [directives?, Option.ite_none_left_eq_some, Text.trim_eq_nil_iff, Option.some.injEq,
    GivesDirectives, eq_comm (a := t)]

theorem read?_eq_some_iff (t : String) (f : Format) :
    Format.read? t = some f ↔ NamesFormat t f := by
  unfold Format.read? NamesFormat
  dsimp only
  generalize String.ofList _ = written
  split_ifs with compact pretty json <;> cases f <;> simp [Format.name, *]

theorem switch?_eq_some_iff (t : String) (on : Bool) : switch? t = some on ↔ Switches t on := by
  have affirmative : Config.isAffirmative t = true ↔
      t.toLower = "true" ∨ t.toLower = "yes" ∨ t = "1" := by
    simp only [Config.isAffirmative, Bool.or_eq_true, decide_eq_true_eq]
    tauto
  rw [switch?, Option.some.injEq, Bool.eq_iff_iff, affirmative]
  exact iff_comm

theorem threshold?_eq_some_iff (t : String) (threshold : UInt64) :
    threshold? t = some threshold ↔ WritesThreshold t threshold :=
  Text.readWord?_eq_some_iff

/-! ## What variables ask for -/

/-- The texts of the variables; one that is not set, or is not UTF-8, has none. -/
def Variables.texts (vars : Variables) : List (Option String) :=
  [vars.profile, vars.directives, vars.format, vars.performance, vars.threshold].map (·.value?)

namespace Variable

variable {α : Type} {v : Variable}

/-- A variable asks for a value: it has a text that means this value. -/
def Asks (means : String → α → Prop) (v : Variable) (value : α) : Prop :=
  ∃ t, v = .text t ∧ means t value

/-- The value that is read in the text of a variable. -/
def ask? (read : String → Option α) (v : Variable) : Option α := v.value?.bind read

section Reading

variable {read : String → Option α} {means : String → α → Prop}
  (reads : ∀ t value, read t = some value ↔ means t value)

include reads

theorem ask?_eq_some_iff {value : α} : v.ask? read = some value ↔ v.Asks means value := by
  cases v with
  | text t => simp [ask?, Asks, value?, reads]
  | _ => simp [ask?, Asks, value?]

theorem ask?_eq_none_iff : v.ask? read = none ↔ ∀ value, ¬ v.Asks means value := by
  simp only [Option.eq_none_iff_forall_ne_some, Ne, ask?_eq_some_iff reads]

end Reading

end Variable

namespace Config

open Variable

/-- A change by a text, which sets what is read in it, sets what the variable asks for. -/
theorem adjust_eq {α : Type} {change : Config → String → Config} {read : String → Option α}
    {set : Config → α → Config}
    (h : ∀ config t, change config t = (read t).elim config (set config)) (v : Variable)
    (config : Config) :
    adjust change v config = (v.ask? read).elim config (set config) := by
  unfold adjust ask?
  cases v.value? with
  | none => rfl
  | some t => exact h config t

theorem withDirectives_eq (config : Config) (t : String) : config.withDirectives t =
    (directives? t).elim config fun text => { config with directives := some text } := by
  unfold withDirectives directives?
  split_ifs <;> rfl

theorem withFormat_eq (config : Config) (t : String) : config.withFormat t =
    (Format.read? t).elim config fun output =>
      { config with output, ansi := config.ansi && decide (output ≠ .json) } := by
  unfold withFormat
  cases Format.read? t with
  | none => rfl
  | some f => cases f <;> simp

theorem withThreshold_eq (config : Config) (t : String) : config.withThreshold t =
    (threshold? t).elim config fun threshold =>
      { config with performanceThreshold := some threshold } := by
  unfold withThreshold threshold?
  cases Text.readWord? (Text.trim t.toList) <;> rfl

/-- The preset that a variable names, or that for development. -/
def preset (v : Variable) : Config := ofProfile (v.value?.getD "local")

/-- **What the environment makes of a preset**: each field is what its variable asks for, if that
asks for anything. -/
theorem ofVariables_eq (vars : Variables) : ofVariables vars =
    { preset vars.profile with
      directives := (vars.directives.ask? directives?).or (preset vars.profile).directives
      output := (vars.format.ask? Format.read?).getD (preset vars.profile).output
      ansi := (preset vars.profile).ansi && decide (vars.format.ask? Format.read? ≠ some .json)
      performanceEnabled := (vars.performance.ask? switch?).getD
        (preset vars.profile).performanceEnabled
      performanceThreshold := (vars.threshold.ask? threshold?).or
        (preset vars.profile).performanceThreshold } := by
  have performance (config : Config) (t : String) : config.withPerformance t =
      (switch? t).elim config fun performanceEnabled =>
        { config with performanceEnabled } := rfl
  rw [ofVariables, adjust_eq withDirectives_eq, adjust_eq withFormat_eq, adjust_eq performance,
    adjust_eq withThreshold_eq]
  unfold preset
  cases vars.directives.ask? directives? <;> cases vars.format.ask? Format.read? <;>
    cases vars.performance.ask? switch? <;>
    cases vars.threshold.ask? threshold? <;> simp

/-! ## Presets -/

/-- The name that stands for a variable without a text. -/
theorem ofProfile_local : ofProfile "local" = development := by decide +kernel

/-- No preset has a threshold, nor are objects coloured in any. -/
theorem preset_restrained (v : Variable) :
    (preset v).performanceThreshold = none ∧
      ((preset v).output = .json → (preset v).ansi = false) := by
  unfold preset ofProfile
  dsimp only
  split_ifs <;> decide

/-! ## Fields and their variables -/

/-- A field holds what is asked for, or what the preset holds if nothing is asked for. -/
inductive Settles {α : Type} (asks : α → Prop) (preset : α) : α → Prop
  | asked {value : α} (asked : asks value) : Settles asks preset value
  | unasked (none : ∀ value, ¬ asks value) : Settles asks preset preset

theorem settles_ask? {α : Type} {read : String → Option α} {means : String → α → Prop}
    (reads : ∀ t value, read t = some value ↔ means t value) (v : Variable) (preset : α) :
    Settles (v.Asks means) preset ((v.ask? read).getD preset) := by
  cases asked : v.ask? read with
  | none => exact .unasked ((ask?_eq_none_iff reads).1 asked)
  | some value => exact .asked ((ask?_eq_some_iff reads).1 asked)

theorem settles_preset (v : Variable) :
    Settles (v.Asks NamesPreset) development (preset v) := by
  cases v with
  | text t =>
    change Settles _ _ (ofProfile t)
    unfold ofProfile
    dsimp only
    split_ifs with ci measured
    · exact .asked ⟨t, rfl, .inl ⟨ci, rfl⟩⟩
    · exact .asked ⟨t, rfl, .inr ⟨measured, rfl⟩⟩
    · refine .unasked ?_
      rintro _ ⟨_, ⟨⟩, ⟨named, -⟩ | ⟨named, -⟩⟩
      · exact ci named
      · exact measured named
  | _ =>
    rw [preset, value?, Option.getD_none, ofProfile_local]
    exact .unasked fun _ ⟨_, absent, _⟩ => Variable.noConfusion absent

/-- Each field of a configuration follows its own variable and a preset. To ask for objects is to
ask for no colours, and no preset has a threshold. -/
structure Follows (config : Config) (vars : Variables) (preset : Config) : Prop where
  directives : Settles (fun given => ∃ t, given = some t ∧ vars.directives.Asks GivesDirectives t)
    preset.directives config.directives
  output : Settles (vars.format.Asks NamesFormat) preset.output config.output
  ansi : config.ansi = true ↔ preset.ansi = true ∧ ¬ vars.format.Asks NamesFormat .json
  performanceEnabled : Settles (vars.performance.Asks Switches) preset.performanceEnabled
    config.performanceEnabled
  performanceThreshold (threshold : UInt64) :
    config.performanceThreshold = some threshold ↔ vars.threshold.Asks WritesThreshold threshold
  defaultDirective : config.defaultDirective = preset.defaultDirective
  includeTargets : config.includeTargets = preset.includeTargets
  spanEvents : config.spanEvents = preset.spanEvents

theorem follows_ofVariables (vars : Variables) :
    (ofVariables vars).Follows vars (preset vars.profile) := by
  rw [ofVariables_eq]
  constructor
  case directives =>
    cases given : vars.directives.ask? directives? with
    | none =>
      refine .unasked ?_
      rintro _ ⟨t, -, asked⟩
      exact (ask?_eq_none_iff directives?_eq_some_iff).1 given t asked
    | some t => exact .asked ⟨t, rfl, (ask?_eq_some_iff directives?_eq_some_iff).1 given⟩
  case output => exact settles_ask? read?_eq_some_iff _ _
  case ansi =>
    rw [Bool.and_eq_true, decide_eq_true_eq, Ne, ask?_eq_some_iff read?_eq_some_iff]
  case performanceEnabled => exact settles_ask? switch?_eq_some_iff _ _
  case performanceThreshold =>
    intro threshold
    rw [(preset_restrained vars.profile).1, Option.or_none,
      ask?_eq_some_iff threshold?_eq_some_iff]
  case defaultDirective => rfl
  case includeTargets => rfl
  case spanEvents => rfl

/-- A variable governs some fields of a configuration: to change the variable is to replace these
and no others, and while it asks for nothing, it is like one that is not set. -/
structure Governs {α β : Type} (put : Variable → Variables → Variables) (means : String → α → Prop)
    (replace : β → Config → Config) : Prop where
  confined (vars : Variables) (v : Variable) :
    ∃ fields, ofVariables (put v vars) = replace fields (ofVariables vars)
  idle (vars : Variables) (v : Variable) (unasked : ∀ value, ¬ v.Asks means value) :
    ofVariables (put v vars) = ofVariables (put .unset vars)

theorem governs_of_resolve {α β : Type} {put : Variable → Variables → Variables}
    {read : String → Option α} {means : String → α → Prop} {replace : β → Config → Config}
    (reads : ∀ t value, read t = some value ↔ means t value)
    (resolve : Variables → Option α → Config)
    (resolved : ∀ vars v, ofVariables (put v vars) = resolve vars (v.ask? read))
    (confined : ∀ vars asked, ∃ fields, resolve vars asked = replace fields (ofVariables vars)) :
    Governs put means replace where
  confined vars v := by
    rw [resolved]
    exact confined vars _
  idle vars v unasked := by
    rw [resolved, resolved, (ask?_eq_none_iff reads).2 unasked]
    rfl

theorem governs_directives : Governs (fun v vars => { vars with directives := v }) GivesDirectives
    fun directives config => { config with directives } :=
  governs_of_resolve directives?_eq_some_iff
    (fun vars asked =>
      { ofVariables vars with directives := asked.or (preset vars.profile).directives })
    (fun vars v => by rw [ofVariables_eq, ofVariables_eq vars]) fun _ _ => ⟨_, rfl⟩

theorem governs_format : Governs (fun v vars => { vars with format := v }) NamesFormat
    fun (fields : Format × Bool) config =>
      { config with output := fields.1, ansi := fields.2 } :=
  governs_of_resolve read?_eq_some_iff
    (fun vars asked =>
      { ofVariables vars with
        output := asked.getD (preset vars.profile).output
        ansi := (preset vars.profile).ansi && decide (asked ≠ some .json) })
    (fun vars v => by rw [ofVariables_eq, ofVariables_eq vars]) fun _ _ => ⟨(_, _), rfl⟩

theorem governs_performance : Governs (fun v vars => { vars with performance := v }) Switches
    fun performanceEnabled config => { config with performanceEnabled } :=
  governs_of_resolve switch?_eq_some_iff
    (fun vars asked =>
      { ofVariables vars with
        performanceEnabled := asked.getD (preset vars.profile).performanceEnabled })
    (fun vars v => by rw [ofVariables_eq, ofVariables_eq vars]) fun _ _ => ⟨_, rfl⟩

theorem governs_threshold : Governs (fun v vars => { vars with threshold := v }) WritesThreshold
    fun performanceThreshold config => { config with performanceThreshold } :=
  governs_of_resolve threshold?_eq_some_iff
    (fun vars asked =>
      { ofVariables vars with
        performanceThreshold := asked.or (preset vars.profile).performanceThreshold })
    (fun vars v => by rw [ofVariables_eq, ofVariables_eq vars]) fun _ _ => ⟨_, rfl⟩

/-- Only the texts of the variables count. -/
theorem ofVariables_factorsThrough_texts : ofVariables.FactorsThrough Variables.texts := by
  intro vars vars' same
  simp only [Variables.texts, List.map_cons, List.map_nil, List.cons.injEq, and_true] at same
  obtain ⟨profile, directives, format, performance, threshold⟩ := same
  simp only [ofVariables, adjust, profile, directives, format, performance, threshold]

/-- Objects are never coloured. -/
theorem not_coloured_json (vars : Variables) :
    ¬ ((ofVariables vars).output = .json ∧ (ofVariables vars).ansi = true) := by
  rintro ⟨output, ansi⟩
  have follows := follows_ofVariables vars
  obtain ⟨coloured, unasked⟩ := follows.ansi.1 ansi
  have settled := follows.output
  rw [output] at settled
  generalize hformat : (preset vars.profile).output = format at settled
  cases settled with
  | asked asked => exact unasked asked
  | unasked =>
    have restrained := (preset_restrained vars.profile).2 hformat
    rw [coloured] at restrained
    cases restrained

/-- **Every field of a configuration from the environment is settled by the preset and one
variable.** Only the texts of the five variables count, and so one that is not UTF-8 is like one
that is not set. The profile names the preset, which is that for development if it names no other.
Each field holds what its own variable asks for, or what the preset holds if that asks for nothing.
To change one of the other four variables is to change its own fields at most, and while it asks for
nothing it is like one that is not set. Objects are never coloured. -/
theorem fields_settled_apart :
    ofVariables.FactorsThrough Variables.texts ∧
    (∀ vars : Variables, ∃ preset, Settles (vars.profile.Asks NamesPreset) development preset ∧
      (ofVariables vars).Follows vars preset) ∧
    Governs (fun v vars => { vars with directives := v }) GivesDirectives
      (fun directives config => { config with directives }) ∧
    Governs (fun v vars => { vars with format := v }) NamesFormat
      (fun (fields : Format × Bool) config =>
        { config with output := fields.1, ansi := fields.2 }) ∧
    Governs (fun v vars => { vars with performance := v }) Switches
      (fun performanceEnabled config => { config with performanceEnabled }) ∧
    Governs (fun v vars => { vars with threshold := v }) WritesThreshold
      (fun performanceThreshold config => { config with performanceThreshold }) ∧
    ∀ vars : Variables, ¬ ((ofVariables vars).output = .json ∧ (ofVariables vars).ansi = true) :=
  ⟨ofVariables_factorsThrough_texts,
    fun vars => ⟨preset vars.profile, settles_preset vars.profile, follows_ofVariables vars⟩,
    governs_directives, governs_format, governs_performance, governs_threshold,
    not_coloured_json⟩

/-- A profile and a switch are not trimmed, a format and a threshold are, and blank directives are
none. -/
example : ofVariables {
      profile := .text " ci", directives := .text "\u3000 ", format := .text "\tJson\n"
      performance := .text "YES ", threshold := .text " +0250 " } =
    { development with
      output := .json, ansi := false, performanceEnabled := false
      performanceThreshold := some 250 } := by
  decide +kernel

end Config

end PointBridge.Trace
