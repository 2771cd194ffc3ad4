import PointBridge.Trace.Filter
import PointBridge.Trace.Variables

/-!
# Tracing configuration

A `Config` says which events are shown and how. There are three presets; `Config.ofVariables`
takes the preset that the environment names and replaces single fields, each by its own variable.
`Config.filter` resolves the filter: explicit directives are read strictly and may fail; without
them the shared filter of the environment is used if it can be read, and the default directive
otherwise.
-/

namespace PointBridge.Trace

/-- The form in which events are shown. -/
inductive Format where
  | compact
  | pretty
  | json
deriving DecidableEq

namespace Format

/-- The format that a text names, in any ASCII case and with white space around. -/
def read? (text : String) : Option Format :=
  let name := String.ofList ((Text.trim text.toList).map Char.toLower)
  if name = "compact" then some compact
  else if name = "pretty" then some pretty
  else if name = "json" then some json
  else none

end Format

/-- The moments in the life of a span that are shown as events. -/
structure SpanEvents where
  new : Bool := false
  enter : Bool := false
  exit : Bool := false
  close : Bool := false
deriving DecidableEq

/-- How tracing behaves. `directives` is the filter text, if there is an explicit one, and
`defaultDirective` the one where no other can be used. The threshold is the least number of
microseconds of a performance span that is shown. -/
structure Config where
  directives : Option String
  defaultDirective : String
  includeTargets : Bool
  ansi : Bool
  spanEvents : SpanEvents
  output : Format
  performanceEnabled : Bool
  performanceThreshold : Option UInt64
deriving DecidableEq

namespace Config

/-! ## Presets -/

/-- For development: coloured, in several lines. Performance spans record in a debug build only,
which is the build that `performanceEnabled` stands for here; a release build has `false`. -/
def development : Config where
  directives := none
  defaultDirective := "warn"
  includeTargets := true
  ansi := true
  spanEvents := {}
  output := .pretty
  performanceEnabled := true
  performanceThreshold := none

/-- For collected logs: one object a line. -/
def continuousIntegration : Config where
  directives := none
  defaultDirective := "info"
  includeTargets := true
  ansi := false
  spanEvents := {}
  output := .json
  performanceEnabled := false
  performanceThreshold := none

/-- For measuring: performance spans with their events, and the debug events of the bridge. -/
def performance : Config where
  directives := some "jnipoint=debug,points_core=debug,info"
  defaultDirective := "info"
  includeTargets := true
  ansi := false
  spanEvents := { enter := true, exit := true, close := true }
  output := .json
  performanceEnabled := true
  performanceThreshold := none

instance : Inhabited Config := ⟨development⟩

/-- The preset of a profile, whose name counts in any ASCII case but as it is otherwise. An
unknown name means development. -/
def ofProfile (profile : String) : Config :=
  let name := profile.toLower
  if name = "ci" then continuousIntegration
  else if name = "performance" then performance
  else development

/-! ## The environment -/

/-- Whether a text switches performance spans on: `true` or `yes` in any ASCII case, or `1`. -/
def isAffirmative (text : String) : Bool :=
  text.toLower = "true" || text = "1" || text.toLower = "yes"

/-- Use explicit directives, unless they are blank. -/
def withDirectives (config : Config) (text : String) : Config :=
  if Text.trim text.toList = [] then config else { config with directives := some text }

/-- Use the format that a text names, if it names one. Objects are never coloured. -/
def withFormat (config : Config) (text : String) : Config :=
  match Format.read? text with
  | some .json => { config with output := .json, ansi := false }
  | some output => { config with output }
  | none => config

/-- Switch performance spans on or off. -/
def withPerformance (config : Config) (text : String) : Config :=
  { config with performanceEnabled := isAffirmative text }

/-- Use the threshold that a text writes, if it writes one. -/
def withThreshold (config : Config) (text : String) : Config :=
  match Text.readWord? (Text.trim text.toList) with
  | some threshold => { config with performanceThreshold := some threshold }
  | none => config

/-- Change a configuration by the text of a variable that has one. -/
def adjust (change : Config → String → Config) (v : Variable) (config : Config) : Config :=
  match v.value? with
  | some text => change config text
  | none => config

/-- The configuration that the environment describes. -/
def ofVariables (vars : Variables) : Config :=
  ofProfile (vars.profile.value?.getD "local")
    |> adjust withDirectives vars.directives
    |> adjust withFormat vars.format
    |> adjust withPerformance vars.performance
    |> adjust withThreshold vars.threshold

/-! ## The filter -/

/-- The filter of a configuration. -/
def filter (config : Config) (vars : Variables) : Except ReadError Filter :=
  match config.directives with
  | some text => Filter.strict text
  | none =>
    match vars.sharedFilter.value?.map Filter.strict with
    | some (.ok filter) => .ok filter
    | some (.error (.cut e)) => .error (.cut e)
    | _ => (Filter.lenient config.defaultDirective).mapError .cut

end Config

end PointBridge.Trace
