/-!
# Environment variables

Six variables of the process configure tracing. What a variable holds need not be text; one that
is not UTF-8 reads like one that is not set.
-/

namespace PointBridge.Trace

/-- The state of one environment variable. -/
inductive Variable where
  /-- The variable is not set. -/
  | unset
  /-- The variable is set to bytes that are not UTF-8. -/
  | undecodable
  /-- The variable is set to a text. -/
  | text (value : String)
deriving DecidableEq

namespace Variable

/-- The variable set to some bytes. -/
def ofBytes (bytes : ByteArray) : Variable :=
  match String.fromUTF8? bytes with
  | some value => text value
  | none => undecodable

/-- The text of the variable, if it has one. -/
def value? : Variable → Option String
  | unset => none
  | undecodable => none
  | text value => some value

end Variable

/-- The environment variables that are read. `sharedFilter` is the filter text that all programs of
the process share. -/
structure Variables where
  profile : Variable := .unset
  format : Variable := .unset
  directives : Variable := .unset
  performance : Variable := .unset
  threshold : Variable := .unset
  sharedFilter : Variable := .unset
deriving DecidableEq

namespace Variables

/-- Set the variable with a given name; other names are not read. -/
def set (vars : Variables) (name : String) (v : Variable) : Variables :=
  if name = "POINTS_TRACING_PROFILE" then { vars with profile := v }
  else if name = "POINTS_TRACING_FORMAT" then { vars with format := v }
  else if name = "POINTS_TRACING_DIRECTIVES" then { vars with directives := v }
  else if name = "POINTS_PERF_TRACING" then { vars with performance := v }
  else if name = "POINTS_PERF_THRESHOLD_US" then { vars with threshold := v }
  else if name = "RUST_LOG" then { vars with sharedFilter := v }
  else vars

/-- The variables with the given names and values. -/
def ofList (settings : List (String × Variable)) : Variables :=
  settings.foldl (fun vars s => vars.set s.1 s.2) {}

end Variables

end PointBridge.Trace
