import PointBridge.Performance

/-!
# Installing a subscriber

A process has at most one subscriber. `Bridge.initGlobal` installs the one that a configuration
describes, and with it the configuration's settings for performance spans; it fails if the
configuration is not acceptable or a subscriber is installed already. In the second case the new
subscriber is asked for its interests all the same.
`Bridge.initOnce` does so at most once and remembers the result; explicit directives that cannot
be read do not stop it, for it does without them and reports that. `Bridge.onLoad` is what the
virtual machine calls when it loads the library.
-/

namespace PointBridge

open Trace

/-- Why a subscriber was not installed. -/
inductive SetupError where
  /-- The explicit directives cannot be read. -/
  | invalidFilter (error : DirectiveError)
  /-- A subscriber is installed already. -/
  | alreadyInstalled
deriving DecidableEq

namespace SetupError

/-- The text shown for the error. -/
def message : SetupError → String
  | invalidFilter e => "invalid tracing directive: " ++ e.message
  | alreadyInstalled =>
    "failed to install global tracing subscriber: " ++
      "a global default trace dispatcher has already been set"

end SetupError

namespace Bridge

/-- Install the subscriber that a configuration describes. A filter text that cannot be cut into
its parts is a panic. -/
def initGlobal (config : Config) : Action (Except SetupError Unit) := do
  let b ← get
  match Subscriber.ofConfig? config b.environment with
  | .error (.refused e) => return .error (.invalidFilter e)
  | .error (.cut e) => throw (.owned e.message)
  | .ok subscriber =>
    let outlook := b.outlook.consult (b.subscriber.toList ++ [subscriber])
    if b.subscriber.isSome then
      set { b with outlook }
      return .error .alreadyInstalled
    set { b with
      subscriber := some subscriber
      outlook
      performance := .position config.performanceEnabled config.performanceThreshold }
    return .ok ()

/-- Install the subscriber that a configuration describes, without its directives if they cannot
be read. The answer says whether it was installed. -/
def initLeniently (config : Config) : Action Bool := do
  match ← initGlobal config with
  | .ok () => return true
  | .error (.invalidFilter e) =>
    match ← initGlobal { config with directives := none } with
    | .ok () =>
      emit (.directivesIgnored e)
      return true
    | .error _ => return false
  | .error .alreadyInstalled => return false

/-- Install the subscriber that a configuration describes unless this was tried before; the
answer is that of the first try. A try that panics does not count. -/
def initOnce (config : Config) : Action Bool := do
  match (← get).onceResult with
  | some installed => return installed
  | none =>
    let installed ← initLeniently config
    modify fun b => { b with onceResult := some installed }
    return installed

/-! ## Loading the library -/

/-- The version of the library. -/
def libraryVersion : String := "0.1.0"

/-- The version of the interface to the virtual machine that the library needs. -/
def jniVersion : Int32 := 0x00010008

/-- Set up the library when the virtual machine loads it. -/
def onLoad : Action Int32 := do
  let config := Config.ofVariables (← get).environment
  let installed ← timed "jnipoint" "tracing_init" (initOnce config)
  emit (.libraryLoaded libraryVersion installed)
  return jniVersion

end Bridge

end PointBridge
