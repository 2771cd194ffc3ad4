import PointBridge.BridgeError
import PointBridge.Entry
import PointBridge.Point
import PointBridge.Trace.Directive

/-!
# Events

Everything that the bridge reports is an `Event`. The kind of an event fixes its level, its
target, its message and the names and order of its fields.
-/

namespace PointBridge.Trace

/-! ## Field values -/

/-- The value of a field. -/
inductive Value where
  /-- An integer. -/
  | number (n : Int)
  /-- A truth value. -/
  | flag (b : Bool)
  /-- A text, quoted where events are formatted. -/
  | quoted (s : String)
  /-- A text that is never quoted. -/
  | plain (s : String)
  /-- A measured time. It differs from run to run, so a fixed text stands for it. -/
  | duration
deriving DecidableEq

namespace Value

/-- The text of the value as it is. -/
def text : Value → String
  | number n => toString n
  | flag b => toString b
  | quoted s => s
  | plain s => s
  | duration => "<us>"

end Value

/-- A named value. -/
structure Field where
  name : String
  value : Value
deriving DecidableEq

/-! ## Kinds of events -/

/-- What is reported. -/
inductive Event where
  /-- An allocation uses a slot that was vacant. -/
  | slotReused (handle : Handle)
  /-- A point was allocated. -/
  | pointAllocated (handle : Handle)
  /-- A point was released with its last value. -/
  | pointReleased (handle : Handle) (point : Point)
  /-- All points were retired; so many had been live. -/
  | registryCleared (released : Nat)
  /-- The registry was locked although a panic had happened under its lock. -/
  | registryPoisoned
  /-- A foreign caller passed a null pointer. -/
  | nullPoint (firstIsNull secondIsNull : Bool)
  /-- A buffer is too short for a point. -/
  | undersizedBuffer (firstLength secondLength : Nat) (error : PointError)
  /-- A native call failed. -/
  | callFailed (entry : Entry) (error : BridgeError)
  /-- A native call panicked. -/
  | callPanicked (entry : Entry) (panic : String)
  /-- An exception could not be thrown. -/
  | throwFailed (className : String) (error : JniError)
  /-- A performance span reached its threshold. -/
  | spanCompleted
  /-- A block of code was timed. -/
  | blockTimed (target operation : String)
  /-- The library was loaded. -/
  | libraryLoaded (version : String) (subscriber : Bool)
  /-- Explicit directives could not be read and are not used. -/
  | directivesIgnored (error : DirectiveError)
deriving DecidableEq

namespace Event

/-- The severity of an event. -/
def level : Event → Level
  | slotReused _ => .trace
  | pointAllocated _ => .debug
  | pointReleased .. => .debug
  | registryCleared _ => .info
  | registryPoisoned => .warn
  | nullPoint .. => .error
  | undersizedBuffer .. => .warn
  | callFailed .. => .warn
  | callPanicked .. => .error
  | throwFailed .. => .error
  | spanCompleted => .debug
  | blockTimed .. => .debug
  | libraryLoaded .. => .info
  | directivesIgnored _ => .warn

/-- The target of performance spans and of the events about them. -/
def spanTarget : String := "points_tracing::performance"

/-- The part of the program that an event comes from. -/
def target : Event → String
  | slotReused _ => "points_core::arena"
  | pointAllocated _ => "jnipoint::point"
  | pointReleased .. => "jnipoint::point"
  | registryCleared _ => "jnipoint::handles"
  | registryPoisoned => "jnipoint::handles"
  | nullPoint .. => "jnipoint::abi"
  | undersizedBuffer .. => "jnipoint::buffer"
  | callFailed .. => "jnipoint::exports"
  | callPanicked .. => "jnipoint::exports"
  | throwFailed .. => "jnipoint::exports"
  | spanCompleted => spanTarget
  | blockTimed target _ => target
  | libraryLoaded .. => "jnipoint"
  | directivesIgnored _ => "points_tracing"

/-- The message of an event. -/
def message : Event → String
  | slotReused _ => "Reusing point slot"
  | pointAllocated _ => "Point allocated"
  | pointReleased .. => "Point released"
  | registryCleared _ => "Point registry cleared"
  | registryPoisoned => "Point registry mutex was poisoned, recovering data"
  | nullPoint .. => "distance_ptrs called with null point"
  | undersizedBuffer .. => "Rejected undersized point buffer"
  | callFailed .. => "Native call failed"
  | callPanicked .. => "Native call panicked"
  | throwFailed .. => "Failed to throw Java exception"
  | spanCompleted => "performance_span_complete"
  | blockTimed .. => "timed_block_complete"
  | libraryLoaded .. => "jnipoint loaded"
  | directivesIgnored _ => "Ignoring invalid tracing directives"

/-- The field with the 64-bit word of a handle. -/
def handleField (h : Handle) : Field := ⟨"handle", .number h.raw.toNat⟩

/-- The fields of an event, in the order in which they are shown. -/
def fields : Event → List Field
  | slotReused h =>
    [⟨"index", .number h.index.toNat⟩, ⟨"generation", .number h.generation.toNat⟩]
  | pointAllocated h => [handleField h]
  | pointReleased h p => [handleField h, ⟨"x", .number p.x.toInt⟩, ⟨"y", .number p.y.toInt⟩]
  | registryCleared released => [⟨"released", .number released⟩]
  | registryPoisoned => []
  | nullPoint firstIsNull secondIsNull =>
    [⟨"p1_null", .flag firstIsNull⟩, ⟨"p2_null", .flag secondIsNull⟩]
  | undersizedBuffer firstLength secondLength error =>
    [⟨"a_len", .number firstLength⟩, ⟨"b_len", .number secondLength⟩,
      ⟨"error", .plain error.message⟩]
  | callFailed entry error => [⟨"entry", .quoted entry.label⟩, ⟨"error", .plain error.message⟩]
  | callPanicked entry panic => [⟨"entry", .quoted entry.label⟩, ⟨"panic", .plain panic⟩]
  | throwFailed className error =>
    [⟨"class", .quoted className⟩, ⟨"error", .plain error.message⟩]
  | spanCompleted => [⟨"duration_us", .duration⟩]
  | blockTimed _ operation => [⟨"operation", .quoted operation⟩, ⟨"duration_us", .duration⟩]
  | libraryLoaded version subscriber =>
    [⟨"version", .plain version⟩, ⟨"subscriber", .flag subscriber⟩, ⟨"init_us", .duration⟩]
  | directivesIgnored error => [⟨"error", .plain error.message⟩]

/-- The names of the fields, among which filters count the message. -/
def fieldNames (e : Event) : List String := "message" :: e.fields.map (·.name)

end Event

end PointBridge.Trace
