import PointBridge.Text.Alphanumeric
import PointBridge.Text.Blank
import PointBridge.Text.Cut
import PointBridge.Trace.Condition
import PointBridge.Trace.Level

/-!
# Filter directives

A directive is one piece of a filter text: a level, a target, or both joined by `=`. Between them,
brackets can hold the name of a span, and in braces behind it a condition on a field.
`Directive.read` reads one piece. White space around a piece does not count when its parts are
looked for, but the parts are then cut from the piece as it is, at the same positions. So white
space in front shifts the parts, and a part may turn out to start or end inside a character.
-/

namespace PointBridge.Trace

/-! ## Errors -/

/-- Why a piece of a filter text is refused. -/
inductive DirectiveError where
  /-- The piece has not the form of a directive. -/
  | malformed
  /-- The text after `=` is no level. -/
  | badLevel
  /-- The value in a condition on a field is no pattern. -/
  | badPattern (error : PatternError)
deriving DecidableEq

namespace DirectiveError

/-- The text shown for the error. -/
def message : DirectiveError → String
  | malformed => "invalid filter directive"
  | badLevel =>
    "error parsing level filter: expected one of \"off\", \"error\", \"warn\", " ++
      "\"info\", \"debug\", \"trace\", or a number 0-5"
  | badPattern e => "invalid field filter: " ++ e.message

end DirectiveError

/-- Why a piece of a filter text cannot be read. -/
inductive ReadError where
  /-- The piece is refused. -/
  | refused (error : DirectiveError)
  /-- A part of the piece cannot be cut out of it, which nothing handles. -/
  | cut (error : Text.CutError)
deriving DecidableEq

/-! ## Directives -/

/-- One piece of a filter: what targets start with, the name of spans and the condition on a field,
as far as these matter, and what may pass by it. -/
structure Directive where
  target : Option String := none
  span : Option String := none
  field : Option FieldCondition := none
  ceiling : Ceiling := some .trace
deriving DecidableEq

namespace Directive

/-! ## Levels -/

/-- The ceiling with a given number, 0 for the one that lets nothing pass. -/
def ceilingOfNumber? : Nat → Option Ceiling
  | 0 => some none
  | 1 => some (some .error)
  | 2 => some (some .warn)
  | 3 => some (some .info)
  | 4 => some (some .debug)
  | 5 => some (some .trace)
  | _ => none

/-- The ceiling with a given name in lower case. -/
def ceilingOfName? (name : String) : Option Ceiling :=
  if name = "off" then some none
  else if name = "error" then some (some .error)
  else if name = "warn" then some (some .warn)
  else if name = "info" then some (some .info)
  else if name = "debug" then some (some .debug)
  else if name = "trace" then some (some .trace)
  else none

/-- The ceiling that a text names, by a number or by a name in any ASCII case. -/
def readCeiling? (s : List Char) : Option Ceiling :=
  match (Text.readWord? s).bind fun n => ceilingOfNumber? n.toNat with
  | some ceiling => some ceiling
  | none => ceilingOfName? (String.ofList (s.map Char.toLower))

/-- The ceiling after `=`: everything passes if nothing is written there. -/
def readLevel (s : List Char) : Except DirectiveError Ceiling :=
  if s = [] then .ok (some .trace)
  else
    match readCeiling? s with
    | some ceiling => .ok ceiling
    | none => .error .badLevel

/-! ## Parts of a piece -/

/-- The part of a piece between two positions. -/
def part (piece : List Char) (start stop : Nat) : Except ReadError (List Char) :=
  (Text.cut piece start stop).mapError .cut

/-- The level that a piece has from a position on. -/
def levelFrom (piece : List Char) (start : Nat) : Except ReadError Ceiling := do
  (readLevel (← (Text.cutFrom piece start).mapError .cut)).mapError .refused

/-- The condition on a field that a piece has between two positions. -/
def fieldBetween (piece : List Char) (start stop : Nat) : Except ReadError FieldCondition := do
  let text ← part piece start stop
  if text = [] then throw (.refused .malformed)
  (FieldCondition.read text).mapError fun e => .refused (.badPattern e)

/-- Complete a directive by what follows its closing bracket: nothing, or `=` at a position and a
level behind it. -/
def complete (piece : List Char) (d : Directive) (position : Nat) :
    List Char → Except ReadError Directive
  | [] => .ok d
  | '=' :: _ => do return { d with ceiling := ← levelFrom piece (position + 1) }
  | _ => .error (.refused .malformed)

/-- Read what follows an opening bracket up to the end of the piece. It starts at position
`start`. -/
def readSpan (piece : List Char) (target : Option String) (start : Nat) (inside : List Char) :
    Except ReadError Directive := do
  let name := inside.takeWhile fun c => c != ']' && c != '\x7b'
  let stop := start + Text.byteLength name
  match inside.drop name.length with
  | ']' :: tail =>
    let span ← part piece start stop
    complete piece { target, span := some (String.ofList span) } (stop + 1) tail
  | '\x7b' :: body =>
    let span ← part piece start stop
    let span := if span = [] then none else some (String.ofList span)
    let text := body.takeWhile (· != '\x7d')
    match body.drop text.length with
    | '\x7d' :: tail =>
      let last := stop + 1 + Text.byteLength text
      let field ← fieldBetween piece (stop + 1) last
      match tail with
      | ']' :: tail => complete piece { target, span, field := some field } (last + 2) tail
      | _ => throw (.refused .malformed)
    | _ => throw (.refused .malformed)
  | _ => throw (.refused .malformed)

/-! ## Pieces -/

/-- Whether a directive without brackets may start with the character. -/
def startsDirective (c : Char) : Bool :=
  c == '-' || c == ':' || c == '_' || Text.isAlphanumeric c

/-- A piece that is not cut: a level, or a target all of whose events pass. -/
def ofWhole (piece : List Char) : Directive :=
  match readCeiling? piece with
  | some ceiling => { ceiling }
  | none => { target := some (String.ofList piece) }

/-- Read one piece. -/
def read (piece : List Char) : Except ReadError Directive := do
  match Text.trim piece with
  | [] => throw (.refused .malformed)
  | '[' :: inside => readSpan piece none 1 inside
  | first :: rest =>
    if startsDirective first then
      let target := (first :: rest).takeWhile fun c => c != '=' && c != '['
      let position := Text.byteLength target
      match (first :: rest).drop target.length with
      | '[' :: inside =>
        let target ← part piece 0 position
        readSpan piece (some (String.ofList target)) (position + 1) inside
      | '=' :: _ =>
        let target ← part piece 0 position
        return { target := some (String.ofList target)
                 ceiling := ← levelFrom piece (position + 1) }
      | _ => return ofWhole piece
    else throw (.refused .malformed)

end Directive

end PointBridge.Trace
