import PointBridge.Pattern
import PointBridge.Text.Decimal

/-!
# Conditions on fields

A directive can ask for a field by its name, and for a value of it. The value is a truth value, a
number, or else a pattern for texts. The fields of spans are texts, so only patterns can match.
-/

namespace PointBridge.Trace

/-- A condition on the value of a field. -/
inductive ValueCondition where
  /-- The value is the truth value or number that a text writes. -/
  | scalar (text : String)
  /-- The value is a text that a pattern describes. -/
  | pattern (p : Pattern)
deriving DecidableEq

namespace ValueCondition

/-- Read a condition on a value. -/
def read (s : List Char) : Except PatternError ValueCondition :=
  if s = "true".toList ∨ s = "false".toList ∨ Text.isNumber s then .ok (.scalar (String.ofList s))
  else (Pattern.read s).map pattern

/-- Whether a text meets the condition. -/
def accepts : ValueCondition → String → Bool
  | scalar _, _ => false
  | pattern p, text => p.accepts text

end ValueCondition

/-- A condition on the fields of a span or an event: the name of one, and what its value has to be,
if that matters. -/
structure FieldCondition where
  name : String
  value : Option ValueCondition
deriving DecidableEq

namespace FieldCondition

/-- Read a condition: a name, and after a first `=` a value, which ends at a second one. -/
def read (s : List Char) : Except PatternError FieldCondition :=
  let name := s.takeWhile (· != '=')
  match s.drop name.length with
  | _ :: rest =>
    (ValueCondition.read (rest.takeWhile (· != '='))).map fun value =>
      ⟨String.ofList name, some value⟩
  | [] => .ok ⟨String.ofList name, none⟩

end FieldCondition

end PointBridge.Trace
