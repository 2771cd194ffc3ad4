import PointBridge.Pattern.Escape
import PointBridge.Pattern.Nested

/-!
# Classes of characters in patterns

A class stands in brackets. Its members are characters, ranges, escapes, named classes such as
the digits, and further classes in brackets; classes can be combined by the operations of sets,
all of which bind from the left. `Bracket.readClass` reads what follows the opening bracket.
-/

namespace PointBridge.Pattern

/-- An operation on classes. -/
inductive Operator where
  | inter
  | diff
  | symmDiff
deriving DecidableEq

namespace Operator

/-- The operation on sets. -/
def apply : Operator → CharSet → CharSet → CharSet
  | inter => .inter
  | diff => .diff
  | symmDiff => .symmDiff

end Operator

/-- A class that is being read: the last operation with its first operand, if there was one, and the
members since then, the last first. -/
structure Bracket where
  negated : Bool
  pending : Option (Operator × Nested CharSet) := none
  members : List (Nested CharSet) := []
deriving DecidableEq

namespace Bracket

/-! ## Parts of classes -/

/-- Add members. -/
def add (b : Bracket) (part : Nested CharSet) : Bracket := { b with members := part :: b.members }

/-- The members after all operations. -/
def result (m : Mode) (b : Bracket) : Nested CharSet :=
  let last := Nested.join CharSet.unions b.members
  match b.pending with
  | none => last
  | some (op, first) => first.joinPair (fun a b => op.apply (m.fold a) (m.fold b)) last

/-- Go on after an operator. -/
def operate (m : Mode) (b : Bracket) (op : Operator) : Bracket :=
  { b with pending := some (op, b.result m), members := [] }

/-- The class, once it is read to its end. -/
def close? (m : Mode) (b : Bracket) : Option (Nested CharSet) := do
  let members := b.result m
  let set ← m.class? b.negated members.meaning
  return members.within fun _ => set

/-- Read the dashes that start a class, which stand for themselves. -/
def readDashes (m : Mode) (b : Bracket) : Nat → List Char → Bracket × List Char
  | 0, s => (b, s)
  | n + 1, s =>
    match m.skip s with
    | '-' :: rest => readDashes m (b.add ⟨.single '-', 0⟩) n rest
    | rest => (b, rest)

/-- Read the start of a class: the mark of negation, and dashes, or else a closing bracket, that
stand for themselves. -/
def start (m : Mode) (s : List Char) : Bracket × List Char :=
  let (negated, s) := match m.skip s with
    | '^' :: rest => (true, rest)
    | rest => (false, rest)
  match readDashes m { negated } s.length s with
  | (b, ']' :: rest) => if b.members = [] then (b.add ⟨.single ']', 0⟩, rest) else (b, ']' :: rest)
  | (b, rest) => (b, rest)

/-- The characters between two, if both are literals in the right order. -/
def range? (m : Mode) : Primitive → Primitive → Option CharSet
  | .literal first, .literal last =>
    if last < first || !m.wide && 0x80 ≤ last.toNat then none else some (.between first last)
  | _, _ => none

/-- Read a member or a range. A dash before the end of the class, or before another dash, is no
range. -/
def readMember (m : Mode) (s : List Char) : Option (CharSet × List Char) := do
  let (first, rest) ← Primitive.read m s
  match m.skip rest with
  | '-' :: after =>
    if m.peek? after = some ']' ∨ m.peek? after = some '-' then
      return (← first.member? m, '-' :: after)
    else
      let (last, rest) ← Primitive.read m (m.skip after)
      return (← range? m first last, rest)
  | rest => return (← first.member? m, rest)

/-- A named class after its opening bracket, with whether it is negated and what follows it. -/
def named? : List Char → Option (Bool × CharSet × List Char)
  | ':' :: s =>
    let (negated, s) := match s with
      | '^' :: rest => (true, rest)
      | s => (false, s)
    let name := s.takeWhile (· != ':')
    match s.drop name.length, CharSet.named? (String.ofList name) with
    | ':' :: ']' :: rest, some set => some (negated, set, rest)
    | _, _ => none
  | _ => none

/-! ## Classes -/

/-- Read the rest of a class inside of which `b` is the innermost one that is open and `outer`
are those around it. -/
def readRest (m : Mode) :
    Nat → Bracket → List Bracket → List Char → Option (Nested CharSet × List Char)
  | 0, _, _, _ => none
  | fuel + 1, b, outer, s =>
    match m.skip s with
    | [] => none
    | '[' :: s =>
      match named? s with
      | some (negated, set, rest) => do
        readRest m fuel (b.add ⟨← m.class? negated set, 0⟩) outer rest
      | none =>
        let (inner, rest) := start m s
        readRest m fuel inner (b :: outer) rest
    | ']' :: rest => do
      let part ← b.close? m
      match outer with
      | [] => return (part, rest)
      | parent :: outer => readRest m fuel (parent.add part) outer rest
    | '&' :: '&' :: rest => readRest m fuel (b.operate m .inter) outer rest
    | '-' :: '-' :: rest => readRest m fuel (b.operate m .diff) outer rest
    | '~' :: '~' :: rest => readRest m fuel (b.operate m .symmDiff) outer rest
    | s => do
      let (set, rest) ← readMember m s
      readRest m fuel (b.add ⟨set, 0⟩) outer rest

/-- Read a class after its opening bracket. Each step takes a character, so that the length of
the text bounds their number. -/
def readClass (m : Mode) (s : List Char) : Option (Nested CharSet × List Char) :=
  let (b, rest) := start m s
  readRest m (s.length + 1) b [] rest

end Bracket

end PointBridge.Pattern
