import PointBridge.Pattern.Class
import PointBridge.Text.Alphanumeric

/-!
# Reading patterns

A pattern is read from left to right. The state of reading holds the group that is open, the
groups around it, and the mode. `Node.read?` gives the structure of a pattern, or nothing if the
text is no pattern, is nested too deeply, or would need tables that are not at hand. A count in
braces cannot stand in a pattern, since a field condition ends at the first closing brace.

Groups, repetitions, classes, two or more parts in a row, and two or more alternatives make levels
of nesting.
-/

namespace PointBridge.Pattern

/-! ## Groups -/

/-- A group that is being read, with its number if it has one. Of the finished alternatives and of
the parts of the present one the last comes first. -/
structure Group where
  number : Option Nat := none
  branches : List (Nested Node) := []
  parts : List (Nested Node) := []

namespace Group

/-- The present alternative. -/
def branch (g : Group) : Nested Node := .join .sequence g.parts.reverse

/-- Start the next alternative. -/
def nextBranch (g : Group) : Group := { g with branches := g.branch :: g.branches, parts := [] }

/-- Add a part. -/
def add (g : Group) (part : Nested Node) : Group := { g with parts := part :: g.parts }

/-- What stands in the group. -/
def content (g : Group) : Nested Node := .join .choice (g.branch :: g.branches).reverse

/-- The pattern of the group. -/
def node (g : Group) : Nested Node :=
  g.content.within fun content =>
    match g.number with
    | none => content
    | some number => .group number content

end Group

/-- The state of reading. `repeatable` says whether the last part can be repeated. The groups around
the open one are listed from the innermost, with the modes to return to. `groups` counts the groups
that have numbers so far. -/
structure Reading where
  mode : Mode := {}
  group : Group := {}
  repeatable : Bool := false
  outer : List (Mode × Group) := []
  groups : Nat := 0
  names : List (List Char) := []

namespace Reading

/-! ## Parts -/

/-- Add a part to the open group. -/
def add (r : Reading) (part : Nested Node) : Reading :=
  { r with group := r.group.add part, repeatable := true }

/-- Open a group whose content is read in a given mode. -/
def openGroup (r : Reading) (mode : Mode) (number : Option Nat) : Reading :=
  { r with mode, group := { number }, repeatable := false, outer := (r.mode, r.group) :: r.outer }

/-- Open a group that gets the next number. -/
def openNumbered (r : Reading) : Reading :=
  { r with groups := r.groups + 1 }.openGroup r.mode (some r.groups)

/-- Close the open group and return to the mode before it. -/
def closeGroup? (r : Reading) : Option Reading :=
  match r.outer with
  | [] => none
  | (mode, group) :: outer => some ({ r with mode, group, outer }.add r.group.node)

/-- Go on in another mode. The change takes the place of a part, but cannot be repeated. -/
def changeMode (r : Reading) (mode : Mode) : Reading :=
  { r.add ⟨.empty, 0⟩ with mode, repeatable := false }

/-- Start the next alternative of the open group. -/
def nextBranch (r : Reading) : Reading :=
  { r with group := r.group.nextBranch, repeatable := false }

/-- Repeat the last part; `marked` says that the repetition has a mark for the other greed. -/
def repeatLast? (r : Reading) (times : Times) (marked : Bool) : Option Reading :=
  match r.repeatable, r.group.parts with
  | true, last :: parts =>
    let repetition := last.within (.repeated times (r.mode.greedy marked))
    some { r with group := { r.group with parts := repetition :: parts } }
  | _, _ => none

/-! ## Openings of groups -/

/-- Whether a text can be the name of a group. -/
def isName : List Char → Bool
  | [] => false
  | first :: rest =>
    (first == '_' || Text.isAlphabetic first) &&
      rest.all fun c => "_.[]".toList.contains c || Text.isAlphanumeric c

/-- Read the name of a group and the closing angle bracket. Names do not occur twice. -/
def readName (r : Reading) (s : List Char) : Option (Reading × List Char) :=
  let name := s.takeWhile (· != '>')
  match s.drop name.length with
  | '>' :: rest =>
    if isName name && !r.names.contains name then
      some ({ r with names := name :: r.names }.openNumbered, rest)
    else none
  | _ => none

/-- Read flags up to a colon, which opens a group, or to the end of the parenthesis. -/
def readFlags (r : Reading) (s : List Char) : Option (Reading × List Char) :=
  let flags := s.takeWhile fun c => c != ':' && c != ')'
  if Mode.areFlags flags then
    let mode := r.mode.apply flags
    match s.drop flags.length with
    | ':' :: rest => some (r.openGroup mode none, rest)
    | ')' :: rest =>
      if flags = [] then none else some (r.changeMode mode, rest)
    | _ => none
  else none

/-- Read what follows an opening parenthesis. -/
def readOpening (r : Reading) (s : List Char) : Option (Reading × List Char) :=
  match r.mode.skip s with
  | '?' :: 'P' :: '<' :: rest => r.readName rest
  | '?' :: '<' :: rest => r.readName rest
  | '?' :: rest => r.readFlags rest
  | rest => some (r.openNumbered, rest)

/-! ## The loop -/

/-- Read a repetition after its sign. -/
def readTimes (r : Reading) (times : Times) : List Char → Option (Reading × List Char)
  | '?' :: rest => (r.repeatLast? times true).map (·, rest)
  | rest => (r.repeatLast? times false).map (·, rest)

/-- Read the part that starts with a given character. -/
def readPart (r : Reading) (first : Char) (rest : List Char) : Option (Reading × List Char) :=
  match first with
  | '(' => r.readOpening rest
  | ')' => r.closeGroup?.map (·, rest)
  | '|' => some (r.nextBranch, rest)
  | '[' => do
    let (set, rest) ← Bracket.readClass r.mode rest
    return (r.add ⟨.char set.meaning, set.depth⟩, rest)
  | '?' => r.readTimes .optional rest
  | '*' => r.readTimes .any rest
  | '+' => r.readTimes .some rest
  | '\x7b' => none
  | '.' => do return (r.add ⟨← r.mode.point?, 0⟩, rest)
  | '^' => some (r.add ⟨.assertion r.mode.startAnchor, 0⟩, rest)
  | '$' => some (r.add ⟨.assertion r.mode.endAnchor, 0⟩, rest)
  | c => do
    let (primitive, rest) ← Primitive.read r.mode (c :: rest)
    return (r.add ⟨← primitive.node? r.mode, 0⟩, rest)

/-- Read up to the end of the pattern, in at most a given number of parts. -/
def readParts : Nat → Reading → List Char → Option Reading
  | 0, r, _ => some r
  | fuel + 1, r, s =>
    match r.mode.skip s with
    | [] => some r
    | first :: rest => do
      let (r, rest) ← r.readPart first rest
      readParts fuel r rest

end Reading

/-- The greatest depth of a pattern. -/
def Node.depthLimit : Nat := 250

/-- The structure of the pattern that a text writes. Each part takes a character, so that the
length of the text bounds their number. -/
def Node.read? (s : List Char) : Option Node := do
  let r ← Reading.readParts s.length {} s
  let pattern := r.group.content
  if r.outer = [] ∧ pattern.depth ≤ depthLimit then some pattern.meaning else none

end PointBridge.Pattern
