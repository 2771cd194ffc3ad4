import PointBridge.Pattern.CharSet

/-!
# The structure of patterns

A pattern is a tree whose leaves take one character or look at the characters around a place
without taking any. Alternatives and repetitions have an order of preference: the first
alternative before the second, and one more round before leaving, or after it.

`Node.sequence` and `Node.choice` put patterns together. Alternatives that start alike share their
start: the shared part comes first, and what follows it is the choice. This counts where the
shared part can take more or less, since how much it takes is then preferred to which alternative
goes on.
-/

namespace PointBridge.Pattern

/-! ## Conditions on places -/

/-- A condition on the edge of a word. -/
inductive WordEdge where
  /-- A word starts or ends here. -/
  | either
  /-- No word starts or ends here. -/
  | neither
  /-- A word starts here. -/
  | start
  /-- A word ends here. -/
  | stop
deriving DecidableEq

/-- A condition on a place in a text. -/
inductive Assertion where
  /-- The text starts here. -/
  | textStart
  /-- The text ends here. -/
  | textEnd
  /-- A line starts here; with `anyBreak`, a carriage return ends lines too. -/
  | lineStart (anyBreak : Bool)
  /-- A line ends here; with `anyBreak`, a carriage return ends lines too. -/
  | lineEnd (anyBreak : Bool)
  /-- A condition on words, which consist of ASCII characters unless they are `wide`. -/
  | word (edge : WordEdge) (wide : Bool)
deriving DecidableEq

namespace WordEdge

/-- Whether the condition holds between two characters of which it is known if they are parts of
words. -/
def holds : WordEdge → Bool → Bool → Bool
  | either, before, after => before != after
  | neither, before, after => before == after
  | start, before, after => !before && after
  | stop, before, after => before && !after

end WordEdge

namespace Assertion

/-- Whether there is a character and it is a part of words. -/
def isWord (c : Option Char) : Bool := c.any fun c => CharSet.word.contains c.toNat

/-- Whether the condition holds between two characters, each of which may be missing. -/
def holds : Assertion → Option Char → Option Char → Bool
  | textStart, before, _ => before.isNone
  | textEnd, _, after => after.isNone
  | lineStart false, before, _ => before.all (· == '\n')
  | lineStart true, before, after =>
    before.all fun c => c == '\n' || c == '\r' && after != some '\n'
  | lineEnd false, _, after => after.all (· == '\n')
  | lineEnd true, before, after =>
    after.all fun c => c == '\r' || c == '\n' && before != some '\r'
  | word edge _, before, after => edge.holds (isWord before) (isWord after)

/-- Whether the condition is known to hold behind a character, or at the start of the text, before
the next character is seen. -/
def isCertain : Assertion → Option Char → Bool
  | textStart, before => before.isNone
  | lineStart _, before => before.all (· == '\n')
  | _, _ => false

/-- Whether the condition holds, and is known to hold only once the next character is seen. -/
def isSettled (a : Assertion) (before after : Option Char) : Bool :=
  a.holds before after && !a.isCertain before

end Assertion

/-! ## Trees -/

/-- How often the body of a repetition may be taken. -/
inductive Times where
  /-- Once or not at all. -/
  | optional
  /-- Any number of times. -/
  | any
  /-- At least once. -/
  | some
deriving DecidableEq

/-- A pattern. -/
inductive Node where
  /-- Takes nothing. -/
  | empty
  /-- Takes one character of a set. -/
  | char (set : CharSet)
  /-- Takes nothing where a condition holds. -/
  | assertion (a : Assertion)
  /-- Takes what one pattern takes and then what another takes. -/
  | seq (first second : Node)
  /-- Takes what one of two patterns takes, and rather what the first takes. -/
  | alt (first second : Node)
  /-- Takes what a pattern takes in several rounds, rather more rounds if it is greedy and rather
  fewer if it is not. -/
  | repeated (times : Times) (greedy : Bool) (body : Node)
  /-- Takes what a pattern takes. It is the group with a given number. -/
  | group (number : Nat) (body : Node)
deriving DecidableEq

namespace Node

/-! ## Sequences -/

/-- The patterns of which a pattern is the sequence. -/
def parts : Node → List Node
  | empty => []
  | seq a b => a.parts ++ b.parts
  | n => [n]

/-- The sequence of patterns that are no sequences themselves. -/
def chain : List Node → Node
  | [] => empty
  | [n] => n
  | n :: rest => seq n (chain rest)

/-- The patterns of a list one after the other. -/
def sequence (nodes : List Node) : Node := chain (nodes.flatMap parts)

/-! ## Alternatives -/

/-- The characters that a pattern for one character takes. -/
def set? : Node → Option CharSet
  | char set => some set
  | _ => none

/-- The first of several patterns that is possible. -/
def firstOf : List Node → Node
  | [] => empty
  | [n] => n
  | n :: rest => alt n (firstOf rest)

/-- The choice between patterns that do not start alike. Patterns for one character become one
such pattern. -/
def fork (nodes : List Node) : Node :=
  match nodes.mapM set? with
  | some sets => char (.unions sets)
  | none => firstOf nodes

/-- The longest common start of two lists. -/
def sharedStart : List Node → List Node → List Node
  | n :: rest, m :: rest' => if n = m then n :: sharedStart rest rest' else []
  | _, _ => []

/-- The common start of several sequences, none of which is a single pattern. -/
def commonStart (branches : List (List Node)) : List Node :=
  match branches with
  | [] => []
  | first :: rest => if branches.all (2 ≤ ·.length) then rest.foldl sharedStart first else []

/-- One of several patterns, the first if possible. -/
def choice : List Node → Node
  | [n] => n
  | nodes =>
    let branches := nodes.map parts
    match commonStart branches with
    | [] => fork nodes
    | start =>
      sequence (start ++ [fork (branches.map fun parts => chain (parts.drop start.length))])

/-! ## Words -/

/-- Whether the pattern has a condition on words that are not of ASCII characters alone. -/
def hasWideWords : Node → Bool
  | empty => false
  | char _ => false
  | assertion (.word _ wide) => wide
  | assertion _ => false
  | seq a b => a.hasWideWords || b.hasWideWords
  | alt a b => a.hasWideWords || b.hasWideWords
  | repeated _ _ body => body.hasWideWords
  | group _ body => body.hasWideWords

end Node

end PointBridge.Pattern
