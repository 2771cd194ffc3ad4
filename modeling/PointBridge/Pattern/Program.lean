import PointBridge.Pattern.Node

/-!
# Programs for matching

A pattern becomes a `Program`, a list of instructions that refer to each other by position. A run
follows all paths through the program at once, one character after the other. A new path starts at
every place, less preferred than those that are under way. The places that the paths have reached
are kept in the order of preference, and each place only once. A path that has come to the end of
the program is a match; it makes the paths that are less preferred worthless, even if they would
go further, and no more paths start.

A condition on a place is met in two steps. What is known behind a character is used at once; the
paths wait at the other conditions. When the next character is known and settles a condition at
which a path waits, the paths are followed anew from where they wait.

New paths start between the bytes of a character too. They can take nothing there, but a match of
nothing is a match.
-/

namespace PointBridge.Pattern

/-! ## Instructions -/

/-- An instruction of a program. -/
inductive Instruction where
  /-- Take a character of a set and go on with the next instruction. -/
  | take (set : CharSet)
  /-- Go on with the next instruction where a condition holds. -/
  | require (a : Assertion)
  /-- Go on with either of two instructions, rather with the first. -/
  | branch (first second : Nat)
  /-- Go on with another instruction. -/
  | jump (target : Nat)
  /-- A match. -/
  | accept
deriving DecidableEq

/-- Instructions with the positions 0, 1, 2, … -/
abbrev Program := Array Instruction

namespace Node

/-- A branch whose first way is preferred if `greedy` is set and the other one if not. -/
def branch (greedy : Bool) (onward away : Nat) : Instruction :=
  if greedy then .branch onward away else .branch away onward

/-- The instructions of a pattern, the first of them at position `start`. A path that takes what
the pattern takes leaves them at their end. -/
def code (start : Nat) : Node → List Instruction
  | empty => []
  | char set => [.take set]
  | assertion a => [.require a]
  | seq a b =>
    let first := a.code start
    first ++ b.code (start + first.length)
  | alt a b =>
    let first := a.code (start + 1)
    let middle := start + first.length + 2
    let second := b.code middle
    .branch (start + 1) middle :: first ++ .jump (middle + second.length) :: second
  | repeated .optional greedy body =>
    let inner := body.code (start + 1)
    branch greedy (start + 1) (start + inner.length + 1) :: inner
  | repeated .any greedy body =>
    let inner := body.code (start + 1)
    let stop := start + inner.length + 2
    branch greedy (start + 1) stop :: inner ++ [branch greedy (start + 1) stop]
  | repeated .some greedy body =>
    let inner := body.code start
    inner ++ [branch greedy start (start + inner.length + 1)]
  | group _ body => body.code start

/-- The program of a pattern. -/
def program (n : Node) : Program := (n.code 0 ++ [Instruction.accept]).toArray

end Node

/-! ## Following paths -/

namespace Program

/-- Follow the paths from the positions of `todo` through the conditions that hold. `reached` has
the positions so far, the last first. -/
def follow (p : Program) (holds : Assertion → Bool) : Nat → List Nat → List Nat → List Nat
  | 0, _, reached => reached
  | _, [], reached => reached
  | fuel + 1, i :: todo, reached =>
    if reached.contains i then p.follow holds fuel todo reached
    else
      match p[i]? with
      | some (.branch a b) => p.follow holds fuel (a :: b :: todo) (i :: reached)
      | some (.jump a) => p.follow holds fuel (a :: todo) (i :: reached)
      | some (.require a) =>
        if holds a then p.follow holds fuel ((i + 1) :: todo) (i :: reached)
        else p.follow holds fuel todo (i :: reached)
      | _ => p.follow holds fuel todo (i :: reached)

/-- Whether a path can wait at a position: the instruction takes a character, states a condition
or accepts. -/
def isStop (p : Program) (i : Nat) : Bool :=
  match p[i]? with
  | some (.branch _ _) => false
  | some (.jump _) => false
  | _ => true

/-- The positions at which the paths from those of a list can wait, in the order of preference.
Each position is followed once and leads to at most two others. -/
def stops (p : Program) (holds : Assertion → Bool) (starts : List Nat) : List Nat :=
  (p.follow holds (starts.length + 2 * p.size + 1) starts []).reverse.filter p.isStop

/-- Whether a path waits at a position for the next character to settle a condition, and it does. -/
def resumes (p : Program) (before after : Option Char) (i : Nat) : Bool :=
  match p[i]? with
  | some (.require a) => a.isSettled before after
  | _ => false

/-- The positions at which the paths from those of a list wait between two characters. -/
def waiting (p : Program) (before after : Option Char) (starts : List Nat) : List Nat :=
  let early := p.stops (·.isCertain before) starts
  if early.any (p.resumes before after) then p.stops (·.holds before after) early else early

/-! ## Runs -/

/-- Whether the instruction at a position accepts. -/
def accepts (p : Program) (i : Nat) : Bool := p[i]? == some .accept

/-- The position after the one that takes a character, if it takes it. -/
def advance? (p : Program) (c : Char) (i : Nat) : Option Nat :=
  match p[i]? with
  | some (.take set) => if set.contains c.toNat then some (i + 1) else none
  | _ => none

/-- Whether nothing is a match between the bytes of a character. -/
def acceptsInside (p : Program) (c : Char) : Bool :=
  1 < c.utf8Size && (p.waiting (some c) (some c) [0]).any p.accepts

/-- Whether the most preferred match ends at the end of the text, for a run that has come to the
given positions behind the character `before`. Further paths start if `searching` is set. -/
def run (p : Program) (searching : Bool) (before : Option Char) (moved : List Nat) :
    List Char → Bool
  | [] => (p.waiting before none (moved ++ if searching then [0] else [])).any p.accepts
  | c :: rest =>
    let reached := p.waiting before (some c) (moved ++ if searching then [0] else [])
    let live := reached.takeWhile fun i => !p.accepts i
    let searching := searching && !reached.any p.accepts && !p.acceptsInside c
    p.run searching (some c) (live.filterMap (p.advance? c)) rest

/-- Whether the most preferred match in a text ends at its end. -/
def acceptsText (p : Program) (text : List Char) : Bool := p.run true none [] text

end Program

end PointBridge.Pattern
