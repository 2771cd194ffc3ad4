import PointBridge.Pattern.Node
import PointBridge.Text.Blank

/-!
# Modes of reading a pattern

Flags inside a pattern change how the rest of their group is read. A `Mode` holds them. No table
of letter cases or character classes beyond ASCII is at hand, so in the wide mode, where
characters rather than bytes are meant, what would need one is refused; in the other mode what
could take a part of a character is refused.
-/

namespace PointBridge.Pattern

open Text (isBlank)

/-- How the following part of a pattern is read. With `multiLine` the anchors hold at lines, with
`dotAll` the point takes the ends of lines too, with `swapGreed` repetitions are greedy exactly if
they are marked, with `wide` classes are of all characters and not of ASCII, with `anyBreak`
carriage returns end lines too, and with `spaced` white space and comments do not count. -/
structure Mode where
  ignoreCase : Bool := false
  multiLine : Bool := false
  dotAll : Bool := false
  swapGreed : Bool := false
  wide : Bool := true
  anyBreak : Bool := false
  spaced : Bool := false
deriving DecidableEq

namespace Mode

/-! ## Flags -/

/-- Give the flag of a letter a value; other characters change nothing. -/
def set (value : Bool) (m : Mode) : Char → Mode
  | 'i' => { m with ignoreCase := value }
  | 'm' => { m with multiLine := value }
  | 's' => { m with dotAll := value }
  | 'U' => { m with swapGreed := value }
  | 'u' => { m with wide := value }
  | 'R' => { m with anyBreak := value }
  | 'x' => { m with spaced := value }
  | _ => m

/-- Whether a text is a list of flags: no character occurs twice, and if there is a dash, which
separates the flags to set from those to clear, it is not the last character. -/
def areFlags (text : List Char) : Bool :=
  text.all ("-imsUuRx".toList.contains ·) && decide text.Nodup && text.getLast? != some '-'

/-- Set the flags before the dash and clear those after it. -/
def apply (m : Mode) (flags : List Char) : Mode :=
  let up := flags.takeWhile (· != '-')
  (flags.drop up.length).foldl (set false) (up.foldl (set true) m)

/-! ## White space -/

/-- The text after white space and comments, each of which goes from a number sign to the end of
its line. -/
def skipSpace (inComment : Bool) : List Char → List Char
  | [] => []
  | c :: rest =>
    if inComment then skipSpace (c != '\n') rest
    else if isBlank c then skipSpace false rest
    else if c = '#' then skipSpace true rest
    else c :: rest

/-- The rest of a pattern from its next character that counts. -/
def skip (m : Mode) (s : List Char) : List Char := if m.spaced then skipSpace false s else s

/-- The next character of a pattern behind white space, where one number sign counts as white
space as well. -/
def peek? (m : Mode) (s : List Char) : Option Char :=
  if m.spaced then
    match s.dropWhile isBlank with
    | '#' :: rest => (rest.dropWhile isBlank).head?
    | rest => rest.head?
  else s.head?

/-! ## Leaves -/

/-- The set with both cases of its letters, if their case does not count. -/
def fold (m : Mode) (set : CharSet) : CharSet := if m.ignoreCase then .folded set else set

/-- The pattern that takes a given character. -/
def literal? (m : Mode) (c : Char) : Option Node :=
  if m.ignoreCase && m.wide then none else some (.char (m.fold (.single c)))

/-- The pattern that the point stands for. -/
def point? (m : Mode) : Option Node :=
  if !m.wide then none
  else if m.dotAll then some (.char .all)
  else if m.anyBreak then some (.char (.compl (.union (.single '\r') (.single '\n'))))
  else some (.char (.compl (.single '\n')))

/-- The condition for the start of the text or of a line. -/
def startAnchor (m : Mode) : Assertion :=
  if m.multiLine then .lineStart m.anyBreak else .textStart

/-- The condition for the end of the text or of a line. -/
def endAnchor (m : Mode) : Assertion :=
  if m.multiLine then .lineEnd m.anyBreak else .textEnd

/-- Whether a repetition is greedy, which may be marked or not. -/
def greedy (m : Mode) (marked : Bool) : Bool := m.swapGreed == marked

/-- A class of characters from its members. -/
def class? (m : Mode) (negated : Bool) (members : CharSet) : Option CharSet :=
  if m.ignoreCase && m.wide then none
  else if negated && !m.wide then none
  else
    let set := m.fold members
    some (if negated then .compl set else set)

end Mode

end PointBridge.Pattern
