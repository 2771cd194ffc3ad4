/-!
# Sets of characters

A `CharSet` is a set of code points, given by its edges: the code points at which membership
changes. Every set that is built by the operations of this module has its edges in increasing
order, so that equal sets have equal edges. `CharSet.named?` gives the sets of ASCII characters
that have names.
-/

namespace PointBridge.Pattern

/-- A set of characters, given by the code points that are in the set while their predecessor is
not, or the other way round. -/
structure CharSet where
  edges : List Nat
deriving DecidableEq

namespace CharSet

/-! ## Membership -/

/-- Whether a set contains the character with a code point: the edges up to there are odd in
number. -/
def contains (s : CharSet) (code : Nat) : Bool := s.edges.countP (· ≤ code) % 2 == 1

/-- Put a point among points in increasing order, unless it is there. -/
def insertPoint (p : Nat) : List Nat → List Nat
  | [] => [p]
  | q :: rest =>
    if p < q then p :: q :: rest
    else if p = q then q :: rest
    else q :: insertPoint p rest

/-- The set of the code points that pass a test. The result of the test may change at the given
points only. -/
def ofTest (points : List Nat) (test : Nat → Bool) : CharSet :=
  ⟨(points.foldr insertPoint []).filter fun p => test p != (0 < p && test (p - 1))⟩

/-! ## Operations -/

/-- No character. -/
def empty : CharSet := ⟨[]⟩

/-- The characters between two code points, both included. -/
def range (first last : Nat) : CharSet :=
  ofTest [first, last + 1] fun code => first ≤ code && code ≤ last

/-- All characters. -/
def all : CharSet := range 0 0x10ffff

/-- The characters of all sets of a list. -/
def unions (sets : List CharSet) : CharSet :=
  ofTest (sets.flatMap edges) fun code => sets.any (·.contains code)

/-- The characters in one of two sets. -/
def union (a b : CharSet) : CharSet := unions [a, b]

/-- The characters in both of two sets. -/
def inter (a b : CharSet) : CharSet :=
  ofTest (a.edges ++ b.edges) fun code => a.contains code && b.contains code

/-- The characters in the first of two sets only. -/
def diff (a b : CharSet) : CharSet :=
  ofTest (a.edges ++ b.edges) fun code => a.contains code && !b.contains code

/-- The characters in exactly one of two sets. -/
def symmDiff (a b : CharSet) : CharSet :=
  ofTest (a.edges ++ b.edges) fun code => a.contains code != b.contains code

/-- The characters that are not in a set. -/
def compl (a : CharSet) : CharSet := all.diff a

/-- The set of one character. -/
def single (c : Char) : CharSet := range c.toNat c.toNat

/-- The characters between two, both included. -/
def between (first last : Char) : CharSet := range first.toNat last.toNat

/-! ## Letter case -/

/-- The code point of the same ASCII letter in the other case; others stay as they are. -/
def swapCase (code : Nat) : Nat :=
  if 0x41 ≤ code ∧ code ≤ 0x5a then code + 0x20
  else if 0x61 ≤ code ∧ code ≤ 0x7a then code - 0x20
  else code

/-- The characters of a set, and the ASCII letters that differ from one of them by case. -/
def folded (a : CharSet) : CharSet :=
  let letters := [0x41, 0x5b, 0x61, 0x7b]
  ofTest (letters ++ a.edges ++ a.edges.map (· + 0x20) ++ a.edges.map (· - 0x20)) fun code =>
    a.contains code || a.contains (swapCase code)

/-! ## Named sets -/

/-- The decimal digits. -/
def digit : CharSet := between '0' '9'

/-- The capital letters. -/
def upper : CharSet := between 'A' 'Z'

/-- The small letters. -/
def lower : CharSet := between 'a' 'z'

/-- The letters. -/
def alpha : CharSet := union upper lower

/-- The letters and digits. -/
def alnum : CharSet := union digit alpha

/-- The letters, digits and the low line. -/
def word : CharSet := union alnum (single '_')

/-- The blank, the tabulators and the characters that end lines or pages. -/
def space : CharSet := union (single ' ') (between '\t' '\r')

/-- The visible characters of ASCII. -/
def graph : CharSet := between '!' '~'

/-- The set of ASCII characters with a given name. -/
def named? (name : String) : Option CharSet :=
  if name = "alnum" then some alnum
  else if name = "alpha" then some alpha
  else if name = "ascii" then some (range 0 0x7f)
  else if name = "blank" then some (union (single ' ') (single '\t'))
  else if name = "cntrl" then some (union (range 0 0x1f) (range 0x7f 0x7f))
  else if name = "digit" then some digit
  else if name = "graph" then some graph
  else if name = "lower" then some lower
  else if name = "print" then some (union (single ' ') graph)
  else if name = "punct" then some (diff graph alnum)
  else if name = "space" then some space
  else if name = "upper" then some upper
  else if name = "word" then some word
  else if name = "xdigit" then some (unions [digit, between 'A' 'F', between 'a' 'f'])
  else none

end CharSet

end PointBridge.Pattern
