/-!
# Nesting

A text that writes a pattern can be nested: groups stand in groups, classes in classes. A `Nested`
is what a piece of the text means, together with its depth, which is the greatest number of levels
around any place of it.
-/

namespace PointBridge.Pattern

/-- What a piece of a text means, and how deep the piece is nested. -/
structure Nested (α : Type) where
  meaning : α
  depth : Nat := 0
deriving DecidableEq

namespace Nested

variable {α β : Type}

/-- The depth of the deepest of some pieces. -/
def deepest (pieces : List (Nested α)) : Nat := (pieces.map (·.depth)).foldr max 0

/-- The piece with one level around it. -/
def within (f : α → β) (p : Nested α) : Nested β := ⟨f p.meaning, p.depth + 1⟩

/-- Some pieces as one; two or more of them make a level. -/
def join (f : List α → β) (pieces : List (Nested α)) : Nested β :=
  ⟨f (pieces.map (·.meaning)), deepest pieces + if 2 ≤ pieces.length then 1 else 0⟩

/-- Two pieces as one, which makes a level. -/
def joinPair (f : α → α → β) (p q : Nested α) : Nested β :=
  ⟨f p.meaning q.meaning, max p.depth q.depth + 1⟩

end Nested

end PointBridge.Pattern
