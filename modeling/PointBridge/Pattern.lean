import PointBridge.Pattern.Program
import PointBridge.Pattern.Reading

/-!
# Patterns for texts

A `Pattern` describes texts. `Pattern.read` reads one; `Pattern.accepts` says whether a text is
among those it describes. The pattern may match anywhere in the text. Of all matches the first one
counts, and of those that start at one place the preferred one; the text is accepted if that match
ends where the text ends.
-/

namespace PointBridge

/-- Why a text is no usable pattern. -/
inductive PatternError where
  /-- The text is not a pattern, or needs tables of characters that are not at hand. -/
  | malformed
  /-- The pattern has a condition on words that are not of ASCII characters alone. -/
  | wideWords
deriving DecidableEq

namespace PatternError

/-- The text shown for the error. -/
def message : PatternError → String
  | malformed => "error building NFA"
  | wideWords =>
    "unsupported regex feature for DFAs: cannot build DFAs for regexes with Unicode word " ++
      "boundaries; switch to ASCII word boundaries, or heuristically enable Unicode word " ++
      "boundaries or use a different regex engine"

end PatternError

/-- A pattern, with the text that writes it. -/
structure Pattern where
  source : String
  node : Pattern.Node
deriving DecidableEq

namespace Pattern

/-- Read a pattern. -/
def read (s : List Char) : Except PatternError Pattern :=
  match Node.read? s with
  | none => .error .malformed
  | some node => if node.hasWideWords then .error .wideWords else .ok ⟨String.ofList s, node⟩

/-- Whether a pattern describes a text. -/
def accepts (p : Pattern) (text : String) : Bool := p.node.program.acceptsText text.toList

end Pattern

end PointBridge
