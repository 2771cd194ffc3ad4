import PointBridge.Text.Quoted

/-!
# Cutting a text by bytes

Positions in a text count the bytes of its UTF-8 form, of which a character has one to four. `cut`
takes the part of a text between two positions. A position inside a character is no place to cut:
`CutError` then says at which end of the part it is, and which character it would divide.
-/

namespace PointBridge.Text

/-- The number of bytes of a text. -/
def byteLength : List Char → Nat
  | [] => 0
  | c :: rest => c.utf8Size + byteLength rest

/-! ## Positions inside characters -/

/-- A position inside a character, and the one at which the character starts. -/
structure Division where
  position : Nat
  character : Char
  start : Nat
deriving DecidableEq

namespace Division

/-- The position and the character as they are named in messages. -/
def description (d : Division) : String :=
  "byte index " ++ toString d.position ++ " is not a char boundary; it is inside '" ++
    quoteChar d.character ++ "' (bytes " ++ toString d.start ++ ".." ++
    toString (d.start + d.character.utf8Size) ++ " of string)"

end Division

/-- The character that a position is inside of, in a text that starts at position `start`. -/
def divisionAt? (position start : Nat) : List Char → Option Division
  | [] => none
  | c :: rest =>
    if position ≤ start then none
    else if position < start + c.utf8Size then some ⟨position, c, start⟩
    else divisionAt? position (start + c.utf8Size) rest

/-! ## Cuts -/

/-- Why a part cannot be cut out of a text. -/
inductive CutError where
  /-- The part would start inside a character. -/
  | start (d : Division)
  /-- The part would end inside a character. -/
  | stop (d : Division)
deriving DecidableEq

namespace CutError

/-- The text shown for the error. -/
def message : CutError → String
  | start d => "start " ++ d.description
  | stop d => "end " ++ d.description

end CutError

/-- The text without its first `n` bytes, where these are whole characters. -/
def dropBytes : Nat → List Char → List Char
  | _, [] => []
  | 0, s => s
  | n, c :: rest => dropBytes (n - c.utf8Size) rest

/-- The first `n` bytes of a text, where these are whole characters. -/
def takeBytes : Nat → List Char → List Char
  | _, [] => []
  | 0, _ => []
  | n, c :: rest => c :: takeBytes (n - c.utf8Size) rest

/-- The part of a text between two positions. -/
def cut (s : List Char) (start stop : Nat) : Except CutError (List Char) :=
  match divisionAt? start 0 s, divisionAt? stop 0 s with
  | some d, _ => .error (.start d)
  | none, some d => .error (.stop d)
  | none, none => .ok (takeBytes (stop - start) (dropBytes start s))

/-- The part of a text from a position on. -/
def cutFrom (s : List Char) (start : Nat) : Except CutError (List Char) :=
  cut s start (byteLength s)

end PointBridge.Text
