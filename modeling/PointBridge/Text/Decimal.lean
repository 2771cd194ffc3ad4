/-!
# Decimal text

`readWord?` reads an unsigned word of 64 bits: a sign `+` may stand in front, at least one digit
follows, leading zeros are allowed, and the value is below `2 ^ 64`. `isNumber` says whether a text
writes a number that may have a sign, a fraction and an exponent, or is not finite.
-/

namespace PointBridge.Text

/-- The number written by decimal digits, the highest first. -/
def ofDigits (digits : List Char) : Nat :=
  digits.foldl (fun n c => 10 * n + (c.toNat - '0'.toNat)) 0

/-- The number that a text of at least one decimal digit writes. -/
def readNat? (s : List Char) : Option Nat :=
  if s ≠ [] ∧ s.all Char.isDigit then some (ofDigits s) else none

/-- The text without a sign `+` in front. -/
def dropPlus : List Char → List Char
  | '+' :: rest => rest
  | s => s

/-- The 64-bit word that a text writes. -/
def readWord? (s : List Char) : Option UInt64 :=
  match readNat? (dropPlus s) with
  | some n => if n < UInt64.size then some (UInt64.ofNat n) else none
  | none => none

/-! ## Numbers with fractions -/

/-- The text without a sign in front. -/
def dropSign : List Char → List Char
  | '+' :: rest => rest
  | '-' :: rest => rest
  | s => s

/-- Whether a text is an exponent or empty. -/
def isExponent : List Char → Bool
  | [] => true
  | c :: rest => (c == 'e' || c == 'E') && (readNat? (dropSign rest)).isSome

/-- Whether a text consists of digits, among which one point may stand, and an exponent. -/
def isScientific (s : List Char) : Bool :=
  let whole := s.takeWhile Char.isDigit
  match s.drop whole.length with
  | '.' :: rest =>
    let fraction := rest.takeWhile Char.isDigit
    (whole ++ fraction != []) && isExponent (rest.drop fraction.length)
  | rest => (whole != []) && isExponent rest

/-- Whether a text writes a number, finite or not. -/
def isNumber (s : List Char) : Bool :=
  let magnitude := dropSign s
  ["inf", "infinity", "nan"].contains (String.ofList (magnitude.map Char.toLower)) ||
    isScientific magnitude

end PointBridge.Text
