import PointBridge.Pattern.Mode

/-!
# Escapes in patterns

A backslash and what follows it stand for a character, for a class of characters, or for a
condition on a place.
-/

namespace PointBridge.Pattern

/-- What an escape, or a character that stands for itself, means. -/
inductive Primitive where
  /-- A character. -/
  | literal (c : Char)
  /-- A class. -/
  | charClass (set : CharSet)
  /-- A condition. -/
  | assertion (a : Assertion)
deriving DecidableEq

namespace Primitive

/-- The value of a hexadecimal digit. -/
def hexDigit? (c : Char) : Option Nat :=
  if '0' ≤ c ∧ c ≤ '9' then some (c.toNat - '0'.toNat)
  else if 'a' ≤ c ∧ c ≤ 'f' then some (c.toNat - 'a'.toNat + 10)
  else if 'A' ≤ c ∧ c ≤ 'F' then some (c.toNat - 'A'.toNat + 10)
  else none

/-- The number written by exactly `count` further hexadecimal digits, which follow digits of the
value `high`, and the rest of the pattern. -/
def readHex (m : Mode) : Nat → Nat → List Char → Option (Nat × List Char)
  | 0, high, rest => some (high, rest)
  | count + 1, high, rest =>
    match m.skip rest with
    | [] => none
    | c :: rest => do readHex m count (16 * high + (← hexDigit? c)) rest

/-- The character with a code point, if there is one. -/
def charOfCode? (code : Nat) : Option Char := if code.isValidChar then some (.ofNat code) else none

/-- The character that is written by a number of hexadecimal digits. -/
def readCode (m : Mode) (count : Nat) (s : List Char) : Option (Primitive × List Char) := do
  let (code, rest) ← readHex m count 0 s
  return (.literal (← charOfCode? code), rest)

/-- The byte that is written by two hexadecimal digits; outside of the wide mode it has to be a
character by itself. -/
def readByte (m : Mode) (s : List Char) : Option (Primitive × List Char) := do
  let (code, rest) ← readHex m 2 0 s
  if !m.wide && 0x80 ≤ code then none
  return (.literal (← charOfCode? code), rest)

/-- Whether a character stands for itself after a backslash: all of ASCII do but for letters,
digits and angle brackets. -/
def isEscapable (c : Char) : Bool :=
  c.toNat < 0x80 && !CharSet.alnum.contains c.toNat && c != '<' && c != '>'

/-- The control character that an escaped letter stands for. -/
def control? : Char → Option Char
  | 'a' => some '\x07'
  | 'f' => some '\x0c'
  | 't' => some '\t'
  | 'n' => some '\n'
  | 'r' => some '\r'
  | 'v' => some '\x0b'
  | _ => none

/-- The class that an escaped letter stands for. -/
def class? : Char → Option CharSet
  | 'd' => some .digit
  | 's' => some .space
  | 'w' => some .word
  | _ => none

/-- The condition that an escaped character stands for. -/
def assertion? (m : Mode) : Char → Option Assertion
  | 'A' => some .textStart
  | 'z' => some .textEnd
  | 'b' => some (.word .either m.wide)
  | 'B' => some (.word .neither m.wide)
  | '<' => some (.word .start m.wide)
  | '>' => some (.word .stop m.wide)
  | _ => none

/-- Read what follows a backslash. -/
def readEscape (m : Mode) : List Char → Option (Primitive × List Char)
  | [] => none
  | 'x' :: rest => readByte m rest
  | 'u' :: rest => readCode m 4 rest
  | 'U' :: rest => readCode m 8 rest
  | c :: rest =>
    if isEscapable c then some (.literal c, rest)
    else
      match control? c, class? c, assertion? m c with
      | some control, _, _ => some (.literal control, rest)
      | none, some set, _ => if m.wide then none else some (.charClass set, rest)
      | none, none, some a => some (.assertion a, rest)
      | none, none, none => none

/-- Read an escape or a character that stands for itself. -/
def read (m : Mode) : List Char → Option (Primitive × List Char)
  | [] => none
  | '\\' :: rest => readEscape m rest
  | c :: rest => some (.literal c, rest)

/-- The pattern of a primitive. -/
def node? (m : Mode) : Primitive → Option Node
  | .literal c => m.literal? c
  | .charClass set => some (.char (m.fold set))
  | .assertion a => some (.assertion a)

/-- The primitive as a member of a class; outside of the wide mode it has to be of ASCII. -/
def member? (m : Mode) : Primitive → Option CharSet
  | .literal c => if !m.wide && 0x80 ≤ c.toNat then none else some (.single c)
  | .charClass set => some set
  | .assertion _ => none

end Primitive

end PointBridge.Pattern
