import PointBridge.Text.Hexadecimal
import PointBridge.Text.Printable
import PointBridge.Text.GraphemeExtend

/-!
# Quoted text

`quote` writes a text between double quotes. Quotes, backslashes and the usual controls get a
backslash; any other character that would not show as itself is written by its code point.
-/

namespace PointBridge.Text

/-- Whether a character can stand in quoted text as itself. -/
def showsItself (c : Char) : Bool := !extendsGrapheme c && (c == ' ' || isVisible c)

/-- The written form of one character in quoted text. -/
def quoteChar (c : Char) : String :=
  match c with
  | '\x00' => "\\0"
  | '\t' => "\\t"
  | '\r' => "\\r"
  | '\n' => "\\n"
  | '"' => "\\\""
  | '\\' => "\\\\"
  | c => if showsItself c then c.toString else "\\u\x7b" ++ hexadecimal c.toNat ++ "\x7d"

/-- The written form of a text, between double quotes. -/
def quote (s : String) : String := "\"" ++ String.join (s.toList.map quoteChar) ++ "\""

end PointBridge.Text
