import PointBridge.Text.Hexadecimal

/-!
# Strings of JSON

A string of JSON stands between double quotes; quotes, backslashes and controls are escaped.
-/

namespace PointBridge.Text

/-- The written form of one character in a string of JSON. -/
def jsonChar (c : Char) : String :=
  match c with
  | '"' => "\\\""
  | '\\' => "\\\\"
  | '\n' => "\\n"
  | '\r' => "\\r"
  | '\t' => "\\t"
  | c =>
    if c.toNat < 0x10 then "\\u000" ++ hexadecimal c.toNat
    else if c.toNat < 0x20 then "\\u00" ++ hexadecimal c.toNat
    else c.toString

/-- The written form of a text as a string of JSON. -/
def jsonString (s : String) : String := "\"" ++ String.join (s.toList.map jsonChar) ++ "\""

end PointBridge.Text
