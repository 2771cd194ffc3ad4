/-!
# Hexadecimal text

Numbers in base sixteen with lower-case digits and no leading zeros.
-/

namespace PointBridge.Text

/-- The lower-case hexadecimal digits of a number, without leading zeros. -/
def hexadecimal (n : Nat) : String := String.ofList (Nat.toDigits 16 n)

end PointBridge.Text
