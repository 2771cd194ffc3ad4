/-!
# Cutting a text at a separator
-/

namespace PointBridge.Text

/-- The pieces of a text between the occurrences of a separator, empty ones included. -/
def splitAtEach (separator : Char) : List Char → List (List Char)
  | [] => [[]]
  | c :: rest =>
    if c = separator then [] :: splitAtEach separator rest
    else
      match splitAtEach separator rest with
      | [] => [[c]]
      | piece :: pieces => (c :: piece) :: pieces

end PointBridge.Text
