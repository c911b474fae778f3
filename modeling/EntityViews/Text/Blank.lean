/-! Blanks at the ends of a text, in the sense of the White_Space property of Unicode, and the
case of ASCII letters.
-/

namespace EntityViews.Text

/-- Whether a character has the White_Space property. -/
def isBlank (c : Char) : Bool :=
  let n := c.toNat
  (0x9 ≤ n && n ≤ 0xD) || n = 0x20 || n = 0x85 || n = 0xA0 || n = 0x1680
    || (0x2000 ≤ n && n ≤ 0x200A) || n = 0x2028 || n = 0x2029 || n = 0x202F || n = 0x205F
    || n = 0x3000

def trim (text : String) : String :=
  String.ofList ((text.toList.dropWhile isBlank).reverse.dropWhile isBlank).reverse

/-- The text with its ASCII letters in lower case. -/
def lower (text : String) : String :=
  String.ofList (text.toList.map Char.toLower)

end EntityViews.Text
