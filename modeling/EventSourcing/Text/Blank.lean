/-!
# Blank characters

The characters that surround a text without belonging to it, and the two ways
of taking them away. `strip` works on both ends, `stripRight` on the right end
only.
-/

set_option autoImplicit false

namespace EventSourcing.Text

/-- The code points of blank characters as closed ranges: the controls that
separate lines, fields and groups, and the Unicode spaces. The zero-width
characters are not among them. -/
def blankRanges : List (Nat × Nat) :=
  [(0x09, 0x0D), (0x1C, 0x20), (0x85, 0x85), (0xA0, 0xA0), (0x1680, 0x1680),
    (0x2000, 0x200A), (0x2028, 0x2029), (0x202F, 0x202F), (0x205F, 0x205F),
    (0x3000, 0x3000)]

def isBlank (character : Char) : Bool :=
  blankRanges.any fun range =>
    range.1 ≤ character.toNat && character.toNat ≤ range.2

def stripRightChars (text : List Char) : List Char :=
  (text.reverse.dropWhile isBlank).reverse

def stripChars (text : List Char) : List Char :=
  stripRightChars (text.dropWhile isBlank)

def stripRight (text : String) : String :=
  String.ofList (stripRightChars text.toList)

def strip (text : String) : String :=
  String.ofList (stripChars text.toList)

end EventSourcing.Text
