import CallFlow.Text.Ranges

namespace CallFlow.Text

/-- The blank characters. -/
def blankRanges : List (Nat × Nat) :=
  [(0x9, 0xD), (0x1C, 0x20), (0x85, 0x85), (0xA0, 0xA0), (0x1680, 0x1680), (0x2000, 0x200A),
   (0x2028, 0x2029), (0x202F, 0x202F), (0x205F, 0x205F), (0x3000, 0x3000)]

/-- Whether a character is blank. -/
def isBlank (c : Char) : Bool := inRanges blankRanges c.toNat

/-- A text without the blanks at its front. -/
def trimFront : List Char → List Char := List.dropWhile isBlank

/-- A text without the blanks at both ends. -/
def trim (cs : List Char) : List Char := (trimFront (trimFront cs).reverse).reverse

end CallFlow.Text

namespace CallFlow

/-- A string without the blanks at both ends. -/
def trimText (s : String) : String := String.ofList (Text.trim s.toList)

/-- Whether a string holds nothing but blanks. -/
def blankText (s : String) : Bool := s.toList.all Text.isBlank

end CallFlow
