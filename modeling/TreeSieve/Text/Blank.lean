import TreeSieve.Text.Basic

/-!
# Text — Blank

White space: the characters with the Unicode property White_Space, and the four separators
U+001C to U+001F beside them.  Zero-width space and byte order mark are no blanks.
-/

namespace TreeSieve.Text

/-- The white-space characters. -/
def blankTable : CharTable :=
  [(0x9, 0xD), (0x1C, 0x20), (0x85, 0x85), (0xA0, 0xA0), (0x1680, 0x1680), (0x2000, 0x200A),
   (0x2028, 0x2029), (0x202F, 0x202F), (0x205F, 0x205F), (0x3000, 0x3000)]

/-- Whether a character is white space. -/
def isBlank (c : Char) : Bool := blankTable.has c.toNat

/-- Whether a character has the property White_Space. -/
def isSpace (c : Char) : Bool := isBlank c && !(0x1C ≤ c.toNat && c.toNat ≤ 0x1F)

/-- Whether a character is one of the blanks of ASCII. -/
def isAsciiBlank (c : Char) : Bool :=
  c = ' ' || c = '\t' || c = '\n' || c = '\r' || c = '\x0b' || c = '\x0c'

/-- The text without the white space at its two ends. -/
def trim (t : Text) : Text := dropAround isBlank t

end TreeSieve.Text
