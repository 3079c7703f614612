namespace TilingHeader.Text

/-! White space in the sense of Unicode's `White_Space` property, and the
trimming of a text at its two ends. -/

/-- The members of `White_Space` above the first plane of controls. -/
def blankCodes : List Nat :=
  [0x20, 0x85, 0xA0, 0x1680, 0x2000, 0x2001, 0x2002, 0x2003, 0x2004, 0x2005,
    0x2006, 0x2007, 0x2008, 0x2009, 0x200A, 0x2028, 0x2029, 0x202F, 0x205F,
    0x3000]

def isBlank (character : Char) : Bool :=
  (0x09 ≤ character.toNat && character.toNat ≤ 0x0D) ||
    blankCodes.contains character.toNat

def trimStart (text : List Char) : List Char :=
  text.dropWhile isBlank

def trimEnd (text : List Char) : List Char :=
  (text.reverse.dropWhile isBlank).reverse

def trim (text : List Char) : List Char :=
  trimEnd (trimStart text)

end TilingHeader.Text
