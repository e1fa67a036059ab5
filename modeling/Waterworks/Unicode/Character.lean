import Waterworks.Unicode.Property

namespace Waterworks.Unicode

/-!
# Classes of characters

* `isBlank` — white space.
* `isDigit` — decimal digits of any script.
* `isWord` — what words are made of: letters, marks, decimal digits, connectors and joiners.
* `isAlphabetic`, `isNumeric` — what the names in a pattern are made of.
* `isPrintable` — what quoted text shows as itself.

Each class decides the ASCII characters by itself and asks a table about all others.
-/

/-! ### White space -/

/-- The property `White_Space`. -/
def isBlank (c : Char) : Bool :=
  let n := c.toNat
  (9 ≤ n && n ≤ 13) || n == 0x20 || n == 0x85 || n == 0xA0 || n == 0x1680 ||
    (0x2000 ≤ n && n ≤ 0x200A) || n == 0x2028 || n == 0x2029 || n == 0x202F || n == 0x205F ||
    n == 0x3000

/-- The code points of white space. -/
def blankRanges : CodePoints :=
  .ofHex "9-D 20 85 A0 1680 2000-200A 2028-2029 202F 205F 3000"

/-! ### Digits and words -/

/-- The code points of decimal digits, in any script. -/
def digitRanges : CodePoints :=
  Category.decimalNumber.codePoints

/-- Whether a character is a digit; ASCII needs no table. -/
def isDigit (c : Char) : Bool :=
  if c.toNat < 128 then c.isDigit else digitRanges.contains c.toNat

/-- The code points of word characters, as the standard recommends them for regular expressions. -/
def wordRanges : CodePoints :=
  (SetExpr.unions [Property.alphabetic, Category.mark, Category.decimalNumber,
    Category.connectorPunctuation, Property.joinControl]).codePoints

/-- The ASCII characters that words are made of. -/
def isAsciiWord (c : Char) : Bool :=
  c.isAlphanum || c == '_'

/-- Whether a character is a word character; ASCII needs no table. -/
def isWord (c : Char) : Bool :=
  if c.toNat < 128 then isAsciiWord c else wordRanges.contains c.toNat

/-! ### Names -/

/-- The code points of letters. -/
def alphabeticRanges : CodePoints :=
  Property.alphabetic.codePoints

/-- Whether a character is a letter; ASCII needs no table. -/
def isAlphabetic (c : Char) : Bool :=
  if c.toNat < 128 then c.isAlpha else alphabeticRanges.contains c.toNat

/-- The code points of numbers, those of letters among them. -/
def numericRanges : CodePoints :=
  Category.number.codePoints

/-- Whether a character is a number; ASCII needs no table. -/
def isNumeric (c : Char) : Bool :=
  if c.toNat < 128 then c.isDigit else numericRanges.contains c.toNat

/-! ### Printing -/

/-- The code points that are shown by their numbers. -/
def unprintableRanges : CodePoints :=
  (SetExpr.unions [Category.other, Category.separator]).codePoints

/-- Whether a character is assigned, visible and no separator; the space counts as visible. -/
def isPrintable (c : Char) : Bool :=
  if c.toNat < 128 then 32 ≤ c.toNat && c.toNat < 127 else !unprintableRanges.contains c.toNat

/-- The code points that are shown together with the character before them. -/
def graphemeExtendRanges : CodePoints :=
  Property.graphemeExtend.codePoints

/-- Whether a character attaches to the one before it. -/
def isGraphemeExtend (c : Char) : Bool :=
  if c.toNat < 128 then false else graphemeExtendRanges.contains c.toNat

end Waterworks.Unicode
