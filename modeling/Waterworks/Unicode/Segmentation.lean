import Waterworks.Unicode.Property
import Waterworks.Unicode.Script

namespace Waterworks.Unicode

/-!
# Text segmentation

The values of the three properties that say where graphemes, words and sentences end.

* `Segmentation.grapheme`, `Segmentation.word`, `Segmentation.sentence` — one table each.
-/

namespace Segmentation

/-! ### Shared sets -/

def carriageReturn : SetExpr := .ranges "D"

def lineFeed : SetExpr := .ranges "A"

def zeroWidthJoiner : SetExpr := .ranges "200D"

/-- The code points of a script. -/
def scriptNamed (name : String) : SetExpr :=
  ((NamedSet.find? Script.table name).map (·.members)).getD (.ranges "")

/-- Digits, with the separator of decimals that the standard counts among them. -/
def decimalSeparated : SetExpr := .union Category.decimalNumber (.ranges "66B")

/-- What goes on with the character before it. -/
def extending : SetExpr :=
  .unions [Property.graphemeExtend, Category.spacingMark, .ranges "1F3FB-1F3FF"]

/-! ### Graphemes -/

/-- The first part of a syllable. -/
def leadingJamo : SetExpr := .ranges "1100-115F A960-A97C"

/-- The middle part of a syllable. -/
def vowelJamo : SetExpr := .ranges "1160-11A7 D7B0-D7C6 16D63 16D67-16D6A"

/-- The last part of a syllable. -/
def trailingJamo : SetExpr := .ranges "11A8-11FF D7CB-D7FB"

/-- Every 28th Hangul syllable, from the first on, ends in a vowel. -/
def openSyllable : SetExpr :=
  .ranges (" ".intercalate ((List.range 399).map fun k => CodePoints.hexText (0xAC00 + 28 * k)))

/-- Syllables that have all three parts. -/
def closedSyllable : SetExpr := .diff (.ranges "AC00-D7A3") openSyllable

/-- Marks that take room of their own and still belong to the character before them. -/
def spacing : SetExpr :=
  .union (.diff (.diff Category.spacingMark Property.graphemeExtend)
    (.ranges "
102B-102C 1038 1062-1064 1067-106D 1083 1087-108C 108F 109A-109C 1A61 1A63-1A64 AA7B AA7D 1171E
11720-11721")) (.ranges "E33 EB3")

/-- The classes by which a text is cut into characters as a reader sees them. -/
def grapheme : List NamedSet := [
  ⟨["CR"], carriageReturn⟩,
  ⟨["LF"], lineFeed⟩,
  ⟨["Control", "CN"], .union (.diff (.unions [Category.lineSeparator, Category.paragraphSeparator,
      Category.control, Category.format]) (.union (.ranges "A D 200C-200D E0020-E007F")
      Property.prependedConcatenationMark))
    (.diff Property.defaultIgnorableCodePoint Category.assigned)⟩,
  ⟨["Extend", "EX"], .union Property.graphemeExtend (.ranges "1F3FB-1F3FF")⟩,
  ⟨["ZWJ"], zeroWidthJoiner⟩,
  ⟨["Regional_Indicator", "RI"], Property.regionalIndicator⟩,
  ⟨["Prepend", "PP"],
    .ranges "
600-605 6DD 70F 890-891 8E2 D4E 110BD 110CD 111C2-111C3 113D1 1193F 11941 11A3A 11A84-11A89
11D46 11F02"⟩,
  ⟨["SpacingMark", "SM"], spacing⟩,
  ⟨["L"], leadingJamo⟩,
  ⟨["V"], vowelJamo⟩,
  ⟨["T"], trailingJamo⟩,
  ⟨["LV"], openSyllable⟩,
  ⟨["LVT"], closedSyllable⟩]

/-! ### Words -/

/-- Format characters that are passed over when words are looked for. -/
def formatting : SetExpr :=
  .diff (.diff Category.format (.ranges "200B-200D")) Property.graphemeExtend

/-- Characters that are written together in Katakana. -/
def katakana : SetExpr :=
  .union (scriptNamed "Katakana") (.ranges "3031-3035 309B-309C 30A0 30FC FF70")

/-- Hebrew letters, which may have quotes between them. -/
def hebrewLetter : SetExpr :=
  .diff (scriptNamed "Hebrew") (.complement Category.otherLetter)

/-- The scripts that are written without spaces between words. -/
def unspaced : SetExpr :=
  .unions (["Thai", "Lao", "Myanmar", "Khmer", "New_Tai_Lue", "Tai_Tham", "Tai_Viet", "Ahom",
    "Tai_Le"].map scriptNamed)

/-- Letters of scripts that put blanks between their words. -/
def wordLetter : SetExpr :=
  .union (.diff Property.alphabetic (.unions [Property.ideographic, katakana,
    scriptNamed "Hiragana", unspaced, hebrewLetter, extending]))
    (.ranges "
2C2-2C5 2D2-2D7 2DE-2DF 2E5-2EB 2ED 2EF-2FF 55A-55C 55E 58A 5F3 A708-A716 A720-A721 A789-A78A
AB5B")

/-- The classes by which a text is cut into words. -/
def word : List NamedSet := [
  ⟨["Double_Quote", "DQ"], .ranges "22"⟩,
  ⟨["Single_Quote", "SQ"], .ranges "27"⟩,
  ⟨["Hebrew_Letter", "HL"], hebrewLetter⟩,
  ⟨["CR"], carriageReturn⟩,
  ⟨["LF"], lineFeed⟩,
  ⟨["Newline", "NL"], .ranges "B-C 85 2028-2029"⟩,
  ⟨["Extend"], extending⟩,
  ⟨["Regional_Indicator", "RI"], Property.regionalIndicator⟩,
  ⟨["Format", "FO"], formatting⟩,
  ⟨["Katakana", "KA"], katakana⟩,
  ⟨["ALetter", "LE"], wordLetter⟩,
  ⟨["MidLetter", "ML"], .ranges "3A B7 387 55F 5F4 2027 FE13 FE55 FF1A"⟩,
  ⟨["MidNum", "MN"], .ranges "2C 3B 37E 589 60C-60D 66C 7F8 2044 FE10 FE14 FE50 FE54 FF0C FF1B"⟩,
  ⟨["MidNumLet", "MB"], .ranges "2E 2018-2019 2024 FE52 FF07 FF0E"⟩,
  ⟨["Numeric", "NU"], decimalSeparated⟩,
  ⟨["ExtendNumLet", "EX"], .union Category.connectorPunctuation (.ranges "202F")⟩,
  ⟨["ZWJ"], zeroWidthJoiner⟩,
  ⟨["WSegSpace"], .diff Category.spaceSeparator (.ranges "A0 2007 202F")⟩]

/-! ### Sentences -/

/-- Letters that do not begin a sentence. -/
def sentenceLower : SetExpr :=
  .union (.diff (.diff Property.lowercase Property.graphemeExtend) (.ranges "10D0-10FA 10FD-10FF"))
    (.ranges "295")

/-- Letters that may begin a sentence. -/
def sentenceUpper : SetExpr :=
  .diff (.union Property.uppercase Category.titlecaseLetter) (.ranges "1C90-1CBA 1CBD-1CBF")

/-- Marks and joiners, which belong to the character before them. -/
def sentenceExtend : SetExpr :=
  .unions [Property.graphemeExtend, Category.spacingMark, zeroWidthJoiner]

/-- Letters of either kind. -/
def sentenceLetter : SetExpr :=
  .union (.diff Property.alphabetic (.unions [sentenceLower, sentenceUpper, sentenceExtend]))
    (.ranges "5F3")

/-- The classes by which a text is cut into sentences. -/
def sentence : List NamedSet := [
  ⟨["CR"], carriageReturn⟩,
  ⟨["LF"], lineFeed⟩,
  ⟨["Sep", "SE"], .ranges "85 2028-2029"⟩,
  ⟨["Extend", "EX"], sentenceExtend⟩,
  ⟨["Format", "FO"], .diff (.diff Category.format (.ranges "200D")) Property.graphemeExtend⟩,
  ⟨["Sp", "SP"], .diff Property.whiteSpace (.ranges "A D 85 2028-2029")⟩,
  ⟨["Lower", "LO"], sentenceLower⟩,
  ⟨["Upper", "UP"], sentenceUpper⟩,
  ⟨["OLetter", "LE"], sentenceLetter⟩,
  ⟨["Numeric", "NU"], .union decimalSeparated (.ranges "66C")⟩,
  ⟨["ATerm", "AT"], .ranges "2E 2024 FE52 FF0E"⟩,
  ⟨["SContinue", "SC"], .ranges "
2C-2D 3A-3B 37E 55D 60C-60D 7F8 1802 1808 2013-2014 3001 FE10-FE11 FE13-FE14 FE31-FE32 FE50-FE51
FE54-FE55 FE58 FE63 FF0C-FF0D FF1A-FF1B FF64"⟩,
  ⟨["STerm", "ST"], .diff Property.sentenceTerminal
    (.ranges "2E 17D4-17D5 2024 2CF9-2CFB FE12 FE15-FE16 FE52 FF0E")⟩,
  ⟨["Close", "CL"], .union (.diff (.unions [Category.openPunctuation, Category.closePunctuation,
      Category.initialPunctuation, Category.finalPunctuation, Property.quotationMark])
      (.ranges "FF02 FF07")) (.ranges "275B-2760 2E00-2E01 2E06-2E08 2E0B 1F676-1F678")⟩]

end Segmentation

end Waterworks.Unicode
