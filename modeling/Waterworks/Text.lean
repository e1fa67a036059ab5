import Waterworks.Unicode.Character

namespace Waterworks.Text

open Waterworks.Unicode

/-!
# Texts

* `trim` — a text without the white space at both of its ends.
* `isAllBlank` — whether a text has nothing but white space.
* `sameButAsciiCase` — whether two texts differ at most in the case of ASCII letters.
* `splitAt` — the parts of a text between separators.
* `lines` — the lines of a text, without the characters that end them.
* `quoteChar` — how a character is written between quotes.
* `quoted` — a text between quotes, in which everything that cannot be seen is escaped.
* `Style` — the styles, with the sequence that begins each of them.
* `Style.apply` — a text in a style. Where the text itself ends a style, the style is begun again.
-/

/-! ### Trimming and ASCII case -/

/-- The characters of a text from the first to the last that is not white space. -/
def trimChars (cs : List Char) : List Char :=
  ((cs.dropWhile isBlank).reverse.dropWhile isBlank).reverse

/-- A text without the white space at both ends. -/
def trim (text : String) : String :=
  String.ofList (trimChars text.toList)

/-- Whether there is nothing but white space. -/
def isAllBlank (text : String) : Bool :=
  text.toList.all isBlank

/-- Whether two texts differ at most in the case of ASCII letters. -/
def sameButAsciiCase (s t : String) : Bool :=
  s.toList.map Char.toLower == t.toList.map Char.toLower

/-! ### Parts of texts -/

/-- The parts of some characters between separators; there is always at least one. -/
def splitAt (separator : Char) : List Char → List (List Char)
  | [] => [[]]
  | c :: rest =>
    if c = separator then [] :: splitAt separator rest
    else
      match splitAt separator rest with
      | [] => [[c]]
      | part :: parts => (c :: part) :: parts

/-- A line without a carriage return at its end. -/
def withoutReturn (line : List Char) : List Char :=
  match line.getLast? with
  | some '\r' => line.dropLast
  | _ => line

/-- The lines that the parts between line feeds amount to. What follows the last line feed is a
line only if it is not empty, and keeps its carriage return. -/
def linesOfParts : List (List Char) → List (List Char)
  | [] => []
  | [last] => if last.isEmpty then [] else [last]
  | part :: rest => withoutReturn part :: linesOfParts rest

/-- The lines of a text. -/
def lines (text : String) : List String :=
  (linesOfParts (splitAt '\n' text.toList)).map String.ofList

/-! ### Quoted text -/

/-- An escape that gives the code point of a character. -/
def codeEscape (c : Char) : List Char :=
  '\\' :: 'u' :: '\x7B' :: Nat.toDigits 16 c.toNat ++ ['\x7D']

/-- How a character is written between quotes. -/
def quoteChar (c : Char) : List Char :=
  if c == '"' then ['\\', '"']
  else if c == '\\' then ['\\', '\\']
  else if c == '\t' then ['\\', 't']
  else if c == '\n' then ['\\', 'n']
  else if c == '\r' then ['\\', 'r']
  else if c == '\x00' then ['\\', '0']
  else if isGraphemeExtend c || !isPrintable c then codeEscape c
  else [c]

/-- A text between quotes, with its special characters escaped, as messages show it. -/
def quoted (text : String) : String :=
  String.ofList ('"' :: text.toList.flatMap quoteChar ++ ['"'])

/-! ### Styled text -/

/-- A style of text on a terminal. -/
inductive Style where
  | bold | dimmed | cyan
  deriving DecidableEq, Repr

namespace Style

/-- The sequence that begins a style. -/
def opening : Style → List Char
  | bold => ['\x1B', '[', '1', 'm']
  | dimmed => ['\x1B', '[', '2', 'm']
  | cyan => ['\x1B', '[', '3', '6', 'm']

/-- The sequence that ends every style. -/
def reset : List Char := ['\x1B', '[', '0', 'm']

/-- A text with the style begun again after each reset in it. -/
def reopen (s : Style) : List Char → List Char
  | '\x1B' :: '[' :: '0' :: 'm' :: rest => reset ++ s.opening ++ s.reopen rest
  | c :: rest => c :: s.reopen rest
  | [] => []

/-- A text in a style, or as it is without colour. -/
def apply (color : Bool) (s : Style) (text : String) : String :=
  if color then String.ofList (s.opening ++ s.reopen text.toList ++ reset) else text

end Style

end Waterworks.Text
