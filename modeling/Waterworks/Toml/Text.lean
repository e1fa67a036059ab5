import Waterworks.Pattern.Reader

namespace Waterworks.Toml

/-!
# Texts and keys of TOML

The readers take what remains of a document and return what they have read with what then remains;
`none` stands for a document that is not in order.

* `readText?` — a text in any of the four kinds of quotes.
* `readKey?` — a key, which is a sequence of simple keys with dots between them.
-/

/-! ### Characters -/

/-- The white space within a line. -/
def isSpace (c : Char) : Bool :=
  c == ' ' || c == '\t'

/-- What follows the blanks at the beginning. -/
def skipSpaces (cs : List Char) : List Char :=
  cs.dropWhile isSpace

/-- Control characters other than the tab, which may stand nowhere as they are. -/
def isControl (c : Char) : Bool :=
  (c.toNat < 0x20 && c != '\t') || c.toNat == 0x7F

/-- What follows a line feed, or a carriage return and a line feed. -/
def newLine? : List Char → Option (List Char)
  | '\n' :: rest => some rest
  | '\r' :: '\n' :: rest => some rest
  | _ => none

/-- Reads a given number of hexadecimal digits as a code point. -/
def readCodePoint (count : Nat) (cs : List Char) : Option (Char × List Char) := do
  let (n, rest) ← Pattern.readHexDigits false count 0 cs
  return (← Pattern.charOfCode? n, rest)

/-- Reads what follows a backslash. -/
def readEscape : List Char → Option (Char × List Char)
  | 'b' :: rest => some ('\x08', rest)
  | 't' :: rest => some ('\t', rest)
  | 'n' :: rest => some ('\n', rest)
  | 'f' :: rest => some ('\x0C', rest)
  | 'r' :: rest => some ('\r', rest)
  | 'e' :: rest => some ('\x1B', rest)
  | '"' :: rest => some ('"', rest)
  | '\\' :: rest => some ('\\', rest)
  | 'x' :: rest => readCodePoint 2 rest
  | 'u' :: rest => readCodePoint 4 rest
  | 'U' :: rest => readCodePoint 8 rest
  | _ => none

/-! ### Texts on one line -/

/-- Reads a text after its opening quotation mark; each round takes at least one character. -/
def readBasic : (fuel : Nat) → (read : List Char) → List Char → Option (List Char × List Char)
  | 0, _, _ => none
  | fuel + 1, read, cs =>
    match cs with
    | [] => none
    | '"' :: rest => some (read.reverse, rest)
    | '\\' :: rest =>
      match readEscape rest with
      | none => none
      | some (c, rest) => readBasic fuel (c :: read) rest
    | c :: rest => if isControl c then none else readBasic fuel (c :: read) rest

/-- Reads a text after its opening apostrophe. -/
def readLiteral : (read : List Char) → List Char → Option (List Char × List Char)
  | _, [] => none
  | read, c :: rest =>
    if c == '\'' then some (read.reverse, rest)
    else if isControl c then none
    else readLiteral (c :: read) rest

/-! ### Texts on several lines -/

/-- A text on several lines may begin with a new line that is not part of it. -/
def dropFirstLine (cs : List Char) : List Char :=
  (newLine? cs).getD cs

/-- What follows white space and new lines. -/
def skipLines : (fuel : Nat) → List Char → List Char
  | 0, cs => cs
  | fuel + 1, cs =>
    match newLine? (skipSpaces cs) with
    | none => skipSpaces cs
    | some rest => skipLines fuel rest

/-- The closing quotes of a text on several lines: three, before which up to two more belong to the
text. Gives their number without the three. -/
def closingQuotes? (quote : Char) (cs : List Char) : Option Nat :=
  let count := (cs.takeWhile (· == quote)).length
  if count < 3 then none else some (min count 5 - 3)

/-- Reads a text after three opening quotes, which are quotation marks if `escapes` says so and
apostrophes otherwise; each round takes at least one character. -/
def readLines (escapes : Bool) (quote : Char) :
    (fuel : Nat) → (read : List Char) → List Char → Option (List Char × List Char)
  | 0, _, _ => none
  | fuel + 1, read, cs =>
    match closingQuotes? quote cs with
    | some more => some (read.reverse ++ List.replicate more quote, cs.drop (more + 3))
    | none =>
      match cs with
      | [] => none
      | '\r' :: '\n' :: rest => readLines escapes quote fuel ('\n' :: '\r' :: read) rest
      | '\n' :: rest => readLines escapes quote fuel ('\n' :: read) rest
      | c :: rest =>
        if c == '\\' && escapes then
          match newLine? (skipSpaces rest) with
          | some rest => readLines escapes quote fuel read (skipLines rest.length rest)
          | none =>
            match readEscape rest with
            | none => none
            | some (c, rest) => readLines escapes quote fuel (c :: read) rest
        else if isControl c then none
        else readLines escapes quote fuel (c :: read) rest

/-- Reads a text; `none` also if there is none. -/
def readText? (cs : List Char) : Option (String × List Char) :=
  let read :=
    match cs with
    | '"' :: '"' :: '"' :: rest => readLines true '"' (cs.length + 1) [] (dropFirstLine rest)
    | '\'' :: '\'' :: '\'' :: rest => readLines false '\'' (cs.length + 1) [] (dropFirstLine rest)
    | '"' :: rest => readBasic (cs.length + 1) [] rest
    | '\'' :: rest => readLiteral [] rest
    | _ => none
  read.map fun (text, rest) => (String.ofList text, rest)

/-! ### Keys -/

/-- The characters of keys without quotes. -/
def isBareKeyChar (c : Char) : Bool :=
  c.isAlphanum || c == '_' || c == '-'

/-- Reads a simple key: a bare one, or a text on one line. -/
def readSimpleKey? (cs : List Char) : Option (String × List Char) :=
  match cs with
  | '"' :: rest =>
    (readBasic (cs.length + 1) [] rest).map fun (key, rest) => (String.ofList key, rest)
  | '\'' :: rest => (readLiteral [] rest).map fun (key, rest) => (String.ofList key, rest)
  | cs =>
    match cs.span isBareKeyChar with
    | ([], _) => none
    | (key, rest) => some (String.ofList key, rest)

/-- Reads the simple keys of a key, with the white space after it; each round takes at least one
character. -/
def readKeys : (fuel : Nat) → (read : List String) → List Char → Option (List String × List Char)
  | 0, _, _ => none
  | fuel + 1, read, cs => do
    let (key, rest) ← readSimpleKey? (skipSpaces cs)
    match skipSpaces rest with
    | '.' :: rest => readKeys fuel (key :: read) rest
    | rest => return ((key :: read).reverse, rest)

/-- Reads a key, with the white space around it. -/
def readKey? (cs : List Char) : Option (List String × List Char) :=
  readKeys (cs.length + 1) [] cs

end Waterworks.Toml
