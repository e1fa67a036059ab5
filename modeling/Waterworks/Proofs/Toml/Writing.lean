import Mathlib.Data.List.Forall2
import Waterworks.Toml.Document

namespace Waterworks.Toml

/-!
# Ways to write a document

Documents of lines, each of which gives a value to a key, has a comment or is blank. Here it is said
which texts are such documents, without a word about how they are read.

* `CharWrittenAs`, `DigitsWrittenAs`, `IntegerWrittenAs` — how texts and integers are written.
* `Value.WrittenAs` — a way to write a text, an integer or a truth value.
* `Assignment.WrittenAs` — a line that gives a value to a key.
* `DocumentWrittenAs` — a document with given assignments, in their order.
-/

/-! ### White space and comments -/

/-- White space within a line. -/
def IsBlank (cs : List Char) : Prop :=
  ∀ c ∈ cs, c = ' ' ∨ c = '\t'

/-- Blanks can be told character by character. -/
instance (cs : List Char) : Decidable (IsBlank cs) :=
  List.decidableBAll (fun c => c = ' ' ∨ c = '\t') cs

/-- A character that may stand in a comment or in a text. -/
def IsVisible (c : Char) : Prop :=
  c = '\t' ∨ (0x20 ≤ c.toNat ∧ c.toNat ≠ 0x7F)

/-- A visible character can be told by its number. -/
instance (c : Char) : Decidable (IsVisible c) :=
  inferInstanceAs (Decidable (_ ∨ _))

/-- A comment, or nothing; it runs to the end of its line. -/
inductive IsComment : List Char → Prop
  | absent : IsComment []
  | given {text : List Char} (h : ∀ c ∈ text, IsVisible c) : IsComment ('#' :: text)

/-- What may follow a value on its line: white space and a comment. -/
def IsMargin (cs : List Char) : Prop :=
  ∃ blank comment, IsBlank blank ∧ IsComment comment ∧ cs = blank ++ comment

/-- The end of a line or of the document, and what follows it. -/
inductive LineEnds : List Char → List Char → Prop
  | document : LineEnds [] []
  | lineFeed {rest : List Char} : LineEnds ('\n' :: rest) rest
  | returned {rest : List Char} : LineEnds ('\r' :: '\n' :: rest) rest

/-! ### Digits -/

/-- A digit in a base up to sixteen, in either case. -/
def IsDigit (base value : Nat) (c : Char) : Prop :=
  value < base ∧ (c = Nat.digitChar value ∨ c = (Nat.digitChar value).toUpper)

/-- A digit can be told by its value in the base. -/
instance (base value : Nat) (c : Char) : Decidable (IsDigit base value c) :=
  inferInstanceAs (Decidable (_ ∧ _))

/-- The number with given digits, the most significant first. -/
def numberOf (base : Nat) (values : List Nat) : Nat :=
  values.foldl (fun n value => n * base + value) 0

/-- Digits, between any two of which a low line may stand. -/
inductive DigitsWrittenAs (base : Nat) : List Nat → List Char → Prop
  | last {value : Nat} {c : Char} (h : IsDigit base value c) : DigitsWrittenAs base [value] [c]
  | next {value : Nat} {c : Char} {values : List Nat} {cs : List Char} (h : IsDigit base value c)
    (hrest : DigitsWrittenAs base values cs) : DigitsWrittenAs base (value :: values) (c :: cs)
  | pause {value : Nat} {c : Char} {values : List Nat} {cs : List Char} (h : IsDigit base value c)
    (hrest : DigitsWrittenAs base values cs) : DigitsWrittenAs base (value :: values) (c :: '_' :: cs)

/-! ### Texts -/

/-- The letters that a backslash makes stand for a character. -/
def letterEscapes : List (Char × Char) :=
  [('b', '\x08'), ('t', '\t'), ('n', '\n'), ('f', '\x0C'), ('r', '\r'), ('e', '\x1B'), ('"', '"'),
    ('\\', '\\')]

/-- The letters that a backslash makes stand for a code point, and how many digits it then has. -/
def codeEscapes : List (Char × Nat) :=
  [('x', 2), ('u', 4), ('U', 8)]

/-- A character between quotation marks: itself or an escape. -/
inductive CharWrittenAs (c : Char) : List Char → Prop
  | plain (h : IsVisible c ∧ c ≠ '"' ∧ c ≠ '\\') : CharWrittenAs c [c]
  | letter {l : Char} (h : (l, c) ∈ letterEscapes) : CharWrittenAs c ['\\', l]
  | code {l : Char} {values : List Nat} {digits : List Char} (h : (l, digits.length) ∈ codeEscapes)
    (hdigits : List.Forall₂ (IsDigit 16) values digits) (hc : c.toNat = numberOf 16 values) :
    CharWrittenAs c ('\\' :: l :: digits)

/-! ### Values -/

/-- An integer: decimal without needless zeros in front and with a sign or without, or in one of the
other bases without a sign. -/
inductive IntegerWrittenAs : Int → List Char → Prop
  | positive {sign digits : List Char} {values : List Nat} (hsign : sign ∈ [[], ['+']])
    (h : DigitsWrittenAs 10 values digits) (hplain : values.head? = some 0 → digits = ['0']) :
    IntegerWrittenAs (numberOf 10 values) (sign ++ digits)
  | negative {digits : List Char} {values : List Nat} (h : DigitsWrittenAs 10 values digits)
    (hplain : values.head? = some 0 → digits = ['0']) :
    IntegerWrittenAs (-(numberOf 10 values)) ('-' :: digits)
  | based {letter : Char} {base : Nat} {digits : List Char} {values : List Nat}
    (hbase : (letter, base) ∈ [('x', 16), ('o', 8), ('b', 2)])
    (h : DigitsWrittenAs base values digits) :
    IntegerWrittenAs (numberOf base values) ('0' :: letter :: digits)

/-- A way to write a text, an integer or a truth value. -/
inductive Value.WrittenAs : Value → List Char → Prop
  | text {content : String} {pieces : List (List Char)}
    (h : List.Forall₂ CharWrittenAs content.toList pieces) :
    WrittenAs (.text content) ('"' :: (pieces.flatten ++ ['"']))
  | integer {n : Int} {cs : List Char} (h : IntegerWrittenAs n cs) : WrittenAs (.integer n) cs
  | flag (b : Bool) :
    WrittenAs (.flag b) (if b then ['t', 'r', 'u', 'e'] else ['f', 'a', 'l', 's', 'e'])

/-! ### Lines -/

/-- A key with its value. -/
abbrev Assignment := String × Value

/-- A key without quotes. -/
def IsBareKey (cs : List Char) : Prop :=
  cs ≠ [] ∧ ∀ c ∈ cs, c.isAlphanum = true ∨ c = '_' ∨ c = '-'

/-- Bare keys can be told character by character. -/
instance (cs : List Char) : Decidable (IsBareKey cs) :=
  @instDecidableAnd _ _ _ (List.decidableBAll (fun c => c.isAlphanum = true ∨ c = '_' ∨ c = '-') cs)

/-- A line that gives a value to a key, from the key on. -/
def Assignment.WrittenAs (a : Assignment) (cs : List Char) : Prop :=
  ∃ before after value margin, IsBareKey a.1.toList ∧ IsBlank before ∧ IsBlank after ∧
    a.2.WrittenAs value ∧ IsMargin margin ∧
    cs = a.1.toList ++ before ++ '=' :: (after ++ value ++ margin)

/-- A line without its end, with the assignment that it makes if it makes one. -/
inductive LineWrittenAs : Option Assignment → List Char → Prop
  | empty {cs : List Char} (h : IsMargin cs) : LineWrittenAs none cs
  | assignment {a : Assignment} {indent cs : List Char} (hindent : IsBlank indent)
    (h : a.WrittenAs cs) : LineWrittenAs (some a) (indent ++ cs)

/-- A document of lines, the last of which need not have an end. -/
inductive DocumentWrittenAs : List Assignment → List Char → Prop
  | empty : DocumentWrittenAs [] []
  | line {a : Option Assignment} {as : List Assignment} {cs rest next : List Char}
    (h : LineWrittenAs a cs) (hrest : LineEnds rest next) (hnext : DocumentWrittenAs as next) :
    DocumentWrittenAs (a.toList ++ as) (cs ++ rest)

end Waterworks.Toml
