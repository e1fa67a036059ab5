import Mathlib.Data.List.Forall2
import Waterworks.Proofs.Json.Reading

namespace Waterworks.Json

/-!
# All ways to write a value

A document may have white space between its parts, escapes in its texts, the members of its records
in any order, and members that nobody asks for. Here it is said which texts are ways to write a
value, without a word about how they are read.

* `NumberText.WrittenAs`, `TextWrittenAs` — how numbers and texts are written.
* `IsValue` — anything that is a value in JSON.
* `Shape.WrittenAs` — a way to write a value of a shape.
* `Shape.Spoilt` — the same with a member too many or too few.
-/

/-! ### White space -/

/-- The white space of JSON. -/
def IsBlank (cs : List Char) : Prop :=
  ∀ c ∈ cs, c = ' ' ∨ c = '\t' ∨ c = '\n' ∨ c = '\r'

/-- A part of a document with white space around it. -/
def Padded (part cs : List Char) : Prop :=
  ∃ before after, IsBlank before ∧ IsBlank after ∧ cs = before ++ part ++ after

/-- The white space may be left out. -/
theorem Padded.refl (part : List Char) : Padded part part :=
  ⟨[], [], List.forall_mem_nil _, List.forall_mem_nil _, (List.append_nil part).symm⟩

/-- Parts between brackets, separated by commas. -/
def Bracketed (opening closing : Char) (parts : List (List Char)) (cs : List Char) : Prop :=
  ∃ blank, IsBlank blank ∧ cs = opening :: (blank ++ withCommas parts ++ [closing])

/-! ### Numbers -/

/-- One or more decimal digits. -/
def IsDigits (cs : List Char) : Prop :=
  cs ≠ [] ∧ ∀ c ∈ cs, c.isDigit = true

/-- A fraction is a point and some digits, or nothing. -/
inductive FractionWrittenAs : Option (List Char) → List Char → Prop
  | absent : FractionWrittenAs none []
  | given {digits : List Char} (h : IsDigits digits) :
    FractionWrittenAs (some digits) ('.' :: digits)

/-- An exponent has a letter in either case and may have a sign, which it has if it is negative. -/
inductive ExponentWrittenAs : Option (Bool × List Char) → List Char → Prop
  | absent : ExponentWrittenAs none []
  | given {letter : Char} {sign digits : List Char} {lower : Bool} (hletter : letter ∈ ['e', 'E'])
    (hsign : sign ∈ if lower then [['-']] else [[], ['+']]) (hdigits : IsDigits digits) :
    ExponentWrittenAs (some (lower, digits)) (letter :: (sign ++ digits))

/-- A number begins with a zero only if this is the whole part before the point. -/
def NumberText.WrittenAs (t : NumberText) (cs : List Char) : Prop :=
  IsDigits t.whole ∧ (t.whole.head? = some '0' → t.whole = ['0']) ∧
    ∃ fraction exponent, FractionWrittenAs t.fraction fraction ∧
      ExponentWrittenAs t.exponent exponent ∧
      cs = (if t.negative then ['-'] else []) ++ (t.whole ++ (fraction ++ exponent))

/-! ### Texts -/

/-- The letters that a backslash makes stand for a character. -/
def letterEscapes : List (Char × Char) :=
  [('"', '"'), ('\\', '\\'), ('/', '/'), ('b', '\x08'), ('f', '\x0C'), ('n', '\n'), ('r', '\r'),
    ('t', '\t')]

/-- A hexadecimal digit in either case. -/
def IsHexDigit (value : Nat) (c : Char) : Prop :=
  value < 16 ∧ (c = Nat.digitChar value ∨ c = (Nat.digitChar value).toUpper)

/-- A number as four hexadecimal digits. -/
inductive UnitWrittenAs : Nat → List Char → Prop
  | digits {p q r s : Nat} {a b c d : Char} (ha : IsHexDigit p a) (hb : IsHexDigit q b)
    (hc : IsHexDigit r c) (hd : IsHexDigit s d) :
    UnitWrittenAs (((p * 16 + q) * 16 + r) * 16 + s) [a, b, c, d]

/-- A character that may stand for itself between quotes. -/
def IsPlain (c : Char) : Prop :=
  0x20 ≤ c.toNat ∧ c ≠ '"' ∧ c ≠ '\\'

/-- Plain characters can be told by their numbers. -/
instance : DecidablePred IsPlain :=
  fun c => inferInstanceAs (Decidable (0x20 ≤ c.toNat ∧ c ≠ '"' ∧ c ≠ '\\'))

/-- A character in a text: itself, an escape, or the escapes of two surrogates. -/
inductive CharWrittenAs (c : Char) : List Char → Prop
  | plain (h : IsPlain c) : CharWrittenAs c [c]
  | letter {l : Char} (h : (l, c) ∈ letterEscapes) : CharWrittenAs c ['\\', l]
  | unit {digits : List Char} (h : UnitWrittenAs c.toNat digits) :
    CharWrittenAs c ('\\' :: 'u' :: digits)
  | pair {m n : Nat} {high low : List Char} (hm : 0xD800 ≤ m ∧ m ≤ 0xDBFF)
    (hn : 0xDC00 ≤ n ∧ n ≤ 0xDFFF) (hc : c.toNat = 0x10000 + (m - 0xD800) * 0x400 + (n - 0xDC00))
    (hhigh : UnitWrittenAs m high) (hlow : UnitWrittenAs n low) :
    CharWrittenAs c ('\\' :: 'u' :: (high ++ '\\' :: 'u' :: low))

/-- A text between quotes. -/
def TextWrittenAs (content : String) (cs : List Char) : Prop :=
  ∃ pieces, List.Forall₂ CharWrittenAs content.toList pieces ∧
    cs = '"' :: (pieces.flatten ++ ['"'])

/-- Plain characters may all stand for themselves. -/
theorem forall₂_charWrittenAs_of_isPlain (cs : List Char) (h : cs.all (IsPlain ·) = true) :
    List.Forall₂ CharWrittenAs cs (cs.map fun c => [c]) :=
  List.forall₂_map_right_iff.mpr (List.forall₂_same.mpr fun c hc =>
    .plain (of_decide_eq_true (List.all_eq_true.mp h c hc)))

/-- A text of plain characters is written as it is, between quotes. -/
theorem textWrittenAs_of_isPlain (content : String) (h : content.toList.all (IsPlain ·) = true) :
    TextWrittenAs content ('"' :: (content.toList ++ ['"'])) :=
  ⟨_, forall₂_charWrittenAs_of_isPlain _ h, by rw [← List.flatMap_def, List.flatMap_singleton']⟩

/-- A piece of a text that nobody reads, in which surrogates need not pair up. -/
inductive IsTextPiece : List Char → Prop
  | plain {c : Char} (h : IsPlain c) : IsTextPiece [c]
  | letter {l c : Char} (h : (l, c) ∈ letterEscapes) : IsTextPiece ['\\', l]
  | unit {n : Nat} {digits : List Char} (h : UnitWrittenAs n digits) :
    IsTextPiece ('\\' :: 'u' :: digits)

/-- Anything that is a text in JSON. -/
def IsText (cs : List Char) : Prop :=
  ∃ pieces : List (List Char), (∀ piece ∈ pieces, IsTextPiece piece) ∧
    cs = '"' :: (pieces.flatten ++ ['"'])

/-! ### Values -/

/-- A member of a record, whose name is written in a given way. -/
def MemberWrittenAs (IsName : List Char → Prop) (value cs : List Char) : Prop :=
  ∃ name name' value', IsName name ∧ Padded name name' ∧ Padded value value' ∧
    cs = name' ++ ':' :: value'

/-- Anything that is a value in JSON, nested however deeply. -/
inductive IsValue : List Char → Prop
  | null : IsValue ['n', 'u', 'l', 'l']
  | flag (b : Bool) : IsValue (if b then ['t', 'r', 'u', 'e'] else ['f', 'a', 'l', 's', 'e'])
  | number {t : NumberText} {cs : List Char} (h : t.WrittenAs cs) : IsValue cs
  | text {cs : List Char} (h : IsText cs) : IsValue cs
  | list {items parts : List (List Char)} {cs : List Char} (hitems : ∀ v ∈ items, IsValue v)
    (hparts : List.Forall₂ Padded items parts) (h : Bracketed '[' ']' parts cs) : IsValue cs
  | record {values parts : List (List Char)} {cs : List Char} (hvalues : ∀ v ∈ values, IsValue v)
    (hparts : List.Forall₂ (MemberWrittenAs IsText) values parts)
    (h : Bracketed '\x7B' '\x7D' parts cs) : IsValue cs

/-- Items of a list that are written in given ways. -/
def ListWrittenAs (items : List (List Char)) (cs : List Char) : Prop :=
  ∃ parts, List.Forall₂ Padded items parts ∧ Bracketed '[' ']' parts cs

/-- A name with a value that is written in a given way. -/
abbrev Member := String × List Char

/-- Members between braces, each with white space around its parts. -/
def RecordWrittenAs (members : List Member) (cs : List Char) : Prop :=
  ∃ parts, List.Forall₂ (fun m : Member => MemberWrittenAs (TextWrittenAs m.1) m.2) members parts ∧
    Bracketed '\x7B' '\x7D' parts cs

/-- The text of a record without white space. -/
def recordText (members : List Member) : List Char :=
  '\x7B' :: (withCommas (members.map fun m => '"' :: (m.1.toList ++ '"' :: ':' :: m.2)) ++ ['\x7D'])

/-- The plainest way to write a record, in which names need no escape. -/
theorem recordWrittenAs_recordText {members : List Member}
    (h : ∀ m ∈ members, m.1.toList.all (IsPlain ·) = true) :
    RecordWrittenAs members (recordText members) := by
  refine ⟨_, List.forall₂_map_right_iff.mpr (List.forall₂_same.mpr fun m hm => ?_), [],
    List.forall_mem_nil _, rfl⟩
  refine ⟨_, _, _, textWrittenAs_of_isPlain m.1 (h m hm), .refl _, .refl _, ?_⟩
  simp

/-- The members of a record with given names of fields: each is that of a field or has another name
and any value at all; no field has two members, and those that have to be there are. -/
structure AreMembers (names present : List String) (isField : String → List Char → Prop)
    (members : List Member) : Prop where
  value : ∀ m ∈ members, isField m.1 m.2 ∨ (m.1 ∉ names ∧ IsValue m.2)
  nodup : ((members.map (·.1)).filter fun n => n ∈ names).Nodup
  complete : ∀ n ∈ present, n ∈ members.map (·.1)

namespace Fields

/-- The names of the fields that must not be left out. -/
def requiredNames : Fields → List String
  | .nil => []
  | .required name _ rest => name :: rest.requiredNames
  | .mayMiss _ _ rest => rest.requiredNames

/-- The names of the fields that have a value. -/
def presentNames (fields : Fields) (x : fields.Carrier) : List String :=
  (fields.toMembers x).map (·.1)

end Fields

mutual

/-- A way to write a value of a shape. -/
def Shape.WrittenAs : (s : Shape) → s.Carrier → List Char → Prop
  | .text, content, cs => TextWrittenAs content cs
  | .real, x, cs => ∃ t : NumberText, t.WrittenAs cs ∧ realOfNumeral? t.value = some x
  | .flag, b, cs => cs = if b then ['t', 'r', 'u', 'e'] else ['f', 'a', 'l', 's', 'e']
  | .count, n, cs => ∃ t : NumberText, t.WrittenAs cs ∧ t.value = .natural n
  | .optional _, none, cs => cs = ['n', 'u', 'l', 'l']
  | .optional s, some x, cs => s.WrittenAs x cs
  | .list s, xs, cs => ∃ items, List.Forall₂ s.WrittenAs xs items ∧ ListWrittenAs items cs
  | .record _ fields, x, cs =>
    ∃ members, AreMembers fields.names (fields.presentNames x)
      (fun n v => fields.FieldWrittenAs n x v) members ∧ RecordWrittenAs members cs

/-- A way to write the value of the field with a name. -/
def Fields.FieldWrittenAs (name : String) : (fields : Fields) → fields.Carrier → List Char → Prop
  | .nil, _, _ => False
  | .required n s rest, (x, xs), cs =>
    if n = name then s.WrittenAs x cs else rest.FieldWrittenAs name xs cs
  | .mayMiss n s rest, (x, xs), cs =>
    if n = name then ∃ y, x = some y ∧ s.WrittenAs y cs else rest.FieldWrittenAs name xs cs

end

/-! ### Members too many or too few -/

/-- Members of a record in which one is given twice, perhaps with another value, or a required one
is left out, or the like has happened within the value of one. The mismatch is the one that names
the member. -/
inductive SpoiltMembers (fields : Fields)
    (isSpoilt : Mismatch → String → List Char → List Char → Prop) :
    Mismatch → List Member → List Member → Prop
  | repeated {before after : List Member} {n : String} {v : List Char} (y : fields.Carrier)
    (hn : n ∈ (before ++ after).map (·.1)) (hv : fields.FieldWrittenAs n y v) :
    SpoiltMembers fields isSpoilt (.duplicateField n) (before ++ after) (before ++ (n, v) :: after)
  | leftOut {before after : List Member} {n : String} {v : List Char}
    (hn : n ∈ fields.requiredNames) :
    SpoiltMembers fields isSpoilt (.missingField n) (before ++ (n, v) :: after) (before ++ after)
  | within {m : Mismatch} {before after : List Member} {n : String} {v v' : List Char}
    (h : isSpoilt m n v v') :
    SpoiltMembers fields isSpoilt m (before ++ (n, v) :: after) (before ++ (n, v') :: after)

mutual

/-- A way to write a value, and what becomes of it when in one of its records a member is repeated
or a required one left out. -/
def Shape.Spoilt (m : Mismatch) : (s : Shape) → s.Carrier → (cs cs' : List Char) → Prop
  | .text, _, _, _ | .real, _, _, _ | .flag, _, _, _ | .count, _, _, _ => False
  | .optional _, none, _, _ => False
  | .optional s, some x, cs, cs' => s.Spoilt m x cs cs'
  | .list s, xs, cs, cs' =>
    ∃ xs₁ x xs₂ items₁ item item' items₂, xs = xs₁ ++ x :: xs₂ ∧
      List.Forall₂ s.WrittenAs xs₁ items₁ ∧ s.Spoilt m x item item' ∧
      List.Forall₂ s.WrittenAs xs₂ items₂ ∧
      ListWrittenAs (items₁ ++ item :: items₂) cs ∧ ListWrittenAs (items₁ ++ item' :: items₂) cs'
  | .record _ fields, x, cs, cs' =>
    ∃ members members', AreMembers fields.names (fields.presentNames x)
        (fun n v => fields.FieldWrittenAs n x v) members ∧
      SpoiltMembers fields (fun m n v v' => fields.FieldSpoilt m n x v v') m members members' ∧
      RecordWrittenAs members cs ∧ RecordWrittenAs members' cs'

/-- The same for the value of the field with a name. -/
def Fields.FieldSpoilt (m : Mismatch) (name : String) :
    (fields : Fields) → fields.Carrier → (cs cs' : List Char) → Prop
  | .nil, _, _, _ => False
  | .required n s rest, (x, xs), cs, cs' =>
    if n = name then s.Spoilt m x cs cs' else rest.FieldSpoilt m name xs cs cs'
  | .mayMiss n s rest, (x, xs), cs, cs' =>
    if n = name then ∃ y, x = some y ∧ s.Spoilt m y cs cs' else rest.FieldSpoilt m name xs cs cs'

end

end Waterworks.Json
