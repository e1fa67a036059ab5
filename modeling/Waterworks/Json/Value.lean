import Waterworks.Json.Token

namespace Waterworks.Json

/-!
# JSON values

* `Value` — a value, with the members of a record in an order.
* `Value.compact` — its text without blanks.
* `Value.pretty` — its text on several lines, each level indented by two blanks.
* `Value.ofDocument?` — the value that a document spells, with the members of each record by name.
-/

/-- A document as a value. The members of a record keep the order in which they were written. -/
inductive Value where
  | null
  | flag (b : Bool)
  | number (n : Numeral)
  | text (s : String)
  | list (items : List Value)
  | record (members : List (String × Value))

/-! ### Texts -/

/-- The escape of a control character that has no letter: four hexadecimal digits. -/
def controlEscape (c : Char) : List Char :=
  let digits := Nat.toDigits 16 c.toNat
  '\\' :: 'u' :: List.replicate (4 - digits.length) '0' ++ digits

/-- How a character is written in a text. -/
def escapeChar (c : Char) : List Char :=
  if c == '"' then ['\\', '"']
  else if c == '\\' then ['\\', '\\']
  else if c == '\x08' then ['\\', 'b']
  else if c == '\t' then ['\\', 't']
  else if c == '\n' then ['\\', 'n']
  else if c == '\x0C' then ['\\', 'f']
  else if c == '\r' then ['\\', 'r']
  else if c.toNat < 0x20 then controlEscape c
  else [c]

/-- The characters of a text between quotes. -/
def quoteText (s : String) : List Char :=
  '"' :: s.toList.flatMap escapeChar ++ ['"']

/-- Several texts with a comma after each but the last. -/
def withCommas : List (List Char) → List Char
  | [] => []
  | [t] => t
  | t :: rest => t ++ ',' :: withCommas rest

/-- A new line with an indent of two blanks per level. -/
def newLine (level : Nat) : List Char :=
  '\n' :: List.replicate (2 * level) ' '

namespace Value

/-! ### Printing -/

mutual

/-- A value without white space. -/
def compactChars : Value → List Char
  | null => ['n', 'u', 'l', 'l']
  | flag true => ['t', 'r', 'u', 'e']
  | flag false => ['f', 'a', 'l', 's', 'e']
  | number n => n.text.toList
  | text s => quoteText s
  | list items => '[' :: withCommas (compactItems items) ++ [']']
  | record members => '\x7B' :: withCommas (compactMembers members) ++ ['\x7D']

/-- The items of a list, each without white space. -/
def compactItems : List Value → List (List Char)
  | [] => []
  | v :: rest => v.compactChars :: compactItems rest

/-- The members of a record, each without white space. -/
def compactMembers : List (String × Value) → List (List Char)
  | [] => []
  | (name, v) :: rest => (quoteText name ++ ':' :: v.compactChars) :: compactMembers rest

end

/-- The text of a value without blanks. -/
def compact (v : Value) : String :=
  String.ofList v.compactChars

/-- Items on lines of their own between brackets; brackets without items stay together. -/
def bracket (opening closing : Char) (level : Nat) (items : List (List Char)) : List Char :=
  if items.isEmpty then [opening, closing]
  else
    opening :: withCommas (items.map (newLine (level + 1) ++ ·)) ++ newLine level ++ [closing]

mutual

/-- A value over several lines, indented by its level. -/
def prettyChars (level : Nat) : Value → List Char
  | list items => bracket '[' ']' level (prettyItems (level + 1) items)
  | record members => bracket '\x7B' '\x7D' level (prettyMembers (level + 1) members)
  | null => ['n', 'u', 'l', 'l']
  | flag true => ['t', 'r', 'u', 'e']
  | flag false => ['f', 'a', 'l', 's', 'e']
  | number n => n.text.toList
  | text s => quoteText s

/-- The items of a list at a level. -/
def prettyItems (level : Nat) : List Value → List (List Char)
  | [] => []
  | v :: rest => v.prettyChars level :: prettyItems level rest

/-- The members of a record at a level. -/
def prettyMembers (level : Nat) : List (String × Value) → List (List Char)
  | [] => []
  | (name, v) :: rest =>
    (quoteText name ++ ':' :: ' ' :: v.prettyChars level) :: prettyMembers level rest

end

/-- The text of a value on several lines. -/
def pretty (v : Value) : String :=
  String.ofList (v.prettyChars 0)

/-! ### Reading -/

/-- Puts a member among members in the order of their names, in place of one with its name. -/
def putMember (name : String) (v : Value) : List (String × Value) → List (String × Value)
  | [] => [(name, v)]
  | (other, w) :: rest =>
    if name < other then (name, v) :: (other, w) :: rest
    else if name == other then (name, v) :: rest
    else (other, w) :: putMember name v rest

/-- A list or record that is being read, with what came before in it: the items of a list latest
first, the members of a record in the order of their names. -/
inductive Partial where
  | list (items : List Value)
  | record (members : List (String × Value)) (name : String)

/-- Where a document stands between two tokens. -/
inductive Point where
  /-- A value follows. -/
  | value
  /-- A value or the end of an empty list follows. -/
  | item
  /-- The name of a member follows; `mayEnd` says whether the record may end instead. -/
  | name (members : List (String × Value)) (mayEnd : Bool)
  | colon
  /-- A value has been read. -/
  | after (v : Value)

/-- The value of a token that is a value by itself. -/
def ofToken? : Token → Option Value
  | .null => some null
  | .flag b => some (flag b)
  | .number .tooLarge => none
  | .number n => some (number n)
  | .text content => content.map text
  | _ => none

/-- Where a document stands after a token at which a value begins. -/
def begin? (outer : List Partial) : Token → Option (Point × List Partial)
  | .openList => some (.item, .list [] :: outer)
  | .openRecord => some (.name [] true, outer)
  | t => (ofToken? t).map fun v => (.after v, outer)

/-- Where a document stands after one more token; `outer` are the lists and records around it. -/
def next? : Point → (outer : List Partial) → Token → Option (Point × List Partial)
  | .value, outer, t => begin? outer t
  | .item, .list items :: outer, .closeList => some (.after (.list items.reverse), outer)
  | .item, outer, t => begin? outer t
  | .name members _, outer, .text (some name) => some (.colon, .record members name :: outer)
  | .name _ true, outer, .closeRecord => some (.after (.record []), outer)
  | .name _ _, _, _ => none
  | .colon, outer, .colon => some (.value, outer)
  | .colon, _, _ => none
  | .after v, .list items :: outer, .comma => some (.value, .list (v :: items) :: outer)
  | .after v, .list items :: outer, .closeList => some (.after (.list (v :: items).reverse), outer)
  | .after v, .record members name :: outer, .comma =>
    some (.name (putMember name v members) false, outer)
  | .after v, .record members name :: outer, .closeRecord =>
    some (.after (.record (putMember name v members)), outer)
  | .after _, _, _ => none

/-- The value that the rest of a document completes. -/
def ofTokens? : Point → (outer : List Partial) → List Token → Option Value
  | .after v, [], [] => some v
  | _, _, [] => none
  | point, outer, t :: rest =>
    match next? point outer t with
    | none => none
    | some (point, outer) => ofTokens? point outer rest

/-- The value that a document spells, with the members of each record in the order of their names;
of several with one name the last counts. -/
def ofDocument? (document : String) : Option Value :=
  ofTokens? .value [] (tokens document)

/-! ### Access -/

/-- The member of a record with a name. -/
def member? (name : String) : Value → Option Value
  | record members => members.lookup name
  | _ => none

/-- The text of a value, if it is one. -/
def text? : Value → Option String
  | text s => some s
  | _ => none

/-- The flag of a value, if it is one. -/
def flag? : Value → Option Bool
  | flag b => some b
  | _ => none

/-- The items of a value, if it is a list. -/
def list? : Value → Option (List Value)
  | list items => some items
  | _ => none

end Value

end Waterworks.Json
