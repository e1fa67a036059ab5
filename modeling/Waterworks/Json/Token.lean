import Waterworks.Json.Numeral
import Waterworks.Unicode.CodePoints

namespace Waterworks.Json

open Waterworks.Unicode

/-!
# Tokens of JSON

A document is cut into tokens before it is read. Some tokens are in order as long as nobody looks
into them: a number may be too large, and a text may have surrogates that do not pair up. A text
that cannot be cut any further ends with a token for the fault.

* `Token` — a token.
* `readText` — a text up to its closing quote.
* `tokens` — the tokens of a document.
* `skipValue` — what follows a value that nobody looks into, however deeply it is nested.
-/

/-- A token of a document. -/
inductive Token where
  | openList | closeList | openRecord | closeRecord | colon | comma
  | null
  | flag (b : Bool)
  | number (n : Numeral)
  /-- A text, or nothing if its surrogates do not pair up. -/
  | text (content : Option String)
  /-- A fault: as it shows when the token is read, and when it is skipped. It `beginsText` if it
  follows a quote. -/
  | bad (beginsText : Bool) (whenRead whenSkipped : Fault)
  deriving DecidableEq, Repr

/-! ### Texts -/

/-- The result of reading a text: what the text is when it is read, and what follows it. -/
inductive TextReading where
  | done (content : Option (List Char)) (rest : List Char)
  | failed (whenRead whenSkipped : Fault)

/-- Four hexadecimal digits. A text that is too short to hold them ends too early. -/
def readUnit : List Char → Except Fault (Nat × List Char)
  | a :: b :: c :: d :: rest =>
    match CodePoints.hexDigit? a, CodePoints.hexDigit? b, CodePoints.hexDigit? c,
        CodePoints.hexDigit? d with
    | some a, some b, some c, some d => .ok (((a * 16 + b) * 16 + c) * 16 + d, rest)
    | _, _, _, _ => .error .malformed
  | cs =>
    -- Bytes are counted here, of which a character may have several.
    if cs.foldl (fun size c => size + c.utf8Size) 0 < 4 then .error .unfinished
    else .error .malformed

/-- The characters that one letter after a backslash stands for. -/
def escapeOfLetter? : Char → Option Char
  | '"' => some '"'
  | '\\' => some '\\'
  | '/' => some '/'
  | 'b' => some '\x08'
  | 'f' => some '\x0C'
  | 'n' => some '\n'
  | 'r' => some '\r'
  | 't' => some '\t'
  | _ => none

/-- The first half of a pair. -/
def isHighSurrogate (n : Nat) : Bool := 0xD800 ≤ n && n ≤ 0xDBFF

/-- The second half of a pair. -/
def isLowSurrogate (n : Nat) : Bool := 0xDC00 ≤ n && n ≤ 0xDFFF

/-- The character of a pair of surrogates. -/
def ofSurrogates (high low : Nat) : Char :=
  Char.ofNat (0x10000 + (high - 0xD800) * 0x400 + (low - 0xDC00))

/-- What has been read of a text: its characters, latest first, and how the next unit is to be
taken. -/
structure TextState where
  read : List Char
  /-- Whether surrogates have failed to pair up. -/
  broken : Bool
  /-- A high surrogate that the last escape gave. -/
  high : Option Nat

namespace TextState

/-- Nothing has been read yet, and no half of a pair is pending. -/
def initial : TextState := ⟨[], false, none⟩

/-- Adds a character. A high surrogate before it stays alone. -/
def push (s : TextState) (c : Char) : TextState :=
  ⟨c :: s.read, s.broken || s.high.isSome, none⟩

/-- Adds a unit that an escape gives. -/
def pushUnit (s : TextState) (n : Nat) : TextState :=
  match s.high with
  | some h =>
    -- The half that was waiting finds its other half, or stays alone together with this unit.
    if isLowSurrogate n then ⟨ofSurrogates h n :: s.read, s.broken, none⟩
    else { s with broken := true, high := none }
  | none =>
    if isHighSurrogate n then { s with high := some n }
    else if isLowSurrogate n then { s with broken := true }
    else s.push (Char.ofNat n)

/-- The text that ends here. -/
def finish (s : TextState) (rest : List Char) : TextReading :=
  .done (if s.broken || s.high.isSome then none else some s.read.reverse) rest

/-- The text that breaks off here. Surrogates that had failed to pair up show first. -/
def fail (s : TextState) (pairIsOpen : Bool) (f : Fault) : TextReading :=
  .failed (if s.broken || (s.high.isSome && !pairIsOpen) then .malformed else f) f

end TextState

/-- Reads a text after its opening quote; each round takes at least one character. -/
def readText : (fuel : Nat) → TextState → List Char → TextReading
  | 0, s, _ => s.fail true .unfinished
  | fuel + 1, s, cs =>
    match cs with
    | [] => s.fail true .unfinished
    | '"' :: rest => s.finish rest
    | ['\\'] => s.fail true .unfinished
    | '\\' :: 'u' :: rest =>
      match readUnit rest with
      | .error f => s.fail true f
      | .ok (n, rest) => readText fuel (s.pushUnit n) rest
    | '\\' :: c :: rest =>
      match escapeOfLetter? c with
      | some c => readText fuel (s.push c) rest
      | none => s.fail false .malformed
    | c :: rest =>
      if c.toNat < 0x20 then s.fail false .malformed else readText fuel (s.push c) rest

/-! ### Documents -/

/-- The white space of JSON. -/
def isSpace (c : Char) : Bool :=
  c == ' ' || c == '\t' || c == '\n' || c == '\r'

/-- Drops the letters of a word; the fault is that of the first letter that is missing. -/
def expect : (word : List Char) → List Char → Except Fault (List Char)
  | [], cs => .ok cs
  | _ :: _, [] => .error .unfinished
  | w :: word, c :: rest => if w == c then expect word rest else .error .malformed

/-- The token of a word whose first letter has been seen. -/
def wordToken (word : String) (token : Token) (rest : List Char) : Token × List Char :=
  match expect (word.toList.drop 1) rest with
  | .ok rest => (token, rest)
  | .error f => (.bad false f f, [])

/-- The token that begins with `c`, and what follows it. -/
def nextToken (c : Char) (rest : List Char) : Token × List Char :=
  match c with
  | '[' => (.openList, rest)
  | ']' => (.closeList, rest)
  | '\x7B' => (.openRecord, rest)
  | '\x7D' => (.closeRecord, rest)
  | ':' => (.colon, rest)
  | ',' => (.comma, rest)
  | 'n' => wordToken "null" .null rest
  | 't' => wordToken "true" (.flag true) rest
  | 'f' => wordToken "false" (.flag false) rest
  | '"' =>
    match readText (rest.length + 1) .initial rest with
    | .done content rest => (.text (content.map String.ofList), rest)
    -- Nothing behind a fault is looked at, so there are no tokens after it.
    | .failed whenRead whenSkipped => (.bad true whenRead whenSkipped, [])
  | c =>
    if c == '-' || c.isDigit then
      match NumberText.read (c :: rest) with
      | .ok (t, rest) => (.number t.value, rest)
      | .error f => (.bad false f .malformed, [])
    else (.bad false .malformed .malformed, [])

/-- The tokens of a text; each round takes at least one character. -/
def tokensFrom : (fuel : Nat) → List Char → List Token
  | 0, _ => []
  | fuel + 1, cs =>
    match cs.dropWhile isSpace with
    | [] => []
    | c :: rest =>
      let (token, rest) := nextToken c rest
      token :: tokensFrom fuel rest

/-- The tokens of a document. -/
def tokens (document : String) : List Token :=
  let cs := document.toList
  tokensFrom (cs.length + 1) cs

/-! ### Skipping a value -/

/-- Where a skipped value stands between two tokens. -/
inductive SkipPoint where
  /-- A value follows. -/
  | value
  /-- A list or record has begun. -/
  | first
  /-- The name of a member follows. -/
  | name
  | colon
  /-- A value inside of a list or record has ended. -/
  | after
  deriving DecidableEq, Repr

/-- The lists and records that are open, the innermost first. -/
inductive Nest where
  | list | record
  deriving DecidableEq, Repr

/-- The result of one more token: the value goes on, has ended, or is at fault. -/
inductive SkipStep where
  | goOn (point : SkipPoint) (nests : List Nest)
  | done
  | failed (f : Fault)

namespace SkipStep

/-- What comes after a value. -/
def afterValue : List Nest → SkipStep
  | [] => done
  | nests => goOn .after nests

/-- A token where a value should begin. -/
def value (nests : List Nest) : Token → SkipStep
  | .null | .flag _ | .number _ | .text _ => afterValue nests
  | .openList => goOn .first (.list :: nests)
  | .openRecord => goOn .first (.record :: nests)
  | .bad _ _ whenSkipped => failed whenSkipped
  | .closeList | .closeRecord | .colon | .comma => failed .malformed

/-- A token where the name of a member should stand. -/
def name (nests : List Nest) : Token → SkipStep
  | .text _ => goOn .colon nests
  | .bad true _ whenSkipped => failed whenSkipped
  | _ => failed .malformed

/-- One more token of a skipped value. -/
def next : SkipPoint → List Nest → Token → SkipStep
  | .value, nests, t => value nests t
  | .first, .list :: nests, .closeList => afterValue nests
  | .first, .record :: nests, .closeRecord => afterValue nests
  | .first, .record :: nests, t => name (.record :: nests) t
  | .first, nests, t => value nests t
  | .name, nests, t => name nests t
  | .colon, nests, .colon => goOn .value nests
  | .colon, _, _ => failed .malformed
  | .after, .list :: nests, .comma => goOn .value (.list :: nests)
  | .after, .record :: nests, .comma => goOn .name (.record :: nests)
  | .after, .list :: nests, .closeList => afterValue nests
  | .after, .record :: nests, .closeRecord => afterValue nests
  | .after, _, _ => failed .malformed

end SkipStep

/-- Skips to the end of a value. -/
def skipFrom : SkipPoint → List Nest → List Token → Except Fault (List Token)
  | _, _, [] => .error .unfinished
  | point, nests, t :: rest =>
    match SkipStep.next point nests t with
    | .goOn point nests => skipFrom point nests rest
    | .done => .ok rest
    | .failed f => .error f

/-- Skips a value. -/
def skipValue (ts : List Token) : Except Fault (List Token) :=
  skipFrom .value [] ts

end Waterworks.Json
