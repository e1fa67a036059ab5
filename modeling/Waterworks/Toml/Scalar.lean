import Waterworks.Decimal.Binary64

namespace Waterworks.Toml

/-!
# Numbers, truth values and dates of TOML

* `Value` — the values of a document. Where no configuration holds a value, only its type is kept.
* `Value.ofWord?` — the value that is written without quotes or brackets.
* `isMoment` — the grammar of dates and times.
-/

/-- A value of a document. -/
inductive Value where
  | text (s : String)
  | integer (n : Int)
  | flag (b : Bool)
  | real
  | moment
  | list
  | table
  deriving DecidableEq, Repr

/-! ### Digits -/

/-- The value of a digit in a base up to sixteen. -/
def digitIn? (base : Nat) (c : Char) : Option Nat :=
  let value :=
    if c.isDigit then c.toNat - '0'.toNat
    else if 'a' ≤ c ∧ c ≤ 'f' then c.toNat - 'a'.toNat + 10
    else if 'A' ≤ c ∧ c ≤ 'F' then c.toNat - 'A'.toNat + 10
    else 16
  if value < base then some value else none

/-- The number that digits write; a single low line may stand between two digits. `mayPause` says
whether a low line may come next. -/
def numberIn? (base : Nat) : (mayPause : Bool) → (value : Nat) → List Char → Option Nat
  | mayPause, value, [] => if mayPause then some value else none
  | mayPause, value, c :: rest =>
    if c == '_' then (if mayPause then numberIn? base false value rest else none)
    else
      match digitIn? base c with
      | some d => numberIn? base true (value * base + d) rest
      | none => none

/-- The number that digits write in a base; there is at least one. -/
def digits? (base : Nat) (cs : List Char) : Option Nat :=
  numberIn? base false 0 cs

/-- Whether digits have no zero in front of them, except for zero itself. -/
def isPlain : List Char → Bool
  | '0' :: _ :: _ => false
  | _ => true

/-- A sign and what follows it; says whether the sign is a hyphen. -/
def splitSign : List Char → Bool × List Char
  | '+' :: rest => (false, rest)
  | '-' :: rest => (true, rest)
  | cs => (false, cs)

/-! ### Integers -/

/-- Whether an integer can be held in 128 bits, with or without a sign. -/
def isInRange (n : Int) : Bool :=
  -(Nat.pow 2 127) ≤ n && n < Nat.pow 2 128

/-- The integer that a word writes. -/
def integer? (word : List Char) : Option Int :=
  match word with
  | '0' :: 'x' :: rest => (digits? 16 rest).map fun n => n
  | '0' :: 'o' :: rest => (digits? 8 rest).map fun n => n
  | '0' :: 'b' :: rest => (digits? 2 rest).map fun n => n
  | word =>
    let (negative, rest) := splitSign word
    if isPlain rest then (digits? 10 rest).map fun n => if negative then -n else n else none

/-! ### Real numbers -/

/-- A word cut at its exponent mark, if it has one. -/
def splitExponent (word : List Char) : List Char × Option (List Char) :=
  match word.span fun c => c != 'e' && c != 'E' with
  | (word, []) => (word, none)
  | (word, _ :: exponent) => (word, some exponent)

/-- The exponent that is written after its mark. -/
def exponent? (cs : List Char) : Option Int :=
  let (negative, cs) := splitSign cs
  (digits? 10 cs).map fun n => if negative then -n else n

/-- Whether `digits` times ten to the power `place` is less than what numbers of 64 bits can
hold. -/
def isFinite (digits : Nat) (place : Int) : Bool :=
  let first := ((Nat.toDigits 10 digits).length : Int) + place
  if digits == 0 || first < 300 then true
  else if 310 < first then false
  else
    let (num, den) :=
      if 0 ≤ place then (digits * Nat.pow 10 place.toNat, 1)
      else (digits, Nat.pow 10 (-place).toNat)
    (Decimal.Binary64.roundMagnitude num den).isSome

/-- Whether a word writes a real number that is not too large. -/
def isReal (word : List Char) : Bool :=
  let (_, word) := splitSign word
  if word == ['i', 'n', 'f'] || word == ['n', 'a', 'n'] then true
  else
    let (mantissa, exponent) := splitExponent word
    let (whole, fraction) :=
      match mantissa.span (· != '.') with
      | (whole, []) => (whole, none)
      | (whole, _ :: fraction) => (whole, some fraction)
    let digitCount := (fraction.getD []).countP Char.isDigit
    match digits? 10 whole, fraction.map (digits? 10), exponent.map exponent? with
    | _, none, none => false
    | none, _, _ | _, some none, _ | _, _, some none => false
    | some w, f, e =>
      let digits := w * Nat.pow 10 digitCount + (f.join.getD 0)
      isPlain whole && isFinite digits (e.join.getD 0 - digitCount)

/-! ### Dates and times -/

/-- The number that exactly `count` digits write, and what follows them. -/
def fixedDigits? : (count : Nat) → (value : Nat) → List Char → Option (Nat × List Char)
  | 0, value, cs => some (value, cs)
  | _ + 1, _, [] => none
  | count + 1, value, c :: rest =>
    if c.isDigit then fixedDigits? count (value * 10 + (c.toNat - '0'.toNat)) rest else none

/-- Every fourth year, except for three in four centuries. -/
def isLeapYear (year : Nat) : Bool :=
  year % 4 == 0 && (year % 100 != 0 || year % 400 == 0)

/-- The number of days of a month. -/
def daysIn (year month : Nat) : Nat :=
  if month == 2 then (if isLeapYear year then 29 else 28)
  else if month == 4 || month == 6 || month == 9 || month == 11 then 30
  else 31

/-- What follows a date. -/
def afterDate? (cs : List Char) : Option (List Char) := do
  let (year, cs) ← fixedDigits? 4 0 cs
  let '-' :: cs := cs | none
  let (month, cs) ← fixedDigits? 2 0 cs
  let '-' :: cs := cs | none
  let (day, cs) ← fixedDigits? 2 0 cs
  if 1 ≤ month && month ≤ 12 && 1 ≤ day && day ≤ daysIn year month then some cs else none

/-- What follows the seconds of a time with their fraction, if there are any. -/
def afterSeconds? : List Char → Option (List Char)
  | ':' :: cs => do
    let (second, cs) ← fixedDigits? 2 0 cs
    if 60 < second then none
    else
      match cs with
      | '.' :: cs =>
        match cs.span Char.isDigit with
        | ([], _) => none
        | (_, cs) => some cs
      | cs => some cs
  | cs => some cs

/-- What follows an hour and a minute. -/
def afterMinutes? (cs : List Char) : Option (List Char) := do
  let (hour, cs) ← fixedDigits? 2 0 cs
  let ':' :: cs := cs | none
  let (minute, cs) ← fixedDigits? 2 0 cs
  if hour ≤ 23 && minute ≤ 59 then some cs else none

/-- What follows a time. -/
def afterTime? (cs : List Char) : Option (List Char) := do
  afterSeconds? (← afterMinutes? cs)

/-- What follows the distance from universal time, if it is given. -/
def afterOffset? : List Char → Option (List Char)
  | 'Z' :: cs | 'z' :: cs => some cs
  | '+' :: cs | '-' :: cs => afterMinutes? cs
  | cs => some cs

/-- Whether a word is a date, a time, or both with the letter T or a blank between them. -/
def isMoment (word : List Char) : Bool :=
  match afterDate? word with
  | some [] => true
  | some (c :: rest) =>
    (c == 'T' || c == 't' || c == ' ') && (afterTime? rest).bind afterOffset? == some []
  | none => afterTime? word == some []

/-! ### Words -/

/-- The value of a word without quotes or brackets. -/
def Value.ofWord? (word : List Char) : Option Value :=
  if word == ['t', 'r', 'u', 'e'] then some (.flag true)
  else if word == ['f', 'a', 'l', 's', 'e'] then some (.flag false)
  else
    match integer? word with
    | some n => if isInRange n then some (.integer n) else none
    | none =>
      if isReal word then some .real
      else if isMoment word then some .moment
      else none

/-- The characters of words. -/
def isWordChar (c : Char) : Bool :=
  c.isAlphanum || c == '+' || c == '-' || c == '.' || c == ':' || c == '_'

/-- Whether a word is a date that a time may follow after a blank. -/
def isDateOnly (word : List Char) : Bool :=
  word.length == 10 && (afterDate? word).isSome

/-- Reads a word. -/
def readWord (cs : List Char) : List Char × List Char :=
  let (word, rest) := cs.span isWordChar
  match isDateOnly word, rest with
  | true, ' ' :: d :: more =>
    if d.isDigit then
      let (time, rest) := (d :: more).span isWordChar
      (word ++ ' ' :: time, rest)
    else (word, rest)
  | _, _ => (word, rest)

end Waterworks.Toml
