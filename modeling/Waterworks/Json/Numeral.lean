import Waterworks.Decimal.Binary64

namespace Waterworks.Json

open Waterworks.Decimal

/-!
# Numbers in JSON

* `Fault` — how a text can fail to be a document.
* `Numeral` — the value of a number: a natural number or a negative integer of 64 bits, or else a
  floating-point number.
* `NumberText` — the digits of a number as they are written.
* `NumberText.value` — its value; `Numeral.tooLarge` if it is beyond all floating-point numbers.
* `NumberText.read` — splits a number off a text.
-/

/-- How a text can fail to be a document: something else stands where it should go on, or it ends
too early. -/
inductive Fault where
  | malformed | unfinished
  deriving DecidableEq, Repr

/-- The value of a number in a document. -/
inductive Numeral where
  | natural (n : Nat)
  /-- A negative integer, given by its absolute value. -/
  | negative (n : Nat)
  | real (x : Binary64)
  | tooLarge
  deriving DecidableEq, Repr

/-- A number as it is written: its sign, the digits before and after the point, and the sign and
digits of its exponent. -/
structure NumberText where
  negative : Bool
  whole : List Char
  fraction : Option (List Char)
  exponent : Option (Bool × List Char)
  deriving DecidableEq, Repr

namespace NumberText

/-! ### The value -/

/-- The value of a decimal digit. -/
def digitValue (c : Char) : Nat := c.toNat - '0'.toNat

/-- The largest natural number of 64 bits. -/
def maxNatural : Nat := Nat.pow 2 64 - 1

/-- Appends digits to a significand as long as it stays within 64 bits; also the digits that are
left over. -/
def appendDigits : (significand : Nat) → List Char → Nat × List Char
  | s, [] => (s, [])
  | s, c :: rest =>
    let next := s * 10 + digitValue c
    if next ≤ maxNatural then appendDigits next rest else (s, c :: rest)

/-- The exponent that digits write, or `none` beyond 31 bits. -/
def exponentOf? (digits : List Char) : Option Nat :=
  digits.foldlM (fun e c =>
    let next := e * 10 + digitValue c
    if next < Nat.pow 2 31 then some next else none) 0

/-- A real number with a significand and an exponent. -/
def realOf (negative : Bool) (significand : Nat) (exponent : Int) : Numeral :=
  match Binary64.scaled? negative significand exponent with
  | some x => .real x
  | none => .tooLarge

/-- The value of an integer that fits into 64 bits without its sign. Negative zero, and a negative
integer of more than 64 bits, is a real number. -/
def integerOf (negative : Bool) (n : Nat) : Numeral :=
  if !negative then .natural n
  else if n == 0 || Nat.pow 2 63 < n then realOf true n 0
  else .negative n

/-- The value of a number. Digits beyond 64 bits of significand count as zeros before the point and
are dropped after it. -/
def value (t : NumberText) : Numeral :=
  let (significand, left) := appendDigits 0 t.whole
  match left, t.fraction, t.exponent with
  | [], none, none => integerOf t.negative significand
  | _, _, _ =>
    let fraction := t.fraction.getD []
    let (significand, dropped) := appendDigits significand fraction
    let place : Int := left.length - (fraction.length - dropped.length : Nat)
    match t.exponent with
    | none => realOf t.negative significand place
    | some (lower, digits) =>
      match exponentOf? digits with
      | some e => realOf t.negative significand (if lower then place - e else place + e)
      | none =>
        if significand == 0 || lower then .real (.ofMagnitude t.negative 0) else .tooLarge

/-! ### Reading -/

/-- The digits at the beginning of a text and what follows them. -/
def spanDigits (cs : List Char) : List Char × List Char :=
  cs.span Char.isDigit

/-- The fault of a text that should go on with a digit. -/
def faultAt : List Char → Fault
  | [] => .unfinished
  | _ => .malformed

/-- Reads the digits before the point. Only zero itself begins with a zero. -/
def readWhole (cs : List Char) : Except Fault (List Char × List Char) :=
  match spanDigits cs with
  | ([], rest) => .error (faultAt rest)
  | ('0' :: _ :: _, _) => .error .malformed
  | (digits, rest) => .ok (digits, rest)

/-- Reads a point and the digits after it, if there is a point. -/
def readFraction : List Char → Except Fault (Option (List Char) × List Char)
  | '.' :: cs =>
    match spanDigits cs with
    | ([], rest) => .error (faultAt rest)
    | (digits, rest) => .ok (some digits, rest)
  | cs => .ok (none, cs)

/-- Reads the sign and the digits of an exponent after its letter. -/
def readSignedDigits (cs : List Char) : Except Fault (Option (Bool × List Char) × List Char) :=
  let (lower, cs) :=
    match cs with
    | '+' :: rest => (false, rest)
    | '-' :: rest => (true, rest)
    | cs => (false, cs)
  match spanDigits cs with
  | ([], rest) => .error (faultAt rest)
  | (digits, rest) => .ok (some (lower, digits), rest)

/-- Reads an exponent, if there is one. -/
def readExponent : List Char → Except Fault (Option (Bool × List Char) × List Char)
  | 'e' :: cs => readSignedDigits cs
  | 'E' :: cs => readSignedDigits cs
  | cs => .ok (none, cs)

/-- Reads a number without its sign. -/
def readUnsigned (negative : Bool) (cs : List Char) : Except Fault (NumberText × List Char) := do
  let (whole, rest) ← readWhole cs
  let (fraction, rest) ← readFraction rest
  let (exponent, rest) ← readExponent rest
  return (⟨negative, whole, fraction, exponent⟩, rest)

/-- Reads a number, which begins with a digit or a hyphen. -/
def read : List Char → Except Fault (NumberText × List Char)
  | '-' :: cs => readUnsigned true cs
  | cs => readUnsigned false cs

end NumberText

/-! ### Text -/

namespace Numeral

/-- The text of a number; one that is too large has been refused before it is written. -/
def text : Numeral → String
  | natural n => toString n
  | negative n => "-" ++ toString n
  | real x => x.text
  | tooLarge => "0"

end Numeral

end Waterworks.Json
