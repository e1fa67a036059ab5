namespace Waterworks.Decimal

/-!
# Floating-point numbers

A number is held as its 64 bits in the binary64 format. Arithmetic is exact on quotients of natural
numbers and is rounded once, to the nearest number and to the even one of two that are as near.

* `Binary64` — a number.
* `Binary64.roundRatio` — the number nearest to a quotient; `none` beyond the largest one.
* `Binary64.mul?`, `Binary64.div?` — products and quotients of positive numbers.
* `Binary64.scaled?` — a natural number times a power of ten, rounded as decimal numbers are read.
* `shortestDigits` — the fewest digits that read back as a number, nearest to it among these.
* `Binary64.text` — the number written with these digits.
-/

/-- A floating-point number in the binary64 format. -/
structure Binary64 where
  bits : UInt64
  deriving DecidableEq, Repr

namespace Binary64

/-- The bit of the sign. -/
def signBit : Nat := Nat.pow 2 63

/-- The number of magnitudes that share an exponent. -/
def binade : Nat := Nat.pow 2 52

/-- The bits of infinity, which are those of the first magnitude that is too large. -/
def infinityBits : Nat := 0x7FF * binade

/-- Positive zero. -/
def zero : Binary64 := ⟨0⟩

/-- The number with a sign and a magnitude. -/
def ofMagnitude (negative : Bool) (magnitude : Nat) : Binary64 :=
  ⟨UInt64.ofNat (magnitude + if negative then signBit else 0)⟩

/-- The bits without the sign. -/
def magnitude (x : Binary64) : Nat :=
  x.bits.toNat % signBit

/-- Whether the sign bit is set, as it is for negative zero too. -/
def isNegative (x : Binary64) : Bool :=
  signBit ≤ x.bits.toNat

/-- Whether the bits stand for something that is no number. -/
def isNaN (x : Binary64) : Bool :=
  infinityBits < x.magnitude

/-- The number with the other sign. -/
def neg (x : Binary64) : Binary64 :=
  ofMagnitude (!x.isNegative) x.magnitude

/-- The number itself, except that negative zero becomes zero. -/
def unsignedZero (x : Binary64) : Binary64 :=
  if x.magnitude == 0 then zero else x

/-! ### Quotients -/

/-- A quotient of natural numbers, rounded to the nearest one and to even in the middle. -/
def divRound (num den : Nat) : Nat :=
  let q := num / den
  let twice := 2 * (num % den)
  -- The remainder is compared with one half; in the middle the even neighbour is taken.
  if twice < den then q
  else if den < twice then q + 1
  else q + q % 2

/-- The largest `k` for which two to the power `k` is at most `num / den`, both being positive. -/
def log2Ratio (num den : Nat) : Int :=
  let guess : Int := (num.log2 : Int) - (den.log2 : Int)
  -- The lengths give the logarithm or one more.
  let tooLarge :=
    if 0 ≤ guess then num < den * Nat.pow 2 guess.toNat else num * Nat.pow 2 (-guess).toNat < den
  if tooLarge then guess - 1 else guess

/-- The exponent of the last place of numbers near `num / den`. -/
def lastPlace (num den : Nat) : Int :=
  max (log2Ratio num den - 52) (-1074)

/-- The magnitude nearest to `num / den`; `none` if that is too large to be finite. -/
def roundMagnitude (num den : Nat) : Option Nat :=
  if num == 0 then some 0
  else
    let e := lastPlace num den
    let q :=
      if 0 ≤ e then divRound num (den * Nat.pow 2 e.toNat)
      else divRound (num * Nat.pow 2 (-e).toNat) den
    -- Rounding up may reach the next binade, which the sum carries over.
    let bits := (e + 1074).toNat * binade + q
    if bits < infinityBits then some bits else none

/-- The number nearest to `num / den`, if it is finite. -/
def roundRatio (num den : Nat) : Option Binary64 :=
  (roundMagnitude num den).map (ofMagnitude false)

/-- The value of a finite magnitude as a numerator and a denominator. -/
def ratioOf (magnitude : Nat) : Nat × Nat :=
  let place := magnitude / binade
  let digits := magnitude % binade
  -- Subnormal numbers have no hidden digit.
  if place == 0 then (digits, Nat.pow 2 1074)
  else if 1075 ≤ place then ((binade + digits) * Nat.pow 2 (place - 1075), 1)
  else (binade + digits, Nat.pow 2 (1075 - place))

/-! ### Arithmetic on positive numbers -/

/-- The product of two magnitudes, if it is finite. -/
def mul? (x y : Nat) : Option Nat :=
  let (a, b) := ratioOf x
  let (c, d) := ratioOf y
  roundMagnitude (a * c) (b * d)

/-- The quotient of two magnitudes, if it is finite. -/
def div? (x y : Nat) : Option Nat :=
  let (a, b) := ratioOf x
  let (c, d) := ratioOf y
  roundMagnitude (a * d) (b * c)

/-- The magnitude of the power of ten with an exponent up to 308. -/
def powerOfTen (k : Nat) : Nat :=
  (roundMagnitude (Nat.pow 10 k) 1).getD 0

/-- The magnitude for `significand` times ten to the power `exponent`. The significand is rounded,
then multiplied or divided by a rounded power of ten, in steps of 308 digits where the exponent is
lower than that; two such steps leave nothing of any significand, so `fuel` need not be larger. -/
def scaledMagnitude : (fuel : Nat) → (magnitude : Nat) → (exponent : Int) → Option Nat
  | 0, _, _ => some 0
  | fuel + 1, x, e =>
    if x == 0 then some 0
    else if 308 < e then none
    else if 0 ≤ e then mul? x (powerOfTen e.toNat)
    else if -308 ≤ e then div? x (powerOfTen (-e).toNat)
    else
      match div? x (powerOfTen 308) with
      | none => none
      | some y => scaledMagnitude fuel y (e + 308)

/-- A natural number times a power of ten; `none` if it is too large. -/
def scaled? (negative : Bool) (significand : Nat) (exponent : Int) : Option Binary64 :=
  match roundMagnitude significand 1 with
  | none => none
  | some x => (scaledMagnitude 4 x exponent).map (ofMagnitude negative)

/-- The number nearest to a natural number below two to the power 1023. -/
def ofNat (n : Nat) : Binary64 :=
  (roundRatio n 1).getD zero

/-! ### Hexadecimal form -/

/-- The bits as sixteen hexadecimal digits. -/
def hexText (x : Binary64) : String :=
  let digits := Nat.toDigits 16 x.bits.toNat
  String.ofList (List.replicate (16 - digits.length) '0' ++ digits)

/-! ### The shortest decimal text -/

/-- The exponent of the first decimal digit of the positive quotient `num / den`: the largest `k`
for which ten to the power `k` is at most the quotient. -/
def firstPlace (num den : Nat) : Int :=
  if den ≤ num then ((Nat.toDigits 10 (num / den)).length : Int) - 1
  else
    let k : Int := ((Nat.toDigits 10 (den / num)).length : Int)
    -- `10 ^ (k - 1) ≤ den / num`, so the quotient is at most `10 ^ (1 - k)`.
    if den ≤ num * Nat.pow 10 (k - 1).toNat then 1 - k else -k

/-- The magnitude of `digits` times ten to the power `place`. -/
def ofDecimal? (digits : Nat) (place : Int) : Option Nat :=
  if 0 ≤ place then roundMagnitude (digits * Nat.pow 10 place.toNat) 1
  else roundMagnitude digits (Nat.pow 10 (-place).toNat)

/-- Of the two neighbours of `num / den` among the multiples of ten to the power `place`, the
nearest that reads back as the magnitude `x`. -/
def neighbour? (x num den : Nat) (place : Int) : Option Nat :=
  let (n, d) :=
    if 0 ≤ place then (num, den * Nat.pow 10 place.toNat)
    else (num * Nat.pow 10 (-place).toNat, den)
  let low := n / d
  let readsBack := fun digits => ofDecimal? digits place == some x
  let nearLow := 2 * (n % d) ≤ d
  match readsBack low, readsBack (low + 1) with
  | true, true => some (if nearLow then low else low + 1)
  | true, false => some low
  | false, true => some (low + 1)
  | false, false => none

/-- The fewest digits that read back as the positive magnitude `x`, with the place of the last. -/
def shortestDigits (x : Nat) : Nat × Int :=
  let (num, den) := ratioOf x
  let first := firstPlace num den
  -- Seventeen digits always read back, so one of the attempts succeeds.
  let places := (List.range 17).map fun (n : Nat) => first - n
  let attempts := places.filterMap fun place =>
    (neighbour? x num den place).map fun digits => (digits, place)
  attempts.headD (0, 0)

/-- Where a decimal text leaves positional notation: the exponents of the first digit between which
a number is written out. -/
structure PositionalRange where
  lowest : Int
  highest : Int

/-- Numbers from a hundred-thousandth up to sixteen digits are written out. -/
def writtenOut : PositionalRange := ⟨-5, 15⟩

/-- Digits with a point after the first `whole` of them, and a zero on a side without digits. -/
def positional (digits : List Char) (whole : Int) : String :=
  let zeros := fun (n : Int) => List.replicate n.toNat '0'
  let padded := zeros (1 - whole) ++ digits ++ zeros (whole + 1 - digits.length)
  let split := (max whole 1).toNat
  String.ofList (padded.take split ++ '.' :: padded.drop split)

/-- Digits with a point after the first of them and an exponent. -/
def scientific (digits : List Char) (exponent : Int) : String :=
  let mantissa :=
    match digits with
    | [] => []
    | [d] => [d]
    | d :: rest => d :: '.' :: rest
  let sign := if 0 ≤ exponent then '+' else '-'
  String.ofList (mantissa ++ 'e' :: sign :: Nat.toDigits 10 exponent.natAbs)

/-- Digits without the zeros at the end, of which a place counts one each. -/
def dropZeros (digits : Nat) (place : Int) : List Char × Int :=
  let reversed := (Nat.toDigits 10 digits).reverse
  let kept := reversed.dropWhile (· == '0')
  (kept.reverse, place + (reversed.length - kept.length : Nat))

/-- The text of a finite number. -/
def text (x : Binary64) : String :=
  let sign := if x.isNegative then "-" else ""
  if x.magnitude == 0 then sign ++ "0.0"
  else
    let (digits, place) := shortestDigits x.magnitude
    let (digits, place) := dropZeros digits place
    let first := place + digits.length - 1
    if writtenOut.lowest ≤ first && first ≤ writtenOut.highest then
      sign ++ positional digits (first + 1)
    else sign ++ scientific digits first

end Binary64

end Waterworks.Decimal
