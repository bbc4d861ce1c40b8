/-!
# Binary floating point numbers and their decimal text

A decimal number is rounded to the nearest number with a mantissa of fifty-three bits, an exact
tie to the even mantissa.  In the other direction a number is written with the fewest decimal
digits that are rounded back to it, and of those with the nearest ones.
-/

namespace BindingGen

/-- A finite number is `mantissa * 2 ^ exponent`, with the sign kept apart so that there are two
zeros. -/
inductive Binary64 where
  | nan
  | infinite (negative : Bool)
  | finite (negative : Bool) (mantissa : Nat) (exponent : Int)
  deriving DecidableEq, Repr, Inhabited

namespace Binary64

def mantissaBits : Nat := 53

def leastExponent : Int := -1074

def greatestExponent : Int := 971

/-- The quotient rounded to the nearest integer, a tie to the even one. -/
def roundToEven (numerator denominator : Nat) : Nat :=
  let quotient := numerator / denominator
  let remainder := numerator % denominator
  if 2 * remainder < denominator then quotient
  else if denominator < 2 * remainder then quotient + 1
  else if quotient % 2 = 0 then quotient
  else quotient + 1

/-- A fraction over a power of two. -/
def overPower (numerator denominator : Nat) (exponent : Int) : Nat × Nat :=
  if exponent < 0 then (numerator * Nat.pow 2 (-exponent).toNat, denominator)
  else (numerator, denominator * Nat.pow 2 exponent.toNat)

/-- The exponent at which a positive fraction has a mantissa of full width, unless that is below
the least exponent. -/
def exponentOf (numerator denominator : Nat) : Int :=
  let estimate := max ((numerator.log2 : Int) - denominator.log2 - mantissaBits) leastExponent
  let (n, d) := overPower numerator denominator estimate
  if Nat.pow 2 mantissaBits ≤ n / d then estimate + 1 else estimate

/-- The number nearest to a fraction. -/
def ofFraction (negative : Bool) (numerator denominator : Nat) : Binary64 :=
  if numerator = 0 then finite negative 0 leastExponent
  else
    let exponent := exponentOf numerator denominator
    let (n, d) := overPower numerator denominator exponent
    let rounded := roundToEven n d
    let (mantissa, exponent) :=
      if rounded = Nat.pow 2 mantissaBits then (rounded / 2, exponent + 1) else (rounded, exponent)
    if greatestExponent < exponent then infinite negative
    else finite negative mantissa exponent

/-- The number nearest to `digits * 10 ^ exponent`, where `count` bounds the length of
`digits`. -/
def ofDecimal (negative : Bool) (digits count : Nat) (exponent : Int) : Binary64 :=
  if digits = 0 then finite negative 0 leastExponent
  else if 400 < exponent then infinite negative
  else if exponent + count < -400 then finite negative 0 leastExponent
  else if 0 ≤ exponent then ofFraction negative (digits * Nat.pow 10 exponent.toNat) 1
  else ofFraction negative digits (Nat.pow 10 (-exponent).toNat)

/-- A decimal number `digits * 10 ^ exponent`. -/
structure Decimal where
  digits : Nat
  exponent : Int
  deriving DecidableEq, Repr

/-- The interval of the numbers that are rounded to one number, and that number, all over one
denominator. -/
structure Interval where
  low : Nat
  value : Nat
  high : Nat
  denominator : Nat
  /-- Whether the ends belong to the interval. -/
  closed : Bool

def intervalOf (mantissa : Nat) (exponent : Int) : Interval :=
  let shift := (2 - exponent).toNat
  let unit := Nat.pow 2 (exponent + shift).toNat
  let narrow := mantissa = Nat.pow 2 (mantissaBits - 1) && leastExponent < exponent
  { low := mantissa * unit - (if narrow then unit / 4 else unit / 2)
    value := mantissa * unit
    high := mantissa * unit + unit / 2
    denominator := Nat.pow 2 shift
    closed := mantissa % 2 = 0 }

/-- Compares a decimal number with a fraction. -/
def compareDecimal (decimal : Decimal) (numerator denominator : Nat) : Ordering :=
  if decimal.exponent < 0 then
    compare (decimal.digits * denominator) (numerator * Nat.pow 10 (-decimal.exponent).toNat)
  else compare (decimal.digits * Nat.pow 10 decimal.exponent.toNat * denominator) numerator

def Interval.contains (interval : Interval) (decimal : Decimal) : Bool :=
  let below := compareDecimal decimal interval.low interval.denominator
  let above := compareDecimal decimal interval.high interval.denominator
  (below == .gt || (interval.closed && below == .eq)) &&
    (above == .lt || (interval.closed && above == .eq))

/-- The decimal place of the first digit of a positive fraction, counted from one for units. -/
def placeOf (numerator denominator : Nat) : Int :=
  let whole := numerator / denominator
  if 0 < whole then (Nat.toDigits 10 whole).length
  else
    -- A fraction below one is at least `1 / denominator`, which bounds the zeros after the point.
    let zeros := (List.range (denominator.log2 + 1)).find? fun k =>
      denominator ≤ numerator * Nat.pow 10 (k + 1)
    match zeros with
    | some k => -(k : Int)
    | none => 0

/-- The nearer of the two neighbours of a value on the grid of multiples of `10 ^ exponent`, the
upper one on a tie, if one of them lies in the interval. -/
def Interval.onGrid? (interval : Interval) (exponent : Int) : Option Decimal :=
  let scaled := if exponent < 0 then interval.value * Nat.pow 10 (-exponent).toNat else interval.value
  let unit := if exponent < 0 then interval.denominator
    else interval.denominator * Nat.pow 10 exponent.toNat
  let floor : Decimal := ⟨scaled / unit, exponent⟩
  let ceiling : Decimal := ⟨scaled / unit + 1, exponent⟩
  let nearest := if unit ≤ 2 * (scaled % unit) then ceiling else floor
  if interval.contains nearest then some nearest
  else if interval.contains floor then some floor
  else if interval.contains ceiling then some ceiling
  else none

/-- The same number without a zero at its end, which it has when the neighbour above a row of
nines was taken. -/
def Decimal.withoutZero (decimal : Decimal) : Decimal :=
  if decimal.digits % 10 = 0 then ⟨decimal.digits / 10, decimal.exponent + 1⟩ else decimal

/-- The shortest decimal number that is rounded to a positive number. -/
def shortest (mantissa : Nat) (exponent : Int) : Decimal :=
  let interval := intervalOf mantissa exponent
  let place := placeOf interval.value interval.denominator
  match (List.range 17).findSome? fun (count : Nat) => interval.onGrid? (place - count - 1) with
  | some decimal => decimal.withoutZero
  | none => ⟨0, 0⟩

/-- A decimal number in positional notation, with at least one digit after the point. -/
def Decimal.text (decimal : Decimal) : String :=
  let digits := Nat.toDigits 10 decimal.digits
  if 0 ≤ decimal.exponent then
    String.ofList (digits ++ List.replicate decimal.exponent.toNat '0') ++ ".0"
  else
    let places := (-decimal.exponent).toNat
    let padded := List.replicate (places + 1 - digits.length) '0' ++ digits
    let whole := padded.take (padded.length - places)
    String.ofList whole ++ "." ++ String.ofList (padded.drop (padded.length - places))

def text : Binary64 → String
  | nan => "NaN"
  | infinite negative => if negative then "-inf" else "inf"
  | finite negative mantissa exponent =>
    let magnitude := if mantissa = 0 then "0.0" else (shortest mantissa exponent).text
    if negative then "-" ++ magnitude else magnitude

end Binary64
end BindingGen
