namespace TilingHeader

/-! Binary floating point numbers of 64 bits in exact arithmetic: the one nearest
to a decimal, and the shortest decimal that has it as its nearest one. -/

inductive Binary64 where
  /-- Stands for `significand * 2 ^ exponent`. -/
  | finite (negative : Bool) (significand : Nat) (exponent : Int)
  | infinite (negative : Bool)
  | nan
  deriving DecidableEq, Repr

namespace Binary64

def precision : Nat := 53

/-- The least significand of full precision. -/
def fullSignificand : Nat := Nat.pow 2 (precision - 1)

def minExponent : Int := -1074

def maxExponent : Int := 971

/-- The quotient to the nearest number; a half goes to the even one. -/
def roundQuotient (numerator denominator : Nat) : Nat :=
  let quotient := numerator / denominator
  let twice := 2 * (numerator % denominator)
  if denominator < twice ∨ (twice = denominator ∧ quotient % 2 = 1) then
    quotient + 1
  else quotient

/-- `numerator / denominator / base ^ exponent` as a fraction. -/
def scaleDown (base : Nat) (numerator denominator : Nat) : Int → Nat × Nat
  | .ofNat exponent => (numerator, denominator * base.pow exponent)
  | .negSucc exponent => (numerator * base.pow (exponent + 1), denominator)

/-- The exponent that gives a fraction a significand of full precision. -/
def fittingExponent (numerator denominator : Nat) : Int :=
  let guess : Int :=
    (numerator.log2 : Int) - (denominator.log2 : Int) - (precision - 1 : Nat)
  let (above, below) := scaleDown 2 numerator denominator guess
  let exact := if above < fullSignificand * below then guess - 1 else guess
  max exact minExponent

def ofFraction (negative : Bool) (numerator denominator : Nat) : Binary64 :=
  let exponent := fittingExponent numerator denominator
  let (above, below) := scaleDown 2 numerator denominator exponent
  let rounded := roundQuotient above below
  let (significand, exponent) :=
    if rounded = 2 * fullSignificand then (fullSignificand, exponent + 1)
    else (rounded, exponent)
  if maxExponent < exponent then .infinite negative
  else .finite negative significand exponent

/-- The number nearest to `digits * 10 ^ exponent`.  Far outside of the range
the powers of ten need not be formed. -/
def ofDecimal (negative : Bool) (digits : Nat) (exponent : Int) : Binary64 :=
  if digits = 0 then .finite negative 0 minExponent
  else
    let magnitude : Int := exponent + (Nat.toDigits 10 digits).length
    if 310 < magnitude then .infinite negative
    else if magnitude < -330 then .finite negative 0 minExponent
    else
      let (numerator, denominator) := scaleDown 10 digits 1 (-exponent)
      ofFraction negative numerator denominator

/-- The decimals of one exponent next to a number, the nearer first; of two that
are equally near, the larger. -/
def neighbours (numerator denominator : Nat) : List Nat :=
  let below := numerator / denominator
  if 2 * (numerator % denominator) < denominator then [below, below + 1]
  else [below + 1, below]

/-- A decimal `digits * 10 ^ exponent` with as few digits as tell the number
from the others: the largest exponent, from `exponent` downwards, at which a
decimal rounds to it. -/
def shortestFrom (significand : Nat) (power exponent : Int) :
    Nat → Nat × Int
  | 0 => (significand, 0)
  | attempts + 1 =>
      let gapBelow :=
        if significand = fullSignificand ∧ minExponent < power then 1 else 2
      let (quarter, denominator) := scaleDown 2 1 1 (2 - power)
      let quarters (count : Nat) : Nat × Nat :=
        scaleDown 10 (count * quarter) denominator exponent
      let (above, below) := quarters (4 * significand)
      let (low, _) := quarters (4 * significand - gapBelow)
      let (high, _) := quarters (4 * significand + 2)
      let rounds (digits : Nat) : Bool :=
        if significand % 2 = 0 then
          low ≤ digits * below && digits * below ≤ high
        else low < digits * below && digits * below < high
      match (neighbours above below).find? rounds with
      | some digits => (digits, exponent)
      | none => shortestFrom significand power (exponent - 1) attempts

def shortest (significand : Nat) (power : Int) : Nat × Int :=
  if significand = 0 then (0, 0)
  else shortestFrom significand power 309 650

/-- Decimal digits without an exponent, and always with a point. -/
def positional (digits : Nat) : Int → String
  | .ofNat exponent =>
      String.ofList (Nat.toDigits 10 (digits * Nat.pow 10 exponent)) ++ ".0"
  | .negSucc exponent =>
      let places := exponent + 1
      let all := Nat.toDigits 10 digits
      let padded := List.replicate (places + 1 - all.length) '0' ++ all
      let whole := padded.length - places
      String.ofList (padded.take whole) ++ "." ++
        String.ofList (padded.drop whole)

def text : Binary64 → String
  | .finite negative significand power =>
      let (digits, exponent) := shortest significand power
      (if negative then "-" else "") ++ positional digits exponent
  | .infinite negative => if negative then "-inf" else "inf"
  | .nan => "NaN"

end Binary64

end TilingHeader
