/-
The shortest decimal that reads back as a given floating-point word. A word of an
interchange format is read into its sign and an exact magnitude
`significand * 2 ^ exponent`, an infinity, or no number. Every real in the rounding interval
of a number reads back as it, and a decimal is the shorter the coarser the grid of powers of
ten it lies on; so the coarsest grid with a point in the interval gives the fewest digits.
All arithmetic is exact.
-/

set_option autoImplicit false

namespace MappingPlan.Decimal

structure Binary where
  significand : Nat
  exponent : Int
  /-- The next lower number is half as far away as the next higher one. -/
  closeBelow : Bool
  deriving DecidableEq

inductive FloatValue where
  | notANumber
  | infinite (negative : Bool)
  | finite (negative : Bool) (magnitude : Binary)
  deriving DecidableEq

structure Format where
  fractionWidth : Nat
  exponentWidth : Nat
  deriving DecidableEq

namespace Format

def single : Format := ⟨23, 8⟩

def double : Format := ⟨52, 11⟩

/-- Every word has a reading. The lowest exponent field holds the numbers without
a leading one; the spacing halves below each power of two except the least. -/
def read (format : Format) (word : Nat) : FloatValue :=
  let fraction := word % Nat.pow 2 format.fractionWidth
  let field := word / Nat.pow 2 format.fractionWidth % Nat.pow 2 format.exponentWidth
  let negative := word / Nat.pow 2 (format.fractionWidth + format.exponentWidth) % 2 = 1
  let least : Int := 2 - Nat.pow 2 (format.exponentWidth - 1) - format.fractionWidth
  if field = Nat.pow 2 format.exponentWidth - 1 then
    if fraction = 0 then .infinite negative else .notANumber
  else if field = 0 then
    .finite negative ⟨fraction, least, false⟩
  else
    .finite negative
      ⟨Nat.pow 2 format.fractionWidth + fraction, least + field - 1, fraction = 0 && 1 < field⟩

end Format

structure Numeral where
  digits : Nat
  exponent : Int
  deriving DecidableEq

structure Ratio where
  numerator : Nat
  denominator : Nat
  deriving DecidableEq

namespace Binary

/-- One quarter of the number's unit, measured in steps of the grid `10 ^ power`. -/
def quarterUnit (number : Binary) (power : Int) : Ratio :=
  let scale := number.exponent - 2
  ⟨Nat.pow 2 scale.toNat * Nat.pow 10 (-power).toNat,
    Nat.pow 2 (-scale).toNat * Nat.pow 10 power.toNat⟩

def quarters (number : Binary) : Nat := 4 * number.significand

def lowerEnd (number : Binary) : Nat :=
  number.quarters - (if number.closeBelow then 1 else 2)

def upperEnd (number : Binary) : Nat := number.quarters + 2

/-- A grid point lies in the rounding interval. The ends belong to it exactly if
the significand is even. -/
def roundsFrom (number : Binary) (unit : Ratio) (point : Nat) : Bool :=
  let position := point * unit.denominator
  let lower := number.lowerEnd * unit.numerator
  let upper := number.upperEnd * unit.numerator
  if number.significand % 2 = 0 then lower ≤ position && position ≤ upper
  else lower < position && position < upper

/-- The grid point that stands for the number, if one does. Only the neighbours on
either side can; of two the nearer does, and the higher if they are equally near. -/
def pointOn? (number : Binary) (power : Int) : Option Nat :=
  let unit := number.quarterUnit power
  let exact := number.quarters * unit.numerator
  let below := exact / unit.denominator
  let above := below + 1
  match number.roundsFrom unit below, number.roundsFrom unit above with
  | true, true => if 2 * (exact % unit.denominator) < unit.denominator then below else above
  | true, false => below
  | false, true => above
  | false, false => none

def finestPower (number : Binary) : Int := min number.exponent 0

def shortestWithin (number : Binary) : Nat → Numeral
  | 0 =>
      let unit := number.quarterUnit number.finestPower
      ⟨number.quarters * unit.numerator / unit.denominator, number.finestPower⟩
  | steps + 1 =>
      let power := number.finestPower + (steps + 1 : Nat)
      match number.pointOn? power with
      | some point => ⟨point, power⟩
      | none => number.shortestWithin steps

/-- The fewest digits that read back, and of those the nearest to the number. The
grids begin above the number, where no point but zero is in reach. -/
def shortest (number : Binary) : Numeral :=
  let bits := number.exponent + (number.significand.log2 + 2 : Nat)
  number.shortestWithin (max bits 0 - number.finestPower).toNat

end Binary

namespace Numeral

def positional (numeral : Numeral) : String :=
  let digits := toString numeral.digits
  match numeral.exponent with
  | .ofNat zeros => if numeral.digits = 0 then "0" else digits.pushn '0' zeros
  | .negSucc places =>
      let padded := ("".pushn '0' (places + 2 - digits.length) ++ digits).toList
      let whole := padded.length - (places + 1)
      String.ofList (padded.take whole ++ '.' :: padded.drop whole)

end Numeral

namespace FloatValue

def text : FloatValue → String
  | notANumber => "NaN"
  | infinite negative => if negative then "-inf" else "inf"
  | finite negative magnitude =>
      let body :=
        if magnitude.significand = 0 then "0" else magnitude.shortest.positional
      if negative then "-" ++ body else body

end FloatValue

end MappingPlan.Decimal
