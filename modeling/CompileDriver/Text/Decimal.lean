/-!
# Decimal text of floating-point numbers

Two exact ways to write a nonnegative finite floating-point number in decimal:
with a fixed number of places, and with the fewest digits that read back as the
same number.  Both decode the number into an integer times a power of two and
then work in natural numbers only, so no rounding but the stated one happens.
-/

namespace CompileDriver.Decimal

/-- A power of two. -/
def powerOfTwo (exponent : Nat) : Nat :=
  Nat.pow 2 exponent

/-- A power of ten. -/
def powerOfTen (exponent : Nat) : Nat :=
  Nat.pow 10 exponent

/-- The number `mantissa · 2 ^ exponent`. -/
structure Binary where
  mantissa : Nat
  exponent : Int
  /-- Whether the next smaller number of the format is only half as far away
  as the next larger one, as it is above a power of two. -/
  closerBelow : Bool := false
  deriving Repr, DecidableEq

/-- The value of a nonnegative finite floating-point number; the sign is left
out. -/
def Binary.ofFloat (value : Float) : Binary :=
  let bits := value.toBits.toNat
  let fraction := bits % powerOfTwo 52
  let scale : Nat := bits / powerOfTwo 52 % powerOfTwo 11
  if scale = 0 then
    { mantissa := fraction, exponent := -1074 }
  else
    { mantissa := powerOfTwo 52 + fraction
      exponent := Int.ofNat scale - 1075
      closerBelow := fraction = 0 && scale != 1 }

/-- `numerator / denominator` rounded to the nearest integer, a tie to the even
one. -/
def roundDiv (numerator denominator : Nat) : Nat :=
  let quotient := numerator / denominator
  let twice := 2 * (numerator % denominator)
  if twice > denominator || (twice = denominator && quotient % 2 = 1) then quotient + 1
  else quotient

/-- `n` in decimal after as many zeros as it takes to fill `width` places. -/
def zeroPadded (width n : Nat) : String :=
  let digits := toString n
  String.ofList (List.replicate (width - digits.length) '0') ++ digits

/-- `n · 10 ^ (-places)` in positional notation with exactly `places` places,
of which there is at least one. -/
def positional (places n : Nat) : String :=
  toString (n / powerOfTen places) ++ "." ++ zeroPadded places (n % powerOfTen places)

/-- `value` with exactly `places` places after the point, a tie going to the
even last digit. -/
def fixed (places : Nat) (value : Float) : String :=
  let binary := Binary.ofFloat value
  let up := powerOfTwo binary.exponent.toNat
  let down := powerOfTwo (-binary.exponent).toNat
  positional places (roundDiv (binary.mantissa * up * powerOfTen places) down)

/-- The multiple of `10 ^ grid` that is nearest to the number among those that
read back as it, if there is one.  A real number reads back as the number when
it lies between the two midpoints to the number's neighbours, the midpoints
included exactly when the mantissa is even. -/
def nearestOnGrid (binary : Binary) (grid : Int) : Option Nat :=
  let scale := powerOfTwo (binary.exponent - 2).toNat * powerOfTen (-grid).toNat
  let unit := powerOfTwo (2 - binary.exponent).toNat * powerOfTen grid.toNat
  let value := 4 * binary.mantissa * scale
  let lowest := (4 * binary.mantissa - if binary.closerBelow then 1 else 2) * scale
  let highest := (4 * binary.mantissa + 2) * scale
  let readsBack (candidate : Nat) : Bool :=
    if binary.mantissa % 2 = 0 then
      lowest ≤ candidate * unit && candidate * unit ≤ highest
    else
      lowest < candidate * unit && candidate * unit < highest
  let below := value / unit
  let above := below + 1
  match readsBack below, readsBack above with
  | true, true => some (roundDiv value unit)
  | true, false => some below
  | false, true => some above
  | false, false => none

/-- How many digits stand before the point of `numerator / denominator`; zero
or negative for numbers below one. -/
def magnitude (numerator denominator : Nat) : Int :=
  let enough : Nat := 330
  Int.ofNat (toString (numerator * powerOfTen enough / denominator)).length - Int.ofNat enough

/-- The fewest decimal digits that read back as the number: `some (n, grid)`
stands for `n · 10 ^ grid`.  Coarser grids are tried first. -/
def shortestDigits (binary : Binary) : Option (Nat × Int) :=
  let top := magnitude (binary.mantissa * powerOfTwo binary.exponent.toNat)
    (powerOfTwo (-binary.exponent).toNat)
  (List.range 18).findSome? fun (used : Nat) =>
    let grid := top - Int.ofNat used
    (nearestOnGrid binary grid).map (·, grid)

/-- `value` in positional notation with the fewest digits that read back as
it, and at least one place after the point. -/
def shortest (value : Float) : String :=
  let binary := Binary.ofFloat value
  if binary.mantissa = 0 then "0.0"
  else match shortestDigits binary with
    | none => "0.0"
    | some (n, grid) =>
        if 0 ≤ grid then toString (n * powerOfTen grid.toNat) ++ ".0"
        else
          let places := (-grid).toNat
          positional places n

end CompileDriver.Decimal
