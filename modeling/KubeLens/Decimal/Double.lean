import KubeLens.Text.Numeral

/-!
# Doubles and decimals

A decimal is a whole number of units `10 ^ exponent`.  `ofDecimal` gives the double nearest to
a decimal; `shortest` gives the decimal with the fewest digits that reads back as a double, and
of those the nearest.
-/

namespace KubeLens
namespace Double

/-- The bits of the double nearest to `(-1)^negative * mantissa * 10^exponent`.  Exponents far
outside the range of doubles are answered without computing the power. -/
def ofDecimal (negative : Bool) (mantissa : Nat) (exponent : Int) : UInt64 :=
  let size : Int := (Nat.toDigits 10 mantissa).length
  let magnitude : Float :=
    if mantissa = 0 || exponent + size < -400 then 0.0
    else if exponent + size > 400 then 1.0 / 0.0
    else if exponent < 0 then Float.ofScientific mantissa true exponent.natAbs
    else Float.ofScientific mantissa false exponent.natAbs
  (if negative then -magnitude else magnitude).toBits

/-- Neither an infinity nor a NaN. -/
def isFinite (bits : UInt64) : Bool :=
  (bits >>> 52) &&& 0x7FF != 0x7FF

/-- A double that is not a number. -/
def isNaN (bits : UInt64) : Bool :=
  !isFinite bits && bits &&& 0xFFFFFFFFFFFFF != 0

/-- The sign bit. -/
def isNegative (bits : UInt64) : Bool :=
  bits >>> 63 == 1

/-- The absolute value of a finite double as a fraction. -/
def fraction (bits : UInt64) : Nat × Nat :=
  let field := ((bits >>> 52) &&& 0x7FF).toNat
  let low := (bits &&& 0xFFFFFFFFFFFFF).toNat
  let mantissa := if field = 0 then low else low + Nat.pow 2 52
  let scale := if field = 0 then 1 else field
  if scale ≥ 1075 then (mantissa * Nat.pow 2 (scale - 1075), 1)
  else (mantissa, Nat.pow 2 (1075 - scale))

/-- The power of ten of the leading digit of a positive fraction. -/
def leadingPower (num den : Nat) : Int :=
  if num ≥ den then ((Nat.toDigits 10 (num / den)).length : Int) - 1
  else
    let shift := ((List.range 400).find? fun j => decide (num * Nat.pow 10 j ≥ den)).getD 400
    0 - (shift : Int)

/-- The whole number of units `10 ^ exponent` below a fraction, and what is left of it as a
fraction of the unit. -/
def unitsBelow (num den : Nat) (exponent : Int) : Nat × Nat × Nat :=
  if exponent ≥ 0 then
    let unit := den * Nat.pow 10 exponent.natAbs
    (num / unit, num % unit, unit)
  else
    let scaled := num * Nat.pow 10 exponent.natAbs
    (scaled / den, scaled % den, den)

/-- The shortest decimal for the absolute value of a finite double that is not zero. -/
def shortest (bits : UInt64) : Nat × Int :=
  let positive := bits &&& 0x7FFFFFFFFFFFFFFF
  let (num, den) := fraction bits
  let power := leadingPower num den
  let attempt (digits : Nat) : Option (Nat × Int) :=
    let exponent := power - (digits : Int) + 1
    let (below, rest, unit) := unitsBelow num den exponent
    let candidates :=
      if 2 * rest > unit then [below + 1, below] else [below, below + 1]
    (candidates.find? fun units => ofDecimal false units exponent == positive).map (·, exponent)
  ((List.range 18).findSome? attempt).getD (0, 0)

end Double
end KubeLens
