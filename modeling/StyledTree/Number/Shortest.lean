set_option autoImplicit false

namespace StyledTree.Number

/-- The positive number `mantissa * 2 ^ exponent` among the numbers of one format. -/
structure Binary where
  mantissa : Nat
  exponent : Int
  /-- The next smaller number is only half as far away as the next greater one. -/
  narrowBelow : Bool

/-- The number `digits * 10 ^ exponent`. -/
structure Decimal where
  digits : Nat
  exponent : Int
deriving DecidableEq

namespace Binary

/-- A count of quarter units in the last place, over the common denominator with `10 ^ grid`. -/
def scaledQuarters (number : Binary) (grid : Int) (quarters : Nat) : Nat :=
  quarters * Nat.pow 2 (number.exponent - 2).toNat * Nat.pow 10 (-grid).toNat

/-- A point of the grid over the same denominator. -/
def scaledPoint (number : Binary) (grid : Int) (digits : Nat) : Nat :=
  digits * Nat.pow 10 grid.toNat * Nat.pow 2 (2 - number.exponent).toNat

/-- The point of the grid reads back as the number: the two midpoints belong to the interval if the
mantissa is even. -/
def readsBack (number : Binary) (grid : Int) (digits : Nat) : Bool :=
  let point := number.scaledPoint grid digits
  let lower := number.scaledQuarters grid (4 * number.mantissa - if number.narrowBelow then 1 else 2)
  let upper := number.scaledQuarters grid (4 * number.mantissa + 2)
  if number.mantissa % 2 = 0 then lower ≤ point && point ≤ upper
  else lower < point && point < upper

/-- The greatest point of the grid that is not above the number. -/
def floorOn (number : Binary) (grid : Int) : Nat :=
  number.scaledQuarters grid (4 * number.mantissa) / number.scaledPoint grid 1

/-- The nearest point of the grid that reads back; of two that are equally near, the upper one. -/
def nearestOn? (number : Binary) (grid : Int) : Option Decimal :=
  let below := number.floorOn grid
  let value := number.scaledQuarters grid (4 * number.mantissa)
  let belowHits := number.readsBack grid below
  let aboveHits := number.readsBack grid (below + 1)
  let aboveIsNearer :=
    number.scaledPoint grid (below + 1) - value ≤ value - number.scaledPoint grid below
  if aboveHits && (aboveIsNearer || !belowHits) then some ⟨below + 1, grid⟩
  else if belowHits then some ⟨below, grid⟩
  else none

/-- Tries `count` grids, each ten times finer than the one before it. -/
def searchFrom (number : Binary) (grid : Int) : Nat → Option Decimal
  | 0 => none
  | count + 1 => (number.nearestOn? grid).or (searchFrom number (grid - 1) count)

/-- A power of ten above the number. -/
def coarsestGrid (number : Binary) : Int :=
  (number.mantissa.log2 + 1 + number.exponent.toNat : Nat)

/-- The shortest decimal that reads back. On the finest grid tried the number is a point itself. -/
def shortest (number : Binary) : Decimal :=
  let coarsest := number.coarsestGrid
  let grids := (coarsest + (-number.exponent).toNat + 1).toNat
  (number.searchFrom coarsest grids).getD ⟨0, 0⟩

end Binary

namespace Decimal

/-- Positional notation: all digits, with a point where some of them are fractional. -/
def positional (decimal : Decimal) : String :=
  let digits := Nat.toDigits 10 decimal.digits
  let places := (-decimal.exponent).toNat
  if decimal.exponent ≥ 0 then
    String.ofList (digits ++ List.replicate decimal.exponent.toNat '0')
  else
    let padded := List.replicate (places + 1 - digits.length) '0' ++ digits
    String.ofList (padded.take (padded.length - places) ++ '.' :: padded.drop (padded.length - places))

end Decimal

end StyledTree.Number
