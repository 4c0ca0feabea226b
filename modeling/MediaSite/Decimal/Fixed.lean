import MediaSite.Text.Basic

namespace MediaSite

/-!
# Decimals with a fixed number of places

A finite double is `± m · 2^q` with natural `m` and integer `q`, so its decimal
form can be computed exactly.  `Decimal.fixed` rounds to a given number of
places; a tie goes to the even neighbour, and the sign of the double is kept
even where nothing but zeros are left.
-/

namespace Decimal

/-- A finite double taken apart: sign, mantissa and binary exponent. -/
structure Binary where
  negative : Bool
  mantissa : Nat
  exponent : Int

/-- The parts of a double, or none for infinities and NaN. -/
def binary? (value : Float) : Option Binary :=
  let bits : Nat := value.toBits.toNat
  let negative := bits >>> 63 == 1
  let exponent : Nat := (bits >>> 52) % 0x800
  let fraction : Nat := bits % 0x10000000000000
  if exponent = 2047 then none
  else if exponent = 0 then some ⟨negative, fraction, -1074⟩
  else some ⟨negative, fraction + 0x10000000000000, (exponent : Int) - 1075⟩

/-- The natural number nearest to a quotient; a tie goes to the even one. -/
def roundDiv (numerator denominator : Nat) : Nat :=
  let quotient := numerator / denominator
  let rest := numerator % denominator
  if 2 * rest < denominator then quotient
  else if denominator < 2 * rest then quotient + 1
  else if quotient % 2 = 0 then quotient else quotient + 1

/-- The digits of `n` with a point before the last `places` of them. -/
def withPoint (places n : Nat) : Text :=
  let digits := Text.padLeft (places + 1) '0' (Text.ofNat n)
  if places = 0 then digits
  else digits.take (digits.length - places) ++ '.' :: digits.drop (digits.length - places)

/-- The nearest multiple of `10 ^ -places` to a binary number, in that unit. -/
def Binary.scaled (places : Nat) (value : Binary) : Nat :=
  let grown := value.mantissa * Nat.pow 10 places
  if 0 ≤ value.exponent then grown <<< value.exponent.natAbs
  else roundDiv grown (1 <<< value.exponent.natAbs)

/-- A double with exactly `places` decimals. -/
def fixed (places : Nat) (value : Float) : Text :=
  match binary? value with
  | some parts =>
    (if parts.negative then ['-'] else []) ++ withPoint places (parts.scaled places)
  | none =>
    if value.isNaN then "NaN".toList
    else if value < 0 then "-inf".toList
    else "inf".toList

/-- A double with all the decimals that it has. -/
def exact (value : Float) : Text :=
  match binary? value with
  | some parts => fixed (if 0 ≤ parts.exponent then 0 else parts.exponent.natAbs) value
  | none => fixed 0 value

end Decimal
end MediaSite
