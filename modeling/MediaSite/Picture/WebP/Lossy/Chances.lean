import MediaSite.Picture.Octets

namespace MediaSite

/-!
# Bits with chances

A sequence of bits, each with a chance to be zero, is coded as one number: the
range of numbers that are left is split for each bit in the proportion of the
chance.  The number may be one octet longer than its data, and that octet is zero.
-/

namespace WebP.Lossy

/-- Where decoding stands. -/
structure Chances where
  data : ByteArray
  /-- The next octet to take. -/
  index : Nat := 0
  /-- The bits that are taken, less what lies below the range. -/
  value : Nat := 0
  /-- The number of these bits behind the end of the range. -/
  held : Nat := 0
  /-- The size of the range, between 128 and 255. -/
  range : Nat := 255

/-- A step of decoding, which fails behind the end of the data. -/
abbrev Drawing := StateT Chances Option

/-- Take an octet if there are less than eight bits. -/
def Chances.filled? (chances : Chances) : Option Chances :=
  if 8 ≤ chances.held then some chances
  else if chances.index ≤ chances.data.size then
    some { chances with
      index := chances.index + 1
      value := 256 * chances.value + Octets.octet chances.data chances.index
      held := chances.held + 8 }
  else none

/-- The next bit, given the chance that it is zero in 256ths. -/
def Chances.next? (chance : Nat) (chances : Chances) : Option (Nat × Chances) := do
  let chances ← chances.filled?
  let low := 1 + (chances.range - 1) * chance / 256
  let split := low <<< (chances.held - 8)
  let (bit, value, range) :=
    if split ≤ chances.value then (1, chances.value - split, chances.range - low)
    else (0, chances.value, low)
  let shift := 7 - range.log2
  some (bit, { chances with value, range := range <<< shift, held := chances.held - shift })

namespace Drawing

/-- The next bit, given the chance that it is zero in 256ths. -/
def bit (chance : Nat) : Drawing Nat :=
  StateT.mk (Chances.next? chance)

/-- The next bit, which is zero or one with the same chance. -/
def even : Drawing Nat :=
  bit 128

/-- Whether the next bit is one. -/
def flag : Drawing Bool := do
  return (← even) = 1

/-- The number in the next bits, the most significant one first, behind a number. -/
def numberFrom : (count before : Nat) → Drawing Nat
  | 0, before => return before
  | count + 1, before => do numberFrom count (2 * before + (← even))

/-- The number in the next bits. -/
def number (count : Nat) : Drawing Nat :=
  numberFrom count 0

/-- A number with a sign behind it. -/
def signed (count : Nat) : Drawing Int := do
  let size ← number count
  return if ← flag then -(size : Int) else size

/-- A number with a sign, or nothing. -/
def signed? (count : Nat) : Drawing (Option Int) := do
  if ← flag then return some (← signed count) else return none

/-- What a step gives so many times. -/
def repeated (step : Drawing α) : (count : Nat) → Drawing (List α)
  | 0 => return []
  | count + 1 => do
    let first ← step
    let rest ← repeated step count
    return first :: rest

end Drawing
end WebP.Lossy
end MediaSite
