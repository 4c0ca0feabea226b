import MediaSite.Picture.Jpeg.Feed
import MediaSite.Picture.Jpeg.Heading

namespace MediaSite

/-!
# Blocks

A block holds 64 coefficients, of which the first is its mean and the others are
details.  A block is read at once, or in several scans that give some of the
coefficients or some of their bits.  Its pixels are the sum of waves with the
coefficients as their heights, computed in whole numbers.
-/

namespace Jpeg

/-- The coefficients of a block in reading order.  Those behind the end are zero,
so a block with nothing but a mean is short. -/
abbrev Block := Array Int

/-- Change a coefficient by its place in the order in which they are stored. -/
def Block.put (block : Block) (place : Nat) (value : Int) : Block :=
  let full : Block :=
    if block.size < 64 then block ++ Array.replicate (64 - block.size) 0 else block
  full.setIfInBounds (zigzag.getD (min place 63) 63) value

/-- A coefficient by its place in the order in which they are stored. -/
def Block.stored (block : Block) (place : Nat) : Int :=
  Array.getD block (zigzag.getD (min place 63) 63) 0

/-! ## Reading at once -/

/-- Read details from a place on. -/
def detailsFrom? (code : PrefixCode) (scale : Array Nat) : (steps place : Nat) → Block → Feed →
    Option (Block × Feed)
  | 0, _, block, feed => some (block, feed)
  | steps + 1, place, block, feed =>
    if 64 ≤ place then some (block, feed)
    else do
      let (symbol, feed) ← feed.symbol? code
      let run := symbol / 16
      let size := symbol % 16
      if size ≠ 0 then
        let place := place + run
        let (value, feed) := feed.signed size
        let factor : Nat := scale.getD (zigzag.getD (min place 63) 63) 0
        detailsFrom? code scale steps (place + 1) (block.put place (value * factor)) feed
      else if run = 15 then detailsFrom? code scale steps (place + 16) block feed
      else some (block, feed)

/-- Read the difference of a mean to the one before. -/
def difference? (code : PrefixCode) (feed : Feed) : Option (Int × Feed) := do
  let (size, feed) ← feed.symbol? code
  some (feed.signed size)

/-- Read a block, given the mean before.  The coefficients are scaled. -/
def block? (means details : PrefixCode) (scale : Array Nat) (before : Int) (feed : Feed) :
    Option ((Block × Int) × Feed) := do
  let (difference, feed) ← difference? means feed
  let mean := before + difference
  let (block, feed) ← detailsFrom? details scale 64 1 #[mean * (scale.getD 0 0 : Nat)] feed
  some ((block, mean), feed)

/-! ## Reading in several scans -/

/-- Read the high bits of details from a place on: the block, and how many
further blocks have no details in this scan. -/
def firstDetails? (code : PrefixCode) (scan : Scan) : (steps place : Nat) → Block → Feed →
    Option ((Block × Nat) × Feed)
  | 0, _, block, feed => some ((block, 0), feed)
  | steps + 1, place, block, feed =>
    if scan.last < place then some ((block, 0), feed)
    else do
      let (symbol, feed) ← feed.symbol? code
      let run := symbol / 16
      let size := symbol % 16
      if size ≠ 0 then
        let place := place + run
        let (value, feed) := feed.signed size
        firstDetails? code scan steps (place + 1)
          (block.put place (value * (1 <<< scan.low : Nat))) feed
      else if run = 15 then firstDetails? code scan steps (place + 16) block feed
      else
        let (more, feed) := feed.take run
        some ((block, (1 <<< run) + more - 1), feed)

/-- Read a bit of a coefficient that is not zero, and move it away from zero. -/
def refined (scan : Scan) (value : Int) (feed : Feed) : Option (Int × Feed) := do
  let feed ← feed.refill?
  let (bit, feed) := feed.take 1
  let unit : Int := (1 <<< scan.low : Nat)
  if bit = 1 && (value / unit) % 2 = 0 then
    some (if 0 ≤ value then value + unit else value - unit, feed)
  else some (value, feed)

/-- Refine the coefficients from a place on until `zeros` zeros are passed: the
place of the zero behind them. -/
def refineFrom? (scan : Scan) : (steps place zeros : Nat) → Block → Feed →
    Option ((Nat × Block) × Feed)
  | 0, place, _, block, feed => some ((place, block), feed)
  | steps + 1, place, zeros, block, feed =>
    if scan.last < place then some ((place, block), feed)
    else
      let value := block.stored place
      if value = 0 then
        if zeros = 0 then some ((place, block), feed)
        else refineFrom? scan steps (place + 1) (zeros - 1) block feed
      else do
        let (value, feed) ← refined scan value feed
        refineFrom? scan steps (place + 1) zeros (block.put place value) feed

/-- Read a lower bit of details from a place on: the block, and how many further
blocks have no new details in this scan. -/
def laterDetails? (code : PrefixCode) (scan : Scan) : (steps place : Nat) → Block → Feed →
    Option ((Block × Nat) × Feed)
  | 0, _, block, feed => some ((block, 0), feed)
  | steps + 1, place, block, feed =>
    if scan.last < place then some ((block, 0), feed)
    else do
      let (symbol, feed) ← feed.symbol? code
      let run := symbol / 16
      let size := symbol % 16
      if size = 0 && run ≠ 15 then
        let (more, feed) := feed.take run
        let ((_, block), feed) ← refineFrom? scan 64 place 64 block feed
        some ((block, (1 <<< run) + more - 1), feed)
      else
        let unit : Int := (1 <<< scan.low : Nat)
        let (value, feed) :=
          if size = 0 then (0, feed)
          else
            let (bit, feed) := feed.take 1
            (if bit = 1 then unit else -unit, feed)
        let ((place, block), feed) ← refineFrom? scan 64 place run block feed
        let block := if value = 0 || scan.last < place then block else block.put place value
        laterDetails? code scan steps (place + 1) block feed

/-! ## Pixels -/

/-- The waves along one line of eight coefficients: they are computed in fractions,
and `round` is added before the sums are divided by `unit`. -/
def waves (line : Nat → Int) (round unit : Int) : List Int :=
  let turn := (line 2 + line 6) * 2217
  let second := turn + line 6 * -7567
  let third := turn + line 2 * 3135
  let zeroth := (line 0 + line 4) * 4096
  let first := (line 0 - line 4) * 4096
  let even0 := zeroth + third + round
  let even3 := zeroth - third + round
  let even1 := first + second + round
  let even2 := first - second + round
  let sum := (line 7 + line 3 + line 5 + line 1) * 4816
  let outer := sum + (line 7 + line 1) * -3685
  let inner := sum + (line 5 + line 3) * -10497
  let upper := (line 7 + line 3) * -8034
  let lower := (line 5 + line 1) * -1597
  let odd3 := line 1 * 6149 + outer + lower
  let odd2 := line 3 * 12586 + inner + upper
  let odd1 := line 5 * 8410 + inner + lower
  let odd0 := line 7 * 1223 + outer + upper
  [even0 + odd3, even1 + odd2, even2 + odd1, even3 + odd0, even3 - odd0, even2 - odd1, even1 - odd2,
    even0 - odd3].map fun (sum : Int) => sum / unit

/-- A number brought into an octet. -/
def toOctet (value : Int) : UInt8 :=
  (max 0 (min 255 value)).toNat.toUInt8

/-- The rounding of the first waves, and of the second ones, which also shift the
values to be around 128. -/
def roundings : Int × Int :=
  (512, 512 + 65536 + 128 * 131072)

/-- The pixels of a block, row by row. -/
def Block.pixels (block : Block) : ByteArray :=
  if block.size ≤ 1 then
    ⟨Array.replicate 64 (toOctet ((Array.getD block 0 0 + 4) / 8 + 128))⟩
  else
    let columns := ((List.range 8).map fun column =>
      (waves (fun row => Array.getD block (8 * row + column) 0) roundings.1 1024).toArray).toArray
    (List.range 8).foldl (fun (pixels : ByteArray) row =>
      (waves (fun column => (columns.getD column #[]).getD row 0) roundings.2 131072).foldl
        (fun pixels value => pixels.push (toOctet value)) pixels) ByteArray.empty

end Jpeg
end MediaSite
