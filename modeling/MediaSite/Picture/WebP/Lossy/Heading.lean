import MediaSite.Picture.Basic
import MediaSite.Picture.WebP.Lossy.Chances
import MediaSite.Picture.WebP.Lossy.Tables

namespace MediaSite

/-!
# Headings of lossy pictures

A lossy picture begins with its size.  A first part of its data has what holds for
the whole picture and how each square of sixteen by sixteen pixels is predicted;
further parts have the coefficients, row by row in turn.
-/

namespace WebP.Lossy

/-- What holds for some of the squares. -/
structure Segment where
  /-- The scale of factors, or what is added to it. -/
  scale : Int := 0
  /-- The strength of smoothing, or what is added to it. -/
  strength : Int := 0

/-- How squares are assigned to segments. -/
structure Segments where
  /-- The segments replace what holds for the picture. -/
  isAbsolute : Bool := false
  segments : Array Segment := #[]
  /-- The chances of the numbers of segments, if squares tell them. -/
  chances : Option (Array Nat) := none

/-- How edges between blocks are smoothed. -/
structure Smoothing where
  isSimple : Bool
  strength : Nat
  sharpness : Nat
  /-- What is added to the strength everywhere. -/
  added : Int := 0
  /-- What is added in squares that are predicted in small blocks. -/
  addedSmall : Int := 0

/-- What is added to the scale for each kind of factors. -/
structure Scales where
  base : Nat
  luma : Int
  squareMean : Int
  squareDetail : Int
  colourMean : Int
  colourDetail : Int

/-- What holds for the whole picture. -/
structure Heading where
  size : Size
  segments : Option Segments
  smoothing : Smoothing
  scales : Scales
  chances : Array (Array (Array (Array Nat)))
  /-- The chance that a square has coefficients, if squares tell. -/
  fullChance : Option Nat
  /-- The parts with coefficients. -/
  parts : Array ByteArray

/-- The number of squares that cover an edge. -/
def squares (edge : Nat) : Nat :=
  (edge + 15) / 16

namespace Drawing

/-- Values with signs, zero for those that are left out. -/
def signedOrZero (count bits : Nat) : Drawing (List Int) := do
  return (← repeated (signed? bits) count).map (·.getD 0)

/-- Read how squares are assigned to segments. -/
def segments : Drawing Segments := do
  let hasChances ← flag
  let found ←
    if ← flag then
      let isAbsolute ← flag
      let scales ← signedOrZero 4 7
      let strengths ← signedOrZero 4 6
      let segments := List.zipWith Segment.mk scales strengths
      pure { isAbsolute, segments := segments.toArray : Segments }
    else pure {}
  if hasChances then
    let chances ← repeated (do if ← flag then number 8 else return 255) 3
    return { found with chances := some chances.toArray }
  else return found

/-- Read how edges are smoothed. -/
def smoothing : Drawing Smoothing := do
  let isSimple ← flag
  let strength ← number 6
  let sharpness ← number 3
  let plain : Smoothing := { isSimple, strength, sharpness }
  if ← flag then
    if ← flag then
      let added ← signedOrZero 4 6
      let addedSmall ← signedOrZero 4 6
      return { plain with added := added.headD 0, addedSmall := addedSmall.headD 0 }
  return plain

/-- Read the scales of factors. -/
def scales : Drawing Scales := do
  let base ← number 7
  match ← signedOrZero 5 4 with
  | [luma, squareMean, squareDetail, colourMean, colourDetail] =>
    return ⟨base, luma, squareMean, squareDetail, colourMean, colourDetail⟩
  | _ => failure

/-- Read the chances of coefficients, of which some change. -/
def coefficientChances : Drawing (Array (Array (Array (Array Nat)))) :=
  (changeChances.zip Lossy.coefficientChances).mapM fun (changes, chances) =>
    (changes.zip chances).mapM fun (changes, chances) =>
      (changes.zip chances).mapM fun (changes, chances) =>
        (changes.zip chances).mapM fun (change, chance) => do
          if (← bit change) = 1 then number 8 else return chance

end Drawing

/-- Parts whose sizes are given, and the rest of the data. -/
def partsFrom? (data : ByteArray) (sizes : Nat) : (count start : Nat) → Option (List ByteArray)
  | 0, start => some [data.extract start data.size]
  | count + 1, start => do
    let stop := start + Octets.little data sizes 3
    if data.size < stop then none
    else
      let rest ← partsFrom? data (sizes + 3) count stop
      some (data.extract start stop :: rest)

/-- The parts with coefficients from an index on. -/
def parts? (data : ByteArray) (start count : Nat) : Option (Array ByteArray) :=
  let first := start + 3 * (count - 1)
  if data.size < first then none
  else (partsFrom? data start (count - 1) first).map List.toArray

/-- The octets behind the size and the kind of the picture. -/
def mark : List Nat :=
  [0x9d, 0x01, 0x2a]

/-- The size of a picture.  Only whole pictures can be read, no changes to others. -/
def size? (data : ByteArray) : Option Size :=
  let size : Size := ⟨Octets.little data 6 2 % 0x4000, Octets.little data 8 2 % 0x4000⟩
  if 10 ≤ data.size && Octets.octet data 0 % 2 = 0 && Octets.matchesAt data 3 mark &&
      size.width ≠ 0 && size.height ≠ 0 then some size
  else none

/-- Read the heading, of which the parts begin at an index. -/
def Drawing.heading (data : ByteArray) (size : Size) (start : Nat) : Drawing Heading := do
  if ← flag then failure
  let _ ← even
  let segments ← if ← flag then (return some (← segments)) else pure none
  let smoothing ← smoothing
  let count ← number 2
  let parts ← parts? data start (1 <<< count)
  let scales ← scales
  let _ ← even
  let chances ← coefficientChances
  let fullChance ← if ← flag then (return some (← number 8)) else pure none
  return ⟨size, segments, smoothing, scales, chances, fullChance, parts⟩

/-- The heading of a picture, and what follows in the first part. -/
def heading? (data : ByteArray) : Option (Heading × Chances) := do
  let size ← size? data
  let start := 10
  let stop := start + Octets.little data 0 3 / 32
  if data.size < stop then none
  else (Drawing.heading data size stop).run { data := data.extract start stop }

end WebP.Lossy
end MediaSite
