import MediaSite.Picture.WebP.Lossy.Prediction

namespace MediaSite

/-!
# Smoothing

After all squares are drawn, the edges between squares and between blocks are
smoothed where values on both sides are close to each other.  Each square has its
strength; edges to the left and above are those of the square on the right and
below.
-/

namespace WebP.Lossy

/-- How the edges of a square are smoothed. -/
structure Strength where
  isSimple : Bool
  /-- How far values on both sides of an edge may be apart. -/
  limit : Nat
  /-- How far values next to each other on one side may be apart. -/
  inner : Nat
  /-- From which difference on one side the other values are left as they are. -/
  rough : Nat
  /-- Edges between blocks are smoothed as well. -/
  hasBlocks : Bool

/-- The strength in a segment before anything is added. -/
def Heading.baseStrength (heading : Heading) (segment : Nat) : Int :=
  let base : Int := heading.smoothing.strength
  let own : Int :=
    match heading.segments with
    | none => base
    | some segments =>
      let strength := (segments.segments.getD segment {}).strength
      if segments.isAbsolute then strength else base + strength
  max 0 (min 63 own)

/-- How the edges of a square are smoothed, if they are. -/
def Heading.strength? (heading : Heading) (square : Square) (isFull : Bool) : Option Strength :=
  let smoothing := heading.smoothing
  let added := smoothing.added + (if square.isSmall then smoothing.addedSmall else 0)
  let level := (max 0 (min 63 (heading.baseStrength square.segment + added))).toNat
  if smoothing.strength = 0 || level = 0 then none
  else
    let sharpened :=
      if smoothing.sharpness = 0 then level
      else min (9 - smoothing.sharpness) (if 4 < smoothing.sharpness then level / 4 else level / 2)
    let inner := max 1 sharpened
    some ⟨smoothing.isSimple, 2 * level + inner, inner,
      if 40 ≤ level then 2 else if 15 ≤ level then 1 else 0, square.isSmall || isFull⟩

/-- The difference of two values. -/
def apart (first second : Nat) : Nat :=
  ((first : Int) - second).natAbs

/-- A difference brought into a signed octet. -/
def signedClamped (value : Int) : Int :=
  max (-128) (min 127 value)

/-- A change of one value by an eighth of a difference. -/
def eighth (value : Int) : Int :=
  max (-16) (min 15 (value / 8))

/-- Change a value. -/
def change (values : Array Nat) (place : Nat) (difference : Int) : Array Nat :=
  values.setIfInBounds place (clamped ((values.getD place 0 : Int) + difference))

/-- Bring the two values at an edge together, taking the next ones into account. -/
def smoothTwo (values : Array Nat) (place step : Nat) : Array Nat :=
  let value (place : Nat) : Int := values.getD place 0
  let difference := 3 * (value place - value (place - step)) +
    signedClamped (value (place - 2 * step) - value (place + step))
  change (change values (place - step) (eighth (difference + 3))) place (-(eighth (difference + 4)))

/-- Bring four values at an edge together. -/
def smoothFour (values : Array Nat) (place step : Nat) : Array Nat :=
  let value (place : Nat) : Int := values.getD place 0
  let difference := 3 * (value place - value (place - step))
  let near := eighth (difference + 4)
  let far := (near + 1) / 2
  let values := change values (place - 2 * step) far
  let values := change values (place - step) (eighth (difference + 3))
  let values := change values place (-near)
  change values (place + step) (-far)

/-- Bring six values at an edge together. -/
def smoothSix (values : Array Nat) (place step : Nat) : Array Nat :=
  let value (place : Nat) : Int := values.getD place 0
  let difference := signedClamped (3 * (value place - value (place - step)) +
    signedClamped (value (place - 2 * step) - value (place + step)))
  let share (weight : Int) : Int := (weight * difference + 63) / 128
  let values := change values (place - 3 * step) (share 9)
  let values := change values (place - 2 * step) (share 18)
  let values := change values (place - step) (share 27)
  let values := change values place (-(share 27))
  let values := change values (place + step) (-(share 18))
  change values (place + 2 * step) (-(share 9))

/-- Smooth an edge at the first value behind it; `step` leads across the edge.  At
edges between squares more values change. -/
def smoothAt (strength : Strength) (isOuter : Bool) (values : Array Nat) (place step : Nat) :
    Array Nat :=
  let value (place : Nat) : Nat := values.getD place 0
  let before (count : Nat) : Nat := value (place - count * step)
  let behind (count : Nat) : Nat := value (place + count * step)
  let limit := if isOuter then strength.limit + 4 else strength.limit
  if 2 * limit + 1 < 4 * apart (before 1) (behind 0) + apart (before 2) (behind 1) then values
  else if strength.isSimple then smoothTwo values place step
  else
    let steps := [apart (before 4) (before 3), apart (before 3) (before 2),
      apart (before 2) (before 1), apart (behind 3) (behind 2), apart (behind 2) (behind 1),
      apart (behind 1) (behind 0)]
    if steps.any (strength.inner < ·) then values
    else if strength.rough < apart (before 2) (before 1) ||
        strength.rough < apart (behind 1) (behind 0) then smoothTwo values place step
    else if isOuter then smoothSix values place step
    else smoothFour values place step

/-- Smooth an edge of so many values. -/
def smoothEdge (strength : Strength) (isOuter : Bool) (place across along count : Nat)
    (values : Array Nat) : Array Nat :=
  (List.range count).foldl (fun values number =>
    smoothAt strength isOuter values (place + number * along) across) values

/-- Smooth the upright edges of a block of some size at a place, and then the others. -/
def Plane.smooth (plane : Plane) (strength : Strength) (left above size : Nat) : Plane :=
  let width := plane.width
  let start := above * width + left
  let inner := if strength.hasBlocks then (List.range (size / 4)).drop 1 else []
  let values := plane.values
  let values := if left = 0 then values else smoothEdge strength true start 1 width size values
  let values := inner.foldl (fun values place =>
    smoothEdge strength false (start + 4 * place) 1 width size values) values
  let values := if above = 0 then values else smoothEdge strength true start width 1 size values
  let values := inner.foldl (fun values place =>
    smoothEdge strength false (start + 4 * place * width) width 1 size values) values
  { plane with values }

/-- Smooth the edges of a square.  The simple way leaves colours as they are. -/
def Planes.smoothSquare (planes : Planes) (strength : Strength) (column row : Nat) : Planes :=
  let luma := planes.luma.smooth strength (16 * column) (16 * row) 16
  if strength.isSimple then { planes with luma }
  else
    { luma
      first := planes.first.smooth strength (8 * column) (8 * row) 8
      second := planes.second.smooth strength (8 * column) (8 * row) 8 }

/-- Whether a square has any coefficients. -/
def Coefficients.isFull (coefficients : Coefficients) : Bool :=
  [coefficients.luma, coefficients.first, coefficients.second].any fun blocks =>
    blocks.any fun block => !block.isEmpty

/-- Smooth all squares, row by row. -/
def Planes.smooth (planes : Planes) (heading : Heading)
    (rows : List (List (Square × Coefficients))) : Planes :=
  rows.zipIdx.foldl (fun planes row =>
    row.1.zipIdx.foldl (fun (planes : Planes) item =>
      match heading.strength? item.1.1 item.1.2.isFull with
      | some strength => planes.smoothSquare strength item.2 row.2
      | none => planes) planes) planes

end WebP.Lossy
end MediaSite
