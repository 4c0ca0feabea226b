import MediaSite.Picture.WebP.Lossy.Square

namespace MediaSite

/-!
# Predictions

The pixels of a square are predicted from the row above it and the column to its
left; what its coefficients say is added.  Above the picture and to its left all
pixels count as nearly mean ones.
-/

namespace WebP.Lossy

/-- The values of an area, row by row. -/
structure Plane where
  width : Nat
  values : Array Nat

namespace Plane

/-- The value at a column and a row.  Both are counted from one, and at zero there
are the values beyond the upper and the left edge. -/
def beside (plane : Plane) (column row : Nat) : Nat :=
  if row = 0 then 127
  else if column = 0 then 129
  else plane.values.getD ((row - 1) * plane.width + (column - 1)) 0

/-- Draw a block of so many columns and rows at a place. -/
def draw (plane : Plane) (left above size : Nat) (value : (column row : Nat) → Nat) : Plane :=
  { plane with
    values := (List.range size).foldl (fun values row =>
      (List.range size).foldl (fun values column =>
        values.setIfInBounds ((above + row) * plane.width + left + column) (value column row))
        values) plane.values }

end Plane

/-- A value brought into an octet. -/
def clamped (value : Int) : Nat :=
  (max 0 (min 255 value)).toNat

/-! ## What coefficients say -/

/-- A share of a value that is a little more than one. -/
def larger (value : Int) : Int :=
  value * 20091 / 65536 + value

/-- A share of a value that is a little more than a half. -/
def smaller (value : Int) : Int :=
  value * 35468 / 65536

/-- The waves along one line of four values. -/
def waves (zeroth first second third : Int) : Array Int :=
  let sum := zeroth + second
  let difference := zeroth - second
  let inner := smaller first - larger third
  let outer := larger first + smaller third
  #[sum + outer, difference + inner, difference - inner, sum - outer]

/-- The pixels that coefficients stand for, row by row. -/
def pixelsOf (block : Array Int) : Array Int :=
  if block.isEmpty then block
  else
    let stored (place : Nat) : Int := block.getD place 0
    let columns := (Array.range 4).map fun column =>
      waves (stored column) (stored (4 + column)) (stored (8 + column)) (stored (12 + column))
    (Array.range 4).flatMap fun row =>
      let value (column : Nat) : Int := (columns.getD column #[]).getD row 0
      (waves (value 0 + 4) (value 1) (value 2) (value 3)).map fun (sum : Int) => sum / 8

/-! ## Whole squares -/

/-- The mean of the neighbours of a block of some size.  Those beyond the edges do
not count. -/
def neighbourMean (plane : Plane) (left above size : Nat) : Nat :=
  let upper := (List.range size).map fun place => plane.beside (left + 1 + place) above
  let side := (List.range size).map fun place => plane.beside left (above + 1 + place)
  let known := (if above = 0 then [] else upper) ++ (if left = 0 then [] else side)
  if known.isEmpty then 128 else (known.foldl (· + ·) 0 + known.length / 2) / known.length

/-- The prediction of a block of some size at a place. -/
def predicted (plane : Plane) (left above size : Nat) (kind : Kind) : (column row : Nat) → Nat :=
  match kind with
  | .mean =>
    let mean := neighbourMean plane left above size
    fun _ _ => mean
  | .vertical => fun column _ => plane.beside (left + 1 + column) above
  | .horizontal => fun _ row => plane.beside left (above + 1 + row)
  | .slope =>
    let corner := plane.beside left above
    fun column row =>
      let upper : Int := plane.beside (left + 1 + column) above
      clamped (upper + plane.beside left (above + 1 + row) - corner)

/-- Draw an area of blocks by a prediction. -/
def drawWhole (plane : Plane) (left above size : Nat) (kind : Kind) (blocks : Array (Array Int)) :
    Plane :=
  let guess := predicted plane left above size kind
  let edge := size / 4
  let drawn := (Array.range (size * size)).map fun place =>
    guess (place % size) (place / size)
  let added := blocks.map pixelsOf
  plane.draw left above size fun column row =>
    let block := added.getD (row / 4 * edge + column / 4) #[]
    clamped ((drawn.getD (row * size + column) 0 : Int) + block.getD (row % 4 * 4 + column % 4) 0)

/-! ## Small blocks -/

/-- The mean of two values. -/
def meanOfTwo (first second : Nat) : Nat :=
  (first + second + 1) / 2

/-- The mean of three values, of which the one in between counts twice. -/
def meanOfThree (first between last : Nat) : Nat :=
  (first + 2 * between + last + 2) / 4

/-- The neighbours of a small block, from the lower left one up to the corner and
on to the right. -/
abbrev Neighbours := Array Nat

/-- The pixels of a small block from means of neighbours: of three around a place,
or of two from a place on.  The numbers are places, row by row. -/
inductive Blend where
  | three (place : Nat)
  | two (place : Nat)

/-- The value of a mean of neighbours. -/
def Blend.value (neighbours : Neighbours) : Blend → Nat
  | .three place => meanOfThree (neighbours.getD (place - 1) 0) (neighbours.getD place 0)
      (neighbours.getD (place + 1) 0)
  | .two place => meanOfTwo (neighbours.getD place 0) (neighbours.getD (place + 1) 0)

/-- The means for kinds that slant, row by row. -/
def blends : Nat → Array Blend
  | 4 => #[.three 4, .three 5, .three 6, .three 7, .three 3, .three 4, .three 5, .three 6, .three 2,
      .three 3, .three 4, .three 5, .three 1, .three 2, .three 3, .three 4]
  | 5 => #[.two 4, .two 5, .two 6, .two 7, .three 4, .three 5, .three 6, .three 7, .three 3, .two 4,
      .two 5, .two 6, .three 2, .three 4, .three 5, .three 6]
  | 6 => #[.three 6, .three 7, .three 8, .three 9, .three 7, .three 8, .three 9, .three 10,
      .three 8, .three 9, .three 10, .three 11, .three 9, .three 10, .three 11, .three 12]
  | 7 => #[.two 5, .two 6, .two 7, .two 8, .three 6, .three 7, .three 8, .three 9, .two 6, .two 7,
      .two 8, .three 10, .three 7, .three 8, .three 9, .three 11]
  | 8 => #[.two 3, .three 4, .three 5, .three 6, .two 2, .three 3, .two 3, .three 4, .two 1,
      .three 2, .two 2, .three 3, .two 0, .three 1, .two 1, .three 2]
  | _ => #[]

/-- The prediction of a small block of a kind. -/
def predictedSmall (kind : Nat) (neighbours : Neighbours) (column row : Nat) : Nat :=
  let neighbour (place : Nat) : Nat := neighbours.getD place 0
  let side (row : Nat) : Nat := neighbour (3 - row)
  match kind with
  | 0 => ([0, 1, 2, 3, 5, 6, 7, 8].foldl (fun sum place => sum + neighbour place) 4) / 8
  | 1 => clamped ((neighbour (5 + column) : Int) + side row - neighbour 4)
  | 2 => (Blend.three (5 + column)).value neighbours
  | 3 => if row = 3 then meanOfThree (side 2) (side 3) (side 3) else
      (Blend.three (3 - row)).value neighbours
  | 9 =>
    let step := 2 * row + column
    if 6 ≤ step then side 3
    else if step = 5 then meanOfThree (side 2) (side 3) (side 3)
    else if step % 2 = 0 then (Blend.two (2 - step / 2)).value neighbours
    else (Blend.three (2 - step / 2)).value neighbours
  | _ =>
    match (blends kind)[4 * row + column]? with
    | some blend => blend.value neighbours
    | none => 0

/-- The neighbours of a small block at a place in a square.  To the upper right of
blocks at the right edge are the pixels above the square, and behind the picture
the last of them. -/
def neighboursAt (plane : Plane) (left above column row : Nat) : Neighbours :=
  let start := left + 4 * column
  let top := above + 4 * row
  let side := (List.range 4).map fun place => plane.beside start (top + 4 - place)
  let upper := (List.range 5).map fun place => plane.beside (start + place) top
  let right := (List.range 4).map fun place =>
    plane.beside (min plane.width (start + 5 + place)) (if column = 3 then above else top)
  let last := right.getLastD 0
  (side ++ upper ++ right ++ [last]).toArray

/-- Draw a square by small predictions. -/
def drawSmall (plane : Plane) (left above : Nat) (kinds : Array Nat) (blocks : Array (Array Int)) :
    Plane :=
  (List.range 16).foldl (fun plane place =>
    let column := place % 4
    let row := place / 4
    let neighbours := neighboursAt plane left above column row
    let added := pixelsOf (blocks.getD place #[])
    plane.draw (left + 4 * column) (above + 4 * row) 4 fun column row =>
      clamped ((predictedSmall (kinds.getD place 0) neighbours column row : Int) +
        added.getD (4 * row + column) 0)) plane

/-! ## Pictures -/

/-- The luminance and the two colour differences of a picture. -/
structure Planes where
  luma : Plane
  first : Plane
  second : Plane

/-- Draw a square at a column and a row of squares. -/
def Planes.drawSquare (planes : Planes) (column row : Nat) (square : Square)
    (coefficients : Coefficients) : Planes :=
  let luma :=
    match square.luma with
    | .whole kind => drawWhole planes.luma (16 * column) (16 * row) 16 kind coefficients.luma
    | .small kinds => drawSmall planes.luma (16 * column) (16 * row) kinds coefficients.luma
  { luma
    first := drawWhole planes.first (8 * column) (8 * row) 8 square.colour coefficients.first
    second := drawWhole planes.second (8 * column) (8 * row) 8 square.colour coefficients.second }

/-- The planes of a picture that is covered by squares, before smoothing. -/
def Planes.ofSquares (across : Nat) (rows : List (List (Square × Coefficients))) : Planes :=
  let plane (size : Nat) : Plane :=
    ⟨size * across, Array.replicate (size * across * size * rows.length) 0⟩
  rows.zipIdx.foldl (fun planes row =>
    row.1.zipIdx.foldl (fun (planes : Planes) item =>
      planes.drawSquare item.2 row.2 item.1.1 item.1.2) planes) ⟨plane 16, plane 8, plane 8⟩

end WebP.Lossy
end MediaSite
