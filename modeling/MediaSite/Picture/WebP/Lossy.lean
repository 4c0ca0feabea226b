import MediaSite.Picture.WebP.Lossy.Smoothing

namespace MediaSite

/-!
# Lossy pictures

A lossy picture is drawn square by square, smoothed, and turned into colours.
There is one value of each colour difference to four of luminance; colours in
between are blended from the four nearest ones.
-/

namespace WebP.Lossy

/-- A decoded picture. -/
structure Decoded where
  size : Size
  planes : Planes

/-- Decode a picture. -/
def decode? (data : ByteArray) : Option Decoded := do
  let (heading, first) ← heading? data
  let across := squares heading.size.width
  let down := squares heading.size.height
  let (rows, _) ←
    (Drawing.squareRows heading down (List.replicate across Drawing.outside)).run first
  let parts := heading.parts.map fun data => ({ data } : Chances)
  let coefficients ← coefficientRows? heading rows 0 parts (List.replicate across {})
  let drawn := List.zipWith List.zip rows coefficients
  some ⟨heading.size, (Planes.ofSquares across drawn).smooth heading drawn⟩

/-- The nearest value to a place, and the second nearest, of so many. -/
def neighbours (place count : Nat) : Nat × Nat :=
  let near := place / 2
  (near, if place % 2 = 0 then near - 1 else min (near + 1) (count - 1))

/-- A colour difference at a column and a row of pixels. -/
def blended (plane : Plane) (size : Size) (column row : Nat) : Nat :=
  let value (column row : Nat) : Nat := plane.values.getD (row * plane.width + column) 0
  let (near, far) := neighbours column ((size.width + 1) / 2)
  let (beside, beyond) := neighbours row ((size.height + 1) / 2)
  let nearest := value near beside
  let shared := (nearest + 3 * value far beside + 3 * value near beyond + value far beyond + 8) / 8
  (shared + nearest) / 2

/-- A share of a value. -/
def share (weight value : Nat) : Int :=
  (weight * value / 256 : Nat)

/-- A value in 64ths brought into an octet. -/
def fromFine (value : Int) : Nat :=
  clamped (value / 64)

/-- The colour of luminance and two colour differences. -/
def colourOf (light first second : Nat) : List Nat :=
  let base := share 19077 light
  [fromFine (base + share 26149 second - 14234),
    fromFine (base - share 6419 first - share 13320 second + 8708),
    fromFine (base + share 33050 first - 17685)]

/-- The colour at a column and a row. -/
def Decoded.pixel (decoded : Decoded) (column row : Nat) : List Nat :=
  let planes := decoded.planes
  colourOf (planes.luma.values.getD (row * planes.luma.width + column) 0)
    (blended planes.first decoded.size column row) (blended planes.second decoded.size column row)

end WebP.Lossy
end MediaSite
