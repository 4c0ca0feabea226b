import MediaSite.Picture.Jpeg.Scan
import MediaSite.Picture.Raster

namespace MediaSite

/-!
# JPEG files

The blocks of a JPEG file give the values of up to four components, of which some
have fewer samples than others.  Missing samples are filled in between those that
are there, and the values at a place give its colour.
-/

namespace Jpeg

/-- The values of a component. -/
structure Channel where
  /-- The number of blocks in a row. -/
  across : Nat
  /-- The number of samples of the coarsest component to one of this one. -/
  horizontal : Nat
  vertical : Nat
  blocks : Array ByteArray

/-- The values of a component, given the greatest numbers of samples. -/
def Plane.channel (plane : Plane) (grid : Grid) : Channel :=
  ⟨plane.across, grid.horizontal / plane.component.horizontal,
    grid.vertical / plane.component.vertical, plane.blocks.map Block.pixels⟩

namespace Channel

/-- The value at a column and a row of samples. -/
def sample (channel : Channel) (column row : Nat) : Nat :=
  Octets.octet (channel.blocks.getD (row / 8 * channel.across + column / 8) ByteArray.empty)
    (row % 8 * 8 + column % 8)

/-- The sample that is nearest to a place, and the second nearest one, of so many. -/
def neighbours (place count : Nat) : Nat × Nat :=
  let near := place / 2
  (near, if place % 2 = 0 then near - 1 else min (near + 1) (count - 1))

/-- A value between two samples. -/
def between (near far : Nat) : Nat :=
  (3 * near + far + 2) / 4

/-- The value at a column of pixels and a row of samples. -/
def inRow (channel : Channel) (column : Nat) (value : Nat → Nat) : Nat :=
  if channel.horizontal = 2 then
    let (near, far) := neighbours column (8 * channel.across)
    if near = far then value near else between (value near) (value far)
  else value (column / channel.horizontal)

/-- The value at a column and a row of pixels. -/
def value (channel : Channel) (column row : Nat) : Nat :=
  channel.inRow column fun column =>
    if channel.vertical = 2 then
      let (near, far) := neighbours row (8 * (channel.blocks.size / channel.across))
      between (channel.sample column near) (channel.sample column far)
    else channel.sample column (row / channel.vertical)

end Channel

/-- A value in 2^14ths brought into an octet. -/
def fromFine (value : Int) : Nat :=
  (toOctet ((value + 8191) / 16384)).toNat

/-- The colour of luminance and two colour differences. -/
def colourOf (light blue red : Nat) : List Nat :=
  let light : Int := 16384 * light
  let blue : Int := (blue : Int) - 128
  let red : Int := (red : Int) - 128
  [fromFine (light + 22970 * red), fromFine (light - 5638 * blue - 11700 * red),
    fromFine (light + 29032 * blue)]

/-- A product of shares of 255. -/
def share (first second : Nat) : Nat :=
  let product := first * second + 128
  (product + product / 256) / 256

/-- The samples that values stand for. -/
def shown (space : Space) (values : List Nat) : List Nat :=
  match space, values with
  | .gray, _ => values
  | .rgb, _ => values
  | .difference, light :: blue :: red :: _ => colourOf light blue red
  | .ink, [cyan, magenta, yellow, black] =>
    [share cyan black, share magenta black, share yellow black]
  | .inkDifference, [light, blue, red, black] =>
    (colourOf light blue red).map fun value => share (255 - value) black
  | .inkDifference, [light, blue, red] => colourOf light blue red
  | _, _ => []

/-- The space in which three components are meant. -/
def Heading.meant (heading : Heading) (count : Nat) : Space :=
  if count = 3 && heading.space = .ink then .rgb
  else if count = 3 && heading.space = .inkDifference then .difference
  else heading.space

/-- The components can be read with their numbers of samples.  The first one has
the most of all. -/
def Frame.isReadable (frame : Frame) : Bool :=
  let first := frame.components[0]?
  !frame.grid.isMixed ||
    (first.map fun component => component.horizontal != 1 || component.vertical != 1) == some true

/-- A frame with a single component, for which it does not matter how many samples
it has. -/
def Frame.alone (frame : Frame) : Frame :=
  if frame.components.size = 1 then
    { frame with components := frame.components.map fun component =>
        { component with horizontal := 1, vertical := 1 } }
  else frame

/-- Decode a picture. -/
def decode? (data : ByteArray) : Option Raster := do
  let (heading, start) ← heading? data
  let frame ← heading.frame.map Frame.alone
  let size := frame.size
  let count := frame.components.size
  let space := heading.meant count
  let channels := if space = .gray then 1 else 3
  if rasterLimit < size.width * size.height * channels || count < space.channels ||
      !frame.isReadable then none
  else
    let (planes, rows) ← planes? data start heading frame
    let grid := frame.grid
    let parts := planes.toList.map fun plane => plane.channel grid
    let height := rows * 8 * grid.vertical
    some ⟨size, 255, fun column row =>
      if row < height then shown space (parts.map fun part => part.value column row)
      else List.replicate channels 0⟩

end Jpeg
end MediaSite
