import MediaSite.Picture.Inflate
import MediaSite.Picture.Raster

namespace MediaSite

/-!
# PNG files

A PNG file is a signature and a sequence of chunks, each with a check sum.  The
first chunk is the header; its size is the size of the picture, provided that
the chunks up to the first one with pixels are in order.  A damaged chunk that
is not needed is passed over.  A picture can be decoded if the pixels are
complete and whole in the chunks that hold them; what follows does not matter,
but something has to follow.
-/

namespace Png

/-- The first octets of a file. -/
def signature : List Nat :=
  [0x89, 0x50, 0x4e, 0x47, 0x0d, 0x0a, 0x1a, 0x0a]

/-- One step of the check sum for each bit. -/
def checkSteps : Nat → UInt32 → UInt32
  | 0, sum => sum
  | count + 1, sum =>
    checkSteps count (if sum % 2 = 1 then (sum / 2) ^^^ 0xedb88320 else sum / 2)

/-- The check sum of octets. -/
def checkSum (data : ByteArray) : UInt32 :=
  data.foldl (fun sum octet => checkSteps 8 (sum ^^^ octet.toUInt32)) 0xffffffff ^^^ 0xffffffff

/-- The name of the chunk with the size. -/
def headerName : Nat := 0x49484452

/-- The name of the chunk with a palette. -/
def paletteName : Nat := 0x504c5445

/-- The name of chunks with pixels. -/
def pixelsName : Nat := 0x49444154

/-- The name of the last chunk. -/
def endName : Nat := 0x49454e44

/-- The name of the chunk with transparent colours. -/
def transparencyName : Nat := 0x74524e53

/-- The name of the chunk in front of a picture of an animation. -/
def frameName : Nat := 0x6663544c

/-- The name of chunks with pixels of further pictures. -/
def furtherName : Nat := 0x66644154

/-! ## Chunks -/

/-- The name of the chunk at an index, if its head is there. -/
def nameAt? (data : ByteArray) (start : Nat) : Option Nat :=
  if start + 8 ≤ data.size then some (Octets.big data (start + 4) 4) else none

/-- A reader has to know what a critical chunk says. -/
def isCritical (name : Nat) : Bool :=
  name / 0x20000000 % 2 == 0

/-- A whole chunk. -/
structure Chunk where
  name : Nat
  data : ByteArray
  /-- The check sum is right. -/
  isSound : Bool
  /-- The index behind the chunk. -/
  stop : Nat

/-- The chunk at an index, if all of it is there. -/
def chunkAt? (data : ByteArray) (start : Nat) : Option Chunk := do
  let name ← nameAt? data start
  let stop := start + 8 + Octets.big data start 4
  if data.size < stop + 4 then none
  else
    let sum := checkSum (data.extract (start + 4) stop)
    some ⟨name, data.extract (start + 8) stop, sum.toNat = Octets.big data stop 4, stop + 4⟩

/-- How colours are stored. -/
inductive ColorType where
  | gray
  | rgb
  | indexed
  | grayAlpha
  | rgba
  deriving DecidableEq, Repr

/-- What the first chunk says. -/
structure Header where
  size : Size
  depth : Nat
  colorType : ColorType
  interlaced : Bool

/-- The colour type with a number, and the depths that it allows. -/
def colorType? : Nat → Option (ColorType × List Nat)
  | 0 => some (.gray, [1, 2, 4, 8, 16])
  | 2 => some (.rgb, [8, 16])
  | 3 => some (.indexed, [1, 2, 4, 8])
  | 4 => some (.grayAlpha, [8, 16])
  | 6 => some (.rgba, [8, 16])
  | _ => none

/-- The number of samples of a pixel in the file. -/
def ColorType.channels : ColorType → Nat
  | .gray => 1
  | .rgb => 3
  | .indexed => 1
  | .grayAlpha => 2
  | .rgba => 4

/-- Read the first chunk. -/
def header? (chunk : Chunk) : Option Header := do
  let data := chunk.data
  let size : Size := ⟨Octets.big data 0 4, Octets.big data 4 4⟩
  let depth := Octets.octet data 8
  let (colorType, depths) ← colorType? (Octets.octet data 9)
  if chunk.name = headerName && chunk.isSound && 13 ≤ data.size && size.width ≠ 0 &&
      size.height ≠ 0 && depths.contains depth && Octets.octet data 10 = 0 &&
      Octets.octet data 11 = 0 && Octets.octet data 12 ≤ 1 then
    some ⟨size, depth, colorType, Octets.octet data 12 = 1⟩
  else none

/-- What the chunks in front of the pixels say. -/
structure Heading where
  header : Header
  palette : Option ByteArray := none
  /-- The opacity of palette entries, or the colour that is transparent. -/
  transparency : Option (List Nat) := none
  /-- The number of pictures of an animation that are announced. -/
  frames : Nat := 0

/-- A palette, at most once and with at most 256 colours. -/
def Heading.withPalette? (heading : Heading) (data : ByteArray) : Option Heading :=
  if heading.palette.isNone && data.size ≤ 768 && data.size % 3 = 0 then
    some { heading with palette := data }
  else none

/-- The transparent colour or the opacity of colours.  A chunk that is too short
or comes too early says nothing.  Of samples with less than sixteen bits the low
octets count. -/
def Heading.withTransparency (heading : Heading) (data : ByteArray) : Heading :=
  let octets := data.data.toList.map UInt8.toNat
  let found : Option (List Nat) :=
    match heading.header.colorType with
    | .gray =>
      if data.size < 2 then none
      else if heading.header.depth = 16 then some octets
      else some [Octets.octet data 1]
    | .rgb =>
      if data.size < 6 then none
      else if heading.header.depth = 16 then some octets
      else some [Octets.octet data 1, Octets.octet data 3, Octets.octet data 5]
    | .indexed => if heading.palette.isNone then none else some octets
    | _ => none
  { heading with transparency := heading.transparency.or found }

/-- The announcement of a picture of an animation.  In front of the pixels it has
to be as large as the whole. -/
def Heading.withFrame? (heading : Heading) (data : ByteArray) : Option Heading :=
  let size := heading.header.size
  if 26 ≤ data.size && Octets.big data 0 4 = heading.frames &&
      Octets.big data 4 4 = size.width && Octets.big data 8 4 = size.height &&
      Octets.big data 12 4 = 0 && Octets.big data 16 4 = 0 &&
      Octets.octet data 24 ≤ 2 && Octets.octet data 25 ≤ 1 then
    some { heading with frames := heading.frames + 1 }
  else none

/-- Read a chunk in front of the pixels. -/
def Heading.withChunk? (heading : Heading) (chunk : Chunk) : Option Heading :=
  if !chunk.isSound then if isCritical chunk.name then none else some heading
  else if chunk.name = paletteName then heading.withPalette? chunk.data
  else if chunk.name = transparencyName then some (heading.withTransparency chunk.data)
  else if chunk.name = frameName then heading.withFrame? chunk.data
  else if isCritical chunk.name then none
  else some heading

/-- Read the chunks from an index on up to the pixels: what they say, and where
the pixels are.  There are at most `count` of them. -/
def headingFrom? (data : ByteArray) : (count : Nat) → Nat → Heading → Option (Heading × Nat)
  | 0, _, _ => none
  | count + 1, start, heading => do
    let name ← nameAt? data start
    if name = pixelsName then some (heading, start)
    else if name = furtherName then none
    else
      let chunk ← chunkAt? data start
      let heading ← heading.withChunk? chunk
      headingFrom? data count chunk.stop heading

/-- The number of samples of a decoded pixel. -/
def Heading.channels (heading : Heading) : Nat :=
  match heading.header.colorType with
  | .gray => if heading.transparency.isSome then 2 else 1
  | .indexed => if heading.transparency.isSome then 4 else 3
  | .rgb => if heading.transparency.isSome then 4 else 3
  | .grayAlpha => 2
  | .rgba => 4

/-- The number of octets of a decoded row. -/
def Heading.rowSize (heading : Heading) : Nat :=
  heading.header.size.width * heading.channels * (if heading.header.depth = 16 then 2 else 1)

/-- What stands in front of the pixels, and where the pixels are. -/
def heading? (data : ByteArray) : Option (Heading × Nat) := do
  let first ← chunkAt? data 8
  let header ← header? first
  let (heading, start) ← headingFrom? data data.size first.stop ⟨header, none, none, 0⟩
  if heading.rowSize ≤ rasterLimit then some (heading, start) else none

/-- The size of a picture. -/
def size? (data : ByteArray) : Option Size :=
  (heading? data).map fun found => found.1.header.size

/-! ## Rows -/

/-- The data of the chunks with pixels from an index on.  Another chunk has to
follow them. -/
def packedFrom? (data : ByteArray) : (count : Nat) → Nat → ByteArray → Option ByteArray
  | 0, _, _ => none
  | count + 1, start, joined => do
    let name ← nameAt? data start
    if name = pixelsName then
      let chunk ← chunkAt? data start
      if chunk.isSound then packedFrom? data count chunk.stop (joined ++ chunk.data) else none
    else some joined

/-- The pixels of every so many columns and rows, from a first column and row on. -/
structure Pass where
  column : Nat
  row : Nat
  columnStep : Nat
  rowStep : Nat

/-- The passes in which pixels are stored. -/
def Header.passes (header : Header) : List Pass :=
  if header.interlaced then
    [⟨0, 0, 8, 8⟩, ⟨4, 0, 8, 8⟩, ⟨0, 4, 4, 8⟩, ⟨2, 0, 4, 4⟩, ⟨0, 2, 2, 4⟩, ⟨1, 0, 2, 2⟩,
      ⟨0, 1, 1, 2⟩]
  else [⟨0, 0, 1, 1⟩]

/-- The number of columns and rows of a pass. -/
def Header.passSize (header : Header) (pass : Pass) : Size :=
  ⟨(header.size.width + pass.columnStep - 1 - pass.column) / pass.columnStep,
    (header.size.height + pass.rowStep - 1 - pass.row) / pass.rowStep⟩

/-- The number of bits of a pixel in the file. -/
def Header.pixelBits (header : Header) : Nat :=
  header.depth * header.colorType.channels

/-- The number of octets of a row in the file. -/
def Header.rowOctets (header : Header) (width : Nat) : Nat :=
  (width * header.pixelBits + 7) / 8

/-- The number of octets of a pass in the file. -/
def Header.passOctets (header : Header) (pass : Pass) : Nat :=
  let size := header.passSize pass
  if size.width = 0 then 0 else size.height * (1 + header.rowOctets size.width)

/-- The number of octets to unpack.  For pixels in several passes it is twice that
of the rows in one pass, which may be too little for low pictures. -/
def Header.wanted (header : Header) : Nat :=
  let plain := header.size.height * (1 + header.rowOctets header.size.width)
  let stored := (header.passes.map header.passOctets).foldl (· + ·) 0
  max stored (if header.interlaced then 2 * plain else plain)

/-- The neighbour that is nearest to the sum of both less the one between them. -/
def nearestNeighbour (left above corner : Nat) : Nat :=
  let guess : Int := (left + above : Int) - corner
  let distance (value : Nat) : Nat := (guess - value).natAbs
  if distance left ≤ distance above && distance left ≤ distance corner then left
  else if distance above ≤ distance corner then above
  else corner

/-- What a filter takes from the octets to the left, above, and in between. -/
def predicted (rule left above corner : Nat) : Nat :=
  match rule with
  | 0 => 0
  | 1 => left
  | 2 => above
  | 3 => (left + above) / 2
  | _ => nearestNeighbour left above corner

/-- Undo the filter of a row: `count` of its `size` octets from an index on are
appended to the rows before.  Neighbours are `step` octets to the left. -/
def unfilterRow (data : ByteArray) (rule step size : Nat) : (count : Nat) → Nat →
    ByteArray → ByteArray
  | 0, _, rows => rows
  | count + 1, index, rows =>
    let place := rows.size
    let isInside := step ≤ size - (count + 1)
    let left := if isInside then Octets.octet rows (place - step) else 0
    let above := if size ≤ place then Octets.octet rows (place - size) else 0
    let corner :=
      if isInside && size ≤ place then Octets.octet rows (place - size - step) else 0
    let value := Octets.octet data index + predicted rule left above corner
    unfilterRow data rule step size count (index + 1) (rows.push value.toUInt8)

/-- Undo the filters of rows, each of which begins with the number of its filter. -/
def unfilter? (data : ByteArray) (step size : Nat) : (rows : Nat) → Nat → ByteArray →
    Option ByteArray
  | 0, _, done => some done
  | rows + 1, index, done =>
    let rule := Octets.octet data index
    if 4 < rule then none
    else
      unfilter? data step size rows (index + 1 + size)
        (unfilterRow data rule step size size (index + 1) done)

/-- The rows of passes that are stored one after the other, from an index on.  A
pass without pixels has no rows. -/
def passRows? (header : Header) (data : ByteArray) : List Pass → Nat →
    Option (List (Pass × ByteArray))
  | [], _ => some []
  | pass :: rest, index => do
    let size := header.passSize pass
    if size.width = 0 || size.height = 0 then
      let others ← passRows? header data rest index
      some ((pass, ByteArray.empty) :: others)
    else
      let stop := index + header.passOctets pass
      if data.size < stop then none
      else
        let rows ← unfilter? data (max 1 (header.pixelBits / 8)) (header.rowOctets size.width)
          size.height index ByteArray.empty
        let others ← passRows? header data rest stop
        some ((pass, rows) :: others)

/-- The samples of a pixel as they are stored. -/
def storedPixel (header : Header) (passes : List (Pass × ByteArray)) (column row : Nat) :
    List Nat :=
  match passes.find? fun item => column % item.1.columnStep == item.1.column &&
      row % item.1.rowStep == item.1.row with
  | none => []
  | some (pass, rows) =>
    let start := row / pass.rowStep * header.rowOctets (header.passSize pass).width
    let channels := header.colorType.channels
    (List.range channels).map fun channel =>
      let index := column / pass.columnStep * channels + channel
      if header.depth = 16 then Octets.big rows (start + 2 * index) 2
      else
        let bit := index * header.depth
        let octet := Octets.octet rows (start + bit / 8)
        (octet >>> (8 - header.depth - bit % 8)) % (1 <<< header.depth)

/-- Whether samples are those of the transparent colour. -/
def isTransparent (header : Header) (transparency samples : List Nat) : Bool :=
  if header.depth = 16 then
    (samples.flatMap fun sample => [sample / 256, sample % 256]) == transparency
  else samples == transparency

/-- The samples of a pixel as they are shown. -/
def Heading.shownPixel (heading : Heading) (samples : List Nat) : List Nat :=
  let header := heading.header
  let top : Nat := if header.depth = 16 then 65535 else 255
  let opacity : List Nat :=
    match heading.transparency with
    | some transparency => [if isTransparent header transparency samples then 0 else top]
    | none => []
  match header.colorType with
  | .gray =>
    (if header.depth < 8 then samples.map (· * (255 / ((1 <<< header.depth) - 1))) else samples) ++
      opacity
  | .rgb => samples ++ opacity
  | .indexed =>
    let palette := heading.palette.getD ByteArray.empty
    let index := samples.headD 0
    let colour := (List.range 3).map fun channel => Octets.octet palette (3 * index + channel)
    match heading.transparency with
    | some transparency =>
      let known := if palette.size / 3 < transparency.length then [] else transparency
      colour ++ [known.getD index 255]
    | none => colour
  | .grayAlpha => samples
  | .rgba => samples

/-- Decode a picture. -/
def decode? (data : ByteArray) : Option Raster := do
  let (heading, start) ← heading? data
  let header := heading.header
  let size := header.size
  if rasterLimit < heading.rowSize * size.height then none
  else if header.colorType = .indexed && heading.palette.isNone then none
  else
    let packed ← packedFrom? data data.size start ByteArray.empty
    let (pixels, ending) := Inflate.unpack ⟨false, header.wanted⟩ packed
    if ending = .cut || ending = .wrong then none
    else
      let passes ← passRows? header pixels header.passes 0
      let top := if header.depth = 16 then 65535 else 255
      some ⟨size, top, fun column row =>
        heading.shownPixel (storedPixel header passes column row)⟩

end Png
end MediaSite
