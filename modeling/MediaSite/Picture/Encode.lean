import MediaSite.Picture.Codec

namespace MediaSite

/-!
# Encoded pictures

A picture is known by its size and one colour, and is encoded as an area of
that colour.  PNG files hold their rows without compression.  JPEG files need
the mean value of the first block only, for in an even area every other block
has the same one.
-/

namespace Octets

/-- A number in `count` octets, the most significant one first. -/
def ofBig (value : Nat) : (count : Nat) → List UInt8
  | 0 => []
  | count + 1 => ofBig (value / 256) count ++ [value.toUInt8]

/-- Octets in a row. -/
def repeated (count : Nat) (octet : UInt8) : ByteArray :=
  ⟨Array.replicate count octet⟩

/-- Octets as an array. -/
def ofList (octets : List UInt8) : ByteArray :=
  ⟨octets.toArray⟩

end Octets

/-! ## PNG -/

namespace Png

/-- A chunk with its size and its check sum. -/
def chunkOctets (name : Nat) (data : ByteArray) : ByteArray :=
  let body := Octets.ofList (Octets.ofBig name 4) ++ data
  Octets.ofList (Octets.ofBig data.size 4) ++ body ++
    Octets.ofList (Octets.ofBig (checkSum body).toNat 4)

/-- The largest block of data that is stored as it is. -/
def storedLimit : Nat :=
  65535

/-- Data in stored blocks, at most `count` of them. -/
def storedBlocks (data : ByteArray) : (count : Nat) → Nat → ByteArray
  | 0, _ => ByteArray.empty
  | count + 1, start =>
    let size := min storedLimit (data.size - start)
    let final := start + size = data.size
    let sizes : List UInt8 := [size.toUInt8, (size / 256).toUInt8]
    Octets.ofList ((if final then 1 else 0) :: (sizes ++ sizes.map (255 - ·))) ++
      data.extract start (start + size) ++
      (if final then ByteArray.empty else storedBlocks data count (start + size))

/-- Data packed without compression. -/
def packed (data : ByteArray) : ByteArray :=
  Octets.ofList [0x78, 0x01] ++ storedBlocks data (data.size / storedLimit + 1) 0 ++
    Octets.ofList (Octets.ofBig (Inflate.checkSum data) 4)

/-- One row of pixels. -/
def rowOf (width : Nat) (color : Color) : List UInt8 :=
  0 :: (List.replicate width
    [color.red.toUInt8, color.green.toUInt8, color.blue.toUInt8, color.alpha.toUInt8]).flatten

/-- An area of one colour as a file. -/
def encode (size : Size) (color : Color) : ByteArray :=
  let row := Octets.ofList (rowOf size.width color)
  let rows := (List.replicate size.height row).foldl (· ++ ·) ByteArray.empty
  let header := Octets.ofBig size.width 4 ++ Octets.ofBig size.height 4 ++ [8, 6, 0, 0, 0]
  Octets.ofList (signature.map Nat.toUInt8) ++
    chunkOctets headerName (Octets.ofList header) ++
    chunkOctets pixelsName (packed rows) ++
    chunkOctets endName ByteArray.empty

end Png

/-! ## JPEG -/

namespace Jpeg

/-- A weighted sum of channels in millionths, rounded to a whole number. -/
def weighted (color : Color) (red green blue : Int) : Int :=
  (red * color.red + green * color.green + blue * color.blue + 500000).fdiv 1000000

/-- Luminance and the two colour differences, each around zero. -/
def valuesOf (color : Color) : List Int :=
  [weighted color 299000 587000 114000 - 128,
    weighted color (-168736) (-331264) 500000,
    weighted color 500000 (-418688) (-81312)]

/-- The number of bits of a size. -/
def bitSize (value : Nat) : Nat :=
  if value = 0 then 0 else value.log2 + 1

/-- The lowest bits of a number, the most significant one first. -/
def bitsOf (value : Nat) : (count : Nat) → List Bool
  | 0 => []
  | count + 1 => bitsOf (value / 2) count ++ [value % 2 == 1]

/-- The bits of a block with this mean and nothing else: its length as four
bits, the value, negative ones shifted to begin with zero, and the end. -/
def blockBits (mean : Int) : List Bool :=
  let count := bitSize mean.natAbs
  let shifted := if mean < 0 then mean + (1 <<< count : Nat) - 1 else mean
  bitsOf count 4 ++ bitsOf shifted.toNat count ++ [false]

/-- The octet of eight bits, filled up with ones. -/
def octetOf (bits : List Bool) : UInt8 :=
  ((bits.take 8 ++ List.replicate (8 - bits.length) true).foldl
    (fun value bit => 2 * value + (if bit then 1 else 0)) 0 : Nat).toUInt8

/-- Bits as octets, at most `count` of them, with a zero behind each `ff`. -/
def coded : (count : Nat) → List Bool → List UInt8
  | 0, _ => []
  | count + 1, bits =>
    if bits.isEmpty then []
    else
      let octet := octetOf bits
      (if octet = 0xff then [octet, 0] else [octet]) ++ coded count (bits.drop 8)

/-- The coded blocks of an area: after the first of each component all blocks
are five zero bits. -/
def scanOctets (size : Size) (color : Color) : ByteArray :=
  let first := (valuesOf color).flatMap blockBits
  let blocks := ((size.width + 7) / 8) * ((size.height + 7) / 8)
  let rest := 15 * (blocks - 1)
  let joined := min rest (8 - first.length % 8)
  let whole := (rest - joined) / 8
  let last := (rest - joined) % 8
  Octets.ofList (coded first.length (first ++ List.replicate joined false)) ++
    Octets.repeated whole 0 ++ Octets.ofList (coded 1 (List.replicate last false))

/-- A segment with its size. -/
def segment (kind : UInt8) (body : List UInt8) : List UInt8 :=
  [0xff, kind] ++ Octets.ofBig (body.length + 2) 2 ++ body

/-- The header that says how colours are meant. -/
def colorSegment : List UInt8 :=
  segment 0xe0 [0x4a, 0x46, 0x49, 0x46, 0, 1, 1, 0, 0, 1, 0, 1, 0, 0]

/-- A quantisation table that keeps means exactly. -/
def scaleSegment : List UInt8 :=
  segment 0xdb (0 :: List.replicate 64 8)

/-- The frame with three components of the same size. -/
def frameSegment (size : Size) : List UInt8 :=
  segment 0xc0 ([8] ++ Octets.ofBig size.height 2 ++ Octets.ofBig size.width 2 ++
    [3, 1, 0x11, 0, 2, 0x11, 0, 3, 0x11, 0])

/-- The codes: four bits for the length of a mean, one for the end of a block. -/
def codeSegments : List UInt8 :=
  segment 0xc4 ([0, 0, 0, 0, 9] ++ List.replicate 12 0 ++ [0, 1, 2, 3, 4, 5, 6, 7, 8]) ++
    segment 0xc4 ([0x10, 1] ++ List.replicate 15 0 ++ [0])

/-- An area of one colour as a file. -/
def encode (size : Size) (color : Color) : ByteArray :=
  Octets.ofList ([0xff, 0xd8] ++ colorSegment ++ scaleSegment ++ frameSegment size ++
    codeSegments ++ segment 0xda [3, 1, 0, 2, 0, 3, 0, 0, 63, 0]) ++
    scanOctets size color ++ Octets.ofList [0xff, 0xd9]

end Jpeg

/-- A picture as a file. -/
def Picture.encode (picture : Picture) : ByteArray :=
  match picture.format with
  | .png => Png.encode picture.size picture.corner
  | .jpeg => Jpeg.encode picture.size picture.corner

/-- What a file holds, as octets. -/
def Content.encode : Content → ByteArray
  | .picture made => made.encode
  | content => content.toOctets

end MediaSite
