import MediaSite.Picture.Octets
import MediaSite.Picture.PrefixCode

namespace MediaSite

/-!
# Pictures coded without loss

The pixels of a picture are numbers of 32 bits: opacity, red, green and blue.
They are given one after the other, by prefix codes for the four channels, as
copies of earlier pixels, or out of a cache of recent colours.  Pictures may be
transformed before they are coded; the data of a transform is a small picture.
Bits are taken from each octet with the least significant one first.
-/

namespace WebP

/-- A supply of bits. -/
structure Bits where
  data : ByteArray
  /-- The number of bits that are read. -/
  position : Nat

/-- A step of decoding, which fails if the data is wrong or cut off. -/
abbrev Reading := StateT Bits Option

/-- The next bit. -/
def Bits.next? (bits : Bits) : Option (Nat × Bits) :=
  if bits.position < 8 * bits.data.size then
    let octet := Octets.octet bits.data (bits.position / 8)
    some ((octet >>> (bits.position % 8)) % 2, { bits with position := bits.position + 1 })
  else none

namespace Reading

/-- The number in the next bits, the least significant one first. -/
def bits : (count : Nat) → Reading Nat
  | 0 => return 0
  | count + 1 => do
    let low ← StateT.mk Bits.next?
    let high ← bits count
    return low + 2 * high

/-! ## Codes -/

/-- A code, which may have a single symbol without a word. -/
inductive Code where
  | single (symbol : Nat)
  | words (code : PrefixCode)

/-- The greatest length of a word. -/
def longestWord : Nat := 15

/-- The code with these word lengths: it is complete, or has a single symbol. -/
def Code.ofLengths? (lengths : List Nat) : Option Code :=
  match lengths.zipIdx.filter (·.1 != 0) with
  | [] => none
  | [(_, symbol)] => some (.single symbol)
  | _ =>
    let code := PrefixCode.ofLengths longestWord lengths
    if code.isComplete then some (.words code) else none

/-- The next symbol of a code. -/
def symbol : Code → Reading Nat
  | .single symbol => return symbol
  | .words code => StateT.mk (code.decode? Bits.next?)

/-- The order in which lengths of words for lengths are given. -/
def lengthOrder : List Nat :=
  [17, 18, 0, 1, 2, 3, 4, 5, 16, 6, 7, 8, 9, 10, 11, 12, 13, 14, 15]

/-- The numbers in so many groups of three bits. -/
def shortLengths : (count : Nat) → Reading (List Nat)
  | 0 => return []
  | count + 1 => do
    let length ← bits 3
    let rest ← shortLengths count
    return length :: rest

/-- Word lengths in a code for lengths, at most `steps` items for `left` symbols.
They are gathered in reverse.  `previous` is the last one that was not zero. -/
def lengths (code : Code) : (steps left previous : Nat) → List Nat → Reading (List Nat)
  | 0, left, _, found => return (List.replicate left 0 ++ found).reverse
  | steps + 1, left, previous, found => do
    if left = 0 then return found.reverse
    let length ← symbol code
    if length < 16 then
      lengths code steps (left - 1) (if length = 0 then previous else length) (length :: found)
    else
      let count ←
        if length = 16 then (return 3 + (← bits 2))
        else if length = 17 then (return 3 + (← bits 3))
        else (return 11 + (← bits 7))
      if left < count then failure
      let repeated := if length = 16 then previous else 0
      lengths code steps (left - count) previous (List.replicate count repeated ++ found)

/-- A code with one or two symbols that are given themselves. -/
def smallCode (alphabet : Nat) : Reading Code := do
  let isDouble ← bits 1
  let isLong ← bits 1
  let first ← bits (if isLong = 1 then 8 else 1)
  if alphabet ≤ first then failure
  if isDouble = 0 then return .single first
  let second ← bits 8
  if alphabet ≤ second then failure
  return .words ⟨[2], #[first, second]⟩

/-- A code that is given by the lengths of its words. -/
def largeCode (alphabet : Nat) : Reading Code := do
  let count ← bits 4
  let given := lengthOrder.zip (← shortLengths (count + 4))
  let code ← Code.ofLengths? ((List.range 19).map fun symbol => (given.lookup symbol).getD 0)
  let steps ←
    if (← bits 1) = 1 then
      let size ← bits 3
      let steps ← bits (2 + 2 * size)
      if alphabet < steps + 2 then failure
      pure (steps + 2)
    else pure alphabet
  Code.ofLengths? (← lengths code steps alphabet 8 [])

/-- A code for an alphabet of so many symbols. -/
def code (alphabet : Nat) : Reading Code := do
  if (← bits 1) = 1 then smallCode alphabet else largeCode alphabet

/-- The codes for the channels and for distances. -/
structure Group where
  green : Code
  red : Code
  blue : Code
  alpha : Code
  distance : Code

/-- The number of symbols for lengths of copies. -/
def lengthSymbols : Nat := 24

/-- The number of symbols for distances of copies. -/
def distanceSymbols : Nat := 40

/-- So many groups of codes, given the number of colours in the cache. -/
def groups (cached : Nat) : (count : Nat) → Array Group → Reading (Array Group)
  | 0, found => return found
  | count + 1, found => do
    let green ← code (256 + lengthSymbols + cached)
    let red ← code 256
    let blue ← code 256
    let alpha ← code 256
    let distance ← code distanceSymbols
    groups cached count (found.push ⟨green, red, blue, alpha, distance⟩)

/-! ## Pixels -/

/-- A pixel of four channels. -/
def pixelOf (red green blue alpha : Nat) : UInt32 :=
  (((256 * alpha + red) * 256 + green) * 256 + blue).toUInt32

/-- The place of a colour in a cache of two to the power of `size` colours. -/
def cachePlace (size : Nat) (pixel : UInt32) : Nat :=
  ((0x1e35a7bd * pixel) >>> (32 - size).toUInt32).toNat

/-- A length or a distance given by a symbol and extra bits. -/
def extended (symbol : Nat) : Reading Nat := do
  if symbol < 4 then return symbol + 1
  let extra := (symbol - 2) / 2
  return ((2 + symbol % 2) <<< extra) + (← bits extra) + 1

/-- The columns to the right and the rows up of near pixels, by the numbers of
their distances. -/
def nearby : Array (Int × Int) :=
  #[(0, 1), (1, 0), (1, 1), (-1, 1), (0, 2), (2, 0), (1, 2), (-1, 2), (2, 1), (-2, 1), (2, 2),
    (-2, 2), (0, 3), (3, 0), (1, 3), (-1, 3), (3, 1), (-3, 1), (2, 3), (-2, 3), (3, 2), (-3, 2),
    (0, 4), (4, 0), (1, 4), (-1, 4), (4, 1), (-4, 1), (3, 3), (-3, 3), (2, 4), (-2, 4), (4, 2),
    (-4, 2), (0, 5), (3, 4), (-3, 4), (4, 3), (-4, 3), (5, 0), (1, 5), (-1, 5), (5, 1), (-5, 1),
    (2, 5), (-2, 5), (5, 2), (-5, 2), (4, 4), (-4, 4), (3, 5), (-3, 5), (5, 3), (-5, 3), (0, 6),
    (6, 0), (1, 6), (-1, 6), (6, 1), (-6, 1), (2, 6), (-2, 6), (6, 2), (-6, 2), (4, 5), (-4, 5),
    (5, 4), (-5, 4), (3, 6), (-3, 6), (6, 3), (-6, 3), (0, 7), (7, 0), (1, 7), (-1, 7), (5, 5),
    (-5, 5), (7, 1), (-7, 1), (4, 6), (-4, 6), (6, 4), (-6, 4), (2, 7), (-2, 7), (7, 2), (-7, 2),
    (3, 7), (-3, 7), (7, 3), (-7, 3), (5, 6), (-5, 6), (6, 5), (-6, 5), (8, 0), (4, 7), (-4, 7),
    (7, 4), (-7, 4), (8, 1), (8, 2), (6, 6), (-6, 6), (8, 3), (5, 7), (-5, 7), (7, 5), (-7, 5),
    (8, 4), (6, 7), (-6, 7), (7, 6), (-7, 6), (8, 5), (7, 7), (-7, 7), (8, 6), (8, 7)]

/-- How many pixels back a distance is in a picture of a width. -/
def backward (width distance : Nat) : Nat :=
  match nearby[distance - 1]? with
  | some (right, up) => max 1 (right + up * width).toNat
  | none => distance - nearby.size

/-- Pixels so far, and the cache of colours. -/
structure Drawing where
  pixels : Array UInt32
  cache : Array UInt32

/-- Add a pixel, and keep its colour. -/
def Drawing.push (drawing : Drawing) (size : Nat) (pixel : UInt32) : Drawing :=
  { pixels := drawing.pixels.push pixel
    cache := if size = 0 then drawing.cache
      else drawing.cache.setIfInBounds (cachePlace size pixel) pixel }

/-- Add copies of pixels some way back. -/
def Drawing.copyBack (size back : Nat) : (count : Nat) → Drawing → Drawing
  | 0, drawing => drawing
  | count + 1, drawing =>
    copyBack size back count
      (drawing.push size (drawing.pixels.getD (drawing.pixels.size - back) 0))

/-- Pixels up to a number of them.  `choose` gives the codes for a place, and the
cache has two to the power of `size` colours, or none.  Every step adds a pixel. -/
def draw (width total size : Nat) (choose : Nat → Option Group) : (steps : Nat) → Drawing →
    Reading (Array UInt32)
  | 0, drawing => return drawing.pixels
  | steps + 1, drawing => do
    let place := drawing.pixels.size
    if total ≤ place then return drawing.pixels
    let group ← choose place
    let green ← symbol group.green
    if green < 256 then
      let red ← symbol group.red
      let blue ← symbol group.blue
      let alpha ← symbol group.alpha
      draw width total size choose steps (drawing.push size (pixelOf red green blue alpha))
    else if green < 256 + lengthSymbols then
      let length ← extended (green - 256)
      let distance ← extended (← symbol group.distance)
      let back := backward width distance
      if place < back || total - place < length then failure
      draw width total size choose steps (drawing.copyBack size back length)
    else
      let pixel ← drawing.cache[green - 256 - lengthSymbols]?
      draw width total size choose steps (drawing.push size pixel)

/-- The size of the cache as a power of two, zero for none. -/
def cacheSize : Reading Nat := do
  if (← bits 1) = 0 then return 0
  let size ← bits 4
  if 1 ≤ size && size ≤ 11 then return size else failure

/-- The number of colours in a cache. -/
def cacheCount (size : Nat) : Nat :=
  if size = 0 then 0 else 1 <<< size

/-- An edge in blocks of two to the power of `size` pixels. -/
def inBlocks (edge size : Nat) : Nat :=
  (edge + (1 <<< size) - 1) >>> size

/-- A picture with the same codes everywhere. -/
def plainImage (width height : Nat) : Reading (Array UInt32) := do
  let size ← cacheSize
  let found ← groups (cacheCount size) 1 #[]
  draw width (width * height) size (fun _ => found[0]?) (width * height)
    ⟨#[], Array.replicate (cacheCount size) 0⟩

/-- A picture whose codes may depend on the place.  Another picture has the
numbers of the codes for blocks. -/
def wholeImage (width height : Nat) : Reading (Array UInt32) := do
  let size ← cacheSize
  let isMixed ← bits 1
  let blockSize ← if isMixed = 1 then (return 2 + (← bits 3)) else pure 0
  let across := inBlocks width blockSize
  let numbers ←
    if isMixed = 1 then
      (return (← plainImage across (inBlocks height blockSize)).map fun (pixel : UInt32) =>
        ((pixel >>> 8) &&& 0xffff).toNat)
    else pure #[]
  let found ← groups (cacheCount size) (numbers.foldl max 0 + 1) #[]
  let choose (place : Nat) : Option Group :=
    if isMixed = 1 then
      found[numbers.getD
        (((place / width) >>> blockSize) * across + ((place % width) >>> blockSize)) 0]?
    else found[0]?
  draw width (width * height) size choose (width * height)
    ⟨#[], Array.replicate (cacheCount size) 0⟩

/-! ## Transforms -/

/-- What was done to a picture before it was coded. -/
inductive Transform where
  /-- Pixels are differences to a prediction, of a kind for every block. -/
  | predicted (size : Nat) (kinds : Array UInt32)
  /-- Red and blue are differences to shares of other channels. -/
  | shared (size : Nat) (shares : Array UInt32)
  /-- Red and blue are differences to green. -/
  | lessGreen
  /-- Colours are given by their places in a table. -/
  | indexed (table : Array UInt32)

/-- The number of a kind of transform. -/
def Transform.number : Transform → Nat
  | .predicted _ _ => 0
  | .shared _ _ => 1
  | .lessGreen => 2
  | .indexed _ => 3

/-- The sum of two pixels in each channel. -/
def addPixels (first second : UInt32) : UInt32 :=
  (((first &&& 0xff00ff00) + (second &&& 0xff00ff00)) &&& 0xff00ff00) |||
    (((first &&& 0x00ff00ff) + (second &&& 0x00ff00ff)) &&& 0x00ff00ff)

/-- The sums of each pixel and all before it. -/
def runningSums (pixels : Array UInt32) : Array UInt32 :=
  (pixels.foldl (fun (sums : Array UInt32 × UInt32) pixel =>
    let sum := addPixels sums.2 pixel
    (sums.1.push sum, sum)) (#[], 0)).1

/-- The number of pixels that share a number in a picture with a table of so many
colours, as a power of two. -/
def packing (colours : Nat) : Nat :=
  if colours ≤ 2 then 3 else if colours ≤ 4 then 2 else if colours ≤ 16 then 1 else 0

/-- Read a transform of a picture of a size. -/
def transform (width height : Nat) : Reading Transform := do
  let number ← bits 2
  if number ≤ 1 then
    let size := 2 + (← bits 3)
    let data ← plainImage (inBlocks width size) (inBlocks height size)
    return if number = 0 then .predicted size data else .shared size data
  else if number = 2 then return .lessGreen
  else
    let colours := 1 + (← bits 8)
    return .indexed (runningSums (← plainImage colours 1))

/-- Read transforms, each kind at most once: the last one first, together with the
width of the picture that is coded. -/
def transforms (height : Nat) : (steps width : Nat) → List Transform →
    Reading (List Transform × Nat)
  | 0, _, _ => failure
  | steps + 1, width, found => do
    if (← bits 1) = 0 then return (found, width)
    let next ← transform width height
    if found.any (·.number == next.number) then failure
    let width :=
      match next with
      | .indexed table => inBlocks width (packing table.size)
      | _ => width
    transforms height steps width (next :: found)

/-- A channel of a pixel, blue first. -/
def channel (pixel : UInt32) (number : UInt32) : Nat :=
  ((pixel >>> (8 * number)) &&& 0xff).toNat

/-- A pixel whose channels are made from those of others. -/
def channelwise (make : UInt32 → Nat) : UInt32 :=
  pixelOf (make 2) (make 1) (make 0) (make 3)

/-- The means of channels, rounded down. -/
def mean (first second : UInt32) : UInt32 :=
  channelwise fun number => (channel first number + channel second number) / 2

/-- A number brought into an octet. -/
def clampedOctet (value : Int) : Nat :=
  (max 0 (min 255 value)).toNat

/-- The sum of the differences of channels. -/
def distanceOf (first second : UInt32) : Nat :=
  ([0, 1, 2, 3] : List UInt32).foldl (fun sum number =>
    sum + ((channel first number : Int) - channel second number).natAbs) 0

/-- The prediction of a kind from neighbours. -/
def prediction (kind : Nat) (left above corner next : UInt32) : UInt32 :=
  match kind with
  | 0 => 0xff000000
  | 1 => left
  | 2 => above
  | 3 => next
  | 4 => corner
  | 5 => mean (mean left next) above
  | 6 => mean left corner
  | 7 => mean left above
  | 8 => mean corner above
  | 9 => mean above next
  | 10 => mean (mean left corner) (mean above next)
  | 11 => if distanceOf above corner < distanceOf left corner then left else above
  | 12 => channelwise fun number =>
      clampedOctet ((channel left number : Int) + channel above number - channel corner number)
  | 13 =>
    let both := mean left above
    channelwise fun number =>
      let value : Int := channel both number
      clampedOctet (value + (value - channel corner number).tdiv 2)
  | _ => 0

/-- Add predictions, pixel by pixel. -/
def addPredictions (width size : Nat) (kinds pixels : Array UInt32) : Array UInt32 :=
  pixels.foldl (fun (done : Array UInt32) pixel =>
    let place := done.size
    let column := place % width
    let row := place / width
    let earlier (back : Nat) : UInt32 := done.getD (place - back) 0
    let guess :=
      if row = 0 then if column = 0 then 0xff000000 else earlier 1
      else if column = 0 then earlier width
      else
        let kind := channel
          (kinds.getD ((row >>> size) * inBlocks width size + (column >>> size)) 0) 1
        prediction kind (earlier 1) (earlier width) (earlier (width + 1)) (earlier (width - 1))
    done.push (addPixels pixel guess)) #[]

/-- An octet as a signed number. -/
def signedOctet (value : Nat) : Int :=
  if value < 128 then value else (value : Int) - 256

/-- A share of a channel. -/
def shareOf (share value : Nat) : Int :=
  signedOctet share * signedOctet value / 32

/-- Add shares of channels to others. -/
def addShares (width size : Nat) (shares pixels : Array UInt32) : Array UInt32 :=
  pixels.mapIdx fun place pixel =>
    let share := shares.getD
      (((place / width) >>> size) * inBlocks width size + ((place % width) >>> size)) 0
    let green := channel pixel 1
    let red := ((channel pixel 2 + shareOf (channel share 0) green) % 256).toNat
    let blue := ((channel pixel 0 + shareOf (channel share 1) green +
      shareOf (channel share 2) red) % 256).toNat
    pixelOf red green blue (channel pixel 3)

/-- Add green to red and blue. -/
def addGreen (pixel : UInt32) : UInt32 :=
  let green := (pixel >>> 8) &&& 0xff
  addPixels pixel ((green <<< 16) ||| green)

/-- Look up colours in a table. -/
def lookUp (width height : Nat) (table pixels : Array UInt32) : Array UInt32 :=
  let shared := packing table.size
  let across := inBlocks width shared
  let depth := 8 >>> shared
  (Array.range (width * height)).map fun place =>
    let column := place % width
    let packed := channel (pixels.getD (place / width * across + (column >>> shared)) 0) 1
    let number := (packed >>> (depth * (column % (1 <<< shared)))) % (1 <<< depth)
    table.getD number 0

/-- Undo a transform of a picture, given its width as coded: the pixels, and the
width before the transform. -/
def Transform.undo (width height : Nat) (coded : Nat × Array UInt32) :
    Transform → Nat × Array UInt32
  | .predicted size kinds => (coded.1, addPredictions coded.1 size kinds coded.2)
  | .shared size shares => (coded.1, addShares coded.1 size shares coded.2)
  | .lessGreen => (coded.1, coded.2.map addGreen)
  | .indexed table => (width, lookUp width height table coded.2)

/-- The pixels of a picture of a size. -/
def pixels (width height : Nat) : Reading (Array UInt32) := do
  let (found, coded) ← transforms height 5 width []
  let drawn ← wholeImage coded height
  return (found.foldl (Transform.undo width height) (coded, drawn)).2

/-- The pixels of a picture that begins with its size. -/
def sizedPixels (width height : Nat) : Reading (Array UInt32) := do
  let mark ← bits 8
  let columns ← bits 14
  let rows ← bits 14
  let _ ← bits 1
  let version ← bits 3
  if mark = 0x2f && columns + 1 = width && rows + 1 = height && version = 0 then
    pixels width height
  else failure

end Reading
end WebP
end MediaSite
