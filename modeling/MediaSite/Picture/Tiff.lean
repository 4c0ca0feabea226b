import MediaSite.Picture.Inflate
import MediaSite.Picture.Phrases
import MediaSite.Picture.Raster
import MediaSite.Picture.Runs

namespace MediaSite

/-!
# TIFF files

A TIFF file has a directory of numbered entries, in either order of octets, and
rows of pixels in strips or tiles, each of which may be packed.  Offsets have
four octets, or eight in the large form.  A layout is what the directory says
about the pixels; it is checked as a whole before a size is given.
-/

namespace Tiff

/-- The first octets of a file with the least significant octet first. -/
def littleSignature : List Nat :=
  [0x49, 0x49, 0x2a, 0x00]

/-- The first octets of a file with the most significant octet first. -/
def bigSignature : List Nat :=
  [0x4d, 0x4d, 0x00, 0x2a]

/-! ## The directory -/

/-- How numbers are written in a file. -/
structure Form where
  /-- The most significant octet is the first one. -/
  isBig : Bool
  /-- Offsets have eight octets. -/
  isLarge : Bool

/-- The number in some octets at an index, if they are there. -/
def Form.number? (form : Form) (data : ByteArray) (start count : Nat) : Option Nat :=
  if start + count ≤ data.size then
    some (if form.isBig then Octets.big data start count else Octets.little data start count)
  else none

/-- The number of octets of an offset. -/
def Form.offsetSize (form : Form) : Nat :=
  if form.isLarge then 8 else 4

/-- The form of a file, and the index of its directory. -/
def form? (data : ByteArray) : Option (Form × Nat) := do
  let isBig ←
    if Octets.matchesAt data 0 [0x49, 0x49] then some false
    else if Octets.matchesAt data 0 [0x4d, 0x4d] then some true
    else none
  match ← Form.number? ⟨isBig, false⟩ data 2 2 with
  | 42 => some (⟨isBig, false⟩, ← Form.number? ⟨isBig, false⟩ data 4 4)
  | 43 =>
    let form : Form := ⟨isBig, true⟩
    if (← form.number? data 4 2) = 8 && (← form.number? data 6 2) = 0 then
      some (form, ← form.number? data 8 8)
    else none
  | _ => none

/-- The number of octets of a value of a type, if the type is known. -/
def typeSize? : Nat → Option Nat
  | 1 => some 1
  | 2 => some 1
  | 3 => some 2
  | 4 => some 4
  | 5 => some 8
  | 6 => some 1
  | 7 => some 1
  | 8 => some 2
  | 9 => some 4
  | 10 => some 8
  | 11 => some 4
  | 12 => some 8
  | 13 => some 4
  | 16 => some 8
  | 17 => some 8
  | 18 => some 8
  | _ => none

/-- Values of the type are numbers without a sign. -/
def isNumberType (type : Nat) : Bool :=
  [1, 3, 4, 7, 13, 16, 18].contains type

/-- An entry of a directory. -/
structure Entry where
  type : Nat
  count : Nat
  /-- Where the values stand, or where it says where they stand. -/
  place : Nat

/-- The entries of a file by their numbers. -/
structure Directory where
  data : ByteArray
  form : Form
  entries : List (Nat × Entry)

/-- Read entries from an index on.  Of entries with the same number the last one
counts, and entries of an unknown type do not. -/
def entries? (form : Form) (data : ByteArray) : (count : Nat) → Nat → List (Nat × Entry) →
    Option (List (Nat × Entry))
  | 0, _, found => some found
  | count + 1, start, found => do
    let size := form.offsetSize
    let name ← form.number? data start 2
    let type ← form.number? data (start + 2) 2
    let values ← form.number? data (start + 4) size
    let _ ← form.number? data (start + 4 + size) size
    let known := if (typeSize? type).isSome then [(name, ⟨type, values, start + 4 + size⟩)] else []
    entries? form data count (start + 4 + 2 * size) (known ++ found)

/-- Read the directory of a file.  The offset of a further one has to follow. -/
def directory? (data : ByteArray) : Option Directory := do
  let (form, start) ← form? data
  let countSize := if form.isLarge then 8 else 2
  let count ← form.number? data start countSize
  let entrySize := 4 + 2 * form.offsetSize
  let _ ← form.number? data (start + countSize + count * entrySize) form.offsetSize
  let entries ← entries? form data count (start + countSize) []
  some ⟨data, form, entries⟩

/-- The values of an entry. -/
def Directory.valuesOf? (directory : Directory) (entry : Entry) : Option (List Nat) := do
  let size ← typeSize? entry.type
  let form := directory.form
  if !isNumberType entry.type then none
  else
    let total := size * entry.count
    let place ←
      if total ≤ form.offsetSize then some entry.place
      else form.number? directory.data entry.place form.offsetSize
    if directory.data.size < place + total then none
    else
      (List.range entry.count).mapM fun index =>
        form.number? directory.data (place + size * index) size

/-- The values of an entry by its number, or other ones if there is none. -/
def Directory.values? (directory : Directory) (name : Nat) (otherwise : Option (List Nat)) :
    Option (List Nat) :=
  match directory.entries.lookup name with
  | some entry => directory.valuesOf? entry
  | none => otherwise

/-- The value of an entry that has to have one, within a limit. -/
def Directory.value? (directory : Directory) (name limit : Nat) (otherwise : Option Nat) :
    Option Nat := do
  match ← directory.values? name (otherwise.map fun value => [value]) with
  | [value] => if value ≤ limit then some value else none
  | _ => none

/-! ## The layout -/

/-- What samples mean. -/
inductive Colours where
  | gray
  /-- Gray with the greatest sample black. -/
  | inverted
  | rgb
  | rgba
  | cmyk
  deriving DecidableEq, Repr

/-- The parts in which pixels are stored: strips as wide as the picture, or tiles. -/
structure Parts where
  isTiled : Bool
  size : Size
  offsets : Array Nat
  lengths : Array Nat

/-- Where the pixels of a picture are, and what they mean. -/
structure Layout where
  size : Size
  colours : Colours
  samples : Nat
  depth : Nat
  compression : Nat
  /-- How samples are predicted: not at all, by the pixel on the left, or in a
  way that suits fractions only. -/
  predictor : Nat
  parts : Parts

/-- The samples that meanings have by their number. -/
def colours? (meaning samples : Nat) : Option Colours :=
  match meaning, samples with
  | 0, 1 => some .inverted
  | 1, 1 => some .gray
  | 2, 3 => some .rgb
  | 2, 4 => some .rgba
  | 5, 4 => some .cmyk
  | _, _ => none

/-- The depths that samples may have. -/
def Colours.depths : Colours → List Nat
  | .gray => [1, 8, 16]
  | .inverted => [1, 8, 16]
  | _ => [8, 16]

/-- The number of parts of an edge. -/
def partCount (edge part : Nat) : Nat :=
  (edge + part - 1) / part

/-- The largest number in two octets. -/
def shortLimit : Nat := 0xffff

/-- The largest number in four octets. -/
def longLimit : Nat := 0xffffffff

/-- The parts of a picture: either strips or tiles, as many as it takes. -/
def Directory.parts? (directory : Directory) (size : Size) : Option Parts := do
  let has (name : Nat) : Bool := (directory.entries.lookup name).isSome
  let strips := has 273 && has 279
  let tiles := has 324 && has 325
  if strips && !has 324 && !has 325 then
    let rows ← directory.value? 278 longLimit (some size.height)
    let offsets ← directory.values? 273 none
    let lengths ← directory.values? 279 none
    if rows = 0 then none
    else
      let count := partCount size.height rows
      if offsets.length = count && lengths.length = count then
        some ⟨false, ⟨size.width, min rows size.height⟩, offsets.toArray, lengths.toArray⟩
      else none
  else if tiles && !has 273 && !has 279 then
    let width ← directory.value? 322 longLimit none
    let height ← directory.value? 323 longLimit none
    let offsets ← directory.values? 324 none
    let lengths ← directory.values? 325 none
    if width = 0 || height = 0 then none
    else
      let count := partCount size.width width * partCount size.height height
      if offsets.length = count && lengths.length = count then
        some ⟨true, ⟨width, height⟩, offsets.toArray, lengths.toArray⟩
      else none
  else none

/-- The bits of all samples, which have to be the same. -/
def Directory.depth? (directory : Directory) (samples : Nat) : Option Nat := do
  let depths ← directory.values? 258 (some [1])
  let depth ← depths.head?
  if (depths.length = samples || depths.length = 1) && depths.all (· == depth) && depth ≠ 0 &&
      depth ≤ 255 then some depth
  else none

/-- Samples are numbers without a sign. -/
def Directory.isPlain (directory : Directory) : Bool :=
  match directory.values? 339 (some [1]) with
  | some formats => formats.all (· == 1)
  | none => false

/-- The layout of the picture in a file. -/
def layout? (data : ByteArray) : Option Layout := do
  let directory ← directory? data
  let width ← directory.value? 256 longLimit none
  let height ← directory.value? 257 longLimit none
  let meaning ← directory.value? 262 shortLimit none
  let compression ← directory.value? 259 shortLimit (some 1)
  let samples ← directory.value? 277 shortLimit (some 1)
  let depth ← directory.depth? samples
  let predictor ← directory.value? 317 shortLimit (some 1)
  let plane ← directory.value? 284 shortLimit (some 1)
  let colours ← colours? meaning samples
  if width = 0 || height = 0 || plane ≠ 1 || predictor = 0 || 3 < predictor ||
      !directory.isPlain || !colours.depths.contains depth then none
  else
    let parts ← directory.parts? ⟨width, height⟩
    some ⟨⟨width, height⟩, colours, samples, depth, compression, predictor, parts⟩

/-- The size of a picture. -/
def size? (data : ByteArray) : Option Size :=
  (layout? data).map Layout.size

/-! ## Pixels -/

/-- The number of octets that are unpacked in one go. -/
def windowSize : Nat := 32768

/-- Unpack a deflated part.  It is read a window at a time, and has to be right up
to the end of the window with the last octet that is wanted, its check sum
included. -/
def inflated? (packed : ByteArray) (wanted : Nat) : Option ByteArray :=
  let window := windowSize * partCount wanted windowSize
  let (output, ending) := Inflate.unpack ⟨true, window⟩ packed
  let isSound : Bool :=
    match ending with
    | .over next =>
      packed.size < next + 4 || Octets.big packed next 4 == Inflate.checkSum output
    | .enough => true
    | .cut => true
    | .wrong => false
  if isSound then some output else none

/-- The octets of a part from its offset on, as many as are wanted. -/
def unpacked? (data : ByteArray) (compression offset length wanted : Nat) : Option ByteArray := do
  let packed := data.extract offset (offset + length)
  let output ←
    match compression with
    | 1 => some (data.extract offset (offset + wanted))
    | 5 => some (Phrases.unpack packed wanted)
    | 8 => inflated? packed wanted
    | 32946 => inflated? packed wanted
    | 32773 => some (Runs.unpack packed wanted)
    | _ => none
  if wanted ≤ output.size then some output else none

namespace Layout

/-- Samples are differences to the pixel on the left. -/
def isDifferential (layout : Layout) : Bool :=
  layout.predictor == 2

/-- Samples can be predicted in the way that the layout says. -/
def isPredictable (layout : Layout) : Bool :=
  layout.predictor == 1 || (layout.isDifferential && layout.depth != 1)

/-- The number of octets of a row of so many pixels. -/
def rowOctets (layout : Layout) (width : Nat) : Nat :=
  (width * layout.samples * layout.depth + 7) / 8

/-- The number of parts beside each other. -/
def across (layout : Layout) : Nat :=
  partCount layout.size.width layout.parts.size.width

/-- The part of the picture that a part covers, by its index. -/
def covered (layout : Layout) (index : Nat) : Size :=
  let part := layout.parts.size
  ⟨min part.width (layout.size.width - index % layout.across * part.width),
    min part.height (layout.size.height - index / layout.across * part.height)⟩

/-- The rows of a part.  What is left over on the right of its last row need not
be there. -/
def part? (layout : Layout) (data : ByteArray) (index : Nat) : Option ByteArray :=
  let covered := layout.covered index
  let wanted := (covered.height - 1) * layout.rowOctets layout.parts.size.width +
    layout.rowOctets covered.width
  unpacked? data layout.compression (layout.parts.offsets.getD index 0)
    (layout.parts.lengths.getD index 0) wanted

/-- The sample at an index of a row that starts at an offset. -/
def storedSample (layout : Layout) (isBig : Bool) (rows : ByteArray) (start index : Nat) : Nat :=
  if layout.depth = 16 then
    if isBig then Octets.big rows (start + 2 * index) 2
    else Octets.little rows (start + 2 * index) 2
  else if layout.depth = 8 then Octets.octet rows (start + index)
  else (Octets.octet rows (start + index / 8) >>> (7 - index % 8)) % 2

/-- The sums of a row of differences. -/
def sumRow (layout : Layout) (isBig : Bool) (rows : ByteArray) (start : Nat) :
    (count : Nat) → Nat → Array Nat → Array Nat
  | 0, _, sums => sums
  | count + 1, index, sums =>
    let before := if layout.samples ≤ index then sums.getD (sums.size - layout.samples) 0 else 0
    let sum := before + layout.storedSample isBig rows start index
    sumRow layout isBig rows start count (index + 1) (sums.push (sum % (1 <<< layout.depth)))

/-- The samples of a part, row by row. -/
def sums (layout : Layout) (isBig : Bool) (index : Nat) (rows : ByteArray) : Array (Array Nat) :=
  let covered := layout.covered index
  (Array.range covered.height).map fun row =>
    sumRow layout isBig rows (row * layout.rowOctets layout.parts.size.width)
      (covered.width * layout.samples) 0 #[]

/-- A share of ink turned into light. -/
def light (top ink black : Nat) : Nat :=
  let rest := 1 - black.toFloat32 / top.toFloat32
  ((top.toFloat32 - ink.toFloat32) * rest).toUInt32.toNat

/-- Samples as they are shown. -/
def shown (layout : Layout) (top : Nat) (samples : List Nat) : List Nat :=
  let full := if layout.depth = 1 then samples.map (· * 255) else samples
  match layout.colours, full with
  | .inverted, _ => full.map (top - ·)
  | .cmyk, [cyan, magenta, yellow, black] =>
    [light top cyan black, light top magenta black, light top yellow black]
  | _, _ => full

end Layout

/-- Decode a picture. -/
def decode? (data : ByteArray) : Option Raster := do
  let layout ← layout? data
  let (form, _) ← form? data
  let size := layout.size
  let octets := size.width * size.height * layout.samples * (if layout.depth = 16 then 2 else 1)
  if rasterLimit < octets || !layout.isPredictable then none
  else
    let count := layout.across * partCount size.height layout.parts.size.height
    let parts ← (List.range count).mapM (layout.part? data ·)
    let parts := parts.toArray
    let sums := if layout.isDifferential then parts.mapIdx (layout.sums form.isBig) else #[]
    let top := if layout.depth = 16 then 65535 else 255
    let part := layout.parts.size
    some ⟨size, top, fun column row =>
      let index := row / part.height * layout.across + column / part.width
      let first := column % part.width * layout.samples
      layout.shown top ((List.range layout.samples).map fun sample =>
        if layout.isDifferential then
          ((sums.getD index #[]).getD (row % part.height) #[]).getD (first + sample) 0
        else
          layout.storedSample form.isBig (parts.getD index ByteArray.empty)
            (row % part.height * layout.rowOctets part.width) (first + sample))⟩

end Tiff
end MediaSite
