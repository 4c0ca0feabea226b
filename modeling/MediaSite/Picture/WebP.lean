import MediaSite.Picture.Raster
import MediaSite.Picture.WebP.Lossless
import MediaSite.Picture.WebP.Lossy

namespace MediaSite

/-!
# WebP files

A WebP file is a container of chunks.  The first chunk is a picture, coded with or
without loss, or announces further chunks: pictures, their opacity, and the frames
of an animation, of which the first one is shown.
-/

namespace WebP

/-- The first octets of a file. -/
def signature : List Nat :=
  [0x52, 0x49, 0x46, 0x46]

/-- The octets behind the signature and the size of the container. -/
def mark : List Nat :=
  [0x57, 0x45, 0x42, 0x50]

/-- The name of a chunk with a picture coded with loss. -/
def lossyName : Nat := 0x56503820

/-- The name of a chunk with a picture coded without loss. -/
def losslessName : Nat := 0x5650384c

/-- The name of a chunk that announces further ones. -/
def extendedName : Nat := 0x56503858

/-- The name of a chunk with the opacity of a picture. -/
def opacityName : Nat := 0x414c5048

/-- The name of a chunk about an animation. -/
def animationName : Nat := 0x414e494d

/-- The name of a chunk with a frame of an animation. -/
def frameName : Nat := 0x414e4d46

/-- The names of chunks that say more about a picture, by the bits that announce them. -/
def detailNames : List (Nat × Nat) :=
  [(8, 0x45584946), (4, 0x584d5020)]

/-- Whether a file has this form. -/
def isWebP (data : ByteArray) : Bool :=
  Octets.matchesAt data 0 signature && Octets.matchesAt data 8 mark

/-! ## Chunks -/

/-- A chunk: its name, and where its data is. -/
structure Chunk where
  name : Nat
  start : Nat
  size : Nat

/-- The chunk at an index, if its head is there. -/
def chunkAt? (data : ByteArray) (start : Nat) : Option Chunk :=
  if start + 8 ≤ data.size then
    some ⟨Octets.big data start 4, start + 8, Octets.little data (start + 4) 4⟩
  else none

/-- The index behind the data of a chunk. -/
def Chunk.stop (chunk : Chunk) : Nat :=
  chunk.start + chunk.size

/-- The index of what follows a chunk. -/
def Chunk.next (chunk : Chunk) : Nat :=
  chunk.stop + chunk.size % 2

/-- The data of a chunk, as far as it is there. -/
def Chunk.content (chunk : Chunk) (data : ByteArray) : ByteArray :=
  data.extract chunk.start chunk.stop

/-- The number of octets in front of the picture of a frame. -/
def frameHead : Nat := 16

/-- The chunks from an index up to a limit.  A frame has to have its own head, and
that of its picture unless a frame before is lossy. -/
def chunksFrom? (data : ByteArray) (limit : Nat) : (count start : Nat) → (isLossy : Bool) →
    Option (List Chunk)
  | 0, _, _ => none
  | count + 1, start, isLossy =>
    if limit ≤ start then some []
    else
      match chunkAt? data start with
      | none => some []
      | some chunk =>
        if chunk.name = frameName then do
          if chunk.size < 24 || data.size < chunk.start + frameHead then none
          else
            let isLossy ←
              if isLossy then some true
              else
                (chunkAt? data (chunk.start + frameHead)).map fun inner =>
                  inner.name = lossyName || inner.name = opacityName
            let rest ← chunksFrom? data limit count chunk.next isLossy
            some (chunk :: rest)
        else do
          let rest ← chunksFrom? data limit count chunk.next isLossy
          some (chunk :: rest)

/-- The chunks in the frame of an animation, at most two. -/
def frameChunks? (data : ByteArray) (frame : Chunk) : Option (List Chunk) := do
  let first ← chunkAt? data (frame.start + frameHead)
  if frame.stop < first.next + 8 then some [first]
  else
    let second ← chunkAt? data first.next
    some [first, second]

/-- A container: the size of its picture, and the chunks in it. -/
structure Container where
  size : Size
  hasAlpha : Bool
  isAnimated : Bool
  chunks : List Chunk

/-- The first chunk with a name. -/
def Container.chunk? (container : Container) (name : Nat) : Option Chunk :=
  container.chunks.find? (·.name == name)

/-- Whether a number has a bit. -/
def hasBit (number bit : Nat) : Bool :=
  number / bit % 2 == 1

/-- A container with further chunks behind the first one. -/
def extended? (data : ByteArray) (first : Chunk) : Option Container := do
  let flags := Octets.octet data first.start
  let size : Size :=
    ⟨Octets.little data (first.start + 4) 3 + 1, Octets.little data (first.start + 7) 3 + 1⟩
  let limit := first.next + (Octets.little data 4 4 - 12)
  if data.size < first.start + 10 || 0x100000000 ≤ size.width * size.height then none
  else
    let chunks ← chunksFrom? data limit (data.size + 1) first.next false
    let has (name : Nat) : Bool := chunks.any (·.name == name)
    let isAnimated := hasBit flags 2
    let isWhole : Bool :=
      if isAnimated then
        (chunks.find? (·.name == animationName)).any (fun chunk =>
          chunk.size == 6 && chunk.stop ≤ data.size) && has frameName
      else has lossyName != has losslessName
    if isWhole && detailNames.all (fun item => !hasBit flags item.1 || has item.2) then
      let inner ←
        match chunks.find? (·.name == frameName) with
        | some frame => frameChunks? data frame
        | none => some []
      some ⟨size, hasBit flags 16, isAnimated, chunks ++ inner⟩
    else none

/-- The container of a file. -/
def container? (data : ByteArray) : Option Container := do
  if !isWebP data then none
  else
    let first ← chunkAt? data 12
    if first.name = lossyName then
      let size ← Lossy.size? (data.extract first.start data.size)
      some ⟨size, false, false, [first]⟩
    else if first.name = losslessName then
      let head := Octets.little data (first.start + 1) 4
      if first.start + 5 ≤ data.size && Octets.octet data first.start = 0x2f &&
          head / 0x20000000 = 0 then
        some ⟨⟨(head + 1) % 0x4000, (head / 0x4000 + 1) % 0x4000⟩, hasBit head 0x10000000, false,
          [first]⟩
      else none
    else if first.name = extendedName then extended? data first
    else none

/-- The size of a picture. -/
def size? (data : ByteArray) : Option Size :=
  (container? data).map Container.size

/-! ## Pictures -/

/-- Samples of red, green, blue and opacity. -/
abbrev Samples := (column row : Nat) → List Nat

/-- The samples of a picture without loss. -/
def lossless? (data : ByteArray) (size : Size) : Option Samples := do
  let (pixels, _) ← (Reading.sizedPixels size.width size.height).run ⟨data, 0⟩
  some fun column row =>
    let pixel := pixels.getD (row * size.width + column) 0
    [2, 1, 0, 3].map (Reading.channel pixel)

/-- The samples of a lossy picture, which has no opacity of its own. -/
def lossy? (data : ByteArray) (size : Size) : Option Samples := do
  let decoded ← Lossy.decode? data
  if decoded.size = size then some decoded.pixel else none

/-- The prediction of opacity in a way, from the opacity to the left, above, and in
between. -/
def opacityPrediction (way left above corner : Nat) : Nat :=
  match way with
  | 1 => left
  | 2 => above
  | 3 => Reading.clampedOctet ((left + above : Int) - corner)
  | _ => 0

/-- Add predictions to opacity.  In the first row there is only the left neighbour,
in the first column only the upper one. -/
def predictedOpacity (width way : Nat) (differences : Array Nat) : Array Nat :=
  differences.foldl (fun (done : Array Nat) difference =>
    let place := done.size
    let earlier (back : Nat) : Nat := done.getD (place - back) 0
    let guess :=
      if way = 0 || place = 0 then 0
      else if place < width then earlier 1
      else if place % width = 0 then earlier width
      else opacityPrediction way (earlier 1) (earlier width) (earlier (width + 1))
    done.push ((guess + difference) % 256)) #[]

/-- The opacity of a picture, row by row. -/
def opacity? (data : ByteArray) (size : Size) : Option (Array Nat) := do
  let head := Octets.octet data 0
  let count := size.width * size.height
  let body := data.extract 1 data.size
  if data.isEmpty || 2 ≤ head / 16 % 4 then none
  else
    let differences ←
      match head % 4 with
      | 0 => if body.size < count then none else some ((Array.range count).map (Octets.octet body))
      | 1 => do
        let (pixels, _) ← (Reading.pixels size.width size.height).run ⟨body, 0⟩
        some (pixels.map fun pixel => Reading.channel pixel 1)
      | _ => none
    some (predictedOpacity size.width (head / 4 % 4) differences)

/-- Samples with other opacity. -/
def withOpacity (samples : Samples) (size : Size) (opacity : Array Nat) : Samples :=
  fun column row => samples column row ++ [opacity.getD (row * size.width + column) 0]

/-! ## Animations -/

/-- A frame of an animation: where it is, and its samples. -/
structure Frame where
  column : Nat
  row : Nat
  size : Size
  isBlended : Bool
  samples : Samples

/-- The samples of a frame, whose picture may have opacity in front of it. -/
def frameSamples? (data : ByteArray) (frame : Chunk) (size : Size) : Option Samples := do
  let chunk ← chunkAt? data (frame.start + frameHead)
  if frame.size < chunk.next - chunk.start + 24 then none
  else if chunk.name = lossyName then lossy? (chunk.content data) size
  else if chunk.name = losslessName then lossless? (chunk.content data) size
  else if chunk.name = opacityName then
    if frame.size < chunk.next - chunk.start + 32 then none
    else
      let opacity ← opacity? (chunk.content data) size
      let picture ← chunkAt? data chunk.next
      if frame.size < chunk.size + picture.size + 32 then none
      else
        let samples ← lossy? (picture.content data) size
        some (withOpacity samples size opacity)
  else none

/-- Read a frame of a picture of a size. -/
def frame? (data : ByteArray) (whole : Size) (frame : Chunk) : Option Frame := do
  let number (place : Nat) : Nat := Octets.little data (frame.start + place) 3
  let column := 2 * number 0
  let row := 2 * number 3
  let size : Size := ⟨number 6 + 1, number 9 + 1⟩
  if frame.size < 32 || 16384 < size.width || 16384 < size.height ||
      whole.width < column + size.width || whole.height < row + size.height then none
  else
    let samples ← frameSamples? data frame size
    some ⟨column, row, size, !hasBit (Octets.octet data (frame.start + 15)) 2, samples⟩

/-- A sample laid over nothing: it is weighted with its opacity in 2^24ths. -/
def overNothing (opacity sample : Nat) : Nat :=
  sample * opacity * (0x1000000 / opacity) / 0x1000000

/-- The samples of a frame over nothing. -/
def Frame.shown (frame : Frame) (column row : Nat) : List Nat :=
  if column < frame.column || row < frame.row || frame.column + frame.size.width ≤ column ||
      frame.row + frame.size.height ≤ row then [0, 0, 0, 0]
  else
    match frame.samples (column - frame.column) (row - frame.row) with
    | [red, green, blue, alpha] =>
      if !frame.isBlended then [red, green, blue, alpha]
      else if alpha = 0 then [0, 0, 0, 0]
      else [red, green, blue].map (overNothing alpha) ++ [alpha]
    | samples => samples ++ [255]

/-! ## Files -/

/-- The samples of the picture in a container. -/
def Container.samples? (container : Container) (data : ByteArray) : Option Samples := do
  let size := container.size
  if container.isAnimated then
    let frame ← frame? data size (← container.chunk? frameName)
    some frame.shown
  else
    match container.chunk? losslessName with
    | some chunk => lossless? (chunk.content data) size
    | none =>
      let chunk ← container.chunk? lossyName
      let samples ← lossy? (chunk.content data) size
      if container.hasAlpha then
        let opacity ← container.chunk? opacityName
        some (withOpacity samples size (← opacity? (opacity.content data) size))
      else some samples

/-- Decode a picture. -/
def decode? (data : ByteArray) : Option Raster := do
  let container ← container? data
  let size := container.size
  let channels := if container.hasAlpha then 4 else 3
  if rasterLimit < size.width * size.height * channels then none
  else
    let samples ← container.samples? data
    some ⟨size, 255, fun column row => (samples column row).take channels⟩

end WebP
end MediaSite
