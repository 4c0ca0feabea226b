import MediaSite.Picture.Basic
import MediaSite.Picture.Octets
import MediaSite.Picture.PrefixCode

namespace MediaSite

/-!
# Segments of a JPEG file

A JPEG file begins with segments, each behind a marker: tables, a frame with the
size and the components, and the start of a scan, behind which the coded blocks
are.  A heading is what the segments up to the last scan say.  Segments between
scans change it in the same way.
-/

namespace Jpeg

/-- The first octets of a file. -/
def signature : List Nat :=
  [0xff, 0xd8, 0xff]

/-- One component of a frame: how many of its samples there are to one of the
coarsest component, and the number of its scale. -/
structure Component where
  id : Nat
  horizontal : Nat
  vertical : Nat
  table : Nat

/-- The frame of a picture. -/
structure Frame where
  isProgressive : Bool
  size : Size
  components : Array Component

/-- What the values of the components mean. -/
inductive Space where
  | gray
  /-- Luminance and two colour differences. -/
  | difference
  | rgb
  /-- Four inks, with full ink for zero. -/
  | ink
  /-- Inks as luminance, two colour differences, and black. -/
  | inkDifference
  deriving DecidableEq, Repr

/-- The number of components of a space. -/
def Space.channels : Space → Nat
  | .gray => 1
  | .difference => 3
  | .rgb => 3
  | .ink => 4
  | .inkDifference => 4

/-- A scan: the components in it by their places in the frame, the coefficients
that it gives, and which of their bits. -/
structure Scan where
  components : List Nat
  first : Nat
  last : Nat
  high : Nat
  low : Nat

/-- Two kinds of codes, for means of blocks and for the coefficients behind. -/
inductive CodeKind where
  | mean
  | detail
  deriving DecidableEq, Repr

/-- What the segments say.  In lists the latest entries come first. -/
structure Heading where
  frame : Option Frame := none
  /-- The factors of coefficients, in reading order. -/
  scales : List (Nat × Array Nat) := []
  codes : List ((CodeKind × Nat) × PrefixCode) := []
  /-- The numbers of the codes for means and details, by component. -/
  chosen : List (Nat × (Nat × Nat)) := []
  /-- The number of units between restarts, zero for no restarts. -/
  interval : Nat := 0
  space : Space := .difference
  scan : Option Scan := none

/-- The places of coefficients in a block in the order in which they are stored. -/
def zigzag : Array Nat :=
  #[0, 1, 8, 16, 9, 2, 3, 10, 17, 24, 32, 25, 18, 11, 4, 5, 12, 19, 26, 33, 40, 48, 41, 34, 27, 20,
    13, 6, 7, 14, 21, 28, 35, 42, 49, 56, 57, 50, 43, 36, 29, 22, 15, 23, 30, 37, 44, 51, 58, 59,
    52, 45, 38, 31, 39, 46, 53, 60, 61, 54, 47, 55, 62, 63]

/-- The number of octets of the segment at an index, its own two octets included. -/
def segmentSize? (data : ByteArray) (start : Nat) : Option Nat :=
  if start + 2 ≤ data.size && 2 ≤ Octets.big data start 2 then some (Octets.big data start 2)
  else none

/-! ## Frames -/

/-- The components of a frame from an index on. -/
def componentsFrom (data : ByteArray) : (count : Nat) → Nat → List Component
  | 0, _ => []
  | count + 1, start =>
    ⟨Octets.octet data start, Octets.octet data (start + 1) / 16,
      Octets.octet data (start + 1) % 16, Octets.octet data (start + 2)⟩ ::
      componentsFrom data count (start + 3)

/-- A component can be read: its scale has a number below four, and the numbers
of samples are powers of two. -/
def Component.isReadable (component : Component) : Bool :=
  [1, 2, 4, 8].contains component.horizontal && [1, 2, 4, 8].contains component.vertical &&
    component.table < 4

/-- Read a frame.  There is only one. -/
def Heading.withFrame? (heading : Heading) (data : ByteArray) (isProgressive : Bool)
    (start : Nat) : Option (Heading × Nat) := do
  let size ← segmentSize? data start
  let count := Octets.octet data (start + 7)
  let area : Size := ⟨Octets.big data (start + 5) 2, Octets.big data (start + 3) 2⟩
  let components := componentsFrom data count (start + 8)
  if heading.frame.isNone && start + size ≤ data.size && Octets.octet data (start + 2) = 8 &&
      size = 8 + 3 * count && count ≠ 0 && count ≤ 4 && area.width ≠ 0 && area.height ≠ 0 &&
      components.all (·.isReadable) then
    let space :=
      if count = 1 then .gray
      else if count = 4 && heading.space = .difference then .ink
      else heading.space
    some ({ heading with frame := some ⟨isProgressive, area, components.toArray⟩, space },
      start + size)
  else none

/-! ## Tables -/

/-- Factors in the order in which they are stored, brought into reading order. -/
def readingOrder (stored : Nat → Nat) : Array Nat :=
  (List.range 64).foldl (fun factors index =>
    factors.setIfInBounds (zigzag.getD index 0) (stored index)) (Array.replicate 64 0)

/-- Read scales from an index on, in so many octets. -/
def scalesFrom? (data : ByteArray) : (count : Nat) → (start left : Nat) →
    List (Nat × Array Nat) → Option (List (Nat × Array Nat))
  | 0, _, _, _ => none
  | count + 1, start, left, found =>
    if left = 0 then some found
    else
      let width := Octets.octet data start / 16 + 1
      let id := Octets.octet data start % 16
      let size := 1 + 64 * width
      if 2 < width || left < size || data.size < start + size || 4 ≤ id then none
      else
        let factors := readingOrder fun index => Octets.big data (start + 1 + width * index) width
        scalesFrom? data count (start + size) (left - size) ((id, factors) :: found)

/-- Read a segment with scales. -/
def Heading.withScales? (heading : Heading) (data : ByteArray) (start : Nat) :
    Option (Heading × Nat) := do
  let size ← segmentSize? data start
  let scales ← scalesFrom? data size (start + 2) (size - 2) heading.scales
  some ({ heading with scales }, start + size)

/-- No word is made of ones only, at any length that is in use. -/
def leavesOnes : (counts : List Nat) → Nat → Bool
  | [], _ => true
  | count :: rest, free => count < 2 * free && leavesOnes rest (2 * free - count)

/-- The counts up to the last length that is in use. -/
def usedCounts (counts : List Nat) : List Nat :=
  (counts.reverse.dropWhile (· == 0)).reverse

/-- Read codes from an index on, in so many octets. -/
def codesFrom? (data : ByteArray) : (count : Nat) → (start left : Nat) →
    List ((CodeKind × Nat) × PrefixCode) → Option (List ((CodeKind × Nat) × PrefixCode))
  | 0, _, _, _ => none
  | count + 1, start, left, found =>
    if left ≤ 16 then if left = 0 then some found else none
    else
      let kind := Octets.octet data start / 16
      let id := Octets.octet data start % 16
      let counts := (List.range 16).map fun index => Octets.octet data (start + 1 + index)
      let total := counts.foldl (· + ·) 0
      let symbols := (List.range total).map fun index => Octets.octet data (start + 17 + index)
      if data.size < start + 17 + total || 1 < kind || 4 ≤ id || 256 < total ||
          left < 17 + total || !leavesOnes (usedCounts counts) 1 ||
          (kind = 0 && symbols.any (15 < ·)) then none
      else
        codesFrom? data count (start + 17 + total) (left - 17 - total)
          (((if kind = 0 then .mean else .detail, id), ⟨counts, symbols.toArray⟩) :: found)

/-- Read a segment with codes. -/
def Heading.withCodes? (heading : Heading) (data : ByteArray) (start : Nat) :
    Option (Heading × Nat) := do
  let size ← segmentSize? data start
  let codes ← codesFrom? data size (start + 2) (size - 2) heading.codes
  some ({ heading with codes }, start + size)

/-! ## Scans -/

/-- The components of a scan from an index on: their places, and the numbers of
their codes. -/
def selectedFrom? (data : ByteArray) (frame : Frame) : (count : Nat) → Nat →
    Option (List (Nat × (Nat × Nat)))
  | 0, _ => some []
  | count + 1, start => do
    let id := Octets.octet data start
    let codes := Octets.octet data (start + 1)
    let place ← frame.components.findIdx? (·.id == id)
    let rest ← selectedFrom? data frame count (start + 2)
    some ((place, (codes / 16, codes % 16)) :: rest)

/-- Whether a number occurs twice. -/
def repeats : List Nat → Bool
  | [] => false
  | number :: rest => rest.contains number || repeats rest

/-- Read the start of a scan. -/
def Heading.withScan? (heading : Heading) (data : ByteArray) (start : Nat) :
    Option (Heading × Nat) := do
  let size ← segmentSize? data start
  let frame ← heading.frame
  let count := Octets.octet data (start + 2)
  let ids := (List.range count).map fun index => Octets.octet data (start + 3 + 2 * index)
  let selected ← selectedFrom? data frame count (start + 3)
  let place := start + 3 + 2 * count
  let first := Octets.octet data place
  let last := Octets.octet data (place + 1)
  let bits := Octets.octet data (place + 2)
  if size = 6 + 2 * count && start + size ≤ data.size && 1 ≤ count && count ≤ 4 &&
      !repeats ids && first ≤ 63 && last ≤ 63 && bits / 16 ≤ 13 && bits % 16 ≤ 13 then
    some ({ heading with
        scan := some ⟨selected.map (·.1), first, last, bits / 16, bits % 16⟩
        chosen := selected ++ heading.chosen }, start + size)
  else none

/-! ## Segments -/

/-- Read the interval of restarts. -/
def Heading.withInterval? (heading : Heading) (data : ByteArray) (start : Nat) :
    Option (Heading × Nat) := do
  let size ← segmentSize? data start
  if size = 4 && start + 4 ≤ data.size then
    some ({ heading with interval := Octets.big data (start + 2) 2 }, start + 4)
  else none

/-- The octets of a segment that says what components mean. -/
def spaceMark : List Nat :=
  [0x41, 0x64, 0x6f, 0x62, 0x65]

/-- Read what the components mean, if the segment says so. -/
def Heading.withSpace? (heading : Heading) (data : ByteArray) (start : Nat) :
    Option (Heading × Nat) := do
  let size ← segmentSize? data start
  if size < 14 then none
  else if Octets.matchesAt data (start + 2) spaceMark then
    let space ←
      match Octets.octet data (start + 13) with
      | 0 => some .ink
      | 1 => some .difference
      | 2 => some .inkDifference
      | _ => none
    if start + 14 ≤ data.size then some ({ heading with space }, start + size) else none
  else some (heading, start + size)

/-- Frames whose blocks are coded in a way that is not supported. -/
def isOtherFrame (kind : Nat) : Bool :=
  [0xc3, 0xc5, 0xc6, 0xc7, 0xc9, 0xca, 0xcb, 0xcd, 0xce, 0xcf].contains kind

/-- The marker of a scan. -/
def scanMarker : Nat := 0xda

/-- The marker at the end. -/
def endMarker : Nat := 0xd9

/-- Read the segment behind a marker at an index: the new heading, and the index
behind the segment. -/
def Heading.withSegment? (heading : Heading) (data : ByteArray) (kind start : Nat) :
    Option (Heading × Nat) :=
  if kind = 0xc0 || kind = 0xc1 then heading.withFrame? data false start
  else if kind = 0xc2 then heading.withFrame? data true start
  else if isOtherFrame kind || kind = 0xcc || kind = 0xdc || kind = endMarker then none
  else if kind = 0xc4 then heading.withCodes? data start
  else if kind = 0xdb then heading.withScales? data start
  else if kind = scanMarker then heading.withScan? data start
  else if kind = 0xdd then heading.withInterval? data start
  else if kind = 0xee then heading.withSpace? data start
  else (segmentSize? data start).map fun size => (heading, start + size)

/-- Pass over octets that fill the space in front of a marker: the last of them,
and the index behind. -/
def skipFill (data : ByteArray) : (count : Nat) → (last index : Nat) → Nat × Nat
  | 0, last, index => (last, index)
  | count + 1, last, index =>
    let octet := Octets.octet data index
    if index < data.size && (octet = 0xff || octet = 0) then skipFill data count octet (index + 1)
    else (last, index)

/-- Read segments from an index on up to the start of a scan, given the octet
before.  Octets between segments are passed over. -/
def headingFrom? (data : ByteArray) : (count : Nat) → (last index : Nat) → Heading →
    Option (Heading × Nat)
  | 0, _, _, _ => none
  | count + 1, last, index, heading => do
    let (last, index) := if last = 0xff then skipFill data data.size last index else (last, index)
    if data.size ≤ index then none
    else
      let octet := Octets.octet data index
      if last = 0xff then
        let (heading, stop) ← heading.withSegment? data octet (index + 1)
        if octet = scanMarker then some (heading, stop)
        else headingFrom? data count octet stop heading
      else headingFrom? data count octet (index + 1) heading

/-- Components that are named for the colours themselves. -/
def colourNames : Array Nat :=
  #[0x52, 0x47, 0x42]

/-- The heading of a file, and the index of the coded blocks. -/
def heading? (data : ByteArray) : Option (Heading × Nat) := do
  if !Octets.matchesAt data 0 [0xff, 0xd8] then none
  else
    let (heading, start) ← headingFrom? data data.size 0 2 {}
    let frame ← heading.frame
    if frame.components.map (·.id) = colourNames then some ({ heading with space := .rgb }, start)
    else some (heading, start)

/-- The size of a picture. -/
def size? (data : ByteArray) : Option Size := do
  let (heading, _) ← heading? data
  let frame ← heading.frame
  some frame.size

end Jpeg
end MediaSite
