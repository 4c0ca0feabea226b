import MediaSite.Picture.Octets
import MediaSite.Picture.PrefixCode

namespace MediaSite

/-!
# Bits of coded blocks

Coded blocks are bits, the most significant one of an octet first.  A zero octet
stuffed behind `ff` is passed over, any other octet there is a marker, and behind
a marker or the end there are only zeros.  Octets are taken some time before
their bits are used, so a marker is noticed early.
-/

namespace Jpeg

/-- A supply of bits. -/
structure Feed where
  data : ByteArray
  /-- The next octet to take. -/
  index : Nat
  /-- The bits that are taken and not used, as a number of `count` bits. -/
  held : Nat := 0
  count : Nat := 0
  marker : Option Nat := none
  /-- The marker at the end was passed. -/
  isOver : Bool := false
  /-- The number of octets taken at the end and behind it. -/
  missing : Nat := 0

/-- Whether an octet behind `ff` is a marker. -/
def isMarker (kind : Nat) : Bool :=
  (0xc0 ≤ kind && kind ≤ 0xdd && kind != 0xc8) || (0xe0 ≤ kind && kind ≤ 0xef) || kind == 0xfe

/-- Whether a marker restarts the blocks. -/
def isRestart (kind : Nat) : Bool :=
  0xd0 ≤ kind && kind ≤ 0xd7

/-- The index of the first octet that is not `ff`. -/
def behindFill (data : ByteArray) : (count : Nat) → Nat → Nat
  | 0, index => index
  | count + 1, index =>
    if Octets.octet data index = 0xff then behindFill data count (index + 1) else index

namespace Feed

/-- Take an octet, or notice a marker.  There are no unknown markers. -/
def takeOctet? (feed : Feed) : Option Feed :=
  if feed.marker.isSome then some feed
  else
    let octet := Octets.octet feed.data feed.index
    let missing := feed.missing + (if feed.data.size ≤ feed.index + 1 then 1 else 0)
    let taken (index : Nat) : Feed :=
      { feed with
        index := min index feed.data.size
        held := 256 * feed.held + octet
        count := feed.count + 8
        missing }
    if octet = 0xff then
      let index := behindFill feed.data feed.data.size (feed.index + 1)
      let kind := Octets.octet feed.data index
      if kind = 0 then some (taken (index + 1))
      else if isMarker kind then some { feed with index := index + 1, marker := kind, missing }
      else none
    else some (taken (feed.index + 1))

/-- Four octets that are all there and can have no marker among them. -/
def isPlain (feed : Feed) : Bool :=
  feed.index + 4 ≤ feed.data.size &&
    (List.range 4).all fun place => Octets.octet feed.data (feed.index + place) != 0xff

/-- Take octets as long as there are less than four. -/
def refill? (feed : Feed) : Option Feed :=
  if 32 ≤ feed.count || feed.marker.isSome || feed.isOver then some feed
  else if feed.isPlain then
    some { feed with
      index := feed.index + 4
      held := 4294967296 * feed.held + Octets.big feed.data feed.index 4
      count := feed.count + 32 }
  else do
    let feed ← feed.takeOctet?
    let feed ← feed.takeOctet?
    let feed ← feed.takeOctet?
    feed.takeOctet?

/-- The number in the next bits, without using them. -/
def peek (feed : Feed) (count : Nat) : Nat :=
  if count ≤ feed.count then feed.held >>> (feed.count - count)
  else feed.held <<< (count - feed.count)

/-- Use bits. -/
def drop (feed : Feed) (count : Nat) : Feed :=
  let left := feed.count - count
  { feed with held := feed.held % (1 <<< left), count := left }

/-- The number in the next bits. -/
def take (feed : Feed) (count : Nat) : Nat × Feed :=
  (feed.peek count, feed.drop count)

/-- The next symbol of a code: its words are compared with the next sixteen bits. -/
def symbol? (code : PrefixCode) (feed : Feed) : Option (Nat × Feed) := do
  let feed ← feed.refill?
  go feed (feed.peek 16) code.counts 1 0 0
where
  /-- Look for a word of some length or more. -/
  go (feed : Feed) (ahead : Nat) : List Nat → (length first index : Nat) → Option (Nat × Feed)
    | [], _, _, _ => none
    | count :: rest, length, first, index =>
      let word := ahead >>> (16 - length)
      if word < first + count then
        some (code.symbols.getD (index + (word - first)) 0, feed.drop length)
      else go feed ahead rest (length + 1) (2 * (first + count)) (index + count)

/-- A signed number of some bits: the lower half stands for negative numbers. -/
def signed (feed : Feed) (count : Nat) : Int × Feed :=
  let (value, feed) := feed.take count
  if count = 0 then (0, feed)
  else if value < 1 <<< (count - 1) then ((value : Int) + 1 - (1 <<< count : Nat), feed)
  else (value, feed)

/-- Forget the bits and the marker. -/
def reset (feed : Feed) : Feed :=
  { feed with held := 0, count := 0, marker := none }

/-- The next marker from an index on, given the octet before: its kind, and the
index behind it. -/
def markerFrom? (data : ByteArray) : (count : Nat) → (last index : Nat) → Option (Nat × Nat)
  | 0, _, _ => none
  | count + 1, last, index =>
    if data.size ≤ index then none
    else
      let octet := Octets.octet data index
      if last = 0xff && octet ≠ 0xff && octet ≠ 0 then
        if isMarker octet then some (octet, index + 1) else markerFrom? data count octet (index + 1)
      else markerFrom? data count octet (index + 1)

/-- The marker that is next: one that was noticed, or the first in the octets
that follow. -/
def nextMarker? (feed : Feed) : Option (Nat × Feed) :=
  match feed.marker with
  | some kind => some (kind, { feed with marker := none })
  | none =>
    (markerFrom? feed.data feed.data.size 0 feed.index).map fun found =>
      (found.1, { feed with index := found.2 })

end Feed
end Jpeg
end MediaSite
