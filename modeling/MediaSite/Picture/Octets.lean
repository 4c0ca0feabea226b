namespace MediaSite

/-!
# Numbers in octets

File formats store numbers in a fixed count of octets, the most significant one
either first or last.  Octets behind the end of a file read as zero; readers
check sizes where that matters.
-/

namespace Octets

/-- The octet at an index. -/
def octet (data : ByteArray) (index : Nat) : Nat :=
  if h : index < data.size then data[index].toNat else 0

/-- The number in `count` octets, the most significant one first. -/
def big (data : ByteArray) (start : Nat) : (count : Nat) → Nat
  | 0 => 0
  | count + 1 => 256 * big data start count + octet data (start + count)

/-- The number in `count` octets, the least significant one first. -/
def little (data : ByteArray) (start : Nat) : (count : Nat) → Nat
  | 0 => 0
  | count + 1 => octet data start + 256 * little data (start + 1) count

/-- Whether these octets stand at an index. -/
def matchesAt (data : ByteArray) (start : Nat) : List Nat → Bool
  | [] => true
  | expected :: rest =>
    start < data.size && octet data start == expected && matchesAt data (start + 1) rest

end Octets
end MediaSite
