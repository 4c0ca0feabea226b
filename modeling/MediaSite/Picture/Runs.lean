import MediaSite.Picture.Octets

namespace MediaSite

/-!
# Packed runs

Runs are octets that each stand for themselves or for several copies.  Unpacking
gives as much output as there is, up to what is asked for.
-/

namespace Runs

/-- Unpack from an index on, with at most `count` runs. -/
def unpackFrom (data : ByteArray) (wanted : Nat) : (count : Nat) → Nat → ByteArray → ByteArray
  | 0, _, output => output
  | count + 1, index, output =>
    if data.size ≤ index || wanted ≤ output.size then output
    else
      let head := Octets.octet data index
      if head < 128 then
        unpackFrom data wanted count (index + head + 2)
          (output ++ data.extract (index + 1) (index + head + 2))
      else if head = 128 then unpackFrom data wanted count (index + 1) output
      else if data.size ≤ index + 1 then output
      else
        unpackFrom data wanted count (index + 2)
          (output ++ ⟨Array.replicate (257 - head) (Octets.octet data (index + 1)).toUInt8⟩)

/-- Unpack runs. -/
def unpack (data : ByteArray) (wanted : Nat) : ByteArray :=
  unpackFrom data wanted data.size 0 ByteArray.empty

end Runs

end MediaSite
