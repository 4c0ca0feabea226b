namespace MediaSite

/-!
# Canonical prefix codes

A canonical code is given by the lengths of its words alone: words of one length
are consecutive numbers in the order of their symbols, and every word is greater
than all shorter ones.  `free?` says how many words of the greatest length are
left over; a code is complete when there are none.
-/

/-- A canonical code: how many words there are of each length from one on, and
the symbols in the order of their words. -/
structure PrefixCode where
  counts : List Nat
  symbols : Array Nat

namespace PrefixCode

/-- The code with these word lengths, zero for symbols without a word and none
over `longest`. -/
def ofLengths (longest : Nat) (lengths : List Nat) : PrefixCode where
  counts := (List.range longest).map fun length => lengths.count (length + 1)
  symbols := ((List.range longest).flatMap fun length =>
    (lengths.zipIdx.filter fun item => item.1 == length + 1).map (·.2)).toArray

/-- The words that are left at the greatest length, given how many there are at
the length before; nothing if there are more words than fit. -/
def free? : (counts : List Nat) → Nat → Option Nat
  | [], free => some free
  | count :: rest, free => if 2 * free < count then none else free? rest (2 * free - count)

/-- Every sequence of bits begins with a word. -/
def isComplete (code : PrefixCode) : Bool :=
  free? code.counts 1 == some 0

/-- The next symbol of a supply of bits: words are compared with the first one
of each length. -/
def decode? {β : Type} (next : β → Option (Nat × β)) (code : PrefixCode) (bits : β) :
    Option (Nat × β) :=
  go code.counts 0 0 0 bits
where
  /-- Look for a word among those with the remaining lengths. -/
  go : List Nat → (word first index : Nat) → β → Option (Nat × β)
    | [], _, _, _, _ => none
    | count :: rest, word, first, index, bits => do
      let (bit, bits) ← next bits
      let word := word + bit
      if word < first + count then
        (code.symbols[index + (word - first)]?).map fun symbol => (symbol, bits)
      else go rest (2 * word) (2 * (first + count)) (index + count) bits

end PrefixCode
end MediaSite
