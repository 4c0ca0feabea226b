import MediaSite.Picture.Octets
import MediaSite.Picture.PrefixCode

namespace MediaSite

/-!
# Deflated data

A deflated stream is a sequence of blocks: stored octets, or literals and
copies of earlier output coded in canonical prefix codes.  Bits are taken from
each octet with the least significant one first.

A reader says how many octets it wants, and gets the output up to that many
together with the reason why unpacking stopped; data that is cut off or wrong
still gives the octets before the fault.  `steps` bounds the number of symbols;
every symbol takes a bit, so the number of bits of the input is enough.
-/

namespace Inflate

/-- Why unpacking stopped. -/
inductive Ending where
  /-- The last block is over, and the stream ends at an octet. -/
  | over (next : Nat)
  /-- There is as much output as was asked for. -/
  | enough
  /-- The data is cut off. -/
  | cut
  /-- The data is no deflated stream. -/
  | wrong
  deriving DecidableEq, Repr

/-- Where unpacking stands. -/
structure State where
  data : ByteArray
  /-- The number of bits that are read. -/
  position : Nat
  output : ByteArray

/-- A step of unpacking, which may stop it. -/
abbrev Unpacking := EStateM Ending State

/-- Which streams are taken for deflated ones. -/
structure Rules where
  /-- Codes may be incomplete if they have only one word or none, and copies may
  reach before the output, where there are zeros. -/
  loose : Bool
  /-- The output that is asked for. -/
  wanted : Nat

/-- The next bit. -/
def bit : Unpacking Nat := do
  let position := (← get).position
  if position < 8 * (← get).data.size then
    let octet := Octets.octet (← get).data (position / 8)
    modify fun state => { state with position := position + 1 }
    return (octet >>> (position % 8)) % 2
  else throw .cut

/-- The number in the next bits, the least significant one first. -/
def bits : (count : Nat) → Unpacking Nat
  | 0 => return 0
  | count + 1 => do
    let low ← bit
    let high ← bits count
    return low + 2 * high

/-- The next symbol of a code: words are compared with the first one of each
length. -/
def symbol (code : PrefixCode) : Unpacking Nat :=
  go code.counts 0 0 0
where
  /-- Look for a word among those with the remaining lengths. -/
  go : List Nat → (word first index : Nat) → Unpacking Nat
    | [], _, _, _ => throw .wrong
    | count :: rest, word, first, index => do
      let word := word + (← bit)
      if word < first + count then return code.symbols.getD (index + (word - first)) 0
      else go rest (2 * word) (2 * (first + count)) (index + count)

/-- The least length and the number of extra bits of each length symbol. -/
def lengthTable : List (Nat × Nat) :=
  [(3, 0), (4, 0), (5, 0), (6, 0), (7, 0), (8, 0), (9, 0), (10, 0), (11, 1), (13, 1), (15, 1),
    (17, 1), (19, 2), (23, 2), (27, 2), (31, 2), (35, 3), (43, 3), (51, 3), (59, 3), (67, 4),
    (83, 4), (99, 4), (115, 4), (131, 5), (163, 5), (195, 5), (227, 5), (258, 0)]

/-- The least distance and the number of extra bits of each distance symbol. -/
def distanceTable : List (Nat × Nat) :=
  [(1, 0), (2, 0), (3, 0), (4, 0), (5, 1), (7, 1), (9, 2), (13, 2), (17, 3), (25, 3), (33, 4),
    (49, 4), (65, 5), (97, 5), (129, 6), (193, 6), (257, 7), (385, 7), (513, 8), (769, 8),
    (1025, 9), (1537, 9), (2049, 10), (3073, 10), (4097, 11), (6145, 11), (8193, 12),
    (12289, 12), (16385, 13), (24577, 13)]

/-- A number given by a symbol and extra bits. -/
def extended (table : List (Nat × Nat)) (symbol : Nat) : Unpacking Nat :=
  match table[symbol]? with
  | some (least, extra) => return least + (← bits extra)
  | none => throw .wrong

/-- Repeat `count` octets from `distance` before the end of the output. -/
def copyBack (distance : Nat) : (count : Nat) → ByteArray → ByteArray
  | 0, output => output
  | count + 1, output =>
    let octet := if distance ≤ output.size then
      Octets.octet output (output.size - distance) else 0
    copyBack distance count (output.push octet.toUInt8)

/-- Append to the output, and stop if that is enough. -/
def produce (rules : Rules) (more : ByteArray → ByteArray) : Unpacking Unit := do
  modify fun state => { state with output := more state.output }
  if rules.wanted ≤ (← get).output.size then throw .enough

/-- The symbols of a block. -/
def symbols (rules : Rules) (literals distances : PrefixCode) : (steps : Nat) → Unpacking Unit
  | 0 => throw .wrong
  | steps + 1 => do
    let literal ← symbol literals
    if literal = 256 then return ()
    if literal < 256 then produce rules (·.push literal.toUInt8)
    else
      let length ← extended lengthTable (literal - 257)
      let distance ← extended distanceTable (← symbol distances)
      if (← get).output.size < distance && !rules.loose then throw .wrong
      produce rules (copyBack distance length)
    symbols rules literals distances steps

/-- The code for literals in blocks with the fixed codes. -/
def fixedLiterals : PrefixCode :=
  .ofLengths 15 (List.replicate 144 8 ++ List.replicate 112 9 ++ List.replicate 24 7 ++
    List.replicate 8 8)

/-- The code for distances in blocks with the fixed codes. -/
def fixedDistances : PrefixCode :=
  .ofLengths 15 (List.replicate 32 5)

/-- The order in which lengths of words for lengths are given. -/
def lengthOrder : List Nat :=
  [16, 17, 18, 0, 8, 7, 9, 6, 10, 5, 11, 4, 12, 3, 13, 2, 14, 1, 15]

/-- The word lengths of a code for lengths, in the order they are given. -/
def shortLengths : (count : Nat) → Unpacking (List Nat)
  | 0 => return []
  | count + 1 => do
    let length ← bits 3
    let rest ← shortLengths count
    return length :: rest

/-- Word lengths in a code for lengths, until there are `count` of them.  They
are gathered in reverse. -/
def lengths (code : PrefixCode) (count : Nat) : (steps : Nat) → List Nat →
    Unpacking (List Nat)
  | 0, _ => throw .wrong
  | steps + 1, found => do
    if found.length = count then return found.reverse
    if count < found.length then throw .wrong
    let length ← symbol code
    if length < 16 then lengths code count steps (length :: found)
    else if length = 16 then
      match found with
      | [] => throw .wrong
      | previous :: _ =>
        let more ← bits 2
        lengths code count steps (List.replicate (3 + more) previous ++ found)
    else
      let more ← if length = 17 then bits 3 else bits 7
      let least := if length = 17 then 3 else 11
      lengths code count steps (List.replicate (least + more) 0 ++ found)

/-- Whether a code for lengths or literals is taken. -/
def acceptsCode (rules : Rules) (code : PrefixCode) : Bool :=
  code.isComplete || (rules.loose && code.symbols.size ≤ 1)

/-- Whether a code for distances is taken: it may also be empty or have a
single word of one bit. -/
def acceptsDistances (rules : Rules) (code : PrefixCode) : Bool :=
  acceptsCode rules code || code.symbols.isEmpty || code.counts.take 1 == [1] &&
    code.symbols.size == 1

/-- The two codes of a block that brings its own. -/
def codes (rules : Rules) : Unpacking (PrefixCode × PrefixCode) := do
  let literals := 257 + (← bits 5)
  let distances := 1 + (← bits 5)
  let count ← bits 4
  if 286 < literals || 30 < distances then throw .wrong
  let given := lengthOrder.zip (← shortLengths (count + 4))
  let code := PrefixCode.ofLengths 7 ((List.range 19).map fun symbol =>
    (given.lookup symbol).getD 0)
  if !acceptsCode rules code then throw .wrong
  let total := literals + distances
  let found ← lengths code total (total + 1) []
  if found[256]? = some 0 && !rules.loose then throw .wrong
  let first := PrefixCode.ofLengths 15 (found.take literals)
  let second := PrefixCode.ofLengths 15 (found.drop literals)
  if acceptsCode rules first && acceptsDistances rules second then return (first, second)
  else throw .wrong

/-- A stored block, as far as it is there. -/
def stored (rules : Rules) : Unpacking Unit := do
  let state ← get
  let start := (state.position + 7) / 8
  if state.data.size < start + 4 then throw .cut
  let size := Octets.little state.data start 2
  if size + Octets.little state.data (start + 2) 2 ≠ 0xffff then throw .wrong
  let stop := start + 4 + size
  set { state with position := 8 * min stop state.data.size }
  if 0 < size then produce rules (· ++ state.data.extract (start + 4) stop)
  if state.data.size < stop then throw .cut

/-- The blocks of a stream.  It ends with the octet in which the last one does. -/
def blocks (rules : Rules) : (steps : Nat) → Unpacking Unit
  | 0 => throw .wrong
  | steps + 1 => do
    let last ← bit
    let form ← bits 2
    let limit := 8 * (← get).data.size + 1
    match form with
    | 0 => stored rules
    | 1 => symbols rules fixedLiterals fixedDistances limit
    | 2 =>
      let (literals, distances) ← codes rules
      symbols rules literals distances limit
    | _ => throw .wrong
    if last = 1 then throw (.over (((← get).position + 7) / 8)) else blocks rules steps

/-- The two octets in front of the blocks. -/
def header : Unpacking Unit := do
  let first ← bits 8
  let second ← bits 8
  if first % 16 ≠ 8 || 0x80 ≤ first || (256 * first + second) % 31 ≠ 0 ||
      second / 32 % 2 = 1 then throw .wrong

/-- The output of a deflated stream with the usual two octets in front. -/
def unpack (rules : Rules) (data : ByteArray) : ByteArray × Ending :=
  match (do header; blocks rules (8 * data.size + 1) : Unpacking Unit).run
      ⟨data, 0, ByteArray.empty⟩ with
  | .ok _ state => (state.output, .wrong)
  | .error ending state => (state.output, ending)

/-- The check sum of unpacked data: two sums modulo a prime. -/
def checkSum (data : ByteArray) : Nat :=
  let sums := data.foldl (fun (sums : Nat × Nat) octet =>
    let low := (sums.1 + octet.toNat) % 65521
    (low, (sums.2 + low) % 65521)) (1, 0)
  65536 * sums.2 + sums.1

end Inflate
end MediaSite
