import MediaSite.Picture.Octets

namespace MediaSite

/-!
# Packed phrases

Phrases are numbered pieces of the output so far: every code that is read makes
a new one, the piece before it together with the octet that follows, so a phrase
is kept as its place in the output.  Unpacking gives as much output as there is,
up to what is asked for.
-/

namespace Phrases

/-- A piece of the output. -/
structure Piece where
  start : Nat
  length : Nat

/-- Where unpacking stands. -/
structure State where
  /-- The number of bits that are read. -/
  position : Nat
  /-- The number of bits of a code. -/
  width : Nat
  phrases : Array Piece
  /-- The piece that was written last since the phrases were forgotten. -/
  last : Option Piece
  output : ByteArray

/-- The number in some bits, the most significant one first. -/
def bitsAt (data : ByteArray) (position count : Nat) : Nat :=
  (Octets.big data (position / 8) 4 >>> (32 - position % 8 - count)) % (1 <<< count)

/-- Repeat octets of the output from an index on.  They may overlap the copy. -/
def repeatFrom (start : Nat) : (count : Nat) → ByteArray → ByteArray
  | 0, output => output
  | count + 1, output =>
    repeatFrom (start + 1) count (output.push (Octets.octet output start).toUInt8)

/-- The code that forgets all phrases. -/
def forgetCode : Nat := 256

/-- The code at the end. -/
def endCode : Nat := 257

/-- The code of the first phrase. -/
def firstCode : Nat := 258

/-- The width of codes with so many phrases: codes become wider one code before
they have to. -/
def widthFor (phrases : Nat) : Nat :=
  if phrases + firstCode < 511 then 9
  else if phrases + firstCode < 1023 then 10
  else if phrases + firstCode < 2047 then 11
  else 12

/-- Write a piece, given how it is written. -/
def State.write (state : State) (phrases : Array Piece) (length : Nat)
    (more : ByteArray → ByteArray) : State :=
  { state with
    position := state.position + state.width
    width := widthFor phrases.size
    phrases
    last := some ⟨state.output.size, length⟩
    output := more state.output }

/-- Unpack with at most `count` codes. -/
def unpackFrom (data : ByteArray) (wanted : Nat) : (count : Nat) → State → ByteArray
  | 0, state => state.output
  | count + 1, state =>
    if 8 * data.size < state.position + state.width || wanted ≤ state.output.size then
      state.output
    else
      let code := bitsAt data state.position state.width
      if code = forgetCode then
        unpackFrom data wanted count
          { state with
            position := state.position + state.width, width := 9, phrases := #[], last := none }
      else if code = endCode then state.output
      else
        let phrases :=
          match state.last with
          | some piece =>
            if state.phrases.size + firstCode < 4096 then
              state.phrases.push ⟨piece.start, piece.length + 1⟩
            else state.phrases
          | none => state.phrases
        if code < forgetCode then
          unpackFrom data wanted count (state.write phrases 1 (·.push code.toUInt8))
        else
          match phrases[code - firstCode]? with
          | some piece =>
            unpackFrom data wanted count
              (state.write phrases piece.length (repeatFrom piece.start piece.length))
          | none => state.output

/-- Unpack phrases. -/
def unpack (data : ByteArray) (wanted : Nat) : ByteArray :=
  unpackFrom data wanted (data.size + 1) ⟨0, 9, #[], none, ByteArray.empty⟩

end Phrases
end MediaSite
