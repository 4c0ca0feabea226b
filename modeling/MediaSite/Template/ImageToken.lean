import MediaSite.Template.Token
import MediaSite.Text.Digit
import MediaSite.Text.Lowercase

namespace MediaSite

/-!
# Image tokens

An image token asks for a picture by role and box: `{{ IMAGE.poster[300,450] }}`,
with or without a space after the comma.  A text falls into pieces, single
characters and shapes of such tokens; joined again the pieces are the text.

The role of a shape is as short as possible and stays on one line.  A shape is
an image token when both of its sizes are ASCII numbers from 1 to `2 ^ 32 - 1`;
other shapes stay in the text, but no token begins inside of them.
-/

open scoped Text

/-- A request for a picture. -/
structure ImageToken where
  /-- The token as written. -/
  text : Text
  /-- The role in lower case. -/
  role : Text
  width : Nat
  height : Nat
  deriving DecidableEq

namespace ImageToken

/-- What an image token begins with. -/
def opening : Text :=
  Token.opening ++ "IMAGE."

/-- What an image token ends with. -/
def closing : Text :=
  "]" ++ Token.closing

/-- The two sizes in brackets at the beginning of a text up to the end of the
token, as written, and the rest of the text. -/
def box? : Text → Option ((Text × Text) × Text)
  | '[' :: text =>
    let width := text.takeWhile Text.isDecimalDigit
    match text.dropWhile Text.isDecimalDigit with
    | ',' :: text =>
      let text := match text with
        | ' ' :: text => text
        | text => text
      let height := text.takeWhile Text.isDecimalDigit
      (closing.isPrefixOf? (text.dropWhile Text.isDecimalDigit)).map fun rest =>
        ((width, height), rest)
    | _ => none
  | _ => none

/-- The shortest role before a box, the box, and the rest of the text. -/
def roleAndBox? : Text → Option (Text × (Text × Text) × Text)
  | [] => none
  | c :: rest =>
    match box? (c :: rest) with
    | some (box, after) => some ([], box, after)
    | none =>
      if c = '\n' then none
      else (roleAndBox? rest).map fun read => (c :: read.1, read.2)

/-- A size that a token may ask for. -/
def size? (digits : Text) : Option Nat := do
  let size ← Text.toNat? digits
  if 1 ≤ size && size < UInt32.size then some size else none

/-- What texts consist of. -/
inductive Piece where
  | character (c : Char)
  /-- The shape of an image token. -/
  | shape (text role width height : Text)
  deriving DecidableEq

/-- A piece as written. -/
def Piece.text : Piece → Text
  | .character c => [c]
  | .shape text _ _ _ => text

/-- The image token that a piece is. -/
def Piece.token? : Piece → Option ImageToken
  | .character _ => none
  | .shape text role width height => do
    let width ← size? width
    let height ← size? height
    return { text, role := Text.lowercase role, width, height }

/-- The shape at the beginning of a text, and the rest. -/
def shape? (text : Text) : Option (Piece × Text) := do
  let rest ← opening.isPrefixOf? text
  let (role, box, after) ← roleAndBox? rest
  return (.shape (text.take (text.length - after.length)) role box.1 box.2, after)

/-- The pieces of a text. -/
def pieces : Text → List Piece
  | [] => []
  | c :: rest =>
    match shape? (c :: rest) with
    | some (piece, after) =>
      if _ : after.length < (c :: rest).length then piece :: pieces after
      else .character c :: pieces rest
    | none => .character c :: pieces rest
termination_by text => text.length
decreasing_by
  · assumption
  · exact Nat.lt_succ_self rest.length
  · exact Nat.lt_succ_self rest.length

/-- The image tokens of a text, in order. -/
def all (text : Text) : List ImageToken :=
  (pieces text).filterMap Piece.token?

/-- The image tokens among pieces that begin at an offset, each with its own
offset in octets. -/
def locatedFrom : Nat → List Piece → List (Nat × ImageToken)
  | _, [] => []
  | offset, piece :: rest =>
    (piece.token?.map fun token => (offset, token)).toList ++
      locatedFrom (offset + Text.byteLength piece.text) rest

/-- The image tokens of a text with their offsets in octets. -/
def located (text : Text) : List (Nat × ImageToken) :=
  locatedFrom 0 (pieces text)

end ImageToken
end MediaSite
