import MediaSite.Picture.Basic

namespace MediaSite

/-!
# What a file holds

Octets that are valid UTF-8 are a text, in one form only: `Content.ofOctets`
never yields the octets of a text.  A picture is what the encoder of artwork
writes.
-/

/-- Octets are compared one by one. -/
local instance octetsDecidableEq : DecidableEq ByteArray := fun left right =>
  decidable_of_iff (left.data = right.data) ByteArray.ext_iff.symm

/-- What a file holds. -/
inductive Content where
  | text (text : Text)
  /-- Octets that are not a text. -/
  | octets (octets : ByteArray)
  | picture (picture : Picture)
  deriving DecidableEq

namespace Content

/-- The content that these octets are. -/
def ofOctets (octets : ByteArray) : Content :=
  match String.fromUTF8? octets with
  | some characters => .text characters.toList
  | none => .octets octets

/-- The text in a file, if it holds one. -/
def text? : Content → Option Text
  | .text characters => some characters
  | _ => none

end Content
end MediaSite
