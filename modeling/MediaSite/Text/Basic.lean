namespace MediaSite

/-!
# Texts

A text is the list of its characters.  Everything that pages are made of is
cut, searched and replaced as a text, so that each operation is a recursion
on the text itself and can be reasoned about by induction.

Searching is literal.  `Text.cut?` finds the first occurrence of a needle and
returns what stands before and after it; `Text.replaceAll` replaces every
occurrence, from left to right and without overlaps, in one pass that never
looks at inserted text again.
-/

/-- A text: its characters, in order. -/
abbrev Text := List Char

namespace Text

/-- String literals denote texts. -/
scoped instance : Coe String Text := ⟨String.toList⟩

/-- The size of a text in UTF-8 octets, the unit in which offsets are given. -/
def byteLength : Text → Nat
  | [] => 0
  | c :: rest => c.utf8Size + byteLength rest

/-- What stands before and after the first occurrence of `needle`. -/
def cut? (needle : Text) : Text → Option (Text × Text)
  | [] => if needle.isEmpty then some ([], []) else none
  | c :: rest =>
    match needle.isPrefixOf? (c :: rest) with
    | some after => some ([], after)
    | none => (cut? needle rest).map fun parts => (c :: parts.1, parts.2)

/-- The replacing pass, with `skip` characters of an occurrence still to drop. -/
def replaceFrom (needle value : Text) : Nat → Text → Text
  | _, [] => []
  | skip + 1, _ :: rest => replaceFrom needle value skip rest
  | 0, c :: rest =>
    if !needle.isEmpty && needle.isPrefixOf (c :: rest) then
      value ++ replaceFrom needle value (needle.length - 1) rest
    else
      c :: replaceFrom needle value 0 rest

/-- Replace every occurrence of `needle` by `value`.  Occurrences are taken
from left to right and do not overlap; an empty needle occurs nowhere. -/
def replaceAll (needle value text : Text) : Text :=
  replaceFrom needle value 0 text

/-- The texts of a list in order, with `separator` between neighbours. -/
def join (separator : Text) (parts : List Text) : Text :=
  separator.intercalate parts

/-- A natural number in decimal digits. -/
def ofNat (n : Nat) : Text :=
  Nat.toDigits 10 n

/-- An integer in decimal digits, with a sign when it is negative. -/
def ofInt (n : Int) : Text :=
  if n < 0 then '-' :: ofNat n.natAbs else ofNat n.natAbs

/-- Fill a text on the left up to `width` characters. -/
def padLeft (width : Nat) (fill : Char) (text : Text) : Text :=
  List.replicate (width - text.length) fill ++ text

/-- Fill a text on the right with spaces up to `width` characters. -/
def padRight (width : Nat) (text : Text) : Text :=
  text ++ List.replicate (width - text.length) ' '

/-- The value of an ASCII decimal digit. -/
def digitValue? (c : Char) : Option Nat :=
  if c.isDigit then some (c.toNat - '0'.toNat) else none

/-- The number that a non-empty run of ASCII decimal digits denotes. -/
def toNat? (text : Text) : Option Nat :=
  if text.isEmpty then none
  else text.foldl (fun value c => do
    let value ← value
    let digit ← digitValue? c
    some (10 * value + digit)) (some 0)

end Text
end MediaSite
