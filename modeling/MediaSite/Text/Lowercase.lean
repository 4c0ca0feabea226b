import MediaSite.Text.Basic
import MediaSite.Text.CaseTable

namespace MediaSite.Text

/-!
# Lower case

Lower casing works character by character, with two exceptions of the
Unicode standard: the dotted capital `İ` becomes two characters, and a capital
sigma at the end of a word becomes the final form.  A sigma ends a word when
the nearest character before it that is not ignorable is cased and the nearest
one after it is not.
-/

/-- Membership in ascending runs of code points. -/
def inRuns (runs : List (Nat × Nat)) (c : Char) : Bool :=
  runs.any fun run => run.1 ≤ c.toNat && c.toNat ≤ run.2

/-- Passed over when the neighbours of a letter are looked for. -/
def isCaseIgnorable (c : Char) : Bool :=
  inRuns caseIgnorableRuns c

/-- A letter with case, or a sign that counts as one. -/
def isCased (c : Char) : Bool :=
  inRuns casedRuns c

/-- The lower case form of a character on its own. -/
def lowerChar (c : Char) : Text :=
  if c.toNat < 0x80 then [c.toLower]
  else if c.toNat = 0x130 then ['i', Char.ofNat 0x307]
  else
    match caseRuns.find? (·.holds c.toNat) with
    | some run => [Char.ofNat (c.toNat + run.shift).toNat]
    | none => [c]

/-- Whether the nearest character that is not ignorable is cased. -/
def meetsCased : Text → Bool
  | [] => false
  | c :: rest => if isCaseIgnorable c then meetsCased rest else isCased c

/-- Lower case the rest of a text whose earlier characters, nearest first, are `before`. -/
def lowercaseAfter (before : Text) : Text → Text
  | [] => []
  | c :: rest =>
    (if c.toNat = 0x3a3 then
      [if meetsCased before && !meetsCased rest then Char.ofNat 0x3c2 else Char.ofNat 0x3c3]
    else lowerChar c) ++ lowercaseAfter (c :: before) rest

/-- The lower case form of a text. -/
def lowercase (text : Text) : Text :=
  lowercaseAfter [] text

end MediaSite.Text
