import MediaSite.Toml.Parser

namespace MediaSite.Toml

/-!
# Moments written as tables

Values that are to be merged may hold a moment in a second form: a table whose
first key is `momentKey` stands for the moment that the text at this key
denotes, and whatever else the table holds does not count.  The text is more
lenient than a moment in a document: an hour may be 24, and the distance of a
time zone may be any that is not longer than a day.
-/

open scoped Text

/-- The key that makes a table stand for a moment. -/
def momentKey : Text :=
  "$__toml_private_datetime"

/-- A time of day, and what follows. -/
def writtenTime? (text : Text) : Option Text := do
  let (_, text) ← fixedNumber? 2 0 24 text
  let text ← mark? ':' text
  let (_, text) ← fixedNumber? 2 0 59 text
  let text ← mark? ':' text
  let (_, text) ← fixedNumber? 2 0 60 text
  match text with
  | '.' :: rest =>
    if (rest.takeWhile Char.isDigit).isEmpty then none else some (rest.dropWhile Char.isDigit)
  | text => some text

/-- Whether a text is the distance of a time zone, or empty. -/
def isWrittenZone : Text → Bool
  | [] => true
  | ['Z'] => true
  | ['z'] => true
  | c :: rest =>
    (c == '+' || c == '-') &&
      match fixedNumber? 2 0 99 rest with
      | some (hours, ':' :: rest) =>
        match fixedNumber? 2 0 99 rest with
        | some (minutes, []) => 60 * hours + minutes ≤ 24 * 60
        | _ => false
      | _ => false

/-- Whether a text is a day, a time of day or both. -/
def isWrittenMoment (text : Text) : Bool :=
  if text[2]? = some ':' then writtenTime? text == some []
  else
    match day? text with
    | none => false
    | some [] => true
    | some (c :: rest) =>
      (c == 'T' || c == 't' || c == ' ') && ((writtenTime? rest).map isWrittenZone).getD false

mutual

/-- A value with its moments, none if a text at the key of a moment is no moment. -/
def withMoments? : Toml → Option Toml
  | .array elements => (elementsWithMoments? elements).map .array
  | .table [] => some (.table [])
  | .table ((key, value) :: rest) =>
    if key = momentKey then
      match value with
      | .string text => if isWrittenMoment text then some (.moment text) else none
      | _ => none
    else do
      let value ← withMoments? value
      let rest ← entriesWithMoments? rest
      some (.table ((key, value) :: rest))
  | value => some value

/-- The elements of an array with their moments. -/
def elementsWithMoments? : List Toml → Option (List Toml)
  | [] => some []
  | value :: rest => do
    let value ← withMoments? value
    let rest ← elementsWithMoments? rest
    some (value :: rest)

/-- The entries of a table behind the first with their moments. -/
def entriesWithMoments? : List (Text × Toml) → Option (List (Text × Toml))
  | [] => some []
  | (key, value) :: rest => do
    let value ← withMoments? value
    let rest ← entriesWithMoments? rest
    some ((key, value) :: rest)

end

end MediaSite.Toml
