import MediaSite.Text.Basic

namespace MediaSite

/-!
# Tokens

A token is a name between double braces, set off by single spaces:
`{{ MOVIE.TITLE }}`.  Tokens are found literally and with regard to case.
What looks like a name, capital letters and underscores in parts joined by
dots, can also be listed without knowing the names beforehand.
-/

open scoped Text

namespace Token

/-- What a token begins with. -/
def opening : Text :=
  "\x7b\x7b "

/-- What a token ends with. -/
def closing : Text :=
  " \x7d\x7d"

/-- The token of a name. -/
def ofName (name : Text) : Text :=
  opening ++ name ++ closing

/-- What stands before and after the first token of a name. -/
def find? (name text : Text) : Option (Text × Text) :=
  Text.cut? (ofName name) text

/-- The octets that the first token of a name takes, from the first up to the
one after the last. -/
def span? (name text : Text) : Option (Nat × Nat) :=
  (find? name text).map fun parts =>
    (Text.byteLength parts.1, Text.byteLength parts.1 + Text.byteLength (ofName name))

/-- A capital letter or an underscore. -/
def isNameLetter (c : Char) : Bool :=
  c.isUpper || c == '_'

/-- One or more parts of capital letters and underscores, joined by dots. -/
def isName (text : Text) : Bool :=
  (text.splitOn '.').all fun part => !part.isEmpty && part.all isNameLetter

/-- The name of the token at the beginning of a text. -/
def nameAtStart? (text : Text) : Option Text := do
  let rest ← opening.isPrefixOf? text
  let name := rest.takeWhile fun c => isNameLetter c || c == '.'
  if isName name && closing.isPrefixOf (rest.drop name.length) then some name else none

/-- The names of all tokens in a text, in order. -/
def names : Text → List Text
  | [] => []
  | c :: rest => (nameAtStart? (c :: rest)).toList ++ names rest

/-- How the name of a marker that opens a block begins. -/
def beginMark : Text :=
  "BEGIN_BLOCK_"

/-- How the name of a marker that closes a block begins. -/
def endMark : Text :=
  "END_BLOCK_"

/-- The names of all tokens in a text that are no block markers. -/
def remaining (text : Text) : List Text :=
  (names text).filter fun name => !beginMark.isPrefixOf name && !endMark.isPrefixOf name

end Token
end MediaSite
