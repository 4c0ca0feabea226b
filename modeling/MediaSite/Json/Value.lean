import MediaSite.Decimal.Fixed

namespace MediaSite

/-!
# JSON values

A value keeps everything that decoding may ask for.  Whole numbers are kept
exactly; a number with a fraction or an exponent is the double it denotes.
Members of an object keep their order and may repeat.  A string escaped with
half of a surrogate pair denotes no text, yet it is a string: it may stand
where nobody looks, but no decoder accepts it.
-/

/-- A JSON value. -/
inductive Json where
  | null
  | bool (value : Bool)
  /-- A number written without fraction and exponent. -/
  | whole (value : Int)
  | real (value : Float)
  | string (text : Text)
  /-- A string that holds half of a surrogate pair, or an object with such a key. -/
  | broken
  | array (elements : List Json)
  | object (members : List (Text × Json))

instance : Inhabited Json := ⟨.null⟩

namespace Json

/-- One hexadecimal digit. -/
def hexDigit (n : Nat) : Char :=
  (Nat.toDigits 16 n).headD '0'

/-- A character inside a quoted string. -/
def quoteChar (c : Char) : Text :=
  if c = '"' then ['\\', '"']
  else if c = '\\' then ['\\', '\\']
  else if c.toNat < 0x20 then
    ['\\', 'u', '0', '0', hexDigit (c.toNat / 16), hexDigit (c.toNat % 16)]
  else [c]

/-- A text as a quoted string. -/
def quote (text : Text) : Text :=
  '"' :: (text.flatMap quoteChar ++ ['"'])

mutual

/-- The text of a value, without blanks. -/
def toText : Json → Text
  | .null => "null".toList
  | .bool true => "true".toList
  | .bool false => "false".toList
  | .whole value => Text.ofInt value
  | .real value => if value.isFinite then Decimal.exact value else "null".toList
  | .string text => quote text
  | .broken => "\"\\ufffd\"".toList
  | .array [] => "[]".toList
  | .array (element :: rest) => '[' :: (toText element ++ elementsText rest)
  | .object [] => ['\x7b', '\x7d']
  | .object ((name, value) :: rest) =>
    '\x7b' :: (quote name ++ ':' :: (toText value ++ membersText rest))

/-- The further elements of an array and the closing bracket. -/
def elementsText : List Json → Text
  | [] => [']']
  | element :: rest => ',' :: (toText element ++ elementsText rest)

/-- The further members of an object and the closing brace. -/
def membersText : List (Text × Json) → Text
  | [] => ['\x7d']
  | (name, value) :: rest =>
    ',' :: (quote name ++ ':' :: (toText value ++ membersText rest))

end

end Json
end MediaSite
