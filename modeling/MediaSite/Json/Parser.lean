import MediaSite.Json.Value

namespace MediaSite.Json

/-!
# Reading JSON

`Json.parse?` reads exactly one value with blanks around it.  A number with a
fraction or an exponent is computed in doubles from its leading digits, as
many as fit in 64 bits, and one power of ten; a number too large for a double
reads as infinity, which no decoder accepts.
-/

/-- The blanks of the format. -/
def isBlank (c : Char) : Bool :=
  c == ' ' || c == '\n' || c == '\t' || c == '\r'

/-- The text after its leading blanks. -/
def skipBlanks (text : Text) : Text :=
  text.dropWhile isBlank

/-! ## Numbers -/

/-- The largest significand. -/
def significandLimit : Nat :=
  UInt64.size - 1

/-- The largest exponent that is still counted. -/
def exponentLimit : Nat :=
  UInt32.size / 2 - 1

/-- A significand while digits are read: further digits are only counted once
one of them did not fit. -/
structure Significand where
  value : Nat
  exponent : Int
  full : Bool

/-- Take digits before the point; those that do not fit raise the exponent. -/
def Significand.takeWhole (start : Significand) (digits : Text) : Significand :=
  digits.foldl (fun sum c =>
    let next := 10 * sum.value + (c.toNat - '0'.toNat)
    if sum.full || significandLimit < next then ⟨sum.value, sum.exponent + 1, true⟩
    else ⟨next, sum.exponent, false⟩) start

/-- Take digits after the point until one does not fit. -/
def Significand.takeFraction (start : Significand) (digits : Text) : Significand :=
  digits.foldl (fun sum c =>
    let next := 10 * sum.value + (c.toNat - '0'.toNat)
    if sum.full || significandLimit < next then ⟨sum.value, sum.exponent, true⟩
    else ⟨next, sum.exponent - 1, false⟩) { start with full := false }

/-- The power of ten as a double, up to `10 ^ 308`. -/
def powerOfTen (n : Nat) : Float :=
  Float.ofScientific 1 false n

/-- Scale a double by a power of ten, in steps of at most `10 ^ 308`; three
steps bring any significand down to zero. -/
def scale : Nat → Float → Int → Float
  | 0, value, _ => value
  | steps + 1, value, exponent =>
    if exponent.natAbs ≤ 308 then
      if 0 ≤ exponent then value * powerOfTen exponent.natAbs
      else value / powerOfTen exponent.natAbs
    else if value == 0 then value
    else if 0 ≤ exponent then value / 0
    else scale steps (value / powerOfTen 308) (exponent + 308)

/-- The double with this significand and power of ten. -/
def realOf (negative : Bool) (value : Nat) (exponent : Int) : Float :=
  let size := scale 4 (UInt64.ofNat value).toFloat exponent
  if negative then -size else size

/-- The double with a written exponent on top of the significand's own. -/
def realWithExponent (negative : Bool) (sum : Significand) (down : Bool) (digits : Text) : Float :=
  let written := (Text.toNat? digits).getD 0
  if exponentLimit < written then
    if sum.value ≠ 0 && !down then (if negative then -1 / 0 else 1 / 0)
    else if negative then -0.0 else 0.0
  else
    realOf negative sum.value (if down then sum.exponent - written else sum.exponent + written)

/-- A whole number, or a double where 64 bits do not hold it. -/
def wholeOrReal (negative : Bool) (digits : Text) : Json :=
  let value := (Text.toNat? digits).getD 0
  if negative then
    if value = 0 || UInt64.size / 2 < value then
      let sum := Significand.takeWhole ⟨0, 0, false⟩ digits
      .real (realOf true sum.value sum.exponent)
    else .whole (-value)
  else if value ≤ significandLimit then .whole value
  else
    let sum := Significand.takeWhole ⟨0, 0, false⟩ digits
    .real (realOf false sum.value sum.exponent)

/-- The digits at the beginning of a text, at least one, and the rest. -/
def digits? (text : Text) : Option (Text × Text) :=
  let digits := text.takeWhile Char.isDigit
  if digits.isEmpty then none else some (digits, text.dropWhile Char.isDigit)

/-- The digits before the point: zero stands alone. -/
def wholeDigits? (text : Text) : Option (Text × Text) :=
  match text with
  | '0' :: rest =>
    match rest with
    | c :: _ => if c.isDigit then none else some (['0'], rest)
    | [] => some (['0'], [])
  | _ => digits? text

/-- A point and the digits after it, if there is a point. -/
def fraction? : Text → Option (Option Text × Text)
  | '.' :: rest => (digits? rest).map fun read => (some read.1, read.2)
  | text => some (none, text)

/-- An exponent with its sign, if there is one. -/
def exponent? : Text → Option (Option (Bool × Text) × Text)
  | c :: rest =>
    if c = 'e' || c = 'E' then
      match rest with
      | '-' :: rest => (digits? rest).map fun read => (some (true, read.1), read.2)
      | '+' :: rest => (digits? rest).map fun read => (some (false, read.1), read.2)
      | rest => (digits? rest).map fun read => (some (false, read.1), read.2)
    else some (none, c :: rest)
  | [] => some (none, [])

/-- A number after its sign. -/
def number? (negative : Bool) (text : Text) : Option (Json × Text) := do
  let (leading, text) ← wholeDigits? text
  let (fraction, text) ← fraction? text
  let (exponent, text) ← exponent? text
  match fraction, exponent with
  | none, none => some (wholeOrReal negative leading, text)
  | _, _ =>
    let sum := Significand.takeWhole ⟨0, 0, false⟩ leading
    let sum := match fraction with
      | some digits => sum.takeFraction digits
      | none => sum
    match exponent with
    | none => some (.real (realOf negative sum.value sum.exponent), text)
    | some (down, digits) => some (.real (realWithExponent negative sum down digits), text)

/-! ## Strings -/

/-- The value of a hexadecimal digit. -/
def hexValue? (c : Char) : Option Nat :=
  if c.isDigit then some (c.toNat - '0'.toNat)
  else if 'a' ≤ c && c ≤ 'f' then some (c.toNat - 'a'.toNat + 10)
  else if 'A' ≤ c && c ≤ 'F' then some (c.toNat - 'A'.toNat + 10)
  else none

/-- The unit that four hexadecimal digits denote. -/
def unit? (a b c d : Char) : Option Nat := do
  return 4096 * (← hexValue? a) + 256 * (← hexValue? b) + 16 * (← hexValue? c) + (← hexValue? d)

/-- The character of a one-letter escape. -/
def escaped? : Char → Option Char
  | '"' => some '"'
  | '\\' => some '\\'
  | '/' => some '/'
  | 'b' => some '\x08'
  | 'f' => some '\x0c'
  | 'n' => some '\n'
  | 'r' => some '\r'
  | 't' => some '\t'
  | _ => none

/-- Put a character in front of what was read of a string. -/
def prepend (c : Char) (read : Option Text × Text) : Option Text × Text :=
  (read.1.map (c :: ·), read.2)

/-- A string after its opening quote: its text, if it denotes one, and what
follows the closing quote. -/
def string? : Text → Option (Option Text × Text)
  | [] => none
  | '"' :: rest => some (some [], rest)
  | '\\' :: 'u' :: a :: b :: c :: d :: '\\' :: 'u' :: e :: f :: g :: h :: rest => do
    let first ← unit? a b c d
    if 0xd800 ≤ first && first ≤ 0xdbff then
      let second ← unit? e f g h
      if 0xdc00 ≤ second && second ≤ 0xdfff then
        let point := 0x10000 + 0x400 * (first - 0xd800) + (second - 0xdc00)
        (string? rest).map (prepend (Char.ofNat point))
      else
        (string? ('\\' :: 'u' :: e :: f :: g :: h :: rest)).map fun read => (none, read.2)
    else
      let read ← string? ('\\' :: 'u' :: e :: f :: g :: h :: rest)
      if 0xdc00 ≤ first && first ≤ 0xdfff then some (none, read.2)
      else some (prepend (Char.ofNat first) read)
  | '\\' :: 'u' :: a :: b :: c :: d :: rest => do
    let unit ← unit? a b c d
    let read ← string? rest
    if 0xd800 ≤ unit && unit ≤ 0xdfff then some (none, read.2)
    else some (prepend (Char.ofNat unit) read)
  | '\\' :: c :: rest => do
    let c ← escaped? c
    (string? rest).map (prepend c)
  | c :: rest =>
    if c = '\\' || c.toNat < 0x20 then none else (string? rest).map (prepend c)
termination_by text => text.length

/-! ## Values -/

mutual

/-- A value at the beginning of a text, and the rest.  Each step down consumes
at least one character, so `depth` never runs out when it starts at the length. -/
def value? : Nat → Text → Option (Json × Text)
  | 0, _ => none
  | depth + 1, text =>
    match skipBlanks text with
    | '\x7b' :: rest =>
      match skipBlanks rest with
      | '\x7d' :: rest => some (.object [], rest)
      | rest =>
        (members? depth rest).map fun read =>
          (match read.1 with
           | some members => .object members
           | none => .broken, read.2)
    | '[' :: rest =>
      match skipBlanks rest with
      | ']' :: rest => some (.array [], rest)
      | rest => (elements? depth rest).map fun read => (.array read.1, read.2)
    | '"' :: rest =>
      (string? rest).map fun read =>
        (match read.1 with
         | some text => .string text
         | none => .broken, read.2)
    | 't' :: 'r' :: 'u' :: 'e' :: rest => some (.bool true, rest)
    | 'f' :: 'a' :: 'l' :: 's' :: 'e' :: rest => some (.bool false, rest)
    | 'n' :: 'u' :: 'l' :: 'l' :: rest => some (.null, rest)
    | '-' :: rest => number? true rest
    | text => number? false text

/-- Elements up to the closing bracket. -/
def elements? : Nat → Text → Option (List Json × Text)
  | 0, _ => none
  | depth + 1, text => do
    let (element, rest) ← value? depth text
    match skipBlanks rest with
    | ',' :: rest =>
      let (more, rest) ← elements? depth rest
      some (element :: more, rest)
    | ']' :: rest => some ([element], rest)
    | _ => none

/-- Members up to the closing brace, if their keys denote texts. -/
def members? : Nat → Text → Option (Option (List (Text × Json)) × Text)
  | 0, _ => none
  | depth + 1, text =>
    match skipBlanks text with
    | '"' :: rest => do
      let (name, rest) ← string? rest
      match skipBlanks rest with
      | ':' :: rest =>
        let (value, rest) ← value? depth rest
        let member := name.map fun name => (name, value)
        match skipBlanks rest with
        | ',' :: rest =>
          let (more, rest) ← members? depth rest
          some (member.bind fun member => more.map (member :: ·), rest)
        | '\x7d' :: rest => some (member.map ([·]), rest)
        | _ => none
      | _ => none
    | _ => none

end

/-- The value that a whole text holds. -/
def parse? (text : Text) : Option Json :=
  match value? (text.length + 1) text with
  | some (value, rest) => if (skipBlanks rest).isEmpty then some value else none
  | none => none

end MediaSite.Json
