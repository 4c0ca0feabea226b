import MediaSite.Library.Calendar
import MediaSite.Toml.Draft

namespace MediaSite.Toml

/-!
# Reading TOML

`Toml.parse?` reads a whole document of version 1.0 of the format.  Readers of
a part return it together with the rest of the text.  Those that recur take a
`count`, which starts at the length of the document and never runs out,
because every step consumes a character.  Arrays and tables in values may nest
`nestingLimit` levels deep, and a dotted key may have as many parts.
-/

open scoped Text

/-- A reader of a part of a document. -/
abbrev Reader (α : Type) := Text → Option (α × Text)

/-! ## Blanks and comments -/

/-- Skip spaces and tabs. -/
def skipSpaces (text : Text) : Text :=
  text.dropWhile fun c => c == ' ' || c == '\t'

/-- A character that may stand in comments. -/
def isCommentChar (c : Char) : Bool :=
  c == '\t' || (0x20 ≤ c.toNat && c.toNat != 0x7f)

/-- Skip a comment up to the end of its line. -/
def skipComment : Text → Text
  | '#' :: rest => rest.dropWhile isCommentChar
  | text => text

/-- Skip a line end, if there is one. -/
def newline? : Text → Option Text
  | '\n' :: rest => some rest
  | '\r' :: '\n' :: rest => some rest
  | _ => none

/-- Skip what may stand behind an expression up to the next line. -/
def lineEnd? (text : Text) : Option Text :=
  match skipComment (skipSpaces text) with
  | [] => some []
  | rest => newline? rest

/-- Skip spaces, comments and line ends, at most `count` lines of them. -/
def skipLines : Nat → Text → Text
  | 0, text => text
  | count + 1, text =>
    let rest := skipComment (skipSpaces text)
    match newline? rest with
    | some rest => skipLines count rest
    | none => rest

/-! ## Strings -/

/-- A character that may stand in strings as it is, quotes and backslash apart. -/
def isStringChar (c : Char) : Bool :=
  isCommentChar c

/-- The value of a hexadecimal digit. -/
def hexValue? (c : Char) : Option Nat :=
  if c.isDigit then some (c.toNat - '0'.toNat)
  else if 'a' ≤ c && c ≤ 'f' then some (c.toNat - 'a'.toNat + 10)
  else if 'A' ≤ c && c ≤ 'F' then some (c.toNat - 'A'.toNat + 10)
  else none

/-- The character with a code point of `count` hexadecimal digits. -/
def codePoint? (count : Nat) : Reader Char := fun text => do
  let digits := text.take count
  if digits.length < count then none
  let point ← digits.foldlM (fun value c => (hexValue? c).map (16 * value + ·)) 0
  if h : point.isValidChar then some (Char.ofNatAux point h, text.drop count) else none

/-- The character of an escape, after its backslash. -/
def escape? : Reader Char
  | 'b' :: rest => some ('\x08', rest)
  | 't' :: rest => some ('\t', rest)
  | 'n' :: rest => some ('\n', rest)
  | 'f' :: rest => some ('\x0c', rest)
  | 'r' :: rest => some ('\r', rest)
  | '"' :: rest => some ('"', rest)
  | '\\' :: rest => some ('\\', rest)
  | 'u' :: rest => codePoint? 4 rest
  | 'U' :: rest => codePoint? 8 rest
  | _ => none

/-- The rest of a string in double quotes, read in at most `count` steps. -/
def basic? : (count : Nat) → Reader Text
  | 0, _ => none
  | _, [] => none
  | _, '"' :: rest => some ([], rest)
  | count + 1, '\\' :: rest => do
    let (c, rest) ← escape? rest
    let (text, rest) ← basic? count rest
    some (c :: text, rest)
  | count + 1, c :: rest =>
    if isStringChar c then (basic? count rest).map fun read => (c :: read.1, read.2) else none

/-- The rest of a string in single quotes. -/
def literal? (text : Text) : Option (Text × Text) :=
  let body := text.takeWhile fun c => isStringChar c && c != '\''
  match text.drop body.length with
  | '\'' :: rest => some (body, rest)
  | _ => none

/-- The closing quotes of a string of several lines: up to two of them may
still belong to the string. -/
def closeLines? (quote : Char) (text : Text) : Option (Text × Text) :=
  let count := (text.takeWhile (· == quote)).length
  if count < 3 then none
  else
    let inside := min (count - 3) 2
    some (List.replicate inside quote, text.drop (inside + 3))

/-- Skip spaces and line ends, at most `count` lines of them. -/
def skipBlankLines : Nat → Text → Text
  | 0, text => text
  | count + 1, text =>
    match newline? (skipSpaces text) with
    | some rest => skipBlankLines count rest
    | none => skipSpaces text

/-- Skip the spaces and line ends behind a backslash at the end of a line. -/
def skipFold? (text : Text) : Option Text :=
  (newline? (skipSpaces text)).map fun rest => skipBlankLines (rest.length + 1) rest

/-- The rest of a string of several lines in double quotes. -/
def basicLines? : (count : Nat) → Reader Text
  | 0, _ => none
  | count + 1, text =>
    match closeLines? '"' text with
    | some read => some read
    | none =>
      match text with
      | [] => none
      | '\\' :: rest =>
        match skipFold? rest with
        | some rest => basicLines? count rest
        | none => do
          let (c, rest) ← escape? rest
          let (text, rest) ← basicLines? count rest
          some (c :: text, rest)
      | c :: rest =>
        match newline? (c :: rest) with
        | some rest => (basicLines? count rest).map fun read => ('\n' :: read.1, read.2)
        | none =>
          if isStringChar c then
            (basicLines? count rest).map fun read => (c :: read.1, read.2)
          else none

/-- The rest of a string of several lines in single quotes. -/
def literalLines? : (count : Nat) → Reader Text
  | 0, _ => none
  | count + 1, text =>
    match closeLines? '\'' text with
    | some read => some read
    | none =>
      match text with
      | [] => none
      | c :: rest =>
        match newline? (c :: rest) with
        | some rest => (literalLines? count rest).map fun read => ('\n' :: read.1, read.2)
        | none =>
          if isStringChar c then
            (literalLines? count rest).map fun read => (c :: read.1, read.2)
          else none

/-- A text after the line end at its beginning, if there is one. -/
def dropNewline (text : Text) : Text :=
  (newline? text).getD text

/-- A string of any form, as a value. -/
def string? : Reader Text
  | '"' :: '"' :: '"' :: rest => basicLines? (rest.length + 1) (dropNewline rest)
  | '"' :: rest => basic? (rest.length + 1) rest
  | '\'' :: '\'' :: '\'' :: rest => literalLines? (rest.length + 1) (dropNewline rest)
  | '\'' :: rest => literal? rest
  | _ => none

/-! ## Keys -/

/-- A character of a bare key. -/
def isBareChar (c : Char) : Bool :=
  c.isAlphanum || c == '-' || c == '_'

/-- One key: bare, or a string on one line. -/
def simpleKey? : Reader Text
  | '"' :: rest => basic? (rest.length + 1) rest
  | '\'' :: rest => literal? rest
  | text =>
    let key := text.takeWhile isBareChar
    if key.isEmpty then none else some (key, text.drop key.length)

/-- The number of levels that values may nest, and of parts that keys may have. -/
def nestingLimit : Nat :=
  79

/-- A dotted key with at most `parts` parts: the keys on the way and the last one. -/
def key? : (parts : Nat) → Reader (List Text × Text)
  | 0, _ => none
  | parts + 1, text => do
    let (key, rest) ← simpleKey? (skipSpaces text)
    match skipSpaces rest with
    | '.' :: rest =>
      let ((path, last), rest) ← key? parts rest
      some ((key :: path, last), rest)
    | rest => some (([], key), rest)

/-! ## Numbers and moments -/

/-- Digits with single underscores between them: the digits, and the rest. -/
def digits? (isDigit : Char → Bool) : Reader Text
  | [] => none
  | c :: rest =>
    if isDigit c then
      match rest with
      | '_' :: after =>
        match digits? isDigit after with
        | some read => some (c :: read.1, read.2)
        | none => some ([c], rest)
      | rest =>
        match digits? isDigit rest with
        | some read => some (c :: read.1, read.2)
        | none => some ([c], rest)
    else none

/-- Decimal digits without a superfluous zero in front. -/
def decimal? : Reader Text
  | '0' :: rest => some (['0'], rest)
  | text => digits? Char.isDigit text

/-- A sign, if there is one. -/
def sign : Text → Bool × Text
  | '-' :: rest => (true, rest)
  | '+' :: rest => (false, rest)
  | text => (false, text)

/-- The number that digits of a base denote. -/
def numberOf (base : Nat) (digits : Text) : Nat :=
  digits.foldl (fun value c => base * value + (hexValue? c).getD 0) 0

/-- An integer of 64 bits. -/
def fitting? (value : Int) : Option Toml :=
  if -0x8000000000000000 ≤ value ∧ value < 0x8000000000000000 then some (.integer value) else none

/-- An integer in any base. -/
def integer? : Reader Toml
  | '0' :: 'x' :: rest => do
    let (digits, rest) ← digits? (fun c => (hexValue? c).isSome) rest
    return (← fitting? (numberOf 16 digits), rest)
  | '0' :: 'o' :: rest => do
    let (digits, rest) ← digits? (fun c => '0' ≤ c && c ≤ '7') rest
    return (← fitting? (numberOf 8 digits), rest)
  | '0' :: 'b' :: rest => do
    let (digits, rest) ← digits? (fun c => c == '0' || c == '1') rest
    return (← fitting? (numberOf 2 digits), rest)
  | text => do
    let (negative, rest) := sign text
    let (digits, rest) ← decimal? rest
    let size : Int := numberOf 10 digits
    return (← fitting? (if negative then -size else size), rest)

/-- The exponent of a floating point number. -/
def exponent? : Reader Int
  | c :: rest =>
    if c = 'e' || c = 'E' then
      let (down, rest) := sign rest
      (digits? Char.isDigit rest).map fun read =>
        (if down then -(numberOf 10 read.1 : Int) else numberOf 10 read.1, read.2)
    else none
  | [] => none

/-- What makes a number a floating point number, a fraction or an exponent:
the digits of the one and the value of the other. -/
def fractionOrExponent? : Reader (Text × Int)
  | '.' :: rest => do
    let (digits, rest) ← digits? Char.isDigit rest
    match exponent? rest with
    | some (exponent, rest) => some ((digits, exponent), rest)
    | none => some ((digits, 0), rest)
  | text => (exponent? text).map fun read => (([], read.1), read.2)

/-- Whether digits with a power of ten denote more than a double holds.  The
largest double has 309 digits. -/
def isTooLarge (digits : Text) (exponent : Int) : Bool :=
  let size := numberOf 10 digits
  let places := (Text.ofNat size).length + exponent
  size ≠ 0 && (309 < places ||
    (309 = places && (Float.ofScientific size (decide (exponent < 0)) exponent.natAbs).isInf))

/-- A floating point number, as written.  One that is positive and too large
for a double is refused. -/
def real? (text : Text) : Option (Toml × Text) := do
  let (negative, start) := sign text
  let rest ← match start with
    | 'i' :: 'n' :: 'f' :: rest => some rest
    | 'n' :: 'a' :: 'n' :: rest => some rest
    | _ => do
      let (whole, rest) ← decimal? start
      let ((fraction, exponent), rest) ← fractionOrExponent? rest
      if !negative && isTooLarge (whole ++ fraction) (exponent - fraction.length) then none
      else some rest
  return (.real (text.take (text.length - rest.length)), rest)

/-- Exactly `count` decimal digits, as a number in a range. -/
def fixedNumber? (count least greatest : Nat) : Reader Nat := fun text => do
  let digits := text.take count
  let value ← Text.toNat? digits
  if digits.length = count && least ≤ value && value ≤ greatest then
    some (value, text.drop count)
  else none

/-- One given character. -/
def mark? (mark : Char) : Text → Option Text
  | c :: rest => if c = mark then some rest else none
  | [] => none

/-- A time of day. -/
def time? (text : Text) : Option Text := do
  let (_, text) ← fixedNumber? 2 0 23 text
  let text ← mark? ':' text
  let (_, text) ← fixedNumber? 2 0 59 text
  let text ← mark? ':' text
  let (_, text) ← fixedNumber? 2 0 60 text
  match text with
  | '.' :: rest =>
    if (rest.takeWhile Char.isDigit).isEmpty then none else some (rest.dropWhile Char.isDigit)
  | text => some text

/-- A day of the calendar. -/
def day? (text : Text) : Option Text := do
  let (year, text) ← fixedNumber? 4 0 9999 text
  let text ← mark? '-' text
  let (month, text) ← fixedNumber? 2 1 12 text
  let text ← mark? '-' text
  let (_, text) ← fixedNumber? 2 1 (daysInMonth year month) text
  some text

/-- The distance of a time zone. -/
def zone? : Text → Option Text
  | 'Z' :: rest => some rest
  | 'z' :: rest => some rest
  | c :: rest =>
    if c = '+' || c = '-' then do
      let (_, rest) ← fixedNumber? 2 0 23 rest
      let rest ← mark? ':' rest
      let (_, rest) ← fixedNumber? 2 0 59 rest
      some rest
    else none
  | [] => none

/-- A time of day after a day, with its mark. -/
def timePart? : Text → Option Text
  | c :: rest =>
    if c = 'T' || c = 't' || c = ' ' then
      (time? rest).map fun rest => (zone? rest).getD rest
    else none
  | [] => none

/-- A day, a time of day or both, as written. -/
def moment? (text : Text) : Option (Toml × Text) := do
  let rest ← match day? text with
    | some rest => some ((timePart? rest).getD rest)
    | none => time? text
  return (.moment (text.take (text.length - rest.length)), rest)

/-- A number or a moment. -/
def number? (text : Text) : Option (Toml × Text) :=
  (moment? text).orElse fun _ => (real? text).orElse fun _ => integer? text

/-! ## Values -/

mutual

/-- A value in which values may nest `levels` deep. -/
def value? : (count levels : Nat) → Reader Toml
  | 0, _, _ => none
  | count + 1, levels, text =>
    match text with
    | '[' :: rest =>
      match levels with
      | 0 => none
      | levels + 1 => (elements? count levels rest).map fun read => (.array read.1, read.2)
    | '\x7b' :: rest =>
      match levels with
      | 0 => none
      | levels + 1 =>
        match skipSpaces rest with
        | '\x7d' :: rest => some (.table [], rest)
        | rest => do
          let (draft, rest) ← pairs? count levels (.table false false []) rest
          some (draft.finish, rest)
    | 't' :: 'r' :: 'u' :: 'e' :: rest => some (.boolean true, rest)
    | 'f' :: 'a' :: 'l' :: 's' :: 'e' :: rest => some (.boolean false, rest)
    | c :: _ =>
      if c = '"' || c = '\'' then (string? text).map fun read => (.string read.1, read.2)
      else number? text
    | [] => none

/-- Elements up to the closing bracket; a comma may stand behind the last. -/
def elements? : (count levels : Nat) → Reader (List Toml)
  | 0, _, _ => none
  | count + 1, levels, text =>
    match skipLines (text.length + 1) text with
    | ']' :: rest => some ([], rest)
    | text => do
      let (element, rest) ← value? count levels text
      match skipLines (rest.length + 1) rest with
      | ',' :: rest =>
        let (more, rest) ← elements? count levels rest
        some (element :: more, rest)
      | ']' :: rest => some ([element], rest)
      | _ => none

/-- Keys and values of a table on one line, up to the closing brace. -/
def pairs? : (count levels : Nat) → TomlDraft → Reader TomlDraft
  | 0, _, _, _ => none
  | count + 1, levels, draft, text => do
    let ((path, key), rest) ← key? nestingLimit text
    let rest ← mark? '=' rest
    let (value, rest) ← value? count levels (skipSpaces rest)
    let draft ← TomlDraft.addKey path key value false false draft.entries
    match skipSpaces rest with
    | ',' :: rest => pairs? count levels draft rest
    | '\x7d' :: rest => some (draft, rest)
    | _ => none

end

/-! ## Documents -/

/-- A line with a key and its value, in the table with the path `current`. -/
def keyLine? (draft : TomlDraft) (current : List Text) (text : Text) :
    Option (TomlDraft × Text) := do
  let ((path, key), rest) ← key? nestingLimit text
  let rest ← mark? '=' rest
  let (value, rest) ← value? (text.length + 1) nestingLimit (skipSpaces rest)
  let draft ← TomlDraft.change false (TomlDraft.addKey path key value) current
    false false draft.entries
  return (draft, ← lineEnd? rest)

/-- The lines of a document, at most `count` of them. -/
def lines? : (count : Nat) → TomlDraft → List Text → Text → Option TomlDraft
  | 0, _, _, _ => none
  | count + 1, draft, current, text =>
    match skipSpaces text with
    | [] => some draft
    | '[' :: '[' :: rest => do
      let ((path, key), rest) ← key? nestingLimit rest
      let rest ← (mark? ']' rest).bind (mark? ']')
      let draft ← TomlDraft.openElement path key false false draft.entries
      lines? count draft (path ++ [key]) (← lineEnd? rest)
    | '[' :: rest => do
      let ((path, key), rest) ← key? nestingLimit rest
      let rest ← mark? ']' rest
      let draft ← TomlDraft.openTable path key false false draft.entries
      lines? count draft (path ++ [key]) (← lineEnd? rest)
    | c :: rest =>
      if c = '#' || c = '\n' || c = '\r' then do
        lines? count draft current (← lineEnd? (c :: rest))
      else do
        let (draft, rest) ← keyLine? draft current (c :: rest)
        lines? count draft current rest

/-- The table that a document holds.  A byte order mark may stand in front. -/
def parse? (text : Text) : Option Toml :=
  let text := if text.head? = some (Char.ofNat 0xfeff) then text.drop 1 else text
  (lines? (text.length + 1) (.table false false []) [] text).map TomlDraft.finish

end MediaSite.Toml
