import MediaSite.Template.Escape
import MediaSite.Template.Token
import MediaSite.Text.Blank

namespace MediaSite

/-!
# Blocks

A block is what stands between a pair of markers, `{{ BEGIN_BLOCK_TAGS }}` and
`{{ END_BLOCK_TAGS }}`.  It is kept together with the text around it, so that
putting something in its place is no more than joining texts.

The first block of a name begins with the first opening marker and ends with
the first closing marker after it.  Searching on from its end gives the blocks
of a text one after the other, and `Block.scan` lists them; the last block is
the last of this list.
-/

open scoped Text

/-- Why a template cannot be filled. -/
inductive TemplateError where
  /-- The lists of values for a block do not fit together. -/
  | mismatchedColumns (block : Text) (expected found : Nat)
  /-- A block name is too long to be searched for. -/
  | nameTooLong
  deriving DecidableEq, Repr

/-- The message of a template error. -/
def TemplateError.message : TemplateError → Text
  | .mismatchedColumns block expected found =>
    "block " ++ block ++ ": mismatched value lists (expected " ++ Text.ofNat expected ++
      ", found " ++ Text.ofNat found ++ ")"
  | .nameTooLong => "invalid block pattern: Compiled regex exceeds size limit of 10485760 bytes."

/-- Which of several blocks of one name is taken, and what is replaced. -/
inductive BlockMatch where
  /-- The first block, replaced on its own. -/
  | first
  /-- The last block of the forward scan, replaced wherever its text occurs. -/
  | last
  deriving DecidableEq, Repr

/-- The name of a way to match, as settings give it. -/
def BlockMatch.name : BlockMatch → Text
  | .first => "first"
  | .last => "last"

/-- A block and the text around it. -/
structure Block where
  before : Text
  /-- The block itself, markers included. -/
  source : Text
  /-- What stands between the markers, without blanks at its ends. -/
  inner : Text
  after : Text
  deriving DecidableEq

namespace Block

/-- The marker that opens a block. -/
def opening (name : Text) : Text :=
  Token.ofName (Token.beginMark ++ name)

/-- The marker that closes a block. -/
def closing (name : Text) : Text :=
  Token.ofName (Token.endMark ++ name)

/-- The whole text that a block was found in. -/
def text (block : Block) : Text :=
  block.before ++ block.source ++ block.after

/-- The octets that a block takes, from the first up to the one after the last. -/
def span (block : Block) : Nat × Nat :=
  (Text.byteLength block.before,
    Text.byteLength block.before + Text.byteLength block.source)

/-- The first block of a name. -/
def first? (name text : Text) : Option Block := do
  let (before, rest) ← Text.cut? (opening name) text
  let (body, after) ← Text.cut? (closing name) rest
  return {
    before
    source := opening name ++ body ++ closing name
    inner := Text.trim body
    after }

/-- The blocks of a name in a text that follows `passed`, one after the other. -/
def scanAfter (name passed text : Text) : List Block :=
  match first? name text with
  | none => []
  | some block =>
    if block.after.length < text.length then
      { block with before := passed ++ block.before } ::
        scanAfter name (passed ++ block.before ++ block.source) block.after
    else []
termination_by text.length

/-- The blocks of a name, one after the other. -/
def scan (name text : Text) : List Block :=
  scanAfter name [] text

/-- The block that a way to match selects. -/
def select (mode : BlockMatch) (name text : Text) : Option Block :=
  match mode with
  | .first => first? name text
  | .last => (scan name text).getLast?

/-- The longest block name, in octets, that can be searched for: a search for
both markers takes one state per octet and its states are limited in number. -/
def nameLimit : Nat :=
  163750

/-- Find a block. -/
def find (mode : BlockMatch) (name text : Text) : Except TemplateError (Option Block) :=
  if nameLimit < Text.byteLength name then .error .nameTooLong
  else .ok (select mode name text)

/-- Put a text in the place of the block alone. -/
def splice (block : Block) (rendered : Text) : Text :=
  block.before ++ rendered ++ block.after

/-- Put a text in the place of the block, and in last mode in the place of
every copy of it. -/
def replace (mode : BlockMatch) (block : Block) (rendered : Text) : Text :=
  match mode with
  | .first => block.splice rendered
  | .last => Text.replaceAll block.source rendered block.text

/-! ## Values -/

/-- Fill the tokens of a row, one name after the other. -/
def fillRow (inner : Text) (names row : List Text) : Text :=
  (names.zip row).foldl
    (fun text item => Text.replaceAll (Token.ofName item.1) (Html.escape item.2) text) inner

/-- The rows of columns that have `count` values each. -/
def rows (count : Nat) (columns : List (List Text)) : List (List Text) :=
  (List.range count).map fun index => columns.map fun column => column.getD index []

/-- Repeat a block for each row of several lists of values, with one token
name per list.  The block is always the first of its name. -/
def expandColumns (mode : BlockMatch) (name : Text) (names : List Text)
    (columns : List (List Text)) (text : Text) : Except TemplateError Text := do
  if names.length ≠ columns.length then
    throw (.mismatchedColumns name names.length columns.length)
  let count := (columns.head?.map List.length).getD 0
  match columns.find? fun column => column.length != count with
  | some column => throw (.mismatchedColumns name count column.length)
  | none =>
    match ← find .first name text with
    | none => return text
    | some block =>
      let items := (rows count columns).map (fillRow block.inner names)
      return block.replace mode (Text.join " " items)

/-- Repeat a block for each of a list of values. -/
def expandValues (mode : BlockMatch) (name item : Text) (values : List Text) (text : Text) :
    Except TemplateError Text :=
  expandColumns mode name [item] [values] text

/-! ## Items -/

/-- Rendered items one below the other. -/
def joinItems (rendered : List Text) : Text :=
  Text.join "\n" rendered

/-- Repeat a block for each of a list of items, each rendered from the inner
text of the block. -/
def expandItems [Monad m] (mode : BlockMatch) (name : Text) (items : List α)
    (render : Text → α → ExceptT TemplateError m Text) (text : Text) :
    ExceptT TemplateError m Text := do
  match ← ExceptT.mk (pure (find mode name text)) with
  | none => return text
  | some block =>
    let rendered ← items.mapM (render block.inner)
    return block.replace mode (joinItems rendered)

end Block
end MediaSite
