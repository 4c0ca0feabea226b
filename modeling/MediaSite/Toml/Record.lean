import MediaSite.Toml.Value

namespace MediaSite.Toml

/-!
# Records in TOML

A record is a table that has no other keys than its fields, or an array of the
fields in their order.  Whether an array may have surplus elements depends on
where the record stands: a document read in one go tolerates them.  An
enumerated value is its name, or a table whose only key is that name and whose
value is empty.
-/

/-- How values of a type are read. -/
abbrev Decoder (α : Type) := Toml → Option α

/-- Whether an array may be longer than the record that it stands for. -/
inductive Surplus where
  | refused
  | ignored
  deriving DecidableEq, Repr

/-- The fields of a record with these names. -/
def fields? (surplus : Surplus) (names : List Text) : Toml → Option (List (Text × Toml))
  | .table entries => if entries.all fun entry => names.contains entry.1 then some entries else none
  | .array elements =>
    if elements.length ≤ names.length || surplus = .ignored then some (names.zip elements)
    else none
  | _ => none

/-- A field with the value that stands for a missing one. -/
def field (fields : List (Text × Toml)) (name : Text) (decode : Decoder α) (missing : α) :
    Option α :=
  match fields.lookup name with
  | some value => decode value
  | none => some missing

/-- A text. -/
def asText : Decoder Text
  | .string text => some text
  | _ => none

/-- A natural number below a bound. -/
def asNatural (bound : Nat) : Decoder Nat
  | .integer value => if 0 ≤ value ∧ value < bound then some value.toNat else none
  | _ => none

/-- An array of values. -/
def asList (decode : Decoder α) : Decoder (List α)
  | .array elements => elements.mapM decode
  | _ => none

/-- A value that holds nothing. -/
def isEmpty : Toml → Bool
  | .array elements => elements.isEmpty
  | .table entries => entries.isEmpty
  | _ => false

/-- An enumerated value, found by its name. -/
def asNamed (ofName? : Text → Option α) : Decoder α
  | .string name => ofName? name
  | .table [(name, value)] => if isEmpty value then ofName? name else none
  | _ => none

end MediaSite.Toml
