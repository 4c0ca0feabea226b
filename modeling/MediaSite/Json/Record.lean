import MediaSite.Json.Value

namespace MediaSite.Json

/-!
# Records in JSON

A record is an object whose members are the fields by name, or an array of
the fields in their order.  Members with other names are ignored, a field may
be left out, but a field given twice is refused.  A table with a fixed set of
keys is an object too; there an unknown key is refused and the last of several
members with one key counts.  An enumerated value is its name, or an object
whose only member has that name and the value null.
-/

open scoped Text

/-- How values of a type are read. -/
abbrev Decoder (α : Type) := Json → Option α

/-- The fields of a record with these names. -/
def fields? (names : List Text) : Json → Option (List (Text × Json))
  | .object members =>
    if names.all fun name => members.countP (·.1 == name) ≤ 1 then some members else none
  | .array elements =>
    if elements.length ≤ names.length then some (names.zip elements) else none
  | _ => none

/-- A field with the value that stands for a missing one. -/
def field (fields : List (Text × Json)) (name : Text) (decode : Decoder α) (missing : α) :
    Option α :=
  match fields.lookup name with
  | some value => decode value
  | none => some missing

/-- A text. -/
def asText : Decoder Text
  | .string text => some text
  | _ => none

/-- A truth value. -/
def asBool : Decoder Bool
  | .bool value => some value
  | _ => none

/-- A natural number below a bound. -/
def asNatural (bound : Nat) : Decoder Nat
  | .whole value => if 0 ≤ value ∧ value < bound then some value.toNat else none
  | _ => none

/-- A natural number with at most 64 bits. -/
def asUInt64 : Decoder UInt64 := fun json =>
  (asNatural UInt64.size json).map UInt64.ofNat

/-- A natural number with at most 32 bits. -/
def asUInt32 : Decoder UInt32 := fun json =>
  (asNatural UInt32.size json).map UInt32.ofNat

/-- A natural number with at most 16 bits. -/
def asUInt16 : Decoder UInt16 := fun json =>
  (asNatural UInt16.size json).map UInt16.ofNat

/-- A double; whole numbers are rounded to one. -/
def asFloat : Decoder Float
  | .real value => if value.isFinite then some value else none
  | .whole value =>
    some (if value < 0 then -(UInt64.ofNat value.natAbs).toFloat
      else (UInt64.ofNat value.natAbs).toFloat)
  | _ => none

/-- A value that may be null. -/
def asOptional (decode : Decoder α) : Decoder (Option α)
  | .null => some none
  | json => (decode json).map some

/-- An array of values. -/
def asList (decode : Decoder α) : Decoder (List α)
  | .array elements => elements.mapM decode
  | _ => none

/-- An enumerated value, found by its name. -/
def asNamed (ofName? : Text → Option α) : Decoder α
  | .string name => ofName? name
  | .object [(name, .null)] => ofName? name
  | _ => none

/-- The members of a table with their keys found by name. -/
def entries? (ofName? : Text → Option κ) (decode : Decoder α) :
    List (Text × Json) → Option (List (κ × α))
  | [] => some []
  | (name, value) :: rest => do
    let key ← ofName? name
    let value ← decode value
    let rest ← entries? ofName? decode rest
    return (key, value) :: rest

/-- A table with a fixed set of keys. -/
def asTable [BEq κ] (all : List κ) (name : κ → Text) (decode : Decoder α) : Decoder (κ → Option α)
  | .object members => do
    let entries ← entries? (fun text => all.find? (name · == text)) decode members
    return fun key => entries.reverse.lookup key
  | _ => none

/-- A table as an object, with its keys in order. -/
def ofTable (all : List κ) (name : κ → Text) (encode : α → Json) (table : κ → Option α) : Json :=
  .object (all.filterMap fun key => (table key).map fun value => (name key, encode value))

/-- A value that may be missing, null if it is. -/
def ofOptional (encode : α → Json) : Option α → Json
  | some value => encode value
  | none => .null

/-- Values as an array. -/
def ofList (encode : α → Json) (values : List α) : Json :=
  .array (values.map encode)

/-- A natural number. -/
def ofNatural (value : Nat) : Json :=
  .whole value

end MediaSite.Json
