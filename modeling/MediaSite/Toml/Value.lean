import MediaSite.Text.Basic

namespace MediaSite

/-!
# TOML values

A value is a scalar, an array or a table.  Floating point numbers and moments
have no use in settings and are kept as written.

`Toml.merge` lays one value over another: tables are merged key by key, and
anything else replaces what was below it.  A value is looked at through the
paths of keys that lead into it, see `Toml.at?`.
-/

/-- A TOML value.  The keys of a table have no meaning beyond the first. -/
inductive Toml where
  | string (text : Text)
  | integer (value : Int)
  | real (written : Text)
  | boolean (value : Bool)
  | moment (written : Text)
  | array (elements : List Toml)
  | table (entries : List (Text × Toml))

instance : Inhabited Toml := ⟨.table []⟩

namespace Toml

/-- A table. -/
def isTable : Toml → Bool
  | .table _ => true
  | _ => false

/-- The value at a key of a table. -/
def get? (key : Text) : Toml → Option Toml
  | .table entries => entries.lookup key
  | _ => none

/-- The value at the end of a path of keys. -/
def at? : List Text → Toml → Option Toml
  | [], value => some value
  | key :: rest, value => (value.get? key).bind (at? rest)

mutual

/-- Lay a value over another one. -/
def merge : Toml → Toml → Toml
  | .table below, .table above =>
    .table (mergeEntries below above ++ above.filter fun entry => (below.lookup entry.1).isNone)
  | _, above => above

/-- The entries of a table with those of another one laid over them. -/
def mergeEntries : List (Text × Toml) → List (Text × Toml) → List (Text × Toml)
  | [], _ => []
  | (key, value) :: rest, above =>
    (key, match above.lookup key with
      | some other => merge value other
      | none => value) :: mergeEntries rest above

end

end Toml
end MediaSite
