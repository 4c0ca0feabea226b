import MediaSite.Toml.Value

namespace MediaSite

/-!
# Tables under construction

While a document is read, a table remembers how it came about.  A table is
*implicit* when only deeper headers or dotted keys named it so far, and
*dotted* when dotted keys did.  A header may claim an implicit table once, if
no dotted key made it; dotted keys may only extend tables that dotted keys
made.  Headers in double brackets add to an array of tables, and a path
through such an array goes to its last table.
-/

/-- Part of a document under construction. -/
inductive TomlDraft where
  | value (value : Toml)
  | table (implicit dotted : Bool) (entries : List (Text × TomlDraft))
  /-- An array of tables, each with its entries, the last one in front. -/
  | tables (items : List (List (Text × TomlDraft)))

namespace TomlDraft

instance : Inhabited TomlDraft := ⟨.tables []⟩

/-- The entries of a table. -/
abbrev Entries := List (Text × TomlDraft)

/-- A change of a table that may be refused: its two flags and its entries. -/
abbrev Change := Bool → Bool → Entries → Option TomlDraft

/-- Entries with a new value at a key. -/
def setEntry (key : Text) (draft : TomlDraft) : Entries → Entries
  | [] => [(key, draft)]
  | (other, kept) :: rest =>
    if other = key then (key, draft) :: rest else (other, kept) :: setEntry key draft rest

/-- The entries of a draft that stands for one table. -/
def entries : TomlDraft → Entries
  | .table _ _ entries => entries
  | _ => []

/-- Change the table at the end of a path.  Tables on the way are made where
they are missing; `byKey` says that the path is that of a dotted key. -/
def change (byKey : Bool) (action : Change) : List Text → Change
  | [], implicit, dotted, entries => action implicit dotted entries
  | key :: rest, implicit, dotted, entries => do
    let next ← match entries.lookup key with
      | none => change byKey action rest true byKey []
      | some (.value _) => none
      | some (.tables []) => none
      | some (.tables (last :: earlier)) => do
        let last ← change byKey action rest false false last
        some (.tables (last.entries :: earlier))
      | some (.table childImplicit childDotted inner) =>
        if byKey && !childImplicit then none
        else change byKey action rest childImplicit childDotted inner
    some (.table implicit dotted (setEntry key next entries))

/-- Give a key of a table its value.  `path` are the keys in front of it. -/
def addKey (path : List Text) (key : Text) (value : Toml) : Change :=
  change true (fun implicit dotted entries =>
    if dotted == path.isEmpty || (entries.lookup key).isSome then none
    else some (.table implicit dotted (setEntry key (.value value) entries))) path

/-- Open the table that a header names.  It then stands behind the others. -/
def openTable (path : List Text) (key : Text) : Change :=
  change false (fun implicit dotted entries =>
    match entries.lookup key with
    | none => some (.table implicit dotted (setEntry key (.table false false []) entries))
    | some (.table true false inner) =>
      let others := entries.filter fun entry => entry.1 != key
      some (.table implicit dotted (setEntry key (.table false false inner) others))
    | some _ => none) path

/-- Add a table to the array that a header in double brackets names. -/
def openElement (path : List Text) (key : Text) : Change :=
  change false (fun implicit dotted entries =>
    match entries.lookup key with
    | none => some (.table implicit dotted (setEntry key (.tables [[]]) entries))
    | some (.tables items) =>
      some (.table implicit dotted (setEntry key (.tables ([] :: items)) entries))
    | some _ => none) path

mutual

/-- The finished value of a draft. -/
def finish : TomlDraft → Toml
  | .value finished => finished
  | .table _ _ entries => .table (finishEntries entries)
  | .tables items => .array (finishTables items).reverse

/-- The finished entries of a table. -/
def finishEntries : List (Text × TomlDraft) → List (Text × Toml)
  | [] => []
  | (key, draft) :: rest => (key, finish draft) :: finishEntries rest

/-- The finished tables of an array, in the order of the draft. -/
def finishTables : List (List (Text × TomlDraft)) → List Toml
  | [] => []
  | entries :: rest => .table (finishEntries entries) :: finishTables rest

end

end TomlDraft
end MediaSite
