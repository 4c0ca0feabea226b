import MediaSite.Proofs.Toml.Merge

namespace MediaSite.Toml

/-!
# One value laid over another

What stands at the end of a path in merged values follows from the upper one alone if it has
anything there: this is what it has, merged with what the lower one has at the same place
(`Toml.at?_merge_of_some`).  Where the upper value has nothing, it either leads there through
tables and lets the lower one be seen (`Toml.at?_merge_of_none`), or something that is no
table stands in the way and hides it (`Toml.at?_merge_of_hidden`).

Two values agree if no path tells them apart (`Toml.Agrees`).  That laying a value over
another one again changes nothing then follows from what is seen at each path.  For values
whose tables name each key once it is an equation that keeps the order of the keys as well
(`Toml.merge_merge`); there it takes an induction over the tables, since no path shows an
order.
-/

open scoped Text

variable {below above value inner : Toml} {key : Text} {front path : List Text}

/-! ## Keys -/

theorem get?_of_noTable (noTable : value.isTable = false) (key : Text) :
    value.get? key = none := by
  cases value with
  | table => cases noTable
  | _ => rfl

theorem isTable_of_get? (found : value.get? key = some inner) : value.isTable = true := by
  cases value with
  | table => rfl
  | _ => cases found

/-- What is no table is replaced by anything. -/
theorem merge_onto_noTable (noTable : below.isTable = false) : merge below above = above := by
  rw [merge]
  rintro entries others rfl
  cases noTable

/-- A key of a table that is laid over anything has the values of both there, merged. -/
theorem get?_merge_of_table (below : Toml) (table : above.isTable = true) (key : Text) :
    (merge below above).get? key = Option.merge merge (below.get? key) (above.get? key) := by
  cases tableBelow : below.isTable with
  | true => exact get?_merge tableBelow table key
  | false =>
      rw [merge_onto_noTable tableBelow, get?_of_noTable tableBelow, Option.merge_none_left]

/-! ## Paths -/

theorem at?_append (front rest : List Text) (value : Toml) :
    value.at? (front ++ rest) = (value.at? front).bind (at? rest) := by
  induction front generalizing value with
  | nil => rfl
  | cons key front inductionHypothesis =>
      rw [List.cons_append, at?, at?]
      cases value.get? key with
      | none => rfl
      | some inner => exact inductionHypothesis inner

/-- No path leads through what is no table. -/
theorem at?_of_stopped (found : value.at? front = some inner) (noTable : inner.isTable = false)
    (begins : front <+: path) (proper : front ≠ path) : value.at? path = none := by
  rcases begins with ⟨rest, rfl⟩
  rw [at?_append, found, Option.bind_some]
  cases rest with
  | nil => exact absurd (List.append_nil front).symm proper
  | cons key rest => rw [at?, get?_of_noTable noTable, Option.bind_none]

/-- A path leads through tables exactly if none of its beginnings leads to anything else. -/
theorem tablesAlong_iff : TablesAlong path value ↔
    ∀ front, front <+: path → front ≠ path → ∀ inner, value.at? front = some inner →
      inner.isTable = true := by
  induction path generalizing value with
  | nil =>
      refine iff_of_true trivial fun front begins proper => ?_
      exact absurd (List.prefix_nil.mp begins) proper
  | cons key rest inductionHypothesis =>
      constructor
      · rintro ⟨table, later⟩ front begins proper inner found
        cases front with
        | nil => exact Option.some.inj found ▸ table
        | cons first front =>
            rcases List.cons_prefix_cons.mp begins with ⟨rfl, behind⟩
            rcases Option.bind_eq_some_iff.mp found with ⟨next, here, foundLater⟩
            exact inductionHypothesis.mp (later next here) front behind
              (fun same => proper (congrArg (first :: ·) same)) inner foundLater
      · intro tables
        refine ⟨tables [] List.nil_prefix (List.cons_ne_nil key rest).symm value rfl, ?_⟩
        intro next here
        refine inductionHypothesis.mpr fun front behind proper inner found => ?_
        refine tables (key :: front) (List.cons_prefix_cons.mpr ⟨rfl, behind⟩)
          (fun same => proper (List.cons.inj same).2) inner ?_
        rw [at?, here]
        exact found

/-- What hides the rest of a path. -/
theorem exists_stop (hidden : ¬ TablesAlong path value) :
    ∃ front inner, front <+: path ∧ front ≠ path ∧ value.at? front = some inner ∧
      inner.isTable = false := by
  by_contra free
  refine hidden (tablesAlong_iff.mpr fun front begins proper inner found => ?_)
  by_contra noTable
  exact free ⟨front, inner, begins, proper, found, Bool.eq_false_iff.mpr noTable⟩

/-- What the upper value has at the end of a path is merged with what the lower one has there. -/
theorem at?_merge_of_some (below : Toml) (found : above.at? path = some value) :
    (merge below above).at? path =
      some (match below.at? path with
        | some lower => merge lower value
        | none => value) := by
  induction path generalizing below above with
  | nil => rw [Option.some.inj found]; rfl
  | cons key rest inductionHypothesis =>
      rcases Option.bind_eq_some_iff.mp found with ⟨upper, high, foundLater⟩
      rw [at?, at?, get?_merge_of_table below (isTable_of_get? high), high]
      cases below.get? key with
      | none => exact foundLater
      | some lower => exact inductionHypothesis lower foundLater

theorem at?_merge_of_noTable (below : Toml) (found : above.at? path = some value)
    (noTable : value.isTable = false) : (merge below above).at? path = some value := by
  rw [at?_merge_of_some below found]
  cases below.at? path with
  | none => rfl
  | some lower => exact congrArg some (merge_of_noTable noTable)

/-- Where the upper value leads through tables to nothing, the lower one is seen. -/
theorem at?_merge_of_none (below : Toml) (through : TablesAlong path above)
    (absent : above.at? path = none) : (merge below above).at? path = below.at? path := by
  induction path generalizing below above with
  | nil => cases absent
  | cons key rest inductionHypothesis =>
      rcases through with ⟨table, later⟩
      rw [at?] at absent
      rw [at?, at?, get?_merge_of_table below table]
      cases high : above.get? key with
      | none => rw [Option.merge_none_right]
      | some upper =>
          rw [high] at absent
          cases below.get? key with
          | none => exact absent
          | some lower => exact inductionHypothesis lower (later upper high) absent

/-- Where something that is no table stands in the way, nothing is seen. -/
theorem at?_merge_of_hidden (below : Toml) (hidden : ¬ TablesAlong path above) :
    (merge below above).at? path = none := by
  rcases exists_stop hidden with ⟨front, inner, begins, proper, found, noTable⟩
  exact at?_of_stopped (at?_merge_of_noTable below found noTable) noTable begins proper

/-! ## Agreement -/

/-- What is seen of a value without looking into tables. -/
def surface : Toml → Option Toml
  | .table _ => none
  | value => some value

/-- Two values agree if every path leads to the same in both: to nothing, to a table, or to the
same value that is no table.  The order of the keys of a table does not matter. -/
def Agrees (first second : Toml) : Prop :=
  ∀ path, (first.at? path).map surface = (second.at? path).map surface

theorem surface_of_isTable (table : value.isTable = true) : surface value = none := by
  cases value with
  | table => rfl
  | _ => cases table

theorem surface_merge (below above : Toml) : surface (merge below above) = surface above := by
  cases table : above.isTable with
  | true =>
      rw [surface_of_isTable ((isTable_merge below above).trans table), surface_of_isTable table]
  | false => rw [merge_of_noTable table]

/-- What the upper value has is what is seen of merged values. -/
theorem surface_at?_merge (below : Toml) (found : above.at? path = some value) :
    ((merge below above).at? path).map surface = some (surface value) := by
  rw [at?_merge_of_some below found, Option.map_some]
  cases below.at? path with
  | none => rfl
  | some lower => exact congrArg some (surface_merge lower value)

theorem agrees_merge_merge (below above : Toml) :
    Agrees (merge (merge below above) above) (merge below above) := by
  intro path
  cases found : above.at? path with
  | some value => rw [surface_at?_merge _ found, surface_at?_merge _ found]
  | none =>
      by_cases through : TablesAlong path above
      · rw [at?_merge_of_none (merge below above) through found]
      · rw [at?_merge_of_hidden _ through, at?_merge_of_hidden _ through]

theorem agrees_merge_self (value : Toml) : Agrees (merge value value) value := by
  intro path
  cases found : value.at? path with
  | some inner => exact surface_at?_merge value found
  | none =>
      by_cases through : TablesAlong path value
      · rw [at?_merge_of_none value through found, found]
      · rw [at?_merge_of_hidden value through]

/-! ## Tables that name each key once -/

/-- No table that a path leads to names a key twice. -/
def KeyedOnce (value : Toml) : Prop :=
  ∀ path entries, value.at? path = some (.table entries) → (entries.map Prod.fst).Nodup

variable {entries others : List (Text × Toml)} {entry : Text × Toml}

theorem keyedOnce_of_noTable (noTable : value.isTable = false) : KeyedOnce value := by
  rintro (_ | ⟨key, rest⟩) entries found
  · rw [Option.some.inj found] at noTable
    cases noTable
  · rw [at?, get?_of_noTable noTable] at found
    cases found

theorem keyedOnce_table (distinct : (entries.map Prod.fst).Nodup)
    (once : ∀ entry ∈ entries, KeyedOnce entry.2) : KeyedOnce (.table entries) := by
  rintro (_ | ⟨key, rest⟩) others found
  · cases found
    exact distinct
  · rcases Option.bind_eq_some_iff.mp found with ⟨inner, here, foundLater⟩
    exact once (key, inner) (mem_of_lookup here) rest others foundLater

theorem KeyedOnce.lookup (once : KeyedOnce (.table entries)) (member : entry ∈ entries) :
    entries.lookup entry.1 = some entry.2 :=
  lookup_of_mem (once [] entries rfl) member

theorem KeyedOnce.inside (once : KeyedOnce (.table entries)) (member : entry ∈ entries) :
    KeyedOnce entry.2 := by
  intro path others found
  apply once (entry.1 :: path) others
  rw [at?, get?, once.lookup member]
  exact found

/-- Induction over what tables hold. -/
theorem table_induction {motive : Toml → Prop}
    (noTable : ∀ value : Toml, value.isTable = false → motive value)
    (table : ∀ entries, (∀ entry ∈ entries, motive entry.2) → motive (.table entries))
    (value : Toml) : motive value := by
  induction size : sizeOf value using Nat.strongRecOn generalizing value with
  | ind size inductionHypothesis =>
      subst size
      cases value with
      | table entries =>
          refine table entries fun entry member => inductionHypothesis _ ?_ entry.2 rfl
          have inList := List.sizeOf_lt_of_mem member
          have inEntry : sizeOf entry.2 < sizeOf entry := by
            rcases entry with ⟨name, value⟩
            simp only [Prod.mk.sizeOf_spec]
            omega
          simp only [Toml.table.sizeOf_spec]
          omega
      | _ => exact noTable _ rfl

/-- An entry with what another table has at its key laid over it. -/
def mergeEntry (others : List (Text × Toml)) (entry : Text × Toml) : Text × Toml :=
  (entry.1, match others.lookup entry.1 with
    | some other => merge entry.2 other
    | none => entry.2)

theorem mergeEntries_eq_map (entries others : List (Text × Toml)) :
    mergeEntries entries others = entries.map (mergeEntry others) := by
  induction entries with
  | nil => rw [mergeEntries, List.map_nil]
  | cons entry entries inductionHypothesis =>
      rw [mergeEntries, inductionHypothesis, List.map_cons]
      rfl

/-- Where every key is there already, no entries are added. -/
theorem merge_table_of_known (known : ∀ entry ∈ others, entry.1 ∈ entries.map Prod.fst) :
    merge (.table entries) (.table others) = .table (entries.map (mergeEntry others)) := by
  have nothingNew : (others.filter fun entry => (entries.lookup entry.1).isNone) = [] := by
    apply List.filter_eq_nil_iff.mpr
    intro entry member missing
    exact lookup_eq_none_iff.mp (Option.isNone_iff_eq_none.mp missing) (known entry member)
  rw [merge, nothingNew, List.append_nil, mergeEntries_eq_map]

/-- Entries that merging leaves as they are make up a table that it leaves as it is. -/
theorem merge_table_of_kept (known : ∀ entry ∈ others, entry.1 ∈ entries.map Prod.fst)
    (kept : ∀ entry ∈ entries, ∀ other, others.lookup entry.1 = some other →
      merge entry.2 other = entry.2) :
    merge (.table entries) (.table others) = .table entries := by
  have same : ∀ entry ∈ entries, mergeEntry others entry = entry := by
    intro entry member
    rw [mergeEntry]
    cases found : others.lookup entry.1 with
    | none => rfl
    | some other => exact Prod.ext rfl (kept entry member other found)
  rw [merge_table_of_known known, List.map_congr_left same, List.map_id']

/-- A value laid over itself is left as it is. -/
theorem merge_self (once : KeyedOnce value) : merge value value = value := by
  induction value using table_induction with
  | noTable value noTable => exact merge_of_noTable noTable
  | table entries inductionHypothesis =>
      refine merge_table_of_kept (fun entry member => List.mem_map_of_mem member) ?_
      intro entry member other found
      rw [once.lookup member] at found
      rw [← Option.some.inj found]
      exact inductionHypothesis entry member (once.inside member)

/-- Laying a value over another one a second time changes nothing. -/
theorem merge_merge (below : Toml) (once : KeyedOnce above) :
    merge (merge below above) above = merge below above := by
  induction above using table_induction generalizing below with
  | noTable above noTable => rw [merge_of_noTable noTable, merge_of_noTable noTable]
  | table others inductionHypothesis =>
      cases tableBelow : below.isTable with
      | false => rw [merge_onto_noTable tableBelow, merge_self once]
      | true =>
          cases below <;> cases tableBelow
          rename_i entries
          rw [merge, mergeEntries_eq_map]
          refine merge_table_of_kept (fun entry member => ?_) fun entry member other found => ?_
          -- A key of the upper table is one of the lower one, or it has been added.
          · rw [List.map_append, List.mem_append]
            by_cases known : entry.1 ∈ entries.map Prod.fst
            · left
              rwa [List.map_map]
            · right
              refine List.mem_map_of_mem (List.mem_filter.mpr ⟨member, ?_⟩)
              rw [lookup_eq_none_iff.mpr known]
              rfl
          · rcases List.mem_append.mp member with old | new
            · rcases List.mem_map.mp old with ⟨first, _, rfl⟩
              have here : others.lookup first.1 = some other := found
              have inOthers := mem_of_lookup here
              have merged : mergeEntry others first = (first.1, merge first.2 other) := by
                rw [mergeEntry, here]
              rw [merged]
              exact inductionHypothesis _ inOthers first.2 (once.inside inOthers)
            · have inOthers := (List.mem_filter.mp new).1
              rw [once.lookup inOthers] at found
              rw [← Option.some.inj found]
              exact merge_self (once.inside inOthers)

theorem merge_empty (table : below.isTable = true) : merge below (.table []) = below := by
  cases below <;> cases table
  exact merge_table_of_kept nofun nofun

/-! ## The laws of merging -/

/-- Merged values have at every path what the upper one has there, a table where that has a
table, and what the lower one has where the upper one leads through tables to nothing.  A
value that is laid over another one twice, or over itself, changes nothing, and neither does an
empty table that is laid over a table. -/
theorem merge_laws (below above : Toml) :
    (∀ path value, above.at? path = some value → value.isTable = false →
      (merge below above).at? path = some value) ∧
    (∀ path value, above.at? path = some value → value.isTable = true →
      ∃ merged, (merge below above).at? path = some merged ∧ merged.isTable = true) ∧
    (∀ path, above.at? path = none →
      (∀ front, front <+: path → front ≠ path → ∀ value, above.at? front = some value →
        value.isTable = true) →
      (merge below above).at? path = below.at? path) ∧
    (Agrees (merge (merge below above) above) (merge below above) ∧
      (KeyedOnce above → merge (merge below above) above = merge below above)) ∧
    (Agrees (merge below below) below ∧ (KeyedOnce below → merge below below = below)) ∧
    (below.isTable = true → merge below (.table []) = below) := by
  refine ⟨fun path value found noTable => at?_merge_of_noTable below found noTable,
    fun path value found table => ?_,
    fun path absent tables => at?_merge_of_none below (tablesAlong_iff.mpr tables) absent,
    ⟨agrees_merge_merge below above, merge_merge below⟩,
    ⟨agrees_merge_self below, merge_self⟩, merge_empty⟩
  refine ⟨_, at?_merge_of_some below found, ?_⟩
  cases below.at? path with
  | none => exact table
  | some lower => exact (isTable_merge lower value).trans table

/-- A layer of settings with a number where a table is wanted. -/
def lowerLayer : Toml :=
  .table [("images", .table [("jpeg_quality", .integer 90), ("note", .string "kept")]),
    ("export", .integer 5)]

/-- A layer that replaces a number in a table, and a number by a table. -/
def upperLayer : Toml :=
  .table [("images", .table [("jpeg_quality", .integer 80)]),
    ("export", .table [("sections", .array [])])]

theorem keyedOnce_upperLayer : KeyedOnce upperLayer := by
  refine keyedOnce_table (by decide) fun entry member => ?_
  rcases List.mem_pair.mp member with rfl | rfl
  · refine keyedOnce_table (by decide) fun entry member => ?_
    rw [List.mem_singleton.mp member]
    exact keyedOnce_of_noTable rfl
  · refine keyedOnce_table (by decide) fun entry member => ?_
    rw [List.mem_singleton.mp member]
    exact keyedOnce_of_noTable rfl

theorem merge_laws_layers :
    (merge lowerLayer upperLayer).at? ["images", "jpeg_quality"] = some (.integer 80) ∧
    (merge lowerLayer upperLayer).at? ["images", "note"] = some (.string "kept") ∧
    (∃ merged, (merge lowerLayer upperLayer).at? ["export"] = some merged ∧
      merged.isTable = true) ∧
    KeyedOnce upperLayer ∧
    merge (merge lowerLayer upperLayer) upperLayer = merge lowerLayer upperLayer ∧
    merge lowerLayer (.table []) = lowerLayer := by
  rcases merge_laws lowerLayer upperLayer with ⟨replaced, tables, seen, ⟨_, again⟩, _, empty⟩
  refine ⟨replaced _ _ rfl rfl, (seen ["images", "note"] rfl ?_).trans rfl, tables _ _ rfl rfl,
    keyedOnce_upperLayer, again keyedOnce_upperLayer, empty rfl⟩
  exact tablesAlong_iff.mp ⟨rfl, fun _ found => Option.some.inj found ▸ ⟨rfl, nofun⟩⟩

end MediaSite.Toml
