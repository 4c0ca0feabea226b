import MediaSite.Proofs.Text.Lookup
import MediaSite.Toml.Value

namespace MediaSite.Toml

/-!
# Looking into merged values

At a key of two tables that are merged are the values that both have there, merged, or the one
that only one of them has (`Toml.get?_merge`).  So it is at the end of every path that leads
through tables in both (`Toml.at?_merge`).  Where one of the two has no table on the way, what it
has there instead hides what is below.
-/

variable {below above : Toml} {key : Text} {path : List Text}

/-! ## Keys -/

theorem lookup_mergeEntries (entries others : List (Text × Toml)) (key : Text) :
    (mergeEntries entries others).lookup key =
      (entries.lookup key).map fun value => match others.lookup key with
        | some other => merge value other
        | none => value := by
  induction entries with
  | nil => rw [mergeEntries]; rfl
  | cons entry entries inductionHypothesis =>
      rw [mergeEntries, List.lookup_cons, List.lookup_cons]
      cases same : key == entry.1 with
      | true => rw [beq_iff_eq.mp same]; rfl
      | false => exact inductionHypothesis

/-- A key of merged tables has the values that both have, merged. -/
theorem get?_merge (tableBelow : below.isTable = true) (tableAbove : above.isTable = true)
    (key : Text) :
    (merge below above).get? key = Option.merge merge (below.get? key) (above.get? key) := by
  cases below <;> cases tableBelow
  cases above <;> cases tableAbove
  rename_i entries others
  rw [merge, get?, get?, get?, List.lookup_append, lookup_mergeEntries,
    lookup_filter_key (fun name => (entries.lookup name).isNone)]
  cases entries.lookup key <;> cases others.lookup key <;> rfl

theorem isTable_merge (below above : Toml) : (merge below above).isTable = above.isTable := by
  cases above <;> cases below <;> rw [merge] <;> first | rfl | nofun

/-! ## Paths -/

/-- What a path leads through are tables, as far as it leads. -/
def TablesAlong : List Text → Toml → Prop
  | [], _ => True
  | key :: rest, value =>
    value.isTable = true ∧ ∀ inner, value.get? key = some inner → TablesAlong rest inner

theorem TablesAlong.merge (through : TablesAlong path below)
    (throughAbove : TablesAlong path above) :
    TablesAlong path (merge below above) := by
  induction path generalizing below above with
  | nil => trivial
  | cons key rest inductionHypothesis =>
      refine ⟨(isTable_merge below above).trans throughAbove.1, fun inner found => ?_⟩
      rw [get?_merge through.1 throughAbove.1] at found
      cases low : below.get? key with
      | none =>
          rw [low, Option.merge_none_left] at found
          exact throughAbove.2 inner found
      | some lower =>
          cases high : above.get? key with
          | none =>
              rw [low, high, Option.merge_none_right] at found
              exact through.2 inner (low.trans found)
          | some upper =>
              rw [low, high] at found
              cases found
              exact inductionHypothesis (through.2 lower low) (throughAbove.2 upper high)

/-- Merging goes along with paths through tables. -/
theorem at?_merge (through : TablesAlong path below) (throughAbove : TablesAlong path above) :
    (merge below above).at? path = Option.merge merge (below.at? path) (above.at? path) := by
  induction path generalizing below above with
  | nil => rfl
  | cons key rest inductionHypothesis =>
      rw [at?, at?, at?, get?_merge through.1 throughAbove.1]
      cases low : below.get? key with
      | none => rw [Option.merge_none_left, Option.bind_none, Option.merge_none_left]
      | some lower =>
          cases high : above.get? key with
          | none => rw [Option.merge_none_right, Option.bind_none, Option.merge_none_right]
          | some upper =>
              exact inductionHypothesis (through.2 lower low) (throughAbove.2 upper high)

/-- A value that is no table replaces what was below it. -/
theorem merge_of_noTable (noTable : above.isTable = false) : merge below above = above := by
  cases above with
  | table => cases noTable
  | _ => cases below <;> rw [merge] <;> nofun

/-- Something is at the end of a path if it is in one of the two. -/
theorem at?_merge_ne_none (through : TablesAlong path below)
    (throughAbove : TablesAlong path above) :
    (merge below above).at? path ≠ none ↔ below.at? path ≠ none ∨ above.at? path ≠ none := by
  rw [at?_merge through throughAbove]
  cases below.at? path <;> cases above.at? path <;> simp

end MediaSite.Toml
