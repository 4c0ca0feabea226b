import Mathlib.Data.List.Nodup

namespace MediaSite

/-!
# Looking keys up

Fields, links and outcomes that are remembered are lists of pairs, in which the first
pair with a key decides.  With distinct keys the order of the pairs does not matter.
-/

variable {κ α : Type} [BEq κ] [LawfulBEq κ] {entries : List (κ × α)} {key : κ}

theorem mem_of_lookup {value : α} (found : entries.lookup key = some value) :
    (key, value) ∈ entries := by
  rcases List.lookup_eq_some_iff.mp found with ⟨before, after, rfl, _⟩
  exact List.mem_append_right before List.mem_cons_self

theorem lookup_eq_none_iff : entries.lookup key = none ↔ key ∉ entries.map Prod.fst := by
  rw [List.lookup_eq_none_iff]
  constructor
  · intro absent member
    rcases List.mem_map.mp member with ⟨item, inEntries, same⟩
    exact bne_iff_ne.mp (absent item inEntries) same.symm
  · intro absent item inEntries
    exact bne_iff_ne.mpr fun same => absent (same ▸ List.mem_map_of_mem inEntries)

/-- Where the value of a key is a function of it, that is what is found. -/
theorem lookup_of_graph {value : κ → α} (graph : ∀ item ∈ entries, item.2 = value item.1)
    (known : key ∈ entries.map Prod.fst) : entries.lookup key = some (value key) := by
  cases found : entries.lookup key with
  | none => exact absurd known (lookup_eq_none_iff.mp found)
  | some shown => exact congrArg some (graph _ (mem_of_lookup found))

theorem lookup_of_mem (distinct : (entries.map Prod.fst).Nodup) {item : κ × α}
    (member : item ∈ entries) : entries.lookup item.1 = some item.2 := by
  cases found : entries.lookup item.1 with
  | none => exact absurd (List.mem_map_of_mem member) (lookup_eq_none_iff.mp found)
  | some value =>
      have same := List.inj_on_of_nodup_map distinct (mem_of_lookup found) member rfl
      rw [← same]

omit [LawfulBEq κ] in
theorem lookup_map_snd {β : Type} (entries : List (κ × α)) (change : α → β) (key : κ) :
    (entries.map fun item => (item.1, change item.2)).lookup key =
      (entries.lookup key).map change := by
  induction entries with
  | nil => rfl
  | cons item entries inductionHypothesis =>
      rw [List.map_cons, List.lookup_cons, List.lookup_cons, inductionHypothesis]
      cases key == item.1 <;> rfl

/-- Leaving entries out by their keys leaves those keys out. -/
theorem lookup_filter_key (keep : κ → Bool) (entries : List (κ × α)) (key : κ) :
    (entries.filter fun entry => keep entry.1).lookup key =
      if keep key then entries.lookup key else none := by
  induction entries with
  | nil => rw [List.filter_nil, List.lookup_nil, ite_self]
  | cons entry entries inductionHypothesis =>
      rw [List.filter_cons, List.lookup_cons]
      cases same : key == entry.1 with
      | true =>
          rw [beq_iff_eq.mp same]
          split
          · rw [List.lookup_cons, beq_self_eq_true]
          · rename_i dropped
            rw [beq_iff_eq.mp same, if_neg dropped] at inductionHypothesis
            exact inductionHypothesis
      | false =>
          split
          · rw [List.lookup_cons, same, inductionHypothesis]
          · exact inductionHypothesis

/-- Leaving out entries with other keys makes no difference for a key. -/
theorem lookup_filter_of_keep {keep : κ × α → Bool}
    (kept : ∀ entry ∈ entries, entry.1 = key → keep entry = true) :
    (entries.filter keep).lookup key = entries.lookup key := by
  induction entries with
  | nil => rfl
  | cons entry entries inductionHypothesis =>
      rcases List.forall_mem_cons.mp kept with ⟨here, later⟩
      rw [List.filter_cons, List.lookup_cons]
      cases same : key == entry.1 with
      | true =>
          rw [if_pos (here (beq_iff_eq.mp same).symm), List.lookup_cons, same]
      | false =>
          split
          · rw [List.lookup_cons, same]
            exact inductionHypothesis later
          · exact inductionHypothesis later

/-- Which value a key has does not depend on the order of the entries. -/
theorem lookup_of_perm {order : List (κ × α)} (perm : order.Perm entries)
    (distinct : (entries.map Prod.fst).Nodup) (key : κ) :
    order.lookup key = entries.lookup key := by
  have orderDistinct : (order.map Prod.fst).Nodup := (perm.map Prod.fst).nodup_iff.mpr distinct
  cases known : entries.lookup key with
  | some value => exact lookup_of_mem orderDistinct (perm.mem_iff.mpr (mem_of_lookup known))
  | none =>
      rw [lookup_eq_none_iff] at known ⊢
      exact fun member => known ((perm.map Prod.fst).mem_iff.mp member)

end MediaSite
