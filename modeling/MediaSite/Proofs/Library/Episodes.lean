import MediaSite.Library.Order

namespace MediaSite

/-!
# Episodes season by season

A show lists its seasons in ascending order, and in each its episodes.  Put one
after the other these are all its episodes in order: sorting is stable, so it
does not matter whether the episodes of a season are picked before sorting or
after it (`filter_mergeSort`), and a list sorted by a key falls into the runs of
its keys (`flatMap_filter_ascending`).
-/

/-! ## Stable sorting -/

section Sorting

variable {α : Type} {le : α → α → Bool}

/-- Where a list is cut by a test, its parts are what fails the test and what passes it. -/
theorem eq_filter_of_cut {test : α → Bool} {first second : List α}
    (fails : ∀ item ∈ first, test item = false) (passes : ∀ item ∈ second, test item = true) :
    first = (first ++ second).filter (!test ·) ∧ second = (first ++ second).filter test := by
  have firstFails : ∀ item ∈ first, (!test item) = true := fun item member => by
    rw [fails item member]; rfl
  have secondFails : ∀ item ∈ second, ¬ (!test item) = true := fun item member => by
    rw [passes item member]; decide
  have firstPasses : ∀ item ∈ first, ¬ test item = true := fun item member => by
    rw [fails item member]; decide
  rw [List.filter_append, List.filter_append, List.filter_eq_self.mpr firstFails,
    List.filter_eq_nil_iff.mpr secondFails, List.filter_eq_nil_iff.mpr firstPasses,
    List.filter_eq_self.mpr passes, List.append_nil, List.nil_append]
  exact ⟨rfl, rfl⟩

/-- Items may be picked before sorting or after it. -/
theorem filter_mergeSort (trans : ∀ a b c, le a b = true → le b c = true → le a c = true)
    (total : ∀ a b, (le a b || le b a) = true) (keep : α → Bool) (items : List α) :
    (items.mergeSort le).filter keep = (items.filter keep).mergeSort le := by
  induction items with
  | nil => simp
  | cons item items inductionHypothesis =>
      rcases List.mergeSort_cons trans total item items with ⟨front, back, sorted, rest, before⟩
      rw [sorted, List.filter_append]
      cases kept : keep item with
      | false =>
          rw [List.filter_cons_of_neg (by rw [kept]; decide),
            List.filter_cons_of_neg (by rw [kept]; decide), ← List.filter_append, ← rest]
          exact inductionHypothesis
      | true =>
          rw [List.filter_cons_of_pos kept, List.filter_cons_of_pos kept]
          rcases List.mergeSort_cons trans total item (items.filter keep) with
            ⟨keptFront, keptBack, keptSorted, keptRest, keptBefore⟩
          have ascending := List.pairwise_mergeSort trans total (item :: items)
          have keptAscending := List.pairwise_mergeSort trans total (item :: items.filter keep)
          rw [sorted] at ascending
          rw [keptSorted] at keptAscending
          have after := (List.pairwise_cons.mp (List.pairwise_append.mp ascending).2.1).1
          have keptAfter := (List.pairwise_cons.mp (List.pairwise_append.mp keptAscending).2.1).1
          have fails (other : α) (member : other ∈ front.filter keep) : le item other = false :=
            Bool.not_eq_true' _ ▸ before other (List.mem_filter.mp member).1
          have passes (other : α) (member : other ∈ back.filter keep) : le item other = true :=
            after other (List.mem_filter.mp member).1
          have keptFails (other : α) (member : other ∈ keptFront) : le item other = false :=
            Bool.not_eq_true' _ ▸ keptBefore other member
          -- Both lists are cut where the item stops being later than what it is compared with.
          rcases eq_filter_of_cut fails passes with ⟨frontSame, backSame⟩
          rcases eq_filter_of_cut keptFails keptAfter with ⟨keptFrontSame, keptBackSame⟩
          have same : front.filter keep ++ back.filter keep = keptFront ++ keptBack := by
            rw [← keptRest, ← inductionHypothesis, rest, List.filter_append]
          rw [same, ← keptFrontSame] at frontSame
          rw [same, ← keptBackSame] at backSame
          rw [keptSorted, frontSame, backSame]

end Sorting

/-! ## Ascending keys -/

section Ascending

variable {κ : Type} [Ord κ] [Std.LawfulEqOrd κ]

theorem mem_insertAscending {key member : κ} {keys : List κ} :
    key ∈ insertAscending member keys ↔ key = member ∨ key ∈ keys := by
  induction keys with
  | nil => simp [insertAscending]
  | cons first keys inductionHypothesis =>
      unfold insertAscending
      cases order : compare member first with
      | lt => exact List.mem_cons
      | eq =>
          rw [Std.LawfulEqOrd.eq_of_compare order]
          simp
      | gt =>
          rw [List.mem_cons, inductionHypothesis, List.mem_cons]
          exact or_left_comm

theorem mem_ascending {key : κ} {keys : List κ} : key ∈ ascending keys ↔ key ∈ keys := by
  induction keys with
  | nil => exact Iff.rfl
  | cons first keys inductionHypothesis =>
      change key ∈ insertAscending first (ascending keys) ↔ _
      rw [mem_insertAscending, inductionHypothesis, List.mem_cons]

variable [Std.TransOrd κ]

theorem pairwise_insertAscending {member : κ} {keys : List κ}
    (sorted : keys.Pairwise fun left right => compare left right = .lt) :
    (insertAscending member keys).Pairwise fun left right => compare left right = .lt := by
  induction keys with
  | nil => exact List.pairwise_singleton _ _
  | cons first keys inductionHypothesis =>
      rcases List.pairwise_cons.mp sorted with ⟨least, rest⟩
      unfold insertAscending
      cases order : compare member first with
      | lt =>
          refine List.pairwise_cons.mpr ⟨?_, sorted⟩
          intro other inKeys
          rcases List.mem_cons.mp inKeys with rfl | later
          · exact order
          · exact Std.TransCmp.lt_trans order (least other later)
      | eq => exact sorted
      | gt =>
          refine List.pairwise_cons.mpr ⟨?_, inductionHypothesis rest⟩
          intro other inserted
          rcases mem_insertAscending.mp inserted with rfl | inKeys
          · exact Std.OrientedCmp.gt_iff_lt.mp order
          · exact least other inKeys

theorem pairwise_ascending (keys : List κ) :
    (ascending keys).Pairwise fun left right => compare left right = .lt := by
  induction keys with
  | nil => exact List.Pairwise.nil
  | cons first keys inductionHypothesis => exact pairwise_insertAscending inductionHypothesis

variable {α : Type} [DecidableEq κ] {key : α → κ}

/-- In a list sorted by a key the items with the least key come first. -/
theorem filter_least_append {items : List α}
    (sorted : items.Pairwise fun left right => (compare (key left) (key right)).isLE = true)
    {least : κ} (lower : ∀ item ∈ items, (compare least (key item)).isLE = true) :
    items.filter (key · == least) ++ items.filter (key · != least) = items := by
  induction items with
  | nil => rfl
  | cons item items inductionHypothesis =>
      rcases List.pairwise_cons.mp sorted with ⟨first, rest⟩
      rcases List.forall_mem_cons.mp lower with ⟨itemLower, restLower⟩
      by_cases same : key item = least
      · rw [List.filter_cons_of_pos (by simpa using same),
          List.filter_cons_of_neg (by simpa using same), List.cons_append,
          inductionHypothesis rest restLower]
      · have later : ∀ other ∈ items, key other ≠ least := by
          intro other member equal
          have back := first other member
          rw [equal] at back
          exact same (Std.LawfulEqOrd.eq_of_compare
            (Std.OrientedCmp.isLE_antisymm back itemLower))
        have noneLeast : (item :: items).filter (key · == least) = [] := by
          apply List.filter_eq_nil_iff.mpr
          intro other member
          rcases List.mem_cons.mp member with rfl | inItems
          · simpa using same
          · simpa using later other inItems
        have allLater : (item :: items).filter (key · != least) = item :: items := by
          apply List.filter_eq_self.mpr
          intro other member
          rcases List.mem_cons.mp member with rfl | inItems
          · simpa using same
          · simpa using later other inItems
        rw [noneLeast, allLater, List.nil_append]

/-- A list sorted by a key falls into the runs of its keys. -/
theorem flatMap_filter_ascending {keys : List κ}
    (ascending : keys.Pairwise fun left right => compare left right = .lt) {items : List α}
    (sorted : items.Pairwise fun left right => (compare (key left) (key right)).isLE = true)
    (known : ∀ item ∈ items, key item ∈ keys) :
    keys.flatMap (fun each => items.filter (key · == each)) = items := by
  induction keys generalizing items with
  | nil => exact (List.eq_nil_iff_forall_not_mem.mpr fun item member =>
      List.not_mem_nil (known item member)).symm
  | cons least keys inductionHypothesis =>
      rcases List.pairwise_cons.mp ascending with ⟨before, rest⟩
      have lower : ∀ item ∈ items, (compare least (key item)).isLE = true := by
        intro item member
        rcases List.mem_cons.mp (known item member) with same | later
        · rw [same, Std.compare_self]
          rfl
        · rw [before _ later]
          rfl
      have laterKnown : ∀ item ∈ items.filter (key · != least), key item ∈ keys := by
        intro item member
        rcases List.mem_filter.mp member with ⟨inItems, different⟩
        exact (List.mem_cons.mp (known item inItems)).resolve_left (bne_iff_ne.mp different)
      have others := inductionHypothesis rest (sorted.sublist List.filter_sublist) laterKnown
      have runs : ∀ each ∈ keys, (items.filter (key · != least)).filter (key · == each) =
          items.filter (key · == each) := by
        intro each member
        rw [List.filter_filter]
        apply List.filter_congr
        intro item _
        have different : each ≠ least := by
          intro same
          have smaller := before each member
          rw [same, Std.compare_self] at smaller
          cases smaller
        by_cases here : key item = each
        · simp [here, different]
        · simp [here]
      rw [List.flatMap_def, List.map_congr_left runs, ← List.flatMap_def] at others
      rw [List.flatMap_cons, others]
      exact filter_least_append sorted lower

end Ascending

/-! ## Episodes -/

namespace Episode

/-- Episodes compare by season, number and id. -/
def order : Episode → Episode → Ordering :=
  compareLex (compareLex (compareOn season) (compareOn number)) (compareOn id)

instance : Std.TransCmp order :=
  inferInstanceAs (Std.TransCmp (compareLex (compareLex (compareOn season) _) _))

theorem le_trans (first second third : Episode) (left : le first second = true)
    (right : le second third = true) : le first third = true := by
  change (order first third).isLE = true
  exact Std.TransCmp.isLE_trans left right

theorem le_total (first second : Episode) : (le first second || le second first) = true := by
  change ((order first second).isLE || (order second first).isLE) = true
  have swapped : order second first = (order first second).swap := Std.OrientedCmp.eq_swap
  rw [swapped]
  cases order first second <;> rfl

theorem season_le_of_le {first second : Episode} (ordered : le first second = true) :
    (compare first.season second.season).isLE = true := by
  unfold le at ordered
  cases order : compare first.season second.season with
  | lt => rfl
  | eq => rfl
  | gt =>
      rw [order] at ordered
      cases ordered

end Episode

/-- The episodes of all seasons, one season after the other, are all episodes in order. -/
theorem TvShow.flatMap_episodesIn (item : TvShow) :
    item.seasons.flatMap item.episodesIn = item.sortedEpisodes := by
  have sorted : item.sortedEpisodes.Pairwise fun left right =>
      (compare left.season right.season).isLE = true :=
    (List.pairwise_mergeSort Episode.le_trans Episode.le_total item.presentEpisodes).imp
      Episode.season_le_of_le
  have known : ∀ episode ∈ item.sortedEpisodes, episode.season ∈ item.seasons := by
    intro episode member
    exact mem_ascending.mpr (List.mem_map_of_mem (List.mem_mergeSort.mp member))
  have perSeason : item.episodesIn = fun season =>
      item.sortedEpisodes.filter (·.season == season) := by
    funext season
    exact (filter_mergeSort Episode.le_trans Episode.le_total _ item.presentEpisodes).symm
  rw [perSeason]
  exact flatMap_filter_ascending (pairwise_ascending _) sorted known

end MediaSite
