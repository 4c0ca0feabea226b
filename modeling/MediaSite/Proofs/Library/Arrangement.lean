import Mathlib.Data.List.Forall2
import Mathlib.Data.List.Nodup
import MediaSite.Proofs.Library.Episodes

namespace MediaSite

/-!
# Arrangements of a library

A library may hold the same records in another order, its shows their episodes
in another order, and dummy episodes among them.  The sorted lists do not show
the difference: where ids are distinct, no two records are sorted alike, and a
list without such ties has one sorted order only (`mergeSort_eq_of_perm`).
-/

/-! ## Sorting without ties -/

theorem mergeSort_eq_of_perm {α : Type} {le : α → α → Bool}
    (trans : ∀ a b c, le a b = true → le b c = true → le a c = true)
    (total : ∀ a b, (le a b || le b a) = true) {first second : List α} (perm : first.Perm second)
    (noTie : ∀ a ∈ first, ∀ b ∈ first, le a b = true → le b a = true → a = b) :
    first.mergeSort le = second.mergeSort le := by
  have sorted : (first.mergeSort le).Perm (second.mergeSort le) :=
    (List.mergeSort_perm first le).trans (perm.trans (List.mergeSort_perm second le).symm)
  refine List.Perm.eq_of_pairwise ?_ (List.pairwise_mergeSort trans total first)
    (List.pairwise_mergeSort trans total second) sorted
  intro left right inFirst inSecond below above
  exact noTie left (List.mem_mergeSort.mp inFirst) right
    (perm.mem_iff.mpr (List.mem_mergeSort.mp inSecond)) below above

theorem nodup_ascending {κ : Type} [Ord κ] [Std.LawfulEqOrd κ] [Std.TransOrd κ] (keys : List κ) :
    (ascending keys).Nodup := by
  refine (pairwise_ascending keys).imp ?_
  intro left right before same
  rw [same, Std.compare_self] at before
  cases before

/-- Ascending lists of the same members are equal. -/
theorem ascending_eq_of_mem_iff {κ : Type} [Ord κ] [Std.LawfulEqOrd κ] [Std.TransOrd κ]
    {first second : List κ} (same : ∀ key, key ∈ first ↔ key ∈ second) :
    ascending first = ascending second := by
  have members : (ascending first).Perm (ascending second) := by
    rw [List.perm_ext_iff_of_nodup (nodup_ascending first) (nodup_ascending second)]
    intro key
    rw [mem_ascending, mem_ascending, same]
  refine List.Perm.eq_of_pairwise ?_ (pairwise_ascending first) (pairwise_ascending second) members
  intro left right _ _ below above
  rw [Std.OrientedCmp.gt_of_lt above] at below
  cases below

/-! ## Titles -/

/-- Titles are compared first, and ids where they agree. -/
def titleOrder : Text × UInt64 → Text × UInt64 → Ordering :=
  compareLex (compareOn Prod.fst) (compareOn Prod.snd)

instance : Std.TransCmp titleOrder :=
  inferInstanceAs (Std.TransCmp (compareLex (compareOn Prod.fst) (compareOn Prod.snd)))

theorem titleLe_trans (first second third : Text × UInt64) (left : titleLe first second = true)
    (right : titleLe second third = true) : titleLe first third = true := by
  change (titleOrder first third).isLE = true
  exact Std.TransCmp.isLE_trans left right

theorem titleLe_total (first second : Text × UInt64) :
    (titleLe first second || titleLe second first) = true := by
  change ((titleOrder first second).isLE || (titleOrder second first).isLE) = true
  have swapped : titleOrder second first = (titleOrder first second).swap :=
    Std.OrientedCmp.eq_swap
  rw [swapped]
  cases titleOrder first second <;> rfl

/-- Comes first in an export: by its title, or by its id if the titles agree. -/
def titleLt (left right : Text × UInt64) : Prop :=
  compare left.1 right.1 = .lt ∨ left.1 = right.1 ∧ left.2 < right.2

theorem titleLt_of_titleLe {left right : Text × UInt64} (ordered : titleLe left right = true)
    (different : left.2 ≠ right.2) : titleLt left right := by
  unfold titleLe at ordered
  cases titles : compare left.1 right.1 with
  | lt => exact .inl titles
  | gt =>
      rw [titles] at ordered
      cases ordered
  | eq =>
      right
      refine ⟨Std.LawfulEqOrd.eq_of_compare titles, ?_⟩
      rw [titles] at ordered
      change (compare left.2 right.2).isLE = true at ordered
      cases ids : compare left.2 right.2 with
      | lt => exact Std.compare_eq_lt.mp ids
      | eq => exact absurd (Std.LawfulEqOrd.eq_of_compare ids) different
      | gt =>
          rw [ids] at ordered
          cases ordered

section SortByTitle

variable {α : Type} {key : α → Text × UInt64}

/-- Items with distinct ids are sorted without ties. -/
theorem pairwise_sortByTitle {items : List α}
    (distinct : (items.map fun item => (key item).2).Nodup) :
    (sortByTitle key items).Pairwise fun left right => titleLt (key left) (key right) := by
  have sorted : (sortByTitle key items).Pairwise fun left right =>
      titleLe (key left) (key right) = true :=
    List.pairwise_mergeSort (fun a b c => titleLe_trans (key a) (key b) (key c))
      (fun a b => titleLe_total (key a) (key b)) items
  have different : (sortByTitle key items).Pairwise fun left right =>
      (key left).2 ≠ (key right).2 :=
    List.pairwise_map.mp
      (((List.mergeSort_perm items _).map fun item => (key item).2).nodup_iff.mpr distinct)
  exact sorted.imp₂ (fun _ _ => titleLt_of_titleLe) different

theorem sortByTitle_eq_of_perm {first second : List α} (perm : first.Perm second)
    (distinct : (first.map fun item => (key item).2).Nodup) :
    sortByTitle key first = sortByTitle key second := by
  apply mergeSort_eq_of_perm (fun a b c => titleLe_trans (key a) (key b) (key c))
    (fun a b => titleLe_total (key a) (key b)) perm
  intro left inFirst right inSecond below above
  apply List.inj_on_of_nodup_map distinct inFirst inSecond
  by_contra different
  rcases titleLt_of_titleLe below different with before | ⟨same, before⟩ <;>
    rcases titleLt_of_titleLe above (Ne.symm different) with after | ⟨also, after⟩
  · rw [Std.OrientedCmp.gt_of_lt after] at before
    cases before
  · rw [also, Std.compare_self] at before
    cases before
  · rw [same, Std.compare_self] at after
    cases after
  · exact absurd before (UInt64.lt_asymm after)

/-- Items that are related one by one stay so if they are sorted by the same keys. -/
theorem forall₂_sortByTitle {related : α → α → Prop} {first second : List α}
    (agree : ∀ left right, related left right → key left = key right)
    (each : List.Forall₂ related first second) :
    List.Forall₂ related (sortByTitle key first) (sortByTitle key second) := by
  obtain ⟨pairs, rfl, rfl, relates⟩ : ∃ pairs : List (α × α), first = pairs.map Prod.fst ∧
      second = pairs.map Prod.snd ∧ ∀ pair ∈ pairs, related pair.1 pair.2 := by
    induction each with
    | nil => exact ⟨[], rfl, rfl, List.forall_mem_nil _⟩
    | @cons left right _ _ here _ inductionHypothesis =>
        rcases inductionHypothesis with ⟨pairs, lefts, rights, relates⟩
        exact ⟨(left, right) :: pairs, by rw [List.map_cons, lefts], by rw [List.map_cons, rights],
          List.forall_mem_cons.mpr ⟨here, relates⟩⟩
  have lefts : (sortByTitle (key ∘ Prod.fst) pairs).map Prod.fst =
      sortByTitle key (pairs.map Prod.fst) := List.map_mergeSort fun _ _ _ _ => rfl
  have rights : (sortByTitle (key ∘ Prod.fst) pairs).map Prod.snd =
      sortByTitle key (pairs.map Prod.snd) := by
    apply List.map_mergeSort
    intro left inLeft right inRight
    simp only [Function.comp, agree _ _ (relates left inLeft), agree _ _ (relates right inRight)]
  rw [← lefts, ← rights, List.forall₂_map_left_iff, List.forall₂_map_right_iff, List.forall₂_same]
  intro pair member
  exact relates pair (List.mem_mergeSort.mp member)

end SortByTitle

/-! ## Shows -/

namespace TvShow

/-- The same show, with its episodes in another order and other dummies among them. -/
structure Alike (first second : TvShow) : Prop where
  record : { first with episodes := [] } = { second with episodes := [] }
  episodes : first.presentEpisodes.Perm second.presentEpisodes

/-- Shows that are seen the same: as records, and in the lists of their episodes. -/
structure SameView (first second : TvShow) : Prop where
  record : { first with episodes := [] } = { second with episodes := [] }
  seasons : first.seasons = second.seasons
  episodesIn : first.episodesIn = second.episodesIn
  sortedEpisodes : first.sortedEpisodes = second.sortedEpisodes

variable {first second : TvShow}

/-- What does not look at episodes sees the records only. -/
theorem read_eq_of_record {α : Type}
    (record : { first with episodes := [] } = { second with episodes := [] }) (read : TvShow → α)
    (blind : ∀ item, read { item with episodes := [] } = read item) :
    read first = read second := by
  rw [← blind first, record, blind]

theorem mergeSort_episodes {first second : List Episode} (perm : first.Perm second)
    (distinct : (first.map (·.id)).Nodup) :
    first.mergeSort Episode.le = second.mergeSort Episode.le := by
  apply mergeSort_eq_of_perm Episode.le_trans Episode.le_total perm
  intro left inFirst right inSecond below above
  apply List.inj_on_of_nodup_map distinct inFirst inSecond
  have tie : Episode.order left right = .eq := Std.OrientedCmp.isLE_antisymm below above
  exact Std.LawfulEqOrd.eq_of_compare (Ordering.then_eq_eq.mp tie).2

theorem Alike.sameView (alike : first.Alike second)
    (distinct : (first.presentEpisodes.map (·.id)).Nodup) : first.SameView second where
  record := alike.record
  seasons := ascending_eq_of_mem_iff fun _ => (alike.episodes.map _).mem_iff
  episodesIn := by
    funext season
    exact mergeSort_episodes (alike.episodes.filter _)
      (distinct.sublist (List.filter_sublist.map _))
  sortedEpisodes := mergeSort_episodes alike.episodes distinct

theorem nodup_ids_of_alike {items others : List TvShow}
    (each : List.Forall₂ TvShow.Alike items others)
    (ids : ∀ item ∈ items, (item.presentEpisodes.map (·.id)).Nodup) :
    ∀ item ∈ others, (item.presentEpisodes.map (·.id)).Nodup := by
  induction each with
  | nil => exact List.forall_mem_nil _
  | cons related _ inductionHypothesis =>
      rcases List.forall_mem_cons.mp ids with ⟨here, rest⟩
      exact List.forall_mem_cons.mpr
        ⟨(related.episodes.map _).nodup_iff.mp here, inductionHypothesis rest⟩

end TvShow

/-! ## Libraries -/

/-- The same library, with its records in another order and its shows as they may differ. -/
structure Library.Alike (first second : Library) : Prop where
  movies : first.movies.Perm second.movies
  tvShows : ∃ middle, first.tvShows.Perm middle ∧ List.Forall₂ TvShow.Alike middle second.tvShows
  concerts : first.concerts.Perm second.concerts

/-- Ids are distinct among the movies, the shows, the concerts, and the episodes of each show. -/
structure Library.OwnIds (library : Library) : Prop where
  movies : (library.movies.map (·.id)).Nodup
  tvShows : (library.tvShows.map (·.id)).Nodup
  concerts : (library.concerts.map (·.id)).Nodup
  episodes : ∀ item ∈ library.tvShows, (item.presentEpisodes.map (·.id)).Nodup

/-- Comes first in an export: by the title in lower case that a record is sorted by, or by
its id if these agree. -/
def Movie.Before (left right : Movie) : Prop :=
  titleLt (Text.lowercase (left.sortTitle.getD left.title), left.id)
    (Text.lowercase (right.sortTitle.getD right.title), right.id)

@[inherit_doc Movie.Before]
def TvShow.Before (left right : TvShow) : Prop :=
  titleLt (Text.lowercase (left.sortTitle.getD left.title), left.id)
    (Text.lowercase (right.sortTitle.getD right.title), right.id)

@[inherit_doc Movie.Before]
def Concert.Before (left right : Concert) : Prop :=
  titleLt (Text.lowercase (left.sortTitle.getD left.title), left.id)
    (Text.lowercase (right.sortTitle.getD right.title), right.id)

/-- The sorted lists of a library neither lose nor repeat a record, and ascend. -/
structure Library.Ordered (library : Library) : Prop where
  movies : library.sortedMovies.Perm library.movies ∧ library.sortedMovies.Pairwise Movie.Before
  tvShows : library.sortedTvShows.Perm library.tvShows ∧
    library.sortedTvShows.Pairwise TvShow.Before
  concerts : library.sortedConcerts.Perm library.concerts ∧
    library.sortedConcerts.Pairwise Concert.Before
  episodes : ∀ item ∈ library.tvShows, item.sortedEpisodes.Perm item.presentEpisodes ∧
    item.sortedEpisodes.Pairwise fun left right => Episode.le left right = true

theorem Library.OwnIds.ordered {library : Library} (ids : library.OwnIds) : library.Ordered where
  movies := ⟨List.mergeSort_perm _ _, pairwise_sortByTitle ids.movies⟩
  tvShows := ⟨List.mergeSort_perm _ _, pairwise_sortByTitle ids.tvShows⟩
  concerts := ⟨List.mergeSort_perm _ _, pairwise_sortByTitle ids.concerts⟩
  episodes item _ := ⟨List.mergeSort_perm _ _,
    List.pairwise_mergeSort Episode.le_trans Episode.le_total item.presentEpisodes⟩

namespace Library.Alike

variable {first second : Library}

theorem ownIds (alike : first.Alike second) (ids : first.OwnIds) : second.OwnIds := by
  rcases alike.tvShows with ⟨middle, perm, each⟩
  have inMiddle : ∀ item ∈ middle, (item.presentEpisodes.map (·.id)).Nodup :=
    fun item member => ids.episodes item (perm.mem_iff.mpr member)
  have sameIds : middle.map (·.id) = second.tvShows.map (·.id) := by
    rw [← List.forall₂_eq_eq_eq, List.forall₂_map_left_iff, List.forall₂_map_right_iff]
    exact each.imp fun _ _ related => TvShow.read_eq_of_record related.record TvShow.id fun _ => rfl
  exact {
    movies := (alike.movies.map _).nodup_iff.mp ids.movies
    tvShows := sameIds ▸ (perm.map _).nodup_iff.mp ids.tvShows
    concerts := (alike.concerts.map _).nodup_iff.mp ids.concerts
    episodes := TvShow.nodup_ids_of_alike each inMiddle }

theorem sortedMovies (alike : first.Alike second) (ids : first.OwnIds) :
    first.sortedMovies = second.sortedMovies :=
  sortByTitle_eq_of_perm alike.movies ids.movies

theorem sortedConcerts (alike : first.Alike second) (ids : first.OwnIds) :
    first.sortedConcerts = second.sortedConcerts :=
  sortByTitle_eq_of_perm alike.concerts ids.concerts

/-- Sorted, the shows are the same one by one. -/
theorem sortedTvShows (alike : first.Alike second) (ids : first.OwnIds) :
    List.Forall₂ (fun left right => left.Alike right ∧ left.SameView right)
      first.sortedTvShows second.sortedTvShows := by
  rcases alike.tvShows with ⟨middle, perm, each⟩
  rw [Library.sortedTvShows, sortByTitle_eq_of_perm perm ids.tvShows]
  apply forall₂_sortByTitle
  · intro left right related
    exact TvShow.read_eq_of_record related.1.record (fun item => (item.sortKey, item.id))
      fun _ => rfl
  · have distinct : ∀ item ∈ middle, (item.presentEpisodes.map (·.id)).Nodup :=
      fun item member => ids.episodes item (perm.mem_iff.mpr member)
    refine ((List.forall₂_and_left ..).mpr ⟨distinct, each⟩).imp ?_
    intro left right related
    exact ⟨related.2, related.2.sameView related.1⟩

end Library.Alike

end MediaSite
