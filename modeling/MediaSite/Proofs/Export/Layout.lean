import Mathlib.Data.List.Perm.Basic
import MediaSite.Proofs.Export.Accounting
import MediaSite.Proofs.Files.Places
import MediaSite.Proofs.Site.ArtworkRequests

namespace MediaSite

/-!
# The layout of a run's output

Every page and every list page of a run has a place below the output directory, given
by one or two names.  Pages are told apart by the kind and the id of their entities,
list pages by their sections, and neither is in the place of the other.  So if the ids of
each sort of records are distinct, no two tasks of a plan have the same place
(`Library.DistinctIds.nodup_places`).  And no page comes before the opening of its
section, which makes the directory for it (`Library.opened_plan`).
-/

open scoped Text

/-! ## Places -/

/-- The names that lead to the page of an item from the root of the site. -/
def Kind.place? (kind : Kind) (id : UInt64) : Option Location :=
  kind.pageDirectory?.map fun directory => [directory, Text.ofNat id.toNat ++ ".html"]

theorem itemPath_eq (root : Path) (kind : Kind) (id : UInt64) :
    itemPath root kind id = (kind.place? id).map root.joinNames := by
  cases kind <;> simp [itemPath, Kind.pagePath?, Kind.place?, Kind.pageDirectory?, Path.joinNames,
    Text.join, List.intercalate]

theorem listPath_eq (root : Path) (part : Section) :
    listPath root part = root.joinNames [part.fileName] := by
  rw [listPath, Path.joinNames, Text.join, List.intercalate_singleton]

/-- The place of the page that a task writes. -/
def Task.place? : Task → Option Location
  | .opening _ => none
  | .page _ entity => entity.kind.place? entity.id
  | .list part => some [part.fileName]

theorem Path.proper_of_long {name : Text} (long : 2 < name.length) :
    isIdle name = false ∧ name ≠ ['.', '.'] := by
  match name, long with
  | first :: second :: third :: rest, _ =>
    exact ⟨Bool.or_eq_false_iff.mpr ⟨rfl, beq_false_of_ne nofun⟩, nofun⟩

theorem Kind.downward_place {kind : Kind} {id : UInt64} {place : Location}
    (placed : kind.place? id = some place) : Downward place := by
  rcases Option.map_eq_some_iff.mp placed with ⟨directory, known, rfl⟩
  have named : (Path.isIdle directory = false ∧ directory ≠ ['.', '.']) ∧ '/' ∉ directory := by
    cases kind <;> cases known <;> decide
  have long : 2 < (Text.ofNat id.toNat ++ (".html" : Text)).length := by
    rw [List.length_append]
    exact Nat.lt_add_left _ (by decide)
  have whole : '/' ∉ Text.ofNat id.toNat ++ (".html" : Text) := by
    rw [List.mem_append, not_or]
    exact ⟨Text.not_mem_ofNat (by decide) _, by decide⟩
  exact ⟨List.cons_ne_nil _ _,
    List.forall_mem_cons.mpr ⟨named.1, List.forall_mem_singleton.mpr (Path.proper_of_long long)⟩,
    List.forall_mem_cons.mpr ⟨named.2, List.forall_mem_singleton.mpr whole⟩⟩

theorem Section.downward_fileName (part : Section) : Downward [part.fileName] where
  filled := List.cons_ne_nil _ _
  proper := List.forall_mem_singleton.mpr (by cases part <;> decide)
  whole := List.forall_mem_singleton.mpr (by cases part <;> decide)

theorem Task.downward_place {task : Task} {place : Location} (placed : task.place? = some place) :
    Downward place := by
  cases task with
  | opening part => cases placed
  | page part entity => exact Kind.downward_place placed
  | list part =>
      cases placed
      exact part.downward_fileName

/-- Different places below a root have different paths. -/
theorem Path.joinNames_injective (root : Path) {first second : List Text}
    (downward : Downward first) (others : Downward second)
    (same : root.joinNames first = root.joinNames second) : first = second := by
  have joined := join_injective (relative_names downward) (relative_names others) same
  rw [← segments_names downward, joined, segments_names others]

/-! ## Different places -/

theorem Section.mem_all (part : Section) : part ∈ all := by
  cases part <;> decide

theorem Section.fileName_injective {first second : Section}
    (same : first.fileName = second.fileName) : first = second :=
  List.inj_on_of_nodup_map (by decide : (all.map fileName).Nodup) first.mem_all second.mem_all same

theorem Kind.pageDirectory_injective : Function.Injective pageDirectory? := by
  intro first second
  cases first <;> cases second <;> decide

theorem Kind.place_injective {first second : Kind} {id other : UInt64} {place : Location}
    (placed : first.place? id = some place) (same : second.place? other = some place) :
    first = second ∧ id = other := by
  rcases Option.map_eq_some_iff.mp placed with ⟨directory, known, rfl⟩
  rcases Option.map_eq_some_iff.mp same with ⟨secondDirectory, secondKnown, equal⟩
  simp only [List.cons.injEq, and_true] at equal
  rcases equal with ⟨rfl, files⟩
  exact ⟨pageDirectory_injective (known.trans secondKnown.symm),
    (UInt64.toNat_inj.mp (Text.ofNat_injective (List.append_cancel_right files))).symm⟩

/-! ## Distinct ids -/

/-- Ids are distinct among the records of one sort: the episodes of all shows are one. -/
structure Library.DistinctIds (library : Library) : Prop where
  movies : (library.movies.map (·.id)).Nodup
  tvShows : (library.tvShows.map (·.id)).Nodup
  concerts : (library.concerts.map (·.id)).Nodup
  episodes : (library.tvShows.flatMap fun item => item.episodes.map (·.id)).Nodup

/-- What tells the pages of entities apart. -/
def Entity.key (entity : Entity) : Kind × UInt64 :=
  (entity.kind, entity.id)

theorem nodup_map_pair (kind : Kind) {ids : List UInt64} (distinct : ids.Nodup) :
    (ids.map fun id => (kind, id)).Nodup :=
  distinct.map fun _ _ same => (Prod.mk.inj same).2

theorem nodup_map_sortByTitle {α β : Type} {title : α → Text × UInt64} {items : List α}
    {f : α → β} (distinct : (items.map f).Nodup) : ((sortByTitle title items).map f).Nodup :=
  ((List.mergeSort_perm items _).map f).nodup_iff.mpr distinct

namespace Library

variable {library : Library}

/-- The episodes that are exported have distinct ids. -/
theorem DistinctIds.sortedEpisodes (distinct : library.DistinctIds) :
    (library.sortedTvShows.flatMap fun item => item.sortedEpisodes.map (·.id)).Nodup := by
  have sorted := List.Perm.flatMap
    (List.mergeSort_perm library.tvShows fun left right =>
      titleLe (left.sortKey, left.id) (right.sortKey, right.id))
    fun item _ => (List.mergeSort_perm item.presentEpisodes Episode.le).map (·.id)
  have present (item : TvShow) :
      (item.presentEpisodes.map (·.id)).Sublist (item.episodes.map (·.id)) :=
    List.filter_sublist.map _
  rcases List.nodup_flatMap.mp distinct.episodes with ⟨each, apart⟩
  refine sorted.nodup_iff.mpr (List.nodup_flatMap.mpr ⟨fun item member => ?_, ?_⟩)
  · exact (present item).nodup (each item member)
  · refine apart.imp fun {first second} disjoint id inFirst inSecond => ?_
    exact disjoint ((present first).subset inFirst) ((present second).subset inSecond)

/-- The pages of a list section are told apart by kinds and ids. -/
theorem DistinctIds.nodup_keys (distinct : library.DistinctIds) (part : Section) :
    ((library.pages part).map Entity.key).Nodup := by
  have grouped := (List.map_append_flatMap_perm (library.entities part) id Entity.parts).map
    Entity.key
  rw [List.map_id] at grouped
  refine grouped.nodup_iff.mp ?_
  have alone {α : Type} {entity : α → Entity} {items : List α}
      (noParts : ∀ item, (entity item).parts = []) :
      (items.map entity).flatMap Entity.parts = [] :=
    List.flatMap_eq_nil_iff.mpr fun _ member => by
      rcases List.mem_map.mp member with ⟨item, _, rfl⟩
      exact noParts item
  cases part with
  | movies =>
      have ids : (library.sortedMovies.map (·.id)).Nodup := nodup_map_sortByTitle distinct.movies
      have own := nodup_map_pair .movie ids
      rw [List.map_map] at own
      rw [entities, alone fun _ => rfl, List.append_nil, List.map_map]
      exact own
  | tvShows =>
      have ids : (library.sortedTvShows.map (·.id)).Nodup := nodup_map_sortByTitle distinct.tvShows
      have own := nodup_map_pair .tvShow ids
      have episodes := nodup_map_pair .episode distinct.sortedEpisodes
      rw [List.map_map] at own
      have sameEpisodes : ((library.sortedTvShows.map Entity.tvShow).flatMap Entity.parts).map
          Entity.key = (library.sortedTvShows.flatMap fun item =>
            item.sortedEpisodes.map (·.id)).map fun id => (Kind.episode, id) := by
        rw [List.flatMap_map, List.map_flatMap, List.map_flatMap]
        simp only [Entity.parts, List.map_map]
        rfl
      rw [entities, List.map_append, sameEpisodes, List.map_map]
      refine List.nodup_append.mpr ⟨own, episodes, ?_⟩
      intro first inShows second inEpisodes same
      rcases List.mem_map.mp inShows with ⟨_, _, rfl⟩
      rcases List.mem_map.mp inEpisodes with ⟨_, _, rfl⟩
      cases (Prod.mk.inj same).1
  | concerts =>
      have ids : (library.sortedConcerts.map (·.id)).Nodup := nodup_map_sortByTitle distinct.concerts
      have own := nodup_map_pair .concert ids
      rw [List.map_map] at own
      rw [entities, alone fun _ => rfl, List.append_nil, List.map_map]
      exact own
  | movie => exact List.nodup_nil
  | tvShow => exact List.nodup_nil
  | episode => exact List.nodup_nil
  | concert => exact List.nodup_nil

/-- No kind of pages belongs to two list sections. -/
theorem disjoint_keys (library : Library) (sections : List Section) :
    (Exporter.requested sections).Pairwise fun first second =>
      ((library.pages first).map Entity.key).Disjoint ((library.pages second).map Entity.key) := by
  have kinds : (Section.lists.flatMap Section.pageKinds).Nodup := by decide
  have apart := (List.nodup_flatMap.mp kinds).2.sublist
    (List.filter_sublist : (Exporter.requested sections).Sublist _)
  refine apart.imp fun disjoint key inFirst inSecond => ?_
  rcases List.mem_map.mp inFirst with ⟨entity, member, rfl⟩
  rcases List.mem_map.mp inSecond with ⟨other, otherMember, same⟩
  have sameKind : other.kind = entity.kind := (Prod.mk.inj same).1
  exact disjoint (kind_mem_of_mem_pages member) (sameKind ▸ kind_mem_of_mem_pages otherMember)

theorem places_pageTasks (library : Library) (parts : List Section) :
    (library.pageTasks parts).filterMap Task.place? =
      (parts.flatMap fun part => (library.pages part).map Entity.key).filterMap fun key =>
        key.1.place? key.2 := by
  rw [pageTasks, List.filterMap_flatMap, List.filterMap_flatMap]
  refine List.flatMap_congr fun part _ => ?_
  rw [sectionTasks, List.filterMap_cons_none rfl, List.filterMap_map, List.filterMap_map]
  rfl

theorem places_lists (parts : List Section) :
    (parts.map Task.list).filterMap Task.place? = parts.map fun part => [part.fileName] := by
  rw [List.filterMap_map, ← List.filterMap_eq_map']
  rfl

/-- The tasks of a run write to different places. -/
theorem DistinctIds.nodup_places (distinct : library.DistinctIds) (sections : List Section) :
    ((library.plan sections).filterMap Task.place?).Nodup := by
  have keys := List.nodup_flatMap.mpr
    ⟨fun part (_ : part ∈ Exporter.requested sections) => distinct.nodup_keys part,
      library.disjoint_keys sections⟩
  rw [plan, List.filterMap_append, places_pageTasks, places_lists]
  refine List.nodup_append.mpr ⟨keys.filterMap ?_, ?_, ?_⟩
  · intro first second place placed same
    rcases Kind.place_injective placed same with ⟨kind, id⟩
    exact Prod.ext kind id
  · refine (Exporter.nodup_requested sections).map fun first second same => ?_
    exact Section.fileName_injective (List.singleton_inj.mp same)
  · intro place inPages other inLists same
    rcases List.mem_filterMap.mp inPages with ⟨key, _, placed⟩
    rcases Option.map_eq_some_iff.mp placed with ⟨directory, _, rfl⟩
    rcases List.mem_map.mp inLists with ⟨part, _, rfl⟩
    cases (List.cons.inj same).2

end Library

/-! ## Openings -/

/-- Every section is opened before its pages. -/
def Opened (tasks : List Task) : Prop :=
  ∀ front part entity back, tasks = front ++ .page part entity :: back → .opening part ∈ front

theorem Opened.append {first second : List Task} (opened : Opened first)
    (others : Opened second) : Opened (first ++ second) := by
  intro front part entity back split
  rcases List.append_eq_append_iff.mp split with ⟨more, rfl, inSecond⟩ | ⟨more, inFirst, rest⟩
  · exact List.mem_append_right first (others more part entity back inSecond)
  · cases more with
    | nil => cases others [] part entity back rest.symm
    | cons task more =>
        rcases List.cons.inj rest with ⟨rfl, _⟩
        exact opened front part entity more inFirst

theorem opened_of_no_page {tasks : List Task} (noPage : ∀ task ∈ tasks, task.isPage = false) :
    Opened tasks := by
  rintro front part entity back rfl
  cases noPage (.page part entity) (List.mem_append_right front List.mem_cons_self)

namespace Library

theorem opened_sectionTasks (library : Library) (part : Section) :
    Opened (library.sectionTasks part) := by
  intro front other entity back split
  cases front with
  | nil => cases (List.cons.inj split).1
  | cons task front =>
      rcases List.cons.inj split with ⟨rfl, pages⟩
      have member : Task.page other entity ∈ (library.pages part).map (.page part) := by
        rw [pages]
        exact List.mem_append_right front List.mem_cons_self
      rcases List.mem_map.mp member with ⟨_, _, same⟩
      rw [(Task.page.inj same).1]
      exact List.mem_cons_self

theorem opened_pageTasks (library : Library) (parts : List Section) :
    Opened (library.pageTasks parts) := by
  induction parts with
  | nil => exact opened_of_no_page (List.forall_mem_nil _)
  | cons part parts inductionHypothesis =>
      exact (library.opened_sectionTasks part).append inductionHypothesis

theorem opened_plan (library : Library) (sections : List Section) :
    Opened (library.plan sections) :=
  (library.opened_pageTasks _).append
    (opened_of_no_page (isPage_lists (Exporter.requested sections)))

end Library
end MediaSite
