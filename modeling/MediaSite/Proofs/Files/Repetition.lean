import MediaSite.Proofs.Files.Regular

namespace MediaSite

/-!
# Doing the same again

An operation that is done again does not find what it found the first time: the
directories that it made are there, and so are the files.  `FileTree.Repeatable` says that
it goes the same way nevertheless, also when more files have been written meanwhile: it has
the same outcome, makes nothing new, and writes the same files in the same order.

This passes from the steps of an operation to the whole (`Repeatable.andThen`).  And when
nothing came in between, the second time changes nothing at all, since each file holds
already what is written to it last (`Repeatable.again`).

All of this is about what happens at some location or below it.  What stands elsewhere is
kept entry by entry, `FileTree.outside`.
-/

namespace FileTree

variable {tree before after later : FileTree} {location other base : Location}
  {entry second : Entry} {content : Content} {writes more : List (Location × Content)}

/-! ## Putting over what stands -/

theorem putEntry_of_lookup {entries : List (Location × Entry)}
    (stands : entries.lookup location = some entry) :
    putEntry location entry entries = entries := by
  induction entries with
  | nil => cases stands
  | cons item rest inductionHypothesis =>
      rcases item with ⟨place, kept⟩
      rw [putEntry]
      rw [List.lookup_cons] at stands
      by_cases here : place = location
      · rw [here, beq_self_eq_true] at stands
        rw [if_pos here, here, Option.some.inj stands]
      · rw [beq_false_of_ne (Ne.symm here)] at stands
        rw [if_neg here, inductionHypothesis stands]

/-- Entries for different locations can be put in any order, if one location is taken. -/
theorem putEntry_comm {entries : List (Location × Entry)} (different : location ≠ other)
    (taken : entries.lookup location ≠ none) :
    putEntry other second (putEntry location entry entries) =
      putEntry location entry (putEntry other second entries) := by
  induction entries with
  | nil => exact absurd rfl taken
  | cons item rest inductionHypothesis =>
      rcases item with ⟨place, kept⟩
      by_cases here : place = location
      · subst here
        rw [putEntry, if_pos rfl, putEntry, if_neg different, putEntry, if_neg different,
          putEntry, if_pos rfl]
      · rw [List.lookup_cons, beq_false_of_ne (Ne.symm here)] at taken
        rw [putEntry, if_neg here]
        by_cases there : place = other
        · rw [putEntry, if_pos there, putEntry, if_pos there, putEntry, if_neg (Ne.symm different)]
        · rw [putEntry, if_neg there, inductionHypothesis taken, putEntry, if_neg there, putEntry,
            if_neg here]

theorem lookup_of_get? (nonempty : location ≠ []) :
    tree.get? location = tree.entries.lookup location := by
  cases location with
  | nil => exact absurd rfl nonempty
  | cons name rest => rfl

theorem put_of_get? (nonempty : location ≠ []) (stands : tree.get? location = some entry) :
    tree.put location entry = tree := by
  rw [lookup_of_get? nonempty] at stands
  rw [put, putEntry_of_lookup stands]

theorem put_comm (nonempty : location ≠ []) (different : location ≠ other)
    (taken : tree.get? location ≠ none) :
    (tree.put location entry).put other second = (tree.put other second).put location entry := by
  rw [lookup_of_get? nonempty] at taken
  exact congrArg (fun entries => ({ tree with entries } : FileTree)) (putEntry_comm different taken)

/-! ## Putting files one after the other -/

/-- Files put at locations, one after the other. -/
def putAll (tree : FileTree) (writes : List (Location × Content)) : FileTree :=
  writes.foldl (fun tree item => tree.put item.1 (.file item.2)) tree

theorem putAll_cons (tree : FileTree) (item : Location × Content)
    (writes : List (Location × Content)) :
    tree.putAll (item :: writes) = (tree.put item.1 (.file item.2)).putAll writes := rfl

theorem putAll_append (tree : FileTree) (first second : List (Location × Content)) :
    tree.putAll (first ++ second) = (tree.putAll first).putAll second :=
  List.foldl_append

/-- What is put at a location is lost when a file is put there later. -/
theorem putAll_put (nonempty : location ≠ []) (taken : tree.get? location ≠ none)
    (overwritten : location ∈ writes.map Prod.fst) (entry : Entry) :
    (tree.put location entry).putAll writes = tree.putAll writes := by
  induction writes generalizing tree with
  | nil => cases overwritten
  | cons item writes inductionHypothesis =>
      rw [putAll_cons, putAll_cons]
      by_cases here : location = item.1
      · subst here
        rw [put_put]
      · have still : (tree.put item.1 (.file item.2)).get? location ≠ none := by
          by_cases top : item.1 = []
          · rw [lookup_of_get? nonempty] at taken ⊢
            rw [put, lookup_putEntry, if_neg here]
            exact taken
          · rw [get?_put top, if_neg here]
            exact taken
        rw [put_comm nonempty here taken]
        exact inductionHypothesis still (List.mem_of_ne_of_mem here overwritten)

/-- Files that hold what is written to them last are not changed. -/
theorem putAll_of_stands (stands : ∀ location content, lastWritten writes location = some content →
    tree.get? location = some (.file content)) : tree.putAll writes = tree := by
  induction writes with
  | nil => rfl
  | cons item writes inductionHypothesis =>
      have split (location : Location) : lastWritten (item :: writes) location =
          (lastWritten writes location).or (lastWritten [item] location) :=
        lastWritten_append [item] writes location
      have rest (location : Location) (content : Content)
          (written : lastWritten writes location = some content) :
          tree.get? location = some (.file content) :=
        stands location content (by rw [split, written]; rfl)
      have filled {content : Content} (file : tree.get? item.1 = some (.file content)) :
          item.1 ≠ [] := by
        intro top
        rw [top] at file
        cases file
      rw [putAll_cons]
      by_cases overwritten : item.1 ∈ writes.map Prod.fst
      · rcases exists_lastWritten overwritten with ⟨content, written⟩
        have file := rest item.1 content written
        rw [putAll_put (filled file) (by rw [file]; exact Option.some_ne_none _) overwritten]
        exact inductionHypothesis rest
      · have file : tree.get? item.1 = some (.file item.2) := by
          apply stands
          rw [split, lastWritten_eq_none_iff.mpr overwritten, Option.none_or,
            lastWritten_singleton, if_pos rfl]
        rw [put_of_get? (filled file) file]
        exact inductionHypothesis rest

/-! ## Elsewhere -/

/-- The entries that stand neither at a location nor below it. -/
def outside (base : Location) (tree : FileTree) : List (Location × Entry) :=
  tree.entries.filter fun item => !base.isPrefixOf item.1

theorem outside_put (below : base <+: location) (entry : Entry) :
    (tree.put location entry).outside base = tree.outside base := by
  have inside : (!base.isPrefixOf location) = false := by
    rw [List.isPrefixOf_iff_prefix.mpr below]
    rfl
  have gone (entries : List (Location × Entry)) :
      (putEntry location entry entries).filter (fun item => !base.isPrefixOf item.1) =
        entries.filter fun item => !base.isPrefixOf item.1 := by
    induction entries with
    | nil => rw [putEntry, List.filter_cons_of_neg (by rw [inside]; exact Bool.false_ne_true)]
    | cons item rest inductionHypothesis =>
        rcases item with ⟨place, kept⟩
        rw [putEntry]
        by_cases here : place = location
        · subst here
          rw [if_pos rfl, List.filter_cons_of_neg (by rw [inside]; exact Bool.false_ne_true),
            List.filter_cons_of_neg (by rw [inside]; exact Bool.false_ne_true)]
        · rw [if_neg here, List.filter_cons, List.filter_cons, inductionHypothesis]
  exact gone tree.entries

theorem lookup_outside (apart : ¬ base <+: location) :
    (tree.outside base).lookup location = tree.entries.lookup location := by
  have kept : (!base.isPrefixOf location) = true := by
    rw [Bool.not_eq_true', Bool.eq_false_iff]
    exact fun below => apart (List.isPrefixOf_iff_prefix.mp below)
  rw [outside, lookup_filter_key fun place => !base.isPrefixOf place, if_pos kept]

theorem get?_of_outside (same : after.outside base = before.outside base)
    (apart : ¬ base <+: location) : after.get? location = before.get? location := by
  by_cases nonempty : location = []
  · rw [nonempty]
    rfl
  · rw [lookup_of_get? nonempty, lookup_of_get? nonempty, ← lookup_outside apart, same,
      lookup_outside apart]

/-! ## Going ahead -/

/-- One tree has become the other by writes and new directories, all of them below a
location, and the medium is as it was. -/
structure Ahead (base : Location) (before after : FileTree) (writes : List (Location × Content)) :
    Prop where
  changes : Changes before after writes
  outside : after.outside base = before.outside base
  medium : after.medium = before.medium

namespace Ahead

theorem refl (base : Location) (tree : FileTree) : Ahead base tree tree [] :=
  ⟨Changes.refl tree, rfl, rfl⟩

theorem trans (first : Ahead base before after writes) (second : Ahead base after later more) :
    Ahead base before later (writes ++ more) :=
  ⟨first.changes.trans second.changes, second.outside.trans first.outside,
    second.medium.trans first.medium⟩

end Ahead

theorem Changes.file_of_written (changes : Changes before after writes)
    (written : location ∈ writes.map Prod.fst) :
    ∃ content, after.get? location = some (.file content) := by
  rcases exists_lastWritten written with ⟨content, last⟩
  exact ⟨content, (changes.files location content).mpr (.inl last)⟩

/-- Writing over files below a location. -/
theorem ahead_putAll (below : ∀ item ∈ writes, base <+: item.1)
    (files : ∀ location ∈ writes.map Prod.fst, ∃ old, tree.get? location = some (.file old)) :
    Ahead base tree (tree.putAll writes) writes := by
  induction writes generalizing tree with
  | nil => exact Ahead.refl base tree
  | cons item writes inductionHypothesis =>
      rcases files item.1 List.mem_cons_self with ⟨old, stands⟩
      have nonempty : item.1 ≠ [] := by
        intro top
        rw [top] at stands
        cases stands
      have first : Ahead base tree (tree.put item.1 (.file item.2)) [item] :=
        ⟨changes_put_file item.2 nonempty (.inr ⟨old, stands⟩),
          outside_put (below item List.mem_cons_self) _, rfl⟩
      refine first.trans (inductionHypothesis (List.forall_mem_cons.mp below).2 ?_)
      intro location member
      rcases files location (List.mem_cons_of_mem _ member) with ⟨kept, file⟩
      exact first.changes.file_of_file file

/-! ## Operations that can be repeated -/

section Repeatable

variable {α β : Type}

/-- What an operation does below a location, by these writes, and does again in every tree
that is ahead of the one it leaves. -/
structure Retraces (base : Location) (action : FileTree → α × FileTree) (tree : FileTree)
    (writes : List (Location × Content)) : Prop where
  regular : (action tree).2.Regular
  ahead : Ahead base tree (action tree).2 writes
  below : ∀ item ∈ writes, base <+: item.1
  retraced : ∀ later more, Ahead base (action tree).2 later more →
    action later = ((action tree).1, later.putAll writes)

/-- Done again, this operation goes the same way. -/
def Repeatable (base : Location) (action : FileTree → α × FileTree) (tree : FileTree) : Prop :=
  ∃ writes, Retraces base action tree writes

theorem Retraces.ahead_again {action : FileTree → α × FileTree}
    (retraces : Retraces base action tree writes) (ahead : Ahead base (action tree).2 later more) :
    Ahead base later (later.putAll writes) writes := by
  refine ahead_putAll retraces.below fun location member => ?_
  rcases retraces.ahead.changes.file_of_written member with ⟨old, file⟩
  exact ahead.changes.file_of_file file

namespace Repeatable

theorem regular {action : FileTree → α × FileTree} (repeatable : Repeatable base action tree) :
    (action tree).2.Regular :=
  repeatable.choose_spec.regular

theorem ahead {action : FileTree → α × FileTree} (repeatable : Repeatable base action tree) :
    ∃ writes, Ahead base tree (action tree).2 writes :=
  ⟨_, repeatable.choose_spec.ahead⟩

/-- Done again at once, an operation leaves the tree as it is. -/
theorem again {action : FileTree → α × FileTree} (repeatable : Repeatable base action tree) :
    action (action tree).2 = action tree := by
  rcases repeatable with ⟨writes, retraces⟩
  rw [retraces.retraced _ [] (Ahead.refl base _), putAll_of_stands]
  intro location content last
  exact (retraces.ahead.changes.files location content).mpr (.inl last)

/-- An operation that leaves the tree alone and always comes out the same. -/
theorem pure (regular : tree.Regular) (outcome : α) :
    Repeatable base (fun tree => (outcome, tree)) tree :=
  ⟨[], regular, Ahead.refl base tree, List.forall_mem_nil _, fun _ _ _ => rfl⟩

/-- Steps that can be repeated make up an operation that can be. -/
theorem andThen {first : FileTree → α × FileTree} (start : Repeatable base first tree)
    (next : α → FileTree → β × FileTree)
    (rest : Repeatable base (next (first tree).1) (first tree).2) :
    Repeatable base (fun tree => next (first tree).1 (first tree).2) tree := by
  rcases start with ⟨writes, retraces⟩
  rcases rest with ⟨more, others⟩
  refine ⟨writes ++ more, others.regular, retraces.ahead.trans others.ahead,
    List.forall_mem_append.mpr ⟨retraces.below, others.below⟩, fun later between ahead => ?_⟩
  have here := others.ahead.trans ahead
  have onward := ahead.trans (retraces.ahead_again here)
  simp only [retraces.retraced later _ here, others.retraced _ _ onward, putAll_append]

/-- What is made of the outcome does not matter. -/
theorem map {action : FileTree → α × FileTree} (repeatable : Repeatable base action tree)
    (change : α → β) :
    Repeatable base (fun tree => (change (action tree).1, (action tree).2)) tree :=
  repeatable.andThen (fun outcome tree => (change outcome, tree)) (pure repeatable.regular _)

/-- It is enough to go the way of an operation that can be repeated. -/
theorem congr {action other : FileTree → α × FileTree} (repeatable : Repeatable base other tree)
    (same : ∀ later writes, Ahead base tree later writes → action later = other later) :
    Repeatable base action tree := by
  rcases repeatable with ⟨writes, retraces⟩
  have here : action tree = other tree := same tree [] (Ahead.refl base tree)
  refine ⟨writes, here ▸ retraces.regular, here ▸ retraces.ahead, retraces.below, ?_⟩
  intro later more ahead
  rw [here] at ahead ⊢
  rw [same later _ (retraces.ahead.trans ahead)]
  exact retraces.retraced later more ahead

/-- An operation that leaves the tree alone, now and later. -/
theorem of_idle {action : FileTree → α × FileTree} (regular : tree.Regular) (outcome : α)
    (same : ∀ later writes, Ahead base tree later writes → action later = (outcome, later)) :
    Repeatable base action tree :=
  (pure regular outcome).congr same

/-- Operations that go on only if the first succeeds. -/
theorem inTurn {first : FileAction α} {next : α → FileAction β}
    (start : Repeatable base first tree)
    (rest : ∀ value done writes, first tree = (.ok value, done) → done.Regular →
      Ahead base tree done writes → Repeatable base (next value) done) :
    Repeatable base (FileTree.inTurn first next) tree := by
  have onward : Repeatable base (fun tree => match (first tree).1 with
      | .error problem => (.error problem, (first tree).2)
      | .ok value => next value (first tree).2) tree := by
    refine start.andThen (fun outcome tree => match outcome with
      | .error problem => (.error problem, tree)
      | .ok value => next value tree) ?_
    rcases start.ahead with ⟨writes, ahead⟩
    have regular := start.regular
    rcases run : first tree with ⟨problem | value, done⟩
    · rw [run] at regular
      exact pure regular _
    · rw [run] at ahead regular
      exact rest value done writes run regular ahead
  refine onward.congr fun later writes ahead => ?_
  rw [FileTree.inTurn]
  rcases first later with ⟨problem | value, done⟩ <;> rfl

end Repeatable

end Repeatable

end FileTree
end MediaSite
