import MediaSite.Proofs.Files.Growth
import MediaSite.Proofs.Text.Lookup

namespace MediaSite

/-!
# What operations change

Writing, copying and making directories change a tree in few ways: directories and
links stay, no link is made, and a file is other than before only at a location that
was written.  `FileTree.Changes` says so of a whole sequence of operations, with the
locations written in order; what was written last is what is there.  What could not be
opened for writing cannot be opened later either, and the room is the same.

A path that names a file goes on to name it, at the same location, whatever is
written anywhere (`FileTree.Changes.find_file`).
-/

namespace FileTree

variable {tree before after last : FileTree} {location : Location} {content : Content}
variable {path : Path}

/-! ## Writing locations -/

/-- What was written last at a location. -/
def lastWritten {α : Type} (writes : List (Location × α)) (location : Location) : Option α :=
  writes.reverse.lookup location

section LastWritten

variable {α β : Type} {writes : List (Location × α)}

theorem lastWritten_append (first second : List (Location × α)) (location : Location) :
    lastWritten (first ++ second) location =
      (lastWritten second location).or (lastWritten first location) := by
  rw [lastWritten, List.reverse_append, List.lookup_append]
  rfl

theorem lastWritten_eq_none_iff :
    lastWritten writes location = none ↔ location ∉ writes.map Prod.fst := by
  rw [lastWritten, lookup_eq_none_iff, List.map_reverse, List.mem_reverse]

theorem lastWritten_singleton (location : Location) (value : α) (other : Location) :
    lastWritten [(location, value)] other = if other = location then some value else none := by
  rw [lastWritten, List.reverse_singleton, List.lookup_cons]
  by_cases same : other = location
  · rw [if_pos same, same, beq_self_eq_true]
  · rw [if_neg same, beq_false_of_ne same]
    rfl

theorem mem_of_lastWritten {value : α} (found : lastWritten writes location = some value) :
    (location, value) ∈ writes :=
  List.mem_reverse.mp (mem_of_lookup found)

theorem exists_lastWritten (member : location ∈ writes.map Prod.fst) :
    ∃ value, lastWritten writes location = some value :=
  Option.ne_none_iff_exists'.mp fun nothing => lastWritten_eq_none_iff.mp nothing member

theorem lastWritten_map (writes : List (Location × α)) (change : α → β) (location : Location) :
    lastWritten (writes.map fun item => (item.1, change item.2)) location =
      (lastWritten writes location).map change := by
  rw [lastWritten, ← List.map_reverse, lookup_map_snd]
  rfl

/-- Writes to other locations do not matter. -/
theorem lastWritten_filter {keep : Location × α → Bool}
    (kept : ∀ item ∈ writes, item.1 = location → keep item = true) :
    lastWritten (writes.filter keep) location = lastWritten writes location := by
  rw [lastWritten, ← List.filter_reverse]
  exact lookup_filter_of_keep fun item member => kept item (List.mem_reverse.mp member)

end LastWritten

/-- Directories and links are as before, and the files are those written and, elsewhere,
those there before.  There may be more directories, and more files that nobody may write if
they were written here. -/
structure Changes (before after : FileTree) (writes : List (Location × Content)) : Prop where
  directories : ∀ location, before.get? location = some .directory →
    after.get? location = some .directory
  links : ∀ location target, after.get? location = some (.link target) ↔
    before.get? location = some (.link target)
  files : ∀ location content, after.get? location = some (.file content) ↔
    lastWritten writes location = some content ∨
      lastWritten writes location = none ∧ before.get? location = some (.file content)
  locked : ∀ location ∈ before.medium.locked, location ∈ after.medium.locked
  newLocks : ∀ location ∈ after.medium.locked,
    location ∈ before.medium.locked ∨ location ∈ writes.map Prod.fst
  full : after.medium.full = before.medium.full

namespace Changes

variable {writes more : List (Location × Content)}

theorem refl (tree : FileTree) : Changes tree tree [] where
  directories := fun _ stands => stands
  links := fun _ _ => Iff.rfl
  files := fun _ _ => ⟨fun stands => .inr ⟨rfl, stands⟩, fun stands => stands.elim nofun And.right⟩
  locked := fun _ member => member
  newLocks := fun _ member => .inl member
  full := rfl

/-- Nobody may write any more to a file that was written. -/
theorem lock (changes : Changes before after writes) (written : location ∈ writes.map Prod.fst) :
    Changes before (after.lock location) writes where
  directories := changes.directories
  links := changes.links
  files := changes.files
  locked := fun other member => List.mem_cons_of_mem _ (changes.locked other member)
  newLocks := List.forall_mem_cons.mpr ⟨.inr written, changes.newLocks⟩
  full := changes.full

theorem trans (first : Changes before after writes) (second : Changes after last more) :
    Changes before last (writes ++ more) where
  directories := fun location stands =>
    second.directories location (first.directories location stands)
  links := fun location target => (second.links location target).trans (first.links location target)
  files := fun location content => by
    rw [second.files, first.files, lastWritten_append]
    cases lastWritten more location <;> simp
  locked := fun location member => second.locked location (first.locked location member)
  newLocks := fun location member => by
    rw [List.map_append, List.mem_append, ← or_assoc]
    exact (second.newLocks location member).imp_left (first.newLocks location)
  full := second.full.trans first.full

theorem file_of_file (changes : Changes before after writes)
    (stands : before.get? location = some (.file content)) :
    ∃ content, after.get? location = some (.file content) := by
  cases written : lastWritten writes location with
  | none => exact ⟨content, (changes.files location content).mpr (.inr ⟨written, stands⟩)⟩
  | some content => exact ⟨content, (changes.files location content).mpr (.inl written)⟩

/-- Where nothing was written, a file is there afterwards exactly if it was before. -/
theorem file_iff (changes : Changes before after writes)
    (other : location ∉ writes.map Prod.fst) :
    after.get? location = some (.file content) ↔ before.get? location = some (.file content) := by
  have nothing := lastWritten_eq_none_iff.mpr other
  rw [changes.files, nothing]
  exact ⟨fun stands => stands.elim nofun And.right, fun stands => .inr ⟨rfl, stands⟩⟩

/-- Where nothing was written, there is a lock afterwards exactly if there was before. -/
theorem locked_iff (changes : Changes before after writes)
    (other : location ∉ writes.map Prod.fst) :
    location ∈ after.medium.locked ↔ location ∈ before.medium.locked :=
  ⟨fun member => (changes.newLocks location member).resolve_right other, changes.locked location⟩

/-- Where something was written, a file is what was written last. -/
theorem lastWritten_of_file (changes : Changes before after writes)
    (written : location ∈ writes.map Prod.fst)
    (stands : after.get? location = some (.file content)) :
    lastWritten writes location = some content := by
  rcases (changes.files location content).mp stands with last | ⟨nothing, _⟩
  · exact last
  · exact absurd written (lastWritten_eq_none_iff.mp nothing)

/-- Where something is there is something afterwards. -/
theorem get?_ne_none (changes : Changes before after writes)
    (something : before.get? location ≠ none) : after.get? location ≠ none := by
  cases stands : before.get? location with
  | none => exact absurd stands something
  | some entry =>
      cases entry with
      | file content =>
          rcases changes.file_of_file stands with ⟨new, kept⟩
          rw [kept]
          exact Option.some_ne_none _
      | directory =>
          rw [changes.directories location stands]
          exact Option.some_ne_none _
      | link target =>
          rw [(changes.links location target).mpr stands]
          exact Option.some_ne_none _

/-- A directory where something was before was one before. -/
theorem directory_before (changes : Changes before after writes)
    (directory : after.get? location = some .directory) (something : before.get? location ≠ none) :
    before.get? location = some .directory := by
  cases stands : before.get? location with
  | none => exact absurd stands something
  | some entry =>
      cases entry with
      | directory => rfl
      | link target => cases directory.symm.trans ((changes.links location target).mpr stands)
      | file content =>
          rcases changes.file_of_file stands with ⟨new, kept⟩
          cases directory.symm.trans kept

end Changes

theorem changes_put_directory (free : tree.get? location = none) :
    Changes tree (tree.put location .directory) [] := by
  have nonempty : location ≠ [] := by
    rintro rfl
    cases free
  have others (other : Location) (stands : Entry) (real : stands ≠ .directory) :
      (tree.put location .directory).get? other = some stands ↔ tree.get? other = some stands := by
    rw [get?_put nonempty]
    by_cases same : other = location
    · rw [if_pos same, same, free]
      exact ⟨fun made => absurd (Option.some.inj made).symm real, nofun⟩
    · rw [if_neg same]
  refine ⟨fun other => grows_put free other .directory,
    fun other target => others other (.link target) nofun, fun other content => ?_,
    fun _ member => member, fun _ member => .inl member, rfl⟩
  rw [others other (.file content) nofun]
  exact ⟨fun stands => .inr ⟨rfl, stands⟩, fun stands => stands.elim nofun And.right⟩

/-- A file can be put at a free location, or in place of a file. -/
theorem changes_put_file (content : Content) (nonempty : location ≠ [])
    (open_ : tree.get? location = none ∨ ∃ old, tree.get? location = some (.file old)) :
    Changes tree (tree.put location (.file content)) [(location, content)] := by
  have others (other : Location) (stands : Entry) (real : ∀ content, stands ≠ .file content) :
      (tree.put location (.file content)).get? other = some stands ↔
        tree.get? other = some stands := by
    rw [get?_put nonempty]
    by_cases same : other = location
    · rw [if_pos same, same]
      refine ⟨fun made => absurd (Option.some.inj made).symm (real content), fun old => ?_⟩
      rcases open_ with free | ⟨was, file⟩
      · rw [free] at old
        cases old
      · rw [file] at old
        exact absurd (Option.some.inj old).symm (real was)
    · rw [if_neg same]
  refine ⟨fun other => (others other .directory fun _ => nofun).mpr,
    fun other target => others other (.link target) fun _ => nofun, fun other stands => ?_,
    fun _ member => member, fun _ member => .inl member, rfl⟩
  rw [get?_put nonempty, lastWritten_singleton]
  by_cases same : other = location <;> simp [same]

/-! ## Walking -/

theorem get?_of_walk_file {followLast : Bool} {links : Nat} {here : Location}
    {segments : List Text}
    (found : walk tree followLast links here segments = .ok (.taken location (.file content))) :
    tree.get? location = some (.file content) := by
  fun_induction walk tree followLast links here segments <;> grind

/-- What stands at a location afterwards, where something stood before. -/
inductive Stays (after : FileTree) (location : Location) : Entry → Entry → Prop where
  | directory : Stays after location .directory .directory
  | file {old new : Content} (stands : after.get? location = some (.file new)) :
      Stays after location (.file old) (.file new)

/-- A walk that ends somewhere ends there afterwards, and finds what stands there then. -/
theorem walk_of_changes {writes : List (Location × Content)}
    (changes : Changes before after writes) {followLast : Bool} {links : Nat} {here : Location}
    {segments : List Text} {entry other : Entry} (stays : Stays after location entry other)
    (found : walk before followLast links here segments = .ok (.taken location entry)) :
    walk after followLast links here segments = .ok (.taken location other) := by
  have directories := changes.directories
  have sameLinks (location : Location) (target : Path)
      (stands : before.get? location = some (.link target)) :=
    (changes.links location target).mpr stands
  have files (location : Location) (content : Content)
      (stands : before.get? location = some (.file content)) := changes.file_of_file stands
  cases stays
  all_goals
    fun_induction walk before followLast links here segments <;> try cases found
    all_goals grind [walk]

theorem get?_of_find_file (found : tree.find path = .ok (location, .file content)) :
    tree.get? location = some (.file content) := by
  rw [find_eq_ok_iff] at found
  rw [resolve_eq_walk found] at found
  exact get?_of_walk_file found

theorem find_of_changes {writes : List (Location × Content)}
    (changes : Changes before after writes) {entry other : Entry}
    (stays : Stays after location entry other) (found : before.find path = .ok (location, entry)) :
    after.find path = .ok (location, other) := by
  rw [find_eq_ok_iff] at found ⊢
  have checked := resolve_eq_walk found
  rw [checked] at found ⊢
  exact walk_of_changes changes stays found

/-- A path that names a file goes on to name it. -/
theorem Changes.find_file {writes : List (Location × Content)}
    (changes : Changes before after writes)
    (found : before.find path = .ok (location, .file content)) :
    ∃ new, after.find path = .ok (location, .file new) := by
  rcases changes.file_of_file (get?_of_find_file found) with ⟨new, stands⟩
  exact ⟨new, find_of_changes changes (.file stands) found⟩

theorem Changes.find_directory {writes : List (Location × Content)}
    (changes : Changes before after writes)
    (found : before.find path = .ok (location, .directory)) :
    after.find path = .ok (location, .directory) :=
  find_of_changes changes .directory found

/-! ## Making directories -/

/-- What is kept when one directory is made is kept when several are. -/
theorem makeLineage_preserves {P : FileTree → Prop}
    (step : ∀ tree path, P tree → P (makeDirectory path tree).2) (paths : List Path)
    (start : P tree) : P (makeLineage paths tree).2 := by
  induction paths generalizing tree with
  | nil => exact start
  | cons path ancestors inductionHypothesis =>
      have first := step tree path start
      unfold makeLineage
      split
      · exact start
      · split
        · rename_i made
          rwa [made] at first
        · rename_i middle missing
          rw [missing] at first
          have above := inductionHypothesis first
          split
          · rename_i failed
            rwa [failed] at above
          · rename_i later madeAbove
            rw [madeAbove] at above
            have again := step later path above
            split
            · rename_i made
              rwa [made] at again
            · rename_i failed
              rw [failed] at again
              split <;> exact again
        · rename_i failed
          rw [failed] at first
          split <;> exact first

theorem changes_makeDirectory (path : Path) (tree : FileTree) :
    Changes tree (makeDirectory path tree).2 [] := by
  unfold makeDirectory create
  split
  · exact Changes.refl tree
  · rename_i location found
    rw [resolve_eq_walk found] at found
    exact changes_put_directory (get?_of_walk_free found)
  · exact Changes.refl tree

theorem changes_makeLineage (paths : List Path) (tree : FileTree) :
    Changes tree (makeLineage paths tree).2 [] := by
  have step (between : FileTree) (path : Path) (changes : Changes tree between []) :
      Changes tree (makeDirectory path between).2 [] :=
    changes.trans (changes_makeDirectory path between)
  exact makeLineage_preserves step paths (Changes.refl tree)

theorem changes_makeDirectories (path : Path) (tree : FileTree) :
    Changes tree (makeDirectories path tree).2 [] :=
  changes_makeLineage _ tree

end FileTree
end MediaSite
