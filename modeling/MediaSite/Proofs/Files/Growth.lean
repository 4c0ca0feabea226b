import Mathlib.Algebra.Module.Submodule.Lattice
import Mathlib.Computability.Primrec.List
import Mathlib.Data.List.Permutation
import MediaSite.Files.Tree

namespace MediaSite

/-!
# Trees that grow

Making directories takes nothing away from a tree.  Whatever a path named before, it
names after that: a walk that ends at something takes the same way in a larger tree
(`FileTree.walk_of_grows`).  Directories that were made are there from then on, and to
make them again changes nothing (`FileTree.makeDirectories_again`).

The modules from here on evaluate runs over fixed trees with `cbv`, which takes the equations
of `≤`, `List.lookup` and `Prod.snd` from the modules of Mathlib imported here.
-/

namespace FileTree

variable {tree before after : FileTree} {location : Location} {entry : Entry}

/-- Nothing that stands in the first tree is gone or changed in the second. -/
def Grows (before after : FileTree) : Prop :=
  ∀ location entry, before.get? location = some entry → after.get? location = some entry

theorem Grows.refl (tree : FileTree) : Grows tree tree :=
  fun _ _ here => here

theorem Grows.trans {last : FileTree} (first : Grows before after) (second : Grows after last) :
    Grows before last :=
  fun location entry here => second location entry (first location entry here)

/-! ## Putting entries -/

theorem lookup_putEntry (location other : Location) (entry : Entry)
    (entries : List (Location × Entry)) :
    (putEntry location entry entries).lookup other =
      if other = location then some entry else entries.lookup other := by
  induction entries with
  | nil =>
      rw [putEntry, List.lookup_cons]
      by_cases same : other = location
      · rw [if_pos same, same, beq_self_eq_true]
      · rw [if_neg same, beq_false_of_ne same]
  | cons item rest inductionHypothesis =>
      rcases item with ⟨place, kept⟩
      rw [putEntry]
      by_cases here : place = location
      · rw [if_pos here, List.lookup_cons, List.lookup_cons, here]
        by_cases same : other = location
        · rw [if_pos same, same, beq_self_eq_true]
        · rw [if_neg same, beq_false_of_ne same]
      · rw [if_neg here, List.lookup_cons, inductionHypothesis, List.lookup_cons]
        by_cases same : other = place
        · rw [same, beq_self_eq_true]
          exact (if_neg here).symm
        · rw [beq_false_of_ne same]

theorem get?_put (nonempty : location ≠ []) (other : Location) :
    (tree.put location entry).get? other =
      if other = location then some entry else tree.get? other := by
  cases other with
  | nil =>
      rw [if_neg fun same => nonempty same.symm]
      rfl
  | cons name rest => exact lookup_putEntry location (name :: rest) entry tree.entries

theorem putEntry_putEntry (location : Location) (first second : Entry)
    (entries : List (Location × Entry)) :
    putEntry location second (putEntry location first entries) =
      putEntry location second entries := by
  induction entries with
  | nil => exact if_pos rfl
  | cons item rest inductionHypothesis =>
      rcases item with ⟨place, kept⟩
      by_cases here : place = location
      · rw [putEntry, if_pos here, putEntry, if_pos rfl, putEntry, if_pos here]
      · rw [putEntry, if_neg here, putEntry, if_neg here, inductionHypothesis, putEntry,
          if_neg here]

@[simp]
theorem put_medium (tree : FileTree) (location : Location) (entry : Entry) :
    (tree.put location entry).medium = tree.medium := rfl

theorem put_put (tree : FileTree) (location : Location) (first second : Entry) :
    (tree.put location first).put location second = tree.put location second :=
  congrArg (fun entries => ({ tree with entries } : FileTree))
    (putEntry_putEntry location first second tree.entries)

theorem grows_put (free : tree.get? location = none) : Grows tree (tree.put location entry) := by
  have nonempty : location ≠ [] := by
    rintro rfl
    cases free
  intro other stands here
  rw [get?_put nonempty, if_neg]
  · exact here
  · rintro rfl
    rw [free] at here
    cases here

/-! ## Walks -/

theorem walk_of_grows (grows : Grows before after) {followLast : Bool} {links : Nat}
    {here : Location} {segments : List Text}
    (found : walk before followLast links here segments = .ok (.taken location entry)) :
    walk after followLast links here segments = .ok (.taken location entry) := by
  -- The steps that end in an error are gone with `found`; the others are taken again.
  fun_induction walk before followLast links here segments <;> try cases found
  all_goals grind [walk, Grows]

theorem get?_of_walk_free {followLast : Bool} {links : Nat} {here : Location}
    {segments : List Text}
    (found : walk tree followLast links here segments = .ok (.free location)) :
    tree.get? location = none := by
  fun_induction walk tree followLast links here segments <;> grind

theorem walk_of_empty {followLast : Bool} {links : Nat} {here : Location} {segments : List Text}
    (empty : segments.all List.isEmpty = true) :
    walk tree followLast links here segments = .ok (.taken here .directory) := by
  induction segments with
  | nil => rw [walk]
  | cons segment rest inductionHypothesis =>
      rw [List.all_cons, Bool.and_eq_true] at empty
      have idle : Path.isIdle segment = true := by rw [Path.isIdle, empty.1, Bool.true_or]
      rw [walk, if_pos idle]
      exact inductionHypothesis empty.2

/-- A free name is found once a directory is put there. -/
theorem walk_put_of_free {links : Nat} {here : Location} {segments : List Text}
    (found : walk tree false links here segments = .ok (.free location)) :
    walk (tree.put location .directory) true links here segments =
      .ok (.taken location .directory) := by
  have free := get?_of_walk_free found
  have grows : Grows tree (tree.put location .directory) := grows_put free
  have made : (tree.put location .directory).get? location = some .directory := by
    have nonempty : location ≠ [] := by
      rintro rfl
      cases free
    rw [get?_put nonempty, if_pos rfl]
  fun_induction walk tree false links here segments <;> try cases found
  all_goals grind [walk, Grows, walk_of_empty]

/-- Not following a link at the end makes a difference only if there is one. -/
theorem walk_not_following (links : Nat) (here : Location) (segments : List Text) :
    walk tree false links here segments = walk tree true links here segments ∨
      ∃ location target, walk tree false links here segments =
        .ok (.taken location (.link target)) := by
  fun_induction walk tree false links here segments
  all_goals grind [walk]

/-! ## Paths -/

variable {path : Path}

/-- What a path has to fulfil does not depend on the tree. -/
theorem resolve_eq_walk {followLast : Bool} {spot : Spot}
    (found : tree.resolve followLast path = .ok spot) (other : FileTree) (follow : Bool) :
    other.resolve follow path = walk other follow linkLimit [] path.segments := by
  unfold resolve at found ⊢
  split at found
  · cases found
  · split at found
    · cases found
    · split at found
      · cases found
      · rename_i noZero short relative
        rw [if_neg noZero, if_neg short, if_neg relative]

theorem find_eq_ok_iff : tree.find path = .ok (location, entry) ↔
    tree.resolve true path = .ok (.taken location entry) := by
  unfold find
  cases tree.resolve true path with
  | error problem => exact ⟨nofun, nofun⟩
  | ok spot =>
      cases spot with
      | free location => exact ⟨nofun, nofun⟩
      | taken location entry => simp

theorem find_of_grows (grows : Grows before after)
    (found : before.find path = .ok (location, entry)) :
    after.find path = .ok (location, entry) := by
  rw [find_eq_ok_iff] at found ⊢
  have checked := resolve_eq_walk found
  rw [checked] at found ⊢
  exact walk_of_grows grows found

theorem isFile_eq_true_iff : tree.isFile path = true ↔
    ∃ location content, tree.find path = .ok (location, .file content) := by
  unfold isFile
  split
  · rename_i location content found
    exact ⟨fun _ => ⟨location, content, found⟩, fun _ => rfl⟩
  · rename_i other
    exact ⟨nofun, fun ⟨location, content, found⟩ => absurd found (other location content)⟩

theorem isDirectory_eq_true_iff :
    tree.isDirectory path = true ↔ ∃ location, tree.find path = .ok (location, .directory) := by
  unfold isDirectory
  split
  · rename_i location found
    exact ⟨fun _ => ⟨location, found⟩, fun _ => rfl⟩
  · rename_i other
    exact ⟨nofun, fun ⟨location, found⟩ => absurd found (other location)⟩

theorem isFile_of_grows (grows : Grows before after) (file : before.isFile path = true) :
    after.isFile path = true := by
  rcases isFile_eq_true_iff.mp file with ⟨location, content, found⟩
  exact isFile_eq_true_iff.mpr ⟨location, content, find_of_grows grows found⟩

theorem isDirectory_of_grows (grows : Grows before after)
    (stands : before.isDirectory path = true) : after.isDirectory path = true := by
  rcases isDirectory_eq_true_iff.mp stands with ⟨location, found⟩
  exact isDirectory_eq_true_iff.mpr ⟨location, find_of_grows grows found⟩

/-! ## Making directories -/

theorem grows_create (path : Path) (entry : Entry) (tree : FileTree) :
    Grows tree (create path entry tree).2 := by
  unfold create
  split
  · exact Grows.refl tree
  · rename_i location found
    rw [resolve_eq_walk found] at found
    exact grows_put (get?_of_walk_free found)
  · exact Grows.refl tree

/-- A directory that was made is there. -/
theorem isDirectory_of_makeDirectory {done : FileTree}
    (made : makeDirectory path tree = (.ok (), done)) : done.isDirectory path = true := by
  unfold makeDirectory create at made
  split at made
  · cases made
  · rename_i location found
    cases made
    have checked := resolve_eq_walk found
    rw [checked] at found
    rw [isDirectory_eq_true_iff]
    refine ⟨location, find_eq_ok_iff.mpr ?_⟩
    rw [checked]
    exact walk_put_of_free found
  · cases made

/-- A directory that is there cannot be made, and that leaves the tree as it is. -/
theorem makeDirectory_of_isDirectory (stands : tree.isDirectory path = true) :
    makeDirectory path tree = (.error .alreadyExists, tree) := by
  rcases isDirectory_eq_true_iff.mp stands with ⟨location, found⟩
  rw [find_eq_ok_iff] at found
  have checked := resolve_eq_walk found
  rw [checked] at found
  unfold makeDirectory create
  rw [checked]
  rcases walk_not_following linkLimit [] path.segments with same | ⟨other, target, link⟩
  · rw [same, found]
  · rw [link]

/-- Making directories only adds to a tree, and when it succeeds the first of them is there. -/
theorem makeLineage_spec {paths : List Path} {outcome : Except FileError Unit} {done : FileTree}
    (run : makeLineage paths tree = (outcome, done)) :
    Grows tree done ∧ ∀ path ancestors, paths = path :: ancestors → outcome = .ok () →
      path.text.isEmpty = true ∨ done.isDirectory path = true := by
  induction paths generalizing tree outcome done with
  | nil =>
      cases run
      exact ⟨Grows.refl tree, nofun⟩
  | cons path ancestors inductionHypothesis =>
      have grows {tree done : FileTree} {outcome : Except FileError Unit}
          (run : makeDirectory path tree = (outcome, done)) : Grows tree done := by
        have grown := grows_create path .directory tree
        rwa [show create path .directory tree = _ from run] at grown
      -- A failure to make the first directory is none if it is there.
      have settled {tree done : FileTree} {problem : FileError} {outcome : Except FileError Unit}
          (run : (if tree.isDirectory path then (.ok (), tree) else (.error problem, tree)) =
            (outcome, done)) : tree = done ∧ (outcome = .ok () → done.isDirectory path = true) := by
        split at run
        · rename_i stands
          cases run
          exact ⟨rfl, fun _ => stands⟩
        · cases run
          exact ⟨rfl, nofun⟩
      suffices Grows tree done ∧
          (outcome = .ok () → path.text.isEmpty = true ∨ done.isDirectory path = true) by
        refine ⟨this.1, ?_⟩
        rintro _ _ same
        cases same
        exact this.2
      unfold makeLineage at run
      split at run
      · rename_i empty
        cases run
        exact ⟨Grows.refl tree, fun _ => .inl empty⟩
      · split at run
        · rename_i middle made
          cases run
          exact ⟨grows made, fun _ => .inr (isDirectory_of_makeDirectory made)⟩
        · rename_i middle missing
          split at run
          · rename_i problem above failed
            cases run
            exact ⟨(grows missing).trans (inductionHypothesis failed).1, nofun⟩
          · rename_i above madeAbove
            have grown := (grows missing).trans (inductionHypothesis madeAbove).1
            split at run
            · rename_i last made
              cases run
              exact ⟨grown.trans (grows made), fun _ => .inr (isDirectory_of_makeDirectory made)⟩
            · rename_i problem last failed
              rcases settled run with ⟨rfl, stands⟩
              exact ⟨grown.trans (grows failed), fun ok => .inr (stands ok)⟩
        · rename_i problem middle _ failed
          rcases settled run with ⟨rfl, stands⟩
          exact ⟨grows failed, fun ok => .inr (stands ok)⟩

theorem makeLineage_of_isDirectory {ancestors : List Path}
    (stands : path.text.isEmpty = true ∨ tree.isDirectory path = true) :
    makeLineage (path :: ancestors) tree = (.ok (), tree) := by
  unfold makeLineage
  rcases stands with empty | stands
  · rw [if_pos empty]
  · split
    · rfl
    · simp only [makeDirectory_of_isDirectory stands, stands, if_true]

theorem lineage_eq_cons (count : Nat) (path : Path) :
    ∃ ancestors, lineage count path = path :: ancestors := by
  cases count with
  | zero => exact ⟨[], rfl⟩
  | succ count =>
      rw [lineage]
      cases path.parent? with
      | none => exact ⟨[], rfl⟩
      | some parent => exact ⟨lineage count parent, rfl⟩

theorem grows_makeDirectories (path : Path) (tree : FileTree) :
    Grows tree (makeDirectories path tree).2 :=
  (makeLineage_spec rfl).1

/-- Directories that were made are not made again. -/
theorem makeDirectories_again (made : (makeDirectories path tree).1.isOk = true)
    {later : FileTree} (grows : Grows (makeDirectories path tree).2 later) :
    makeDirectories path later = (.ok (), later) := by
  rcases run : makeDirectories path tree with ⟨outcome, done⟩
  rw [run] at made grows
  cases outcome with
  | error problem => cases made
  | ok _ =>
      unfold makeDirectories at run ⊢
      rcases lineage_eq_cons path.text.length path with ⟨ancestors, same⟩
      rw [same] at run ⊢
      apply makeLineage_of_isDirectory
      exact ((makeLineage_spec run).2 path ancestors rfl rfl).imp_right
        (isDirectory_of_grows grows)

end FileTree
end MediaSite
