import MediaSite.Proofs.Files.Places
import MediaSite.Proofs.Files.Writing

namespace MediaSite

/-!
# Regular trees

A tree can hold entries at any locations.  In a `Regular` one each entry has names that
can be written in a path, and it stands in a directory; so the names of a location lead
to what stands there, and what is missing has nothing below it.  There are no links, and
what may not be written is a file.

Whatever a walk finds free in such a tree is a name in a directory.  So making
directories, writing and copying keep a tree regular.
-/

open scoped Text

/-! ## Segments -/

theorem Text.not_mem_of_mem_splitOn {c : Char} {text part : Text} (member : part ∈ text.splitOn c) :
    c ∉ part := by
  induction size : text.length using Nat.strong_induction_on generalizing text with
  | h size inductionHypothesis =>
      subst size
      by_cases present : c ∈ text
      · rcases List.eq_append_cons_of_mem present with ⟨left, right, rfl, absent⟩
        rw [List.splitOn_append_cons_self_of_not_mem absent] at member
        have shorter : right.length < (left ++ c :: right).length := by
          rw [List.length_append, List.length_cons]
          omega
        rcases List.mem_cons.mp member with rfl | later
        · exact absent
        · exact inductionHypothesis right.length shorter later rfl
      · rw [List.splitOn_eq_singleton present] at member
        rw [List.mem_singleton.mp member]
        exact present

theorem Path.slash_not_mem_segment {path : Path} {segment : Text}
    (member : segment ∈ path.segments) : '/' ∉ segment :=
  Text.not_mem_of_mem_splitOn member

namespace FileTree

variable {tree : FileTree} {location above base here : Location} {name : Text} {entry : Entry}
  {content : Content} {followLast : Bool} {links : Nat} {path : Path}

/-- No links, proper names, each entry in a directory, and only files locked. -/
structure Regular (tree : FileTree) : Prop where
  free : tree.LinkFree
  names : ∀ item ∈ tree.entries, Downward item.1
  closed : ∀ above name, tree.get? (above ++ [name]) ≠ none → tree.get? above = some .directory
  locked : ∀ location ∈ tree.medium.locked, ∃ content, tree.get? location = some (.file content)

namespace Regular

/-- The tree without entries. -/
theorem empty : Regular FileTree.empty where
  free := fun location target link => by cases location <;> cases link
  names := List.forall_mem_nil _
  closed := fun above name stands => by cases above <;> cases stands rfl
  locked := List.forall_mem_nil _

/-- A tree is regular if each of its entries is a file or directory with proper names and
stands in a directory, and nothing is locked. -/
theorem of_entries (unlocked : tree.medium.locked = [])
    (sound : ∀ item ∈ tree.entries, (∀ target, item.2 ≠ .link target) ∧
      Downward item.1 ∧ tree.get? item.1.dropLast = some .directory) : tree.Regular where
  free := linkFree_of_entries fun item member => (sound item member).1
  names := fun item member => (sound item member).2.1
  closed := fun above name stands => by
    rcases Option.ne_none_iff_exists'.mp stands with ⟨entry, found⟩
    have filled : (above ++ [name]).isEmpty = false :=
      List.isEmpty_eq_false_iff.mpr (List.append_ne_nil_of_right_ne_nil _ (List.cons_ne_nil _ _))
    rw [get?, filled, if_neg Bool.false_ne_true] at found
    have directory := (sound _ (mem_of_lookup found)).2.2
    rwa [List.dropLast_concat] at directory
  locked := fun location member => by
    rw [unlocked] at member
    cases member

theorem downward_of_get? (regular : tree.Regular) (filled : location ≠ [])
    (stands : tree.get? location ≠ none) : Downward location := by
  cases location with
  | nil => exact absurd rfl filled
  | cons first rest =>
      rcases Option.ne_none_iff_exists'.mp stands with ⟨entry, found⟩
      exact regular.names _ (mem_of_lookup found)

/-- Above what stands in a regular tree are directories. -/
theorem directory_above (regular : tree.Regular) {behind : Location} (filled : behind ≠ [])
    (stands : tree.get? (above ++ behind) ≠ none) : tree.get? above = some .directory := by
  induction behind using List.reverseRecOn with
  | nil => exact absurd rfl filled
  | append_singleton behind name inductionHypothesis =>
      rw [← List.append_assoc] at stands
      have directory := regular.closed _ _ stands
      by_cases last : behind = []
      · rwa [last, List.append_nil] at directory
      · exact inductionHypothesis last (by rw [directory]; exact Option.some_ne_none _)

end Regular

/-! ## Putting entries -/

theorem mem_putEntry {entries : List (Location × Entry)} {item : Location × Entry}
    (member : item ∈ putEntry location entry entries) :
    item = (location, entry) ∨ item ∈ entries := by
  induction entries with
  | nil => exact .inl (List.mem_singleton.mp member)
  | cons first rest inductionHypothesis =>
      rw [putEntry] at member
      split at member
      · rcases List.mem_cons.mp member with rfl | later
        · exact .inl rfl
        · exact .inr (List.mem_cons_of_mem _ later)
      · rcases List.mem_cons.mp member with rfl | later
        · exact .inr List.mem_cons_self
        · exact (inductionHypothesis later).imp_right (List.mem_cons_of_mem _)

/-- A file or directory can be put at a name in a directory if none is there, or a file in
place of a file. -/
theorem Regular.put (regular : tree.Regular) (downward : Downward (above ++ [name]))
    (directory : tree.get? above = some .directory) (noLink : ∀ target, entry ≠ .link target)
    (open_ : tree.get? (above ++ [name]) = none ∨
      (∃ old, tree.get? (above ++ [name]) = some (.file old)) ∧ ∃ new, entry = .file new) :
    (tree.put (above ++ [name]) entry).Regular := by
  have nonempty := downward.filled
  refine ⟨fun location target link => ?_, fun item member => ?_, fun other last stands => ?_,
    fun location member => ?_⟩
  · rw [get?_put nonempty] at link
    split at link
    · exact noLink target (Option.some.inj link)
    · exact regular.free location target link
  · rcases mem_putEntry member with rfl | old
    · exact downward
    · exact regular.names item old
  · have above_ : tree.get? other = some .directory := by
      rw [get?_put nonempty] at stands
      split at stands
      · rename_i same
        rwa [(List.append_inj' same rfl).1]
      · exact regular.closed other last stands
    rw [get?_put nonempty, if_neg]
    · exact above_
    · rintro rfl
      rcases open_ with free | ⟨⟨old, file⟩, _⟩
      · cases free.symm.trans above_
      · cases file.symm.trans above_
  · rcases regular.locked location member with ⟨content, file⟩
    rw [get?_put nonempty]
    split
    · rename_i same
      rcases open_ with free | ⟨_, new, rfl⟩
      · cases free.symm.trans (same ▸ file)
      · exact ⟨new, rfl⟩
    · exact ⟨content, file⟩

/-! ## Free names -/

theorem Regular.directory_dropLast (regular : tree.Regular)
    (directory : tree.get? here = some .directory) :
    tree.get? here.dropLast = some .directory := by
  cases here using List.reverseRecOn with
  | nil => exact directory
  | append_singleton above name =>
      rw [List.dropLast_concat]
      exact regular.closed above name (by rw [directory]; exact Option.some_ne_none _)

/-- What a walk finds free is one of its segments, in a directory. -/
theorem Regular.exists_of_walk_free (regular : tree.Regular) {segments : List Text}
    (directory : tree.get? here = some .directory)
    (found : walk tree followLast links here segments = .ok (.free location)) :
    ∃ above name, location = above ++ [name] ∧ name ∈ segments ∧
      tree.get? above = some .directory ∧ Path.isIdle name = false ∧ name ≠ ['.', '.'] := by
  have noLink := regular.free
  have dropLast (here : Location) (directory : tree.get? here = some .directory) :=
    regular.directory_dropLast directory
  fun_induction walk tree followLast links here segments <;> try cases found
  all_goals grind [LinkFree]

/-- Where a walk finds a directory there is one. -/
theorem Regular.get?_of_walk_directory (regular : tree.Regular) {segments : List Text}
    (directory : tree.get? here = some .directory)
    (found : walk tree followLast links here segments = .ok (.taken location .directory)) :
    tree.get? location = some .directory := by
  have noLink := regular.free
  have dropLast (here : Location) (directory : tree.get? here = some .directory) :=
    regular.directory_dropLast directory
  fun_induction walk tree followLast links here segments
  all_goals grind [LinkFree]

theorem Regular.get?_of_find_directory (regular : tree.Regular)
    (found : tree.find path = .ok (location, .directory)) :
    tree.get? location = some .directory := by
  rw [find_eq_ok_iff] at found
  rw [resolve_eq_walk found] at found
  exact regular.get?_of_walk_directory rfl found

theorem downward_concat (downward : above = [] ∨ Downward above)
    (proper : Path.isIdle name = false ∧ name ≠ ['.', '.']) (whole : '/' ∉ name) :
    Downward (above ++ [name]) := by
  have filled : above ++ [name] ≠ [] :=
    List.append_ne_nil_of_right_ne_nil above (List.cons_ne_nil _ _)
  rcases downward with rfl | ⟨_, aboveProper, aboveWhole⟩
  · exact ⟨filled, List.forall_mem_singleton.mpr proper, List.forall_mem_singleton.mpr whole⟩
  · exact ⟨filled, List.forall_mem_append.mpr ⟨aboveProper, List.forall_mem_singleton.mpr proper⟩,
      List.forall_mem_append.mpr ⟨aboveWhole, List.forall_mem_singleton.mpr whole⟩⟩

/-- A free name to which a path leads can be listed. -/
theorem Regular.free_of_resolve (regular : tree.Regular)
    (found : tree.resolve followLast path = .ok (.free location)) :
    ∃ above name, location = above ++ [name] ∧ Downward location ∧
      tree.get? above = some .directory ∧ tree.get? location = none := by
  rw [resolve_eq_walk found] at found
  rcases regular.exists_of_walk_free rfl found with ⟨above, name, rfl, member, directory, proper⟩
  have aboveDownward : above = [] ∨ Downward above := Classical.or_iff_not_imp_left.mpr fun filled =>
    regular.downward_of_get? filled (by rw [directory]; exact Option.some_ne_none _)
  exact ⟨above, name, rfl,
    downward_concat aboveDownward proper (Path.slash_not_mem_segment member), directory,
    get?_of_walk_free found⟩

/-! ## Operations -/

theorem Regular.put_free (regular : tree.Regular)
    (found : tree.resolve followLast path = .ok (.free location))
    (noLink : ∀ target, entry ≠ .link target) : (tree.put location entry).Regular := by
  rcases regular.free_of_resolve found with ⟨above, name, rfl, downward, directory, free⟩
  exact regular.put downward directory noLink (.inl free)

theorem Regular.makeDirectory (regular : tree.Regular) (path : Path) :
    (makeDirectory path tree).2.Regular := by
  unfold FileTree.makeDirectory create
  split
  · exact regular
  · rename_i location found
    exact regular.put_free found nofun
  · exact regular

theorem Regular.makeDirectories (regular : tree.Regular) (path : Path) :
    (makeDirectories path tree).2.Regular :=
  makeLineage_preserves (P := Regular) (fun _ path regular => regular.makeDirectory path) _ regular

theorem Regular.put_file (regular : tree.Regular) {old : Content}
    (stands : tree.get? location = some (.file old)) (content : Content) :
    (tree.put location (.file content)).Regular := by
  cases location using List.reverseRecOn with
  | nil => cases stands
  | append_singleton above name =>
      have something : tree.get? (above ++ [name]) ≠ none := by
        rw [stands]
        exact Option.some_ne_none _
      exact regular.put
        (regular.downward_of_get? (List.append_ne_nil_of_right_ne_nil _ (List.cons_ne_nil _ _))
          something)
        (regular.closed above name something) nofun (.inr ⟨⟨old, stands⟩, content, rfl⟩)

theorem Regular.put_opened (regular : tree.Regular) (opens : Opens tree path location)
    (content : Content) : (tree.put location (.file content)).Regular := by
  rcases opens.spot with free | ⟨old, found⟩
  · exact regular.put_free free nofun
  · exact regular.put_file (get?_of_find_file found) content

theorem Regular.lockLike (regular : tree.Regular) (source : Location)
    (stands : tree.get? location = some (.file content)) :
    (tree.lockLike source location).Regular := by
  unfold FileTree.lockLike
  split
  · exact ⟨regular.free, regular.names, regular.closed,
      List.forall_mem_cons.mpr ⟨⟨content, stands⟩, regular.locked⟩⟩
  · exact regular

theorem Regular.write (regular : tree.Regular) (path : Path) (content : Content) :
    (write path content tree).2.Regular := by
  rcases write_cases path content tree with
    ⟨problem, refused, _⟩ | ⟨location, opens, ⟨_, written⟩ | ⟨_, part, broken⟩⟩
  · rwa [refused]
  · rw [written]
    exact regular.put_opened opens content
  · rw [broken]
    exact regular.put_opened opens part

theorem Regular.copy (regular : tree.Regular) (source target : Path) :
    (copy source target tree).2.Regular := by
  rcases copy_cases source target tree with
    ⟨problem, refused⟩ | ⟨origin, content, location, _, opens, ⟨_, copied⟩ | ⟨_, part, broken⟩⟩
  · rwa [refused]
  · rw [copied, ← lockLike_put]
    exact (regular.put_opened opens _).lockLike origin (opens.get?_put _)
  · rw [broken, ← lockLike_put]
    exact (regular.put_opened opens part).lockLike origin (opens.get?_put part)

/-! ## What all operations keep -/

/-- This is kept by every operation on files that a run performs. -/
structure Kept (P : FileTree → Prop) : Prop where
  makeDirectories : ∀ path tree, P tree → P (FileTree.makeDirectories path tree).2
  copy : ∀ source target tree, P tree → P (FileTree.copy source target tree).2
  write : ∀ path content tree, P tree → P (FileTree.write path content tree).2

theorem kept_regular : Kept Regular where
  makeDirectories := fun path _ regular => regular.makeDirectories path
  copy := fun source target _ regular => regular.copy source target
  write := fun path content _ regular => regular.write path content

theorem kept_roomy : Kept fun tree => tree.medium.full = [] where
  makeDirectories := fun path tree roomy => (changes_makeDirectories path tree).full.trans roomy
  copy := fun source target tree roomy => by
    rcases changes_copy source target tree with ⟨_, changes, _⟩
    exact changes.full.trans roomy
  write := fun path content tree roomy => by rwa [write_medium]

end FileTree
end MediaSite
