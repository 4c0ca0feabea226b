import MediaSite.Proofs.Export.AssetCopies

namespace MediaSite

/-!
# Copying what has been copied

A file is copied where it stands already: then nothing changes, unless nobody may write to the
target, and then the copy is refused (`FileTree.copy_settled`).

In a tree in which this is so for every entry that a walk can come to, the walk changes nothing.
It comes to its end or to an entry that is refused (`Pack.idle_copyBelow`), in whatever order the
directories are read.
-/

open scoped Text

namespace FileTree

variable {tree : FileTree} {source target root : Path} {origin location : Location}
  {content : Content} {entry : Entry} {names : List Text}

/-! ## One entry -/

theorem copy_settled (found : tree.find source = .ok (origin, .file content))
    (copied : tree.find target = .ok (location, .file content)) (apart : origin ≠ location)
    (room : tree.HasRoom location content)
    (handed : origin ∈ tree.medium.locked → location ∈ tree.medium.locked) :
    copy source target tree =
      if location ∈ tree.medium.locked then (.error .permissionDenied, tree)
      else (.ok (), tree) := by
  have stands := get?_of_find_file copied
  have nonempty := ne_nil_of_file stands
  rw [copy, found]
  simp only [inTurn, openFile_of_file copied, openAt_eq]
  split
  · rename_i opened
    split at opened
    · rename_i locked
      cases opened
      rw [if_pos locked]
    · cases opened
  · rename_i opened
    split at opened
    · cases opened
    · rename_i unlocked
      cases opened
      have free : origin ∉ tree.medium.locked := unlocked ∘ handed
      have still : (tree.put location (.file (.text []))).HasRoom location content := room
      rw [pour_eq nonempty (get?_of_find_file found), lockLike_of_unlocked free, Content.pouredFrom,
        if_neg apart, fill_of_hasRoom still, put_put, put_of_get? nonempty stands, if_neg unlocked]

theorem makeDirectories_of_directory (found : tree.find target = .ok (location, .directory)) :
    makeDirectories target tree = (.ok (), tree) := by
  rcases lineage_eq_cons target.text.length target with ⟨ancestors, same⟩
  rw [makeDirectories, same]
  exact makeLineage_of_isDirectory (.inr (isDirectory_eq_true_iff.mpr ⟨location, found⟩))

/-- A path that leads anywhere has no more names than may be in a path. -/
theorem length_of_find (downward : Downward names)
    (found : tree.find (root.joinNames names) = .ok (location, entry)) :
    names.length ≤ pathLimit := by
  have relative := (relative_of_find found).2
  rcases Path.segments_joinNames downward relative with ⟨front, segments⟩
  have accepted : (root.joinNames names).Accepted := by
    by_contra refused
    rcases resolve_of_refused refused with ⟨problem, always, _⟩
    cases (find_eq_ok_iff.mp found).symm.trans (always tree true)
  have filled : ∀ name ∈ names, name ≠ [] := by
    rintro name member rfl
    cases (downward.proper [] member).1
  calc names.length
      ≤ (Text.join ['/'] (root.joinNames names).segments).length :=
        length_le_join filled (segments ▸ List.sublist_append_right front names)
    _ = (root.joinNames names).text.length := by rw [Path.join_segments relative]
    _ ≤ Text.byteLength (root.joinNames names).text := Text.length_le_byteLength _
    _ ≤ pathLimit := accepted.short

end FileTree

namespace Pack

open FileTree

variable {tree done : FileTree} {output : Path} {root above relative : Location}
  {left : Option Location} {entry : Entry} {names : List Text}
  {walked : List (Location × Entry)} {problem : FileError}

/-! ## Walks that change nothing -/

/-- Whatever a walk can come to in this tree is copied without a change, or refused. -/
def Settled (root : Location) (output : Path) (left : Option Location) (problem : FileError)
    (tree : FileTree) : Prop :=
  ∀ relative entry, Place root left tree relative entry →
    copyEntry root output relative entry tree = (.ok (), tree) ∨
      copyEntry root output relative entry tree = (.error problem, tree)

/-- The outcome of a walk that changes nothing: what it came to, or that an entry was refused. -/
inductive Idle (root : Location) (output : Path) (left : Option Location) (problem : FileError)
    (tree : FileTree) : Except FileError (List (Location × Entry)) × FileTree → Prop
  | ended (walked : List (Location × Entry)) : Idle root output left problem tree (.ok walked, tree)
  | refused {relative : Location} {entry : Entry} (place : Place root left tree relative entry)
      (failed : copyEntry root output relative entry tree = (.error problem, tree)) :
      Idle root output left problem tree (.error problem, tree)

theorem Idle.inTurn {first : FileAction (List (Location × Entry))}
    {next : List (Location × Entry) → FileAction (List (Location × Entry))}
    (start : Idle root output left problem tree (first tree))
    (rest : ∀ walked, Idle root output left problem tree (next walked tree)) :
    Idle root output left problem tree (FileTree.inTurn first next tree) := by
  unfold FileTree.inTurn
  generalize first tree = result at start ⊢
  cases start with
  | ended walked => exact rest walked
  | refused place failed => exact .refused place failed

section Walks

variable (settled : Settled root output left problem tree)

include settled

theorem idle_copyNames {enter : Location → List Text → FileAction (List (Location × Entry))}
    (entering : ∀ name names, Place root left tree (above ++ [name]) .directory →
      Idle root output left problem tree (enter (above ++ [name]) names tree))
    (outside : ∀ base ∈ left, ¬ InOutput root base above) :
    Idle root output left problem tree (copyNames root output left enter above names tree) := by
  induction names with
  | nil => exact .ended []
  | cons name names inductionHypothesis =>
      rw [copyNames]
      simp only
      split
      · exact inductionHypothesis
      · rename_i visited
        split
        · exact inductionHypothesis
        · rename_i entry stands
          have place := place_of_name outside visited stands
          rcases settled _ _ place with copied | failed
          · rw [inTurn_ok copied]
            refine Idle.inTurn ?_ fun inner =>
              Idle.inTurn inductionHypothesis fun others => .ended _
            split
            · rename_i directory
              subst directory
              exact entering name _ place
            · exact .ended []
          · rw [inTurn_error failed]
            exact .refused place failed

/-- If no place is further down than there are levels, a walk changes nothing. -/
theorem idle_copyBelow {levels : Nat} (some : 0 < levels)
    (near : ∀ relative entry, Place root left tree relative entry →
      relative.length < above.length + levels)
    (outside : ∀ base ∈ left, ¬ InOutput root base above) :
    Idle root output left problem tree (copyBelow root output left levels above names tree) := by
  induction levels generalizing above names with
  | zero => cases some
  | succ levels inductionHypothesis =>
      refine idle_copyNames settled (fun name names place => ?_) outside
      have further : (above ++ [name]).length + levels = above.length + (levels + 1) := by
        rw [List.length_append, List.length_singleton]
        omega
      have deep := near _ _ place
      rw [← further] at near deep
      exact inductionHypothesis (Nat.lt_add_right_iff_pos.mp deep) near place.outside

/-- All that such a walk came to was copied without a change. -/
theorem Walk.unchanged (walk : Walk root output left above names tree walked done)
    (outside : ∀ base ∈ left, ¬ InOutput root base above) :
    done = tree ∧ ∀ item ∈ walked, Place root left tree item.1 item.2 ∧
      copyEntry root output item.1 item.2 tree = (.ok (), tree) := by
  have kept {name : Text} {above : Location} {entry : Entry} {tree middle : FileTree}
      (settled : Settled root output left problem tree)
      (place : Place root left tree (above ++ [name]) entry)
      (copied : copyEntry root output (above ++ [name]) entry tree = (.ok (), middle)) :
      middle = tree := by
    rcases settled _ _ place with same | failed
    · cases copied.symm.trans same
      rfl
    · cases copied.symm.trans failed
  induction walk with
  | nil => exact ⟨rfl, List.forall_mem_nil _⟩
  | pass _ _ inductionHypothesis => exact inductionHypothesis settled outside
  | file visited stands _ copied _ inductionHypothesis =>
      have place := place_of_name outside visited stands
      cases kept settled place copied
      rcases inductionHypothesis settled outside with ⟨same, others⟩
      exact ⟨same, List.forall_mem_cons.mpr ⟨⟨place, copied⟩, others⟩⟩
  | directory visited stands copied _ _ inner rest =>
      have place := place_of_name outside visited stands
      cases kept settled place copied
      rcases inner settled place.outside with ⟨rfl, inside⟩
      rcases rest settled outside with ⟨same, others⟩
      exact ⟨same, List.forall_mem_append.mpr
        ⟨List.forall_mem_cons.mpr ⟨⟨place, copied⟩, inside⟩, others⟩⟩

end Walks

end Pack
end MediaSite
