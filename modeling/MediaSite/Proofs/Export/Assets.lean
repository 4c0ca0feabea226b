import Mathlib.Data.Set.Defs
import MediaSite.Proofs.Export.SetUp

namespace MediaSite

/-!
# Copying the assets again

Unless the pack stands in the output directory, a walk through it reads nothing that it has
written: the directories that it opens lie outside of the output directory, and so do the
files that it copies (`FileTree.reading_of_ahead`).  So when it is done again it comes to
the same entries and takes them to the same places: copying the assets can be repeated
(`Pack.repeatable_copyAssets`).

This asks that all assets may be written.  The copy of an asset that may not be written may
not be written either, and is refused the second time.
-/

open scoped Text

namespace FileTree

variable {before after : FileTree} {base location : Location}
  {writes : List (Location × Content)}

/-! ## Reading again -/

/-- Outside of a directory that is there, what is written in it is not seen. -/
theorem names_of_ahead (ahead : Ahead base before after writes)
    (present : before.get? base ≠ none) (apart : ¬ base <+: location) :
    after.names location = before.names location := by
  have same (name : Text) : name ∈ after.names location ↔ name ∈ before.names location := by
    rw [mem_names_iff, mem_names_iff]
    by_cases inside : base <+: location ++ [name]
    · rw [← (List.prefix_concat_iff.mp inside).resolve_right apart]
      exact iff_of_true (ahead.changes.get?_ne_none present) present
    · rw [get?_of_outside ahead.outside inside]
  simp only [names, mem_ascending] at same ⊢
  exact ascending_eq_of_mem_iff same

theorem reading_of_ahead (ahead : Ahead base before after writes)
    (present : before.get? base ≠ none) (apart : ¬ base <+: location) :
    after.reading location = before.reading location := by
  rw [reading, reading, ahead.medium, names_of_ahead ahead present apart]

end FileTree

namespace Pack

open FileTree

variable {tree after : FileTree} {root base above relative : Location} {output : Path}
  {writes : List (Location × Content)} {entry : Entry} {names : List Text}

/-! ## Assets -/

/-- The assets of a pack: the files in it, as seen from its directory, that are neither its own
nor in the output directory. -/
def assets (tree : FileTree) (root base : Location) : Set Location :=
  {relative | (∃ content, tree.get? (root ++ relative) = some (.file content)) ∧
    ¬ base <+: root ++ relative ∧ ∀ name ∈ ownFiles, relative ≠ [name]}

/-- All assets of a pack may be written. -/
def Unlocked (tree : FileTree) (root base : Location) : Prop :=
  ∀ relative ∈ assets tree root base, root ++ relative ∉ tree.medium.locked

theorem isAsset_eq_true_iff : isAsset relative = true ↔ ∀ name ∈ ownFiles, relative ≠ [name] := by
  unfold isAsset
  split
  · rename_i name
    rw [Bool.not_eq_true', Bool.eq_false_iff, Ne, List.contains_iff_mem]
    constructor
    · rintro other own member ⟨⟩
      exact other member
    · exact fun different member => different name member rfl
  · rename_i several
    exact ⟨fun _ name _ single => several name single, fun _ => rfl⟩

theorem assets_of_ahead (ahead : Ahead base tree after writes) :
    assets after root base = assets tree root base := by
  ext relative
  refine and_congr_left fun ⟨outside, _⟩ => ?_
  rw [get?_of_outside ahead.outside outside]

/-- What stands in a pack has names that can be written in a path. -/
theorem downward_of_stands (regular : tree.Regular) (filled : relative ≠ [])
    (stands : tree.get? (root ++ relative) ≠ none) :
    Downward relative ∧ Downward (root ++ relative) := by
  have whole := regular.downward_of_get? (List.append_ne_nil_of_right_ne_nil root filled) stands
  exact ⟨⟨filled, (List.forall_mem_append.mp whole.proper).2,
    (List.forall_mem_append.mp whole.whole).2⟩, whole⟩

/-! ## Copying entries -/

/-- What a walk needs to be repeated: an output directory that is there, in a regular tree, and
assets that may all be written. -/
structure Ready (output : Path) (root base : Location) (tree : FileTree) : Prop where
  filled : output.text ≠ []
  regular : tree.Regular
  grounded : tree.Grounded output base
  unlocked : Unlocked tree root base

theorem Ready.of_ahead (ready : Ready output root base tree) (regular : after.Regular)
    (ahead : Ahead base tree after writes) : Ready output root base after := by
  refine ⟨ready.filled, regular, ready.grounded.of_changes ahead.changes, ?_⟩
  rw [Unlocked, assets_of_ahead ahead, ahead.medium]
  exact ready.unlocked

theorem Ready.found (ready : Ready output root base tree) :
    tree.find output = .ok (base, .directory) :=
  ready.grounded.rooted.resolve_left fun empty => ready.filled empty.1

theorem Ready.present (ready : Ready output root base tree) : tree.get? base ≠ none := by
  rw [ready.regular.get?_of_find_directory ready.found]
  exact Option.some_ne_none _

theorem exists_home (filled : output.text ≠ []) (grounded : tree.Grounded output base)
    (downward : Downward relative) : ∃ up last, relative = up ++ [last] ∧
      (output.joinNames relative).parent? = some (home output relative) := by
  rcases List.eq_nil_or_concat' relative with rfl | ⟨up, last, rfl⟩
  · exact absurd rfl downward.filled
  · have proper := downward.proper last (List.mem_append_right up List.mem_cons_self)
    rcases (grounded.below filled downward).exists_parent proper.1 with ⟨parent, found⟩
    refine ⟨up, last, rfl, ?_⟩
    rw [home, found]
    rfl

theorem repeatable_home (filled : output.text ≠ []) (regular : tree.Regular)
    (grounded : tree.Grounded output base) (downward : Downward relative) :
    Repeatable base (makeDirectories (home output relative)) tree := by
  rcases exists_home filled grounded downward with ⟨up, last, rfl, found⟩
  exact repeatable_makeParent regular (grounded.below filled downward) downward.proper found

/-- An entry that stands elsewhere can be copied below a root again. -/
theorem repeatable_copyEntry (ready : Ready output root base tree) (filled : relative ≠ [])
    (stands : tree.get? (root ++ relative) = some entry) (apart : ¬ base <+: root ++ relative) :
    Repeatable base (copyEntry root output relative entry) tree := by
  have regular := ready.regular
  have something : tree.get? (root ++ relative) ≠ none := by
    rw [stands]
    exact Option.some_ne_none _
  rcases downward_of_stands regular filled something with ⟨downward, whole⟩
  have below := ready.grounded.below ready.filled downward
  by_cases copied : isCopied (relative, entry) = true
  · rw [copyEntry_of_copied copied]
    have made := repeatable_home ready.filled regular ready.grounded downward
    refine made.inTurn fun _ middle writes run kept ahead => ?_
    have onward := ready.of_ahead kept ahead
    have source := kept.find_names (ahead.changes.get?_ne_none something) whole
    rcases exists_home ready.filled ready.grounded downward with ⟨up, last, rfl, found⟩
    refine repeatable_copy kept onward.grounded downward source.1 (fun location content named => ?_)
      (below.resolve_of_made regular downward.proper found run)
    have place := source.2 location content named
    subst place
    refine ⟨apart, onward.unlocked _ ⟨⟨content, get?_of_find_file named⟩, apart, ?_⟩⟩
    exact isAsset_eq_true_iff.mp (isCopied_iff.mp copied).2
  · by_cases directory : entry = .directory
    · subst directory
      exact repeatable_makeDirectories regular below downward.proper
    · rw [copyEntry_of_own directory fun asset => copied (isCopied_iff.mpr ⟨directory, asset⟩)]
      exact .of_idle regular (.ok ()) fun _ _ _ => rfl

/-! ## Walks -/

theorem repeatable_copyNames
    {enter : Location → List Text → FileAction (List (Location × Entry))}
    (entering : ∀ above names tree, Ready output root base tree → ¬ base <+: root ++ above →
      Repeatable base (enter above names) tree)
    (ready : Ready output root base tree) (apart : ¬ base <+: root ++ above) :
    Repeatable base (copyNames root output (some base) enter above names) tree := by
  induction names generalizing tree with
  | nil => exact .of_idle ready.regular (.ok []) fun _ _ _ => rfl
  | cons name names inductionHypothesis =>
      by_cases output_ : base = root ++ (above ++ [name])
      · refine (inductionHypothesis ready).congr fun later writes ahead => ?_
        rw [copyNames]
        simp only [output_, if_true]
      · -- The name leads to the same as before, since it is not in the output directory.
        have outside : ¬ base <+: root ++ (above ++ [name]) := by
          rw [← List.append_assoc, List.prefix_concat_iff, not_or, List.append_assoc]
          exact ⟨output_, apart⟩
        have visited : ¬ some base = some (root ++ (above ++ [name])) := output_ ∘ Option.some.inj
        cases stands : tree.get? (root ++ (above ++ [name])) with
        | none =>
            refine (inductionHypothesis ready).congr fun later writes ahead => ?_
            rw [copyNames]
            simp only [if_neg visited, get?_of_outside ahead.outside outside, stands]
        | some entry =>
            have filled := List.append_ne_nil_of_right_ne_nil above (List.cons_ne_nil name [])
            have walk : Repeatable base (inTurn (copyEntry root output (above ++ [name]) entry)
                fun _ => inTurn (if entry = .directory then
                    enter (above ++ [name]) (tree.reading (root ++ (above ++ [name])))
                  else FileTree.done []) fun inner =>
                    inTurn (copyNames root output (some base) enter above names) fun others =>
                      FileTree.done ((above ++ [name], entry) :: inner ++ others)) tree := by
              refine (repeatable_copyEntry ready filled stands outside).inTurn
                fun _ opened _ _ regular ahead => ?_
              have onward := ready.of_ahead regular ahead
              have inside : Repeatable base (if entry = .directory then
                    enter (above ++ [name]) (tree.reading (root ++ (above ++ [name])))
                  else FileTree.done []) opened := by
                split
                · exact entering _ _ _ onward outside
                · exact .of_idle regular (.ok []) fun _ _ _ => rfl
              refine inside.inTurn fun inner middle _ _ regular ahead => ?_
              refine (inductionHypothesis (onward.of_ahead regular ahead)).inTurn
                fun others done _ _ regular _ => ?_
              exact .of_idle regular (.ok _) fun _ _ _ => rfl
            refine walk.congr fun later writes ahead => ?_
            rw [copyNames]
            simp only [if_neg visited, get?_of_outside ahead.outside outside, stands,
              reading_of_ahead ahead ready.present outside]

theorem repeatable_copyBelow (levels : Nat) (ready : Ready output root base tree)
    (apart : ¬ base <+: root ++ above) :
    Repeatable base (copyBelow root output (some base) levels above names) tree := by
  induction levels generalizing above names tree with
  | zero => exact .of_idle ready.regular (.error .nameTooLong) fun _ _ _ => rfl
  | succ levels inductionHypothesis =>
      exact repeatable_copyNames (fun _ _ _ => inductionHypothesis) ready apart

theorem canonical_eq_ok_iff {path : Path} {location : Location} :
    tree.canonical path = .ok location ↔ ∃ entry, tree.find path = .ok (location, entry) := by
  rw [canonical]
  cases tree.find path with
  | error problem => exact ⟨nofun, nofun⟩
  | ok found =>
      constructor
      · rintro ⟨⟩
        exact ⟨found.2, rfl⟩
      · rintro ⟨entry, ⟨⟩⟩
        rfl

theorem canonical_of_changes {path : Path} {location : Location}
    (changes : Changes tree after writes) (located : tree.canonical path = .ok location) :
    after.canonical path = .ok location := by
  rcases canonical_eq_ok_iff.mp located with ⟨content | _ | target, found⟩
  · rcases changes.find_file found with ⟨new, stays⟩
    exact canonical_eq_ok_iff.mpr ⟨_, stays⟩
  · exact canonical_eq_ok_iff.mpr ⟨_, changes.find_directory found⟩
  · exact absurd (find_eq_ok_iff.mp found) resolve_ne_link

/-- The assets of a pack that stands elsewhere can be copied again. -/
theorem repeatable_copyAssets {pack : Pack} (ready : Ready output root base tree)
    (located : tree.canonical pack.root = .ok root) (apart : ¬ base <+: root) :
    Repeatable base (pack.copyAssets output) tree := by
  have walk : Repeatable base (copyBelow root output (some base) (pathLimit + 1) []
      (tree.reading root)) tree :=
    repeatable_copyBelow _ ready (by rwa [List.append_nil])
  have copied : Repeatable base (pack.copyTree output) tree := by
    refine walk.congr fun later writes ahead => ?_
    have found := canonical_eq_ok_iff.mpr ⟨_, ahead.changes.find_directory ready.found⟩
    rw [copyTree, canonical_of_changes ahead.changes located, found]
    simp only [Except.toOption, reading_of_ahead ahead ready.present apart]
  exact copied.inTurn fun walked done writes run regular ahead =>
    .of_idle regular (.ok _) fun _ _ _ => rfl

end Pack
end MediaSite
