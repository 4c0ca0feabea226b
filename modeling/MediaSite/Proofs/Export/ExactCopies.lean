import Mathlib.Data.Set.Card
import MediaSite.Proofs.Export.CopiesAgain

namespace MediaSite

/-!
# What copying the assets comes to

The assets of a pack are the files below it that are not its own, apart from those in the
output directory.  When they have been copied they are all there, with the content they have in
the pack, and so are the directories between them; nothing else has changed, and copying again
changes nothing at all (`Pack.copyAssets_exact`).  It fails then if an asset may not be written,
since this has been copied with it.

For this the output directory may stand inside of the pack, but the pack not in the output
directory: no asset is then read from where one is written.
-/

open scoped Text

namespace FileTree

variable {tree : FileTree}

/-- The same tree, with its directories read in another order. -/
def inOrder (tree : FileTree) (order : List (Location × List Text)) : FileTree :=
  { tree with medium := { tree.medium with order } }

@[simp]
theorem inOrder_get? (tree : FileTree) (order : List (Location × List Text)) (location : Location) :
    (tree.inOrder order).get? location = tree.get? location := rfl

theorem changes_inOrder (tree : FileTree) (order : List (Location × List Text)) :
    Changes tree (tree.inOrder order) [] :=
  have same := Changes.refl tree
  ⟨same.directories, same.links, same.files, same.locked, same.newLocks, same.full⟩

theorem Regular.inOrder (regular : tree.Regular) (order : List (Location × List Text)) :
    (tree.inOrder order).Regular :=
  ⟨regular.free, regular.names, regular.closed, regular.locked⟩

end FileTree

namespace Pack

open FileTree

variable {tree done : FileTree} {pack : Pack} {output : Path} {root base relative : Location}
  {entry : Entry} {content : Content} {count : Nat} {walked : List (Location × Entry)}

/-! ## What is counted -/

/-- What lies elsewhere is in no place of a copy. -/
theorem place_ne (outside : ¬ base <+: root ++ relative) (other : Location) :
    root ++ relative ≠ base ++ other :=
  fun same => outside ⟨other, same.symm⟩

/-- The directory of the pack lies in no output directory. -/
theorem root_not_inOutput (root base : Location) : ∀ other ∈ some base, ¬ InOutput root other [] :=
  fun _ _ => not_inOutput_nil

/-- A walk through a pack from its beginning to its end, with the output directory left out.  The
pack does not stand in that. -/
structure WholeWalk (root base : Location) (output : Path) (tree : FileTree)
    (walked : List (Location × Entry)) (done : FileTree) : Prop where
  regular : tree.Regular
  directory : tree.get? root = some .directory
  isOutput : tree.find output = .ok (base, .directory)
  apart : ¬ base <+: root
  walk : Walk root output (some base) [] (tree.reading root) tree walked done

namespace WholeWalk

variable (whole : WholeWalk root base output tree walked done)

include whole

theorem grounded : tree.Grounded output base :=
  ⟨whole.regular.free, .inr whole.isOutput⟩

theorem filled : output.text ≠ [] :=
  (relative_of_find whole.isOutput).1

theorem downward : ∀ item ∈ walked, Downward item.1 ∧ Downward (root ++ item.1) :=
  whole.walk.downward whole.regular (root_not_inOutput root base)

/-- Every entry outside of the output directory is come to. -/
theorem complete (filled : relative ≠ []) (stood : tree.get? (root ++ relative) = some entry)
    (outside : ¬ base <+: root ++ relative) :
    ∃ found, (relative, found) ∈ walked ∧ (found = .directory ↔ entry = .directory) := by
  refine whole.walk.complete_root whole.regular filled stood ?_
  rintro _ ⟨⟩
  rwa [inOutput_iff whole.apart]

/-- Files are written at the places of the assets only. -/
theorem changes : ∃ writes, Changes tree done writes ∧
    ∀ write ∈ writes, ∃ item ∈ walked, isCopied item = true ∧ write.1 = base ++ item.1 := by
  have copied := changes_copyEntries root whole.grounded fun item member =>
    (whole.downward item member).1
  rwa [whole.walk.copyEntries] at copied

/-- The assets are what is copied and counted. -/
theorem mem_assets_iff : relative ∈ assets tree root base ↔
    ∃ entry, (relative, entry) ∈ walked ∧ isCopied (relative, entry) = true := by
  constructor
  · rintro ⟨⟨content, stands⟩, outside, own⟩
    have filled : relative ≠ [] := by
      rintro rfl
      rw [List.append_nil, whole.directory] at stands
      cases stands
    rcases whole.complete filled stands outside with ⟨found, member, same⟩
    refine ⟨found, member, isCopied_iff.mpr ⟨fun directory => ?_, isAsset_eq_true_iff.mpr own⟩⟩
    cases same.mp directory
  · rintro ⟨entry, member, copied⟩
    rcases isCopied_iff.mp copied with ⟨noDirectory, own⟩
    rcases whole.walk.place (root_not_inOutput root base) member with
      ⟨front, back, middle, rfl, run, place⟩
    have outside := (inOutput_iff whole.apart).not.mp (place.outside base rfl)
    rcases changes_copyEntries root whole.grounded (fun item inFront =>
      (whole.downward item (List.mem_append_left _ inFront)).1) with ⟨writes, changes, places⟩
    rw [run] at changes
    refine ⟨?_, outside, isAsset_eq_true_iff.mp own⟩
    -- What is copied is a file, and was one before the walk.
    have stands := place.stands
    cases entry with
    | directory => exact absurd rfl noDirectory
    | link target => exact absurd stands (changes.linkFree whole.regular.free _ _)
    | file content =>
        refine ⟨content, (changes.file_iff fun written => ?_).mp stands⟩
        rcases List.mem_map.mp written with ⟨write, inWrites, same⟩
        rcases places write inWrites with ⟨item, _, _, there⟩
        exact outside ⟨item.1, there.symm.trans same⟩

theorem count_eq : walked.countP isCopied = (assets tree root base).ncard := by
  have same : assets tree root base = ((walked.filter isCopied).map Prod.fst).toFinset := by
    ext relative
    rw [whole.mem_assets_iff]
    simp
  have distinct : ((walked.filter isCopied).map Prod.fst).Nodup :=
    (whole.walk.nodup (nodup_reading _ _)).sublist (List.filter_sublist.map _)
  rw [same, Set.ncard_coe_finset, List.toFinset_card_of_nodup distinct, List.length_map,
    List.countP_eq_length_filter]

/-! ## What is copied -/

/-- The turn of an asset in which it is copied, unchanged. -/
theorem exists_copy (isAsset : relative ∈ assets tree root base) :
    ∃ middle after earlier later, Turn tree done output root base relative middle after earlier later ∧
      root ++ relative ∉ earlier.map Prod.fst := by
  rcases whole.mem_assets_iff.mp isAsset with ⟨entry, member, copied⟩
  rcases exists_turn whole.grounded (fun item inWalked => (whole.downward item inWalked).1)
    (whole.walk.nodup (nodup_reading _ _)) whole.walk.copyEntries member copied with
    ⟨middle, after, earlier, later, turn⟩
  refine ⟨middle, after, earlier, later, turn, fun written => ?_⟩
  rcases List.mem_map.mp written with ⟨write, inEarlier, same⟩
  exact isAsset.2.1 (same ▸ turn.below write inEarlier)

theorem downward_asset (isAsset : relative ∈ assets tree root base) :
    Downward relative ∧ Downward (root ++ relative) := by
  rcases whole.mem_assets_iff.mp isAsset with ⟨entry, member, _⟩
  exact whole.downward _ member

theorem find_asset (isAsset : relative ∈ assets tree root base)
    (stands : tree.get? (root ++ relative) = some (.file content)) :
    done.find (output.joinNames relative) = .ok (base ++ relative, .file content) := by
  rcases whole.downward_asset isAsset with ⟨downward, names⟩
  rcases whole.exists_copy isAsset with ⟨middle, after, earlier, later, turn, untouched⟩
  rcases turn.carried whole.grounded downward names with ⟨held, source, target⟩
  rw [turn.before.file_iff untouched, stands] at source
  cases source
  rwa [Content.pouredFrom, if_neg (place_ne isAsset.2.1 relative)] at target

theorem find_directory (inside : relative ≠ []) (outside : ¬ base <+: root ++ relative)
    (stands : tree.get? (root ++ relative) = some .directory) :
    done.find (output.joinNames relative) = .ok (base ++ relative, .directory) := by
  rcases whole.complete inside stands outside with ⟨found, member, same⟩
  rw [same.mpr rfl] at member
  exact Pack.find_directory whole.grounded whole.filled
    (fun item inWalked => (whole.downward item inWalked).1) whole.walk.copyEntries member

theorem file_elsewhere {location : Location}
    (elsewhere : ∀ relative ∈ assets tree root base, location ≠ base ++ relative) :
    done.get? location = some (.file content) ↔ tree.get? location = some (.file content) := by
  rcases whole.changes with ⟨writes, changes, places⟩
  refine changes.file_iff fun written => ?_
  rcases List.mem_map.mp written with ⟨write, inWrites, rfl⟩
  rcases places write inWrites with ⟨⟨relative, entry⟩, member, copied, there⟩
  exact elsewhere relative (whole.mem_assets_iff.mpr ⟨entry, member, copied⟩) there

/-! ## Copying again -/

/-- What has been copied may be written exactly if the asset may. -/
theorem locked_asset_iff (isAsset : relative ∈ assets tree root base) :
    base ++ relative ∈ done.medium.locked ↔ root ++ relative ∈ tree.medium.locked := by
  rcases whole.downward_asset isAsset with ⟨downward, names⟩
  rcases whole.exists_copy isAsset with ⟨middle, after, earlier, later, turn, untouched⟩
  rcases (whole.grounded.of_changes turn.before).copy_names downward names turn.copied with
    ⟨content, _, opens, _, rfl⟩
  rw [turn.behind.locked_iff (turn.once _ (.inr rfl)), put_medium, ← turn.before.locked_iff untouched]
  by_cases locked : root ++ relative ∈ middle.medium.locked
  · rw [lockLike, if_pos (List.contains_iff_mem.mpr locked)]
    exact iff_of_true List.mem_cons_self locked
  · rw [lockLike_of_unlocked locked]
    exact iff_of_false opens.unlocked locked

/-- When it is copied again an asset stays as it is, but that is refused if it may not be
written. -/
theorem copy_again (isAsset : relative ∈ assets tree root base) {later : FileTree}
    (changes : Changes done later [])
    (same : later.get? (root ++ relative) = tree.get? (root ++ relative)) (copied :
      isCopied (relative, entry) = true) :
    copyEntry root output relative entry later =
      if root ++ relative ∈ tree.medium.locked then (.error .permissionDenied, later)
      else (.ok (), later) := by
  rcases whole.downward_asset isAsset with ⟨downward, names⟩
  rcases whole.exists_copy isAsset with ⟨middle, after, earlier, rest, turn, untouched⟩
  rcases (whole.grounded.of_changes turn.before).copy_names downward names turn.copied with
    ⟨content, source, opens, room, written⟩
  have different := place_ne isAsset.2.1 relative
  rw [Content.pouredFrom, if_neg different] at room written
  have copies := opens.changes_copied (root ++ relative) content
  rw [← written] at copies
  have onward := (copies.trans turn.behind).trans changes
  have stood := (turn.before.file_iff untouched).mp (get?_of_find_file source)
  -- The source is found and holds what it held, and the target holds the same.
  have sourceAgain : later.find ⟨Text.join ['/'] (root ++ relative)⟩ =
      .ok (root ++ relative, .file content) :=
    find_of_changes onward (.file (same.trans stood)) source
  have target := whole.find_asset isAsset stood
  have targetAgain : later.find (output.joinNames relative) = .ok (base ++ relative, .file content) :=
    find_of_changes changes
      (.file ((changes.file_iff List.not_mem_nil).mpr (get?_of_find_file target))) target
  have locks : base ++ relative ∈ later.medium.locked ↔ root ++ relative ∈ tree.medium.locked :=
    (changes.locked_iff List.not_mem_nil).trans (whole.locked_asset_iff isAsset)
  rcases whole.changes with ⟨writes, all, places⟩
  have sourceLock :
      root ++ relative ∈ later.medium.locked → root ++ relative ∈ tree.medium.locked := by
    intro locked
    refine (all.locked_iff fun inWrites => ?_).mp ((changes.locked_iff List.not_mem_nil).mp locked)
    rcases List.mem_map.mp inWrites with ⟨write, member, here⟩
    rcases places write member with ⟨item, _, _, there⟩
    exact isAsset.2.1 ⟨item.1, there.symm.trans here⟩
  have settled := copy_settled sourceAgain targetAgain different (onward.hasRoom_iff.mpr room)
    (locks.mpr ∘ sourceLock)
  have housed : makeDirectories (home output relative) later = (.ok (), later) :=
    makeDirectories_of_made turn.housed onward
  rw [copyEntry_of_copied copied]
  refine (inTurn_ok housed).trans (settled.trans ?_)
  exact if_congr locks rfl rfl

/-! ## In another order -/

variable (order : List (Location × List Text))

theorem get?_inOrder (outside : ¬ base <+: root ++ relative) :
    (done.inOrder order).get? (root ++ relative) = tree.get? (root ++ relative) := by
  have same := outside_copyEntries root whole.filled whole.regular whole.grounded
    fun item member => (whole.downward item member).1
  rw [whole.walk.copyEntries] at same
  exact get?_of_outside same outside

theorem assets_inOrder : assets (done.inOrder order) root base = assets tree root base := by
  ext relative
  refine and_congr_left fun ⟨outside, _⟩ => ?_
  rw [whole.get?_inOrder order outside]

/-- What a walk through the pack needs is there again. -/
theorem again {others : List (Location × Entry)} {rest : FileTree}
    (walk : Walk root output (some base) [] ((done.inOrder order).reading root)
      (done.inOrder order) others rest) :
    WholeWalk root base output (done.inOrder order) others rest := by
  rcases whole.changes with ⟨writes, changes, _⟩
  have kept := regular_copyEntries root output walked whole.regular
  rw [whole.walk.copyEntries] at kept
  have found := (changes_inOrder done order).find_directory (changes.find_directory whole.isOutput)
  exact ⟨kept.inOrder order, changes.directories _ whole.directory, found, whole.apart, walk⟩

variable {order}

theorem mem_assets_of_place (place : Place root (some base) (done.inOrder order) relative entry)
    (copied : isCopied (relative, entry) = true) : relative ∈ assets tree root base := by
  rcases isCopied_iff.mp copied with ⟨noDirectory, own⟩
  have outside := (inOutput_iff whole.apart).not.mp (place.outside base rfl)
  have stood := (whole.get?_inOrder order outside).symm.trans place.stands
  cases entry with
  | directory => exact absurd rfl noDirectory
  | link target => exact absurd stood (whole.regular.free _ _)
  | file content => exact ⟨⟨content, stood⟩, outside, isAsset_eq_true_iff.mp own⟩

theorem copyEntry_again (place : Place root (some base) (done.inOrder order) relative entry) :
    relative.length ≤ pathLimit ∧ copyEntry root output relative entry (done.inOrder order) =
      if isCopied (relative, entry) = true ∧ root ++ relative ∈ tree.medium.locked then
        (.error .permissionDenied, done.inOrder order)
      else (.ok (), done.inOrder order) := by
  have changes := changes_inOrder done order
  have outside := (inOutput_iff whole.apart).not.mp (place.outside base rfl)
  have stood := (whole.get?_inOrder order outside).symm.trans place.stands
  by_cases copied : isCopied (relative, entry) = true
  · have isAsset := whole.mem_assets_of_place place copied
    rcases isAsset.1 with ⟨content, held⟩
    refine ⟨length_of_find (whole.downward_asset isAsset).1 (whole.find_asset isAsset held), ?_⟩
    rw [whole.copy_again isAsset changes (place.stands.trans stood.symm) copied]
    exact if_congr (and_iff_right copied).symm rfl rfl
  · rw [if_neg fun refused => copied refused.1]
    by_cases directory : entry = .directory
    · subst directory
      have found := whole.find_directory place.filled outside stood
      have something : tree.get? (root ++ relative) ≠ none := by
        rw [stood]
        exact Option.some_ne_none _
      have downward := (downward_of_stands whole.regular place.filled something).1
      exact ⟨length_of_find downward found,
        makeDirectories_of_directory (changes.find_directory found)⟩
    · have own : ¬ isAsset relative = true :=
        fun asset => copied (isCopied_iff.mpr ⟨directory, asset⟩)
      refine ⟨?_, by rw [copyEntry_of_own directory own]; rfl⟩
      unfold isAsset at own
      split at own
      · exact Nat.one_le_of_lt (by decide : 0 < pathLimit)
      · exact absurd rfl own

theorem settled : Settled root output (some base) .permissionDenied (done.inOrder order) := by
  intro relative entry place
  rw [(whole.copyEntry_again place).2]
  split
  · exact .inr rfl
  · exact .inl rfl

/-- Copied again, the assets stay as they are; but that is refused if one may not be written. -/
theorem copyBelow_again :
    let walk := copyBelow root output (some base) (pathLimit + 1) []
      ((done.inOrder order).reading root) (done.inOrder order)
    (Unlocked tree root base → ∃ others, walk = (.ok others, done.inOrder order) ∧
      others.countP isCopied = walked.countP isCopied) ∧
    (¬ Unlocked tree root base → walk = (.error .permissionDenied, done.inOrder order)) := by
  intro walk
  have near (relative : Location) (entry : Entry)
      (place : Place root (some base) (done.inOrder order) relative entry) :
      relative.length < ([] : Location).length + (pathLimit + 1) := by
    rw [List.length_nil, Nat.zero_add]
    exact Nat.lt_succ_of_le (whole.copyEntry_again place).1
  have idle : Idle root output (some base) .permissionDenied (done.inOrder order) walk :=
    idle_copyBelow whole.settled (Nat.succ_pos _) near (root_not_inOutput root base)
  generalize made : walk = result at idle
  cases idle with
  | ended others =>
      have another := whole.again order (walk_of_copyBelow made)
      refine ⟨fun _ => ⟨others, rfl, ?_⟩,
        fun locked => absurd (fun relative asset lock => ?_) locked⟩
      · rw [another.count_eq, whole.count_eq, whole.assets_inOrder]
      · -- An asset that may not be written would have been refused.
        rw [← whole.assets_inOrder order] at asset
        rcases another.mem_assets_iff.mp asset with ⟨entry, member, copied⟩
        rcases (Walk.unchanged whole.settled another.walk (root_not_inOutput root base)).2 _
          member with ⟨place, ended⟩
        rw [(whole.copyEntry_again place).2, if_pos ⟨copied, lock⟩] at ended
        cases ended
  | refused place failed =>
      refine ⟨fun unlocked => ?_, fun _ => rfl⟩
      rw [(whole.copyEntry_again place).2] at failed
      split at failed
      · rename_i refused
        exact absurd refused.2 (unlocked _ (whole.mem_assets_of_place place refused.1))
      · cases failed

end WholeWalk

/-! ## Exact copies -/

/-- The assets of a pack, and only they, have been copied. -/
structure CopiedExactly (pack : Pack) (output : Path) (root base : Location)
    (tree done : FileTree) (count : Nat) : Prop where
  counted : count = (assets tree root base).ncard
  files : ∀ relative content, relative ∈ assets tree root base →
    tree.get? (root ++ relative) = some (.file content) →
      done.find (output.joinNames relative) = .ok (base ++ relative, .file content)
  directories : ∀ relative, relative ≠ [] → ¬ base <+: root ++ relative →
    tree.get? (root ++ relative) = some .directory →
      done.find (output.joinNames relative) = .ok (base ++ relative, .directory)
  /-- All other files are as before. -/
  others : ∀ location, (∀ relative ∈ assets tree root base, location ≠ base ++ relative) →
    ∀ content, done.get? location = some (.file content) ↔
      tree.get? location = some (.file content)
  /-- Copied again, in this or any other order, they stay as they are. -/
  again : Unlocked tree root base → ∀ order,
    pack.copyAssets output (done.inOrder order) = (.ok count, done.inOrder order)
  /-- But an asset that may not be written may not be written over its copy. -/
  refused : ¬ Unlocked tree root base → ∀ order,
    pack.copyAssets output (done.inOrder order) = (.error .permissionDenied, done.inOrder order)

/-- A pack without templates. -/
def plain : Pack :=
  { root := ⟨"pack"⟩, manifest := {}, templates := [] }

/-- A directory in it. -/
def inner : Path :=
  ⟨"pack/export"⟩

/-- The tree of that pack, in which an asset has the name of a page.  Copying to the directory
in it makes up to two more entries. -/
def innerTree (made : Nat) : FileTree :=
  { entries := List.take (5 + made) [(["pack"], .directory), (["pack", "export"], .directory),
    (["pack", "extra"], .directory), (["pack", "extra", "movie.html"], .file (.text "asset")),
    (["pack", "movie.html"], .file (.text "page")), (["pack", "export", "extra"], .directory),
    (["pack", "export", "extra", "movie.html"], .file (.text "asset"))] }

theorem regular_innerTree : (innerTree 0).Regular := by
  apply Regular.of_entries rfl
  simp only [innerTree, Nat.add_zero, List.take_succ_cons, List.take_zero, List.forall_mem_cons]
  refine ⟨?_, ?_, ?_, ?_, ?_, List.forall_mem_nil _⟩
  all_goals exact ⟨by rintro _ ⟨⟩, ⟨by decide, by unfold Proper; decide, by decide⟩, by decide⟩

/-- The walk passes by the output directory and copies what is in the directory beside it, but not
the page. -/
theorem walk_inner : Walk ["pack"] inner (some ["pack", "export"]) []
    ["export", "extra", "movie.html"] (innerTree 0)
    [(["extra"], .directory), (["extra", "movie.html"], .file (.text "asset")),
      (["movie.html"], .file (.text "page"))] (innerTree 2) := by
  have made : copyEntry ["pack"] inner ["extra"] .directory (innerTree 0) =
      (.ok (), innerTree 1) := by cbv
  have housed : makeDirectories (home inner ["extra", "movie.html"]) (innerTree 1) =
      (.ok (), innerTree 1) := by cbv
  have copies : copy (pathOf ((["pack"] : Location) ++ (["extra", "movie.html"] : Location)))
      (inner.joinNames ["extra", "movie.html"]) (innerTree 1) = (.ok (), innerTree 2) := by cbv
  have copied : copyEntry ["pack"] inner ["extra", "movie.html"] (.file (.text "asset"))
      (innerTree 1) = (.ok (), innerTree 2) := by
    rw [copyEntry_of_copied (by decide), inTurn_ok housed, copies]
  have own : copyEntry ["pack"] inner ["movie.html"] (.file (.text "page")) (innerTree 2) =
      (.ok (), innerTree 2) :=
    congrFun (copyEntry_of_own (by decide) (by decide)) _
  have read : (innerTree 0).reading ["pack", "extra"] = (["movie.html"] : Location) := by cbv
  have inside : Walk ["pack"] inner (some ["pack", "export"]) ["extra"]
      ((innerTree 0).reading ["pack", "extra"]) (innerTree 1)
      [(["extra", "movie.html"], .file (.text "asset"))] (innerTree 2) := by
    rw [read]
    exact .file (by decide) rfl (by decide) copied .nil
  have behind : Walk ["pack"] inner (some ["pack", "export"]) [] ["movie.html"] (innerTree 2)
      [(["movie.html"], .file (.text "page"))] (innerTree 2) :=
    .file (by decide) rfl (by decide) own .nil
  exact .pass (.inl rfl) (.directory (by decide) rfl made inside behind)

theorem copyAssets_inner : copyAssets plain inner (innerTree 0) = (.ok 1, innerTree 2) := by
  have located : (innerTree 0).canonical plain.root = .ok ["pack"] := by cbv
  have target : (innerTree 0).canonical inner = .ok ["pack", "export"] := by cbv
  have read : (innerTree 0).reading ["pack"] =
      (["export", "extra", "movie.html"] : Location) := by cbv
  have walk := walk_inner
  rw [← read] at walk
  exact copyAssets_of_walk located target walk (by decide)

end Pack
end MediaSite
