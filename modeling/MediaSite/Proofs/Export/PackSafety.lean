import MediaSite.Proofs.Export.ExactCopies

namespace MediaSite

/-!
# What copying does to the pack

The output directory is left out of what is copied where it stands inside of the pack, so that
nothing is copied over the pack's files.  It is not looked for where it is the directory of the
pack itself, or one above it.  Then an asset can be copied onto a file of the pack: onto itself,
which empties it, or from a directory further down.  What is copied there may have been copied
before, from further down still, if the walk comes to it.

`Pack.copyAssets_unharmed` says when this does no harm, whatever comes of it, and what each
file of the pack must have held if it succeeded and did none.
-/

open scoped Text

namespace Pack

open FileTree

variable {tree middle done : FileTree} {pack : Pack} {output : Path}
  {root base inside relative : Location} {entry : Entry} {walked : List (Location × Entry)}
  {outcome : Except FileError Nat}

/-- The files of a pack are as they were, other than those in an output directory inside. -/
def Unharmed (root base : Location) (before after : FileTree) : Prop :=
  ∀ relative content, before.get? (root ++ relative) = some (.file content) →
    ¬ InOutput root base relative → after.get? (root ++ relative) = some (.file content)

/-- The place that is so many times further down in a pack which stands inside of the output
directory.  A copy comes from one time further down. -/
def further (inside : Location) : Nat → Location → Location
  | 0, relative => relative
  | times + 1, relative => further inside times (inside ++ relative)

theorem further_nil (times : Nat) (relative : Location) : further [] times relative = relative := by
  induction times with
  | zero => rfl
  | succ times inductionHypothesis => exact inductionHypothesis

/-- Nothing further down can come to be copied onto a file of the pack. -/
def Clear (tree : FileTree) (root inside : Location) : Prop :=
  ∀ relative old new times, isAsset (inside ++ relative) = true →
    tree.get? (root ++ relative) = some (.file old) →
      tree.get? (root ++ further inside (times + 1) relative) ≠ some (.file new)

/-- What can come to be copied onto a file of the pack from so many times further down, or from
the file itself, is what the file holds. -/
def Agrees (tree : FileTree) (root inside : Location) (times : Nat) : Prop :=
  ∀ relative old new, isAsset (inside ++ relative) = true →
    tree.get? (root ++ relative) = some (.file old) →
      tree.get? (root ++ further inside times relative) = some (.file new) →
        old = if inside = [] then .text [] else new

/-- Every asset of a pack is empty. -/
def Hollow (tree : FileTree) (root : Location) : Prop :=
  ∀ relative content, isAsset relative = true →
    tree.get? (root ++ relative) = some (.file content) → content = .text []

theorem agrees_nil_iff (times : Nat) : Agrees tree root [] times ↔ Hollow tree root := by
  constructor
  · intro agrees relative content asset stands
    exact agrees relative content content asset stands (by rw [further_nil]; exact stands)
  · intro hollow relative old new asset stands _
    exact hollow relative old asset stands

/-! ## No harm -/

/-- A place in the output directory that is one in the pack is that of a copy from further down. -/
theorem eq_of_place {copied : Location} (same : base ++ inside ++ relative = base ++ copied) :
    copied = inside ++ relative := by
  rw [List.append_assoc] at same
  exact (List.append_cancel_left same).symm

/-- What is copied is a file. -/
theorem file_of_isCopied (free : tree.LinkFree) (copied : isCopied (relative, entry) = true)
    (stands : tree.get? (root ++ relative) = some entry) :
    ∃ content, tree.get? (root ++ relative) = some (.file content) := by
  cases entry with
  | file content => exact ⟨content, stands⟩
  | directory => exact absurd rfl (isCopied_iff.mp copied).1
  | link target => exact absurd stands (free _ _)

theorem downward_of_place {left : Option Location} (regular : tree.Regular)
    (place : Place root left tree relative entry) :
    Downward relative ∧ Downward (root ++ relative) := by
  refine downward_of_stands regular place.filled ?_
  rw [place.stands]
  exact Option.some_ne_none _

/-- How far copying has come in a pack that stands inside of the output directory: each file in
the pack comes from a file that was there, and none that was there has changed. -/
structure Safe (tree : FileTree) (output : Path) (base inside : Location) (after : FileTree) :
    Prop where
  regular : after.Regular
  grounded : after.Grounded output base
  origin : ∀ relative content, after.get? (base ++ inside ++ relative) = some (.file content) →
    ∃ times old, tree.get? (base ++ inside ++ further inside times relative) = some (.file old)
  unharmed : Unharmed (base ++ inside) base tree after

/-- One more entry does no harm if nothing further down can be copied onto a file. -/
theorem Safe.copyEntry (clear : Clear tree (base ++ inside) inside) {before : FileTree}
    (safe : Safe tree output base inside before)
    (place : Place (base ++ inside) (some base) before relative entry) :
    Safe tree output base inside
      (copyEntry (base ++ inside) output relative entry before).2 := by
  have downward := (downward_of_place safe.regular place).1
  rcases writes_copyEntry (base ++ inside) entry safe.grounded downward with
    ⟨writes, changes, each⟩
  -- Where a file of the pack is written, it comes from one time further down.
  have source {target : Location} (written : base ++ inside ++ target ∈ writes.map Prod.fst) :
      isAsset (inside ++ target) = true ∧ ∃ times old,
        tree.get? (base ++ inside ++ further inside (times + 1) target) = some (.file old) := by
    rcases List.mem_map.mp written with ⟨write, member, here⟩
    rcases each write member with ⟨copied, there⟩
    cases eq_of_place (here.symm.trans there)
    rcases file_of_isCopied safe.regular.free copied place.stands with ⟨content, stands⟩
    exact ⟨(isCopied_iff.mp copied).2, safe.origin _ content stands⟩
  refine ⟨regular_copyEntry _ _ _ _ safe.regular, safe.grounded.of_changes changes, ?_, ?_⟩
  · intro target content stands
    by_cases written : base ++ inside ++ target ∈ writes.map Prod.fst
    · rcases (source written).2 with ⟨times, old, stood⟩
      exact ⟨times + 1, old, stood⟩
    · exact safe.origin target content ((changes.file_iff written).mp stands)
  · intro target content stood outside
    refine (changes.file_iff fun written => ?_).mpr (safe.unharmed target content stood outside)
    rcases source written with ⟨asset, times, old, below⟩
    exact clear target content old times asset stood below

/-- How far copying has come when it has succeeded so far: each file in the pack holds what one
held that was there, or is empty as it has been copied onto itself. -/
structure Faithful (tree : FileTree) (output : Path) (base inside : Location) (after : FileTree) :
    Prop where
  regular : after.Regular
  grounded : after.Grounded output base
  origin : inside ≠ [] → ∀ relative content,
    after.get? (base ++ inside ++ relative) = some (.file content) →
      ∃ times, tree.get? (base ++ inside ++ further inside times relative) = some (.file content)
  unharmed : Unharmed (base ++ inside) base tree after

theorem pouredFrom_inside (content : Content) : Content.pouredFrom content
    (base ++ inside ++ relative) (base ++ relative) = if inside = [] then .text [] else content := by
  rw [Content.pouredFrom]
  refine if_congr ⟨fun same => ?_, ?_⟩ rfl rfl
  · rw [List.append_assoc] at same
    exact List.append_left_eq_self.mp (List.append_cancel_left same)
  · rintro rfl
    rw [List.append_nil]

/-- One more entry does no harm if everything further down agrees. -/
theorem Faithful.copyEntry (agrees : ∀ times, Agrees tree (base ++ inside) inside (times + 1))
    {before after : FileTree} (faithful : Faithful tree output base inside before)
    (place : Place (base ++ inside) (some base) before relative entry)
    (run : copyEntry (base ++ inside) output relative entry before = (.ok (), after)) :
    Faithful tree output base inside after := by
  have kept : after.Regular := by
    have kept := regular_copyEntry (base ++ inside) output relative entry faithful.regular
    rwa [run] at kept
  by_cases copied : isCopied (relative, entry) = true
  · rcases downward_of_place faithful.regular place with ⟨downward, whole⟩
    have asset := (isCopied_iff.mp copied).2
    rw [copyEntry_of_copied copied, inTurn_eq_ok_iff] at run
    rcases run with ⟨_, ready, made, copies⟩
    have making := changes_makeDirectories (home output relative) before
    rw [made] at making
    rcases (faithful.grounded.of_changes making).copy_names downward whole copies with
      ⟨content, source, opens, _, rfl⟩
    rw [pouredFrom_inside] at kept ⊢
    have changes := making.trans (opens.changes_copied (base ++ inside ++ relative)
      (if inside = [] then .text [] else content))
    rw [List.nil_append] at changes
    have source := (making.file_iff List.not_mem_nil).mp (get?_of_find_file source)
    have there := (changes.files (base ++ relative) _).mpr
      (.inl (by rw [lastWritten_singleton, if_pos rfl]))
    have elsewhere {target : Location} (apart : base ++ inside ++ target ≠ base ++ relative) :
        base ++ inside ++ target ∉ [base ++ relative] := List.mem_singleton.not.mpr apart
    refine ⟨kept, faithful.grounded.of_changes changes, fun strict target held stands => ?_,
      fun target old stood outside => ?_⟩
    · by_cases here : base ++ inside ++ target = base ++ relative
      · rw [here, there, if_neg strict] at stands
        cases stands
        cases eq_of_place here
        rcases faithful.origin strict _ _ source with ⟨times, below⟩
        exact ⟨times + 1, below⟩
      · exact faithful.origin strict target held ((changes.file_iff (elsewhere here)).mp stands)
    · by_cases here : base ++ inside ++ target = base ++ relative
      · rw [here, there]
        cases eq_of_place here
        have same : old = if inside = [] then .text [] else content := by
          by_cases onto : inside = []
          · subst onto
            exact agrees 0 target old old asset stood (by rw [further_nil]; exact stood)
          · rcases faithful.origin onto _ _ source with ⟨times, below⟩
            exact (agrees times target old content asset stood below).trans rfl
        rw [same]
      · exact (changes.file_iff (elsewhere here)).mpr (faithful.unharmed target old stood outside)
  · have changes := changes_of_not_copied copied run
    refine ⟨kept, faithful.grounded.of_changes changes, fun strict target held stands => ?_,
      fun target old stood outside => ?_⟩
    · exact faithful.origin strict target held ((changes.file_iff List.not_mem_nil).mp stands)
    · exact (changes.file_iff List.not_mem_nil).mpr (faithful.unharmed target old stood outside)

/-! ## Harm -/

/-- If all has been copied and no file of the pack has changed, one time further down stands what
the files hold. -/
theorem agrees_of_unharmed (regular : tree.Regular)
    (directory : tree.get? (base ++ inside) = some .directory)
    (grounded : tree.Grounded output base)
    (walk : Walk (base ++ inside) output (some base) [] (tree.reading (base ++ inside)) tree walked
      done) (unharmed : Unharmed (base ++ inside) base tree done) :
    Agrees tree (base ++ inside) inside 1 := by
  intro relative old new asset target source
  have outside (place : Location) : ∀ other ∈ some base, ¬ InOutput (base ++ inside) other place := by
    rintro _ ⟨⟩
    exact not_inOutput_of_above inside place
  have filled : inside ++ relative ≠ [] := by
    rintro empty
    rw [(List.append_eq_nil_iff.mp empty).2, List.append_nil, directory] at target
    cases target
  rcases walk.complete_root regular filled source (outside _) with ⟨found, member, same⟩
  have noDirectory : found ≠ .directory := fun directory => by cases same.mp directory
  have copied : isCopied (inside ++ relative, found) = true :=
    isCopied_iff.mpr ⟨noDirectory, asset⟩
  have downward := walk.downward regular (outside [])
  rcases exists_turn grounded (fun item inWalked => (downward item inWalked).1)
    (walk.nodup (nodup_reading _ _)) walk.copyEntries member copied with
    ⟨middle, after, earlier, later, turn⟩
  rcases downward _ member with ⟨names, whole⟩
  rcases (grounded.of_changes turn.before).copy_names names whole turn.copied with
    ⟨content, held, opens, _, rfl⟩
  rcases turn.carried grounded names whole with ⟨_, again, written⟩
  cases (get?_of_find_file held).symm.trans again
  rw [pouredFrom_inside] at written
  have end_ := get?_of_find_file written
  rw [← List.append_assoc, unharmed _ _ target (outside _ base rfl)] at end_
  rw [Entry.file.inj (Option.some.inj end_)]
  by_cases onto : inside = []
  · rw [if_pos onto, if_pos onto]
  · rw [if_neg onto, if_neg onto]
    -- The source is not written both before and after its turn, and in the end it is as before.
    have still := unharmed _ _ source (outside _ base rfl)
    have different : base ++ inside ++ (inside ++ relative) ≠ base ++ (inside ++ relative) := by
      intro together
      rw [List.append_assoc] at together
      exact onto (List.append_left_eq_self.mp (List.append_cancel_left together))
    have own := opens.changes_copied (base ++ inside ++ (inside ++ relative))
      (Content.pouredFrom content (base ++ inside ++ (inside ++ relative))
        (base ++ (inside ++ relative)))
    have read : middle.get? (base ++ inside ++ (inside ++ relative)) = some (.file new) := by
      by_cases before : base ++ inside ++ (inside ++ relative) ∈ earlier.map Prod.fst
      · have after := (turn.behind.file_iff (turn.once _ (.inl before))).mp still
        exact (own.file_iff (List.mem_singleton.not.mpr different)).mp after
      · exact (turn.before.file_iff before).mpr source
    rw [get?_of_find_file held] at read
    exact Entry.file.inj (Option.some.inj read)

/-- Copying the assets leaves the files of the pack alone if the pack does not stand in the output
directory, and otherwise if nothing further down can come to be copied onto them, whether it fails
or not.  If it succeeds, it is enough that what comes from further down is what the files hold, and
for one time further down this must be so.  When the output directory is that of the pack, all
assets must be empty. -/
theorem copyAssets_unharmed (regular : tree.Regular)
    (isPack : tree.find pack.root = .ok (root, .directory))
    (isOutput : tree.find output = .ok (base, .directory))
    (run : pack.copyAssets output tree = (outcome, done)) :
    (¬ base <+: root → Unharmed root base tree done) ∧
      ∀ inside, root = base ++ inside →
        (Clear tree root inside → Unharmed root base tree done) ∧
        ∀ count, outcome = .ok count →
          ((∀ times, Agrees tree root inside (times + 1)) → Unharmed root base tree done) ∧
          (Unharmed root base tree done → Agrees tree root inside 1) ∧
          (inside = [] → (Unharmed root base tree done ↔ Hollow tree root)) := by
  have grounded : tree.Grounded output base := ⟨regular.free, .inr isOutput⟩
  have filled : output.text ≠ [] := (relative_of_find isOutput).1
  have directory : tree.get? root = some .directory := regular.get?_of_find_directory isPack
  have located : tree.canonical pack.root = .ok root := canonical_eq_ok_iff.mpr ⟨_, isPack⟩
  have target : tree.canonical output = .ok base := canonical_eq_ok_iff.mpr ⟨_, isOutput⟩
  have left : (copyBelow root output (some base) (pathLimit + 1) [] (tree.reading root) tree).2 =
      done := by
    have left := copyAssets_snd pack output tree
    rw [run, copyTree, located, target] at left
    exact left.symm
  refine ⟨fun apart relative content stood outside => ?_, ?_⟩
  · have same := outside_copyBelow (tree.reading root) filled regular grounded (pathLimit + 1)
      (root_not_inOutput root base)
    rw [left] at same
    exact (get?_of_outside same (mt (inOutput_iff apart).mpr outside)).trans stood
  · rintro inside rfl
    have start : Unharmed (base ++ inside) base tree tree := fun _ _ stood _ => stood
    refine ⟨fun clear => ?_, fun count success => ?_⟩
    · have begun : Safe tree output base inside tree :=
        ⟨regular, grounded, fun relative content stood => ⟨0, content, stood⟩, start⟩
      have safe := copyBelow_preserves
        (fun _ _ _ safe place => Safe.copyEntry clear safe place) (tree.reading (base ++ inside))
        (pathLimit + 1) (root_not_inOutput _ base) begun
      rw [left] at safe
      exact safe.unharmed
    · subst success
      rcases copyAssets_ok run with ⟨walked, walking, _⟩
      rcases copyTree_ok walking with ⟨_, same, walk⟩
      cases located.symm.trans same
      rw [target] at walk
      have enough (agrees : ∀ times, Agrees tree (base ++ inside) inside (times + 1)) :
          Unharmed (base ++ inside) base tree done := by
        have begun : Faithful tree output base inside tree :=
          ⟨regular, grounded, fun _ relative content stood => ⟨0, stood⟩, start⟩
        exact (walk.preserves (fun _ _ _ _ faithful => Faithful.copyEntry agrees faithful)
          (root_not_inOutput _ base) begun).unharmed
      have needed := agrees_of_unharmed regular directory grounded walk
      refine ⟨enough, needed, ?_⟩
      rintro rfl
      exact ⟨fun unharmed => (agrees_nil_iff 1).mp (needed unharmed),
        fun hollow => enough fun times => (agrees_nil_iff (times + 1)).mpr hollow⟩

/-! ## A pack in its output directory -/

/-- A pack that stands in the output directory. -/
def outer : Pack :=
  { root := ⟨"site/pack"⟩, manifest := {}, templates := [] }

/-- The tree of that pack, in which one asset is copied onto another. -/
def outerTree (held : Text) (more : List (Location × Entry)) : FileTree :=
  { entries := (["site"], .directory) :: (["site", "pack"], .directory) ::
    (["site", "pack", "a.css"], .file (.text held)) :: (["site", "pack", "pack"], .directory) ::
    (["site", "pack", "pack", "a.css"], .file (.text "new")) :: more }

theorem regular_outerTree : (outerTree "old" []).Regular := by
  apply Regular.of_entries rfl
  simp only [outerTree, List.forall_mem_cons]
  refine ⟨?_, ?_, ?_, ?_, ?_, List.forall_mem_nil _⟩
  all_goals exact ⟨by rintro _ ⟨⟩, ⟨by decide, by unfold Proper; decide, by decide⟩, by decide⟩

theorem copyAssets_outer : copyAssets outer ⟨"site"⟩ (outerTree "old" []) =
    (.ok 2, outerTree "new" [(["site", "a.css"], .file (.text "old"))]) := by
  let copied : List (Location × Entry) := [(["site", "a.css"], .file (.text "old"))]
  have located : (outerTree "old" []).canonical outer.root = .ok ["site", "pack"] := by cbv
  have target : (outerTree "old" []).canonical ⟨"site"⟩ = .ok ["site"] := by cbv
  have read : (outerTree "old" []).reading ["site", "pack"] = (["a.css", "pack"] : Location) := by
    cbv
  have housed : makeDirectories (home ⟨"site"⟩ ["a.css"]) (outerTree "old" []) =
      (.ok (), outerTree "old" []) := by cbv
  have upper : copy (pathOf ((["site", "pack"] : Location) ++ (["a.css"] : Location)))
      (Path.joinNames ⟨"site"⟩ ["a.css"]) (outerTree "old" []) =
        (.ok (), outerTree "old" copied) := by cbv
  have first : copyEntry ["site", "pack"] ⟨"site"⟩ ["a.css"] (.file (.text "old"))
      (outerTree "old" []) = (.ok (), outerTree "old" copied) := by
    rw [copyEntry_of_copied (by decide), inTurn_ok housed, upper]
  have made : copyEntry ["site", "pack"] ⟨"site"⟩ ["pack"] .directory (outerTree "old" copied) =
      (.ok (), outerTree "old" copied) := by cbv
  have readInside : (outerTree "old" copied).reading ["site", "pack", "pack"] =
      (["a.css"] : Location) := by cbv
  have housedInside : makeDirectories (home ⟨"site"⟩ ["pack", "a.css"]) (outerTree "old" copied) =
      (.ok (), outerTree "old" copied) := by cbv
  have lower : copy (pathOf ((["site", "pack"] : Location) ++ (["pack", "a.css"] : Location)))
      (Path.joinNames ⟨"site"⟩ ["pack", "a.css"]) (outerTree "old" copied) =
        (.ok (), outerTree "new" copied) := by cbv
  have second : copyEntry ["site", "pack"] ⟨"site"⟩ ["pack", "a.css"] (.file (.text "new"))
      (outerTree "old" copied) = (.ok (), outerTree "new" copied) := by
    rw [copyEntry_of_copied (by decide), inTurn_ok housedInside, lower]
  have within : Walk ["site", "pack"] ⟨"site"⟩ (some ["site"]) ["pack"]
      ((outerTree "old" copied).reading ["site", "pack", "pack"]) (outerTree "old" copied)
      [(["pack", "a.css"], .file (.text "new"))] (outerTree "new" copied) := by
    rw [readInside]
    exact .file (by decide) rfl (by decide) second .nil
  have visited : some (["site"] : Location) ≠
      some ((["site", "pack"] : Location) ++ (([] : Location) ++ (["pack"] : Location))) := by decide
  have behind : Walk ["site", "pack"] ⟨"site"⟩ (some ["site"]) [] ["pack"] (outerTree "old" copied)
      [(["pack"], .directory), (["pack", "a.css"], .file (.text "new"))] (outerTree "new" copied) :=
    .directory visited rfl made within .nil
  have walk : Walk ["site", "pack"] ⟨"site"⟩ (some ["site"]) []
      ((outerTree "old" []).reading ["site", "pack"]) (outerTree "old" [])
      [(["a.css"], .file (.text "old")), (["pack"], .directory),
        (["pack", "a.css"], .file (.text "new"))] (outerTree "new" copied) := by
    rw [read]
    exact .file (by decide) rfl (by decide) first behind
  exact copyAssets_of_walk located target walk (by decide)

/-- The asset further down is not what is held further up, so harm is done. -/
theorem copyAssets_outer_harms : ¬ Unharmed ["site", "pack"] ["site"] (outerTree "old" [])
    (outerTree "new" [(["site", "a.css"], .file (.text "old"))]) := by
  have isPack : (outerTree "old" []).find outer.root = .ok (["site", "pack"], .directory) := by cbv
  have isOutput : (outerTree "old" []).find ⟨"site"⟩ = .ok (["site"], .directory) := by cbv
  have within := (copyAssets_unharmed regular_outerTree isPack isOutput copyAssets_outer).2
    ["pack"] rfl
  intro unharmed
  have same := (within.2 2 rfl).2.1 unharmed ["a.css"] (.text "old") (.text "new") (by decide)
    (by cbv) (by cbv)
  exact absurd same (by decide)

/-! ## A pack that is its output directory -/

/-- The tree of a pack with one asset. -/
def assetTree (held : Text) : FileTree :=
  { entries := [(["pack"], .directory), (["pack", "x.css"], .file (.text held))] }

/-- An asset that is copied onto itself is emptied, and copying succeeds. -/
theorem copyAssets_onto_itself :
    (assetTree "body").Regular ∧
      copyAssets plain ⟨"pack"⟩ (assetTree "body") = (.ok 1, assetTree []) ∧
      ¬ Unharmed ["pack"] ["pack"] (assetTree "body") (assetTree []) := by
  have located : (assetTree "body").canonical plain.root = .ok ["pack"] := by cbv
  have read : (assetTree "body").reading ["pack"] = (["x.css"] : Location) := by cbv
  have housed : makeDirectories (home ⟨"pack"⟩ ["x.css"]) (assetTree "body") =
      (.ok (), assetTree "body") := by cbv
  have emptied : copy (pathOf ((["pack"] : Location) ++ (["x.css"] : Location)))
      (Path.joinNames ⟨"pack"⟩ ["x.css"]) (assetTree "body") = (.ok (), assetTree []) := by cbv
  have copied : copyEntry ["pack"] ⟨"pack"⟩ ["x.css"] (.file (.text "body")) (assetTree "body") =
      (.ok (), assetTree []) := by
    rw [copyEntry_of_copied (by decide), inTurn_ok housed, emptied]
  have walk : Walk ["pack"] ⟨"pack"⟩ (some ["pack"]) [] ((assetTree "body").reading ["pack"])
      (assetTree "body") [(["x.css"], .file (.text "body"))] (assetTree []) := by
    rw [read]
    exact .file (by decide) rfl (by decide) copied .nil
  refine ⟨?_, copyAssets_of_walk located located walk (by decide), ?_⟩
  · apply Regular.of_entries rfl
    simp only [assetTree, List.forall_mem_cons]
    refine ⟨?_, ?_, List.forall_mem_nil _⟩
    all_goals exact ⟨by rintro _ ⟨⟩, ⟨by decide, by unfold Proper; decide, by decide⟩, by decide⟩
  · intro unharmed
    have kept := unharmed ["x.css"] (.text "body") (by cbv) fun inside => inside.1.2 rfl
    cases kept

end Pack
end MediaSite
