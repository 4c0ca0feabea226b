import MediaSite.Proofs.Export.Walking
import MediaSite.Site.Export

namespace MediaSite

/-!
# Setting up the output

Before its first task a run makes the output directory and copies the assets of its
pack.  This changes the files at the targets of the assets, and what is at these
afterwards is a file each.
-/

open scoped Text

variable {σ : Type}

namespace Pack

/-- The targets of the assets among some entries of a pack. -/
def targets (output : Path) (entries : List (Location × Entry)) : List Path :=
  (entries.filter isCopied).map fun item => output.joinNames item.1

/-- The targets of the assets that are copied from a pack: of those that the walk comes to. -/
def assetTargets (pack : Pack) (output : Path) (tree : FileTree) : List Path :=
  match (pack.copyTree output tree).1 with
  | .error _ => []
  | .ok walked => targets output walked

theorem copyTree_ok {pack : Pack} {output : Path} {tree done : FileTree}
    {walked : List (Location × Entry)} (run : pack.copyTree output tree = (.ok walked, done)) :
    ∃ root, tree.canonical pack.root = .ok root ∧ Walk root output
      (tree.canonical output).toOption [] (tree.reading root) tree walked done := by
  unfold copyTree at run
  split at run
  · cases run
  · rename_i root located
    exact ⟨root, located, walk_of_copyBelow run⟩

theorem copyAssets_ok {pack : Pack} {output : Path} {tree done : FileTree} {count : Nat}
    (run : pack.copyAssets output tree = (.ok count, done)) :
    ∃ walked, pack.copyTree output tree = (.ok walked, done) ∧ count = walked.countP isCopied := by
  rcases FileTree.inTurn_eq_ok_iff.mp run with ⟨walked, _, walk, counted⟩
  cases counted
  exact ⟨walked, walk, rfl⟩

/-- A walk through the whole of a pack copies its assets. -/
theorem copyAssets_of_walk {pack : Pack} {output : Path} {tree done : FileTree}
    {root base : Location} {walked : List (Location × Entry)}
    (located : tree.canonical pack.root = .ok root) (target : tree.canonical output = .ok base)
    (walk : Walk root output (some base) [] (tree.reading root) tree walked done)
    (near : ∀ item ∈ walked, item.1.length ≤ FileTree.pathLimit) :
    pack.copyAssets output tree = (.ok (walked.countP isCopied), done) := by
  have within : ∀ item ∈ walked, item.1.length ≤ ([] : Location).length + FileTree.pathLimit := by
    rw [List.length_nil, Nat.zero_add]
    exact near
  have run := copyBelow_of_walk walk within
  have copied : pack.copyTree output tree = (.ok walked, done) := by
    rw [copyTree, located, target]
    exact run
  rw [copyAssets, FileTree.inTurn_ok copied]
  rfl

theorem copyAssets_snd (pack : Pack) (output : Path) (tree : FileTree) :
    (pack.copyAssets output tree).2 = (pack.copyTree output tree).2 := by
  unfold copyAssets FileTree.inTurn
  rcases pack.copyTree output tree with ⟨problem | walked, done⟩ <;> rfl

/-- What all operations keep is kept by copying the assets. -/
theorem copyAssets_preserves {P : FileTree → Prop} {pack : Pack} {output : Path} {tree : FileTree}
    (kept : FileTree.Kept P) (start : P tree) : P (pack.copyAssets output tree).2 := by
  rw [copyAssets_snd]
  unfold copyTree
  split
  · exact start
  · exact copyBelow_preserves (fun _ _ _ copied _ => copyEntry_preserves kept copied) _ _
      (fun _ _ => not_inOutput_nil) start

/-- Files were written at these targets, at each of them, and nowhere else. -/
structure Copied (before after : FileTree) (targets : List Path)
    (writes : List (Location × Content)) : Prop where
  changes : FileTree.Changes before after writes
  each : ∀ target ∈ targets, ∃ location content, after.find target = .ok (location, .file content)
  nothingElse : ∀ item ∈ writes, ∃ target ∈ targets, ∃ content,
    after.find target = .ok (item.1, .file content)

namespace Copied

variable {before middle after : FileTree} {targets : List Path}
variable {first writes : List (Location × Content)}

theorem refl (tree : FileTree) : Copied tree tree [] [] :=
  ⟨FileTree.Changes.refl tree, nofun, nofun⟩

theorem of_changes (changes : FileTree.Changes before middle [])
    (rest : Copied middle after targets writes) : Copied before after targets writes :=
  ⟨changes.trans rest.changes, rest.each, rest.nothingElse⟩

/-- A file that is written before others can be found afterwards. -/
theorem cons {target : Path} {location : Location} {content : Content}
    (changes : FileTree.Changes before middle first)
    (found : middle.find target = .ok (location, .file content))
    (there : ∀ item ∈ first, item.1 = location) (rest : Copied middle after targets writes) :
    Copied before after (target :: targets) (first ++ writes) := by
  rcases rest.changes.find_file found with ⟨kept, stays⟩
  refine ⟨changes.trans rest.changes, ?_, fun item member => ?_⟩
  · exact List.forall_mem_cons.mpr ⟨⟨location, kept, stays⟩, rest.each⟩
  · rcases List.mem_append.mp member with own | others
    · exact ⟨target, List.mem_cons_self, kept, (there item own).symm ▸ stays⟩
    · rcases rest.nothingElse item others with ⟨other, isTarget, named⟩
      exact ⟨other, List.mem_cons_of_mem _ isTarget, named⟩

end Copied

theorem copied_of_copyEntries {root : Location} {output : Path} {entries : List (Location × Entry)}
    {tree done : FileTree} (run : copyEntries root output entries tree = (.ok (), done)) :
    ∃ writes, Copied tree done (targets output entries) writes := by
  induction entries generalizing tree with
  | nil =>
      cases run
      exact ⟨[], Copied.refl _⟩
  | cons item rest inductionHypothesis =>
      rcases item with ⟨relative, entry⟩
      rcases FileTree.inTurn_eq_ok_iff.mp run with ⟨_, middle, first, later⟩
      rcases inductionHypothesis later with ⟨writes, others⟩
      by_cases copied : isCopied (relative, entry) = true
      · rcases copyEntry_ok copied first with ⟨location, content, found, changes⟩
        rw [targets, List.filter_cons_of_pos copied, List.map_cons]
        exact ⟨_, Copied.cons changes found (List.forall_mem_singleton.mpr rfl) others⟩
      · rw [targets, List.filter_cons_of_neg copied]
        exact ⟨writes, others.of_changes (changes_of_not_copied copied first)⟩

end Pack

/-- When the output is set up its directory is there, and the assets of the pack have been
copied to their targets. -/
theorem Exporter.setUp_ok {job : ExportJob σ} {tree files : FileTree} {count : Nat}
    (ready : setUp job tree = (.ok count, files)) :
    let targets := job.pack.assetTargets job.root (FileTree.makeDirectories job.root tree).2
    (∃ base, files.Rooted job.root base) ∧ (∃ writes, Pack.Copied tree files targets writes) ∧
      count = targets.length := by
  unfold setUp at ready
  split at ready
  · cases ready
  · rename_i middle made
    split at ready
    · cases ready
    · rename_i number later copied
      cases ready
      have first := FileTree.changes_makeDirectories job.root tree
      rw [made] at first ⊢
      rcases Pack.copyAssets_ok copied with ⟨walked, run, total⟩
      rcases Pack.copyTree_ok run with ⟨root, _, walk⟩
      rcases Pack.copied_of_copyEntries walk.copyEntries with ⟨writes, done⟩
      have targets : job.pack.assetTargets job.root middle = Pack.targets job.root walked := by
        rw [Pack.assetTargets, run]
      rw [targets]
      rcases FileTree.rooted_of_makeDirectories made with ⟨base, rooted⟩
      refine ⟨⟨base, rooted.of_changes done.changes⟩, ⟨writes, done.of_changes first⟩, ?_⟩
      rw [total, Pack.targets, List.length_map, List.countP_eq_length_filter]

end MediaSite
