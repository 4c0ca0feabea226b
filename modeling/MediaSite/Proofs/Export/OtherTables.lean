import MediaSite.Proofs.Export.Repetition
import MediaSite.Proofs.Files.Shapes

namespace MediaSite

/-!
# Runs with other tables

The image tokens of a page are replaced in the order in which a table gives them, and this order
is another one in each run.  Where all that is rendered comes out the same with other tables
(`ExportJob.SamePages`), so does the whole run (`Exporter.run_seen_withTables`).

Pages may come out differently, if the text of one token is part of another's.  Nothing
else does then, as long as there is room for everything: the run tells the same, and leaves a tree
of the same shape (`Exporter.run_outline_withTables`).
-/

open scoped Text
open FileTree

variable {σ : Type} {job : ExportJob σ} {tables : PageTables}

/-- Tables that give their entries backwards. -/
@[reducible]
def PageTables.reversed : PageTables :=
  ⟨fun _ _ _ => ⟨fun _ _ => ⟨List.reverse, List.reverse_perm⟩⟩⟩

/-- The same job with other tables. -/
def ExportJob.withTables (job : ExportJob σ) (tables : PageTables) : ExportJob σ :=
  { job with tables }

@[simp]
theorem ExportJob.withTables_library : (job.withTables tables).library = job.library := rfl

@[simp]
theorem ExportJob.withTables_pack : (job.withTables tables).pack = job.pack := rfl

@[simp]
theorem ExportJob.withTables_root : (job.withTables tables).root = job.root := rfl

/-- With other tables, every page and every entry in a list page comes out the same. -/
def ExportJob.SamePages (job : ExportJob σ) (tables : PageTables) (sections : List Section) :
    Prop :=
  ∀ part entity, .page part entity ∈ job.library.plan sections → ∀ workspace,
    ((job.withTables tables).draw .item (job.pageTemplate part entity) entity workspace).1 =
        (job.draw .item (job.pageTemplate part entity) entity workspace).1 ∧
      ((job.withTables tables).drawEntry (job.entryBlock part entity) entity workspace).1 =
        (job.drawEntry (job.entryBlock part entity) entity workspace).1

theorem Task.told_withTables (count : Nat) (fault : Option FileError) (task : Task) :
    task.told (job.withTables tables) count fault = task.told job count fault := rfl

theorem Exporter.setUp_withTables (files : FileTree) :
    setUp (job.withTables tables) files = setUp job files := rfl

/-- What cannot be set up fails for the same reason with other tables. -/
theorem Exporter.run_failed_withTables {watch : Watcher} {sections : List Section}
    {exporter : Exporter} {workspace : Workspace σ} {error : ExportError}
    (failed : (run job watch sections exporter workspace).outcome = .error error) :
    run (job.withTables tables) watch sections exporter workspace =
      run job watch sections exporter workspace := by
  unfold run at failed ⊢
  rw [setUp_withTables]
  split
  · rfl
  · rename_i ready
    rw [ready] at failed
    simp only at failed
    split at failed <;> cases failed

/-! ## The same pages -/

section SamePages

variable {sections : List Section} (same : job.SamePages tables sections)

include same

theorem text_withTables {task : Task} (planned : task ∈ job.library.plan sections)
    (desk : Desk σ) : task.text (job.withTables tables) desk = task.text job desk := by
  cases task with
  | opening part => rfl
  | page part entity => exact (same part entity planned desk.workspace).1
  | list part => rfl

theorem onFiles_withTables {task : Task} (planned : task ∈ job.library.plan sections)
    (desk : Desk σ) : task.onFiles (job.withTables tables) desk = task.onFiles job desk := by
  funext files
  unfold Task.onFiles
  rw [text_withTables same planned]
  rfl

variable (steady : job.resolve.Steady)

include steady

theorem entries_withTables {task : Task} (planned : task ∈ job.library.plan sections)
    (desk : Desk σ) :
    (task.perform (job.withTables tables) desk).2.entries = (task.perform job desk).2.entries := by
  cases task with
  | opening part => rfl
  | list part => rfl
  | page part entity =>
      have others : (job.withTables tables).resolve.Steady := steady
      rw [entries_perform_page steady, entries_perform_page others]
      exact congrArg (Function.update desk.entries part <| desk.entries part ++ ·)
        (same part entity planned desk.workspace).2

theorem Desk.Alike.perform_withTables {task : Task} (planned : task ∈ job.library.plan sections)
    {first second : Desk σ} (alike : first.Alike second) :
    (task.perform (job.withTables tables) first).1 = (task.perform job second).1 ∧
      (task.perform (job.withTables tables) first).2.Alike (task.perform job second).2 := by
  have others : (job.withTables tables).resolve.Steady := steady
  have left := perform_onFiles others task first
  rw [onFiles_withTables same planned, ← perform_onFiles steady task first] at left
  rcases Prod.mk.inj left with ⟨fault, files⟩
  rcases alike.perform steady task with ⟨same_, after⟩
  exact ⟨fault.trans same_, files.trans after.files,
    (entries_withTables same steady planned first).trans after.entries⟩

theorem Exporter.runOn_withTables (watch : Watcher) (desk : Desk σ) :
    runOn (job.withTables tables) watch sections desk = runOn job watch sections desk := by
  have conducted : conductOn (job.withTables tables) watch (job.library.plan sections) desk [] =
      conductOn job watch (job.library.plan sections) desk [] := by
    funext files
    have leg := conduct_in_step
      (fun task planned first second alike =>
        Desk.Alike.perform_withTables same steady planned alike)
      Task.told_withTables watch (⟨rfl, rfl⟩ : (desk.withFiles files).Alike _) []
    rw [conductOn, conductOn, leg.finished, leg.events, leg.desk.files]
  simp only [runOn, ExportJob.withTables_library, ExportJob.withTables_pack,
    ExportJob.withTables_root, conducted]

/-- Where the pages come out the same with other tables, the run does. -/
theorem Exporter.run_seen_withTables (watch : Watcher) (exporter : Exporter)
    (workspace : Workspace σ) :
    (run (job.withTables tables) watch sections exporter workspace).seen =
      (run job watch sections exporter workspace).seen := by
  rcases made : makeDirectories job.root workspace.files with ⟨problem | ⟨⟩, files⟩
  · rw [run_of_unmade job made, run_of_unmade (job.withTables tables) made]
  · rw [run_of_made job made, run_of_made (job.withTables tables) made,
      runOn_withTables same steady]

end SamePages

/-! ## Other pages -/

/-- A report without what is held by the files that were left behind. -/
def RunReport.outline (report : RunReport σ) : RunReport Unit :=
  { report with workspace := ⟨report.workspace.files.emptied, ()⟩ }

theorem ExportJob.makeDirectories_emptied (kinds : List Kind) (files : FileTree) :
    job.makeDirectories kinds files.emptied = (job.makeDirectories kinds files).emptied := by
  unfold ExportJob.makeDirectories
  induction kinds generalizing files with
  | nil => rfl
  | cons kind kinds inductionHypothesis =>
      rw [List.foldl_cons, List.foldl_cons, ← inductionHypothesis]
      congr 1
      cases kind.pageDirectory? with
      | none => rfl
      | some directory => exact congrArg Prod.snd (makeLineage_emptied _)

/-- What a task comes to, and the shape of the tree that it leaves, do not depend on what it
writes. -/
theorem outline_onFiles (job : ExportJob σ) (tables : PageTables) {files others : FileTree}
    (shape : files.emptied = others.emptied)
    (roomy : files.medium.full = []) (task : Task) (desk other : Desk σ) :
    FileTree.outline (task.onFiles (job.withTables tables) desk files) =
      FileTree.outline (task.onFiles job other others) := by
  have roomyOthers : others.medium.full = [] := by
    rw [← roomy]
    exact congrArg (·.medium.full) shape.symm
  unfold Task.onFiles
  cases task.place? with
  | some place =>
      have left := write_emptied roomy (job.root.joinNames place)
        (.text (task.text (job.withTables tables) desk))
      have right := write_emptied roomyOthers (job.root.joinNames place)
        (.text (task.text job other))
      rw [shape, right] at left
      exact congrArg (fun result => (failure? result.1, result.2)) left.symm
  | none =>
      cases task with
      | opening part =>
          have left := job.makeDirectories_emptied part.pageKinds files
          have right := job.makeDirectories_emptied part.pageKinds others
          exact congrArg (Prod.mk none) (left.symm.trans ((congrArg _ shape).trans right))
      | page part entity => exact congrArg (Prod.mk none) shape
      | list part => exact congrArg (Prod.mk none) shape

theorem full_onFiles (task : Task) (desk : Desk σ) (files : FileTree) :
    (task.onFiles job desk files).2.medium.full = files.medium.full := by
  unfold Task.onFiles
  cases task.place? with
  | some place => exact congrArg Medium.full (write_medium _ _ files)
  | none =>
      cases task with
      | opening part => exact (job.changes_makeDirectories part.pageKinds files).full
      | page part entity => rfl
      | list part => rfl

/-- The same but for what files hold, with room for everything. -/
structure Desk.SameShape (first second : Desk σ) : Prop where
  shape : first.workspace.files.emptied = second.workspace.files.emptied
  roomy : first.workspace.files.medium.full = []

theorem Exporter.outline_reportOn (watch : Watcher)
    (result : Except FileError (Nat × Bool × List ExportEvent) × FileTree) :
    (reportOn watch result).outline = reportOn watch (FileTree.outline result) := by
  rcases result with ⟨problem | ⟨copied, finished, events⟩, files⟩ <;> rfl

section Roomy

variable (steady : job.resolve.Steady)

include steady

theorem Desk.SameShape.perform_withTables (tables : PageTables) {first second : Desk σ}
    (same : first.SameShape second) (task : Task) :
    (task.perform (job.withTables tables) first).1 = (task.perform job second).1 ∧
      (task.perform (job.withTables tables) first).2.SameShape (task.perform job second).2 := by
  have others : (job.withTables tables).resolve.Steady := steady
  have left := perform_onFiles others task first
  have right := perform_onFiles steady task second
  have outlines := outline_onFiles job tables same.shape same.roomy task first second
  rw [← left, ← right] at outlines
  rcases Prod.mk.inj outlines with ⟨fault, shape⟩
  refine ⟨fault, shape, ?_⟩
  rw [show (task.perform (job.withTables tables) first).2.workspace.files = _ from
    congrArg Prod.snd left, full_onFiles]
  exact same.roomy

theorem Exporter.outline_runOn (tables : PageTables) (watch : Watcher) (sections : List Section)
    (desk : Desk σ) {files : FileTree} (roomy : files.medium.full = []) :
    FileTree.outline (runOn (job.withTables tables) watch sections desk files) =
      FileTree.outline (runOn job watch sections desk files) := by
  have room : (job.pack.copyAssets job.root files).2.medium.full = [] :=
    Pack.copyAssets_preserves kept_roomy roomy
  simp only [runOn, inTurn, ExportJob.withTables_library, ExportJob.withTables_pack,
    ExportJob.withTables_root]
  rcases copies : job.pack.copyAssets job.root files with ⟨problem | copied, middle⟩
  · rfl
  · rw [copies] at room
    have start : (desk.withFiles middle).SameShape (desk.withFiles middle) := ⟨rfl, room⟩
    have leg := conduct_in_step (fun task (_ : task ∈ job.library.plan sections) _ _ same =>
      same.perform_withTables steady tables task) Task.told_withTables watch start []
    simp only [conductOn, leg.finished, leg.events, FileTree.outline, leg.desk.shape]

/-- Where there is room for everything, a run comes to the same with other tables, and leaves a
tree of the same shape. -/
theorem Exporter.run_outline_withTables (watch : Watcher) (sections : List Section)
    (exporter : Exporter) {workspace : Workspace σ} (roomy : workspace.files.medium.full = []) :
    (run (job.withTables tables) watch sections exporter workspace).outline =
      (run job watch sections exporter workspace).outline := by
  change RunReport.outline (RunReport.seen _) = RunReport.outline (RunReport.seen _)
  rcases made : makeDirectories job.root workspace.files with ⟨problem | ⟨⟩, files⟩
  · rw [run_of_unmade job made, run_of_unmade (job.withTables tables) made]
  · have changes := changes_makeDirectories job.root workspace.files
    rw [made] at changes
    have outlines := outline_runOn steady tables watch sections ⟨workspace, fun _ => []⟩
      (changes.full.trans roomy)
    rw [run_of_made job made, run_of_made (job.withTables tables) made, outline_reportOn,
      outline_reportOn, outlines]

end Roomy

end MediaSite
