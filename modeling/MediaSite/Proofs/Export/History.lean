import MediaSite.Proofs.Export.LateRequests
import MediaSite.Proofs.Export.OtherTables

namespace MediaSite

/-!
# Exporters with a history

An exporter outlives its runs.  Whatever was asked of it before, the next run is that of a
new exporter in the same tree (`Exporter.run_seen_of_files`), and it is not left running by
any of the operations.

A run leaves behind a tree in which it can be done again, unless there are assets that may not
be written: it comes to the same, and it does not change the tree any more
(`Exporter.run_again`).  Only where the output directory cannot be made does the second failure
tell something else, if the path to it goes up again from a directory that the first run has
made on the way.  With other tables the second run may write other pages, but if there is room
for all of them it does not differ in anything else (`Exporter.run_again_withTables`).
-/

open scoped Text
open FileTree

variable {σ : Type}

/-! ## Operations -/

/-- What can be asked of an exporter between two runs, and a run itself. -/
inductive Operation (σ : Type) where
  | cancel
  | reset
  | run (job : ExportJob σ) (watch : Watcher) (sections : List Section)

/-- An exporter and what it works on. -/
structure Session (σ : Type) where
  exporter : Exporter
  workspace : Workspace σ

namespace Session

def perform (session : Session σ) : Operation σ → Session σ
  | .cancel => { session with exporter := session.exporter.cancel }
  | .reset => { session with exporter := session.exporter.reset }
  | .run job watch sections =>
    let report := Exporter.run job watch sections session.exporter session.workspace
    ⟨report.exporter, report.workspace⟩

/-- A new exporter after a history of operations. -/
def after (workspace : Workspace σ) (history : List (Operation σ)) : Session σ :=
  history.foldl perform ⟨{}, workspace⟩

end Session

namespace Exporter

/-- A run ends completed or cancelled, or it has not begun. -/
theorem state_run (job : ExportJob σ) (watch : Watcher) (sections : List Section)
    (exporter : Exporter) (workspace : Workspace σ) :
    (run job watch sections exporter workspace).exporter.state ≠ .running := by
  unfold run
  split
  · nofun
  · split <;> nofun

end Exporter

namespace Session

theorem state_perform {session : Session σ} (idle : session.exporter.state ≠ .running)
    (operation : Operation σ) : (session.perform operation).exporter.state ≠ .running := by
  cases operation with
  | cancel => exact idle
  | reset => nofun
  | run job watch sections => exact Exporter.state_run job watch sections _ _

/-- Between operations no exporter is running. -/
theorem state_after (workspace : Workspace σ) (history : List (Operation σ)) :
    (after workspace history).exporter.state ≠ .running := by
  have kept (session : Session σ) (idle : session.exporter.state ≠ .running) :
      (history.foldl perform session).exporter.state ≠ .running := by
    induction history generalizing session with
    | nil => exact idle
    | cons operation history inductionHypothesis =>
        exact inductionHypothesis _ (state_perform idle operation)
  exact kept _ nofun

end Session

/-! ## What runs keep -/

namespace FileTree.Kept

variable {P : FileTree → Prop} (kept : Kept P) {job : ExportJob σ} {tree : FileTree}

include kept

theorem setUp (start : P tree) (job : ExportJob σ) : P (Exporter.setUp job tree).2 := by
  have made := kept.makeDirectories job.root tree start
  unfold Exporter.setUp
  split
  · rename_i run
    rwa [run] at made
  · rename_i middle run
    rw [run] at made
    have copied : P (job.pack.copyAssets job.root middle).2 :=
      Pack.copyAssets_preserves kept made
    split
    · rename_i ran
      rwa [ran] at copied
    · rename_i ran
      rwa [ran] at copied

theorem pageDirectories (start : P tree) (job : ExportJob σ) (kinds : List Kind) :
    P (job.makeDirectories kinds tree) := by
  unfold ExportJob.makeDirectories
  induction kinds generalizing tree with
  | nil => exact start
  | cons kind kinds inductionHypothesis =>
      rw [List.foldl_cons]
      apply inductionHypothesis
      cases kind.pageDirectory? with
      | none => exact start
      | some directory => exact kept.makeDirectories _ tree start

theorem onFiles (start : P tree) (desk : Desk σ) (task : Task) :
    P (task.onFiles job desk tree).2 := by
  unfold Task.onFiles
  split
  · exact kept.write _ _ tree start
  · split
    · exact kept.pageDirectories start job _
    · exact start

theorem conduct (steady : job.resolve.Steady) (watch : Watcher) (tasks : List Task) {desk : Desk σ}
    (events : List ExportEvent) (start : P desk.workspace.files) :
    P (MediaSite.conduct job watch tasks desk events).desk.workspace.files := by
  induction tasks generalizing desk events with
  | nil => exact start
  | cons task tasks inductionHypothesis =>
      rw [MediaSite.conduct]
      split
      · exact start
      · apply inductionHypothesis
        rw [show (task.perform job desk).2.workspace.files =
          (task.onFiles job desk desk.workspace.files).2 from
            congrArg Prod.snd (perform_onFiles steady task desk)]
        exact kept.onFiles start desk task

theorem run (steady : job.resolve.Steady) (watch : Watcher) (sections : List Section)
    (exporter : Exporter) {workspace : Workspace σ} (start : P workspace.files) :
    P (Exporter.run job watch sections exporter workspace).workspace.files := by
  have ready := kept.setUp start job
  rcases setting : Exporter.setUp job workspace.files with ⟨error | copied, files⟩
  · rw [setting] at ready
    rw [Exporter.run, setting]
    exact ready
  · rw [setting] at ready
    rw [Exporter.run_eq_conduct job watch sections exporter setting]
    exact kept.conduct steady watch _ [] ready

end FileTree.Kept

/-- The resolvers of the runs touch no files. -/
def Operation.Steady : Operation σ → Prop
  | .run job _ _ => job.resolve.Steady
  | _ => True

/-- Whatever was asked of an exporter, it has left a regular tree. -/
theorem Session.regular_after {workspace : Workspace σ} {history : List (Operation σ)}
    (steady : ∀ operation ∈ history, operation.Steady) (regular : workspace.files.Regular) :
    (after workspace history).workspace.files.Regular := by
  have kept (session : Session σ) (regular : session.workspace.files.Regular) :
      (history.foldl perform session).workspace.files.Regular := by
    induction history generalizing session with
    | nil => exact regular
    | cons operation history inductionHypothesis =>
        rcases List.forall_mem_cons.mp steady with ⟨first, others⟩
        apply inductionHypothesis others
        cases operation with
        | cancel => exact regular
        | reset => exact regular
        | run job watch sections => exact kept_regular.run first watch sections _ regular
  exact kept _ regular

/-! ## Runs on the same files -/

namespace Exporter

variable {job : ExportJob σ}

/-- Neither what the exporter remembers nor what the resolver does matters for a run. -/
theorem run_seen_of_files (steady : job.resolve.Steady) (watch : Watcher)
    (sections : List Section) (exporter other : Exporter) {first second : Workspace σ}
    (same : first.files = second.files) :
    (run job watch sections exporter first).seen = (run job watch sections other second).seen := by
  rcases made : makeDirectories job.root first.files with ⟨problem | ⟨⟩, files⟩
  · rw [run_of_unmade job made, run_of_unmade job (same ▸ made)]
  · have desks : runOn job watch sections ⟨first, fun _ => []⟩ =
        runOn job watch sections ⟨second, fun _ => []⟩ :=
      runOn_of_entries steady watch sections rfl
    rw [run_of_made job made, run_of_made job (same ▸ made), desks]

/-- A run that fails has told nothing, and the exporter is as good as new. -/
theorem run_failed {watch : Watcher} {sections : List Section} {exporter : Exporter}
    {workspace : Workspace σ} {error : ExportError}
    (failed : (run job watch sections exporter workspace).outcome = .error error) :
    (run job watch sections exporter workspace).exporter = {} ∧
      (run job watch sections exporter workspace).events = [] := by
  unfold run at failed ⊢
  split
  · exact ⟨rfl, rfl⟩
  · rename_i ready
    rw [ready] at failed
    simp only at failed
    split at failed <;> cases failed

/-! ## A run that is done again -/

theorem reportOn_files (watch : Watcher)
    (result : Except FileError (Nat × Bool × List ExportEvent) × FileTree) :
    (reportOn watch result).workspace.files = result.2 := by
  rcases result with ⟨problem | ⟨copied, finished, events⟩, files⟩ <;> rfl

/-- Behind its output directory a run can be done again. -/
theorem runOn_again (steady : job.resolve.Steady) {tree : FileTree} {base : Location}
    (regular : tree.Regular) (rooted : tree.Rooted job.root base)
    (apart : ∀ packRoot, tree.canonical job.pack.root = .ok packRoot →
      ¬ base <+: packRoot ∧ Pack.Unlocked tree packRoot base)
    (watch : Watcher) (sections : List Section) (desk : Desk σ) :
    (∃ writes, Changes tree (runOn job watch sections desk tree).2 writes) ∧
      runOn job watch sections desk (runOn job watch sections desk tree).2 =
        runOn job watch sections desk tree := by
  cases located : tree.canonical job.pack.root with
  | error problem =>
      have walked : job.pack.copyTree job.root tree = (.error problem, tree) := by
        rw [Pack.copyTree, located]
      have failed : runOn job watch sections desk tree = (.error problem, tree) :=
        inTurn_error (inTurn_error walked)
      rw [failed]
      exact ⟨⟨[], Changes.refl tree⟩, failed⟩
  | ok packRoot =>
      rcases apart packRoot located with ⟨elsewhere, unlocked⟩
      have filled : job.root.text ≠ [] := by
        rcases rooted with ⟨_, rfl⟩ | found
        · exact absurd List.nil_prefix elsewhere
        · exact (relative_of_find found).1
      have repeatable := repeatable_runOn steady
        ⟨filled, regular, ⟨regular.free, rooted⟩, unlocked⟩ located elsewhere watch sections desk
      rcases repeatable.ahead with ⟨writes, ahead⟩
      exact ⟨⟨writes, ahead.changes⟩, repeatable.again⟩

end Exporter

namespace ExportJob

/-- The pack stands neither at the output directory nor below it, when that has been made. -/
def Apart (job : ExportJob σ) (tree : FileTree) : Prop :=
  let made := (FileTree.makeDirectories job.root tree).2
  ∀ base packRoot, made.Rooted job.root base → made.canonical job.pack.root = .ok packRoot →
    ¬ base <+: packRoot

/-- The assets of the pack may all be written, when the output directory has been made. -/
def Unlocked (job : ExportJob σ) (tree : FileTree) : Prop :=
  let made := (FileTree.makeDirectories job.root tree).2
  ∀ base packRoot, made.Rooted job.root base → made.canonical job.pack.root = .ok packRoot →
    Pack.Unlocked made packRoot base

theorem apart_of_made {job : ExportJob σ} {tree files : FileTree}
    {base packRoot : Location} (made : FileTree.makeDirectories job.root tree = (.ok (), files))
    (output : files.find job.root = .ok (base, .directory))
    (located : files.canonical job.pack.root = .ok packRoot) (elsewhere : ¬ base <+: packRoot) :
    job.Apart tree := by
  unfold Apart
  rw [made]
  intro _ other otherRoot rooted there
  rcases rooted with ⟨empty, _⟩ | found
  · exact absurd empty (relative_of_find output).1
  · cases output.symm.trans found
    cases located.symm.trans there
    exact elsewhere

theorem unlocked_of_nothing_locked {job : ExportJob σ} {tree : FileTree}
    (nothing : tree.medium.locked = []) : job.Unlocked tree := by
  intro base packRoot _ _ relative _ locked
  have changes := FileTree.changes_makeDirectories job.root tree
  rw [changes.locked_iff List.not_mem_nil, nothing] at locked
  exact absurd locked List.not_mem_nil

end ExportJob

namespace Exporter

variable {job : ExportJob σ}

/-- A run that is done again comes to the same and leaves the tree as it is.  Where its output
directory could not be made, it cannot be made again, though maybe for another reason. -/
theorem run_again (steady : job.resolve.Steady) {workspace : Workspace σ}
    (regular : workspace.files.Regular) (apart : job.Apart workspace.files)
    (unlocked : job.Unlocked workspace.files) (watch : Watcher) (sections : List Section)
    (exporter : Exporter) :
    let first := run job watch sections exporter workspace
    let second := run job watch sections first.exporter first.workspace
    second.seen = first.seen ∨
      first.outcome = .error (.file .alreadyExists) ∧ ['.', '.'] ∈ job.root.segments ∧
        second.seen = { first.seen with outcome := .error (.file .notDirectory) } := by
  intro first second
  rcases made : makeDirectories job.root workspace.files with ⟨problem | ⟨⟩, files⟩
  · rcases makeDirectories_again_error regular made with ⟨other, unmade, fails⟩
    have report : first.seen = _ := run_of_unmade job made watch sections exporter
    have left : first.workspace.files = files := congrArg (·.workspace.files) report
    rw [← left] at unmade
    have again : second.seen = _ := run_of_unmade job unmade watch sections first.exporter
    rw [left] at again
    rcases fails with rfl | ⟨rfl, rfl, up⟩
    · exact .inl (again.trans report.symm)
    · exact .inr ⟨congrArg RunReport.outcome report, up, by rw [again, report]⟩
  · have kept := regular.makeDirectories job.root
    rw [made] at kept
    rcases rooted_of_makeDirectories made with ⟨base, rooted⟩
    have elsewhere (packRoot : Location) (located : files.canonical job.pack.root = .ok packRoot) :
        ¬ base <+: packRoot ∧ Pack.Unlocked files packRoot base := by
      simp only [ExportJob.Apart, ExportJob.Unlocked, made] at apart unlocked
      exact ⟨apart base packRoot rooted located, unlocked base packRoot rooted located⟩
    have report : first.seen = _ := run_of_made job made watch sections exporter
    have left := congrArg (·.workspace.files) report
    rw [reportOn_files] at left
    rcases runOn_again steady kept rooted elsewhere watch sections ⟨workspace, fun _ => []⟩ with
      ⟨⟨writes, changes⟩, same⟩
    have there := makeDirectories_of_made made changes
    rw [← left] at there
    have desks : runOn job watch sections ⟨first.workspace, fun _ => []⟩ =
        runOn job watch sections ⟨workspace, fun _ => []⟩ :=
      runOn_of_entries steady watch sections rfl
    have again : second.seen = _ := run_of_made job there watch sections first.exporter
    rw [desks, left, same] at again
    exact .inl (again.trans report.symm)

/-- A run that is done again with other tables comes to the same if the pages do, and if there
is room for everything it differs in what the files hold at most. -/
theorem run_again_withTables (steady : job.resolve.Steady) {workspace : Workspace σ}
    (regular : workspace.files.Regular) (apart : job.Apart workspace.files)
    (unlocked : job.Unlocked workspace.files) (watch : Watcher) (sections : List Section)
    (exporter : Exporter) (tables : PageTables) :
    let first := run job watch sections exporter workspace
    let second := run (job.withTables tables) watch sections first.exporter first.workspace
    (job.SamePages tables sections → second.seen = first.seen) ∧
        (workspace.files.medium.full = [] → second.outline = first.outline) ∨
      first.outcome = .error (.file .alreadyExists) ∧ ['.', '.'] ∈ job.root.segments ∧
        second.seen = { first.seen with outcome := .error (.file .notDirectory) } := by
  intro first second
  rcases run_again steady regular apart unlocked watch sections exporter with
    same | ⟨failed, up, fails⟩
  · refine .inl ⟨fun pages => ?_, fun roomy => ?_⟩
    · exact (run_seen_withTables pages steady watch first.exporter first.workspace).trans same
    · have left := kept_roomy.run steady watch sections exporter roomy
      exact (run_outline_withTables steady watch sections first.exporter left).trans
        (congrArg (fun report => report.outline) same)
  · refine .inr ⟨failed, up, ?_⟩
    rw [← fails]
    exact congrArg RunReport.seen (run_failed_withTables (congrArg RunReport.outcome fails))

theorem samePages_single (tables : PageTables) : ExportJob.single.SamePages tables [.movies] := by
  intro part entity planned workspace
  rw [ExportJob.plan_single] at planned
  cases planned with
  | tail _ planned =>
      cases planned with
      | tail _ planned =>
          cases planned with
          | tail _ planned => cases planned
      | head =>
          have noBlock : ExportJob.single.entryBlock .movies (.movie {}) = none := by cbv
          rw [noBlock]
          exact ⟨(congrArg Prod.fst (ExportJob.draw_single tables workspace)).trans
            (congrArg Prod.fst (ExportJob.draw_single ExportJob.single.tables workspace)).symm, rfl⟩

theorem regular_single : (Workspace.single 1).files.Regular := by
  have made : makeDirectories ⟨"pack"⟩ FileTree.empty =
      (.ok (), (Workspace.single 1).files) := by cbv
  have kept := Regular.empty.makeDirectories ⟨"pack"⟩
  rwa [made] at kept

end Exporter

/-! ## Another reason to fail -/

/-- The path to the output directory goes through a file, and before that through a directory
that it leaves again. -/
def ExportJob.blocked : ExportJob Unit :=
  { single with root := ⟨"new/../file/c"⟩ }

/-- The directory of the pack, that file, and more. -/
def Workspace.blocked (more : List (Location × Entry)) : Workspace Unit where
  files := { entries := (["pack"], .directory) :: (["file"], .file (.text "x")) :: more }
  side := ()

theorem Workspace.regular_blocked : (Workspace.blocked []).files.Regular := by
  have written : write ⟨"file"⟩ (.text "x") (Workspace.single 1).files =
      (.ok (), (Workspace.blocked []).files) := by cbv
  have kept := Exporter.regular_single.write ⟨"file"⟩ (.text "x")
  rwa [written] at kept

end MediaSite
