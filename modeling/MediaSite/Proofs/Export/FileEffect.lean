import Mathlib.Data.List.Pairwise
import MediaSite.Proofs.Export.ListPages
import MediaSite.Proofs.Export.SetUp

namespace MediaSite

/-!
# What a run does to the files

A run writes each place below the output directory once at most, besides the assets that
it copies before anything else.  So what was written for a page stays there to the end,
and what is neither told nor an asset is as it was: `Exporter.run_files`.

One task changes the files in its place or not at all (`changes_perform`), so the tasks of
a run change them in the places of its deeds (`changes_performAll`).  A task fails where
its place cannot be reached.  That no later task opens the way is owed to the order of a
plan, in which the directories for pages are made before them.
-/

open scoped Text

variable {σ : Type}

/-! ## Resolvers that leave the files alone -/

/-- What this resolver answers depends on the request only, and it touches no files. -/
structure Resolver.Steady (resolve : Resolver (Workspace σ)) : Prop where
  constant : resolve.Constant
  files : ∀ request workspace, (resolve request workspace).2.files = workspace.files

theorem ExportJob.changes_makeDirectories (job : ExportJob σ) (kinds : List Kind)
    (tree : FileTree) : FileTree.Changes tree (job.makeDirectories kinds tree) [] := by
  unfold makeDirectories
  induction kinds generalizing tree with
  | nil => exact FileTree.Changes.refl tree
  | cons kind kinds inductionHypothesis =>
      rw [List.foldl_cons]
      cases kind.pageDirectory? with
      | none => exact inductionHypothesis tree
      | some directory =>
          exact (FileTree.changes_makeDirectories (job.root.join ⟨directory⟩) tree).trans
            (inductionHypothesis _)

section Steady

variable {job : ExportJob σ} (steady : job.resolve.Steady)

include steady

theorem Resolver.Steady.files_draw (depth : PageDepth) (template : Text) (entity : Entity)
    (workspace : Workspace σ) :
    (job.draw depth template entity workspace).2.files = workspace.files := by
  have answers (request : ImageRequest) :
      Page.Lockstep (fun (state _ : Workspace σ) => state.files = workspace.files)
        (job.resolve request) (job.resolve request) := by
    intro first second same
    exact ⟨steady.constant request first second, (steady.files request first).trans same⟩
  let := job.tables.orders depth entity.kind entity.id
  exact (Page.lockstep_draw answers job.mode depth template entity workspace workspace rfl).2

theorem Resolver.Steady.files_drawEntry (block : Option Block) (entity : Entity)
    (workspace : Workspace σ) :
    (job.drawEntry block entity workspace).2.files = workspace.files := by
  cases block with
  | none => rfl
  | some block => exact steady.files_draw .root block.inner entity workspace

/-! ## Tasks -/

/-- The text that a task writes. -/
def Task.text (job : ExportJob σ) (desk : Desk σ) : Task → Text
  | .opening _ => []
  | .page part entity => (job.draw .item (job.pageTemplate part entity) entity desk.workspace).1
  | .list part => Run.listPage job.mode (job.pendingList desk.entries part)

/-- Performing a task with a place is to write its text there, after drawing. -/
theorem perform_eq_attempt {task : Task} {place : Location} (placed : task.place? = some place)
    (desk : Desk σ) :
    ∃ workspace : Workspace σ, workspace.files = desk.workspace.files ∧
      let attempt := workspace.attempt
        (FileTree.write (job.root.joinNames place) (.text (task.text job desk)))
      (task.perform job desk).1 = attempt.1 ∧ (task.perform job desk).2.workspace = attempt.2 := by
  cases task with
  | opening part => cases placed
  | page part entity =>
      have located : itemPath job.root entity.kind entity.id = some (job.root.joinNames place) := by
        rw [itemPath_eq, show entity.kind.place? entity.id = some place from placed]
        rfl
      refine ⟨_, (steady.files_drawEntry (job.entryBlock part entity) entity _).trans
        (steady.files_draw .item (job.pageTemplate part entity) entity desk.workspace), ?_⟩
      simp only [Task.perform, ExportJob.writePage, located]
      exact ⟨rfl, rfl⟩
  | list part =>
      cases placed
      rw [← listPath_eq]
      exact ⟨desk.workspace, rfl, rfl, rfl⟩

/-- A task with a place is refused there and changes no file, and then there is none that may be
written; or its text, or part of it if there is no room, stands there, and nothing else has
changed. -/
theorem perform_of_place {task : Task} {place : Location} (placed : task.place? = some place)
    (desk : Desk σ) :
    (∃ error, (task.perform job desk).1 = some error ∧
      (task.perform job desk).2.workspace.files = desk.workspace.files ∧
      ∀ location old, desk.workspace.files.find (job.root.joinNames place) =
        .ok (location, .file old) → location ∈ desk.workspace.files.medium.locked) ∨
    ∃ location held, (task.perform job desk).2.workspace.files.find (job.root.joinNames place) =
        .ok (location, .file held) ∧
      FileTree.Changes desk.workspace.files (task.perform job desk).2.workspace.files
        [(location, held)] ∧
      ((task.perform job desk).1 = none ∧ held = .text (task.text job desk) ∨
        (task.perform job desk).1 ≠ none ∧
          ¬ desk.workspace.files.HasRoom location (.text (task.text job desk))) := by
  rcases perform_eq_attempt steady placed desk with ⟨workspace, sameFiles, fault, after⟩
  rw [fault, after, ← sameFiles]
  rcases workspace.attempt_write (job.root.joinNames place) (.text (task.text job desk)) with
    ⟨error, failed, locked⟩ | ⟨location, held, fault, opened, opens, outcome⟩
  · rw [failed]
    exact .inl ⟨error, rfl, rfl, locked⟩
  · rw [opened]
    refine .inr ⟨location, held, opens.leads held, opens.changes held, outcome.imp_right ?_⟩
    rintro ⟨rfl, short⟩
    exact ⟨nofun, short⟩

/-- A task without a place makes directories at most. -/
theorem changes_of_no_place {task : Task} (nowhere : task.place? = none) (desk : Desk σ) :
    FileTree.Changes desk.workspace.files (task.perform job desk).2.workspace.files [] := by
  cases task with
  | opening part => exact job.changes_makeDirectories part.pageKinds desk.workspace.files
  | page part entity =>
      have nameless : itemPath job.root entity.kind entity.id = none := by
        rw [itemPath_eq, show entity.kind.place? entity.id = none from nowhere]
        rfl
      have same : ((Task.page part entity).perform job desk).2.workspace.files =
          desk.workspace.files := by
        simp only [Task.perform, ExportJob.writePage, nameless]
        exact (steady.files_drawEntry (job.entryBlock part entity) entity _).trans
          (steady.files_draw .item (job.pageTemplate part entity) entity desk.workspace)
      rw [same]
      exact FileTree.Changes.refl _
  | list part => cases nowhere

end Steady

/-! ## Runs -/

/-- The place that was written in a deed. -/
def Deed.place? : Deed → Option Location
  | ⟨task, none⟩ => task.place?
  | ⟨_, some _⟩ => none

theorem Deed.of_place? {deed : Deed} {place : Location} (found : deed.place? = some place) :
    deed.fault = none ∧ deed.task.place? = some place := by
  rcases deed with ⟨task, none | error⟩
  · exact ⟨rfl, found⟩
  · cases found

/-- The place that was to be written in a deed and was not. -/
def Deed.failed? : Deed → Option Location
  | ⟨_, none⟩ => none
  | ⟨task, some _⟩ => task.place?

theorem Deed.of_failed? {deed : Deed} {place : Location} (found : deed.failed? = some place) :
    deed.fault ≠ none ∧ deed.task.place? = some place := by
  rcases deed with ⟨task, none | error⟩
  · cases found
  · exact ⟨nofun, found⟩

theorem Deed.of_mem_failed {deeds : List Deed} {root path : Path}
    (member : path ∈ (deeds.filterMap Deed.failed?).map root.joinNames) :
    ∃ deed ∈ deeds, ∃ place, path = root.joinNames place ∧ deed.fault ≠ none ∧
      deed.task.place? = some place := by
  rcases List.mem_map.mp member with ⟨place, isFailed, rfl⟩
  rcases List.mem_filterMap.mp isFailed with ⟨deed, inDeeds, failed⟩
  exact ⟨deed, inDeeds, place, rfl, Deed.of_failed? failed⟩

/-- Deeds have places that are different if those of their tasks are. -/
theorem deed_eq_of_place {job : ExportJob σ} {tasks : List Task} {desk : Desk σ}
    (distinct : (tasks.filterMap Task.place?).Nodup) {deed other : Deed}
    (member : deed ∈ deeds job tasks desk) (otherMember : other ∈ deeds job tasks desk)
    {place : Location} (placed : deed.task.place? = some place)
    (otherPlaced : other.task.place? = some place) : deed = other := by
  rw [← map_task_deeds job tasks desk, List.filterMap_map, List.Nodup, List.pairwise_filterMap]
    at distinct
  by_contra different
  have : Std.Symm fun first second : Deed =>
      ∀ here, (Task.place? ∘ Deed.task) first = some here →
        ∀ there, (Task.place? ∘ Deed.task) second = some there → here ≠ there :=
    ⟨fun _ _ apart _ there _ here same => apart _ here _ there same.symm⟩
  exact distinct.forall member otherMember different _ placed _ otherPlaced rfl

section Runs

variable {job : ExportJob σ} (steady : job.resolve.Steady) {base : Location}

include steady

/-- Why a place was written in a deed: it was done, or there was no room. -/
def Deed.Opened (deed : Deed) (base place : Location) (tree : FileTree) : Prop :=
  deed.task.place? = some place ∧
    (deed.fault = none ∨ ∃ content, ¬ tree.HasRoom (base ++ place) content)

/-- One task changes the files in its place at most, and where it wrote, its place leads. -/
theorem changes_perform (task : Task) (desk : Desk σ)
    (grounded : desk.workspace.files.Grounded job.root base) :
    let deed : Deed := ⟨task, (task.perform job desk).1⟩
    let after := (task.perform job desk).2.workspace.files
    (∃ writes, FileTree.Changes desk.workspace.files after writes ∧
      ∀ item ∈ writes, ∃ place, deed.Opened base place desk.workspace.files ∧
        item.1 = base ++ place ∧
        after.find (job.root.joinNames place) = .ok (base ++ place, .file item.2)) ∧
    ∀ place, deed.place? = some place → after.find (job.root.joinNames place) =
      .ok (base ++ place, .file (.text (task.text job desk))) := by
  intro deed after
  cases placed : task.place? with
  | none =>
      have nothing (fault : Option FileError) : Deed.place? ⟨task, fault⟩ = none := by
        cases fault with
        | none => exact placed
        | some error => rfl
      refine ⟨⟨[], changes_of_no_place steady placed desk, List.forall_mem_nil _⟩,
        fun place own => ?_⟩
      cases (nothing _).symm.trans own
  | some place =>
      rcases perform_of_place steady placed desk with
        ⟨error, fault, same, _⟩ | ⟨location, held, found, changes, outcome⟩
      · refine ⟨⟨[], ?_, List.forall_mem_nil _⟩, fun other own => ?_⟩
        · change FileTree.Changes _ (task.perform job desk).2.workspace.files _
          rw [same]
          exact FileTree.Changes.refl _
        · cases fault.symm.trans (Deed.of_place? own).1
      · have grown := grounded.of_changes changes
        rcases grown.find_joinNames (Task.downward_place placed) found with ⟨rfl, _⟩
        refine ⟨⟨_, changes, List.forall_mem_singleton.mpr ⟨place, ⟨placed, ?_⟩, rfl, found⟩⟩,
          fun other own => ?_⟩
        · exact outcome.imp And.left fun broken => ⟨_, broken.2⟩
        · rcases Deed.of_place? own with ⟨done, own⟩
          cases placed.symm.trans own
          rcases outcome with ⟨_, rfl⟩ | ⟨failed, _⟩
          · exact found
          · exact absurd done failed

/-- Tasks change the files in the places of their deeds at most, and there the places lead. -/
theorem changes_performAll (tasks : List Task) (desk : Desk σ)
    (grounded : desk.workspace.files.Grounded job.root base) :
    let after := (performAll job tasks desk).workspace.files
    ∃ writes, FileTree.Changes desk.workspace.files after writes ∧
      ∀ item ∈ writes, ∃ deed ∈ deeds job tasks desk, ∃ place,
        deed.Opened base place desk.workspace.files ∧ item.1 = base ++ place ∧
        ∃ content, after.find (job.root.joinNames place) = .ok (base ++ place, .file content) := by
  induction tasks generalizing desk with
  | nil => exact ⟨[], FileTree.Changes.refl _, List.forall_mem_nil _⟩
  | cons task tasks inductionHypothesis =>
      rcases changes_perform steady task desk grounded with ⟨⟨own, first, opened⟩, _⟩
      rcases inductionHypothesis _ (grounded.of_changes first) with ⟨writes, later, rest⟩
      refine ⟨own ++ writes, first.trans later, fun item member => ?_⟩
      rcases List.mem_append.mp member with inOwn | inWrites
      · rcases opened item inOwn with ⟨place, isOpened, there, found⟩
        exact ⟨_, List.mem_cons_self, place, isOpened, there, later.find_file found⟩
      · rcases rest item inWrites with ⟨deed, inDeeds, place, ⟨placed, whole⟩, there, found⟩
        refine ⟨deed, List.mem_cons_of_mem _ inDeeds, place, ⟨placed, whole.imp_right ?_⟩,
          there, found⟩
        rintro ⟨content, short⟩
        exact ⟨content, fun room => short (first.hasRoom_iff.mpr room)⟩

theorem grounded_performAll (tasks : List Task) {desk : Desk σ}
    (grounded : desk.workspace.files.Grounded job.root base) :
    (performAll job tasks desk).workspace.files.Grounded job.root base := by
  rcases changes_performAll steady tasks desk grounded with ⟨_, changes, _⟩
  exact grounded.of_changes changes

/-- A place that no task has is left alone. -/
theorem file_performAll {tasks : List Task} {desk : Desk σ}
    (grounded : desk.workspace.files.Grounded job.root base) {place : Location}
    (absent : place ∉ tasks.filterMap Task.place?) {content : Content} :
    (performAll job tasks desk).workspace.files.get? (base ++ place) = some (.file content) ↔
      desk.workspace.files.get? (base ++ place) = some (.file content) := by
  rcases changes_performAll steady tasks desk grounded with ⟨writes, changes, each⟩
  refine changes.file_iff fun member => ?_
  rcases List.mem_map.mp member with ⟨item, inWrites, same⟩
  rcases each item inWrites with ⟨deed, inDeeds, other, ⟨placed, _⟩, there, _⟩
  rw [there] at same
  refine absent (List.mem_filterMap.mpr ⟨deed.task, ?_, List.append_cancel_left same ▸ placed⟩)
  rw [← map_task_deeds job tasks desk]
  exact List.mem_map_of_mem inDeeds

/-- What a task wrote is there when all tasks are through, if no other has its place. -/
theorem find_of_written {front back : List Task} {task : Task} {desk : Desk σ}
    (grounded : desk.workspace.files.Grounded job.root base) {place : Location}
    (placed : task.place? = some place) (alone : place ∉ back.filterMap Task.place?)
    (written : (task.perform job (performAll job front desk)).1 = none) :
    (performAll job (front ++ task :: back) desk).workspace.files.find
        (job.root.joinNames place) =
      .ok (base ++ place, .file (.text (task.text job (performAll job front desk)))) := by
  have before := grounded_performAll steady front grounded
  rw [performAll_append, performAll]
  generalize performAll job front desk = middle at *
  rcases changes_perform steady task middle before with ⟨⟨_, changes, _⟩, found⟩
  have here := found place (by rw [written]; exact placed)
  have after := before.of_changes changes
  rcases changes_performAll steady back _ after with ⟨_, later, _⟩
  rcases later.find_file here with ⟨content, stays⟩
  have kept := (file_performAll steady after alone).mpr (FileTree.get?_of_find_file here)
  rw [FileTree.get?_of_find_file stays] at kept
  rw [stays, Option.some.inj kept]

/-- Where a task could not write, a file that is there when all tasks are through may not be
written, or there is no room, if there was something to go through on the way. -/
theorem file_of_failed {front back : List Task} {task : Task} {desk : Desk σ}
    (grounded : desk.workspace.files.Grounded job.root base) {place : Location}
    (placed : task.place? = some place) (alone : place ∉ back.filterMap Task.place?)
    (failed : (task.perform job (performAll job front desk)).1 ≠ none)
    {location : Location} {content : Content}
    (found : (performAll job (front ++ task :: back) desk).workspace.files.find
      (job.root.joinNames place) = .ok (location, .file content))
    (passable : ∀ up down, place = up ++ down → up ≠ [] → down ≠ [] →
      (performAll job front desk).workspace.files.get? (base ++ up) ≠ none) :
    location ∈ (performAll job (front ++ task :: back) desk).workspace.files.medium.locked ∨
      ∃ other, ¬ (performAll job (front ++ task :: back) desk).workspace.files.HasRoom
        location other := by
  have before := grounded_performAll steady front grounded
  rw [performAll_append, performAll] at found ⊢
  generalize performAll job front desk = middle at *
  have downward := Task.downward_place placed
  rcases perform_of_place steady placed middle with
    ⟨_, _, same, locked⟩ | ⟨_, held, opened, changes, ⟨done, _⟩ | ⟨_, short⟩⟩
  · -- A file that is there at the end was there when the task failed, and so were the
    -- directories on its way.
    rw [← same] at before
    have after := grounded_performAll steady back before
    rcases changes_performAll steady back _ before with ⟨_, later, _⟩
    rcases after.find_joinNames downward found with ⟨rfl, between⟩
    have stood := (file_performAll steady before alone).mp (FileTree.get?_of_find_file found)
    rw [same] at before later stood
    refine .inl (later.locked _ (locked _ _
      (after.find_joinNames_again before downward found ?_ stood)))
    intro up down split filled others
    exact later.directory_before (between up down split filled others)
      (passable up down split filled others)
  · exact absurd done failed
  · have grown := before.of_changes changes
    rcases changes_performAll steady back _ grown with ⟨_, later, _⟩
    rcases (grown.of_changes later).find_joinNames downward found with ⟨rfl, _⟩
    rcases grown.find_joinNames downward opened with ⟨rfl, _⟩
    exact .inr ⟨_, fun room => short ((changes.trans later).hasRoom_iff.mp room)⟩

omit steady in
/-- When directories are made for some kinds, something is there for each, provided that a
file below can be named at all. -/
theorem get?_makeDirectories {kinds : List Kind} {kind : Kind} (member : kind ∈ kinds)
    {directory file : Text} (known : kind.pageDirectory? = some directory)
    (downward : Downward [directory, file]) {tree after : FileTree}
    (grounded : tree.Grounded job.root base) (others : after.Grounded job.root base)
    {location : Location} {content : Content}
    (found : after.find (job.root.joinNames [directory, file]) = .ok (location, .file content)) :
    (job.makeDirectories kinds tree).get? (base ++ [directory]) ≠ none := by
  induction kinds generalizing tree with
  | nil => cases member
  | cons first kinds inductionHypothesis =>
      have own := job.changes_makeDirectories [first] tree
      have split : job.makeDirectories (first :: kinds) tree =
          job.makeDirectories kinds (job.makeDirectories [first] tree) := rfl
      rw [split]
      rcases List.mem_cons.mp member with rfl | inRest
      · apply (job.changes_makeDirectories kinds _).get?_ne_none
        have made : job.makeDirectories [kind] tree =
            (FileTree.makeDirectories (job.root.join ⟨directory⟩) tree).2 := by
          simp only [ExportJob.makeDirectories, List.foldl_cons, List.foldl_nil, known]
        rw [made]
        exact grounded.get?_makeDirectories others downward found
      · exact inductionHypothesis inRest (grounded.of_changes own)

/-- Behind the opening of its section, there is something on the way to a page. -/
theorem get?_of_opening {front : List Task} {desk : Desk σ}
    (grounded : desk.workspace.files.Grounded job.root base) {part : Section}
    (opened : .opening part ∈ front) {kind : Kind} (member : kind ∈ part.pageKinds)
    {directory file : Text} (known : kind.pageDirectory? = some directory)
    (downward : Downward [directory, file]) {after : FileTree}
    (others : after.Grounded job.root base) {location : Location} {content : Content}
    (found : after.find (job.root.joinNames [directory, file]) = .ok (location, .file content)) :
    (performAll job front desk).workspace.files.get? (base ++ [directory]) ≠ none := by
  rcases List.append_of_mem opened with ⟨first, second, rfl⟩
  have before := grounded_performAll steady first grounded
  rw [performAll_append, performAll]
  have made := get?_makeDirectories member known downward before others found
  have middle := before.of_changes
    (changes_of_no_place steady rfl (performAll job first desk) : FileTree.Changes _
      ((Task.opening part).perform job (performAll job first desk)).2.workspace.files [])
  rcases changes_performAll steady second _ middle with ⟨_, later, _⟩
  exact later.get?_ne_none made

end Runs

/-! ## Events -/

/-- The path that is told, of a page or list page that was written or could not be. -/
def ExportEvent.path? : ExportEvent → Option Path
  | .itemExported _ _ _ _ path => path
  | .fileSkipped path _ => some path
  | .listWritten _ path _ => some path
  | _ => none

/-- The path that is told to be written. -/
def ExportEvent.written? : ExportEvent → Option Path
  | .itemExported _ _ _ _ path => path
  | .listWritten _ path _ => some path
  | _ => none

/-- The path that is told to be left out. -/
def ExportEvent.skipped? : ExportEvent → Option Path
  | .fileSkipped path _ => some path
  | _ => none

/-- Every place is told once, whatever became of it. -/
theorem paths_narrate (job : ExportJob σ) (count : Nat) (deeds : List Deed) :
    (narrate job count deeds).filterMap ExportEvent.path? =
      ((deeds.map Deed.task).filterMap Task.place?).map job.root.joinNames := by
  rw [List.filterMap_map, List.map_filterMap]
  refine filterMap_narrate (fun deed count => ?_) count deeds
  rcases deed with ⟨task, fault⟩
  cases task with
  | opening part => rfl
  | page part entity =>
      simp only [Deed.told, Task.told, itemPath_eq, Function.comp, Task.place?]
      cases entity.kind.place? entity.id <;> cases fault <;> rfl
  | list part =>
      simp only [Deed.told, Task.told, listPath_eq, Function.comp, Task.place?]
      cases fault <;> rfl

theorem written_narrate (job : ExportJob σ) (count : Nat) (deeds : List Deed) :
    (narrate job count deeds).filterMap ExportEvent.written? =
      (deeds.filterMap Deed.place?).map job.root.joinNames := by
  rw [List.map_filterMap]
  refine filterMap_narrate (fun deed count => ?_) count deeds
  rcases deed with ⟨task, fault⟩
  cases task with
  | opening part => cases fault <;> rfl
  | page part entity =>
      cases fault <;>
        · simp only [Deed.told, Task.told, itemPath_eq, Deed.place?, Task.place?]
          cases entity.kind.place? entity.id <;> rfl
  | list part =>
      cases fault <;>
        · simp only [Deed.told, Task.told, listPath_eq, Deed.place?, Task.place?]
          rfl

theorem skipped_narrate (job : ExportJob σ) (count : Nat) (deeds : List Deed) :
    (narrate job count deeds).filterMap ExportEvent.skipped? =
      (deeds.filterMap Deed.failed?).map job.root.joinNames := by
  rw [List.map_filterMap]
  refine filterMap_narrate (fun deed count => ?_) count deeds
  rcases deed with ⟨task, fault⟩
  cases task with
  | opening part => cases fault <;> rfl
  | page part entity =>
      cases fault <;>
        · simp only [Deed.told, Task.told, itemPath_eq, Deed.failed?, Task.place?]
          cases entity.kind.place? entity.id <;> rfl
  | list part =>
      cases fault <;>
        · simp only [Deed.told, Task.told, listPath_eq, Deed.failed?, Task.place?]
          rfl

/-- A page that is told with a path was written. -/
theorem page_of_itemExported {job : ExportJob σ} {deed : Deed} {before count : Nat} {kind : Kind}
    {id : UInt64} {title : Text} {path : Path}
    (told : .itemExported count kind id title (some path) ∈ deed.told job before) :
    ∃ part entity, deed = ⟨.page part entity, none⟩ ∧
      (entity.kind = kind ∧ entity.id = id ∧ entity.title = title) ∧
      itemPath job.root entity.kind entity.id = some path := by
  rcases deed with ⟨task, fault⟩
  cases task with
  | opening part => cases List.mem_singleton.mp told
  | page part entity =>
      cases found : itemPath job.root entity.kind entity.id with
      | none => simp [Deed.told, Task.told, found] at told
      | some own =>
          cases fault <;>
            simp only [Deed.told, Task.told, found, List.mem_cons, List.not_mem_nil,
              or_false] at told
          · cases told
            exact ⟨part, entity, rfl, ⟨rfl, rfl, rfl⟩, found⟩
          · rcases told with impossible | impossible <;> cases impossible
  | list part => cases fault <;> cases List.mem_singleton.mp told

/-! ## Deeds among the tasks of a plan -/

theorem alone_of_split {front back : List Task} {task : Task} {place : Location}
    (distinct : ((front ++ task :: back).filterMap Task.place?).Nodup)
    (placed : task.place? = some place) : place ∉ back.filterMap Task.place? := by
  rw [List.filterMap_append, List.filterMap_cons_some placed] at distinct
  exact (List.nodup_cons.mp (List.nodup_append.mp distinct).2.1).1

/-- Different places are different paths. -/
theorem nodup_map_joinNames (root : Path) {tasks : List Task}
    (distinct : (tasks.filterMap Task.place?).Nodup) :
    ((tasks.filterMap Task.place?).map root.joinNames).Nodup := by
  refine distinct.map_on fun first inFirst second inSecond same => ?_
  rcases List.mem_filterMap.mp inFirst with ⟨task, _, placed⟩
  rcases List.mem_filterMap.mp inSecond with ⟨other, _, otherPlaced⟩
  exact root.joinNames_injective (Task.downward_place placed) (Task.downward_place otherPlaced) same

section Deeds

variable {job : ExportJob σ} (steady : job.resolve.Steady) {base : Location}
variable {tasks : List Task} {desk : Desk σ}
variable (grounded : desk.workspace.files.Grounded job.root base)
variable (distinct : (tasks.filterMap Task.place?).Nodup)

include steady grounded distinct

/-- A page that was written holds what its template renders to. -/
theorem find_page {part : Section} {entity : Entity} {path : Path}
    (member : ⟨.page part entity, none⟩ ∈ deeds job tasks desk)
    (located : itemPath job.root entity.kind entity.id = some path) :
    ∃ location page, (performAll job tasks desk).workspace.files.find path =
        .ok (location, .file (.text page)) ∧
      ∀ workspace, ((job.render .item (job.pageTemplate part entity) entity).run workspace).1 =
        .ok page := by
  rcases split_of_mem_deeds member with ⟨front, back, rfl, written⟩
  rw [itemPath_eq] at located
  rcases Option.map_eq_some_iff.mp located with ⟨place, placed, rfl⟩
  have own : (Task.page part entity).place? = some place := placed
  have alone := alone_of_split distinct own
  refine ⟨_, _, find_of_written steady grounded own alone written.symm, fun workspace => ?_⟩
  rw [job.render_eq_lift]
  exact congrArg Except.ok (steady.constant.draw _ _ _ _ _)

/-- Where a page could not be written, a file that is there may not be written, or there is no
room. -/
theorem file_of_skipped {deed : Deed} (member : deed ∈ deeds job tasks desk)
    (failed : deed.fault ≠ none) {place : Location}
    (placed : deed.task.place? = some place) (opened : Opened tasks)
    (planned : ∀ part entity, .page part entity ∈ tasks → entity ∈ job.library.pages part)
    {location : Location} {content : Content}
    (found : (performAll job tasks desk).workspace.files.find (job.root.joinNames place) =
      .ok (location, .file content)) :
    location ∈ (performAll job tasks desk).workspace.files.medium.locked ∨
      ∃ other, ¬ (performAll job tasks desk).workspace.files.HasRoom location other := by
  rcases split_of_mem_deeds member with ⟨front, back, rfl, fault⟩
  have alone := alone_of_split distinct placed
  have after := grounded_performAll steady (front ++ deed.task :: back) grounded
  refine file_of_failed steady grounded placed alone (fault ▸ failed) found ?_
  intro up down split filled others
  rcases deed with ⟨task, fault⟩
  cases task with
  | opening part => cases placed
  | list part =>
      cases placed
      rcases List.singleton_eq_append_iff.mp split with ⟨empty, _⟩ | ⟨_, empty⟩
      · exact absurd empty filled
      · exact absurd empty others
  | page part entity =>
      rcases Option.map_eq_some_iff.mp placed with ⟨directory, known, rfl⟩
      rcases List.cons_eq_append_iff.mp split with ⟨empty, _⟩ | ⟨inner, rfl, behind⟩
      · exact absurd empty filled
      · rcases List.singleton_eq_append_iff.mp behind with ⟨rfl, _⟩ | ⟨_, empty⟩
        · have inPages := planned part entity (List.mem_append_right front List.mem_cons_self)
          exact get?_of_opening steady grounded (opened front part entity back rfl)
            (Library.kind_mem_of_mem_pages inPages) known (Task.downward_place placed) after found
        · exact absurd empty others

omit distinct in
/-- A location that was written in no deed is as it was before, if there is room wherever a page
could not be written. -/
theorem file_elsewhere {location : Location} (content : Content)
    (unwritten : ∀ path ∈ ((deeds job tasks desk).filterMap Deed.place?).map job.root.joinNames,
      ∀ entry, (performAll job tasks desk).workspace.files.find path ≠ .ok (location, entry))
    (room : ∀ path ∈ ((deeds job tasks desk).filterMap Deed.failed?).map job.root.joinNames,
      ∀ entry, (performAll job tasks desk).workspace.files.find path = .ok (location, entry) →
        ∀ other, desk.workspace.files.HasRoom location other) :
    (performAll job tasks desk).workspace.files.get? location = some (.file content) ↔
      desk.workspace.files.get? location = some (.file content) := by
  rcases changes_performAll steady tasks desk grounded with ⟨writes, changes, each⟩
  refine changes.file_iff fun member => ?_
  rcases List.mem_map.mp member with ⟨item, inWrites, rfl⟩
  rcases each item inWrites with ⟨⟨task, fault⟩, inDeeds, place, ⟨placed, why⟩, there, new, found⟩
  rw [there] at unwritten room
  cases fault with
  | none =>
      exact unwritten _ (List.mem_map_of_mem (List.mem_filterMap.mpr ⟨_, inDeeds, placed⟩)) _ found
  | some error =>
      rcases why with impossible | ⟨other, short⟩
      · cases impossible
      · exact short (room _ (List.mem_map_of_mem (List.mem_filterMap.mpr ⟨_, inDeeds, placed⟩)) _
          found other)

omit distinct in
/-- A location that is besides no target of an asset is as it was before the assets. -/
theorem file_untouched {before : FileTree} {targets : List Path}
    {copies : List (Location × Content)}
    (copied : Pack.Copied before desk.workspace.files targets copies) {location : Location}
    (unwritten : ∀ path ∈ ((deeds job tasks desk).filterMap Deed.place?).map job.root.joinNames,
      ∀ entry, (performAll job tasks desk).workspace.files.find path ≠ .ok (location, entry))
    (noAsset : ∀ target ∈ targets, ∀ entry,
      (performAll job tasks desk).workspace.files.find target ≠ .ok (location, entry))
    (room : ∀ path ∈ ((deeds job tasks desk).filterMap Deed.failed?).map job.root.joinNames,
      ∀ entry, (performAll job tasks desk).workspace.files.find path = .ok (location, entry) →
        ∀ other, before.HasRoom location other) (content : Content) :
    (performAll job tasks desk).workspace.files.get? location = some (.file content) ↔
      before.get? location = some (.file content) := by
  rcases changes_performAll steady tasks desk grounded with ⟨_, changes, _⟩
  rw [file_elsewhere steady grounded content unwritten fun path member entry named other =>
    copied.changes.hasRoom_iff.mpr (room path member entry named other)]
  refine copied.changes.file_iff fun asset => ?_
  rcases List.mem_map.mp asset with ⟨item, member, rfl⟩
  rcases copied.nothingElse item member with ⟨target, isTarget, old, named⟩
  rcases changes.find_file named with ⟨_, stays⟩
  exact noAsset target isTarget _ stays

/-- The place of a page that could not be written is not that of one that was. -/
theorem unwritten_of_failed {deed : Deed} (member : deed ∈ deeds job tasks desk)
    (failed : deed.fault ≠ none) {place : Location} (placed : deed.task.place? = some place) :
    ∀ path ∈ ((deeds job tasks desk).filterMap Deed.place?).map job.root.joinNames,
      ∀ entry, (performAll job tasks desk).workspace.files.find path ≠
        .ok (base ++ place, entry) := by
  intro path inPaths entry written
  rcases List.mem_map.mp inPaths with ⟨other, isWritten, rfl⟩
  rcases List.mem_filterMap.mp isWritten with ⟨otherDeed, inOthers, own⟩
  rcases Deed.of_place? own with ⟨succeeded, otherPlaced⟩
  have there := (grounded_performAll steady tasks grounded).place_joinNames
    (Task.downward_place otherPlaced) written
  rw [← List.append_cancel_left there] at otherPlaced
  rw [deed_eq_of_place distinct member inOthers placed otherPlaced] at failed
  exact failed succeeded

/-- Where a page could not be written, a file that is there before the assets or at the end is the
same at both times. -/
theorem file_of_left_out {before : FileTree} {targets : List Path}
    {copies : List (Location × Content)}
    (copied : Pack.Copied before desk.workspace.files targets copies) {deed : Deed}
    (member : deed ∈ deeds job tasks desk) (failed : deed.fault ≠ none) {place : Location}
    (placed : deed.task.place? = some place) {location : Location} {content : Content}
    (named : before.find (job.root.joinNames place) = .ok (location, .file content) ∨
      (performAll job tasks desk).workspace.files.find (job.root.joinNames place) =
        .ok (location, .file content))
    (noAsset : ∀ target ∈ targets, ∀ entry,
      (performAll job tasks desk).workspace.files.find target ≠ .ok (location, entry))
    (room : ∀ other, before.HasRoom location other) :
    (performAll job tasks desk).workspace.files.find (job.root.joinNames place) =
        .ok (location, .file content) ∧
      before.get? location = some (.file content) := by
  rcases changes_performAll steady tasks desk grounded with ⟨_, changes, _⟩
  obtain ⟨kept, leads⟩ : ∃ kept, (performAll job tasks desk).workspace.files.find
      (job.root.joinNames place) = .ok (location, .file kept) := by
    rcases named with early | late
    · exact (copied.changes.trans changes).find_file early
    · exact ⟨content, late⟩
  rcases (grounded_performAll steady tasks grounded).find_joinNames
    (Task.downward_place placed) leads with ⟨rfl, _⟩
  have same := file_untouched steady grounded copied
    (unwritten_of_failed steady grounded distinct member failed placed) noAsset
    (fun _ _ _ _ => room) content
  rcases named with early | late
  · have stood := FileTree.get?_of_find_file early
    have now := same.mpr stood
    rw [FileTree.get?_of_find_file leads] at now
    rw [leads, Option.some.inj now]
    exact ⟨rfl, stood⟩
  · exact ⟨late, same.mp (FileTree.get?_of_find_file late)⟩

end Deeds

/-! ## The effect of a run -/

/-- What a run has done to the files. -/
structure FileEffect (job : ExportJob σ) (before : FileTree) (report : RunReport σ) : Prop where
  /-- A page that is told to be written is what its template renders to. -/
  pages : ∀ count kind id title path,
    .itemExported count kind id title (some path) ∈ report.events →
      ∃ part entity, entity ∈ job.library.pages part ∧
        (entity.kind = kind ∧ entity.id = id ∧ entity.title = title) ∧
        itemPath job.root entity.kind entity.id = some path ∧
        ∃ location page, report.workspace.files.find path = .ok (location, .file (.text page)) ∧
          ∀ workspace, ((job.render .item (job.pageTemplate part entity) entity).run
            workspace).1 = .ok page
  /-- No two events tell the same path. -/
  paths : (report.events.filterMap ExportEvent.path?).Nodup
  /-- Files that are neither told to be written nor the targets of assets are as before; but a
  page that is told to be left out may have broken off where there is no room for it. -/
  elsewhere : ∀ location,
    (∀ path ∈ report.events.filterMap ExportEvent.written?, ∀ entry,
      report.workspace.files.find path ≠ .ok (location, entry)) →
    (∀ target ∈ job.pack.assetTargets job.root (FileTree.makeDirectories job.root before).2,
      ∀ entry, report.workspace.files.find target ≠ .ok (location, entry)) →
    (∀ path ∈ report.events.filterMap ExportEvent.skipped?, ∀ entry,
      report.workspace.files.find path = .ok (location, entry) →
        ∀ content, before.HasRoom location content) →
    ∀ content, report.workspace.files.get? location = some (.file content) ↔
      before.get? location = some (.file content)
  /-- A file that could not be written is the same before and after, unless an asset was copied
  there or there is no room. -/
  skipped : ∀ path ∈ report.events.filterMap ExportEvent.skipped?, ∀ location content,
    before.find path = .ok (location, .file content) ∨
      report.workspace.files.find path = .ok (location, .file content) →
    (∀ target ∈ job.pack.assetTargets job.root (FileTree.makeDirectories job.root before).2,
      ∀ entry, report.workspace.files.find target ≠ .ok (location, entry)) →
    (∀ content, before.HasRoom location content) →
    report.workspace.files.find path = .ok (location, .file content) ∧
      before.get? location = some (.file content)
  /-- There is no such file, unless it may not be written or there is no room. -/
  refused : ∀ path ∈ report.events.filterMap ExportEvent.skipped?, ∀ location content,
    report.workspace.files.find path = .ok (location, .file content) →
      location ∈ report.workspace.files.medium.locked ∨ ∃ other, ¬ before.HasRoom location other

end MediaSite
