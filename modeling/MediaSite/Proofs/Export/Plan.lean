import Mathlib.Logic.Function.Basic
import MediaSite.Proofs.Site.Rendering
import MediaSite.Site.Export

namespace MediaSite

/-!
# The plan of a run

A run nests its loops: sections, entities, episodes, and the list pages at the
end.  What it works through is nevertheless one list of tasks, its plan, which
depends on the library and the requested sections only.

A task is performed without regard to what is told about it, and what is told
about a task depends on nothing but the number of pages before it and whether
its page could be written.  So the watcher has a say in one thing only: how much
of the plan is conducted.  `Exporter.run_eq_conduct` proves that the nested
loops conduct the plan; everything else about runs is read off the plan.
-/

open scoped Text

/-! ## Tasks -/

/-- A piece of the work of a run. -/
inductive Task where
  /-- Announce a list section and create the directories for its pages. -/
  | opening (part : Section)
  /-- Write the page of an entity of a list section. -/
  | page (part : Section) (entity : Entity)
  /-- Write the list page of a section. -/
  | list (part : Section)

/-- Only before a page does a run look whether it was asked to stop. -/
def Task.isPage : Task → Bool
  | .page _ _ => true
  | _ => false

def Task.isList : Task → Bool
  | .list _ => true
  | _ => false

/-- The entities whose pages follow that of an entity: the episodes of a show. -/
def Entity.parts : Entity → List Entity
  | .tvShow item => item.sortedEpisodes.map (.episode item)
  | _ => []

/-- The entities of a list section that get a page, in order. -/
def Library.pages (library : Library) (part : Section) : List Entity :=
  (library.entities part).flatMap fun entity => entity :: entity.parts

/-- The tasks of one list section, up to its list page. -/
def Library.sectionTasks (library : Library) (part : Section) : List Task :=
  .opening part :: (library.pages part).map (.page part)

/-- The tasks of list sections before the first list page. -/
def Library.pageTasks (library : Library) (parts : List Section) : List Task :=
  parts.flatMap library.sectionTasks

/-- All tasks of a run. -/
def Library.plan (library : Library) (sections : List Section) : List Task :=
  library.pageTasks (Exporter.requested sections) ++ (Exporter.requested sections).map .list

/-! ## Performing tasks -/

/-- What a run works on: the workspace, and the entries drawn so far for each list page. -/
structure Desk (σ : Type) where
  workspace : Workspace σ
  entries : Section → List Text

/-- Perform an operation on files.  Where it fails, say why. -/
def Workspace.attempt {σ : Type} (action : FileAction Unit) (workspace : Workspace σ) :
    Option FileError × Workspace σ :=
  match action workspace.files with
  | (.ok (), files) => (none, { workspace with files })
  | (.error error, files) => (some error, { workspace with files })

namespace ExportJob

variable {σ : Type}

/-- Render a template for an entity, with the tables of its page, where nothing can fail. -/
def draw (job : ExportJob σ) (depth : PageDepth) (template : Text) (entity : Entity) :
    StateM (Workspace σ) Text :=
  letI := job.tables.orders depth entity.kind entity.id
  Page.draw job.resolve job.mode depth template entity

theorem render_eq_lift (job : ExportJob σ) (depth : PageDepth) (template : Text)
    (entity : Entity) :
    job.render depth template entity = Render.lift (job.draw depth template entity) :=
  letI := job.tables.orders depth entity.kind entity.id
  Page.render_eq_lift job.resolve job.mode depth template entity

/-- The template for the page of an entity. -/
def pageTemplate (job : ExportJob σ) (part : Section) : Entity → Text
  | .episode _ _ => job.pack.template .episode
  | _ => (part.item?.map job.pack.template).getD []

/-- The block that an entity is entered with in the list page.  Episodes are not entered. -/
def entryBlock (job : ExportJob σ) (part : Section) : Entity → Option Block
  | .episode _ _ => none
  | _ => Run.listBlock job part

def drawEntry (job : ExportJob σ) (block : Option Block) (entity : Entity) :
    StateM (Workspace σ) (List Text) :=
  match block with
  | none => pure []
  | some block => do
    let entry ← job.draw .root block.inner entity
    return [entry]

def writePage (job : ExportJob σ) (entity : Entity) (page : Text) (workspace : Workspace σ) :
    Option FileError × Workspace σ :=
  match itemPath job.root entity.kind entity.id with
  | none => (none, workspace)
  | some path => workspace.attempt (FileTree.write path (.text page))

/-- The list page of a section, from the entries drawn for it. -/
def pendingList (job : ExportJob σ) (entries : Section → List Text) (part : Section) :
    PendingList :=
  ⟨part, job.pack.template part, Run.listBlock job part, entries part⟩

/-- The number of items in the list page of a section, if nothing is left out. -/
def entryCount (job : ExportJob σ) (part : Section) : Nat :=
  if (Run.listBlock job part).isSome then (job.library.entities part).length else 0

def makeDirectories (job : ExportJob σ) (kinds : List Kind) (files : FileTree) : FileTree :=
  kinds.foldl (fun files kind =>
    match kind.pageDirectory? with
    | some directory => (FileTree.makeDirectories (job.root.join ⟨directory⟩) files).2
    | none => files) files

end ExportJob

namespace Task

variable {σ : Type}

/-- Perform a task.  Where its page cannot be written, say why. -/
def perform (job : ExportJob σ) : Task → Desk σ → Option FileError × Desk σ
  | .opening part, desk =>
    let files := job.makeDirectories part.pageKinds desk.workspace.files
    (none, ⟨{ desk.workspace with files }, Function.update desk.entries part []⟩)
  | .page part entity, desk =>
    let (content, workspace) := job.draw .item (job.pageTemplate part entity) entity desk.workspace
    let (entry, workspace) := job.drawEntry (job.entryBlock part entity) entity workspace
    let (fault, workspace) := job.writePage entity content workspace
    (fault, ⟨workspace, Function.update desk.entries part (desk.entries part ++ entry)⟩)
  | .list part, desk =>
    let content := Run.listPage job.mode (job.pendingList desk.entries part)
    let (fault, workspace) :=
      desk.workspace.attempt (FileTree.write (listPath job.root part) (.text content))
    (fault, { desk with workspace })

/-- What is told about a task, given the number of pages before it and why its
page could not be written. -/
def told (job : ExportJob σ) (count : Nat) (fault : Option FileError) : Task → List ExportEvent
  | .opening part => [.sectionStarted part (job.library.entities part).length]
  | .page _ entity =>
    match itemPath job.root entity.kind entity.id, fault with
    | none, _ => []
    | some path, none =>
      [.itemExported (count + 1) entity.kind entity.id entity.title (some path)]
    | some path, some error =>
      [.fileSkipped path error.message,
        .itemExported (count + 1) entity.kind entity.id entity.title none]
  | .list part =>
    match fault with
    | none => [.listWritten part (listPath job.root part) (job.entryCount part)]
    | some error => [.fileSkipped (listPath job.root part) error.message]

end Task

/-! ## Counting events -/

namespace ExportEvent

def isExported : ExportEvent → Bool
  | .itemExported .. => true
  | _ => false

def isListWritten : ExportEvent → Bool
  | .listWritten .. => true
  | _ => false

end ExportEvent

/-- The number of pages that are done after some events. -/
def exportedCount (events : List ExportEvent) : Nat :=
  events.countP ExportEvent.isExported

/-- The number of list pages written in some events. -/
def listCount (events : List ExportEvent) : Nat :=
  events.countP ExportEvent.isListWritten

/-- A watcher that sees these events asks to stop. -/
def Watcher.stops (watch : Watcher) (events : List ExportEvent) : Bool :=
  (events.zipIdx 1).any fun item => watch item.2 item.1

@[simp] theorem Watcher.stops_nil (watch : Watcher) : watch.stops [] = false := rfl

@[simp] theorem Watcher.stops_concat (watch : Watcher) (events : List ExportEvent)
    (event : ExportEvent) :
    watch.stops (events ++ [event]) = (watch.stops events || watch (events.length + 1) event) := by
  simp [stops, List.zipIdx_append, Nat.add_comm]

/-! ## Conducting a plan -/

/-- How far a run has come. -/
structure Leg (σ : Type) where
  finished : Bool
  desk : Desk σ
  events : List ExportEvent

/-- Perform tasks one after the other and tell of each, until the watcher has
asked to stop and a page is next. -/
def conduct {σ : Type} (job : ExportJob σ) (watch : Watcher) :
    List Task → Desk σ → List ExportEvent → Leg σ
  | [], desk, events => ⟨true, desk, events⟩
  | task :: rest, desk, events =>
    if task.isPage && watch.stops events then ⟨false, desk, events⟩
    else
      conduct job watch rest (task.perform job desk).2
        (events ++ task.told job (exportedCount events) (task.perform job desk).1)

theorem conduct_append {σ : Type} (job : ExportJob σ) (watch : Watcher) (first second : List Task)
    (desk : Desk σ) (events : List ExportEvent) :
    conduct job watch (first ++ second) desk events =
      if (conduct job watch first desk events).finished then
        conduct job watch second (conduct job watch first desk events).desk
          (conduct job watch first desk events).events
      else conduct job watch first desk events := by
  induction first generalizing desk events with
  | nil => rfl
  | cons task first inductionHypothesis =>
      rw [List.cons_append, conduct, conduct]
      by_cases stop : (task.isPage && watch.stops events) = true
      · simp only [if_pos stop, Bool.false_eq_true, if_false]
      · simp only [if_neg stop]
        exact inductionHypothesis _ _

/-- What no task of a list does to the entries of a section, conducting them does not do. -/
theorem conduct_entries {σ : Type} {job : ExportJob σ} {part : Section} {tasks : List Task}
    (keeps : ∀ task ∈ tasks, ∀ desk : Desk σ,
      (task.perform job desk).2.entries part = desk.entries part)
    (watch : Watcher) (desk : Desk σ) (events : List ExportEvent) :
    (conduct job watch tasks desk events).desk.entries part = desk.entries part := by
  induction tasks generalizing desk events with
  | nil => rfl
  | cons task tasks inductionHypothesis =>
      rw [conduct]
      split
      · rfl
      · rw [inductionHypothesis (List.forall_mem_cons.mp keeps).2]
        exact keeps task List.mem_cons_self desk

/-- Only before a page can a run come to a stop. -/
theorem finished_of_no_page {σ : Type} (job : ExportJob σ) (watch : Watcher) {tasks : List Task}
    (noPage : ∀ task ∈ tasks, task.isPage = false) (desk : Desk σ) (events : List ExportEvent) :
    (conduct job watch tasks desk events).finished = true := by
  induction tasks generalizing desk events with
  | nil => rfl
  | cons task tasks inductionHypothesis =>
      have own := noPage task List.mem_cons_self
      rw [conduct, own, Bool.false_and, if_neg Bool.false_ne_true]
      exact inductionHypothesis (List.forall_mem_cons.mp noPage).2 _ _

theorem isPage_lists (parts : List Section) :
    ∀ task ∈ parts.map Task.list, task.isPage = false := by
  intro task member
  rcases List.mem_map.mp member with ⟨part, _, rfl⟩
  rfl

end MediaSite
