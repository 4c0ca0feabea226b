import MediaSite.Picture.Transcode
import MediaSite.Site.Pack
import MediaSite.Site.Page

namespace MediaSite

/-!
# Export runs

A run makes a site: it copies the assets of the pack, walks through the
requested list sections in their fixed order, writes one page per item, and
writes the list pages when all sections are done.  Every page is a unit of
work.  Before a unit begins the run looks whether it was asked to stop; a run
that stops leaves the pages written so far behind, but writes no list page.

What happens is told in events.  A watcher sees each event with its number
and may ask the run to stop.  Failures stay with the unit they concern; only a
failure to set up the output ends a run with an error.
-/

open scoped Text

/-! ## Events and outcomes -/

/-- What a run tells about its progress. -/
inductive ExportEvent where
  | sectionStarted (part : Section) (total : Nat)
  /-- A unit of work is done.  The path is that of the page, if it was written. -/
  | itemExported (count : Nat) (kind : Kind) (id : UInt64) (title : Text) (path : Option Path)
  /-- An item could not be rendered. -/
  | itemSkipped (kind : Kind) (id : UInt64) (error : Text)
  /-- A page could not be written. -/
  | fileSkipped (path : Path) (error : Text)
  | listWritten (part : Section) (path : Path) (items : Nat)
  deriving DecidableEq

/-- Sees each event of a run with its number, from one on, and says whether
the run shall stop. -/
abbrev Watcher := Nat → ExportEvent → Bool

/-- Where an exporter stands. -/
inductive ExportState where
  | idle
  | running
  | completed
  | cancelled
  deriving DecidableEq, Repr

/-- What a run did. -/
structure ExportOutcome where
  state : ExportState
  exported : Nat
  listsWritten : Nat
  assetsCopied : Nat
  deriving DecidableEq, Repr

/-- Why a run could not be set up. -/
inductive ExportError where
  | file (error : FileError)
  | pack (error : PackError)
  deriving DecidableEq

/-- The message of a failure. -/
def ExportError.message : ExportError → Text
  | .file error => error.report
  | .pack error => "Template pack error: " ++ error.message

/-- The orders of the tables of all pages of a run: of the pages of items and of the
entries in list pages, by the kind and id of what they are rendered for. -/
class PageTables where
  orders : PageDepth → Kind → UInt64 → TableOrders

instance (priority := low) PageTables.asMade : PageTables :=
  ⟨fun _ _ _ => .asMade⟩

/-- Everything that a run works from. -/
structure ExportJob (σ : Type) where
  library : Library
  pack : Pack
  resolve : Resolver (Workspace σ)
  /-- The output directory. -/
  root : Path
  mode : BlockMatch
  [tables : PageTables]

/-- Render a template for an entity, with the tables of its page. -/
def ExportJob.render (job : ExportJob σ) (depth : PageDepth) (template : Text)
    (entity : Entity) : Render (Workspace σ) Text :=
  letI := job.tables.orders depth entity.kind entity.id
  Page.render job.resolve job.mode depth template entity

/-- The page of an item. -/
def itemPath (root : Path) (kind : Kind) (id : UInt64) : Option Path :=
  (kind.pagePath? id).map root.join

/-- The list page of a section. -/
def listPath (root : Path) (part : Section) : Path :=
  root.join ⟨part.fileName⟩

/-- The entities of a list section in export order. -/
def Library.entities (library : Library) : Section → List Entity
  | .movies => library.sortedMovies.map .movie
  | .tvShows => library.sortedTvShows.map .tvShow
  | .concerts => library.sortedConcerts.map .concert
  | _ => []

/-- The kinds of the pages that a list section writes. -/
def Section.pageKinds : Section → List Kind
  | .movies => [.movie]
  | .tvShows => [.tvShow, .episode]
  | .concerts => [.concert]
  | _ => []

/-! ## The progress of a run -/

/-- A run on its way. -/
structure Run (σ : Type) where
  workspace : Workspace σ
  events : List ExportEvent
  count : Nat
  stopping : Bool
  listsWritten : Nat

/-- A list page that waits for the end of the run. -/
structure PendingList where
  part : Section
  template : Text
  block : Option Block
  entries : List Text

namespace Run

/-- A run before its first event. -/
def start (workspace : Workspace σ) : Run σ :=
  ⟨workspace, [], 0, false, 0⟩

/-- Tell an event to the watcher. -/
def notify (watch : Watcher) (event : ExportEvent) (run : Run σ) : Run σ :=
  { run with
    events := run.events ++ [event]
    stopping := run.stopping || watch (run.events.length + 1) event }

/-- Perform an operation on files. -/
def onFiles (action : FileAction α) (run : Run σ) : Except FileError α × Run σ :=
  let (outcome, files) := action run.workspace.files
  (outcome, { run with workspace := { run.workspace with files } })

/-- Render a template for an entity. -/
def render (job : ExportJob σ) (depth : PageDepth) (template : Text) (entity : Entity)
    (run : Run σ) : Except TemplateError Text × Run σ :=
  let (outcome, workspace) := (job.render depth template entity).run run.workspace
  (outcome, { run with workspace })

/-- Tell that an entity could not be rendered. -/
def skip (watch : Watcher) (entity : Entity) (error : TemplateError) (run : Run σ) : Run σ :=
  run.notify watch (.itemSkipped entity.kind entity.id error.message)

/-- Write the page of an entity, and count it. -/
def emit (job : ExportJob σ) (watch : Watcher) (entity : Entity) (page : Text) (run : Run σ) :
    Run σ :=
  match itemPath job.root entity.kind entity.id with
  | none => run
  | some path =>
    match run.onFiles (FileTree.write path (.text page)) with
    | (.ok (), run) =>
      { run with count := run.count + 1 }.notify watch
        (.itemExported (run.count + 1) entity.kind entity.id entity.title (some path))
    | (.error error, run) =>
      let run := run.notify watch (.fileSkipped path error.message)
      { run with count := run.count + 1 }.notify watch
        (.itemExported (run.count + 1) entity.kind entity.id entity.title none)

/-- Export the pages of episodes.  False if the run stopped before the end. -/
def exportEpisodes (job : ExportJob σ) (watch : Watcher) (item : TvShow) :
    List Episode → Run σ → Bool × Run σ
  | [], run => (true, run)
  | episode :: rest, run =>
    if run.stopping then (false, run)
    else
      let entity := Entity.episode item episode
      match run.render job .item (job.pack.template .episode) entity with
      | (.ok page, run) => exportEpisodes job watch item rest (run.emit job watch entity page)
      | (.error error, run) =>
        exportEpisodes job watch item rest (run.skip watch entity error)

/-- Render the entry of an entity in its list page, if the page has a block. -/
def renderEntry (job : ExportJob σ) (watch : Watcher) (block : Option Block) (entity : Entity)
    (run : Run σ) : List Text × Run σ :=
  match block with
  | none => ([], run)
  | some block =>
    match run.render job .root block.inner entity with
    | (.ok entry, run) => ([entry], run)
    | (.error error, run) => ([], run.skip watch entity error)

/-- Export the pages that belong to an entity besides its own. -/
def exportParts (job : ExportJob σ) (watch : Watcher) (entity : Entity) (run : Run σ) :
    Bool × Run σ :=
  match entity with
  | .tvShow item => exportEpisodes job watch item item.sortedEpisodes run
  | _ => (true, run)

/-- Export entities, and collect their entries for the list page.  None if the
run stopped before the end. -/
def exportEntities (job : ExportJob σ) (watch : Watcher) (template : Text)
    (block : Option Block) : List Entity → List Text → Run σ → Option (List Text) × Run σ
  | [], entries, run => (some entries, run)
  | entity :: rest, entries, run =>
    if run.stopping then (none, run)
    else
      match run.render job .item template entity with
      | (.error error, run) =>
        exportEntities job watch template block rest entries (run.skip watch entity error)
      | (.ok page, run) =>
        let (entry, run) := run.renderEntry job watch block entity
        match (run.emit job watch entity page).exportParts job watch entity with
        | (false, run) => (none, run)
        | (true, run) => exportEntities job watch template block rest (entries ++ entry) run

/-- Create the directories for pages of some kinds.  Where that fails, writing
the pages will. -/
def makePageDirectories (root : Path) (kinds : List Kind) (run : Run σ) : Run σ :=
  kinds.foldl (fun run kind =>
    match kind.pageDirectory? with
    | some directory => (run.onFiles (FileTree.makeDirectories (root.join ⟨directory⟩))).2
    | none => run) run

/-- The block of a list template that is repeated for each item. -/
def listBlock (job : ExportJob σ) (part : Section) : Option Block :=
  part.listBlock?.bind fun name =>
    match Block.find job.mode name (job.pack.template part) with
    | .ok block => block
    | .error _ => none

/-- Export a list section.  None if the run stopped before the end. -/
def exportSection (job : ExportJob σ) (watch : Watcher) (part : Section) (run : Run σ) :
    Option PendingList × Run σ :=
  let entities := job.library.entities part
  let run := run.notify watch (.sectionStarted part entities.length)
  let block := listBlock job part
  let run := run.makePageDirectories job.root part.pageKinds
  let template := (part.item?.map job.pack.template).getD []
  match exportEntities job watch template block entities [] run with
  | (some entries, run) => (some ⟨part, job.pack.template part, block, entries⟩, run)
  | (none, run) => (none, run)

/-- Export sections one after the other.  None if the run stopped before the end. -/
def exportSections (job : ExportJob σ) (watch : Watcher) :
    List Section → Run σ → Option (List PendingList) × Run σ
  | [], run => (some [], run)
  | part :: rest, run =>
    match run.exportSection job watch part with
    | (none, run) => (none, run)
    | (some list, run) =>
      match exportSections job watch rest run with
      | (some lists, run) => (some (list :: lists), run)
      | (none, run) => (none, run)

/-- The text of a list page. -/
def listPage (mode : BlockMatch) (list : PendingList) : Text :=
  match list.block with
  | some block => block.replace mode (Block.joinItems list.entries)
  | none => list.template

/-- Write a list page. -/
def writeList (job : ExportJob σ) (watch : Watcher) (list : PendingList) (run : Run σ) : Run σ :=
  let path := listPath job.root list.part
  match run.onFiles (FileTree.write path (.text (listPage job.mode list))) with
  | (.ok (), run) =>
    { run with listsWritten := run.listsWritten + 1 }.notify watch
      (.listWritten list.part path list.entries.length)
  | (.error error, run) => run.notify watch (.fileSkipped path error.message)

/-- Write list pages one after the other. -/
def writeLists (job : ExportJob σ) (watch : Watcher) (lists : List PendingList) (run : Run σ) :
    Run σ :=
  lists.foldl (fun run list => run.writeList job watch list) run

end Run

/-! ## Exporters -/

/-- What an exporter remembers between its runs. -/
structure Exporter where
  state : ExportState := .idle
  count : Nat := 0
  /-- Was asked to stop. -/
  stopping : Bool := false
  deriving DecidableEq, Repr

/-- What a run leaves behind. -/
structure RunReport (σ : Type) where
  outcome : Except ExportError ExportOutcome
  exporter : Exporter
  workspace : Workspace σ
  events : List ExportEvent

namespace Exporter

/-- Back to the beginning. -/
def reset (_exporter : Exporter) : Exporter :=
  {}

/-- Ask a run to stop. -/
def cancel (exporter : Exporter) : Exporter :=
  { exporter with stopping := true }

/-- The list sections among those requested, in the order of a run. -/
def requested (sections : List Section) : List Section :=
  Section.lists.filter fun part => sections.contains part

/-- Set up the output directory: create it and copy the assets of the pack. -/
def setUp (job : ExportJob σ) (tree : FileTree) : Except ExportError Nat × FileTree :=
  match FileTree.makeDirectories job.root tree with
  | (.error error, tree) => (.error (.file error), tree)
  | (.ok (), tree) =>
    match job.pack.copyAssets job.root tree with
    | (.error error, tree) => (.error (.pack (.file error)), tree)
    | (.ok copied, tree) => (.ok copied, tree)

/-- The end of a run in some state. -/
def finish (state : ExportState) (copied : Nat) (run : Run σ) : RunReport σ where
  outcome := .ok ⟨state, run.count, run.listsWritten, copied⟩
  exporter := { state, count := run.count, stopping := run.stopping }
  workspace := run.workspace
  events := run.events

/-- Export sections.  Other sections than list sections are ignored, and their
order does not matter.  A run forgets what the exporter remembers. -/
def run (job : ExportJob σ) (watch : Watcher) (sections : List Section) (exporter : Exporter)
    (workspace : Workspace σ) : RunReport σ :=
  match setUp job workspace.files with
  | (.error error, files) => {
      outcome := .error error
      exporter := exporter.reset
      workspace := { workspace with files }
      events := [] }
  | (.ok copied, files) =>
    match (Run.start { workspace with files }).exportSections job watch (requested sections) with
    | (none, run) => finish .cancelled copied run
    | (some lists, run) => finish .completed copied (run.writeLists job watch lists)

end Exporter
end MediaSite
