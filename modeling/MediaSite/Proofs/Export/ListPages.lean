import MediaSite.Proofs.Export.Layout
import MediaSite.Proofs.Files.Writing
import MediaSite.Proofs.Site.Lockstep

namespace MediaSite

/-!
# List pages

No list page is rendered in one go.  Its block is looked for before the first page of
its section, its entries are drawn between the pages of the items, and it is put
together and written when all sections are through.  With a resolver whose answers do
not change meanwhile this comes to the same as repeating the block for all items at
once (`ExportJob.lists_pendingList`).

What a list page holds after the run is another matter, for two of them may be one
file under two names.  What counts is which list page was written to a file last:
`Exporter.lists_expand`.
-/

open scoped Text

variable {σ : Type}

/-! ## Constant resolvers -/

/-- What this resolver answers depends on the request only. -/
def Resolver.Constant (resolve : Resolver σ) : Prop :=
  ∀ request first second, (resolve request first).1 = (resolve request second).1

/-- With a constant resolver, what is drawn does not depend on when. -/
theorem Resolver.Constant.draw {job : ExportJob σ} (constant : job.resolve.Constant)
    (depth : PageDepth) (template : Text) (entity : Entity) (first second : Workspace σ) :
    (job.draw depth template entity first).1 = (job.draw depth template entity second).1 := by
  have answers (request : ImageRequest) : Page.Lockstep (fun _ _ => True) (job.resolve request)
      (job.resolve request) := fun first second _ => ⟨constant request first second, trivial⟩
  let := job.tables.orders depth entity.kind entity.id
  exact (Page.lockstep_draw answers job.mode depth template entity first second trivial).1

theorem Resolver.Constant.drawEntry {job : ExportJob σ} (constant : job.resolve.Constant)
    (block : Option Block) (entity : Entity) (first second : Workspace σ) :
    (job.drawEntry block entity first).1 = (job.drawEntry block entity second).1 := by
  cases block with
  | none => rfl
  | some block =>
      exact congrArg (fun entry => [entry])
        (constant.draw .root block.inner entity first second)

/-- Steps that do not depend on the state return what each would from any state. -/
theorem mapM_of_constant {α β : Type} {step : α → StateM σ β}
    (constant : ∀ item first second, (step item first).1 = (step item second).1)
    (items : List α) (state other : σ) :
    (items.mapM step state).1 = items.map fun item => (step item other).1 := by
  induction items generalizing state with
  | nil => rfl
  | cons item items inductionHypothesis =>
      rw [List.mapM_cons, List.map_cons, ← inductionHypothesis (step item state).2,
        constant item other state]
      rfl

/-! ## Entries -/

section Entries

variable {job : ExportJob σ}

/-- The entries for the list page of a section, each drawn from the same workspace. -/
def ExportJob.entries (job : ExportJob σ) (part : Section) (entities : List Entity)
    (workspace : Workspace σ) : List Text :=
  entities.flatMap fun entity => (job.drawEntry (Run.listBlock job part) entity workspace).1

theorem entries_performAll_entities (constant : job.resolve.Constant) (part : Section)
    {entities : List Entity} (members : ∀ entity ∈ entities, entity ∈ job.library.entities part)
    (desk : Desk σ) (workspace : Workspace σ) :
    (performAll job ((entities.flatMap fun entity => entity :: entity.parts).map (.page part))
        desk).entries part =
      desk.entries part ++ job.entries part entities workspace := by
  induction entities generalizing desk with
  | nil => exact (List.append_nil _).symm
  | cons entity entities inductionHypothesis =>
      have inRest := inductionHypothesis (List.forall_mem_cons.mp members).2
      rcases Run.entity_of_section job (members entity List.mem_cons_self) with ⟨_, block⟩
      have kept := Run.entries_parts job (fun _ _ => false) part entity
        ((Task.page part entity).perform job desk).2 []
      rw [← performAll_eq_conduct] at kept
      have entered : ((Task.page part entity).perform job desk).2.entries part =
          desk.entries part ++ (job.drawEntry (Run.listBlock job part) entity workspace).1 := by
        have own : ((Task.page part entity).perform job desk).2.entries part = desk.entries part ++
            (job.drawEntry (job.entryBlock part entity) entity (job.draw .item
              (job.pageTemplate part entity) entity desk.workspace).2).1 :=
          Function.update_self part _ _
        rw [own, block, constant.drawEntry _ _ _ workspace]
      rw [List.flatMap_cons, List.cons_append, List.map_cons, List.map_append, performAll,
        performAll_append, inRest, kept, entered, List.append_assoc]
      rfl

/-- When all sections are through, each list page has the entries of its section. -/
theorem entries_performAll (constant : job.resolve.Constant) {parts : List Section}
    (distinct : parts.Nodup) (desk : Desk σ) (workspace : Workspace σ) {part : Section}
    (member : part ∈ parts) :
    (performAll job (job.library.pageTasks parts) desk).entries part =
      job.entries part (job.library.entities part) workspace := by
  induction parts generalizing desk with
  | nil => cases member
  | cons other parts inductionHypothesis =>
      rcases List.nodup_cons.mp distinct with ⟨fresh, distinctRest⟩
      have split : job.library.pageTasks (other :: parts) =
          job.library.sectionTasks other ++ job.library.pageTasks parts := rfl
      rw [split, performAll_append]
      rcases List.mem_cons.mp member with rfl | inRest
      · have kept := Run.entries_pageTasks job fresh (fun _ _ => false)
          (performAll job (job.library.sectionTasks part) desk) []
        have opened : ((Task.opening part).perform job desk).2.entries part = [] :=
          Function.update_self part _ _
        have own := entries_performAll_entities constant part (fun entity member => member)
          ((Task.opening part).perform job desk).2 workspace
        rw [← performAll_eq_conduct] at kept
        rw [opened, List.nil_append] at own
        exact kept.trans own
      · exact inductionHypothesis distinctRest _ inRest

end Entries

/-! ## The text of a list page -/

/-- The text of a section's list page and the number of its items: its template with the
block repeated for the entities of the section, each rendered for a page at the root; or
its template as it is, without items, if there is no complete block in it. -/
def ExportJob.Lists (job : ExportJob σ) (part : Section) (content : Text) (items : Nat) : Prop :=
  ∃ name block, part.listBlock? = some name ∧
    Block.find job.mode name (job.pack.template part) = .ok block ∧
    items = (if block.isSome then (job.library.entities part).length else 0) ∧
    (block = none → content = job.pack.template part) ∧
    ∀ workspace, ((Block.expandItems job.mode name (job.library.entities part)
      (fun inner entity => job.render .root inner entity)
      (job.pack.template part)).run workspace).1 = .ok content

theorem Section.exists_listBlock {sections : List Section} {part : Section}
    (requested : part ∈ Exporter.requested sections) :
    ∃ name, part.listBlock? = some name ∧ Text.byteLength name ≤ Block.nameLimit := by
  have isList : part ∈ Section.lists := (List.mem_filter.mp requested).1
  cases part with
  | movies => exact ⟨_, rfl, by decide⟩
  | tvShows => exact ⟨_, rfl, by decide⟩
  | concerts => exact ⟨_, rfl, by decide⟩
  | _ => exact absurd isList (by decide)

/-- A list page that is put together from all its entries is the expansion of its template. -/
theorem ExportJob.lists_pendingList {job : ExportJob σ} (constant : job.resolve.Constant)
    {part : Section} {name : Text} (named : part.listBlock? = some name)
    (short : Text.byteLength name ≤ Block.nameLimit) {entries : Section → List Text}
    (workspace : Workspace σ)
    (complete : entries part = job.entries part (job.library.entities part) workspace) :
    job.Lists part (Run.listPage job.mode (job.pendingList entries part))
      (job.entryCount part) := by
  have found := Block.find_eq_ok short job.mode (job.pack.template part)
  have listBlock : Run.listBlock job part =
      Block.select job.mode name (job.pack.template part) := by
    rw [Run.listBlock, named, Option.bind_some, found]
  refine ⟨name, _, named, found, by rw [entryCount, listBlock], ?_, fun state => ?_⟩
  · intro missing
    rw [Run.listPage, pendingList, listBlock, missing]
  · simp only [ExportJob.render_eq_lift, Block.expandItems_eq_lift short]
    change Except.ok (Block.withItems job.mode name (job.library.entities part)
      (fun inner entity => job.draw .root inner entity)
      (job.pack.template part) state).1 = _
    rw [Run.listPage, pendingList, Block.withItems, complete, listBlock]
    cases selected : Block.select job.mode name (job.pack.template part) with
    | none => rfl
    | some block =>
        have drawn := mapM_of_constant (fun entity first second =>
          constant.draw .root block.inner entity first second)
          (job.library.entities part) state workspace
        have entered : job.entries part (job.library.entities part) workspace =
            (job.library.entities part).map fun entity =>
              (job.draw .root block.inner entity workspace).1 := by
          rw [ExportJob.entries, listBlock, selected, List.map_eq_flatMap]
          rfl
        simp only [entered, ← drawn]
        rfl

/-! ## Writing list pages -/

/-- The section whose list page was written in a deed. -/
def Deed.list? : Deed → Option Section
  | ⟨.list part, none⟩ => some part
  | _ => none

/-- The list page that is told to be written: its section, path and number of items. -/
def ExportEvent.list? : ExportEvent → Option (Section × Path × Nat)
  | .listWritten part path items => some (part, path, items)
  | _ => none

/-- What is told about deeds tells the list pages written in them. -/
theorem lists_narrate (job : ExportJob σ) (count : Nat) (deeds : List Deed) :
    (narrate job count deeds).filterMap ExportEvent.list? =
      (deeds.filterMap Deed.list?).map fun part =>
        (part, listPath job.root part, job.entryCount part) := by
  rw [List.map_filterMap]
  refine filterMap_narrate (fun deed count => ?_) count deeds
  rcases deed with ⟨task, fault⟩
  cases task with
  | opening part => rfl
  | page part entity => cases entity <;> cases fault <;> rfl
  | list part => cases fault <;> rfl

theorem Deed.task_of_list? {deed : Deed} {part : Section} (found : deed.list? = some part) :
    deed.task = .list part := by
  rcases deed with ⟨task, fault⟩
  cases task with
  | opening part => cases found
  | page part entity => cases found
  | list part =>
      cases fault with
      | none => exact congrArg Task.list (Option.some.inj found)
      | some error => cases found

/-- Only list tasks write list pages. -/
theorem list_mem_of_deeds {job : ExportJob σ} {tasks : List Task} {desk : Desk σ} {part : Section}
    (member : part ∈ (deeds job tasks desk).filterMap Deed.list?) : .list part ∈ tasks := by
  rcases List.mem_filterMap.mp member with ⟨deed, inDeeds, found⟩
  rw [← Deed.task_of_list? found, ← map_task_deeds job tasks desk]
  exact List.mem_map_of_mem inDeeds

theorem lists_deeds_pageTasks (job : ExportJob σ) (parts : List Section) (desk : Desk σ) :
    (deeds job (job.library.pageTasks parts) desk).filterMap Deed.list? = [] := by
  apply List.eq_nil_iff_forall_not_mem.mpr
  intro part written
  rcases List.mem_flatMap.mp (list_mem_of_deeds written) with ⟨owner, _, inSection⟩
  rcases List.mem_cons.mp inSection with opening | inPages
  · cases opening
  · rcases List.mem_map.mp inPages with ⟨entity, _, page⟩
    cases page

/-- A write is refused and changes nothing, and then its path names no file that may be
written; or its content, or part of it if there is no room, stands where the path leads. -/
theorem Workspace.attempt_write (path : Path) (content : Content) (workspace : Workspace σ) :
    (∃ error, workspace.attempt (FileTree.write path content) = (some error, workspace) ∧
      ∀ location old, workspace.files.find path = .ok (location, .file old) →
        location ∈ workspace.files.medium.locked) ∨
    ∃ location held fault,
      workspace.attempt (FileTree.write path content) =
        (fault, { workspace with files := workspace.files.put location (.file held) }) ∧
      FileTree.Opens workspace.files path location ∧
      (fault = none ∧ held = content ∨
        fault = some .noSpace ∧ ¬ workspace.files.HasRoom location content) := by
  unfold attempt
  rcases FileTree.write_cases path content workspace.files with
    ⟨error, refused, locked⟩ | ⟨location, opens, ⟨_, written⟩ | ⟨short, part, broken⟩⟩
  · rw [refused]
    exact .inl ⟨error, rfl, fun location old found => (locked location old found).2⟩
  · rw [written]
    exact .inr ⟨location, content, none, rfl, opens, .inl ⟨rfl, rfl⟩⟩
  · rw [broken]
    exact .inr ⟨location, part, _, rfl, opens, .inr ⟨rfl, short⟩⟩

/-- A list page that was opened: where it stands, of which section it is, what it holds since,
and whether that is all of it. -/
structure ListVisit where
  location : Location
  part : Section
  held : Content
  whole : Bool

/-- Writing list pages changes the files that are opened, and a list page that was opened goes
on to be named by its path. -/
theorem visited_lists (job : ExportJob σ) (parts : List Section) (desk : Desk σ) :
    let page part := Content.text (Run.listPage job.mode (job.pendingList desk.entries part))
    let after := (performAll job (parts.map .list) desk).workspace.files
    ∃ visits : List ListVisit,
      (visits.filter (·.whole)).map (·.part) =
        (deeds job (parts.map .list) desk).filterMap Deed.list? ∧
      FileTree.Changes desk.workspace.files after
        (visits.map fun visit => (visit.location, visit.held)) ∧
      (visits.map (·.part)).Sublist parts ∧
      ∀ visit ∈ visits,
        (∃ content, after.find (listPath job.root visit.part) =
          .ok (visit.location, .file content)) ∧
        (visit.whole = true → visit.held = page visit.part) ∧
        (visit.whole = false → ¬ after.HasRoom visit.location (page visit.part)) := by
  induction parts generalizing desk with
  | nil => exact ⟨[], rfl, FileTree.Changes.refl _, List.Sublist.refl _, nofun⟩
  | cons part parts inductionHypothesis =>
      have written := desk.workspace.attempt_write (listPath job.root part)
        (.text (Run.listPage job.mode (job.pendingList desk.entries part)))
      simp only [List.map_cons, performAll, deeds, Task.perform]
      rcases written with ⟨error, failed, _⟩ | ⟨location, held, fault, opened, opens, outcome⟩
      · rw [failed]
        rcases inductionHypothesis desk with ⟨visits, lists, later, visited, each⟩
        refine ⟨visits, ?_, later, visited.cons part, each⟩
        rw [lists]
        exact (List.filterMap_cons_none (f := Deed.list?) rfl).symm
      · rw [opened]
        have first := opens.changes held
        rcases inductionHypothesis { desk with workspace := { desk.workspace with
          files := desk.workspace.files.put location (.file held) } } with
          ⟨visits, lists, later, visited, each⟩
        have named := later.find_file (opens.leads held)
        rcases outcome with ⟨rfl, rfl⟩ | ⟨rfl, short⟩
        · refine ⟨⟨location, part, _, true⟩ :: visits, ?_, first.trans later,
            visited.cons_cons part, List.forall_mem_cons.mpr ⟨⟨named, fun _ => rfl,
              fun broken => absurd broken Bool.false_ne_true.symm⟩, each⟩⟩
          rw [List.filter_cons_of_pos rfl, List.map_cons, lists]
          exact (List.filterMap_cons_some (f := Deed.list?) rfl).symm
        · refine ⟨⟨location, part, held, false⟩ :: visits, ?_, first.trans later,
            visited.cons_cons part, List.forall_mem_cons.mpr ⟨⟨named,
              fun whole => absurd whole Bool.false_ne_true, fun _ => ?_⟩, each⟩⟩
          · rw [List.filter_cons_of_neg Bool.false_ne_true, lists]
            exact (List.filterMap_cons_none (f := Deed.list?) rfl).symm
          · rwa [(first.trans later).hasRoom_iff]

/-- Without links, what two list pages are written to is one file only if they are of the
same section: the location that a path leads to ends with the last name of the path. -/
theorem Section.eq_of_find_listPath {tree : FileTree} (free : tree.LinkFree) {root : Path}
    {part other : Section} {location : Location} {content another : Content}
    (own : tree.find (listPath root part) = .ok (location, .file content))
    (same : tree.find (listPath root other) = .ok (location, .file another)) : part = other := by
  rw [listPath_eq] at own same
  rcases free.find_joinNames part.downward_fileName own with ⟨above, ends⟩
  rcases free.find_joinNames other.downward_fileName same with ⟨front, endsSame⟩
  rw [ends] at endsSame
  exact Section.fileName_injective (List.singleton_inj.mp (List.append_inj_right' endsSame rfl))

/-! ## Two list pages in one file -/

/-- A site whose list page of movies is a link to that of shows. -/
def Workspace.linked : Workspace Unit where
  files := { entries := [(["pack"], .directory), (["out"], .directory), (["out", "movies"], .directory),
    (["out", "tvshows"], .directory), (["out", "episodes"], .directory),
    (["out", "movies.html"], .link ⟨"tvshows.html"⟩)] }
  side := ()

/-- List templates without blocks. -/
def ExportJob.linked : ExportJob Unit where
  library := {}
  pack := { root := ⟨"pack"⟩, manifest := {}, templates := [(.movies, "M"), (.tvShows, "T")] }
  resolve := fun _ workspace => ([], workspace)
  root := ⟨"out"⟩
  mode := .first

theorem ExportJob.setUp_linked :
    Exporter.setUp linked Workspace.linked.files = (.ok 0, Workspace.linked.files) := by
  cbv

/-- The site with a text in the file that both list pages are. -/
def Workspace.linkedWith (content : Text) : Workspace Unit where
  files := { entries := [(["pack"], .directory), (["out"], .directory), (["out", "movies"], .directory),
    (["out", "tvshows"], .directory), (["out", "episodes"], .directory),
    (["out", "movies.html"], .link ⟨"tvshows.html"⟩),
    (["out", "tvshows.html"], .file (.text content))] }
  side := ()

/-- Both list pages are written, the second over the first. -/
theorem ExportJob.performAll_linked (entries : Section → List Text) :
    let tasks := linked.library.plan [.movies, .tvShows]
    (deeds linked tasks ⟨.linked, entries⟩).filterMap Deed.list? = [.movies, .tvShows] ∧
      (performAll linked tasks ⟨.linked, entries⟩).workspace = .linkedWith "T" := by
  have opening (part : Section) (kept : linked.makeDirectories part.pageKinds
      Workspace.linked.files = Workspace.linked.files) (entries : Section → List Text) :
      (Task.opening part).perform linked ⟨.linked, entries⟩ =
        (none, ⟨.linked, Function.update entries part []⟩) := by
    simp only [Task.perform, kept]
  have list {part : Section} {content : Text} {workspace done : Workspace Unit}
      (template : linked.pack.template part = content) (noBlock : Run.listBlock linked part = none)
      (written : FileTree.write (listPath linked.root part) (.text content) workspace.files =
        (.ok (), done.files)) (entries : Section → List Text) :
      (Task.list part).perform linked ⟨workspace, entries⟩ = (none, ⟨done, entries⟩) := by
    simp only [Task.perform, Run.listPage, pendingList, noBlock, template, Workspace.attempt,
      written]
  have movies : FileTree.write (listPath linked.root .movies) (.text "M") Workspace.linked.files =
      (.ok (), (Workspace.linkedWith "M").files) := by
    change FileTree.write ⟨"out/movies.html"⟩ _ _ = _
    cbv
  have shows_ : FileTree.write (listPath linked.root .tvShows) (.text "T")
      (Workspace.linkedWith "M").files = (.ok (), (Workspace.linkedWith "T").files) := by
    change FileTree.write ⟨"out/tvshows.html"⟩ _ _ = _
    cbv
  have plan : linked.library.plan [.movies, .tvShows] =
      [.opening .movies, .opening .tvShows, .list .movies, .list .tvShows] := by cbv
  simp only [plan, deeds, performAll, opening .movies (by cbv), opening .tvShows (by cbv),
    list rfl (by cbv) movies, list rfl (by cbv) shows_]
  exact ⟨rfl, trivial⟩

theorem Exporter.run_linked :
    let report := run ExportJob.linked (fun _ _ => false) [.movies, .tvShows] {} .linked
    (∃ outcome, report.outcome = .ok outcome ∧ outcome.state = .completed) ∧
      report.events.filterMap ExportEvent.list? =
        [(.movies, listPath ExportJob.linked.root .movies, 0),
          (.tvShows, listPath ExportJob.linked.root .tvShows, 0)] ∧
      report.workspace = .linkedWith "T" := by
  rcases completed_of_quiet ExportJob.linked (fun _ _ => rfl) [.movies, .tvShows] {}
    ExportJob.setUp_linked with ⟨outcome, ended, completed⟩
  rcases run_of_outcome ended with ⟨files, done, rest, ready, split, whole, after, told⟩
  rw [whole completed, List.append_nil] at split
  subst split
  have sameFiles := (Prod.mk.inj (ExportJob.setUp_linked.symm.trans ready)).2
  subst sameFiles
  rcases ExportJob.performAll_linked (fun _ => []) with ⟨lists, workspace⟩
  have counts : ExportJob.linked.entryCount .movies = 0 ∧
      ExportJob.linked.entryCount .tvShows = 0 := by
    constructor <;> cbv
  refine ⟨⟨outcome, ended, completed⟩, ?_, after.trans workspace⟩
  rw [told, lists_narrate]
  change ((deeds _ _ ⟨.linked, _⟩).filterMap Deed.list?).map _ = _
  rw [lists, List.map_cons, List.map_singleton, counts.1, counts.2]

/-! ## What list pages hold -/

/-- In a file in which every list page is whole, the last that was opened is the last that was
written. -/
theorem lastWritten_visits {visits : List ListVisit} {visit : ListVisit} (member : visit ∈ visits)
    (whole : ∀ other ∈ visits, other.location = visit.location → other.whole = true) :
    ∃ last ∈ visits, last.location = visit.location ∧ last.whole = true ∧
      FileTree.lastWritten (visits.map fun visit => (visit.location, visit.held))
        visit.location = some last.held ∧
      FileTree.lastWritten ((visits.filter (·.whole)).map fun visit =>
        (visit.location, visit.part)) visit.location = some last.part := by
  let keyed := visits.map fun visit => (visit.location, visit)
  have opened : visit.location ∈ keyed.map Prod.fst :=
    List.mem_map.mpr ⟨_, List.mem_map_of_mem member, rfl⟩
  rcases FileTree.exists_lastWritten opened with ⟨last, isLast⟩
  rcases List.mem_map.mp (FileTree.mem_of_lastWritten isLast) with ⟨_, inVisits, same⟩
  rcases Prod.mk.inj same with ⟨place, rfl⟩
  have held := FileTree.lastWritten_map keyed ListVisit.held visit.location
  have part := FileTree.lastWritten_map (keyed.filter (·.2.whole)) ListVisit.part visit.location
  have kept : FileTree.lastWritten (keyed.filter (·.2.whole)) visit.location =
      FileTree.lastWritten keyed visit.location := by
    refine FileTree.lastWritten_filter fun item inKeyed there => ?_
    rcases List.mem_map.mp inKeyed with ⟨other, inOthers, rfl⟩
    exact whole other inOthers there
  rw [isLast, List.map_map] at held
  rw [kept, isLast, List.filter_map, List.map_map] at part
  exact ⟨_, inVisits, place, whole _ inVisits place, held, part⟩

/-- What the list pages of a run hold, given where each was written. -/
structure ListsHold (job : ExportJob σ) (report : RunReport σ)
    (written : List (Location × Section)) : Prop where
  told : report.events.filterMap ExportEvent.list? = written.map fun item =>
    (item.2, listPath job.root item.2, job.entryCount item.2)
  /-- The number that is told is that of the items in the expanded template. -/
  counted : ∀ item ∈ written, ∃ content, job.Lists item.2 content (job.entryCount item.2)
  /-- A file holds the list page that was written to it last.  Another list page may have been
  opened in the same file later and have broken off, but only over a link and without room. -/
  held : ∀ item ∈ written,
    report.workspace.files.LinkFree ∨ (∀ content, report.workspace.files.HasRoom item.1 content) →
      ∃ last content, FileTree.lastWritten written item.1 = some last ∧
        job.Lists last content (job.entryCount last) ∧
        report.workspace.files.find (listPath job.root item.2) =
          .ok (item.1, .file (.text content))
  /-- Without links this is its own. -/
  own : report.workspace.files.LinkFree →
    ∀ item ∈ written, FileTree.lastWritten written item.1 = some item.2

/-- After a completed run with a constant resolver, the file of each list page that was
written holds the expansion of a list template for all items of its section: of the list
page that was written to this file last, which without links is the page itself. -/
theorem Exporter.lists_expand {job : ExportJob σ} (constant : job.resolve.Constant)
    {watch : Watcher} {sections : List Section} {exporter : Exporter} {workspace : Workspace σ}
    {outcome : ExportOutcome}
    (ended : (run job watch sections exporter workspace).outcome = .ok outcome)
    (completed : outcome.state = .completed) :
    ∃ written, ListsHold job (run job watch sections exporter workspace) written := by
  rcases run_of_outcome ended with ⟨files, done, rest, _, split, whole, after, told⟩
  rw [whole completed, List.append_nil] at split
  subst split
  rw [Library.plan, deeds_append] at told
  rw [Library.plan, performAll_append] at after
  have complete (part : Section) (member : part ∈ requested sections) := entries_performAll
    constant (nodup_requested sections) ⟨{ workspace with files }, fun _ => []⟩ workspace member
  generalize performAll job (job.library.pageTasks (requested sections)) _ = desk
    at told after complete
  rcases visited_lists job (requested sections) desk with ⟨visits, lists, changes, visited, each⟩
  generalize (performAll job ((requested sections).map .list) desk).workspace = report
    at after changes each
  have isRequested (visit : ListVisit) (member : visit ∈ visits) :
      visit.part ∈ requested sections := visited.subset (List.mem_map_of_mem member)
  have expanded (visit : ListVisit) (member : visit ∈ visits) :
      job.Lists visit.part (Run.listPage job.mode (job.pendingList desk.entries visit.part))
        (job.entryCount visit.part) := by
    rcases Section.exists_listBlock (isRequested visit member) with ⟨name, block, short⟩
    exact job.lists_pendingList constant block short workspace
      (complete visit.part (isRequested visit member))
  have named (item : Location × Section)
      (member : item ∈ (visits.filter (·.whole)).map fun visit => (visit.location, visit.part)) :
      ∃ visit ∈ visits, visit.whole = true ∧ item = (visit.location, visit.part) := by
    rcases List.mem_map.mp member with ⟨visit, inWhole, rfl⟩
    rcases List.mem_filter.mp inWhole with ⟨inVisits, whole⟩
    exact ⟨visit, inVisits, whole, rfl⟩
  -- Without links a file is opened for one list page only.
  have alone (free : report.files.LinkFree) {visit other : ListVisit} (member : visit ∈ visits)
      (otherMember : other ∈ visits) (same : other.location = visit.location) : other = visit := by
    rcases (each visit member).1 with ⟨_, own⟩
    rcases (each other otherMember).1 with ⟨_, another⟩
    rw [same] at another
    exact List.inj_on_of_nodup_map (visited.nodup (nodup_requested sections)) otherMember member
      (Section.eq_of_find_listPath free own another).symm
  have lasting (visit : ListVisit) (member : visit ∈ visits) (isWhole : visit.whole = true)
      (kept : report.files.LinkFree ∨ ∀ content, report.files.HasRoom visit.location content) :=
    lastWritten_visits member fun other otherMember same => by
      rcases kept with free | room
      · rwa [alone free member otherMember same]
      · by_contra broken
        exact (each other otherMember).2.2 (Bool.eq_false_iff.mpr broken) (same ▸ room _)
  refine ⟨(visits.filter (·.whole)).map fun visit => (visit.location, visit.part), ?_, ?_, ?_, ?_⟩
  · rw [told, lists_narrate, List.filterMap_append, lists_deeds_pageTasks, List.nil_append,
      ← lists, List.map_map, List.map_map]
    rfl
  · intro item member
    rcases named item member with ⟨visit, inVisits, _, rfl⟩
    exact ⟨_, expanded visit inVisits⟩
  · intro item member
    rcases named item member with ⟨visit, inVisits, whole, rfl⟩
    rw [after]
    intro kept
    rcases lasting visit inVisits whole kept with ⟨last, inLast, _, lastWhole, held, written⟩
    rcases (each visit inVisits).1 with ⟨content, found⟩
    have opened : visit.location ∈ (visits.map fun visit => (visit.location, visit.held)).map
        Prod.fst := List.mem_map.mpr ⟨_, List.mem_map_of_mem inVisits, rfl⟩
    have stands := changes.lastWritten_of_file opened (FileTree.get?_of_find_file found)
    rw [held, Option.some.injEq, (each last inLast).2.1 lastWhole] at stands
    rw [← stands] at found
    exact ⟨last.part, _, written, expanded last inLast, found⟩
  · rw [after]
    intro free item member
    rcases named item member with ⟨visit, inVisits, whole, rfl⟩
    rcases lasting visit inVisits whole (.inl free) with ⟨last, inLast, there, _, _, written⟩
    rwa [alone free inVisits inLast there] at written

/-- The small job with a list template that has a block. -/
def ExportJob.listed : ExportJob Unit :=
  { small with
    pack := { small.pack with
      templates := [(.tvShows,
        "<ul>{{ BEGIN_BLOCK_TVSHOW }}<li>{{ TVSHOW.TITLE }}{{ END_BLOCK_TVSHOW }}</ul>")] } }

/-- The list page of one show, which has one item, and two list pages that are one file. -/
theorem Exporter.lists_expand_listed :
    (ExportJob.listed.entryCount .tvShows = 1 ∧
      ∃ written, ListsHold ExportJob.listed
        (run ExportJob.listed (fun _ _ => false) [.tvShows] {} .small) written) ∧
    ∃ written, ListsHold ExportJob.linked
        (run ExportJob.linked (fun _ _ => false) [.movies, .tvShows] {} .linked) written ∧
      written.map Prod.snd = [.movies, .tvShows] := by
  have ready : setUp ExportJob.listed Workspace.small.files = _ := ExportJob.setUp_small
  rcases completed_of_quiet ExportJob.listed (fun _ _ => rfl) [.tvShows] {} ready with
    ⟨_, ended, completed⟩
  refine ⟨⟨by cbv, lists_expand (fun _ _ _ => rfl) ended completed⟩, ?_⟩
  rcases run_linked with ⟨⟨_, linkedEnded, linkedCompleted⟩, told, _⟩
  rcases lists_expand (fun _ _ _ => rfl) linkedEnded linkedCompleted with ⟨written, holds⟩
  refine ⟨written, holds, ?_⟩
  have sections := congrArg (List.map Prod.fst) (holds.told.symm.trans told)
  rwa [List.map_map] at sections

/-- Two list pages that are one file hold the later, whatever the template of the other is:
so the page of movies is not its template, though it was told to be written. -/
theorem Exporter.listWritten_and_replaced :
    let report := run ExportJob.linked (fun _ _ => false) [.movies, .tvShows] {} .linked
    ExportJob.linked.resolve.Constant ∧
    (∃ outcome, report.outcome = .ok outcome ∧ outcome.state = .completed) ∧
    (.movies, listPath ExportJob.linked.root .movies, 0) ∈
      report.events.filterMap ExportEvent.list? ∧
    ExportJob.linked.Lists .movies "M" 0 ∧
    (∀ content items, ExportJob.linked.Lists .movies content items → content = "M") ∧
    report.workspace.files.find (listPath ExportJob.linked.root .movies) =
      .ok (["out", "tvshows.html"], .file (.text "T")) := by
  rcases run_linked with ⟨ended, told, workspace⟩
  have noBlock : Block.find .first "MOVIE" "M" = .ok none := by cbv
  have expands (content : Text) (items : Nat)
      (shows_ : ExportJob.linked.Lists .movies content items) : content = "M" := by
    rcases shows_ with ⟨name, block, named, found, _, unchanged, _⟩
    cases named
    cases noBlock.symm.trans found
    exact unchanged rfl
  refine ⟨fun _ _ _ => rfl, ended, ?_, ?_, expands, ?_⟩
  · rw [told]
    exact List.mem_cons_self
  · refine ⟨"MOVIE", none, rfl, noBlock, rfl, fun _ => rfl, fun workspace => ?_⟩
    have template : ExportJob.linked.pack.template .movies = "M" := rfl
    rw [template, Block.expandItems, ExportJob.linked, noBlock]
    rfl
  · rw [workspace]
    change FileTree.find (Workspace.linkedWith "T").files ⟨"out/movies.html"⟩ = _
    cbv

end MediaSite
