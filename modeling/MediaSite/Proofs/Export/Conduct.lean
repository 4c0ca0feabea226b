import MediaSite.Proofs.Export.Plan

namespace MediaSite

/-!
# Runs conduct their plan

Each loop of a run is compared with the conducting of the tasks that it works
through.  A run is determined by its workspace and the events told so far: the
counts are counts of events, and it is stopping when one of them made the
watcher ask for it.  `Run.telling` is this run, and every step of a loop leads
from one such run to the next.
-/

open scoped Text

variable {σ : Type}

namespace Run

def telling (watch : Watcher) (workspace : Workspace σ) (events : List ExportEvent) : Run σ where
  workspace
  events
  count := exportedCount events
  stopping := watch.stops events
  listsWritten := listCount events

/-- Telling one more event, with the counts brought up to it before. -/
theorem notify_telling (watch : Watcher) (workspace : Workspace σ) (events : List ExportEvent)
    (event : ExportEvent) :
    notify watch event ⟨workspace, events, exportedCount (events ++ [event]), watch.stops events,
        listCount (events ++ [event])⟩ =
      telling watch workspace (events ++ [event]) := by
  rw [notify, telling, Watcher.stops_concat]

theorem start_eq_telling (watch : Watcher) (workspace : Workspace σ) :
    start workspace = telling watch workspace [] := rfl

/-- Rendering succeeds and changes nothing but the workspace. -/
theorem render_telling (job : ExportJob σ) (watch : Watcher) (depth : PageDepth) (template : Text)
    (entity : Entity) (workspace : Workspace σ) (events : List ExportEvent) :
    (telling watch workspace events).render job depth template entity =
      (.ok (job.draw depth template entity workspace).1,
        telling watch (job.draw depth template entity workspace).2 events) := by
  unfold render
  rw [job.render_eq_lift]
  rfl

theorem onFiles_telling (action : FileAction Unit) (watch : Watcher) (workspace : Workspace σ)
    (events : List ExportEvent) :
    (telling watch workspace events).onFiles action =
      (match (workspace.attempt action).1 with
        | none => .ok ()
        | some error => .error error,
        telling watch (workspace.attempt action).2 events) := by
  unfold onFiles Workspace.attempt
  simp only [telling]
  rcases action workspace.files with ⟨outcome, files⟩
  cases outcome <;> rfl

/-- Writing the page of an entity tells what its task tells. -/
theorem emit_telling (job : ExportJob σ) (watch : Watcher) (part : Section) (entity : Entity)
    (content : Text) (workspace : Workspace σ) (events : List ExportEvent) :
    (telling watch workspace events).emit job watch entity content =
      telling watch (job.writePage entity content workspace).2
        (events ++ (Task.page part entity).told job (exportedCount events)
          (job.writePage entity content workspace).1) := by
  cases found : itemPath job.root entity.kind entity.id with
  | none => simp only [emit, ExportJob.writePage, Task.told, found, List.append_nil]
  | some path =>
      simp only [emit, ExportJob.writePage, Task.told, found, onFiles_telling]
      cases written : workspace.attempt (FileTree.write path (.text content)) with
      | mk fault workspace =>
          cases fault with
          | none =>
              simp only
              rw [← notify_telling]
              simp [telling, exportedCount, listCount, ExportEvent.isExported,
                ExportEvent.isListWritten]
          | some error =>
              simp only
              have both (first second : ExportEvent) :
                  events ++ [first, second] = (events ++ [first]) ++ [second] := by simp
              rw [both, ← notify_telling]
              simp [telling, notify, exportedCount, listCount, ExportEvent.isExported,
                ExportEvent.isListWritten]

theorem renderEntry_telling (job : ExportJob σ) (watch : Watcher) (block : Option Block)
    (entity : Entity) (workspace : Workspace σ) (events : List ExportEvent) :
    (telling watch workspace events).renderEntry job watch block entity =
      ((job.drawEntry block entity workspace).1,
        telling watch (job.drawEntry block entity workspace).2 events) := by
  cases block with
  | none => rfl
  | some block =>
      unfold renderEntry
      simp only [render_telling]
      rfl

/-! ## Loops -/

theorem exportEpisodes_telling (job : ExportJob σ) (watch : Watcher) (part : Section)
    (item : TvShow) (episodes : List Episode) (desk : Desk σ) (events : List ExportEvent) :
    let leg := conduct job watch (episodes.map fun episode => .page part (.episode item episode))
      desk events
    exportEpisodes job watch item episodes (telling watch desk.workspace events) =
      (leg.finished, telling watch leg.desk.workspace leg.events) := by
  induction episodes generalizing desk events with
  | nil => rfl
  | cons episode episodes inductionHypothesis =>
      simp only [List.map_cons, conduct, exportEpisodes, Task.isPage, Bool.true_and]
      by_cases stop : watch.stops events = true
      · have stopping : (telling watch desk.workspace events).stopping = true := stop
        simp only [if_pos stop, if_pos stopping]
      · have stopping : ¬ (telling watch desk.workspace events).stopping = true := stop
        simp only [if_neg stop, if_neg stopping, render_telling, emit_telling job watch part]
        exact inductionHypothesis ((Task.page part (.episode item episode)).perform job desk).2 _

theorem exportParts_telling (job : ExportJob σ) (watch : Watcher) (part : Section)
    (entity : Entity) (desk : Desk σ) (events : List ExportEvent) :
    let leg := conduct job watch (entity.parts.map (.page part)) desk events
    (telling watch desk.workspace events).exportParts job watch entity =
      (leg.finished, telling watch leg.desk.workspace leg.events) := by
  cases entity with
  | tvShow item =>
      have episodes := exportEpisodes_telling job watch part item item.sortedEpisodes desk events
      simp only [Entity.parts, List.map_map]
      exact episodes
  | movie record => rfl
  | season item number => rfl
  | episode item record => rfl
  | concert record => rfl

/-- Episodes are not entered in the list page. -/
theorem entries_parts (job : ExportJob σ) (watch : Watcher) (part : Section) (entity : Entity)
    (desk : Desk σ) (events : List ExportEvent) :
    (conduct job watch (entity.parts.map (.page part)) desk events).desk.entries part =
      desk.entries part := by
  apply conduct_entries
  intro task member desk
  rcases List.mem_map.mp member with ⟨other, inParts, rfl⟩
  cases entity with
  | tvShow item =>
      rcases List.mem_map.mp inParts with ⟨episode, _, rfl⟩
      exact (Function.update_self part _ desk.entries).trans (List.append_nil _)
  | movie record => cases inParts
  | season item number => cases inParts
  | episode item record => cases inParts
  | concert record => cases inParts

/-- The entities of a list section are no episodes: they have the template of
the section's items, and are entered in its list page. -/
theorem entity_of_section (job : ExportJob σ) {part : Section} {entity : Entity}
    (member : entity ∈ job.library.entities part) :
    job.pageTemplate part entity = (part.item?.map job.pack.template).getD [] ∧
      job.entryBlock part entity = listBlock job part := by
  cases part <;> simp only [Library.entities, List.mem_map, List.not_mem_nil] at member
  all_goals
    rcases member with ⟨record, _, rfl⟩
    exact ⟨rfl, rfl⟩

/-- Exporting entities conducts their pages, and collects the entries for the list page. -/
theorem exportEntities_telling (job : ExportJob σ) (watch : Watcher) (part : Section)
    {entities : List Entity} (members : ∀ entity ∈ entities, entity ∈ job.library.entities part)
    (desk : Desk σ) (events : List ExportEvent) :
    let pages := entities.flatMap fun entity => entity :: entity.parts
    let leg := conduct job watch (pages.map (.page part)) desk events
    exportEntities job watch ((part.item?.map job.pack.template).getD []) (listBlock job part)
        entities (desk.entries part) (telling watch desk.workspace events) =
      (if leg.finished then some (leg.desk.entries part) else none,
        telling watch leg.desk.workspace leg.events) := by
  induction entities generalizing desk events with
  | nil => rfl
  | cons entity entities inductionHypothesis =>
      have inRest := inductionHypothesis (List.forall_mem_cons.mp members).2
      rcases entity_of_section job (members entity List.mem_cons_self) with ⟨template, block⟩
      simp only [List.flatMap_cons, List.cons_append, List.map_cons, List.map_append, conduct,
        exportEntities, Task.isPage, Bool.true_and]
      by_cases stop : watch.stops events = true
      · have stopping : (telling watch desk.workspace events).stopping = true := stop
        simp only [if_pos stop, if_pos stopping]
        rfl
      · have stopping : ¬ (telling watch desk.workspace events).stopping = true := stop
        cases drawn : job.draw .item ((part.item?.map job.pack.template).getD []) entity
          desk.workspace with
        | mk content afterPage =>
        cases entered : job.drawEntry (listBlock job part) entity afterPage with
        | mk entry afterEntry =>
        cases written : job.writePage entity content afterEntry with
        | mk fault workspace =>
        -- The task performs these three steps in one, and leads to this desk.
        obtain ⟨next, sameSpace, nextEntries, performed⟩ : ∃ next : Desk σ,
            next.workspace = workspace ∧ next.entries part = desk.entries part ++ entry ∧
              (Task.page part entity).perform job desk = (fault, next) :=
          ⟨⟨workspace, Function.update desk.entries part (desk.entries part ++ entry)⟩, rfl,
            Function.update_self part _ _,
            by simp only [Task.perform, template, block, drawn, entered, written]⟩
        subst workspace
        simp only [if_neg stop, if_neg stopping, render_telling, renderEntry_telling,
          emit_telling job watch part, drawn, entered, written, performed]
        rw [conduct_append, exportParts_telling job watch part entity next, ← nextEntries,
          ← entries_parts job watch part entity next]
        generalize conduct job watch (entity.parts.map (.page part)) next _ = leg
        cases finished : leg.finished with
        | false => simp only [finished, Bool.false_eq_true, if_false]
        | true =>
            simp only [if_true]
            exact inRest leg.desk leg.events

theorem makePageDirectories_telling (job : ExportJob σ) (watch : Watcher) (kinds : List Kind)
    (workspace : Workspace σ) (events : List ExportEvent) :
    (telling watch workspace events).makePageDirectories job.root kinds =
      telling watch { workspace with files := job.makeDirectories kinds workspace.files }
        events := by
  unfold makePageDirectories ExportJob.makeDirectories
  induction kinds generalizing workspace with
  | nil => rfl
  | cons kind kinds inductionHypothesis =>
      rw [List.foldl_cons, List.foldl_cons]
      cases kind.pageDirectory? with
      | none => exact inductionHypothesis workspace
      | some directory => exact inductionHypothesis _

/-- Exporting a list section conducts its tasks up to its list page. -/
theorem exportSection_telling (job : ExportJob σ) (watch : Watcher) (part : Section)
    (desk : Desk σ) (events : List ExportEvent) :
    let leg := conduct job watch (job.library.sectionTasks part) desk events
    exportSection job watch part (telling watch desk.workspace events) =
      (if leg.finished then some (job.pendingList leg.desk.entries part) else none,
        telling watch leg.desk.workspace leg.events) := by
  have announced : (telling watch desk.workspace events).notify watch
      (.sectionStarted part (job.library.entities part).length) =
      telling watch desk.workspace
        (events ++ [.sectionStarted part (job.library.entities part).length]) := by
    rw [← notify_telling]
    simp [telling, exportedCount, listCount, ExportEvent.isExported, ExportEvent.isListWritten]
  obtain ⟨next, nextEntries, performed, sameSpace⟩ : ∃ next : Desk σ, next.entries part = [] ∧
      (Task.opening part).perform job desk = (none, next) ∧
      next.workspace = { desk.workspace with
        files := job.makeDirectories part.pageKinds desk.workspace.files } :=
    ⟨_, Function.update_self part _ _, rfl, rfl⟩
  have pages := exportEntities_telling job watch part (fun entity member => member) next
    (events ++ [.sectionStarted part (job.library.entities part).length])
  rw [nextEntries, sameSpace] at pages
  simp only [exportSection, announced, makePageDirectories_telling, Library.sectionTasks, conduct,
    Task.isPage, Bool.false_and, Bool.false_eq_true, if_false, performed, Task.told, pages,
    Library.pages]
  generalize conduct job watch _ next _ = leg
  cases leg.finished <;> rfl

/-- The tasks of other sections leave the entries of a section alone. -/
theorem entries_pageTasks (job : ExportJob σ) {part : Section} {parts : List Section}
    (other : part ∉ parts) (watch : Watcher) (desk : Desk σ) (events : List ExportEvent) :
    (conduct job watch (job.library.pageTasks parts) desk events).desk.entries part =
      desk.entries part := by
  apply conduct_entries
  intro task member desk
  rcases List.mem_flatMap.mp member with ⟨owner, inParts, inSection⟩
  have different : part ≠ owner := fun same => other (same ▸ inParts)
  rcases List.mem_cons.mp inSection with rfl | inPages
  · exact Function.update_of_ne different _ _
  · rcases List.mem_map.mp inPages with ⟨entity, _, rfl⟩
    exact Function.update_of_ne different _ _

/-- Exporting list sections conducts their tasks one section after the other. -/
theorem exportSections_telling (job : ExportJob σ) (watch : Watcher) {parts : List Section}
    (distinct : parts.Nodup) (desk : Desk σ) (events : List ExportEvent) :
    let leg := conduct job watch (job.library.pageTasks parts) desk events
    exportSections job watch parts (telling watch desk.workspace events) =
      (if leg.finished then some (parts.map (job.pendingList leg.desk.entries)) else none,
        telling watch leg.desk.workspace leg.events) := by
  induction parts generalizing desk events with
  | nil => rfl
  | cons part parts inductionHypothesis =>
      rcases List.nodup_cons.mp distinct with ⟨fresh, distinctRest⟩
      have split : job.library.pageTasks (part :: parts) =
          job.library.sectionTasks part ++ job.library.pageTasks parts := rfl
      simp only [exportSections, exportSection_telling, split, conduct_append]
      generalize conduct job watch (job.library.sectionTasks part) desk events = first
      cases finished : first.finished with
      | false => simp only [finished, Bool.false_eq_true, if_false]
      | true =>
          have rest := inductionHypothesis distinctRest first.desk first.events
          -- The entries of this section are read when all sections are through.
          have kept := entries_pageTasks job fresh watch first.desk first.events
          simp only [if_true, rest]
          generalize conduct job watch (job.library.pageTasks parts) first.desk first.events = whole
            at kept ⊢
          cases whole.finished with
          | false => rfl
          | true => simp only [if_true, List.map_cons, ExportJob.pendingList, kept]

/-! ## List pages -/

theorem length_drawEntry (job : ExportJob σ) (block : Option Block) (entity : Entity)
    (workspace : Workspace σ) :
    (job.drawEntry block entity workspace).1.length = if block.isSome then 1 else 0 := by
  cases block <;> rfl

theorem entries_page (job : ExportJob σ) {part : Section} {entity : Entity}
    (member : entity ∈ job.library.entities part) (desk : Desk σ) :
    (((Task.page part entity).perform job desk).2.entries part).length =
      (desk.entries part).length + if (listBlock job part).isSome then 1 else 0 := by
  rcases entity_of_section job member with ⟨_, block⟩
  have entered : ((Task.page part entity).perform job desk).2.entries part = desk.entries part ++
      (job.drawEntry (job.entryBlock part entity) entity (job.draw .item
        (job.pageTemplate part entity) entity desk.workspace).2).1 :=
    Function.update_self part _ _
  rw [entered, List.length_append, length_drawEntry, block]

/-- Once all entities are through, each of them has its entry. -/
theorem entries_entities (job : ExportJob σ) (watch : Watcher) (part : Section)
    {entities : List Entity} (members : ∀ entity ∈ entities, entity ∈ job.library.entities part)
    (desk : Desk σ) (events : List ExportEvent) :
    let pages := entities.flatMap fun entity => entity :: entity.parts
    let leg := conduct job watch (pages.map (.page part)) desk events
    leg.finished = true → (leg.desk.entries part).length = (desk.entries part).length +
      if (listBlock job part).isSome then entities.length else 0 := by
  induction entities generalizing desk events with
  | nil =>
      intro _ _ _
      rw [List.length_nil, ite_self]
      rfl
  | cons entity entities inductionHypothesis =>
      have inRest := inductionHypothesis (List.forall_mem_cons.mp members).2
      simp only [List.flatMap_cons, List.cons_append, List.map_cons, List.map_append, conduct,
        Task.isPage, Bool.true_and]
      split
      · intro impossible
        cases impossible
      · rw [conduct_append]
        have own := entries_page job (members entity List.mem_cons_self) desk
        have kept := entries_parts job watch part entity
          ((Task.page part entity).perform job desk).2
          (events ++ (Task.page part entity).told job (exportedCount events)
            ((Task.page part entity).perform job desk).1)
        generalize conduct job watch (entity.parts.map (.page part)) _ _ = leg at kept ⊢
        cases finished : leg.finished with
        | false => simp [finished]
        | true =>
            intro done
            rw [if_pos rfl] at done ⊢
            rw [inRest leg.desk leg.events done, kept, own, List.length_cons]
            split <;> omega

theorem entries_section (job : ExportJob σ) (watch : Watcher) (part : Section) (desk : Desk σ)
    (events : List ExportEvent) :
    let leg := conduct job watch (job.library.sectionTasks part) desk events
    leg.finished = true → (leg.desk.entries part).length = job.entryCount part := by
  have opened : ((Task.opening part).perform job desk).2.entries part = [] :=
    Function.update_self part _ _
  have pages := entries_entities job watch part (fun entity member => member)
    ((Task.opening part).perform job desk).2
    (events ++ [.sectionStarted part (job.library.entities part).length])
  rw [opened, List.length_nil, Nat.zero_add] at pages
  exact pages

/-- Once all sections are through, the entries for all list pages are complete. -/
theorem entries_sections (job : ExportJob σ) (watch : Watcher) {parts : List Section}
    (distinct : parts.Nodup) (desk : Desk σ) (events : List ExportEvent) :
    let leg := conduct job watch (job.library.pageTasks parts) desk events
    leg.finished = true →
      ∀ part ∈ parts, (leg.desk.entries part).length = job.entryCount part := by
  induction parts generalizing desk events with
  | nil => exact fun _ => List.forall_mem_nil _
  | cons part parts inductionHypothesis =>
      rcases List.nodup_cons.mp distinct with ⟨fresh, distinctRest⟩
      have split : job.library.pageTasks (part :: parts) =
          job.library.sectionTasks part ++ job.library.pageTasks parts := rfl
      have own := entries_section job watch part desk events
      simp only [split, conduct_append]
      generalize conduct job watch (job.library.sectionTasks part) desk events = first at own ⊢
      cases finished : first.finished with
      | false => simp [finished]
      | true =>
          intro done other member
          rw [if_pos rfl] at done ⊢
          rcases List.mem_cons.mp member with rfl | inRest
          · rw [entries_pageTasks job fresh watch first.desk first.events]
            exact own finished
          · exact inductionHypothesis distinctRest first.desk first.events done other inRest

theorem writeList_telling (job : ExportJob σ) (watch : Watcher) {part : Section} (desk : Desk σ)
    (complete : (desk.entries part).length = job.entryCount part) (events : List ExportEvent) :
    (telling watch desk.workspace events).writeList job watch (job.pendingList desk.entries part) =
      telling watch ((Task.list part).perform job desk).2.workspace
        (events ++ (Task.list part).told job (exportedCount events)
          ((Task.list part).perform job desk).1) := by
  have samePart : (job.pendingList desk.entries part).part = part := rfl
  have count : (job.pendingList desk.entries part).entries.length = job.entryCount part := complete
  simp only [writeList, onFiles_telling, Task.perform, samePart, count]
  cases written : desk.workspace.attempt (FileTree.write (listPath job.root part)
    (.text (listPage job.mode (job.pendingList desk.entries part)))) with
  | mk fault workspace =>
      cases fault with
      | none =>
          simp only [Task.told]
          rw [← notify_telling]
          simp [telling, exportedCount, listCount, ExportEvent.isExported,
            ExportEvent.isListWritten]
      | some error =>
          simp only [Task.told]
          rw [← notify_telling]
          simp [telling, exportedCount, listCount, ExportEvent.isExported,
            ExportEvent.isListWritten]

theorem writeLists_telling (job : ExportJob σ) (watch : Watcher) {parts : List Section}
    (desk : Desk σ) (complete : ∀ part ∈ parts, (desk.entries part).length = job.entryCount part)
    (events : List ExportEvent) :
    let leg := conduct job watch (parts.map .list) desk events
    (telling watch desk.workspace events).writeLists job watch
        (parts.map (job.pendingList desk.entries)) =
      telling watch leg.desk.workspace leg.events := by
  unfold writeLists
  induction parts generalizing desk events with
  | nil => rfl
  | cons part parts inductionHypothesis =>
      have step := writeList_telling job watch desk (complete part List.mem_cons_self) events
      have rest := inductionHypothesis ((Task.list part).perform job desk).2
        (List.forall_mem_cons.mp complete).2
      simp only [List.map_cons, List.foldl_cons, conduct, Task.isPage, Bool.false_and,
        Bool.false_eq_true, if_false, step]
      exact rest _

end Run

/-! ## Runs -/

theorem Exporter.nodup_requested (sections : List Section) : (requested sections).Nodup :=
  List.Pairwise.filter _ (by decide : Section.lists.Nodup)

/-- A run whose output could be set up conducts its plan.  It is completed if the
plan came to its end, and reports what it has told. -/
theorem Exporter.run_eq_conduct (job : ExportJob σ) (watch : Watcher) (sections : List Section)
    (exporter : Exporter) {workspace : Workspace σ} {copied : Nat} {files : FileTree}
    (ready : setUp job workspace.files = (.ok copied, files)) :
    let leg := conduct job watch (job.library.plan sections)
      ⟨{ workspace with files }, fun _ => []⟩ []
    run job watch sections exporter workspace =
      finish (if leg.finished then .completed else .cancelled) copied
        (Run.telling watch leg.desk.workspace leg.events) := by
  have distinct := nodup_requested sections
  have pages := Run.exportSections_telling job watch distinct
    ⟨{ workspace with files }, fun _ => []⟩ []
  have complete := Run.entries_sections job watch distinct
    ⟨{ workspace with files }, fun _ => []⟩ []
  simp only [run, ready, Run.start_eq_telling watch, pages, Library.plan, conduct_append]
  generalize conduct job watch (job.library.pageTasks (requested sections)) _ _ = leg at complete ⊢
  cases finished : leg.finished with
  | false => simp only [finished, Bool.false_eq_true, if_false]
  | true =>
      have written := Run.writeLists_telling job watch leg.desk (complete finished) leg.events
      have whole := finished_of_no_page job watch (isPage_lists (requested sections)) leg.desk
        leg.events
      simp only [if_true, whole, written]

end MediaSite
