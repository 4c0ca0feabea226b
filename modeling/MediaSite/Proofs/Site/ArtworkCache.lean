import MediaSite.Proofs.Files.Growth
import MediaSite.Proofs.Site.ArtworkHistory

namespace MediaSite

/-!
# What the memory of artwork hides

Between two resets a request is answered from memory whenever its key was asked for
before, and what is remembered is what a fresh memory would have answered then.  Now it
would answer the same as long as the ground on which the artwork of the key stands is
the same: a source that is a file, and a directory that can be made.

The ground is not always the same, though nothing but artwork changes the tree.  The
tree only grows, so what could be made stays so; but a directory that was made for one
picture can open the way to the source of another, or to its directory, while memory
still holds that there is no picture (`Artwork.Opened`).
-/

open scoped Text
open BackendCall

/-! ## Steady backends -/

/-- A backend whose answers depend on the source alone, and that leaves the files as
they are. -/
structure Backend.Steady {σ : Type} (backend : Backend σ) (size : Path → Except ImageError Size)
    (writing : Path → Except ImageError Unit) : Prop where
  identify (path : Path) (workspace : Workspace σ) : (backend.identify path workspace).1 = size path
  resize (plan : ResizePlan) (workspace : Workspace σ) :
    (backend.resize plan workspace).1 = writing plan.source
  filesOfIdentify (path : Path) (workspace : Workspace σ) :
    (backend.identify path workspace).2.files = workspace.files
  filesOfResize (plan : ResizePlan) (workspace : Workspace σ) :
    (backend.resize plan workspace).2.files = workspace.files

theorem Backend.Steady.transcode {σ : Type} {backend : Backend σ}
    {size : Path → Except ImageError Size} {writing : Path → Except ImageError Unit}
    (steady : backend.Steady size writing) (source output : Path) (bounds : Size)
    (format : OutputFormat) (workspace other : Workspace σ) :
    (transcode backend source output bounds format workspace).1 =
      (transcode backend source output bounds format other).1 := by
  -- The answer in terms of the source and the plan, in which no workspace is left.
  have answer (workspace : Workspace σ) :
      (MediaSite.transcode backend source output bounds format workspace).1 =
        (size source).bind fun found =>
          let plan := ResizePlan.make source output found bounds format
          if plan.isAllowed then (writing source).map fun _ => plan.size
          else .error (.tooLarge plan.size) := by
    rw [transcode_eq, ← steady.identify source workspace]
    rcases backend.identify source workspace with ⟨identified, middle⟩
    cases identified with
    | error problem => rfl
    | ok found =>
        by_cases allowed : (ResizePlan.make source output found bounds format).isAllowed = true
        · have written := steady.resize (ResizePlan.make source output found bounds format) middle
          rcases resized : backend.resize (ResizePlan.make source output found bounds format) middle
            with ⟨outcome, done⟩
          rw [resized] at written
          simp only [Except.bind, if_pos allowed, resized]
          rw [show writing source = outcome from written.symm]
          cases outcome <;> rfl
        · simp only [Except.bind, if_neg allowed]
  rw [answer, answer]

theorem Backend.Steady.files_transcode {σ : Type} {backend : Backend σ}
    {size : Path → Except ImageError Size} {writing : Path → Except ImageError Unit}
    (steady : backend.Steady size writing) (source output : Path) (bounds : Size)
    (format : OutputFormat) (workspace : Workspace σ) :
    (MediaSite.transcode backend source output bounds format workspace).2.files =
      workspace.files := by
  rw [transcode_eq, ← steady.filesOfIdentify source workspace]
  rcases backend.identify source workspace with ⟨identified, middle⟩
  cases identified with
  | error problem => rfl
  | ok found =>
      by_cases allowed : (ResizePlan.make source output found bounds format).isAllowed = true
      · have kept := steady.filesOfResize (ResizePlan.make source output found bounds format) middle
        rcases resized : backend.resize (ResizePlan.make source output found bounds format) middle
          with ⟨outcome, done⟩
        rw [resized] at kept
        simp only [if_pos allowed, resized]
        cases outcome <;> exact kept
      · simp only [if_neg allowed]

theorem RecordingTable.steady (table : RecordingTable) :
    table.backend.Steady
      (fun path => if table.unreadable.any (·.means path) then .error .failed
        else .ok (table.sizeOf path))
      (fun source => if table.unresizable.any (·.means source) then .error .failed else .ok ()) :=
  ⟨fun _ _ => rfl, fun _ _ => rfl, fun _ _ => rfl, fun _ _ => rfl⟩

/-! ## The ground of a key -/

namespace Artwork

variable {σ : Type}

/-- The same artwork can be made on two trees, as far as these decide about it: the
source names a file on both or on neither, and so with making the directory for it. -/
def SameGround (setup : ArtworkSetup σ) (request : ImageRequest) (files others : FileTree) : Prop :=
  ∀ key, request.key? = some key →
    locate files request.entity key.role = locate others request.entity key.role ∧
      (locate files request.entity key.role ≠ none →
        (FileTree.makeDirectories (setup.root.join ⟨key.directory⟩) files).1.isOk =
          (FileTree.makeDirectories (setup.root.join ⟨key.directory⟩) others).1.isOk)

/-- The artwork of a request could not be made on the first tree for want of its source
or of its directory, and the second tree has that. -/
def Opened (setup : ArtworkSetup σ) (request : ImageRequest) (before now : FileTree) : Prop :=
  ∃ key, request.key? = some key ∧
    (locate before request.entity key.role = none ∧
        locate now request.entity key.role ≠ none ∨
      locate before request.entity key.role ≠ none ∧
        (FileTree.makeDirectories (setup.root.join ⟨key.directory⟩) before).1.isOk = false ∧
        (FileTree.makeDirectories (setup.root.join ⟨key.directory⟩) now).1.isOk = true)

theorem attempt_answer (setup : ArtworkSetup σ) (entity : Entity) (key : ArtworkKey)
    (workspace : Workspace (Artwork σ)) :
    (attempt setup entity key workspace).1 =
      (locate workspace.files entity key.role).bind fun source =>
        let relative := filePath key.directory entity.id key.role key.width key.height
        let (made, files) :=
          FileTree.makeDirectories (setup.root.join ⟨key.directory⟩) workspace.files
        let transcoded := transcode setup.backend source (setup.root.join ⟨relative⟩)
          ⟨key.width, key.height⟩ (outputFormat key.role setup.quality)
          ⟨files, workspace.side.backend⟩
        if made.isOk && transcoded.1.isOk then some relative else none := by
  rw [attempt, make_eq]
  cases locate workspace.files entity key.role with
  | none => rfl
  | some source =>
      rcases FileTree.makeDirectories (setup.root.join ⟨key.directory⟩) workspace.files with
        ⟨made, files⟩
      cases made with
      | error _ => rfl
      | ok _ =>
          rcases transcoded : transcode setup.backend source
            (setup.root.join ⟨filePath key.directory entity.id key.role key.width key.height⟩)
            ⟨key.width, key.height⟩ (outputFormat key.role setup.quality)
            ⟨files, workspace.side.backend⟩ with ⟨answer, done⟩
          simp only [Option.bind, transcoded]
          cases answer <;> rfl

theorem attempt_congr {setup : ArtworkSetup σ} {size : Path → Except ImageError Size}
    {writing : Path → Except ImageError Unit} (steady : setup.backend.Steady size writing)
    {entity other : Entity} {key : ArtworkKey} (sameId : entity.id = other.id)
    {workspace elsewhere : Workspace (Artwork σ)}
    (source : locate workspace.files entity key.role = locate elsewhere.files other key.role)
    (directory : locate elsewhere.files other key.role ≠ none →
      (FileTree.makeDirectories (setup.root.join ⟨key.directory⟩) workspace.files).1.isOk =
        (FileTree.makeDirectories (setup.root.join ⟨key.directory⟩) elsewhere.files).1.isOk) :
    (attempt setup entity key workspace).1 = (attempt setup other key elsewhere).1 := by
  rw [attempt_answer, attempt_answer, source, sameId]
  cases located : locate elsewhere.files other key.role with
  | none => rfl
  | some source =>
      rw [located] at directory
      simp only [Option.bind]
      rw [directory (Option.some_ne_none source), steady.transcode source _ _ _ _
        ⟨(FileTree.makeDirectories (setup.root.join ⟨key.directory⟩) elsewhere.files).2,
          elsewhere.side.backend⟩]

/-- Apart from the directory for a source that is there, files are left as they are. -/
theorem files_attempt {setup : ArtworkSetup σ} {size : Path → Except ImageError Size}
    {writing : Path → Except ImageError Unit} (steady : setup.backend.Steady size writing)
    (entity : Entity) (key : ArtworkKey) (workspace : Workspace (Artwork σ)) :
    (attempt setup entity key workspace).2.files =
      if (locate workspace.files entity key.role).isSome then
        (FileTree.makeDirectories (setup.root.join ⟨key.directory⟩) workspace.files).2
      else workspace.files := by
  rw [attempt, make_eq]
  cases locate workspace.files entity key.role with
  | none => rfl
  | some source =>
      rw [Option.isSome_some, if_pos rfl]
      rcases FileTree.makeDirectories (setup.root.join ⟨key.directory⟩) workspace.files with
        ⟨made, files⟩
      cases made with
      | error _ => rfl
      | ok _ =>
          have kept := steady.files_transcode source
            (setup.root.join ⟨filePath key.directory entity.id key.role key.width key.height⟩)
            ⟨key.width, key.height⟩ (outputFormat key.role setup.quality)
            ⟨files, workspace.side.backend⟩
          rcases transcoded : transcode setup.backend source
            (setup.root.join ⟨filePath key.directory entity.id key.role key.width key.height⟩)
            ⟨key.width, key.height⟩ (outputFormat key.role setup.quality)
            ⟨files, workspace.side.backend⟩ with ⟨answer, done⟩
          rw [transcoded] at kept
          simp only [transcoded]
          cases answer <;> exact kept

theorem grows_resolver {setup : ArtworkSetup σ} {size : Path → Except ImageError Size}
    {writing : Path → Except ImageError Unit} (steady : setup.backend.Steady size writing)
    (request : ImageRequest) (workspace : Workspace (Artwork σ)) :
    FileTree.Grows workspace.files (resolver setup request workspace).2.files := by
  cases supported : request.key? with
  | none =>
      rw [resolver_of_no_key supported]
      exact FileTree.Grows.refl workspace.files
  | some key =>
      cases known : workspace.side.known.lookup key with
      | some outcome =>
          rw [resolver_of_known supported known]
          exact FileTree.Grows.refl workspace.files
      | none =>
          rw [resolver_of_new supported known]
          change FileTree.Grows workspace.files (attempt setup request.entity key workspace).2.files
          rw [files_attempt steady]
          split
          · exact FileTree.grows_makeDirectories _ workspace.files
          · exact FileTree.Grows.refl workspace.files

/-- A source that is there stays there. -/
theorem locate_of_grows {before after : FileTree} (grows : FileTree.Grows before after)
    {entity : Entity} {role : ImageRole} {source : Path}
    (located : locate before entity role = some source) :
    locate after entity role = some source := by
  rcases Option.filter_eq_some_iff.mp located with ⟨named, file⟩
  exact Option.filter_eq_some_iff.mpr ⟨named, FileTree.isFile_of_grows grows file⟩

end Artwork

namespace ArtworkHistory

variable {σ : Type} {setup : ArtworkSetup σ}

/-! ## Answers of a whole run -/

/-- Entities of one kind and id have the same pictures. -/
def Consistent (requests : ImageRequest → Prop) : Prop :=
  ∀ first second, requests first → requests second →
    first.entity.kind = second.entity.kind → first.entity.id = second.entity.id →
    first.entity.images = second.entity.images

theorem Consistent.images_eq {requests : ImageRequest → Prop} (consistent : Consistent requests)
    {first second : ImageRequest} (firstAsked : requests first) (secondAsked : requests second)
    {key : ArtworkKey} (firstKey : first.key? = some key) (secondKey : second.key? = some key) :
    first.entity.images = second.entity.images := by
  rcases ImageRequest.key?_eq_some firstKey with ⟨_, _, firstSame⟩
  rcases ImageRequest.key?_eq_some secondKey with ⟨_, _, secondSame⟩
  have same := firstSame.symm.trans secondSame
  exact consistent first second firstAsked secondAsked (congrArg ArtworkKey.kind same)
    (congrArg ArtworkKey.id same)

variable {history : ArtworkHistory σ} {size : Path → Except ImageError Size}
  {writing : Path → Except ImageError Unit} {requests : ImageRequest → Prop} {visit : Visit σ}

/-- A visit is answered as a fresh memory would answer on a tree where the ground of its
key is what it was when the key was first asked for. -/
theorem Recalls.answer_eq_fresh (recalls : Recalls setup history)
    (steady : setup.backend.Steady size writing) (consistent : Consistent requests)
    (requested : ∀ visit ∈ history.visits, requests visit.request)
    (visited : visit ∈ history.visits) :
    ∃ first, Visit.first? visit.request.key? history.visits = some first ∧
      ∀ files backend, Artwork.SameGround setup visit.request first.before.files files →
        visit.answer =
          (Artwork.resolver setup visit.request ⟨files, Artwork.fresh backend⟩).1 := by
  cases supported : visit.request.key? with
  | none =>
      cases found : Visit.first? none history.visits with
      | none =>
          have unasked := List.find?_eq_none.mp found visit visited
          exact absurd (decide_eq_true supported) unasked
      | some first =>
          -- Without a key it is the stock picture, on any ground.
          refine ⟨first, rfl, fun files backend _ => ?_⟩
          rw [recalls.accurate visit visited, Artwork.resolver_of_no_key supported,
            Artwork.resolver_of_no_key supported]
  | some key =>
      rcases recalls.answered visit visited key supported with ⟨outcome, known, answer⟩
      rcases recalls.origin key outcome known with ⟨first, found, _, attempted⟩
      refine ⟨first, found, fun files backend ground => ?_⟩
      rcases Visit.of_first? found with ⟨firstVisited, firstSupported⟩
      -- The first visit may have been for another record of the entity.
      have images := consistent.images_eq (requested first firstVisited)
        (requested visit visited) firstSupported supported
      have located (files : FileTree) : Artwork.locate files first.request.entity key.role =
          Artwork.locate files visit.request.entity key.role := by
        rw [Artwork.locate, Artwork.locate, images]
      have sameId : first.request.entity.id = visit.request.entity.id :=
        (ImageRequest.id_eq firstSupported).trans (ImageRequest.id_eq supported).symm
      rcases ground key supported with ⟨source, directory⟩
      rw [Artwork.resolver_of_new supported rfl, answer, attempted]
      refine congrArg (Option.getD · _)
        (Artwork.attempt_congr steady sameId ((located _).trans source) ?_)
      exact fun there => directory (source ▸ there)

/-! ## The tree of a run -/

variable (setup) in
/-- What a visit left of the tree is still there at every later visit, and now. -/
structure Grown (history : ArtworkHistory σ) : Prop where
  later : history.visits.Pairwise fun earlier visit => FileTree.Grows
    (Artwork.resolver setup earlier.request earlier.before).2.files visit.before.files
  now : ∀ visit ∈ history.visits, FileTree.Grows
    (Artwork.resolver setup visit.request visit.before).2.files history.workspace.files

theorem grown_run (steady : setup.backend.Steady size writing)
    (files : FileTree) (backend : σ) (actions : List ArtworkAction) :
    Grown setup (run setup files backend actions) := by
  induction actions using List.reverseRecOn with
  | nil => exact ⟨List.Pairwise.nil, fun _ member => absurd member List.not_mem_nil⟩
  | append_singleton actions action inductionHypothesis =>
      rw [run, List.foldl_append]
      rcases inductionHypothesis with ⟨later, now⟩
      cases action with
      | reset => exact ⟨List.Pairwise.nil, fun _ member => absurd member List.not_mem_nil⟩
      | request request =>
          refine ⟨List.pairwise_append.mpr ⟨later, List.pairwise_singleton _ _, ?_⟩, ?_⟩
          · intro earlier member visit here
            rw [List.mem_singleton.mp here]
            exact now earlier member
          · intro visit member
            rcases List.mem_append.mp member with earlier | here
            · exact (now visit earlier).trans (Artwork.grows_resolver steady request _)
            · rw [List.mem_singleton.mp here]
              exact FileTree.Grows.refl _

/-- The ground of a key only ever changes by being opened. -/
theorem Recalls.opened_or_sameGround (recalls : Recalls setup history)
    (grown : Grown setup history) (steady : setup.backend.Steady size writing)
    (consistent : Consistent requests)
    (requested : ∀ visit ∈ history.visits, requests visit.request)
    (visited : visit ∈ history.visits) {first : Visit σ}
    (found : Visit.first? visit.request.key? history.visits = some first) :
    Artwork.Opened setup visit.request first.before.files visit.before.files ∨
      Artwork.SameGround setup visit.request first.before.files visit.before.files := by
  rw [or_iff_not_imp_left]
  intro closed key supported
  rcases Visit.eq_or_of_first? found visited rfl grown.later with rfl | grows
  · exact ⟨rfl, fun _ => rfl⟩
  · rcases recalls.answered visit visited key supported with ⟨outcome, known, _⟩
    rcases recalls.origin key outcome known with ⟨_, alsoFound, new, _⟩
    rw [supported] at found
    cases found.symm.trans alsoFound
    rcases Visit.of_first? found with ⟨firstVisited, firstSupported⟩
    have images := consistent.images_eq (requested first firstVisited)
      (requested visit visited) firstSupported supported
    cases before : Artwork.locate first.before.files visit.request.entity key.role with
    | none =>
        refine ⟨?_, fun there => absurd rfl there⟩
        cases now : Artwork.locate visit.before.files visit.request.entity key.role with
        | none => rfl
        | some source =>
            apply absurd _ closed
            exact ⟨key, supported, .inl ⟨before, by rw [now]; exact Option.some_ne_none source⟩⟩
    | some source =>
        -- The first visit has tried to make the directory, and the tree has grown from there.
        have left : (Artwork.resolver setup first.request first.before).2.files =
            (FileTree.makeDirectories (setup.root.join ⟨key.directory⟩) first.before.files).2 := by
          have there : Artwork.locate first.before.files first.request.entity key.role =
              some source := by
            rw [← before, Artwork.locate, Artwork.locate, images]
          rw [Artwork.resolver_of_new firstSupported new]
          change (Artwork.attempt setup first.request.entity key first.before).2.files = _
          rw [Artwork.files_attempt steady, there]
          rfl
        rw [left] at grows
        have whole := (FileTree.grows_makeDirectories _ _).trans grows
        refine ⟨(Artwork.locate_of_grows whole before).symm, fun _ => ?_⟩
        cases made : (FileTree.makeDirectories (setup.root.join ⟨key.directory⟩)
            first.before.files).1.isOk with
        | true =>
            rw [FileTree.makeDirectories_again made grows]
            rfl
        | false =>
            apply Eq.symm
            apply Bool.eq_false_iff.mpr
            intro nowMade
            apply closed
            exact ⟨key, supported, .inr ⟨by rw [before]; exact Option.some_ne_none source, made,
              nowMade⟩⟩

/-- Since the last reset, every answer is the one that a fresh memory would have given when
the key was first asked for, and the one that it would give now unless the way to the
artwork has been opened since; each key is worked on once, and the count of pictures is
that of the keys with artwork. -/
theorem run_answers_as_fresh (setup : ArtworkSetup σ) (steady : setup.backend.Steady size writing)
    (files : FileTree) (backend : σ) {actions : List ArtworkAction}
    (consistent : Consistent fun request => .request request ∈ actions) :
    let history := run setup files backend actions
    let written := history.workspace.side.written
    let artwork := history.visits.filterMap Visit.artwork?
    (∀ visit ∈ history.visits,
      visit.answer = (Artwork.resolver setup visit.request visit.before).1 ∧
      ∃ first, Visit.first? visit.request.key? history.visits = some first ∧
        (∀ state, visit.answer = (Artwork.resolver setup visit.request
          ⟨first.before.files, Artwork.fresh state⟩).1) ∧
        (Artwork.Opened setup visit.request first.before.files visit.before.files ∨
          ∀ state, visit.answer = (Artwork.resolver setup visit.request
            ⟨visit.before.files, Artwork.fresh state⟩).1)) ∧
      (∀ key, (Visit.callsFor key history.visits).countP isIdentify ≤ 1 ∧
        (Visit.callsFor key history.visits).countP isResize ≤ 1) ∧
      (∀ visit ∈ history.visits, visit.request.entity.kind = .season ∨
        ImageRole.ofName? visit.request.entity.kind visit.request.role = none →
          visit.calls = []) ∧
      written = (Visit.allCalls history.visits).countP isWriting ∧
      written = artwork.dedup.length ∧
      (∀ first ∈ history.visits, ∀ second ∈ history.visits, ∀ key other,
        first.artwork? = some key → second.artwork? = some other → key ≠ other →
          first.answer ≠ second.answer) ∧
      ((Visit.allCalls history.visits).filterMap output?).Nodup := by
  intro history written artwork
  rcases kept_run setup files backend actions with ⟨recalls, accounts⟩
  have grown := grown_run steady files backend actions
  have requested := request_mem_of_run setup files backend actions
  refine ⟨?answers, ?once, ?never, accounts.written, ?distinct, ?different, accounts.apart⟩
  case answers =>
    intro visit visited
    rcases recalls.answer_eq_fresh steady consistent requested visited with ⟨first, found, fresh⟩
    refine ⟨recalls.accurate visit visited, first, found, fun state => ?_, ?_⟩
    · exact fresh _ state fun _ _ => ⟨rfl, fun _ => rfl⟩
    · have ground := recalls.opened_or_sameGround grown steady consistent requested visited found
      exact ground.imp_right fun same state => fresh _ state same
  case once =>
    intro key
    exact ⟨(accounts.pictures key).identified, (accounts.pictures key).resized⟩
  case never =>
    intro visit visited none
    exact accounts.unsupported visit visited (ImageRequest.key?_eq_none none)
  case distinct => exact accounts.made.trans recalls.countP_known
  case different =>
    intro first _ second _ key other firstKey secondKey different same
    rcases Option.filter_eq_some_iff.mp firstKey with ⟨asked, shown⟩
    rcases Option.filter_eq_some_iff.mp secondKey with ⟨alsoAsked, alsoShown⟩
    rw [of_decide_eq_true shown, of_decide_eq_true alsoShown] at same
    exact different (ArtworkKey.path_injective (ImageRequest.pictured asked)
      (ImageRequest.pictured alsoAsked) same)

/-! ## Where memory shows -/

/-- A request for the poster of a movie. -/
def posterOf (id : UInt64) (source : Text) (width height : Nat) : ImageRequest where
  entity := .movie { id, images := fun role => if role = .poster then some ⟨source⟩ else none }
  role := "poster"
  width
  height

def detourSource : Text :=
  "out/movie_images/../../src/b.jpg"

/-- Two movies with one poster, which the first names by way of a directory that is made
for the second. -/
def detour : List ArtworkAction :=
  [.request (posterOf 1 detourSource 3 4), .request (posterOf 2 "src/b.jpg" 3 4),
    .request (posterOf 1 detourSource 3 4), .request (posterOf 1 detourSource 5 6)]

def detourFiles : FileTree :=
  { entries :=
      [([("src" : Text)], .directory), ([("src" : Text), ("b.jpg" : Text)], .file (.text "x"))] }

def detourSetup : ArtworkSetup (List BackendCall) :=
  ⟨RecordingTable.backend {}, ⟨("out" : Text)⟩, 90⟩

theorem consistent_detour : Consistent fun request => .request request ∈ detour := by
  have movies : ∀ request, .request request ∈ detour →
      request.entity = (posterOf 1 detourSource 3 4).entity ∨
        request.entity = (posterOf 2 "src/b.jpg" 3 4).entity := by
    intro request member
    simp only [detour, List.mem_cons, ArtworkAction.request.injEq, List.not_mem_nil,
      or_false] at member
    rcases member with rfl | rfl | rfl | rfl
    · exact .inl rfl
    · exact .inr rfl
    · exact .inl rfl
    · exact .inl rfl
  intro first second firstMember secondMember _ sameId
  rcases movies first firstMember with firstMovie | firstMovie <;>
    rcases movies second secondMember with secondMovie | secondMovie <;>
    rw [firstMovie, secondMovie] at sameId ⊢ <;> cases sameId

/-- The tree with the directory that is made for the second movie. -/
def detourOpened : FileTree :=
  { entries := detourFiles.entries ++ [([("out" : Text)], .directory),
    ([("out" : Text), ("movie_images" : Text)], .directory)] }

section

variable {width height : Nat} {workspace : Workspace (Artwork (List BackendCall))}

theorem key?_posterOf (id : UInt64) (source : Text) (width height : Nat) :
    (posterOf id source width height).key? = some ⟨.movie, id, .poster, width, height⟩ := by
  -- Roles are looked up in lower case, by a table that only the kernel gets through.
  have role : ImageRole.ofName? .movie ("poster" : Text) = some .poster := by decide +kernel
  rw [ImageRequest.key?]
  have directory : (posterOf id source width height).entity.kind.imageDirectory? =
      some ("movie_images" : Text) := rfl
  have named : ImageRole.ofName? (posterOf id source width height).entity.kind
      (posterOf id source width height).role = some .poster := role
  rw [directory, named]
  rfl

/-- Before the directory is made there is no way to the poster of the first movie. -/
theorem resolver_closed (files : workspace.files = detourFiles)
    (new : workspace.side.known.lookup ⟨.movie, 1, .poster, width, height⟩ = none) :
    Artwork.resolver detourSetup (posterOf 1 detourSource width height) workspace =
      ((posterOf 1 detourSource width height).fallback,
        Artwork.remember ⟨.movie, 1, .poster, width, height⟩ none workspace) := by
  have missing : Artwork.locate workspace.files (posterOf 1 detourSource width height).entity
      .poster = none := by
    rw [files]
    cbv
  rw [Artwork.resolver_of_new (key?_posterOf ..) new, Artwork.attempt_of_missing missing]
  rfl

/-- With the directory there is, and making it again changes nothing. -/
theorem locate_open : Artwork.locate detourOpened (posterOf 1 detourSource width height).entity
    .poster = some ⟨detourSource⟩ := by
  cbv

theorem makeDirectories_open :
    FileTree.makeDirectories (detourSetup.root.join ⟨("movie_images" : Text)⟩) detourOpened =
      (.ok (), detourOpened) := by
  cbv

theorem resolver_open {id : UInt64} {source : Text}
    (located : Artwork.locate workspace.files (posterOf id source width height).entity .poster =
      some ⟨source⟩)
    (made : FileTree.makeDirectories (detourSetup.root.join ⟨("movie_images" : Text)⟩)
      workspace.files = (.ok (), detourOpened))
    (small : width ≤ edgeLimit ∧ height ≤ edgeLimit)
    (new : workspace.side.known.lookup ⟨.movie, id, .poster, width, height⟩ = none) :
    ∃ done, Artwork.resolver detourSetup (posterOf id source width height) workspace =
      (ArtworkKey.path ⟨.movie, id, .poster, width, height⟩,
        Artwork.remember ⟨.movie, id, .poster, width, height⟩
          (some (ArtworkKey.path ⟨.movie, id, .poster, width, height⟩))
          ⟨detourOpened, ⟨workspace.side.known, workspace.side.written + 1, done⟩⟩) := by
  let key : ArtworkKey := ⟨.movie, id, .poster, width, height⟩
  rcases RecordingTable.transcode_eq_ok {} rfl rfl ⟨source⟩ (detourSetup.root.join ⟨key.path⟩)
    ⟨width, height⟩ small (.jpeg 90) ⟨detourOpened, workspace.side.backend⟩ with
    ⟨size, done, transcoded⟩
  have opened : FileTree.makeDirectories (detourSetup.root.join ⟨key.directory⟩) workspace.files =
      (.ok (), detourOpened) := made
  have attempted : Artwork.attempt detourSetup (posterOf id source width height).entity key
      workspace = _ := Artwork.attempt_of_transcoded located opened transcoded
  refine ⟨done, ?_⟩
  rw [Artwork.resolver_of_new (key?_posterOf ..) new, attempted]
  rfl

end

def detourStart : Workspace (Artwork (List BackendCall)) :=
  ⟨detourFiles, Artwork.fresh []⟩

/-- What the first request leaves. -/
def detourMissed : Workspace (Artwork (List BackendCall)) :=
  Artwork.remember ⟨.movie, 1, .poster, 3, 4⟩ none detourStart

/-- What the second request leaves, with the calls that it led to. -/
def detourMade (calls : List BackendCall) : Workspace (Artwork (List BackendCall)) :=
  Artwork.remember ⟨.movie, 2, .poster, 3, 4⟩
    (some (ArtworkKey.path ⟨.movie, 2, .poster, 3, 4⟩))
    ⟨detourOpened, ⟨detourMissed.side.known, 1, calls⟩⟩

theorem resolver_made (calls : List BackendCall) :
    Artwork.resolver detourSetup (posterOf 1 detourSource 3 4) (detourMade calls) =
        ((posterOf 1 detourSource 3 4).fallback, detourMade calls) ∧
      ∃ more, Artwork.resolver detourSetup (posterOf 1 detourSource 5 6) (detourMade calls) =
        (ArtworkKey.path ⟨.movie, 1, .poster, 5, 6⟩,
          Artwork.remember ⟨.movie, 1, .poster, 5, 6⟩
            (some (ArtworkKey.path ⟨.movie, 1, .poster, 5, 6⟩))
            ⟨detourOpened, ⟨(detourMade calls).side.known, 2, more⟩⟩) := by
  have known : (detourMade calls).side.known.lookup ⟨.movie, 1, .poster, 3, 4⟩ = some none := rfl
  have small : 5 ≤ edgeLimit ∧ 6 ≤ edgeLimit := by decide
  constructor
  · exact Artwork.resolver_of_known (key?_posterOf ..) known
  · exact resolver_open locate_open makeDirectories_open small rfl

theorem run_detour : ∃ calls,
    run detourSetup detourFiles [] detour =
      ⟨[Artwork.visit detourSetup (posterOf 1 detourSource 3 4) detourStart,
          Artwork.visit detourSetup (posterOf 2 "src/b.jpg" 3 4) detourMissed,
          Artwork.visit detourSetup (posterOf 1 detourSource 3 4) (detourMade calls),
          Artwork.visit detourSetup (posterOf 1 detourSource 5 6) (detourMade calls)],
        (Artwork.resolver detourSetup (posterOf 1 detourSource 5 6) (detourMade calls)).2⟩ := by
  have located : Artwork.locate detourFiles (posterOf 2 "src/b.jpg" 3 4).entity .poster =
      some ⟨"src/b.jpg"⟩ := by cbv
  have made : FileTree.makeDirectories (detourSetup.root.join ⟨("movie_images" : Text)⟩)
      detourFiles = (.ok (), detourOpened) := by cbv
  have small : 3 ≤ edgeLimit ∧ 4 ≤ edgeLimit := by decide
  have first : Artwork.resolver detourSetup (posterOf 1 detourSource 3 4) detourStart = _ :=
    resolver_closed rfl rfl
  rcases (resolver_open located made small rfl : ∃ calls, Artwork.resolver detourSetup
    (posterOf 2 "src/b.jpg" 3 4) detourMissed = _) with ⟨calls, second⟩
  refine ⟨calls, ?_⟩
  have afterFirst : (Artwork.resolver detourSetup (posterOf 1 detourSource 3 4) detourStart).2 =
      detourMissed := congrArg Prod.snd first
  have afterSecond : (Artwork.resolver detourSetup (posterOf 2 "src/b.jpg" 3 4) detourMissed).2 =
      detourMade calls := congrArg Prod.snd second
  rw [run, detour, ← detourStart]
  simp only [List.foldl_cons, List.foldl_nil, perform, List.nil_append, List.cons_append,
    afterFirst, afterSecond, (resolver_made calls).1]

theorem written_detour :
    let history := run detourSetup detourFiles [] detour
    (Consistent fun request => .request request ∈ detour) ∧ history.workspace.side.written = 2 ∧
      (Visit.allCalls history.visits).countP isWriting = 2 ∧
      (history.visits.filterMap Visit.artwork?).dedup.length = 2 ∧
      ((Visit.allCalls history.visits).filterMap output?).Nodup := by
  intro history
  rcases run_detour with ⟨calls, ran⟩
  rcases (resolver_made calls).2 with ⟨more, last⟩
  have written : history.workspace.side.written = 2 := by
    rw [show history = _ from ran, last]
    rfl
  rcases run_answers_as_fresh detourSetup (RecordingTable.steady {}) detourFiles []
    consistent_detour with ⟨_, _, _, writing, distinct, _, apart⟩
  exact ⟨consistent_detour, written, writing.symm.trans written, distinct.symm.trans written,
    apart⟩

/-- The first movie is remembered to have no poster when a fresh memory would find it, and
with another size it is given a poster that the tree at the start does not have. -/
theorem run_recalls_missing_source :
    (∃ size writing, detourSetup.backend.Steady size writing) ∧
      (Consistent fun request => .request request ∈ detour) ∧
      (¬ ∀ visit ∈ (run detourSetup detourFiles [] detour).visits, visit.answer =
        (Artwork.resolver detourSetup visit.request
          ⟨visit.before.files, Artwork.fresh []⟩).1) ∧
      ¬ ∀ visit ∈ (run detourSetup detourFiles [] detour).visits, visit.answer =
        (Artwork.resolver detourSetup visit.request ⟨detourFiles, Artwork.fresh []⟩).1 := by
  have pictured : Kind.movie.imageDirectory? ≠ none := nofun
  rcases run_detour with ⟨calls, ran⟩
  rcases resolver_made calls with ⟨third, more, fourth⟩
  rw [ran]
  refine ⟨⟨_, _, RecordingTable.steady {}⟩, consistent_detour, ?_, ?_⟩
  -- The third request against a fresh memory on the tree as it is then.
  · intro same
    have answer : (Artwork.resolver detourSetup (posterOf 1 detourSource 3 4)
        (detourMade calls)).1 = (Artwork.resolver detourSetup (posterOf 1 detourSource 3 4)
          ⟨detourOpened, Artwork.fresh []⟩).1 :=
      same _ (List.mem_cons_of_mem _ (List.mem_cons_of_mem _ List.mem_cons_self))
    have small : 3 ≤ edgeLimit ∧ 4 ≤ edgeLimit := by decide
    rcases (resolver_open locate_open makeDirectories_open small rfl : ∃ calls,
      Artwork.resolver detourSetup (posterOf 1 detourSource 3 4)
        ⟨detourOpened, Artwork.fresh []⟩ = _) with ⟨_, fresh⟩
    rw [third, fresh] at answer
    exact ImageRequest.fallback_ne_path _ pictured answer
  -- The fourth request against a fresh memory on the tree of the start.
  · intro same
    have answer : (Artwork.resolver detourSetup (posterOf 1 detourSource 5 6)
        (detourMade calls)).1 = (Artwork.resolver detourSetup (posterOf 1 detourSource 5 6)
          ⟨detourFiles, Artwork.fresh []⟩).1 :=
      same _ (List.mem_cons_of_mem _ (List.mem_cons_of_mem _ (List.mem_cons_of_mem _
        List.mem_cons_self)))
    have fresh : Artwork.resolver detourSetup (posterOf 1 detourSource 5 6)
        ⟨detourFiles, Artwork.fresh []⟩ = _ := resolver_closed rfl rfl
    rw [fourth, fresh] at answer
    exact ImageRequest.fallback_ne_path _ pictured answer.symm

end ArtworkHistory
end MediaSite
