import MediaSite.Picture.Recording
import MediaSite.Proofs.Site.ArtworkRequests

namespace MediaSite

/-!
# The calls behind a request

A watched backend does what the backend does and notes each call with whether it
succeeded.  So a request can be told with its answer and with the calls it led to:
none at all unless its key is new, and for a new key one call of each kind at most,
the second of which writes to the path of the key.
-/

open scoped Text

/-! ## Watching -/

/-- The same backend, noting each call with whether it succeeded. -/
def Backend.watched {σ : Type} (backend : Backend σ) : Backend (σ × List (BackendCall × Bool)) where
  identify path := fun workspace =>
    let (answer, done) := backend.identify path ⟨workspace.files, workspace.side.1⟩
    (answer, ⟨done.files, (done.side, workspace.side.2 ++ [(.identify path, answer.isOk)])⟩)
  resize plan := fun workspace =>
    let (answer, done) := backend.resize plan ⟨workspace.files, workspace.side.1⟩
    (answer, ⟨done.files, (done.side, workspace.side.2 ++ [(.resize plan, answer.isOk)])⟩)

def ArtworkSetup.watched {σ : Type} (setup : ArtworkSetup σ) :
    ArtworkSetup (σ × List (BackendCall × Bool)) :=
  { setup with backend := setup.backend.watched }

namespace BackendCall

def isIdentify : BackendCall × Bool → Bool
  | (.identify _, _) => true
  | (.resize _, _) => false

def isResize : BackendCall × Bool → Bool
  | (.identify _, _) => false
  | (.resize _, _) => true

/-- A call that wrote a picture. -/
def isWriting : BackendCall × Bool → Bool
  | (.identify _, _) => false
  | (.resize _, succeeded) => succeeded

/-- Where a call is to write to. -/
def output? : BackendCall × Bool → Option Path
  | (.identify _, _) => none
  | (.resize plan, _) => some plan.output

end BackendCall

open BackendCall

/-- Calls that make one picture at most: one of each kind, and all to one place. -/
structure OnePicture (output : Path) (made : Bool) (calls : List (BackendCall × Bool)) : Prop where
  identified : calls.countP isIdentify ≤ 1
  resized : calls.countP isResize ≤ 1
  written : calls.countP isWriting = if made then 1 else 0
  place : calls.filterMap output? = [] ∨ calls.filterMap output? = [output]

theorem onePicture_nil (output : Path) : OnePicture output false [] :=
  ⟨Nat.zero_le 1, Nat.zero_le 1, rfl, .inl rfl⟩

theorem onePicture_identify (output source : Path) (readable : Bool) :
    OnePicture output false [(.identify source, readable)] :=
  ⟨Nat.le_refl 1, Nat.zero_le 1, rfl, .inl rfl⟩

theorem onePicture_resize (source : Path) (plan : ResizePlan) (made : Bool) :
    OnePicture plan.output made [(.identify source, true), (.resize plan, made)] :=
  ⟨Nat.le_refl 1, Nat.le_refl 1, by cases made <;> rfl, .inr rfl⟩

-- The two calls in a row, as nested matches that calls can be rewritten in.
theorem transcode_eq {σ : Type} (backend : Backend σ) (source output : Path) (bounds : Size)
    (format : OutputFormat) (workspace : Workspace σ) :
    transcode backend source output bounds format workspace =
      match backend.identify source workspace with
      | (.error problem, done) => (.error problem, done)
      | (.ok size, done) =>
        let plan := ResizePlan.make source output size bounds format
        if plan.isAllowed then
          match backend.resize plan done with
          | (.error problem, done) => (.error problem, done)
          | (.ok (), done) => (.ok plan.size, done)
        else (.error (.tooLarge plan.size), done) := by
  unfold transcode
  rcases identified : backend.identify source workspace with ⟨answer, middle⟩
  cases answer with
  | error problem => simp only [bind_apply, pure_apply, identified]
  | ok size =>
      simp only [bind, StateT.bind, identified]
      split
      · rcases resized : backend.resize (ResizePlan.make source output size bounds format) middle
          with ⟨answer, done⟩
        simp only [StateT.bind, resized]
        cases answer <;> rfl
      · rfl

/-- Scaled edges never leave the box. -/
theorem Size.fit_within (source bounds : Size) :
    (source.fit bounds).width ≤ max 1 bounds.width ∧
      (source.fit bounds).height ≤ max 1 bounds.height := by
  have clamped (edge bound : Nat) : clampEdge edge bound ≤ max 1 bound := by
    rw [clampEdge]
    omega
  rw [fit]
  split
  · exact ⟨Nat.le_refl _, Nat.le_refl _⟩
  · dsimp only
    split
    · exact ⟨Nat.le_refl _, clamped _ _⟩
    · exact ⟨clamped _ _, Nat.le_refl _⟩

theorem RecordingTable.transcode_eq_ok (table : RecordingTable) (readable : table.unreadable = [])
    (writable : table.unresizable = []) (source output : Path) (bounds : Size)
    (small : bounds.width ≤ edgeLimit ∧ bounds.height ≤ edgeLimit) (format : OutputFormat)
    (workspace : Workspace (List BackendCall)) :
    ∃ size done, transcode table.backend source output bounds format workspace =
      (.ok size, ⟨workspace.files, done⟩) := by
  have allowed : (ResizePlan.make source output (table.sizeOf source) bounds format).isAllowed =
      true := by
    rcases Size.fit_within (table.sizeOf source) bounds with ⟨width, height⟩
    have one : 1 ≤ edgeLimit := by decide
    apply Bool.and_eq_true_iff.mpr
    exact ⟨decide_eq_true (Nat.le_trans width (Nat.max_le.mpr ⟨one, small.1⟩)),
      decide_eq_true (Nat.le_trans height (Nat.max_le.mpr ⟨one, small.2⟩))⟩
  have identified (workspace : Workspace (List BackendCall)) :
      table.backend.identify source workspace =
        (.ok (table.sizeOf source), ⟨workspace.files, workspace.side ++ [.identify source]⟩) := by
    have answer : (if table.unreadable.any (·.means source) then .error .failed
        else .ok (table.sizeOf source)) =
          (.ok (table.sizeOf source) : Except ImageError Size) := by
      rw [readable]
      rfl
    exact congrArg (·, _) answer
  have resized (plan : ResizePlan) (workspace : Workspace (List BackendCall)) :
      table.backend.resize plan workspace =
        (.ok (), ⟨workspace.files, workspace.side ++ [.resize plan]⟩) := by
    have answer : (if table.unresizable.any (·.means plan.source) then .error .failed
        else .ok ()) = (.ok () : Except ImageError Unit) := by
      rw [writable]
      rfl
    exact congrArg (·, _) answer
  rw [transcode_eq, identified]
  simp only [if_pos allowed, resized]
  exact ⟨_, _, rfl⟩

/-- Watching a backend changes nothing, and what it notes makes one picture at most. -/
theorem transcode_watched {σ : Type} (backend : Backend σ) (source output : Path) (bounds : Size)
    (format : OutputFormat) (workspace : Workspace σ) (log : List (BackendCall × Bool)) :
    ∃ calls, transcode backend.watched source output bounds format
          ⟨workspace.files, (workspace.side, log)⟩ =
        ((transcode backend source output bounds format workspace).1,
          ⟨(transcode backend source output bounds format workspace).2.files,
            ((transcode backend source output bounds format workspace).2.side, log ++ calls)⟩) ∧
      OnePicture output (transcode backend source output bounds format workspace).1.isOk calls := by
  rw [transcode_eq, transcode_eq]
  rcases identified : backend.identify source workspace with ⟨answer, middle⟩
  have identifiedWatched :
      backend.watched.identify source ⟨workspace.files, (workspace.side, log)⟩ =
        (answer, ⟨middle.files, (middle.side, log ++ [(.identify source, answer.isOk)])⟩) := by
    simp only [Backend.watched, identified]
  rw [identifiedWatched]
  cases answer with
  | error problem => exact ⟨_, rfl, onePicture_identify output source false⟩
  | ok size =>
      by_cases allowed : (ResizePlan.make source output size bounds format).isAllowed = true
      · rcases resized : backend.resize (ResizePlan.make source output size bounds format) middle
          with ⟨answer, done⟩
        have resizedWatched : backend.watched.resize
            (ResizePlan.make source output size bounds format)
            ⟨middle.files, (middle.side, log ++ [(.identify source, true)])⟩ =
              (answer, ⟨done.files, (done.side, log ++ [(.identify source, true),
                (.resize (ResizePlan.make source output size bounds format), answer.isOk)])⟩) := by
          simp only [Backend.watched, resized, List.append_assoc, List.singleton_append]
        have readable : (Except.ok size : Except ImageError Size).isOk = true := rfl
        simp only [if_pos allowed, resized, readable, resizedWatched]
        cases answer with
        | error problem =>
            exact ⟨_, rfl,
              onePicture_resize source (ResizePlan.make source output size bounds format) false⟩
        | ok _ =>
            exact ⟨_, rfl,
              onePicture_resize source (ResizePlan.make source output size bounds format) true⟩
      · simp only [if_neg allowed]
        exact ⟨_, rfl, onePicture_identify output source true⟩

/-! ## Visits -/

namespace Artwork

variable {σ : Type}

/-- A workspace of the watched backend, with these calls noted. -/
def withCalls (calls : List (BackendCall × Bool)) (workspace : Workspace (Artwork σ)) :
    Workspace (Artwork (σ × List (BackendCall × Bool))) :=
  ⟨workspace.files, workspace.side.known, workspace.side.written, (workspace.side.backend, calls)⟩

theorem attempt_watched (setup : ArtworkSetup σ) (workspace : Workspace (Artwork σ))
    {entity : Entity} {key : ArtworkKey} (same : entity.id = key.id) :
    ∃ calls, attempt setup.watched entity key (withCalls [] workspace) =
        ((attempt setup entity key workspace).1,
          withCalls calls (attempt setup entity key workspace).2) ∧
      OnePicture (setup.root.join ⟨key.path⟩) (attempt setup entity key workspace).1.isSome
        calls := by
  rw [attempt, attempt, make_eq, make_eq]
  have path : filePath key.directory entity.id key.role key.width key.height = key.path := by
    rw [same]
    rfl
  have root : setup.watched.root = setup.root := rfl
  have files : (withCalls [] workspace).files = workspace.files := rfl
  rw [path, root, files]
  cases locate workspace.files entity key.role with
  | none => exact ⟨[], rfl, onePicture_nil _⟩
  | some source =>
      rcases FileTree.makeDirectories (setup.root.join ⟨key.directory⟩) workspace.files with
        ⟨made, files⟩
      cases made with
      | error _ => exact ⟨[], rfl, onePicture_nil _⟩
      | ok _ =>
          rcases transcode_watched setup.backend source (setup.root.join ⟨key.path⟩)
            ⟨key.width, key.height⟩ (outputFormat key.role setup.quality)
            ⟨files, workspace.side.backend⟩ [] with ⟨calls, run, one⟩
          have backend : setup.watched.backend = setup.backend.watched := rfl
          have quality : setup.watched.quality = setup.quality := rfl
          have side : (withCalls [] workspace).side.backend = (workspace.side.backend, []) := rfl
          refine ⟨calls, ?_⟩
          -- Both runs transcode on the same tree from the same state of the backend.
          simp only [backend, quality, side, run]
          rcases transcoded : transcode setup.backend source (setup.root.join ⟨key.path⟩)
            ⟨key.width, key.height⟩ (outputFormat key.role setup.quality)
            ⟨files, workspace.side.backend⟩ with ⟨answer, done⟩
          rw [transcoded] at one
          cases answer with
          | error _ => exact ⟨rfl, one⟩
          | ok _ => exact ⟨rfl, one⟩

/-- The count of pictures goes up by one with each piece of artwork that is made. -/
theorem written_attempt (setup : ArtworkSetup σ) (workspace : Workspace (Artwork σ))
    (entity : Entity) (key : ArtworkKey) :
    (attempt setup entity key workspace).2.side.written = workspace.side.written +
      if (attempt setup entity key workspace).1.isSome then 1 else 0 := by
  rw [attempt, make_eq]
  cases locate workspace.files entity key.role with
  | none => rfl
  | some source =>
      rcases FileTree.makeDirectories (setup.root.join ⟨key.directory⟩) workspace.files with
        ⟨made, files⟩
      cases made with
      | error _ => rfl
      | ok _ =>
          rcases transcoded : transcode setup.backend source
            (setup.root.join ⟨filePath key.directory entity.id key.role key.width key.height⟩)
            ⟨key.width, key.height⟩ (outputFormat key.role setup.quality)
            ⟨files, workspace.side.backend⟩ with ⟨answer, done⟩
          simp only [transcoded]
          cases answer <;> rfl

/-- What a request with a new key is answered with, and what it leaves behind. -/
theorem resolver_new_spec (setup : ArtworkSetup σ) {request : ImageRequest} {key : ArtworkKey}
    {workspace : Workspace (Artwork σ)} (supported : request.key? = some key)
    (new : workspace.side.known.lookup key = none) :
    let outcome := (attempt setup request.entity key workspace).1
    let done := (resolver setup request workspace).2
    (resolver setup request workspace).1 = outcome.getD request.fallback ∧
      done.side.known = (key, outcome) :: workspace.side.known ∧
      done.side.written = workspace.side.written + if outcome.isSome then 1 else 0 := by
  intro outcome done
  have run : resolver setup request workspace = _ := resolver_of_new supported new
  refine ⟨congrArg Prod.fst run, ?_, ?_⟩
  · have known := (attempt_spec setup workspace (ImageRequest.id_eq supported)).2
    rw [← known]
    exact congrArg (·.2.side.known) run
  · rw [← written_attempt setup workspace request.entity key]
    exact congrArg (·.2.side.written) run

end Artwork

/-- A request with the workspace it was made in, its answer, and the calls it led to. -/
structure Visit (σ : Type) where
  request : ImageRequest
  before : Workspace (Artwork σ)
  answer : Text
  calls : List (BackendCall × Bool)

namespace Artwork

variable {σ : Type}

/-- Watching changes no answer, and only a new key leads to calls. -/
theorem resolver_watched (setup : ArtworkSetup σ) (request : ImageRequest)
    (workspace : Workspace (Artwork σ)) :
    ∃ calls, resolver setup.watched request (withCalls [] workspace) =
        ((resolver setup request workspace).1,
          withCalls calls (resolver setup request workspace).2) ∧
      (request.key? = none → calls = []) ∧
      ∀ key, request.key? = some key →
        (workspace.side.known.lookup key ≠ none → calls = []) ∧
        (workspace.side.known.lookup key = none → OnePicture (setup.root.join ⟨key.path⟩)
          (attempt setup request.entity key workspace).1.isSome calls) := by
  cases supported : request.key? with
  | none =>
      refine ⟨[], ?_, fun _ => rfl, nofun⟩
      rw [resolver_of_no_key supported, resolver_of_no_key supported]
  | some key =>
      cases known : workspace.side.known.lookup key with
      | some outcome =>
          refine ⟨[], ?_, nofun, ?_⟩
          · have watched : (withCalls [] workspace).side.known.lookup key = some outcome := known
            rw [resolver_of_known supported known, resolver_of_known supported watched]
          · rintro other same
            rw [← Option.some.inj same, known]
            exact ⟨fun _ => rfl, nofun⟩
      | none =>
          rcases attempt_watched setup workspace (ImageRequest.id_eq supported) with
            ⟨calls, run, one⟩
          refine ⟨calls, ?_, nofun, ?_⟩
          · have watched : (withCalls [] workspace).side.known.lookup key = none := known
            rw [resolver_of_new supported known, resolver_of_new supported watched, run]
            rfl
          · rintro other same
            rw [← Option.some.inj same, known]
            exact ⟨fun new => absurd rfl new, fun _ => one⟩

/-- Answer a request and watch the backend meanwhile. -/
def visit (setup : ArtworkSetup σ) (request : ImageRequest) (workspace : Workspace (Artwork σ)) :
    Visit σ where
  request
  before := workspace
  answer := (resolver setup request workspace).1
  calls := (resolver setup.watched request (withCalls [] workspace)).2.side.backend.2

end Artwork
end MediaSite
