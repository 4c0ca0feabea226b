import MediaSite.Proofs.Site.Requests
import MediaSite.Proofs.Text.Lookup
import MediaSite.Proofs.Text.Search
import MediaSite.Site.Artwork

namespace MediaSite

/-!
# Requests for artwork

A request is answered in one of three ways, by its key: without one by the stock
picture, with one that is known by the outcome that is remembered, and with a new
one by making the artwork.  Artwork has its own path for each key, so what is
remembered for a key can only be that path.
-/

open scoped Text

/-! ## Keys -/

namespace ImageRequest

/-- What a request is remembered by, if its kind has the role at all. -/
def key? (request : ImageRequest) : Option ArtworkKey :=
  match request.entity.kind.imageDirectory?, ImageRole.ofName? request.entity.kind request.role with
  | some _, some role =>
    some ⟨request.entity.kind, request.entity.id, role, request.width, request.height⟩
  | _, _ => none

/-- The stock picture for a request. -/
def fallback (request : ImageRequest) : Text :=
  Artwork.fallbackPath request.entity.kind request.role request.width request.height

end ImageRequest

namespace ArtworkKey

def directory (key : ArtworkKey) : Text :=
  key.kind.imageDirectory?.getD []

/-- The file of the artwork for a key, below the root of the site. -/
def path (key : ArtworkKey) : Text :=
  Artwork.filePath key.directory key.id key.role key.width key.height

end ArtworkKey

theorem ImageRequest.key?_eq_some {request : ImageRequest} {key : ArtworkKey}
    (found : request.key? = some key) :
    request.entity.kind.imageDirectory? = some key.directory ∧
      ImageRole.ofName? request.entity.kind request.role = some key.role ∧
      key = ⟨request.entity.kind, request.entity.id, key.role, request.width, request.height⟩ := by
  rw [key?] at found
  split at found
  · rename_i directory role known supported
    cases found
    refine ⟨?_, supported, rfl⟩
    rw [ArtworkKey.directory, known]
    rfl
  · cases found

/-- Seasons and roles that a kind does not have are not worked on. -/
theorem ImageRequest.key?_eq_none {request : ImageRequest}
    (unsupported : request.entity.kind = .season ∨
      ImageRole.ofName? request.entity.kind request.role = none) : request.key? = none := by
  rw [key?]
  rcases unsupported with season | role
  · rw [season]
    rfl
  · rw [role]
    cases request.entity.kind.imageDirectory? <;> rfl

theorem ImageRequest.id_eq {request : ImageRequest} {key : ArtworkKey}
    (found : request.key? = some key) : request.entity.id = key.id :=
  (congrArg ArtworkKey.id (key?_eq_some found).2.2).symm

namespace Text

theorem ofNat_injective {first second : Nat} (same : ofNat first = ofNat second) :
    first = second := by
  have read := congrArg (Nat.ofDigitChars 10 · 0) same
  simpa only [ofNat, Nat.ofDigitChars_ten_toDigits] using read

theorem not_mem_ofNat {c : Char} (other : c.isDigit = false) (n : Nat) : c ∉ ofNat n := by
  intro member
  have digit := Nat.isDigit_of_mem_toDigits (by decide) (by decide) member
  rw [other] at digit
  cases digit

end Text

/-- The path of a key, as its parts between separators that they are free of. -/
theorem ArtworkKey.path_eq {key : ArtworkKey} (pictured : key.kind.imageDirectory? ≠ none) :
    key.path = key.kind.name ++ '_' :: (("images/" : Text) ++ (Text.ofNat key.id.toNat ++ '-' ::
      (key.role.name ++ '_' :: (Text.ofNat key.width ++ 'x' :: (Text.ofNat key.height ++ '.' ::
        ("jpg" : Text)))))) := by
  have directory : key.directory = key.kind.name ++ ("_images" : Text) := by
    rw [directory]
    revert pictured
    cases key.kind with
    | season => exact fun pictured => absurd rfl pictured
    | movie => exact fun _ => rfl
    | tvShow => exact fun _ => rfl
    | episode => exact fun _ => rfl
    | concert => exact fun _ => rfl
  rw [path, Artwork.filePath, directory]
  simp

theorem ArtworkKey.head?_path {key : ArtworkKey} (pictured : key.kind.imageDirectory? ≠ none) :
    key.path.head? = key.kind.name.head? := by
  rw [path_eq pictured]
  cases key.kind <;> rfl

/-- Artwork of different keys has different paths. -/
theorem ArtworkKey.path_injective {first second : ArtworkKey}
    (pictured : first.kind.imageDirectory? ≠ none) (others : second.kind.imageDirectory? ≠ none)
    (same : first.path = second.path) : first = second := by
  have line (kind : Kind) : '_' ∉ kind.name := by cases kind <;> decide
  have dash : ('-').isDigit = false := by decide
  have cross : ('x').isDigit = false := by decide
  have dot : ('.').isDigit = false := by decide
  have roleLine (role : ImageRole) : '_' ∉ role.name := by cases role <;> decide
  -- No part has the separator that follows it, so the paths come apart part by part.
  rw [path_eq pictured, path_eq others] at same
  rcases Text.append_cons_inj (line _) (line _) same with ⟨kind, same⟩
  rcases Text.append_cons_inj (Text.not_mem_ofNat dash _) (Text.not_mem_ofNat dash _)
    (List.append_cancel_left same) with ⟨id, same⟩
  rcases Text.append_cons_inj (roleLine _) (roleLine _) same with ⟨role, same⟩
  rcases Text.append_cons_inj (Text.not_mem_ofNat cross _) (Text.not_mem_ofNat cross _) same with
    ⟨width, same⟩
  rcases Text.append_cons_inj (Text.not_mem_ofNat dot _) (Text.not_mem_ofNat dot _) same with
    ⟨height, _⟩
  have sameKind : first.kind = second.kind := by
    revert kind
    cases first.kind <;> cases second.kind <;> decide
  have sameRole : first.role = second.role := by
    revert role
    cases first.role <;> cases second.role <;> decide
  have sameId : first.id = second.id := UInt64.toNat_inj.mp (Text.ofNat_injective id)
  have sameWidth := Text.ofNat_injective width
  have sameHeight := Text.ofNat_injective height
  cases first
  cases second
  simp_all

theorem Path.join_injective {base first second : Path} (relative : first.isAbsolute = false)
    (others : second.isAbsolute = false) (same : base.join first = base.join second) :
    first = second := by
  rw [join, join, relative, others] at same
  split at same
  · exact same
  · split at same
    · exact congrArg Path.mk (List.append_cancel_left (Path.mk.inj same))
    · exact congrArg Path.mk (List.append_cancel_left (Path.mk.inj same))

/-- Artwork of different keys is written to different places. -/
theorem ArtworkKey.place_injective (root : Path) {first second : ArtworkKey}
    (pictured : first.kind.imageDirectory? ≠ none) (others : second.kind.imageDirectory? ≠ none)
    (same : root.join ⟨first.path⟩ = root.join ⟨second.path⟩) : first = second := by
  have relative {key : ArtworkKey} (pictured : key.kind.imageDirectory? ≠ none) :
      Path.isAbsolute ⟨key.path⟩ = false := by
    rw [Path.isAbsolute, head?_path pictured]
    cases key.kind <;> rfl
  exact path_injective pictured others
    (Path.mk.inj (Path.join_injective (relative pictured) (relative others) same))

theorem ImageRequest.pictured {request : ImageRequest} {key : ArtworkKey}
    (found : request.key? = some key) : key.kind.imageDirectory? ≠ none := by
  rcases key?_eq_some found with ⟨directory, _, same⟩
  rw [same, directory]
  exact Option.some_ne_none _

/-- The stock picture is no artwork. -/
theorem ImageRequest.fallback_ne_path (request : ImageRequest) {key : ArtworkKey}
    (pictured : key.kind.imageDirectory? ≠ none) : request.fallback ≠ key.path := by
  intro same
  have start : request.fallback.head? = some 'd' := rfl
  rw [same, ArtworkKey.head?_path pictured] at start
  revert start
  cases key.kind <;> decide

/-! ## Answers -/

namespace Artwork

variable {σ : Type} (setup : ArtworkSetup σ)

/-- Make the artwork for a key of an entity. -/
def attempt (entity : Entity) (key : ArtworkKey) :
    StateM (Workspace (Artwork σ)) (Option Text) :=
  make setup entity key.directory key.role key.width key.height

/-- Remember an outcome. -/
def remember (key : ArtworkKey) (outcome : Option Text) (workspace : Workspace (Artwork σ)) :
    Workspace (Artwork σ) :=
  { workspace with side := { workspace.side with known := (key, outcome) :: workspace.side.known } }

theorem make_eq (entity : Entity) (directory : Text) (role : ImageRole) (width height : Nat)
    (workspace : Workspace (Artwork σ)) :
    make setup entity directory role width height workspace =
      match locate workspace.files entity role with
      | none => (none, workspace)
      | some source =>
        match FileTree.makeDirectories (setup.root.join ⟨directory⟩) workspace.files with
        | (.error _, files) => (none, { workspace with files })
        | (.ok (), files) =>
          match transcode setup.backend source
              (setup.root.join ⟨filePath directory entity.id role width height⟩) ⟨width, height⟩
              (outputFormat role setup.quality) ⟨files, workspace.side.backend⟩ with
          | (.error _, done) => (none, ⟨done.files, { workspace.side with backend := done.side }⟩)
          | (.ok _, done) =>
            (some (filePath directory entity.id role width height),
              ⟨done.files, ⟨workspace.side.known, workspace.side.written + 1, done.side⟩⟩) := by
  unfold make
  cases located : locate workspace.files entity role with
  | none =>
      simp only [bind_apply, get_apply, pure_apply, located]
  | some source =>
      rcases made : FileTree.makeDirectories (setup.root.join ⟨directory⟩) workspace.files with
        ⟨outcome, files⟩
      cases outcome with
      | error _ =>
          simp only [bind_apply, get_apply, set_apply, pure_apply, located, made]
      | ok _ =>
          rcases transcoded : transcode setup.backend source
            (setup.root.join ⟨filePath directory entity.id role width height⟩) ⟨width, height⟩
            (outputFormat role setup.quality) ⟨files, workspace.side.backend⟩ with ⟨answer, done⟩
          cases answer <;>
            simp only [bind_apply, get_apply, set_apply, modify_apply, pure_apply, withBackend,
              located, made, transcoded]

variable {setup} {request : ImageRequest} {key : ArtworkKey} {workspace : Workspace (Artwork σ)}

theorem resolver_of_no_key (unsupported : request.key? = none) :
    resolver setup request workspace = (request.fallback, workspace) := by
  unfold resolver
  rw [ImageRequest.key?] at unsupported
  cases directory : request.entity.kind.imageDirectory? with
  | none => rfl
  | some _ =>
      cases role : ImageRole.ofName? request.entity.kind request.role with
      | none => rfl
      | some _ =>
          rw [directory, role] at unsupported
          cases unsupported

theorem resolver_of_known (supported : request.key? = some key) {outcome : Option Text}
    (known : workspace.side.known.lookup key = some outcome) :
    resolver setup request workspace = (outcome.getD request.fallback, workspace) := by
  rcases ImageRequest.key?_eq_some supported with ⟨directory, role, same⟩
  rw [same] at known
  unfold resolver
  simp only [directory, role, bind_apply, get_apply, known]
  rfl

theorem resolver_of_new (supported : request.key? = some key)
    (new : workspace.side.known.lookup key = none) :
    resolver setup request workspace =
      ((attempt setup request.entity key workspace).1.getD request.fallback,
        remember key (attempt setup request.entity key workspace).1
          (attempt setup request.entity key workspace).2) := by
  rcases ImageRequest.key?_eq_some supported with ⟨directory, role, same⟩
  have width := congrArg ArtworkKey.width same
  have height := congrArg ArtworkKey.height same
  rw [same] at new
  unfold resolver
  simp only [directory, role, bind_apply, get_apply, new]
  rw [attempt, width, height, same]
  rfl

theorem attempt_of_missing {entity : Entity}
    (missing : locate workspace.files entity key.role = none) :
    attempt setup entity key workspace = (none, workspace) := by
  rw [attempt, make_eq, missing]

theorem attempt_of_transcoded {entity : Entity} {source : Path}
    (located : locate workspace.files entity key.role = some source) {files : FileTree}
    (made : FileTree.makeDirectories (setup.root.join ⟨key.directory⟩) workspace.files =
      (.ok (), files)) {size : Size} {done : Workspace σ}
    (transcoded : transcode setup.backend source
      (setup.root.join ⟨filePath key.directory entity.id key.role key.width key.height⟩)
      ⟨key.width, key.height⟩ (outputFormat key.role setup.quality)
      ⟨files, workspace.side.backend⟩ = (.ok size, done)) :
    attempt setup entity key workspace =
      (some (filePath key.directory entity.id key.role key.width key.height),
        ⟨done.files, ⟨workspace.side.known, workspace.side.written + 1, done.side⟩⟩) := by
  rw [attempt, make_eq, located]
  simp only [made, transcoded]

/-- Artwork that is made has the path of its key, and nothing known is forgotten. -/
theorem attempt_spec (setup : ArtworkSetup σ) (workspace : Workspace (Artwork σ)) {entity : Entity}
    (same : entity.id = key.id) :
    (∀ path, (attempt setup entity key workspace).1 = some path → path = key.path) ∧
      (attempt setup entity key workspace).2.side.known = workspace.side.known := by
  rw [attempt, make_eq]
  split
  · exact ⟨nofun, rfl⟩
  · split
    · exact ⟨nofun, rfl⟩
    · split
      · exact ⟨nofun, rfl⟩
      · refine ⟨fun path found => ?_, rfl⟩
        rw [← Option.some.inj found, same]
        rfl

/-! ## Reachable memories -/

/-- The memory of artwork after any requests and resets.  Between them the files and
the backend may change in any way. -/
inductive Reachable (setup : ArtworkSetup σ) : Workspace (Artwork σ) → Prop where
  | fresh (files : FileTree) (backend : σ) : Reachable setup ⟨files, Artwork.fresh backend⟩
  | reset {workspace : Workspace (Artwork σ)} (before : Reachable setup workspace) :
      Reachable setup { workspace with side := workspace.side.reset }
  | request (request : ImageRequest) {workspace : Workspace (Artwork σ)}
      (before : Reachable setup workspace) : Reachable setup (resolver setup request workspace).2
  | elsewhere (files : FileTree) (backend : σ) {workspace : Workspace (Artwork σ)}
      (before : Reachable setup workspace) :
      Reachable setup ⟨files, { workspace.side with backend }⟩

/-- What is remembered for a key is its path, or that there is no artwork. -/
def Sound (workspace : Workspace (Artwork σ)) : Prop :=
  ∀ key path, (key, some path) ∈ workspace.side.known → path = key.path

/-- A request is answered with the artwork of its key or with the stock picture. -/
theorem Sound.resolver (sound : Sound workspace) (setup : ArtworkSetup σ) (request : ImageRequest) :
    ((resolver setup request workspace).1 = request.fallback ∨
      ∃ key, request.key? = some key ∧ (resolver setup request workspace).1 = key.path) ∧
      Sound (resolver setup request workspace).2 := by
  have answered {key : ArtworkKey} (supported : request.key? = some key) {outcome : Option Text}
      (right : ∀ path, outcome = some path → path = key.path) :
      outcome.getD request.fallback = request.fallback ∨
        ∃ key, request.key? = some key ∧ outcome.getD request.fallback = key.path := by
    cases outcome with
    | none => exact .inl rfl
    | some path => exact .inr ⟨key, supported, right path rfl⟩
  cases supported : request.key? with
  | none =>
      rw [resolver_of_no_key supported]
      exact ⟨.inl rfl, sound⟩
  | some key =>
      rw [supported] at answered
      cases known : workspace.side.known.lookup key with
      | some outcome =>
          rw [resolver_of_known supported known]
          refine ⟨answered rfl fun path found => ?_, sound⟩
          apply sound key path
          rw [← found]
          exact mem_of_lookup known
      | none =>
          rcases attempt_spec setup workspace (ImageRequest.id_eq supported) with ⟨right, unchanged⟩
          rw [resolver_of_new supported known]
          refine ⟨answered rfl right, ?_⟩
          intro other path member
          rcases List.mem_cons.mp member with here | earlier
          · rcases Prod.mk.inj here with ⟨rfl, found⟩
            exact right path found.symm
          · rw [unchanged] at earlier
            exact sound other path earlier

theorem Reachable.sound (reachable : Reachable setup workspace) : Sound workspace := by
  induction reachable with
  | fresh files backend => exact nofun
  | reset before inductionHypothesis => exact nofun
  | request request before inductionHypothesis =>
      exact (inductionHypothesis.resolver setup request).2
  | elsewhere files backend before inductionHypothesis => exact inductionHypothesis

end Artwork
end MediaSite
