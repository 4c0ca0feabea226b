import MediaSite.Picture.Transcode
import MediaSite.Site.Page

namespace MediaSite

/-!
# Artwork

A request for a picture leads to a file of the site: scaled artwork, if the
kind of the entity has the role, the library has a file for it and that file
can be transcoded, and otherwise a stock picture of the template pack.  Each
distinct request is worked on once; its outcome is remembered until a reset.
-/

open scoped Text

/-- What distinguishes one piece of artwork from another. -/
structure ArtworkKey where
  kind : Kind
  id : UInt64
  role : ImageRole
  width : Nat
  height : Nat
  deriving DecidableEq

/-- The memory of artwork: outcomes of earlier requests, none where the stock
picture was taken, the number of files written, and the state of the backend. -/
structure Artwork (σ : Type) where
  known : List (ArtworkKey × Option Text)
  written : Nat
  backend : σ

/-- How artwork is made. -/
structure ArtworkSetup (σ : Type) where
  backend : Backend σ
  /-- The root of the site. -/
  root : Path
  quality : Nat

namespace Artwork

/-- Nothing known and nothing written. -/
def fresh (backend : σ) : Artwork σ :=
  ⟨[], 0, backend⟩

/-- Forget all outcomes. -/
def reset (artwork : Artwork σ) : Artwork σ :=
  { artwork with known := [], written := 0 }

/-- The stock picture for a request. -/
def fallbackPath (kind : Kind) (role : Text) (width height : Nat) : Text :=
  "defaults/" ++ kind.name ++ "_" ++ role ++ "_" ++ Text.ofNat width ++ "x" ++
    Text.ofNat height ++ ".png"

/-- The file of scaled artwork in a directory. -/
def filePath (directory : Text) (id : UInt64) (role : ImageRole) (width height : Nat) : Text :=
  directory ++ "/" ++ Text.ofNat id.toNat ++ "-" ++ role.name ++ "_" ++ Text.ofNat width ++ "x" ++
    Text.ofNat height ++ ".jpg"

/-- Photographs are stored as JPEG, all else as PNG. -/
def outputFormat (role : ImageRole) (quality : Nat) : OutputFormat :=
  if role.isPhotographic then .jpeg quality else .png

/-- The file that the library has for a role, if it is there. -/
def locate (tree : FileTree) (entity : Entity) (role : ImageRole) : Option Path :=
  (entity.images role).filter tree.isFile

/-- Work of a backend inside of the memory of artwork. -/
def withBackend (action : StateM (Workspace σ) α) : StateM (Workspace (Artwork σ)) α :=
  fun workspace =>
    let (answer, done) := action ⟨workspace.files, workspace.side.backend⟩
    (answer, ⟨done.files, { workspace.side with backend := done.side }⟩)

/-- Make the artwork for a request, and return its path below the root.  None
if there is no source or something failed. -/
def make (setup : ArtworkSetup σ) (entity : Entity) (directory : Text) (role : ImageRole)
    (width height : Nat) : StateM (Workspace (Artwork σ)) (Option Text) := do
  let workspace ← get
  match locate workspace.files entity role with
  | none => return none
  | some source =>
    let relative := filePath directory entity.id role width height
    let (made, files) :=
      FileTree.makeDirectories (setup.root.join ⟨directory⟩) workspace.files
    set { workspace with files }
    match made with
    | .error _ => return none
    | .ok () =>
      match ← withBackend (transcode setup.backend source (setup.root.join ⟨relative⟩)
          ⟨width, height⟩ (outputFormat role setup.quality)) with
      | .error _ => return none
      | .ok _ =>
        modify fun workspace =>
          { workspace with side := { workspace.side with written := workspace.side.written + 1 } }
        return some relative

/-- Answer requests for pictures. -/
def resolver (setup : ArtworkSetup σ) : Resolver (Workspace (Artwork σ)) := fun request => do
  let kind := request.entity.kind
  let fallback := fallbackPath kind request.role request.width request.height
  match kind.imageDirectory?, ImageRole.ofName? kind request.role with
  | some directory, some role =>
    let key : ArtworkKey := ⟨kind, request.entity.id, role, request.width, request.height⟩
    match (← get).side.known.lookup key with
    | some outcome => return outcome.getD fallback
    | none =>
      let outcome ← make setup request.entity directory role request.width request.height
      modify fun workspace =>
        { workspace with
          side := { workspace.side with known := (key, outcome) :: workspace.side.known } }
      return outcome.getD fallback
  | _, _ => return fallback

end Artwork
end MediaSite
