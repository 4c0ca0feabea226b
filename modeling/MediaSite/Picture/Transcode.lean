import MediaSite.Files.Tree
import MediaSite.Picture.Fit

namespace MediaSite

/-!
# Transcoding

Artwork is made in two steps, reading the size of a source and writing the
resized copy.  Both are left to a backend, an action on the files and a state
of its own; this module decides what size is written and which requests are
refused.
-/

open scoped Text

/-- A file tree together with whatever else an action works on. -/
structure Workspace (σ : Type) where
  files : FileTree
  side : σ

/-- Why a picture could not be made. -/
inductive ImageError where
  | file (error : FileError)
  /-- The source is no picture that can be read, or writing failed. -/
  | failed
  | tooLarge (size : Size)
  deriving DecidableEq, Repr

/-- The encoding of a picture to write. -/
inductive OutputFormat where
  | jpeg (quality : Nat)
  | png
  deriving DecidableEq, Repr

/-- What a backend is asked to write. -/
structure ResizePlan where
  source : Path
  output : Path
  size : Size
  format : OutputFormat
  deriving DecidableEq

/-- The largest edge that is written, in pixels. -/
def edgeLimit : Nat :=
  4096

/-- The message of a failure. -/
def ImageError.message : ImageError → Text
  | .file error => "IO error: " ++ error.message
  | .failed => "Processing failed"
  | .tooLarge size =>
    "Output size " ++ Text.ofNat size.width ++ "x" ++ Text.ofNat size.height ++
      " exceeds the " ++ Text.ofNat edgeLimit ++ "px limit"

/-- Reads and writes pictures. -/
structure Backend (σ : Type) where
  /-- The size of a picture. -/
  identify : Path → StateM (Workspace σ) (Except ImageError Size)
  /-- Write a picture in another size. -/
  resize : ResizePlan → StateM (Workspace σ) (Except ImageError Unit)

namespace ResizePlan

/-- The plan for a source of a known size. -/
def make (source output : Path) (size bounds : Size) (format : OutputFormat) : ResizePlan :=
  { source, output, size := size.fit bounds, format }

/-- Both edges are within the limit. -/
def isAllowed (plan : ResizePlan) : Bool :=
  plan.size.width ≤ edgeLimit && plan.size.height ≤ edgeLimit

end ResizePlan

/-- Scale a picture into a box, and return the size that was written.  Sizes
over the limit are refused before the backend is asked to write. -/
def transcode (backend : Backend σ) (source output : Path) (bounds : Size)
    (format : OutputFormat) : StateM (Workspace σ) (Except ImageError Size) := do
  match ← backend.identify source with
  | .error error => return .error error
  | .ok size =>
    let plan := ResizePlan.make source output size bounds format
    if plan.isAllowed then
      match ← backend.resize plan with
      | .error error => return .error error
      | .ok () => return .ok plan.size
    else return .error (.tooLarge plan.size)

end MediaSite
