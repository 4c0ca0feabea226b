import MediaSite.Picture.Jpeg
import MediaSite.Picture.Png
import MediaSite.Picture.Tiff
import MediaSite.Picture.Transcode
import MediaSite.Picture.WebP

namespace MediaSite

/-!
# Pictures in files

The form of a picture is recognised from its first octets, whatever the file is
called; the name decides only where these say nothing.  A picture that was
written as artwork is read back as it is.  The codec is the backend that works on
the files of a workspace: a source has to be decoded completely before the output
is opened.
-/

open scoped Text

/-- The forms in which a source may be stored. -/
inductive SourceForm where
  | png
  | jpeg
  | tiff
  | webp
  deriving DecidableEq, Repr

namespace SourceForm

/-- The form that the first octets tell. -/
def ofOctets? (data : ByteArray) : Option SourceForm :=
  if Octets.matchesAt data 0 Png.signature then some .png
  else if Octets.matchesAt data 0 Jpeg.signature then some .jpeg
  else if Octets.matchesAt data 0 Tiff.littleSignature ||
      Octets.matchesAt data 0 Tiff.bigSignature then some .tiff
  else if WebP.isWebP data then some .webp
  else none

/-- The forms by the ends of file names. -/
def extensions : List (Text × SourceForm) :=
  [("png", .png), ("apng", .png), ("jpg", .jpeg), ("jpeg", .jpeg), ("jfif", .jpeg), ("tif", .tiff),
    ("tiff", .tiff), ("webp", .webp)]

/-- The form that the name of a file tells. -/
def ofPath? (path : Path) : Option SourceForm := do
  let extension ← path.extension?
  extensions.lookup (extension.map Char.toLower)

/-- The size of a picture in a form. -/
def size? (form : SourceForm) (data : ByteArray) : Option Size :=
  match form with
  | .png => Png.size? data
  | .jpeg => Jpeg.size? data
  | .tiff => Tiff.size? data
  | .webp => WebP.size? data

/-- Decode a picture in a form. -/
def decode? (form : SourceForm) (data : ByteArray) : Option Raster :=
  match form with
  | .png => Png.decode? data
  | .jpeg => Jpeg.decode? data
  | .tiff => Tiff.decode? data
  | .webp => WebP.decode? data

end SourceForm

namespace Content

/-- The octets of a content that is no artwork. -/
def toOctets : Content → ByteArray
  | .text characters => (String.ofList characters).toUTF8
  | .octets data => data
  | .picture _ => ByteArray.empty

/-- The form of the picture in a file. -/
def form? (content : Content) (path : Path) : Option SourceForm :=
  (SourceForm.ofOctets? content.toOctets).or (SourceForm.ofPath? path)

/-- The size of the picture in a file. -/
def pictureSize? (content : Content) (path : Path) : Option Size :=
  match content with
  | .picture made => some made.size
  | _ => do (← content.form? path).size? content.toOctets

/-- The colour of the corner of the picture in a file when it is scaled. -/
def cornerAt? (content : Content) (path : Path) (size : Size) : Option Color :=
  match content with
  | .picture made => some made.corner
  | _ => do
    let raster ← (← content.form? path).decode? content.toOctets
    some (raster.cornerAt size)

/-- The artwork that a content is, if it looks like any. -/
def artwork? (content : Content) : Option Picture :=
  match content with
  | .picture made => some made
  | _ => do
    let data := content.toOctets
    match ← SourceForm.ofOctets? data with
    | .png =>
      let raster ← Png.decode? data
      some ⟨.png, raster.size, raster.cornerAt raster.size⟩
    | .jpeg => some ⟨.jpeg, ← Jpeg.size? data, ⟨0, 0, 0, 255⟩⟩
    | _ => none

end Content

namespace Codec

/-- The picture that is written for a plan from a source with this corner.  A
JPEG file has no transparency. -/
def encoded (plan : ResizePlan) (corner : Color) : Picture :=
  match plan.format with
  | .png => ⟨.png, plan.size, corner⟩
  | .jpeg _ => ⟨.jpeg, plan.size, { corner with alpha := 255 }⟩

/-- Read the size of a picture. -/
def identify (path : Path) : StateM (Workspace σ) (Except ImageError Size) := do
  match (← get).files.read path with
  | .error error => return .error (.file error)
  | .ok content =>
    match content.pictureSize? path with
    | some size => return .ok size
    | none => return .error .failed

/-- Write a picture in another size. -/
def resize (plan : ResizePlan) : StateM (Workspace σ) (Except ImageError Unit) := do
  if !plan.isAllowed then return .error (.tooLarge plan.size)
  let workspace ← get
  match workspace.files.read plan.source with
  | .error error => return .error (.file error)
  | .ok content =>
    match content.cornerAt? plan.source plan.size with
    | none => return .error .failed
    | some corner =>
      if plan.size.width = 0 || plan.size.height = 0 then
        let (_, files) := FileTree.write plan.output (.text []) workspace.files
        set { workspace with files }
        return .error .failed
      else
        let (outcome, files) :=
          FileTree.write plan.output (.picture (encoded plan corner)) workspace.files
        set { workspace with files }
        match outcome with
        | .error error => return .error (.file error)
        | .ok () => return .ok ()

/-- The backend that works on files. -/
def backend : Backend σ where
  identify := identify
  resize := resize

end Codec
end MediaSite
