import MediaSite.Site.Field
import MediaSite.Site.Settings
import MediaSite.Text.Ascending

namespace MediaSite

/-!
# Template packs

A pack is a directory with one template per section, an optional manifest, an
optional file of settings, and assets, which are all other files in it.  A
section without a template renders from the empty one.

Checking a pack lists the tokens in each template that nothing would fill.
Assets are copied to the same places below the output directory; an output
directory inside of the pack is not part of it.  The pack is walked through
while it is copied: a directory is opened when the walk comes to it, and a name
is looked up when its turn comes.  So where the pack stands in the output
directory, what has been copied already can be come to and copied again.
-/

open scoped Text

/-- What a pack says about itself. -/
structure Manifest where
  name : Text := []
  description : Text := []
  version : Text := []
  /-- The sections that the pack provides; empty if it does not say. -/
  sections : List Section := []
  deriving DecidableEq

/-- A template pack. -/
structure Pack where
  root : Path
  manifest : Manifest
  templates : List (Section × Text)
  deriving DecidableEq

/-- Why a pack could not be opened. -/
inductive PackError where
  | file (error : FileError)
  | manifest
  | notFound (root : Path)
  deriving DecidableEq

/-- The message of a failure. -/
def PackError.message : PackError → Text
  | .file error => error.report
  | .manifest => "Invalid template.toml"
  | .notFound root => "Template pack not found: " ++ root.text

namespace Manifest

/-- The name of the file with the manifest. -/
def fileName : Text :=
  "template.toml"

/-- Read a manifest from a value. -/
def ofToml? (value : Toml) : Option Manifest := do
  let fields ← Toml.fields? .ignored ["name", "description", "version", "sections"] value
  let name ← Toml.field fields "name" Toml.asText []
  let description ← Toml.field fields "description" Toml.asText []
  let version ← Toml.field fields "version" Toml.asText []
  let sections ← Toml.field fields "sections" (Toml.asList (Toml.asNamed Section.ofName?)) []
  return { name, description, version, sections }

/-- Claims to provide a section.  A manifest that names no sections claims all. -/
def declares (manifest : Manifest) (part : Section) : Bool :=
  manifest.sections.isEmpty || manifest.sections.contains part

end Manifest

namespace Pack

/-- The template of a section, empty if the pack has none. -/
def template (pack : Pack) (part : Section) : Text :=
  (pack.templates.lookup part).getD []

/-- Has a template for a section. -/
def hasTemplate (pack : Pack) (part : Section) : Bool :=
  (pack.templates.lookup part).isSome

/-! ## Opening -/

/-- Read the manifest of the pack in a directory, if it has one. -/
def readManifest (root : Path) (tree : FileTree) : Except PackError Manifest :=
  let path := root.join ⟨Manifest.fileName⟩
  if tree.holds path then
    match tree.readText path with
    | .error error => .error (.file error)
    | .ok text =>
      match (Toml.parse? text).bind Manifest.ofToml? with
      | some manifest => .ok manifest
      | none => .error .manifest
  else .ok {}

/-- Read the templates of some sections. -/
def readTemplates (root : Path) (tree : FileTree) :
    List Section → Except PackError (List (Section × Text))
  | [] => .ok []
  | part :: rest => do
    let path := root.join ⟨part.fileName⟩
    if tree.isFile path then
      match tree.readText path with
      | .error error => .error (.file error)
      | .ok text => return (part, text) :: (← readTemplates root tree rest)
    else readTemplates root tree rest

/-- Open the pack in a directory. -/
def read (root : Path) (tree : FileTree) : Except PackError Pack := do
  if !tree.isDirectory root then throw (.notFound root)
  let manifest ← readManifest root tree
  let templates ← readTemplates root tree Section.all
  return { root, manifest, templates }

/-! ## Checking -/

/-- The kinds whose fields may stand in the template of a section. -/
def kinds : Section → List Kind
  | .movies | .movie => [.movie]
  | .tvShows | .tvShow => [.tvShow, .season, .episode]
  | .episode => [.episode]
  | .concerts | .concert => [.concert]

/-- The tokens that are filled in the template of a section. -/
def knownNames (part : Section) : List Text :=
  (kinds part).flatMap Kind.fieldNames ++ listItemNames

/-- What was found about the template of a section. -/
structure Finding where
  part : Section
  present : Bool
  /-- Tokens that nothing would fill, ascending. -/
  unknown : List Text
  deriving DecidableEq

/-- The tokens in a template of a section that nothing would fill. -/
def unknownNames (part : Section) (template : Text) : List Text :=
  ascending ((Token.remaining template).filter fun name => !(knownNames part).contains name)

/-- Check the templates of all sections. -/
def check (pack : Pack) : List Finding :=
  Section.all.map fun part => {
    part
    present := pack.hasTemplate part
    unknown := unknownNames part (pack.template part) }

/-! ## Assets -/

/-- The files of a pack that are no assets. -/
def ownFiles : List Text :=
  Manifest.fileName :: Settings.fileName :: Section.all.map Section.fileName

/-- Whether a location in a pack is that of an asset. -/
def isAsset (relative : Location) : Bool :=
  match relative with
  | [name] => !ownFiles.contains name
  | _ => true

/-- The path of a location. -/
def pathOf (location : Location) : Path :=
  ⟨Text.join ['/'] location⟩

/-- Copy what stands at a place in the pack at a location: a directory is made, an asset
is copied, and the pack's own files are passed over. -/
def copyEntry (root : Location) (output : Path) (relative : Location) :
    Entry → FileAction Unit
  | .directory => FileTree.makeDirectories (output.join (pathOf relative))
  | _ =>
    if isAsset relative then
      let target := output.join (pathOf relative)
      FileTree.inTurn (FileTree.makeDirectories (target.parent?.getD target)) fun _ =>
        FileTree.copy (pathOf (root ++ relative)) target
    else FileTree.done ()

/-- Copy what stands at some names in a directory of a pack, each when its turn comes, and
with `enter` what a directory among them yields.  The directory `left` is left out.  The
outcome is what was come to, in this order. -/
def copyNames (root : Location) (output : Path) (left : Option Location)
    (enter : Location → List Text → FileAction (List (Location × Entry))) (above : Location) :
    List Text → FileAction (List (Location × Entry))
  | [] => FileTree.done []
  | name :: rest => fun tree =>
    let relative := above ++ [name]
    if left = some (root ++ relative) then copyNames root output left enter above rest tree
    else
      match tree.get? (root ++ relative) with
      | none => copyNames root output left enter above rest tree
      | some entry =>
        FileTree.inTurn (copyEntry root output relative entry) (fun _ =>
          FileTree.inTurn
            (if entry = .directory then enter relative (tree.reading (root ++ relative))
            else FileTree.done []) fun inner =>
              FileTree.inTurn (copyNames root output left enter above rest) fun others =>
                FileTree.done ((relative, entry) :: inner ++ others)) tree

/-- Copy what stands at some names in a directory of a pack, and below them.  No path has more
names than octets, so no more levels can be reached than there are octets in a path. -/
def copyBelow (root : Location) (output : Path) (left : Option Location) :
    (levels : Nat) → Location → List Text → FileAction (List (Location × Entry))
  | 0, _, _ => fun tree => (.error .nameTooLong, tree)
  | levels + 1, above, names =>
    copyNames root output left (copyBelow root output left levels) above names

/-- Walk through a pack and copy it to an output directory, which is left out where it
stands in the pack.  The outcome is what was come to. -/
def copyTree (pack : Pack) (output : Path) : FileAction (List (Location × Entry)) := fun tree =>
  match tree.canonical pack.root with
  | .error error => (.error error, tree)
  | .ok root =>
    copyBelow root output (tree.canonical output).toOption (FileTree.pathLimit + 1) []
      (tree.reading root) tree

/-- Is copied when a walk comes to it. -/
def isCopied (item : Location × Entry) : Bool :=
  item.2 != .directory && isAsset item.1

/-- Copy the assets of a pack to an output directory, and count them. -/
def copyAssets (pack : Pack) (output : Path) : FileAction Nat :=
  FileTree.inTurn (pack.copyTree output) fun walked => FileTree.done (walked.countP isCopied)

end Pack
end MediaSite
