import MediaSite.Library.Load
import MediaSite.Template.Block
import MediaSite.Toml.Moment
import MediaSite.Toml.Record

namespace MediaSite

/-!
# Settings

Three settings govern an export: the quality of photographs, which of several
blocks of one name is taken, and the sections to export.  They come in layers,
each a TOML document that gives some of them: the defaults, a file of the
template pack, a file of the user.  The layers are merged and then read, so a
value that a later layer replaces need not be valid, but a key that is not
known is refused in every layer.
-/

open scoped Text

/-- The settings of an export. -/
structure Settings where
  /-- From 1 to 100 in settings that are valid. -/
  jpegQuality : Nat := 90
  blockMatch : BlockMatch := .first
  sections : List Section := Section.lists
  deriving DecidableEq, Repr

/-- What is wrong with settings that could be read. -/
inductive SettingsFault where
  | qualityRange
  | noSections
  | notAList (part : Section)
  deriving DecidableEq, Repr

/-- Why settings could not be loaded. -/
inductive SettingsError where
  | file (error : FileError)
  /-- A layer is no TOML document, or a key or the type of a value is wrong. -/
  | content
  | fault (fault : SettingsFault)
  deriving DecidableEq, Repr

/-- The message about a fault. -/
def SettingsFault.message : SettingsFault → Text
  | .qualityRange => "Config validation error: images.jpeg_quality must be 1-100"
  | .noSections => "Config validation error: export.sections must not be empty"
  | .notAList part =>
    "Config validation error: export.sections accepts movies, tvshows or concerts, not " ++
      part.name

/-- The quality of a JPEG file, brought into the range from 1 to 100. -/
def clampQuality (quality : Nat) : Nat :=
  max 1 (min quality 100)

namespace Settings

/-- The quality that photographs are stored with. -/
def quality (settings : Settings) : Nat :=
  clampQuality settings.jpegQuality

/-- The name of the file with the settings of a template pack. -/
def fileName : Text :=
  "config.toml"

/-- The way to match with a given name. -/
def blockMatchOfName? (text : Text) : Option BlockMatch :=
  [BlockMatch.first, BlockMatch.last].find? (·.name == text)

/-- Read settings from a value. -/
def ofToml? (surplus : Toml.Surplus) (value : Toml) : Option Settings := do
  let parts ← Toml.fields? surplus ["images", "templates", "export"] value
  let jpegQuality ← Toml.field parts "images" (fun part => do
    let fields ← Toml.fields? surplus ["jpeg_quality"] part
    Toml.field fields "jpeg_quality" (Toml.asNatural UInt32.size) 90) 90
  let blockMatch ← Toml.field parts "templates" (fun part => do
    let fields ← Toml.fields? surplus ["block_match"] part
    Toml.field fields "block_match" (Toml.asNamed blockMatchOfName?) .first) .first
  let sections ← Toml.field parts "export" (fun part => do
    let fields ← Toml.fields? surplus ["sections"] part
    Toml.field fields "sections" (Toml.asList (Toml.asNamed Section.ofName?)) Section.lists)
    Section.lists
  return { jpegQuality, blockMatch, sections }

/-- Read settings from a document that stands alone. -/
def parse? (text : Text) : Option Settings :=
  (Toml.parse? text).bind (ofToml? .ignored)

/-- Settings as a value. -/
def toToml (settings : Settings) : Toml :=
  .table [
    ("images", .table [("jpeg_quality", .integer settings.jpegQuality)]),
    ("templates", .table [("block_match", .string settings.blockMatch.name)]),
    ("export", .table [("sections", .array (settings.sections.map fun part => .string part.name))])]

/-- The first fault of settings, if they have one. -/
def fault? (settings : Settings) : Option SettingsFault :=
  if settings.jpegQuality < 1 || 100 < settings.jpegQuality then some .qualityRange
  else if settings.sections.isEmpty then some .noSections
  else (settings.sections.find? fun part => !part.isList).map .notAList

/-- The default settings, over which all layers are laid. -/
def base : Toml :=
  toToml {}

/-- The settings that layers give together, later ones over earlier ones. -/
def resolve (layers : List Toml) : Except SettingsError Settings :=
  match ofToml? .refused (layers.foldl Toml.merge base) with
  | none => .error .content
  | some settings =>
    match settings.fault? with
    | some fault => .error (.fault fault)
    | none => .ok settings

/-- One layer of settings. -/
def parseLayer (text : Text) : Except SettingsError Toml :=
  match (Toml.parse? text).bind Toml.withMoments? with
  | some layer => .ok layer
  | none => .error .content

/-- Read a layer from a file. -/
def readLayer (path : Path) (tree : FileTree) : Except SettingsError Toml :=
  match tree.readText path with
  | .ok text => parseLayer text
  | .error error => .error (.file error)

/-- Load the settings for a template pack.  The pack need not have a file of
settings; a file of the user has to be there. -/
def load (pack : Path) (user : Option Path) (tree : FileTree) : Except SettingsError Settings := do
  let file := pack.join ⟨fileName⟩
  let own ← if tree.holds file then (readLayer file tree).map ([·]) else .ok []
  let given ← match user with
    | some path => (readLayer path tree).map ([·])
    | none => .ok []
  resolve (own ++ given)

/-- A file of settings with every key, its meaning and its default. -/
def stockText : Text :=
  "# Media Export Configuration
# ==========================
# All settings are optional. Remove or comment out any you don't need.
# Values shown below are the defaults.
#
# Config is read from two places, later overriding earlier:
#   <template pack>/config.toml   -> shipped with the templates
#   --config <file>               -> passed on the command line
#
# Each layer only needs the keys it wants to override.
# Unknown keys will cause an error.

# ---------------------------------------------------------------------------
# Artwork
# ---------------------------------------------------------------------------
[images]
# JPEG quality for poster, fanart, banner, disc and thumbnail artwork
# (1 = worst, 100 = best). Other roles are stored as lossless PNG.
jpeg_quality = 90

# ---------------------------------------------------------------------------
# Templates
# ---------------------------------------------------------------------------
[templates]
# When a template repeats a block name, which occurrence is expanded.
# \"first\" expands the first complete block. \"last\" reproduces the output of
# older exporters: entity blocks expand their last occurrence, value blocks
# (tags, genres, actors, ...) their first, and every identical copy of the
# expanded block is replaced.
block_match = \"first\"

# ---------------------------------------------------------------------------
# Export
# ---------------------------------------------------------------------------
[export]
# Sections to export, always processed in the order movies, tvshows, concerts.
sections = [\"movies\", \"tvshows\", \"concerts\"]
"

end Settings
end MediaSite
