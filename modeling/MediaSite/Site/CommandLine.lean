import MediaSite.Picture.Codec
import MediaSite.Site.Artwork
import MediaSite.Site.Report

namespace MediaSite

/-!
# The command line

Three commands: `export` makes a site, `check` looks at a template pack, and
`gen-config` prints a file of settings.  A command line is read into a
`Command` first; running a command gives an exit code, the text that it prints
and the files that it leaves behind.

Options may come in any order, their values in the next word or behind an
equals sign.  A value that begins with a dash needs the equals sign.  Only the
option for sections may be repeated.  A word that asks for help ends the
reading, if nothing in front of it is wrong.
-/

open scoped Text

/-- What the program is asked to do. -/
inductive Command where
  | version
  | help
  | export (library templates output : Path) (settings : Option Path) (sections : List Section)
  | check (templates : Path)
  | stockSettings
  deriving DecidableEq

/-- What running a command gives. -/
structure CommandResult where
  code : Nat
  output : Text
  files : FileTree

namespace Command

/-- The name and version of the program. -/
def versionText : Text :=
  "media-export 0.4.0\n"

/-- What the program says about itself. -/
def helpText : Text :=
  "Export a media library as a static HTML site

Usage: media-export <COMMAND>

Commands:
  export      Render the library through a template pack into an output directory
  check       Report missing templates and unknown placeholders in a template pack
  gen-config  Print a stock config.toml with all options documented
  help        Print this message or the help of the given subcommand(s)

Options:
  -h, --help     Print help
  -V, --version  Print version
"

/-! ## Reading -/

/-- The words of a command taken apart: options by name, in order. -/
inductive Parsed where
  | help
  | options (given : List (Text × Text))

/-- Starts like an option, and so is no value on its own. -/
def looksLikeOption (word : Text) : Bool :=
  ['-'].isPrefixOf word && word.length ≠ 1

/-- The list section with a name in any case. -/
def sectionOf? (word : Text) : Option Section :=
  Section.lists.find? (·.name == Text.lowercase word)

/-- Whether an option may have a value after the options in front of it: only
sections may be repeated, and a path is not empty. -/
def accepts (given : List (Text × Text)) (name value : Text) : Bool :=
  if name = "section" then (sectionOf? value).isSome
  else !value.isEmpty && (given.lookup name).isNone

/-- Read the words of a command with options of these names, after the options
that are `given`, the last one in front. -/
def parseWords (names : List Text) (given : List (Text × Text)) : List Text → Option Parsed
  | [] => some (.options given.reverse)
  | word :: rest =>
    if word = "--help" || ['-', 'h'].isPrefixOf word then some .help
    else if word = "--" then (if rest.isEmpty then some (.options given.reverse) else none)
    else if "--".toList.isPrefixOf word then
      let name := (word.drop 2).takeWhile (· != '=')
      if !names.contains name then none
      else
        match word.drop (2 + name.length) with
        | _ :: value =>
          if accepts given name value then parseWords names ((name, value) :: given) rest else none
        | [] =>
          match rest with
          | [] => none
          | value :: rest =>
            if !looksLikeOption value && accepts given name value then
              parseWords names ((name, value) :: given) rest
            else none
    else none

/-- All values given for an option. -/
def valuesOf (name : Text) (given : List (Text × Text)) : List Text :=
  (given.filter (·.1 == name)).map (·.2)

/-- The path given for an option. -/
def pathOf? (name : Text) (given : List (Text × Text)) : Option Path :=
  (given.lookup name).map Path.mk

/-- Read the words behind `export`. -/
def parseExport (words : List Text) : Option Command := do
  match ← parseWords ["library", "templates", "output", "config", "section"] [] words with
  | .help => some .help
  | .options given =>
    let library ← pathOf? "library" given
    let templates ← pathOf? "templates" given
    some (.export library templates ((pathOf? "output" given).getD ⟨"export"⟩)
      (pathOf? "config" given) ((valuesOf "section" given).filterMap sectionOf?))

/-- Read the words behind `check`. -/
def parseCheck (words : List Text) : Option Command := do
  match ← parseWords ["templates"] [] words with
  | .help => some .help
  | .options given => (pathOf? "templates" given).map .check

/-- Read a command line. -/
def parse (words : List Text) : Option Command :=
  match words with
  | [] => none
  | word :: rest =>
    if word = "--version" || ['-', 'V'].isPrefixOf word then some .version
    else if word = "--help" || ['-', 'h'].isPrefixOf word then some .help
    else if word = "export" then parseExport rest
    else if word = "check" then parseCheck rest
    else if word = "gen-config" then
      match parseWords [] [] rest with
      | some .help => some .help
      | some (.options _) => some .stockSettings
      | none => none
    else if word = "help" then
      match rest with
      | [] => some .help
      | [name] =>
        if ["export".toList, "check", "gen-config", "help"].contains name then some .help else none
      | _ => none
    else none

/-! ## Running -/

/-- Lines as a text. -/
def ofLines (lines : List Text) : Text :=
  lines.flatMap fun line => line ++ "\n"

/-- A command that failed after printing something. -/
def failure (output : Text) (files : FileTree) : CommandResult :=
  ⟨1, output, files⟩

/-- Make a site. -/
def runExport (library templates output : Path) (settings : Option Path)
    (sections : List Section) (files : FileTree) : CommandResult :=
  match Library.load library files, Pack.read templates files,
      Settings.load templates settings files with
  | .ok library, .ok pack, .ok settings =>
    let sections := if sections.isEmpty then settings.sections else sections
    let heading := "==> Exporting to " ++ output.text ++ "\n"
    let setup : ArtworkSetup Unit := ⟨Codec.backend, output, settings.quality⟩
    let job : ExportJob (Artwork Unit) :=
      ⟨library, pack, Artwork.resolver setup, output, settings.blockMatch⟩
    let report := Exporter.run job (fun _ _ => false) sections {} ⟨files, Artwork.fresh ()⟩
    match report.outcome with
    | .error _ => failure heading report.workspace.files
    | .ok outcome =>
      ⟨0, heading ++ ofLines (Report.runLines output false report.events) ++
        ofLines (Report.summaryLines outcome report.workspace.side.written),
        report.workspace.files⟩
  | _, _, _ => failure [] files

/-- Check a template pack. -/
def runCheck (templates : Path) (files : FileTree) : CommandResult :=
  match Pack.read templates files with
  | .error _ => failure [] files
  | .ok pack =>
    let heading := "==> Checking " ++ templates.text ++ "\n"
    let title : Text := if pack.manifest.name.isEmpty then []
      else pack.manifest.name ++ " " ++ pack.manifest.version ++ "\n"
    ⟨0, heading ++ title ++ ofLines (Report.checkLines pack.check), files⟩

/-- Run a command. -/
def run (command : Command) (files : FileTree) : CommandResult :=
  match command with
  | .version => ⟨0, versionText, files⟩
  | .help => ⟨0, helpText, files⟩
  | .export library templates output settings sections =>
    runExport library templates output settings sections files
  | .check templates => runCheck templates files
  | .stockSettings => ⟨0, Settings.stockText, files⟩

/-- Run a command line.  One that cannot be read ends with the code 2. -/
def runWords (words : List Text) (files : FileTree) : CommandResult :=
  match parse words with
  | some command => command.run files
  | none => ⟨2, [], files⟩

end Command
end MediaSite
