import MediaSite.Site.Export

namespace MediaSite

/-!
# Reports

Progress, the summary of a run and the check of a pack are shown in lines.
An item stands under its section with a running number and, after an arrow,
its page; episodes stand one level deeper.
-/

open scoped Text

namespace Report

/-- An indentation. -/
def indent (depth : Nat) : Text :=
  List.replicate (4 * depth) ' '

/-- The arrow in front of a page. -/
def arrow : Text :=
  " → "

/-- A number of things. -/
def plural (count : Nat) (one many : Text) : Text :=
  Text.ofNat count ++ " " ++ (if count = 1 then one else many)

/-- The lines for an event.  The first list page has a heading. -/
def eventLines (root : Path) (firstList : Bool) : ExportEvent → List Text
  | .sectionStarted part total => [part.title ++ " (" ++ Text.ofNat total ++ ")"]
  | .itemExported count kind _ title path =>
    let number := Text.padLeft 3 '0' (Text.ofNat count)
    let page := (path.map fun path => arrow ++ Path.displayFrom root path).getD []
    [indent (if kind = .episode then 2 else 1) ++ number ++ " " ++ title ++ page]
  | .itemSkipped kind id error =>
    [indent 1 ++ "skipped " ++ kind.name ++ " " ++ Text.ofNat id.toNat ++ ": " ++ error]
  | .fileSkipped path error =>
    [indent 2 ++ "not written: " ++ Path.displayFrom root path ++ " (" ++ error ++ ")"]
  | .listWritten part path items =>
    (if firstList then ["Lists".toList] else []) ++
      [indent 1 ++ part.name ++ arrow ++ Path.displayFrom root path ++ " (" ++
        plural items "item" "items" ++ ")"]

/-- Is about a list page that was written. -/
def isList : ExportEvent → Bool
  | .listWritten _ _ _ => true
  | _ => false

/-- The lines for events in their order; `listSeen` says that a list page was
among those before. -/
def runLines (root : Path) : (listSeen : Bool) → List ExportEvent → List Text
  | _, [] => []
  | listSeen, event :: rest =>
    eventLines root (isList event && !listSeen) event ++
      runLines root (listSeen || isList event) rest

/-- The name of a state in a summary. -/
def stateName : ExportState → Text
  | .idle => "Idle"
  | .running => "Running"
  | .completed => "Completed"
  | .cancelled => "Cancelled"

/-- The lines at the end of a run. -/
def summaryLines (outcome : ExportOutcome) (images : Nat) : List Text :=
  [[],
    stateName outcome.state ++ ": " ++ plural outcome.exported "page" "pages" ++ ", " ++
      plural outcome.listsWritten "list" "lists" ++ ", " ++ plural images "image" "images" ++
      ", " ++ plural outcome.assetsCopied "asset" "assets"]

/-- The line about the template of a section. -/
def findingLine (finding : Pack.Finding) : Text :=
  let status : Text :=
    if !finding.present then "missing"
    else if finding.unknown.isEmpty then "ok"
    else "ok, unknown: " ++ Text.join ", " finding.unknown
  Text.padRight 18 finding.part.fileName ++ status

/-- The lines about the check of a pack. -/
def checkLines (findings : List Pack.Finding) : List Text :=
  findings.map findingLine

end Report
end MediaSite
