import MediaSite.Files.Content
import MediaSite.Files.Path
import MediaSite.Text.Ascending

namespace MediaSite

/-!
# File trees

A file tree says what stands at each location, a location being the list of
names that lead to it from the top of the tree.  Paths are resolved by walking
down the tree: links are followed, `..` goes up, and every step on the way has
to be a directory.  Operations that change the tree return their outcome
together with the tree they leave behind, also when they fail.

With the entries goes what else the medium decides (`Medium`): which files may
not be written, which writes break off for want of room, and in which order
directories are read.  A file that is copied hands on that it may not be
written.

Left out are owners and all other permissions: what may not be read, and
directories that may not be searched or changed (a new file can be refused like
an old one, a new directory not).  A file has one name only, and an absolute
path names nothing.
-/

open scoped Text

/-! ## Locations and entries -/

/-- The names that lead from the top of a tree to a place in it. -/
abbrev Location := List Text

/-- What can stand at a location. -/
inductive Entry where
  | file (content : Content)
  | directory
  | link (target : Path)
  deriving DecidableEq

/-- What is known of the medium that keeps a tree. -/
structure Medium where
  /-- The locations at which no file may be opened for writing. -/
  locked : List Location := []
  /-- The contents that break off when they are written to a location, each with
  as much of it as gets there. -/
  full : List ((Location × Content) × Content) := []
  /-- The order in which directories yield names.  It may tell of names that are
  not there when the directory is opened, but once they should come. -/
  order : List (Location × List Text) := []
  deriving DecidableEq

/-- The entries of a tree by location.  The top itself is always a directory
and is not listed. -/
structure FileTree where
  entries : List (Location × Entry)
  medium : Medium := {}
  deriving DecidableEq

/-- Why an operation on files failed. -/
inductive FileError where
  | notFound
  | notDirectory
  | isDirectory
  | alreadyExists
  | tooManyLinks
  | nameTooLong
  | zeroInName
  | notText
  | notRegular
  | permissionDenied
  | noSpace
  deriving DecidableEq, Repr

/-- The message of a failure. -/
def FileError.message : FileError → Text
  | .notFound => "No such file or directory (os error 2)"
  | .notDirectory => "Not a directory (os error 20)"
  | .isDirectory => "Is a directory (os error 21)"
  | .alreadyExists => "File exists (os error 17)"
  | .tooManyLinks => "Too many levels of symbolic links (os error 40)"
  | .nameTooLong => "File name too long (os error 36)"
  | .zeroInName => "file name contained an unexpected NUL byte"
  | .notText => "stream did not contain valid UTF-8"
  | .notRegular => "the source path is neither a regular file nor a symlink to a regular file"
  | .permissionDenied => "Permission denied (os error 13)"
  | .noSpace => "No space left on device (os error 28)"

namespace FileTree

/-- A tree with nothing in it. -/
def empty : FileTree :=
  { entries := [] }

/-- What stands at a location. -/
def get? (tree : FileTree) (location : Location) : Option Entry :=
  if location.isEmpty then some .directory else tree.entries.lookup location

/-- The entries with a new one at a location. -/
def putEntry (location : Location) (entry : Entry) :
    List (Location × Entry) → List (Location × Entry)
  | [] => [(location, entry)]
  | (other, kept) :: rest =>
    if other = location then (location, entry) :: rest
    else (other, kept) :: putEntry location entry rest

/-- Put an entry at a location, in place of what stood there. -/
def put (tree : FileTree) (location : Location) (entry : Entry) : FileTree :=
  { tree with entries := putEntry location entry tree.entries }

/-- Remove a location and everything below it. -/
def erase (tree : FileTree) (location : Location) : FileTree :=
  { tree with entries := tree.entries.filter fun item => !location.isPrefixOf item.1 }

/-- Let nobody write to the file at a location. -/
def lock (tree : FileTree) (location : Location) : FileTree :=
  { tree with medium := { tree.medium with locked := location :: tree.medium.locked } }

/-- The entries strictly below a location, with their locations as seen from
it, each directory before what it holds. -/
def below (tree : FileTree) (location : Location) : List (Location × Entry) :=
  (tree.entries.filterMap fun item => do
    let relative ← location.isPrefixOf? item.1
    if relative.isEmpty then none else some (relative, item.2)).mergeSort
      fun left right => (compare left.1 right.1).isLE

/-- The names of what stands in a directory, ascending. -/
def names (tree : FileTree) (location : Location) : List Text :=
  ascending (tree.entries.filterMap fun item =>
    match location.isPrefixOf? item.1 with
    | some [name] => some name
    | _ => none)

/-- The names that a directory yields when it is opened now and read, each of them
once: those whose order is known, then all others.  A name that is not there when its
turn comes is not yielded. -/
def reading (tree : FileTree) (location : Location) : List Text :=
  let ordered := ((tree.medium.order.lookup location).getD []).foldr List.insert []
  ordered ++ (tree.names location).filter fun name => !ordered.contains name

/-! ## Resolving paths -/

/-- Where a path leads: to something, or to a free name in a directory. -/
inductive Spot where
  | taken (location : Location) (entry : Entry)
  | free (location : Location)
  deriving DecidableEq

/-- The number of links that may be followed on one way. -/
def linkLimit : Nat :=
  40

/-- The greatest length of a name, in octets. -/
def nameLimit : Nat :=
  255

/-- The greatest length of a path, in octets. -/
def pathLimit : Nat :=
  4095

/-- Walk from a directory along segments, with `links` links still to follow.
A link at the very end is followed only when `followLast` says so. -/
def walk (tree : FileTree) (followLast : Bool) :
    (links : Nat) → Location → (segments : List Text) → Except FileError Spot
  | _, here, [] => .ok (.taken here .directory)
  | links, here, segment :: rest =>
    if Path.isIdle segment then walk tree followLast links here rest
    else if segment = ['.', '.'] then
      if here.isEmpty then .error .notFound else walk tree followLast links here.dropLast rest
    else if nameLimit < Text.byteLength segment then .error .nameTooLong
    else
      match tree.get? (here ++ [segment]) with
      | none =>
        if rest.all List.isEmpty then .ok (.free (here ++ [segment])) else .error .notFound
      | some (.file content) =>
        if rest.isEmpty then .ok (.taken (here ++ [segment]) (.file content))
        else .error .notDirectory
      | some .directory => walk tree followLast links (here ++ [segment]) rest
      | some (.link target) =>
        if rest.isEmpty && !followLast then .ok (.taken (here ++ [segment]) (.link target))
        else if target.isAbsolute || target.text.isEmpty then .error .notFound
        else
          match links with
          | 0 => .error .tooManyLinks
          | links + 1 => walk tree followLast links here (target.segments ++ rest)
termination_by links _ segments => (links, segments.length)

/-- Where a path leads from the top of the tree.  The tree holds nothing that
an absolute path could name. -/
def resolve (tree : FileTree) (followLast : Bool) (path : Path) : Except FileError Spot :=
  if path.text.contains '\x00' then .error .zeroInName
  else if pathLimit < Text.byteLength path.text then .error .nameTooLong
  else if path.text.isEmpty || path.isAbsolute then .error .notFound
  else walk tree followLast linkLimit [] path.segments

/-- What a path names, links followed. -/
def find (tree : FileTree) (path : Path) : Except FileError (Location × Entry) :=
  match tree.resolve true path with
  | .ok (.taken location entry) => .ok (location, entry)
  | .ok (.free _) => .error .notFound
  | .error error => .error error

/-! ## Looking -/

/-- Names something, links followed. -/
def holds (tree : FileTree) (path : Path) : Bool :=
  (tree.find path).isOk

/-- Names a file, links followed. -/
def isFile (tree : FileTree) (path : Path) : Bool :=
  match tree.find path with
  | .ok (_, .file _) => true
  | _ => false

/-- Names a directory, links followed. -/
def isDirectory (tree : FileTree) (path : Path) : Bool :=
  match tree.find path with
  | .ok (_, .directory) => true
  | _ => false

/-- The location that a path names, links followed. -/
def canonical (tree : FileTree) (path : Path) : Except FileError Location :=
  (tree.find path).map (·.1)

/-- What a file holds. -/
def read (tree : FileTree) (path : Path) : Except FileError Content :=
  match tree.find path with
  | .ok (_, .file content) => .ok content
  | .ok _ => .error .isDirectory
  | .error error => .error error

/-- The text in a file. -/
def readText (tree : FileTree) (path : Path) : Except FileError Text := do
  match (← tree.read path).text? with
  | some text => .ok text
  | none => .error .notText

/-- Everything below a directory with links followed, by relative path and at
most `depth` levels deep; directories hold nothing themselves. -/
def listing (tree : FileTree) : (depth : Nat) → Path → Text → List (Text × Option Content)
  | 0, _, _ => []
  | depth + 1, path, start =>
    match tree.find path with
    | .ok (location, .directory) =>
      (tree.names location).flatMap fun name =>
        match tree.find (path.join ⟨name⟩) with
        | .ok (_, .file content) => [(start ++ name, some content)]
        | .ok _ =>
          (start ++ name ++ "/", none) ::
            listing tree depth (path.join ⟨name⟩) (start ++ name ++ "/")
        | .error _ => []
    | _ => []

end FileTree

/-! ## Changing -/

/-- An operation that may change the tree and may fail. -/
abbrev FileAction (α : Type) := FileTree → Except FileError α × FileTree

namespace FileTree

/-- Change nothing. -/
def done {α : Type} (value : α) : FileAction α := fun tree =>
  (.ok value, tree)

/-- One operation after another, unless the first fails. -/
def inTurn {α β : Type} (first : FileAction α) (next : α → FileAction β) : FileAction β :=
  fun tree =>
    match first tree with
    | (.error error, tree) => (.error error, tree)
    | (.ok value, tree) => next value tree

/-- Empty the file at a location, or create it there. -/
def openAt (location : Location) : FileAction Location := fun tree =>
  if tree.medium.locked.contains location then (.error .permissionDenied, tree)
  else (.ok location, tree.put location (.file (.text [])))

/-- Open a file for writing, creating it if its directory exists.  A free name with a
slash behind it, in the path or in a link that it ends with, names no file. -/
def openFile (path : Path) : FileAction Location := fun tree =>
  match tree.resolve true path with
  | .ok (.taken location (.file _)) => openAt location tree
  | .ok (.taken _ _) => (.error .isDirectory, tree)
  | .ok (.free location) =>
    if (tree.put location (.file (.text []))).isFile path then openAt location tree
    else (.error .isDirectory, tree)
  | .error error => (.error error, tree)

/-- Write to a file that has been opened. -/
def fill (location : Location) (content : Content) : FileAction Unit := fun tree =>
  match tree.medium.full.lookup (location, content) with
  | some part => (.error .noSpace, tree.put location (.file part))
  | none => (.ok (), tree.put location (.file content))

/-- Make a file hold exactly this content, creating it if its directory exists. -/
def write (path : Path) (content : Content) : FileAction Unit :=
  inTurn (openFile path) fun location => fill location content

/-- Put an entry at a free name. -/
def create (path : Path) (entry : Entry) : FileAction Unit := fun tree =>
  match tree.resolve false path with
  | .ok (.taken _ _) => (.error .alreadyExists, tree)
  | .ok (.free location) => (.ok (), tree.put location entry)
  | .error error => (.error error, tree)

/-- Create one directory. -/
def makeDirectory (path : Path) : FileAction Unit :=
  create path .directory

/-- A path followed by its ancestors, nearest first. -/
def lineage : (count : Nat) → Path → List Path
  | 0, path => [path]
  | count + 1, path =>
    match path.parent? with
    | some parent => path :: lineage count parent
    | none => [path]

/-- Create the first directory of a lineage, after the others where they are
missing.  A directory that is there already is no failure. -/
def makeLineage : List Path → FileAction Unit
  | [], tree => (.error .notFound, tree)
  | path :: ancestors, tree =>
    if path.text.isEmpty then (.ok (), tree)
    else
      match makeDirectory path tree with
      | (.ok (), tree) => (.ok (), tree)
      | (.error .notFound, tree) =>
        match makeLineage ancestors tree with
        | (.error error, tree) => (.error error, tree)
        | (.ok (), tree) =>
          match makeDirectory path tree with
          | (.ok (), tree) => (.ok (), tree)
          | (.error error, tree) =>
            if tree.isDirectory path then (.ok (), tree) else (.error error, tree)
      | (.error error, tree) =>
        if tree.isDirectory path then (.ok (), tree) else (.error error, tree)

/-- Create a directory and those above it. -/
def makeDirectories (path : Path) : FileAction Unit :=
  makeLineage (lineage path.text.length path)

/-- Let nobody write to one file if nobody may write to another. -/
def lockLike (tree : FileTree) (source location : Location) : FileTree :=
  if tree.medium.locked.contains source then tree.lock location else tree

/-- Write to a file that has been opened what another holds, and let nobody write to it who
may not write to that one. -/
def pour (source location : Location) : FileAction Unit := fun tree =>
  match tree.get? source with
  | some (.file content) => fill location content (tree.lockLike source location)
  | _ => (.ok (), tree.lockLike source location)

/-- Copy a file.  The target is opened and emptied before the source is read,
so a file copied onto itself ends up empty. -/
def copy (source target : Path) : FileAction Unit := fun tree =>
  match tree.find source with
  | .error error => (.error error, tree)
  | .ok (location, .file _) => inTurn (openFile target) (pour location) tree
  | .ok _ => (.error .notRegular, tree)

/-- Remove what a path names, with everything below it.  A link is removed
itself. -/
def remove (path : Path) : FileAction Unit := fun tree =>
  match tree.resolve false path with
  | .ok (.taken location _) => (.ok (), tree.erase location)
  | .ok (.free _) => (.error .notFound, tree)
  | .error error => (.error error, tree)

end FileTree
end MediaSite
