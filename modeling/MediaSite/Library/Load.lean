import MediaSite.Files.Tree
import MediaSite.Library.Json

namespace MediaSite

/-!
# Loading a library

A library is read from a file.  The paths of its pictures are relative to the
directory of that file.
-/

open scoped Text

/-- Why a library could not be loaded. -/
inductive LibraryError where
  | file (error : FileError)
  /-- The file holds no library. -/
  | content
  deriving DecidableEq, Repr

/-- How the failure of an operation on files is reported. -/
def FileError.report (error : FileError) : Text :=
  "IO error: " ++ error.message

namespace Library

/-- The pictures with their paths seen from a directory. -/
def resolveImages (base : Path) (images : ImagePaths) : ImagePaths := fun role =>
  (images role).map base.join

/-- The library with the paths of its pictures seen from a directory. -/
def resolveAll (base : Path) (library : Library) : Library where
  movies := library.movies.map fun movie =>
    { movie with images := resolveImages base movie.images }
  tvShows := library.tvShows.map fun item =>
    { item with
      images := resolveImages base item.images
      episodes := item.episodes.map fun episode =>
        { episode with images := resolveImages base episode.images } }
  concerts := library.concerts.map fun concert =>
    { concert with images := resolveImages base concert.images }

/-- Read a library from a file. -/
def load (path : Path) (tree : FileTree) : Except LibraryError Library :=
  match tree.readText path with
  | .error error => .error (.file error)
  | .ok text =>
    match parse? text with
    | none => .error .content
    | some library =>
      match path.parent? with
      | some base => .ok (library.resolveAll base)
      | none => .ok library

end Library
end MediaSite
