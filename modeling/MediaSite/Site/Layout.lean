import MediaSite.Files.Path

namespace MediaSite

/-!
# The layout of the site

Sections name templates, kinds name what can be rendered, roles name the
artwork of a kind, and the depth of a page says how its relative links begin.
The directories and file names of the site follow from these.
-/

open scoped Text

/-! ## Sections -/

/-- A template of a pack: a list page or the page of one item. -/
inductive Section where
  | movies
  | movie
  | tvShows
  | tvShow
  | episode
  | concerts
  | concert
  deriving DecidableEq, Repr

namespace Section

/-- All sections, in the order of reports. -/
def all : List Section :=
  [.movies, .movie, .tvShows, .tvShow, .episode, .concerts, .concert]

/-- The list sections, in the order of a run. -/
def lists : List Section :=
  [.movies, .tvShows, .concerts]

/-- Has one page for all its items. -/
def isList : Section → Bool
  | .movies | .tvShows | .concerts => true
  | _ => false

/-- The name of a section in settings and reports. -/
def name : Section → Text
  | .movies => "movies"
  | .movie => "movie"
  | .tvShows => "tvshows"
  | .tvShow => "tvshow"
  | .episode => "episode"
  | .concerts => "concerts"
  | .concert => "concert"

/-- The section with a given name. -/
def ofName? (text : Text) : Option Section :=
  all.find? (·.name == text)

/-- The file that holds the template, and the list page made from it. -/
def fileName (part : Section) : Text :=
  part.name ++ ".html"

/-- The block of a list template that is repeated for each item. -/
def listBlock? : Section → Option Text
  | .movies => some "MOVIE"
  | .tvShows => some "TVSHOW"
  | .concerts => some "CONCERT"
  | _ => none

/-- The section of the items that a list shows. -/
def item? : Section → Option Section
  | .movies => some .movie
  | .tvShows => some .tvShow
  | .concerts => some .concert
  | _ => none

/-- The heading of a section in progress reports. -/
def title : Section → Text
  | .movies => "Movies"
  | .movie => "Movie"
  | .tvShows => "TV Shows"
  | .tvShow => "TV Show"
  | .episode => "Episode"
  | .concerts => "Concerts"
  | .concert => "Concert"

end Section

/-! ## Kinds -/

/-- What a template can be rendered for. -/
inductive Kind where
  | movie
  | tvShow
  | season
  | episode
  | concert
  deriving DecidableEq, Repr

namespace Kind

/-- All kinds. -/
def all : List Kind :=
  [.movie, .tvShow, .season, .episode, .concert]

/-- The name of a kind in file names and reports. -/
def name : Kind → Text
  | .movie => "movie"
  | .tvShow => "tvshow"
  | .season => "season"
  | .episode => "episode"
  | .concert => "concert"

/-- The directory of the pages of this kind; seasons have no pages. -/
def pageDirectory? : Kind → Option Text
  | .movie => some "movies"
  | .tvShow => some "tvshows"
  | .season => none
  | .episode => some "episodes"
  | .concert => some "concerts"

/-- The directory of the artwork of this kind; seasons have no artwork. -/
def imageDirectory? : Kind → Option Text
  | .season => none
  | kind => some (kind.name ++ "_images")

/-- The page of an item, relative to the root of the site. -/
def pagePath? (kind : Kind) (id : UInt64) : Option Path :=
  kind.pageDirectory?.map fun directory =>
    ⟨directory ++ "/" ++ Text.ofNat id.toNat ++ ".html"⟩

end Kind

/-! ## Artwork roles -/

/-- What a picture of an item is for. -/
inductive ImageRole where
  | poster
  | fanart
  | banner
  | logo
  | clearArt
  | disc
  | characterArt
  | thumbnail
  deriving DecidableEq, Repr

namespace ImageRole

/-- All roles, in their order. -/
def all : List ImageRole :=
  [.poster, .fanart, .banner, .logo, .clearArt, .disc, .characterArt, .thumbnail]

/-- The name of a role in templates, libraries and file names. -/
def name : ImageRole → Text
  | .poster => "poster"
  | .fanart => "fanart"
  | .banner => "banner"
  | .logo => "logo"
  | .clearArt => "clearart"
  | .disc => "disc"
  | .characterArt => "characterart"
  | .thumbnail => "thumbnail"

/-- The roles that items of a kind have. -/
def supported : Kind → List ImageRole
  | .movie | .concert => [.poster, .fanart, .logo, .clearArt, .disc]
  | .tvShow => [.poster, .fanart, .banner, .logo, .clearArt, .characterArt]
  | .episode => [.thumbnail]
  | .season => []

/-- The role of a kind with a given name. -/
def ofName? (kind : Kind) (text : Text) : Option ImageRole :=
  (supported kind).find? (·.name == text)

/-- Roles whose pictures are photographs and are stored with loss. -/
def isPhotographic : ImageRole → Bool
  | .poster | .fanart | .banner | .disc | .thumbnail => true
  | .logo | .clearArt | .characterArt => false

end ImageRole

/-! ## Depth -/

/-- Where a page lies below the root of the site. -/
inductive PageDepth where
  | root
  | item
  deriving DecidableEq, Repr

/-- How links to files of the site begin on a page of this depth. -/
def PageDepth.linkStart : PageDepth → Text
  | .root => ""
  | .item => "../"

end MediaSite
