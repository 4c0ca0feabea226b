import MediaSite.Library.Record
import MediaSite.Text.Ascending
import MediaSite.Text.Lowercase

namespace MediaSite

/-!
# The order of an export

Items are listed by their sort title in lower case, and by id where titles
agree; titles compare by code point.  Episodes are listed by season, number
and id.  All sorting is stable, and dummy episodes never appear.
-/

/-- Whether one title and id come no later than another. -/
def titleLe (left right : Text × UInt64) : Bool :=
  ((compare left.1 right.1).then (compare left.2 right.2)).isLE

/-- The title that a movie is sorted by. -/
def Movie.sortKey (movie : Movie) : Text :=
  Text.lowercase (movie.sortTitle.getD movie.title)

/-- The title that a show is sorted by. -/
def TvShow.sortKey (item : TvShow) : Text :=
  Text.lowercase (item.sortTitle.getD item.title)

/-- The title that a concert is sorted by. -/
def Concert.sortKey (concert : Concert) : Text :=
  Text.lowercase (concert.sortTitle.getD concert.title)

/-- Sort items by a title and an id. -/
def sortByTitle (key : α → Text × UInt64) (items : List α) : List α :=
  items.mergeSort fun left right => titleLe (key left) (key right)

/-- The movies in export order. -/
def Library.sortedMovies (library : Library) : List Movie :=
  sortByTitle (fun movie => (movie.sortKey, movie.id)) library.movies

/-- The shows in export order. -/
def Library.sortedTvShows (library : Library) : List TvShow :=
  sortByTitle (fun item => (item.sortKey, item.id)) library.tvShows

/-- The concerts in export order. -/
def Library.sortedConcerts (library : Library) : List Concert :=
  sortByTitle (fun concert => (concert.sortKey, concert.id)) library.concerts

/-- Whether one episode comes no later than another. -/
def Episode.le (left right : Episode) : Bool :=
  (((compare left.season right.season).then (compare left.number right.number)).then
    (compare left.id right.id)).isLE

namespace TvShow

/-- The episodes that are there. -/
def presentEpisodes (item : TvShow) : List Episode :=
  item.episodes.filter fun episode => !episode.dummy

/-- The seasons that have episodes, ascending. -/
def seasons (item : TvShow) : List UInt16 :=
  ascending (item.presentEpisodes.map (·.season))

/-- The episodes of one season, in order. -/
def episodesIn (item : TvShow) (season : UInt16) : List Episode :=
  (item.presentEpisodes.filter fun episode => episode.season == season).mergeSort Episode.le

/-- All episodes, in order. -/
def sortedEpisodes (item : TvShow) : List Episode :=
  item.presentEpisodes.mergeSort Episode.le

end TvShow
end MediaSite
