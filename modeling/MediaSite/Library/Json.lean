import MediaSite.Json.Record
import MediaSite.Json.Parser
import MediaSite.Library.Record

namespace MediaSite

/-!
# Libraries in JSON

Every record type has a list of field names, a reader and a writer that agree
on it.  The writer gives every field; what is not known is written as null or
as an empty table.
-/

open scoped Text

/-! ## Parts of records -/

/-- A day, written as its text. -/
def Date.ofJson? : Json.Decoder Date := fun json =>
  (Json.asText json).bind Date.parse?

/-- A day as a JSON string. -/
def Date.toJson (date : Date) : Json :=
  .string date.toText

/-- A moment, written as its text. -/
def DateTime.ofJson? : Json.Decoder DateTime := fun json =>
  (Json.asText json).bind DateTime.parse?

/-- A moment as a JSON string. -/
def DateTime.toJson (moment : DateTime) : Json :=
  .string moment.toText

/-- A path, written as its text. -/
def Path.ofJson? : Json.Decoder Path := fun json =>
  (Json.asText json).map Path.mk

/-- A path as a JSON string. -/
def Path.toJson (path : Path) : Json :=
  .string path.text

/-- A list of texts. -/
def textsOfJson? : Json.Decoder (List Text) :=
  Json.asList Json.asText

/-- Texts as a JSON array. -/
def textsToJson : List Text → Json :=
  Json.ofList .string

/-- The pictures of an item. -/
def imagesOfJson? : Json.Decoder ImagePaths :=
  Json.asTable ImageRole.all ImageRole.name Path.ofJson?

/-- The pictures of an item as a JSON object. -/
def imagesToJson : ImagePaths → Json :=
  Json.ofTable ImageRole.all ImageRole.name Path.toJson

/-- A label as a JSON string. -/
def ColorLabel.toJson (label : ColorLabel) : Json :=
  .string label.name

namespace Rating

/-- The fields of a rating. -/
def fieldNames : List Text :=
  ["source", "rating", "vote_count"]

/-- Read a rating. -/
def ofJson? : Json.Decoder Rating := fun json => do
  let fields ← Json.fields? fieldNames json
  let source ← Json.field fields "source" Json.asText []
  let value ← Json.field fields "rating" Json.asFloat 0
  let votes ← Json.field fields "vote_count" Json.asUInt32 0
  return { source, value, votes }

/-- Write a rating. -/
def toJson (rating : Rating) : Json :=
  .object [
    ("source", .string rating.source),
    ("rating", .real rating.value),
    ("vote_count", Json.ofNatural rating.votes.toNat)]

end Rating

namespace Actor

/-- The fields of an actor. -/
def fieldNames : List Text :=
  ["name", "role"]

/-- Read an actor. -/
def ofJson? : Json.Decoder Actor := fun json => do
  let fields ← Json.fields? fieldNames json
  let name ← Json.field fields "name" Json.asText []
  let role ← Json.field fields "role" Json.asText []
  return { name, role }

/-- Write an actor. -/
def toJson (actor : Actor) : Json :=
  .object [("name", .string actor.name), ("role", .string actor.role)]

end Actor

namespace StreamDetails

/-- The fields of stream details. -/
def fieldNames : List Text :=
  ["video", "audio", "subtitles"]

/-- Read stream details. -/
def ofJson? : Json.Decoder StreamDetails := fun json => do
  let fields ← Json.fields? fieldNames json
  let video ← Json.field fields "video"
    (Json.asTable VideoDetail.all VideoDetail.name Json.asText) fun _ => none
  let audio ← Json.field fields "audio"
    (Json.asList (Json.asTable AudioDetail.all AudioDetail.name Json.asText)) []
  let subtitles ← Json.field fields "subtitles"
    (Json.asList (Json.asTable SubtitleDetail.all SubtitleDetail.name Json.asText)) []
  return { video, audio, subtitles }

/-- Write stream details. -/
def toJson (details : StreamDetails) : Json :=
  .object [
    ("video", Json.ofTable VideoDetail.all VideoDetail.name .string details.video),
    ("audio",
      Json.ofList (Json.ofTable AudioDetail.all AudioDetail.name .string) details.audio),
    ("subtitles",
      Json.ofList (Json.ofTable SubtitleDetail.all SubtitleDetail.name .string)
        details.subtitles)]

end StreamDetails

/-! ## Records -/

namespace Movie

/-- The fields of a movie. -/
def fieldNames : List Text :=
  ["id", "title", "original_title", "sort_title", "imdb_id", "tmdb_id", "overview", "outline",
    "tagline", "set", "genres", "countries", "studios", "tags", "writer", "director",
    "certification", "trailer", "label", "ratings", "runtime", "play_count", "released",
    "last_played", "date_added", "file_last_modified", "files", "actors", "stream_details",
    "images"]

/-- Read a movie. -/
def ofJson? : Json.Decoder Movie := fun json => do
  let fields ← Json.fields? fieldNames json
  let id ← Json.field fields "id" Json.asUInt64 0
  let title ← Json.field fields "title" Json.asText []
  let originalTitle ← Json.field fields "original_title" Json.asText []
  let sortTitle ← Json.field fields "sort_title" (Json.asOptional Json.asText) none
  let imdbId ← Json.field fields "imdb_id" Json.asText []
  let tmdbId ← Json.field fields "tmdb_id" Json.asText []
  let overview ← Json.field fields "overview" Json.asText []
  let outline ← Json.field fields "outline" Json.asText []
  let tagline ← Json.field fields "tagline" Json.asText []
  let set ← Json.field fields "set" (Json.asOptional Json.asText) none
  let genres ← Json.field fields "genres" textsOfJson? []
  let countries ← Json.field fields "countries" textsOfJson? []
  let studios ← Json.field fields "studios" textsOfJson? []
  let tags ← Json.field fields "tags" textsOfJson? []
  let writer ← Json.field fields "writer" Json.asText []
  let director ← Json.field fields "director" Json.asText []
  let certification ← Json.field fields "certification" Json.asText []
  let trailer ← Json.field fields "trailer" Json.asText []
  let label ← Json.field fields "label" (Json.asNamed ColorLabel.ofName?) .none
  let ratings ← Json.field fields "ratings" (Json.asList Rating.ofJson?) []
  let runtime ← Json.field fields "runtime" Json.asUInt32 0
  let playCount ← Json.field fields "play_count" Json.asUInt32 0
  let released ← Json.field fields "released" (Json.asOptional Date.ofJson?) none
  let lastPlayed ← Json.field fields "last_played" (Json.asOptional DateTime.ofJson?) none
  let dateAdded ← Json.field fields "date_added" (Json.asOptional DateTime.ofJson?) none
  let fileLastModified ←
    Json.field fields "file_last_modified" (Json.asOptional DateTime.ofJson?) none
  let files ← Json.field fields "files" (Json.asList Path.ofJson?) []
  let actors ← Json.field fields "actors" (Json.asList Actor.ofJson?) []
  let streamDetails ← Json.field fields "stream_details" StreamDetails.ofJson? {}
  let images ← Json.field fields "images" imagesOfJson? fun _ => none
  return {
    id, title, originalTitle, sortTitle, imdbId, tmdbId, overview, outline, tagline, set, genres,
    countries, studios, tags, writer, director, certification, trailer, label, ratings, runtime,
    playCount, released, lastPlayed, dateAdded, fileLastModified, files, actors, streamDetails,
    images }

/-- Write a movie. -/
def toJson (movie : Movie) : Json :=
  .object [
    ("id", Json.ofNatural movie.id.toNat),
    ("title", .string movie.title),
    ("original_title", .string movie.originalTitle),
    ("sort_title", Json.ofOptional .string movie.sortTitle),
    ("imdb_id", .string movie.imdbId),
    ("tmdb_id", .string movie.tmdbId),
    ("overview", .string movie.overview),
    ("outline", .string movie.outline),
    ("tagline", .string movie.tagline),
    ("set", Json.ofOptional .string movie.set),
    ("genres", textsToJson movie.genres),
    ("countries", textsToJson movie.countries),
    ("studios", textsToJson movie.studios),
    ("tags", textsToJson movie.tags),
    ("writer", .string movie.writer),
    ("director", .string movie.director),
    ("certification", .string movie.certification),
    ("trailer", .string movie.trailer),
    ("label", movie.label.toJson),
    ("ratings", Json.ofList Rating.toJson movie.ratings),
    ("runtime", Json.ofNatural movie.runtime.toNat),
    ("play_count", Json.ofNatural movie.playCount.toNat),
    ("released", Json.ofOptional Date.toJson movie.released),
    ("last_played", Json.ofOptional DateTime.toJson movie.lastPlayed),
    ("date_added", Json.ofOptional DateTime.toJson movie.dateAdded),
    ("file_last_modified", Json.ofOptional DateTime.toJson movie.fileLastModified),
    ("files", Json.ofList Path.toJson movie.files),
    ("actors", Json.ofList Actor.toJson movie.actors),
    ("stream_details", movie.streamDetails.toJson),
    ("images", imagesToJson movie.images)]

end Movie

namespace Episode

/-- The fields of an episode. -/
def fieldNames : List Text :=
  ["id", "title", "season", "episode", "ratings", "certification", "first_aired", "last_played",
    "network", "overview", "writers", "directors", "stream_details", "images", "dummy"]

/-- Read an episode. -/
def ofJson? : Json.Decoder Episode := fun json => do
  let fields ← Json.fields? fieldNames json
  let id ← Json.field fields "id" Json.asUInt64 0
  let title ← Json.field fields "title" Json.asText []
  let season ← Json.field fields "season" Json.asUInt16 0
  let number ← Json.field fields "episode" Json.asUInt16 0
  let ratings ← Json.field fields "ratings" (Json.asList Rating.ofJson?) []
  let certification ← Json.field fields "certification" Json.asText []
  let firstAired ← Json.field fields "first_aired" (Json.asOptional Date.ofJson?) none
  let lastPlayed ← Json.field fields "last_played" (Json.asOptional DateTime.ofJson?) none
  let network ← Json.field fields "network" Json.asText []
  let overview ← Json.field fields "overview" Json.asText []
  let writers ← Json.field fields "writers" textsOfJson? []
  let directors ← Json.field fields "directors" textsOfJson? []
  let streamDetails ← Json.field fields "stream_details" StreamDetails.ofJson? {}
  let images ← Json.field fields "images" imagesOfJson? fun _ => none
  let dummy ← Json.field fields "dummy" Json.asBool false
  return {
    id, title, season, number, ratings, certification, firstAired, lastPlayed, network, overview,
    writers, directors, streamDetails, images, dummy }

/-- Write an episode. -/
def toJson (episode : Episode) : Json :=
  .object [
    ("id", Json.ofNatural episode.id.toNat),
    ("title", .string episode.title),
    ("season", Json.ofNatural episode.season.toNat),
    ("episode", Json.ofNatural episode.number.toNat),
    ("ratings", Json.ofList Rating.toJson episode.ratings),
    ("certification", .string episode.certification),
    ("first_aired", Json.ofOptional Date.toJson episode.firstAired),
    ("last_played", Json.ofOptional DateTime.toJson episode.lastPlayed),
    ("network", .string episode.network),
    ("overview", .string episode.overview),
    ("writers", textsToJson episode.writers),
    ("directors", textsToJson episode.directors),
    ("stream_details", episode.streamDetails.toJson),
    ("images", imagesToJson episode.images),
    ("dummy", .bool episode.dummy)]

end Episode

namespace TvShow

/-- The fields of a show. -/
def fieldNames : List Text :=
  ["id", "title", "sort_title", "imdb_id", "ratings", "certification", "first_aired", "network",
    "overview", "tags", "genres", "actors", "images", "episodes"]

/-- Read a show. -/
def ofJson? : Json.Decoder TvShow := fun json => do
  let fields ← Json.fields? fieldNames json
  let id ← Json.field fields "id" Json.asUInt64 0
  let title ← Json.field fields "title" Json.asText []
  let sortTitle ← Json.field fields "sort_title" (Json.asOptional Json.asText) none
  let imdbId ← Json.field fields "imdb_id" Json.asText []
  let ratings ← Json.field fields "ratings" (Json.asList Rating.ofJson?) []
  let certification ← Json.field fields "certification" Json.asText []
  let firstAired ← Json.field fields "first_aired" (Json.asOptional Date.ofJson?) none
  let network ← Json.field fields "network" Json.asText []
  let overview ← Json.field fields "overview" Json.asText []
  let tags ← Json.field fields "tags" textsOfJson? []
  let genres ← Json.field fields "genres" textsOfJson? []
  let actors ← Json.field fields "actors" (Json.asList Actor.ofJson?) []
  let images ← Json.field fields "images" imagesOfJson? fun _ => none
  let episodes ← Json.field fields "episodes" (Json.asList Episode.ofJson?) []
  return {
    id, title, sortTitle, imdbId, ratings, certification, firstAired, network, overview, tags,
    genres, actors, images, episodes }

/-- Write a show. -/
def toJson (item : TvShow) : Json :=
  .object [
    ("id", Json.ofNatural item.id.toNat),
    ("title", .string item.title),
    ("sort_title", Json.ofOptional .string item.sortTitle),
    ("imdb_id", .string item.imdbId),
    ("ratings", Json.ofList Rating.toJson item.ratings),
    ("certification", .string item.certification),
    ("first_aired", Json.ofOptional Date.toJson item.firstAired),
    ("network", .string item.network),
    ("overview", .string item.overview),
    ("tags", textsToJson item.tags),
    ("genres", textsToJson item.genres),
    ("actors", Json.ofList Actor.toJson item.actors),
    ("images", imagesToJson item.images),
    ("episodes", Json.ofList Episode.toJson item.episodes)]

end TvShow

namespace Concert

/-- The fields of a concert. -/
def fieldNames : List Text :=
  ["id", "title", "sort_title", "artist", "album", "tagline", "ratings", "released", "runtime",
    "certification", "trailer", "play_count", "last_played", "overview", "tags", "genres",
    "stream_details", "images"]

/-- Read a concert. -/
def ofJson? : Json.Decoder Concert := fun json => do
  let fields ← Json.fields? fieldNames json
  let id ← Json.field fields "id" Json.asUInt64 0
  let title ← Json.field fields "title" Json.asText []
  let sortTitle ← Json.field fields "sort_title" (Json.asOptional Json.asText) none
  let artist ← Json.field fields "artist" Json.asText []
  let album ← Json.field fields "album" Json.asText []
  let tagline ← Json.field fields "tagline" Json.asText []
  let ratings ← Json.field fields "ratings" (Json.asList Rating.ofJson?) []
  let released ← Json.field fields "released" (Json.asOptional Date.ofJson?) none
  let runtime ← Json.field fields "runtime" Json.asUInt32 0
  let certification ← Json.field fields "certification" Json.asText []
  let trailer ← Json.field fields "trailer" Json.asText []
  let playCount ← Json.field fields "play_count" Json.asUInt32 0
  let lastPlayed ← Json.field fields "last_played" (Json.asOptional DateTime.ofJson?) none
  let overview ← Json.field fields "overview" Json.asText []
  let tags ← Json.field fields "tags" textsOfJson? []
  let genres ← Json.field fields "genres" textsOfJson? []
  let streamDetails ← Json.field fields "stream_details" StreamDetails.ofJson? {}
  let images ← Json.field fields "images" imagesOfJson? fun _ => none
  return {
    id, title, sortTitle, artist, album, tagline, ratings, released, runtime, certification,
    trailer, playCount, lastPlayed, overview, tags, genres, streamDetails, images }

/-- Write a concert. -/
def toJson (concert : Concert) : Json :=
  .object [
    ("id", Json.ofNatural concert.id.toNat),
    ("title", .string concert.title),
    ("sort_title", Json.ofOptional .string concert.sortTitle),
    ("artist", .string concert.artist),
    ("album", .string concert.album),
    ("tagline", .string concert.tagline),
    ("ratings", Json.ofList Rating.toJson concert.ratings),
    ("released", Json.ofOptional Date.toJson concert.released),
    ("runtime", Json.ofNatural concert.runtime.toNat),
    ("certification", .string concert.certification),
    ("trailer", .string concert.trailer),
    ("play_count", Json.ofNatural concert.playCount.toNat),
    ("last_played", Json.ofOptional DateTime.toJson concert.lastPlayed),
    ("overview", .string concert.overview),
    ("tags", textsToJson concert.tags),
    ("genres", textsToJson concert.genres),
    ("stream_details", concert.streamDetails.toJson),
    ("images", imagesToJson concert.images)]

end Concert

namespace Library

/-- The fields of a library. -/
def fieldNames : List Text :=
  ["movies", "tv_shows", "concerts"]

/-- Read a library. -/
def ofJson? : Json.Decoder Library := fun json => do
  let fields ← Json.fields? fieldNames json
  let movies ← Json.field fields "movies" (Json.asList Movie.ofJson?) []
  let tvShows ← Json.field fields "tv_shows" (Json.asList TvShow.ofJson?) []
  let concerts ← Json.field fields "concerts" (Json.asList Concert.ofJson?) []
  return { movies, tvShows, concerts }

/-- Write a library. -/
def toJson (library : Library) : Json :=
  .object [
    ("movies", Json.ofList Movie.toJson library.movies),
    ("tv_shows", Json.ofList TvShow.toJson library.tvShows),
    ("concerts", Json.ofList Concert.toJson library.concerts)]

/-- The library that a text holds. -/
def parse? (text : Text) : Option Library :=
  (Json.parse? text).bind ofJson?

end Library
end MediaSite
