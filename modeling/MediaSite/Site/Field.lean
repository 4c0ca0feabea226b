import MediaSite.Decimal.Fixed
import MediaSite.Site.Entity
import MediaSite.Template.Escape
import MediaSite.Template.Token

namespace MediaSite

/-!
# Fields

A field has the name of a token and says how its value is shown.  Free text is
escaped, prose keeps its lines, lists are joined by commas, and what is not
known is empty.  Identifiers of other catalogues and the technical details of
a file stand in the page as they are.

`Entity.fields` pairs the names of an entity's fields with their values, and
`renderFields` replaces them in a template one field after the other.
-/

open scoped Text

/-- A token name and the value that it stands for. -/
structure Field (α : Type) where
  name : Text
  value : α → Text

/-- The names of fields with their values for one record. -/
def bindFields (fields : List (Field α)) (record : α) : List (Text × Text) :=
  fields.map fun field => (field.name, field.value record)

theorem map_fst_bindFields (fields : List (Field α)) (record : α) :
    (bindFields fields record).map Prod.fst = fields.map (·.name) := by
  simp [bindFields, Function.comp_def]

/-! ## Forms of values -/

/-- A day, empty if it is not known. -/
def showDate (date : Option Date) : Text :=
  (date.map Date.toText).getD []

/-- The year of a day, empty if it is not known. -/
def showYear (date : Option Date) : Text :=
  (date.map fun date => Date.yearText date.year).getD []

/-- A moment up to the minute, empty if it is not known. -/
def showMoment (moment : Option DateTime) : Text :=
  (moment.map DateTime.toMinuteText).getD []

/-- The first rating with one decimal. -/
def showRating (ratings : List Rating) : Text :=
  (ratings.head?.map fun rating => Decimal.fixed 1 rating.value).getD "n/a"

/-- The number of votes behind the first rating. -/
def showVotes (ratings : List Rating) : Text :=
  (ratings.head?.map fun rating => Text.ofNat rating.votes.toNat).getD "n/a"

/-- A link to the page of an item. -/
def pageLink (kind : Kind) (id : UInt64) : Text :=
  ((kind.pagePath? id).map Path.text).getD []

/-- A number with two digits at least. -/
def showPadded (number : UInt16) : Text :=
  Text.padLeft 2 '0' (Text.ofNat number.toNat)

/-- A detail of each track, separated by bars. -/
def showTracks {κ : Type} (tracks : List (κ → Option Text)) (detail : κ) : Text :=
  Text.join "|" (tracks.map fun track => (track detail).getD [])

/-! ## Tables -/

/-- The fields of a movie. -/
def Movie.fields : List (Field Movie) := [
  ⟨"MOVIE.ID", fun movie => Text.ofNat movie.id.toNat⟩,
  ⟨"MOVIE.LINK", fun movie => pageLink .movie movie.id⟩,
  ⟨"MOVIE.IMDB_ID", fun movie => movie.imdbId⟩,
  ⟨"MOVIE.TMDB_ID", fun movie => movie.tmdbId⟩,
  ⟨"MOVIE.TITLE", fun movie => Html.escape movie.title⟩,
  ⟨"MOVIE.YEAR", fun movie => showYear movie.released⟩,
  ⟨"MOVIE.ORIGINAL_TITLE", fun movie => Html.escape movie.originalTitle⟩,
  ⟨"MOVIE.PLOT", fun movie => Html.escapeLines movie.overview⟩,
  ⟨"MOVIE.PLOT_SIMPLE", fun movie => Html.escapeLines movie.outline⟩,
  ⟨"MOVIE.SET", fun movie => Html.escape (movie.set.getD [])⟩,
  ⟨"MOVIE.TAGLINE", fun movie => Html.escape movie.tagline⟩,
  ⟨"MOVIE.GENRES", fun movie => Html.escapeList movie.genres⟩,
  ⟨"MOVIE.COUNTRIES", fun movie => Html.escapeList movie.countries⟩,
  ⟨"MOVIE.STUDIOS", fun movie => Html.escapeList movie.studios⟩,
  ⟨"MOVIE.TAGS", fun movie => Html.escapeList movie.tags⟩,
  ⟨"MOVIE.WRITER", fun movie => Html.escape movie.writer⟩,
  ⟨"MOVIE.DIRECTOR", fun movie => Html.escape movie.director⟩,
  ⟨"MOVIE.CERTIFICATION", fun movie => Html.escape movie.certification⟩,
  ⟨"MOVIE.TRAILER", fun movie => Html.escape movie.trailer⟩,
  ⟨"MOVIE.LABEL", fun movie => movie.label.shown⟩,
  ⟨"MOVIE.RATING", fun movie => showRating movie.ratings⟩,
  ⟨"MOVIE.VOTES", fun movie => showVotes movie.ratings⟩,
  ⟨"MOVIE.RUNTIME", fun movie => Text.ofNat movie.runtime.toNat⟩,
  ⟨"MOVIE.PLAY_COUNT", fun movie => Text.ofNat movie.playCount.toNat⟩,
  ⟨"MOVIE.LAST_PLAYED", fun movie => showMoment movie.lastPlayed⟩,
  ⟨"MOVIE.DATE_ADDED", fun movie => showMoment movie.dateAdded⟩,
  ⟨"MOVIE.FILE_LAST_MODIFIED", fun movie => showMoment movie.fileLastModified⟩,
  ⟨"MOVIE.FILENAME", fun movie =>
    ((movie.files.head?).map fun file => Html.escape file.text).getD []⟩,
  ⟨"MOVIE.DIR", fun movie =>
    ((movie.files.head?.bind Path.parent?).map fun file => Html.escape file.text).getD []⟩]

/-- The fields of a show. -/
def TvShow.fields : List (Field TvShow) := [
  ⟨"TVSHOW.ID", fun item => Text.ofNat item.id.toNat⟩,
  ⟨"TVSHOW.LINK", fun item => pageLink .tvShow item.id⟩,
  ⟨"TVSHOW.IMDB_ID", fun item => item.imdbId⟩,
  ⟨"TVSHOW.TITLE", fun item => Html.escape item.title⟩,
  ⟨"TVSHOW.RATING", fun item => showRating item.ratings⟩,
  ⟨"TVSHOW.VOTES", fun item => showVotes item.ratings⟩,
  ⟨"TVSHOW.CERTIFICATION", fun item => Html.escape item.certification⟩,
  ⟨"TVSHOW.FIRST_AIRED", fun item => showDate item.firstAired⟩,
  ⟨"TVSHOW.STUDIO", fun item => Html.escape item.network⟩,
  ⟨"TVSHOW.PLOT", fun item => Html.escapeLines item.overview⟩,
  ⟨"TVSHOW.TAGS", fun item => Html.escapeList item.tags⟩,
  ⟨"TVSHOW.GENRES", fun item => Html.escapeList item.genres⟩]

/-- The field of a season. -/
def seasonFields : List (Field UInt16) := [
  ⟨"SEASON", fun season => Text.ofNat season.toNat⟩]

/-- The fields of its show that an episode has. -/
def TvShow.episodeFields : List (Field TvShow) := [
  ⟨"SHOW.TITLE", fun item => Html.escape item.title⟩,
  ⟨"SHOW.LINK", fun item => PageDepth.item.linkStart ++ pageLink .tvShow item.id⟩]

/-- The fields of an episode. -/
def Episode.fields : List (Field Episode) := [
  ⟨"EPISODE.LINK", fun episode => PageDepth.item.linkStart ++ pageLink .episode episode.id⟩,
  ⟨"EPISODE.TITLE", fun episode => Html.escape episode.title⟩,
  ⟨"EPISODE.SEASON", fun episode => showPadded episode.season⟩,
  ⟨"EPISODE.EPISODE", fun episode => showPadded episode.number⟩,
  ⟨"EPISODE.RATING", fun episode => showRating episode.ratings⟩,
  ⟨"EPISODE.CERTIFICATION", fun episode => Html.escape episode.certification⟩,
  ⟨"EPISODE.FIRST_AIRED", fun episode => showDate episode.firstAired⟩,
  ⟨"EPISODE.LAST_PLAYED", fun episode => showMoment episode.lastPlayed⟩,
  ⟨"EPISODE.STUDIO", fun episode => Html.escape episode.network⟩,
  ⟨"EPISODE.PLOT", fun episode => Html.escapeLines episode.overview⟩,
  ⟨"EPISODE.WRITERS", fun episode => Html.escapeList episode.writers⟩,
  ⟨"EPISODE.DIRECTORS", fun episode => Html.escapeList episode.directors⟩]

/-- The fields of a concert. -/
def Concert.fields : List (Field Concert) := [
  ⟨"CONCERT.ID", fun concert => Text.ofNat concert.id.toNat⟩,
  ⟨"CONCERT.LINK", fun concert => pageLink .concert concert.id⟩,
  ⟨"CONCERT.TITLE", fun concert => Html.escape concert.title⟩,
  ⟨"CONCERT.ARTIST", fun concert => Html.escape concert.artist⟩,
  ⟨"CONCERT.ALBUM", fun concert => Html.escape concert.album⟩,
  ⟨"CONCERT.TAGLINE", fun concert => Html.escape concert.tagline⟩,
  ⟨"CONCERT.RATING", fun concert => showRating concert.ratings⟩,
  ⟨"CONCERT.YEAR", fun concert => showYear concert.released⟩,
  ⟨"CONCERT.RUNTIME", fun concert => Text.ofNat concert.runtime.toNat⟩,
  ⟨"CONCERT.CERTIFICATION", fun concert => Html.escape concert.certification⟩,
  ⟨"CONCERT.TRAILER", fun concert => Html.escape concert.trailer⟩,
  ⟨"CONCERT.PLAY_COUNT", fun concert => Text.ofNat concert.playCount.toNat⟩,
  ⟨"CONCERT.LAST_PLAYED", fun concert => showMoment concert.lastPlayed⟩,
  ⟨"CONCERT.PLOT", fun concert => Html.escapeLines concert.overview⟩,
  ⟨"CONCERT.TAGS", fun concert => Html.escapeList concert.tags⟩,
  ⟨"CONCERT.GENRES", fun concert => Html.escapeList concert.genres⟩]

/-- The fields of a media file.  Sizes that are not known are zero. -/
def StreamDetails.fields : List (Field StreamDetails) := [
  ⟨"FILEINFO.WIDTH", fun details => (details.video .width).getD "0"⟩,
  ⟨"FILEINFO.HEIGHT", fun details => (details.video .height).getD "0"⟩,
  ⟨"FILEINFO.ASPECT", fun details => (details.video .aspect).getD "0"⟩,
  ⟨"FILEINFO.CODEC", fun details => (details.video .codec).getD ""⟩,
  ⟨"FILEINFO.DURATION", fun details => (details.video .duration).getD "0"⟩,
  ⟨"FILEINFO.AUDIO.CODEC", fun details => showTracks details.audio .codec⟩,
  ⟨"FILEINFO.AUDIO.CHANNELS", fun details => showTracks details.audio .channels⟩,
  ⟨"FILEINFO.AUDIO.LANGUAGE", fun details => showTracks details.audio .language⟩,
  ⟨"FILEINFO.SUBTITLES.LANGUAGE", fun details => showTracks details.subtitles .language⟩]

/-! ## Entities -/

/-- The names of the fields that entities of a kind have. -/
def Kind.fieldNames : Kind → List Text
  | .movie => Movie.fields.map (·.name) ++ StreamDetails.fields.map (·.name)
  | .tvShow => TvShow.fields.map (·.name)
  | .season => seasonFields.map (·.name)
  | .episode =>
    TvShow.episodeFields.map (·.name) ++ Episode.fields.map (·.name) ++
      StreamDetails.fields.map (·.name)
  | .concert => Concert.fields.map (·.name) ++ StreamDetails.fields.map (·.name)

/-- The fields of an entity with their values. -/
def Entity.fields : Entity → List (Text × Text)
  | .movie record =>
    bindFields Movie.fields record ++ bindFields StreamDetails.fields record.streamDetails
  | .tvShow item => bindFields TvShow.fields item
  | .season _ number => bindFields seasonFields number
  | .episode item record =>
    bindFields TvShow.episodeFields item ++ bindFields Episode.fields record ++
      bindFields StreamDetails.fields record.streamDetails
  | .concert record =>
    bindFields Concert.fields record ++ bindFields StreamDetails.fields record.streamDetails

/-- The names in the fields of an entity are those of its kind. -/
theorem Entity.map_fst_fields (entity : Entity) :
    entity.fields.map Prod.fst = entity.kind.fieldNames := by
  cases entity <;> simp [fields, kind, Kind.fieldNames, map_fst_bindFields]

/-- Replace the tokens of names by values, one name after the other. -/
def fillTokens (values : List (Text × Text)) (template : Text) : Text :=
  values.foldl (fun text item => Text.replaceAll (Token.ofName item.1) item.2 text) template

/-- Replace the tokens of an entity's fields. -/
def renderFields (template : Text) (entity : Entity) : Text :=
  fillTokens entity.fields template

/-! ## Lists -/

/-- A block that is repeated for each of a list of values. -/
structure ListBlock where
  block : Text
  item : Text
  values : List Text

/-- The list blocks that an entity provides. -/
def Entity.listBlocks : Entity → List ListBlock
  | .movie record => [
      ⟨"TAGS", "TAG.NAME", record.tags⟩,
      ⟨"GENRES", "GENRE.NAME", record.genres⟩,
      ⟨"COUNTRIES", "COUNTRY.NAME", record.countries⟩,
      ⟨"STUDIOS", "STUDIO.NAME", record.studios⟩]
  | .tvShow item => [
      ⟨"TAGS", "TAG.NAME", item.tags⟩,
      ⟨"GENRES", "GENRE.NAME", item.genres⟩]
  | .season _ _ => []
  | .episode _ record => [
      ⟨"WRITERS", "WRITER.NAME", record.writers⟩,
      ⟨"DIRECTORS", "DIRECTOR.NAME", record.directors⟩]
  | .concert record => [
      ⟨"TAGS", "TAG.NAME", record.tags⟩,
      ⟨"GENRES", "GENRE.NAME", record.genres⟩]

/-- The cast of an entity that has one. -/
def Entity.actors? : Entity → Option (List Actor)
  | .movie record => some record.actors
  | .tvShow item => some item.actors
  | _ => none

/-- The tokens that have a meaning inside of a list block only. -/
def listItemNames : List Text :=
  ["TAG.NAME", "GENRE.NAME", "COUNTRY.NAME", "STUDIO.NAME", "WRITER.NAME", "DIRECTOR.NAME",
    "ACTOR.NAME", "ACTOR.ROLE"]

end MediaSite
