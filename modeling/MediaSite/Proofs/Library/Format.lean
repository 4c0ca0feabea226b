import MediaSite.Library.Json
import MediaSite.Proofs.Json.Records
import MediaSite.Proofs.Library.Dates

namespace MediaSite

/-!
# The format of libraries

Every record type of a library is read and written part by part, so its format is faithful: the
records that can be read are read from what is written for them, and a file with more or fewer
fields stays readable.  Which records these are depends on their ratings alone, which have to be
finite; all dates and all other values can be read.

The parts of a type are listed once.  What a part holds is a text, a number, a table and so on, or
records of a type that has been shown to be one before.
-/

open Json
open scoped Text

/-! ## Values in fields -/

/-- Days. -/
abbrev Date.codec : Codec Date :=
  .written toText parse? parse?_toText

/-- Moments. -/
abbrev DateTime.codec : Codec DateTime :=
  .written toText parse? parse?_toText

theorem Path.ofJson?_toJson (path : Path) : ofJson? path.toJson = some path := rfl

/-- Paths. -/
abbrev Path.codec : Codec Path :=
  .ofAll ofJson? toJson ofJson?_toJson

/-- Lists of texts. -/
abbrev texts : FieldCodec (List Text) :=
  .list FieldCodec.text.toCodec

/-- Texts that need not be known. -/
abbrev optionalText : FieldCodec (Option Text) :=
  .optional FieldCodec.text.toCodec FieldCodec.text_null

/-- Days that need not be known. -/
abbrev optionalDate : FieldCodec (Option Date) :=
  .optional Date.codec (Codec.written_null _)

/-- Moments that need not be known. -/
abbrev optionalMoment : FieldCodec (Option DateTime) :=
  .optional DateTime.codec (Codec.written_null _)

theorem ColorLabel.ofName?_name (label : ColorLabel) : ofName? label.name = some label := by
  cases label <;> rfl

/-- The label of a movie. -/
abbrev ColorLabel.field : FieldCodec ColorLabel :=
  .named name ofName? ofName?_name none

theorem ImageRole.keys : Keys all name where
  complete := fun role => by cases role <;> decide
  distinct := by decide

theorem VideoDetail.keys : Keys all name where
  complete := fun detail => by cases detail <;> decide
  distinct := by decide

theorem AudioDetail.keys : Keys all name where
  complete := fun detail => by cases detail <;> decide
  distinct := by decide

theorem SubtitleDetail.keys : Keys all name where
  complete := fun detail => by cases detail; decide
  distinct := by decide

/-- The pictures of an item. -/
abbrev images : FieldCodec ImagePaths :=
  .table ImageRole.keys Path.codec

/-! ## Parts of records -/

namespace Rating

/-- The ratings that can be read. -/
def Readable (rating : Rating) : Prop :=
  rating.value.isFinite = true

/-- The format of a rating. -/
def format : Format Rating :=
  ⟨fieldNames, ofJson?, toJson, {}, Readable⟩

/-- The parts of a rating. -/
def parts : List (RecordPart Rating) := [
  ⟨"source", .text, source⟩,
  ⟨"rating", .float, value⟩,
  ⟨"vote_count", .uint32, votes⟩]

theorem isRecord : IsRecord format parts where
  named := rfl
  distinct := by decide
  reads := reads_of_gathers fun fields => by
    -- one step for each field; then the record is known in all of them
    repeat refine .step fun _ => ?_
    refine .done fun record => ?_
    cases record
    simp only [mk.injEq, true_and, and_assoc, eq_comm]
  writes := fun _ => rfl
  missing := by
    repeat refine List.forall_mem_cons.mpr ⟨rfl, ?_⟩
    exact List.forall_mem_nil _
  readable := fun _ => by simp [parts, format, Readable]

end Rating

namespace Actor

/-- The format of an actor. -/
def format : Format Actor :=
  ⟨fieldNames, ofJson?, toJson, {}, fun _ => True⟩

/-- The parts of an actor. -/
def parts : List (RecordPart Actor) := [
  ⟨"name", .text, name⟩,
  ⟨"role", .text, role⟩]

theorem isRecord : IsRecord format parts where
  named := rfl
  distinct := by decide
  reads := reads_of_gathers fun fields => by
    repeat refine .step fun _ => ?_
    refine .done fun record => ?_
    cases record
    simp only [mk.injEq, true_and, eq_comm]
  writes := fun _ => rfl
  missing := by
    repeat refine List.forall_mem_cons.mpr ⟨rfl, ?_⟩
    exact List.forall_mem_nil _
  readable := fun _ => by simp [parts, format]

end Actor

namespace StreamDetails

/-- The format of stream details. -/
def format : Format StreamDetails :=
  ⟨fieldNames, ofJson?, toJson, {}, fun _ => True⟩

/-- The parts of stream details. -/
def parts : List (RecordPart StreamDetails) := [
  ⟨"video", .table VideoDetail.keys FieldCodec.text.toCodec, video⟩,
  ⟨"audio", .list (FieldCodec.table AudioDetail.keys FieldCodec.text.toCodec).toCodec, audio⟩,
  ⟨"subtitles", .list (FieldCodec.table SubtitleDetail.keys FieldCodec.text.toCodec).toCodec,
    subtitles⟩]

theorem isRecord : IsRecord format parts where
  named := rfl
  distinct := by decide
  reads := reads_of_gathers fun fields => by
    repeat refine .step fun _ => ?_
    refine .done fun record => ?_
    cases record
    simp only [mk.injEq, true_and, and_assoc, eq_comm]
  writes := fun _ => rfl
  missing := by
    repeat refine List.forall_mem_cons.mpr ⟨rfl, ?_⟩
    exact List.forall_mem_nil _
  readable := fun _ => by simp [parts, format]

end StreamDetails

namespace Movie

/-- The movies that can be read. -/
def Readable (movie : Movie) : Prop :=
  ∀ rating ∈ movie.ratings, rating.Readable

/-- The format of a movie. -/
def format : Format Movie :=
  ⟨fieldNames, ofJson?, toJson, {}, Readable⟩

/-- The parts of a movie. -/
def parts : List (RecordPart Movie) := [
  ⟨"id", .uint64, id⟩,
  ⟨"title", .text, title⟩,
  ⟨"original_title", .text, originalTitle⟩,
  ⟨"sort_title", optionalText, sortTitle⟩,
  ⟨"imdb_id", .text, imdbId⟩,
  ⟨"tmdb_id", .text, tmdbId⟩,
  ⟨"overview", .text, overview⟩,
  ⟨"outline", .text, outline⟩,
  ⟨"tagline", .text, tagline⟩,
  ⟨"set", optionalText, set⟩,
  ⟨"genres", texts, genres⟩,
  ⟨"countries", texts, countries⟩,
  ⟨"studios", texts, studios⟩,
  ⟨"tags", texts, tags⟩,
  ⟨"writer", .text, writer⟩,
  ⟨"director", .text, director⟩,
  ⟨"certification", .text, certification⟩,
  ⟨"trailer", .text, trailer⟩,
  ⟨"label", ColorLabel.field, label⟩,
  ⟨"ratings", .list Rating.isRecord.codec, ratings⟩,
  ⟨"runtime", .uint32, runtime⟩,
  ⟨"play_count", .uint32, playCount⟩,
  ⟨"released", optionalDate, released⟩,
  ⟨"last_played", optionalMoment, lastPlayed⟩,
  ⟨"date_added", optionalMoment, dateAdded⟩,
  ⟨"file_last_modified", optionalMoment, fileLastModified⟩,
  ⟨"files", .list Path.codec, files⟩,
  ⟨"actors", .list Actor.isRecord.codec, actors⟩,
  ⟨"stream_details", StreamDetails.isRecord.values, streamDetails⟩,
  ⟨"images", MediaSite.images, images⟩]

theorem isRecord : IsRecord format parts where
  named := rfl
  distinct := by decide
  reads := reads_of_gathers fun fields => by
    repeat refine .step fun _ => ?_
    refine .done fun record => ?_
    cases record
    simp only [mk.injEq, true_and, and_assoc, eq_comm]
  writes := fun _ => rfl
  missing := by
    repeat refine List.forall_mem_cons.mpr ⟨rfl, ?_⟩
    exact List.forall_mem_nil _
  readable := fun _ => by
    simp [parts, format, Rating.format, Actor.format, StreamDetails.format, Readable]

end Movie

namespace Episode

/-- The episodes that can be read. -/
def Readable (episode : Episode) : Prop :=
  ∀ rating ∈ episode.ratings, rating.Readable

/-- The format of an episode. -/
def format : Format Episode :=
  ⟨fieldNames, ofJson?, toJson, {}, Readable⟩

/-- The parts of an episode. -/
def parts : List (RecordPart Episode) := [
  ⟨"id", .uint64, id⟩,
  ⟨"title", .text, title⟩,
  ⟨"season", .uint16, season⟩,
  ⟨"episode", .uint16, number⟩,
  ⟨"ratings", .list Rating.isRecord.codec, ratings⟩,
  ⟨"certification", .text, certification⟩,
  ⟨"first_aired", optionalDate, firstAired⟩,
  ⟨"last_played", optionalMoment, lastPlayed⟩,
  ⟨"network", .text, network⟩,
  ⟨"overview", .text, overview⟩,
  ⟨"writers", texts, writers⟩,
  ⟨"directors", texts, directors⟩,
  ⟨"stream_details", StreamDetails.isRecord.values, streamDetails⟩,
  ⟨"images", MediaSite.images, images⟩,
  ⟨"dummy", .bool, dummy⟩]

theorem isRecord : IsRecord format parts where
  named := rfl
  distinct := by decide
  reads := reads_of_gathers fun fields => by
    repeat refine .step fun _ => ?_
    refine .done fun record => ?_
    cases record
    simp only [mk.injEq, true_and, and_assoc, eq_comm]
  writes := fun _ => rfl
  missing := by
    repeat refine List.forall_mem_cons.mpr ⟨rfl, ?_⟩
    exact List.forall_mem_nil _
  readable := fun _ => by simp [parts, format, Rating.format, StreamDetails.format, Readable]

end Episode

namespace TvShow

/-- The shows that can be read. -/
def Readable (item : TvShow) : Prop :=
  (∀ rating ∈ item.ratings, rating.Readable) ∧ ∀ episode ∈ item.episodes, episode.Readable

/-- The format of a show. -/
def format : Format TvShow :=
  ⟨fieldNames, ofJson?, toJson, {}, Readable⟩

/-- The parts of a show. -/
def parts : List (RecordPart TvShow) := [
  ⟨"id", .uint64, id⟩,
  ⟨"title", .text, title⟩,
  ⟨"sort_title", optionalText, sortTitle⟩,
  ⟨"imdb_id", .text, imdbId⟩,
  ⟨"ratings", .list Rating.isRecord.codec, ratings⟩,
  ⟨"certification", .text, certification⟩,
  ⟨"first_aired", optionalDate, firstAired⟩,
  ⟨"network", .text, network⟩,
  ⟨"overview", .text, overview⟩,
  ⟨"tags", texts, tags⟩,
  ⟨"genres", texts, genres⟩,
  ⟨"actors", .list Actor.isRecord.codec, actors⟩,
  ⟨"images", MediaSite.images, images⟩,
  ⟨"episodes", .list Episode.isRecord.codec, episodes⟩]

theorem isRecord : IsRecord format parts where
  named := rfl
  distinct := by decide
  reads := reads_of_gathers fun fields => by
    repeat refine .step fun _ => ?_
    refine .done fun record => ?_
    cases record
    simp only [mk.injEq, true_and, and_assoc, eq_comm]
  writes := fun _ => rfl
  missing := by
    repeat refine List.forall_mem_cons.mpr ⟨rfl, ?_⟩
    exact List.forall_mem_nil _
  readable := fun _ => by
    simp [parts, format, Rating.format, Actor.format, Episode.format, Readable]

end TvShow

namespace Concert

/-- The concerts that can be read. -/
def Readable (concert : Concert) : Prop :=
  ∀ rating ∈ concert.ratings, rating.Readable

/-- The format of a concert. -/
def format : Format Concert :=
  ⟨fieldNames, ofJson?, toJson, {}, Readable⟩

/-- The parts of a concert. -/
def parts : List (RecordPart Concert) := [
  ⟨"id", .uint64, id⟩,
  ⟨"title", .text, title⟩,
  ⟨"sort_title", optionalText, sortTitle⟩,
  ⟨"artist", .text, artist⟩,
  ⟨"album", .text, album⟩,
  ⟨"tagline", .text, tagline⟩,
  ⟨"ratings", .list Rating.isRecord.codec, ratings⟩,
  ⟨"released", optionalDate, released⟩,
  ⟨"runtime", .uint32, runtime⟩,
  ⟨"certification", .text, certification⟩,
  ⟨"trailer", .text, trailer⟩,
  ⟨"play_count", .uint32, playCount⟩,
  ⟨"last_played", optionalMoment, lastPlayed⟩,
  ⟨"overview", .text, overview⟩,
  ⟨"tags", texts, tags⟩,
  ⟨"genres", texts, genres⟩,
  ⟨"stream_details", StreamDetails.isRecord.values, streamDetails⟩,
  ⟨"images", MediaSite.images, images⟩]

theorem isRecord : IsRecord format parts where
  named := rfl
  distinct := by decide
  reads := reads_of_gathers fun fields => by
    repeat refine .step fun _ => ?_
    refine .done fun record => ?_
    cases record
    simp only [mk.injEq, true_and, and_assoc, eq_comm]
  writes := fun _ => rfl
  missing := by
    repeat refine List.forall_mem_cons.mpr ⟨rfl, ?_⟩
    exact List.forall_mem_nil _
  readable := fun _ => by simp [parts, format, Rating.format, StreamDetails.format, Readable]

end Concert

namespace Library

/-- The libraries that can be read. -/
def Readable (library : Library) : Prop :=
  (∀ movie ∈ library.movies, movie.Readable) ∧
    (∀ item ∈ library.tvShows, item.Readable) ∧ ∀ concert ∈ library.concerts, concert.Readable

/-- The format of a library. -/
def format : Format Library :=
  ⟨fieldNames, ofJson?, toJson, {}, Readable⟩

/-- The parts of a library. -/
def parts : List (RecordPart Library) := [
  ⟨"movies", .list Movie.isRecord.codec, movies⟩,
  ⟨"tv_shows", .list TvShow.isRecord.codec, tvShows⟩,
  ⟨"concerts", .list Concert.isRecord.codec, concerts⟩]

theorem isRecord : IsRecord format parts where
  named := rfl
  distinct := by decide
  reads := reads_of_gathers fun fields => by
    repeat refine .step fun _ => ?_
    refine .done fun record => ?_
    cases record
    simp only [mk.injEq, true_and, and_assoc, eq_comm]
  writes := fun _ => rfl
  missing := by
    repeat refine List.forall_mem_cons.mpr ⟨rfl, ?_⟩
    exact List.forall_mem_nil _
  readable := fun _ => by
    simp [parts, format, Movie.format, TvShow.format, Concert.format, Readable]

/-! ## The format as a whole -/

/-- The format of every record is faithful: what can be read is read from what is written for it,
other fields are ignored, and fields that are left out get their defaults.  So it is also for
records inside a library, since what is read alike there is read alike as a part of it. -/
theorem format_faithful :
    (Faithful Rating.format ∧ Faithful Actor.format ∧ Faithful StreamDetails.format ∧
      Faithful Movie.format ∧ Faithful Episode.format ∧ Faithful TvShow.format ∧
      Faithful Concert.format ∧ Faithful format) ∧
    ∀ {α : Type} (inner : Decoder α) (place : Json → Json), Inside inner ofJson? place →
      ∀ first second, inner first = inner second → ofJson? (place first) = ofJson? (place second) :=
  ⟨⟨Rating.isRecord.faithful, Actor.isRecord.faithful, StreamDetails.isRecord.faithful,
    Movie.isRecord.faithful, Episode.isRecord.faithful, TvShow.isRecord.faithful,
    Concert.isRecord.faithful, isRecord.faithful⟩,
    fun _ _ inside _ _ same => inside.congr same⟩

/-- A library of one movie with one rating. -/
def rated : Library :=
  { movies := [{ title := "Heat", ratings := [{ value := 7.5 }] }] }

/-- A movie with these members, in a library. -/
def withMovie (members : List (Text × Json)) : Json :=
  .object [("movies", .array [.object members])]

/-- A rated movie is read again, and one with a colour as if it had none. -/
theorem format_faithful_rated :
    (rated.Readable ∧ ofJson? rated.toJson = some rated) ∧
    ("colour" : Text) ∉ Movie.fieldNames ∧
    ofJson? (withMovie [("title", .string "Heat"), ("colour", .bool true)]) =
      ofJson? (withMovie [("title", .string "Heat")]) ∧
    ofJson? (withMovie [("title", .string "Heat")]) =
      some { movies := [{ title := "Heat" }] } := by
  have readable : rated.Readable := by
    have finite : (7.5 : Float).isFinite = true := by decide
    simp [rated, Readable, Movie.Readable, Rating.Readable, finite]
  have unknown : ("colour" : Text) ∉ Movie.fieldNames := by decide
  have movies : Inside Movie.ofJson? ofJson? fun json => .object [("movies", .array [json])] :=
    .member [] [] isRecord List.mem_cons_self (.element [] [] .here)
  rcases format_faithful with ⟨⟨_, _, _, movie, _, _, _, library⟩, inside⟩
  have same := movie.unknown [("title", .string "Heat")] "colour" (.bool true) [] unknown
  exact ⟨⟨readable, library.again rated readable⟩, unknown,
    inside Movie.ofJson? _ movies _ _ same, rfl⟩

end Library
end MediaSite
