import Mathlib.Data.List.Nodup
import MediaSite.Proofs.Site.PlainValues
import MediaSite.Proofs.Template.Tidy

namespace MediaSite

/-!
# Substitution at once

The fields of an entity are filled in one after the other, dozens of passes over
the whole text.  For a tidy template and a record whose texts shown as they are
open no brace, this is one simultaneous substitution: each token of a field
becomes the value of that field, and nothing else changes.

All values are plain then (`Entity.PlainVerbatim.plain_fields`), escaped texts
always and the others by assumption, so no pass ever makes or breaks a token.
What order the fields come in does not matter, and filling in again finds no
token of a field any more.
-/

open scoped Text
open Text (Plain)

/-! ## Texts shown as they are -/

/-- No brace opens in a detail of a file. -/
structure StreamDetails.PlainValues (details : StreamDetails) : Prop where
  video : ∀ detail value, details.video detail = some value → Plain value
  audio : ∀ track ∈ details.audio, ∀ detail value, track detail = some value → Plain value
  subtitles : ∀ track ∈ details.subtitles, ∀ detail value, track detail = some value → Plain value

/-- No brace opens in the texts of a record that are shown as they are. -/
def Entity.PlainVerbatim : Entity → Prop
  | .movie record => Plain record.imdbId ∧ Plain record.tmdbId ∧ record.streamDetails.PlainValues
  | .tvShow item => Plain item.imdbId
  | .season _ _ => True
  | .episode _ record => record.streamDetails.PlainValues
  | .concert record => record.streamDetails.PlainValues

theorem plain_detail {known : Option Text} (plain : ∀ value, known = some value → Plain value)
    {missing : Text} (missingPlain : Plain missing) : Plain (known.getD missing) := by
  cases known with
  | none => exact missingPlain
  | some value => exact plain value rfl

theorem plain_showTracks {κ : Type} {tracks : List (κ → Option Text)}
    (plain : ∀ track ∈ tracks, ∀ detail value, track detail = some value → Plain value)
    (detail : κ) : Plain (showTracks tracks detail) := by
  apply Text.Plain.join (by decide)
  intro part member
  rcases List.mem_map.mp member with ⟨track, inTracks, rfl⟩
  exact plain_detail (plain track inTracks detail) plain_nil

theorem StreamDetails.PlainValues.plain_fields {details : StreamDetails}
    (plain : details.PlainValues) :
    ∀ item ∈ bindFields StreamDetails.fields details, Plain item.2 := by
  simp only [bindFields, StreamDetails.fields, List.map_cons, List.map_nil, List.forall_mem_cons]
  refine ⟨plain_detail (plain.video _) (by decide), plain_detail (plain.video _) (by decide),
    plain_detail (plain.video _) (by decide), plain_detail (plain.video _) (by decide),
    plain_detail (plain.video _) (by decide), plain_showTracks plain.audio _,
    plain_showTracks plain.audio _, plain_showTracks plain.audio _,
    plain_showTracks plain.subtitles _, List.forall_mem_nil _⟩

/-- A table whose texts shown as they are open no brace has plain values only. -/
theorem plain_bindFields {α : Type} {fields : List (Field α)} {record : α}
    (table : ∀ field ∈ fields, PlainOrVerbatim field)
    (verbatim : ∀ field ∈ fields, field.name ∈ verbatimNames → Plain (field.value record)) :
    ∀ item ∈ bindFields fields record, Plain item.2 := by
  intro item member
  rcases List.mem_map.mp member with ⟨field, inTable, rfl⟩
  rcases table field inTable with name | plain
  · exact verbatim field inTable name
  · exact plain record

/-- A name stands for one field of a table at most. -/
theorem Field.eq_of_name {α : Type} {fields : List (Field α)}
    (distinct : (fields.map (·.name)).Nodup) {field known : Field α} (member : field ∈ fields)
    (knownMember : known ∈ fields) (same : field.name = known.name) : field = known :=
  List.inj_on_of_nodup_map distinct member knownMember same

theorem Movie.plain_verbatim {record : Movie} (imdb : Plain record.imdbId)
    (tmdb : Plain record.tmdbId) :
    ∀ field ∈ Movie.fields, field.name ∈ verbatimNames → Plain (field.value record) := by
  intro field member verbatim
  have distinct : (Movie.fields.map (·.name)).Nodup :=
    (List.nodup_append.mp (Kind.fieldNames_spec .movie).2).1
  have names : ∀ field ∈ Movie.fields, field.name ∈ verbatimNames →
      field.name = "MOVIE.IMDB_ID".toList ∨ field.name = "MOVIE.TMDB_ID".toList := by decide +kernel
  have imdbField : (⟨"MOVIE.IMDB_ID", Movie.imdbId⟩ : Field Movie) ∈ Movie.fields := by
    simp [Movie.fields]
  have tmdbField : (⟨"MOVIE.TMDB_ID", Movie.tmdbId⟩ : Field Movie) ∈ Movie.fields := by
    simp [Movie.fields]
  rcases names field member verbatim with name | name
  · rw [Field.eq_of_name distinct member imdbField name]
    exact imdb
  · rw [Field.eq_of_name distinct member tmdbField name]
    exact tmdb

theorem TvShow.plain_verbatim {item : TvShow} (imdb : Plain item.imdbId) :
    ∀ field ∈ TvShow.fields, field.name ∈ verbatimNames → Plain (field.value item) := by
  intro field member verbatim
  have distinct : (TvShow.fields.map (·.name)).Nodup := (Kind.fieldNames_spec .tvShow).2
  have names : ∀ field ∈ TvShow.fields, field.name ∈ verbatimNames →
      field.name = "TVSHOW.IMDB_ID".toList := by decide +kernel
  have imdbField : (⟨"TVSHOW.IMDB_ID", TvShow.imdbId⟩ : Field TvShow) ∈ TvShow.fields := by
    simp [TvShow.fields]
  rw [Field.eq_of_name distinct member imdbField (names field member verbatim)]
  exact imdb

/-- If no brace opens in the texts shown as they are, none opens in any value. -/
theorem Entity.PlainVerbatim.plain_fields {entity : Entity} (plain : entity.PlainVerbatim) :
    ∀ item ∈ entity.fields, Plain item.2 := by
  have none {α : Type} {fields : List (Field α)} {record : α}
      (absent : ∀ field ∈ fields, field.name ∉ verbatimNames) :
      ∀ field ∈ fields, field.name ∈ verbatimNames → Plain (field.value record) :=
    fun field member verbatim => absurd verbatim (absent field member)
  intro item member
  cases entity with
  | movie record =>
      rcases plain with ⟨imdb, tmdb, details⟩
      rcases List.mem_append.mp member with own | inDetails
      · exact plain_bindFields Movie.plain_fields (Movie.plain_verbatim imdb tmdb) item own
      · exact details.plain_fields item inDetails
  | tvShow record =>
      exact plain_bindFields TvShow.plain_fields (TvShow.plain_verbatim plain) item member
  | season record number =>
      exact plain_bindFields plain_seasonFields (none (by decide +kernel)) item member
  | episode record episode =>
      rcases List.mem_append.mp member with other | inDetails
      · rcases List.mem_append.mp other with shared | own
        · exact plain_bindFields TvShow.plain_episodeFields (none (by decide +kernel)) item shared
        · exact plain_bindFields Episode.plain_fields (none (by decide +kernel)) item own
      · exact StreamDetails.PlainValues.plain_fields plain item inDetails
  | concert record =>
      rcases List.mem_append.mp member with own | inDetails
      · exact plain_bindFields Concert.plain_fields (none (by decide +kernel)) item own
      · exact StreamDetails.PlainValues.plain_fields plain item inDetails

/-! ## Filling in any order -/

namespace TemplatePiece

theorem fill_of_perm {values order : List (Text × Text)} (perm : order.Perm values)
    (distinct : (values.map Prod.fst).Nodup) : fill order = fill values := by
  funext piece
  cases piece with
  | text content => rfl
  | token name => rw [fill, fill, lookup_of_perm perm distinct]

/-- What has been filled in leaves no token of a known name. -/
theorem not_mem_names_fill {values : List (Text × Text)} {name : Text}
    (known : name ∈ values.map Prod.fst) (pieces : List TemplatePiece) :
    name ∉ names (pieces.map (fill values)) := by
  intro member
  rcases List.mem_filterMap.mp member with ⟨piece, inFilled, isToken⟩
  rcases List.mem_map.mp inFilled with ⟨original, _, rfl⟩
  cases original with
  | text content => cases isToken
  | token other =>
      cases found : values.lookup other with
      | some value =>
          rw [fill, found] at isToken
          cases isToken
      | none =>
          rw [fill, found] at isToken
          rw [Option.some.inj isToken] at found
          exact lookup_eq_none_iff.mp found known

theorem fill_fill (values : List (Text × Text)) (piece : TemplatePiece) :
    fill values (fill values piece) = fill values piece := by
  cases piece with
  | text content => rfl
  | token name =>
      cases found : values.lookup name with
      | some value => simp only [fill, found]
      | none => simp only [fill, found]

end TemplatePiece

/-! ## The simultaneous substitution -/

/-- A template with the tokens of an entity's fields replaced, all at once. -/
def Entity.substitute (entity : Entity) (pieces : List TemplatePiece) : Text :=
  TemplatePiece.join (pieces.map (TemplatePiece.fill entity.fields))

/-- Filling in the fields of an entity is one simultaneous substitution: the
token of a field becomes its value, any other piece stays, no token of a field
is left, the fields may come in any order, and filling in again changes nothing. -/
theorem Entity.renderFields_eq_substitute {entity : Entity} (plain : entity.PlainVerbatim)
    {pieces : List TemplatePiece} (tidy : ∀ piece ∈ pieces, piece.Tidy) :
    renderFields (TemplatePiece.join pieces) entity = entity.substitute pieces ∧
      (∀ item ∈ entity.fields, TemplatePiece.fill entity.fields (.token item.1) = .text item.2) ∧
      (∀ name, name ∉ entity.kind.fieldNames →
        TemplatePiece.fill entity.fields (.token name) = .token name) ∧
      (∀ name ∈ entity.kind.fieldNames, ¬ Token.ofName name <:+: entity.substitute pieces) ∧
      (∀ order, order.Perm entity.fields →
        fillTokens order (TemplatePiece.join pieces) = entity.substitute pieces) ∧
      renderFields (entity.substitute pieces) entity = entity.substitute pieces := by
  have free := entity.braceFree_fields
  have plainFields := plain.plain_fields
  have distinct := entity.nodup_fields
  have filledTidy : ∀ piece ∈ pieces.map (TemplatePiece.fill entity.fields), piece.Tidy := by
    intro piece member
    rcases List.mem_map.mp member with ⟨original, inPieces, rfl⟩
    exact (tidy original inPieces).fill plainFields
  refine ⟨fillTokens_of_tidy free plainFields tidy, ?_, ?_, ?_, ?_, ?_⟩
  · intro item member
    rw [TemplatePiece.fill, lookup_of_mem distinct member]
  · intro name unknown
    rw [← entity.map_fst_fields] at unknown
    rw [TemplatePiece.fill, lookup_eq_none_iff.mpr unknown]
  · intro name known occurs
    rw [← entity.map_fst_fields] at known
    have nameFree : Token.BraceFree name := by
      rcases List.mem_map.mp known with ⟨item, member, rfl⟩
      exact free item member
    exact TemplatePiece.not_mem_names_fill known pieces
      (Token.mem_names_of_occurs nameFree filledTidy occurs)
  · intro order perm
    have orderFree : BraceFreeNames order := fun item member => free item (perm.mem_iff.mp member)
    have orderPlain : ∀ item ∈ order, Plain item.2 := fun item member =>
      plainFields item (perm.mem_iff.mp member)
    rw [fillTokens_of_tidy orderFree orderPlain tidy, TemplatePiece.fill_of_perm perm distinct]
    rfl
  · have again := fillTokens_of_tidy free plainFields filledTidy
    have same : TemplatePiece.fill entity.fields ∘ TemplatePiece.fill entity.fields =
        TemplatePiece.fill entity.fields := funext (TemplatePiece.fill_fill entity.fields)
    rw [List.map_map, same] at again
    exact again

/-- A film whose title is written like a token. -/
def Movie.quoting : Movie :=
  { imdbId := "tt1", title := "\x7b\x7b MOVIE.PLOT \x7d\x7d", overview := "a\n& b" }

/-- Tokens of this film next to each other, one of another kind, and loose braces. -/
def TemplatePiece.crowded : List TemplatePiece :=
  [.token "MOVIE.PLOT", .token "MOVIE.PLOT_SIMPLE", .token "MOVIE.TITLE", .text " \x7d\x7d ",
    .token "TAG.NAME", .token "MOVIE.PLOT"]

theorem Movie.renderFields_quoting :
    (Entity.movie Movie.quoting).PlainVerbatim ∧ (∀ piece ∈ TemplatePiece.crowded, piece.Tidy) ∧
      renderFields (TemplatePiece.join TemplatePiece.crowded) (.movie Movie.quoting) =
        ("a<br />&amp; b&#123;&#123; MOVIE.PLOT \x7d\x7d \x7d\x7d \x7b\x7b TAG.NAME \x7d\x7d" ++
          "a<br />&amp; b" : Text) := by
  have plain : (Entity.movie Movie.quoting).PlainVerbatim := by
    refine ⟨by decide, by decide, ?_, ?_, ?_⟩
    · intro detail value known
      cases known
    · exact List.forall_mem_nil _
    · exact List.forall_mem_nil _
  have tidy : ∀ piece ∈ TemplatePiece.crowded, piece.Tidy := by decide
  refine ⟨plain, tidy, ?_⟩
  rw [(Entity.renderFields_eq_substitute plain tidy).1]
  decide +kernel

end MediaSite
