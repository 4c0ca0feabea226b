import MediaSite.Proofs.Template.Filling

namespace MediaSite

/-!
# Values in which no brace opens

Every form in which a field shows its value is plain: escaping takes the
braces out of free text, and dates, numbers and links have none.  The only
exceptions are the fields in `verbatimNames`, which show a text of the record
as it is.

`Entity.plain_of_not_verbatim` says this about all five tables of fields at
once.  A table is gone through field by field, each with the reason for it.
-/

open scoped Text
open Text (Plain)

/-! ## Forms of values -/

theorem plain_nil : Plain [] :=
  List.not_mem_nil

theorem plain_getD {α : Type} {show_ : α → Text} (plain : ∀ value, Plain (show_ value))
    (known : Option α) : Plain ((known.map show_).getD []) := by
  cases known with
  | none => exact plain_nil
  | some value => exact plain value

theorem plain_escapeChar (c : Char) : Plain (Html.escapeChar c) := by
  unfold Html.escapeChar Plain
  split
  · decide
  · decide
  · decide
  · decide
  · decide
  · rename_i other
    intro member
    exact other (List.mem_singleton.mp member).symm

/-- An escaped text is plain, whatever the text was. -/
theorem plain_escape (text : Text) : Plain (Html.escape text) :=
  Text.Plain.flatMap fun c _ => plain_escapeChar c

theorem plain_breakLines {text : Text} (plain : Plain text) : Plain (Html.breakLines text) := by
  apply Text.Plain.flatMap
  intro c member
  by_cases lineEnd : c = '\n'
  · rw [if_pos lineEnd]
    decide
  · rw [if_neg lineEnd]
    intro brace
    exact plain (List.mem_singleton.mp brace ▸ member)

theorem plain_escapeLines (text : Text) : Plain (Html.escapeLines text) :=
  plain_breakLines (plain_escape text)

theorem plain_escapeList (texts : List Text) : Plain (Html.escapeList texts) :=
  plain_escape _

theorem plain_ofNat (n : Nat) : Plain (Text.ofNat n) := by
  intro member
  have digit := Nat.isDigit_of_mem_toDigits (by decide) (by decide) member
  exact absurd digit (by decide)

theorem plain_padLeft {text : Text} (plain : Plain text) {fill : Char} (other : fill ≠ '\x7b')
    (width : Nat) : Plain (Text.padLeft width fill text) := by
  apply Text.Plain.append _ plain
  intro member
  exact other (List.eq_of_mem_replicate member).symm

theorem plain_cons {c : Char} (other : c ≠ '\x7b') {text : Text} (plain : Plain text) :
    Plain (c :: text) := by
  intro member
  rcases List.mem_cons.mp member with same | later
  · exact other same.symm
  · exact plain later

theorem plain_yearText (year : Int) : Plain (Date.yearText year) := by
  have digits : Plain (Text.padLeft 4 '0' (Text.ofNat year.natAbs)) :=
    plain_padLeft (plain_ofNat _) (by decide) 4
  unfold Date.yearText
  split
  · exact digits
  · apply plain_cons _ digits
    split <;> decide

theorem plain_twoDigits (n : Nat) : Plain (Date.twoDigits n) :=
  plain_padLeft (plain_ofNat n) (by decide) 2

theorem plain_date (date : Date) : Plain date.toText :=
  ((((plain_yearText date.year).append (by decide)).append (plain_twoDigits date.month)).append
    (by decide)).append (plain_twoDigits date.day)

theorem plain_minute (moment : DateTime) : Plain moment.toMinuteText :=
  ((((plain_date moment.date).append (by decide)).append (plain_twoDigits moment.hour)).append
    (by decide)).append (plain_twoDigits moment.minute)

theorem plain_withPoint (places n : Nat) : Plain (Decimal.withPoint places n) := by
  have digits : Plain (Text.padLeft (places + 1) '0' (Text.ofNat n)) :=
    plain_padLeft (plain_ofNat n) (by decide) (places + 1)
  unfold Decimal.withPoint
  split
  · exact digits
  · apply Text.Plain.append
    · exact fun member => digits (List.mem_of_mem_take member)
    · exact plain_cons (by decide) fun member => digits (List.mem_of_mem_drop member)

theorem plain_fixed (places : Nat) (value : Float) : Plain (Decimal.fixed places value) := by
  unfold Decimal.fixed
  split
  · apply Text.Plain.append _ (plain_withPoint places _)
    split <;> decide
  · split
    · decide
    · split <;> decide

theorem plain_showDate (date : Option Date) : Plain (showDate date) :=
  plain_getD plain_date date

theorem plain_showYear (date : Option Date) : Plain (showYear date) := by
  apply plain_getD
  intro date
  exact plain_yearText date.year

theorem plain_showMoment (moment : Option DateTime) : Plain (showMoment moment) :=
  plain_getD plain_minute moment

theorem plain_showRating (ratings : List Rating) : Plain (showRating ratings) := by
  cases ratings with
  | nil => decide
  | cons rating => exact plain_fixed 1 rating.value

theorem plain_showVotes (ratings : List Rating) : Plain (showVotes ratings) := by
  cases ratings with
  | nil => decide
  | cons rating => exact plain_ofNat rating.votes.toNat

theorem plain_showPadded (number : UInt16) : Plain (showPadded number) :=
  plain_padLeft (plain_ofNat number.toNat) (by decide) 2

theorem plain_pageLink (kind : Kind) (id : UInt64) : Plain (pageLink kind id) := by
  have link (directory : Text) (plain : Plain directory) :
      Plain (directory ++ "/" ++ Text.ofNat id.toNat ++ ".html") :=
    ((plain.append (by decide)).append (plain_ofNat id.toNat)).append (by decide)
  cases kind with
  | movie => exact link "movies" (by decide)
  | tvShow => exact link "tvshows" (by decide)
  | season => exact plain_nil
  | episode => exact link "episodes" (by decide)
  | concert => exact link "concerts" (by decide)

theorem plain_linkStart (depth : PageDepth) : Plain depth.linkStart := by
  cases depth <;> decide

theorem plain_label (label : ColorLabel) : Plain label.shown := by
  cases label <;> decide

/-! ## Tables -/

/-- The fields that show a text of the record as it is. -/
def verbatimNames : List Text :=
  "MOVIE.IMDB_ID" :: "MOVIE.TMDB_ID" :: "TVSHOW.IMDB_ID" :: StreamDetails.fields.map (·.name)

/-- A field is plain for every record, or it is shown as it is. -/
def PlainOrVerbatim {α : Type} (field : Field α) : Prop :=
  field.name ∈ verbatimNames ∨ ∀ record, Plain (field.value record)

theorem Movie.plain_fields : ∀ field ∈ Movie.fields, PlainOrVerbatim field := by
  simp only [Movie.fields, List.forall_mem_cons]
  refine ⟨.inr fun movie => plain_ofNat _, .inr fun movie => plain_pageLink .movie movie.id,
    .inl List.mem_cons_self, .inl (List.mem_cons_of_mem _ List.mem_cons_self),
    .inr fun movie => plain_escape _, .inr fun movie => plain_showYear _,
    .inr fun movie => plain_escape _,
    .inr fun movie => plain_escapeLines _, .inr fun movie => plain_escapeLines _,
    .inr fun movie => plain_escape _, .inr fun movie => plain_escape _,
    .inr fun movie => plain_escapeList _, .inr fun movie => plain_escapeList _,
    .inr fun movie => plain_escapeList _, .inr fun movie => plain_escapeList _,
    .inr fun movie => plain_escape _, .inr fun movie => plain_escape _,
    .inr fun movie => plain_escape _, .inr fun movie => plain_escape _,
    .inr fun movie => plain_label _, .inr fun movie => plain_showRating _,
    .inr fun movie => plain_showVotes _, .inr fun movie => plain_ofNat _,
    .inr fun movie => plain_ofNat _, .inr fun movie => plain_showMoment _,
    .inr fun movie => plain_showMoment _, .inr fun movie => plain_showMoment _,
    .inr fun movie => plain_getD (fun _ => plain_escape _) _,
    .inr fun movie => plain_getD (fun _ => plain_escape _) _, List.forall_mem_nil _⟩

theorem TvShow.plain_fields : ∀ field ∈ TvShow.fields, PlainOrVerbatim field := by
  simp only [TvShow.fields, List.forall_mem_cons]
  refine ⟨.inr fun item => plain_ofNat _, .inr fun item => plain_pageLink .tvShow item.id,
    .inl (List.mem_cons_of_mem _ (List.mem_cons_of_mem _ List.mem_cons_self)),
    .inr fun item => plain_escape _, .inr fun item => plain_showRating _,
    .inr fun item => plain_showVotes _, .inr fun item => plain_escape _,
    .inr fun item => plain_showDate _, .inr fun item => plain_escape _,
    .inr fun item => plain_escapeLines _, .inr fun item => plain_escapeList _,
    .inr fun item => plain_escapeList _, List.forall_mem_nil _⟩

theorem plain_seasonFields : ∀ field ∈ seasonFields, PlainOrVerbatim field := by
  simp only [seasonFields, List.forall_mem_cons]
  exact ⟨.inr fun season => plain_ofNat _, List.forall_mem_nil _⟩

theorem TvShow.plain_episodeFields : ∀ field ∈ TvShow.episodeFields, PlainOrVerbatim field := by
  simp only [TvShow.episodeFields, List.forall_mem_cons]
  exact ⟨.inr fun item => plain_escape _,
    .inr fun item => (plain_linkStart _).append (plain_pageLink _ _), List.forall_mem_nil _⟩

theorem Episode.plain_fields : ∀ field ∈ Episode.fields, PlainOrVerbatim field := by
  simp only [Episode.fields, List.forall_mem_cons]
  refine ⟨.inr fun episode => (plain_linkStart _).append (plain_pageLink _ _),
    .inr fun episode => plain_escape _, .inr fun episode => plain_showPadded _,
    .inr fun episode => plain_showPadded _, .inr fun episode => plain_showRating _,
    .inr fun episode => plain_escape _, .inr fun episode => plain_showDate _,
    .inr fun episode => plain_showMoment _, .inr fun episode => plain_escape _,
    .inr fun episode => plain_escapeLines _, .inr fun episode => plain_escapeList _,
    .inr fun episode => plain_escapeList _, List.forall_mem_nil _⟩

theorem Concert.plain_fields : ∀ field ∈ Concert.fields, PlainOrVerbatim field := by
  simp only [Concert.fields, List.forall_mem_cons]
  refine ⟨.inr fun concert => plain_ofNat _, .inr fun concert => plain_pageLink .concert concert.id,
    .inr fun concert => plain_escape _, .inr fun concert => plain_escape _,
    .inr fun concert => plain_escape _, .inr fun concert => plain_escape _,
    .inr fun concert => plain_showRating _, .inr fun concert => plain_showYear _,
    .inr fun concert => plain_ofNat _, .inr fun concert => plain_escape _,
    .inr fun concert => plain_escape _, .inr fun concert => plain_ofNat _,
    .inr fun concert => plain_showMoment _, .inr fun concert => plain_escapeLines _,
    .inr fun concert => plain_escapeList _, .inr fun concert => plain_escapeList _,
    List.forall_mem_nil _⟩

theorem StreamDetails.plain_fields : ∀ field ∈ StreamDetails.fields, PlainOrVerbatim field :=
  fun _ member => .inl (List.mem_cons_of_mem _ (List.mem_cons_of_mem _
    (List.mem_cons_of_mem _ (List.mem_map_of_mem member))))

theorem plain_of_mem_bindFields {α : Type} {fields : List (Field α)} {record : α}
    (table : ∀ field ∈ fields, PlainOrVerbatim field) {item : Text × Text}
    (member : item ∈ bindFields fields record) : item.1 ∈ verbatimNames ∨ Plain item.2 := by
  rcases List.mem_map.mp member with ⟨field, inTable, same⟩
  rw [← same]
  rcases table field inTable with verbatim | plain
  · exact .inl verbatim
  · exact .inr (plain record)

/-- Of the values of an entity only those shown as they are can hold an opening brace. -/
theorem Entity.plain_of_not_verbatim {entity : Entity} {item : Text × Text}
    (member : item ∈ entity.fields) : item.1 ∈ verbatimNames ∨ Plain item.2 := by
  cases entity with
  | movie record =>
      rcases List.mem_append.mp member with own | details
      · exact plain_of_mem_bindFields Movie.plain_fields own
      · exact plain_of_mem_bindFields StreamDetails.plain_fields details
  | tvShow item => exact plain_of_mem_bindFields TvShow.plain_fields member
  | season item number => exact plain_of_mem_bindFields plain_seasonFields member
  | episode item record =>
      rcases List.mem_append.mp member with other | details
      · rcases List.mem_append.mp other with shared | own
        · exact plain_of_mem_bindFields TvShow.plain_episodeFields shared
        · exact plain_of_mem_bindFields Episode.plain_fields own
      · exact plain_of_mem_bindFields StreamDetails.plain_fields details
  | concert record =>
      rcases List.mem_append.mp member with own | details
      · exact plain_of_mem_bindFields Concert.plain_fields own
      · exact plain_of_mem_bindFields StreamDetails.plain_fields details

/-! ## Names -/

/-- No name of a field has a brace or a line end, and no kind has two fields of one name. -/
theorem Kind.fieldNames_spec (kind : Kind) :
    (∀ name ∈ kind.fieldNames, Token.BraceFree name ∧ '\n' ∉ name) ∧ kind.fieldNames.Nodup := by
  cases kind <;> decide +kernel

theorem Entity.name_mem_fieldNames {entity : Entity} {item : Text × Text}
    (member : item ∈ entity.fields) : item.1 ∈ entity.kind.fieldNames := by
  rw [← entity.map_fst_fields]
  exact List.mem_map_of_mem member

theorem Entity.braceFree_fields (entity : Entity) : BraceFreeNames entity.fields :=
  fun item member =>
    ((Kind.fieldNames_spec entity.kind).1 item.1 (Entity.name_mem_fieldNames member)).1

theorem Entity.line_fields (entity : Entity) : ∀ item ∈ entity.fields, '\n' ∉ item.1 :=
  fun item member =>
    ((Kind.fieldNames_spec entity.kind).1 item.1 (Entity.name_mem_fieldNames member)).2

theorem Entity.nodup_fields (entity : Entity) : (entity.fields.map Prod.fst).Nodup := by
  rw [entity.map_fst_fields]
  exact (Kind.fieldNames_spec entity.kind).2

end MediaSite
