import MediaSite.Proofs.Toml.Merge
import MediaSite.Site.Settings

namespace MediaSite.Settings

/-!
# Layers of settings

Of each setting the last layer that gives it decides, and the defaults where none does; what
other layers give is of no consequence, whether it could be read or not.  A key that is not
known, in whichever layer, is found in the layers when they are merged, and refused.  So layers
have a result exactly if there are no other keys in them and the values that decide are good ones
(`Settings.resolve_eq_ok_iff`).

This is so of layers in which the settings stand where they belong: the tables are tables, and
no table stands in the place of a setting, where merging would mix it with another one.
-/

open Toml
open scoped Text

variable {layer below above : Toml} {layers : List Toml} {settings : Settings}
  {place : Text × Text}

/-! ## Places -/

/-- The place of the quality of photographs: a table and a key in it. -/
def qualityPlace : Text × Text :=
  ("images", "jpeg_quality")

/-- The place of the way to match blocks. -/
def matchPlace : Text × Text :=
  ("templates", "block_match")

/-- The place of the sections to export. -/
def sectionsPlace : Text × Text :=
  ("export", "sections")

/-- The places of the settings. -/
def places : List (Text × Text) :=
  [qualityPlace, matchPlace, sectionsPlace]

/-- A layer in which the tables of the settings are tables, and the settings are none. -/
structure Formed (layer : Toml) : Prop where
  isTable : layer.isTable = true
  parts : ∀ place ∈ places, ∀ part, layer.get? place.1 = some part → part.isTable = true
  values : ∀ place ∈ places, ∀ value, layer.at? [place.1, place.2] = some value →
    value.isTable = false

/-- A layer with no keys other than those of the settings. -/
structure Known (layer : Toml) : Prop where
  parts : ∀ name, layer.get? name ≠ none → name ∈ places.map Prod.fst
  keys : ∀ place ∈ places, ∀ name, layer.at? [place.1, name] ≠ none → name = place.2

/-- The value that decides on a setting: that of the last layer that has one, or the default. -/
def effective (layers : List Toml) (place : Text × Text) : Option Toml :=
  (layers.filterMap (at? [place.1, place.2])).getLast?.or (base.at? [place.1, place.2])

/-! ## Merging layers -/

theorem Formed.tablesAlong (formed : Formed layer) (member : place ∈ places) (name : Text) :
    TablesAlong [place.1, name] layer :=
  ⟨formed.isTable, fun part found => ⟨formed.parts place member part found, fun _ _ => trivial⟩⟩

theorem Formed.at?_merge (formed : Formed below) (formedAbove : Formed above)
    (member : place ∈ places) : (merge below above).at? [place.1, place.2] =
      (above.at? [place.1, place.2]).or (below.at? [place.1, place.2]) := by
  rw [Toml.at?_merge (formed.tablesAlong member _) (formedAbove.tablesAlong member _)]
  cases high : above.at? [place.1, place.2] with
  | none => rw [Option.merge_none_right, Option.none_or]
  | some value =>
      have noTable := formedAbove.values place member value high
      cases below.at? [place.1, place.2] with
      | none => rw [Option.merge_none_left, Option.some_or]
      | some other => rw [Option.merge_some_some, merge_of_noTable noTable, Option.some_or]

theorem Formed.merge (formed : Formed below) (formedAbove : Formed above) :
    Formed (merge below above) where
  isTable := (isTable_merge below above).trans formedAbove.isTable
  parts := fun place member part found =>
    (((formed.tablesAlong member place.2).merge (formedAbove.tablesAlong member place.2)).2 part
      found).1
  values := fun place member value found => by
    rw [formed.at?_merge formedAbove member, Option.or_eq_some_iff] at found
    rcases found with found | ⟨_, found⟩
    · exact formedAbove.values place member value found
    · exact formed.values place member value found

theorem known_merge_iff (formed : Formed below) (formedAbove : Formed above) :
    Known (merge below above) ↔ Known below ∧ Known above := by
  have parts (name : Text) : (merge below above).get? name ≠ none ↔
      below.get? name ≠ none ∨ above.get? name ≠ none := by
    rw [get?_merge formed.isTable formedAbove.isTable, Ne, Option.merge_eq_none_iff,
      not_and_or]
  have keys (place : Text × Text) (member : place ∈ places) (name : Text) :=
    at?_merge_ne_none (formed.tablesAlong member name) (formedAbove.tablesAlong member name)
  constructor
  · intro known
    exact ⟨⟨fun name here => known.parts name ((parts name).mpr (.inl here)),
        fun place member name here =>
          known.keys place member name ((keys place member name).mpr (.inl here))⟩,
      ⟨fun name here => known.parts name ((parts name).mpr (.inr here)),
        fun place member name here =>
          known.keys place member name ((keys place member name).mpr (.inr here))⟩⟩
  · rintro ⟨known, knownAbove⟩
    exact ⟨fun name here => ((parts name).mp here).elim (known.parts name) (knownAbove.parts name),
      fun place member name here => ((keys place member name).mp here).elim
        (known.keys place member name) (knownAbove.keys place member name)⟩

/-- A whole row of layers, laid over a value one after the other. -/
theorem foldl_merge (formed : Formed below) (others : ∀ layer ∈ layers, Formed layer) :
    Formed (layers.foldl Toml.merge below) ∧
      (Known (layers.foldl Toml.merge below) ↔ Known below ∧ ∀ layer ∈ layers, Known layer) ∧
      ∀ place ∈ places, (layers.foldl Toml.merge below).at? [place.1, place.2] =
        (layers.filterMap (at? [place.1, place.2])).getLast?.or
          (below.at? [place.1, place.2]) := by
  induction layers generalizing below with
  | nil => exact ⟨formed, (and_iff_left (List.forall_mem_nil _)).symm, fun _ _ => rfl⟩
  | cons layer layers inductionHypothesis =>
      rcases List.forall_mem_cons.mp others with ⟨first, later⟩
      rcases inductionHypothesis (formed.merge first) later with ⟨merged, known, values⟩
      refine ⟨merged, ?_, fun place member => ?_⟩
      · rw [List.foldl_cons, known, known_merge_iff formed first, List.forall_mem_cons, and_assoc]
      · rw [List.foldl_cons, values place member, formed.at?_merge first member,
          List.filterMap_cons]
        cases layer.at? [place.1, place.2] with
        | none => rw [Option.none_or]
        | some value =>
            rw [List.getLast?_cons, Option.some_or]
            cases (layers.filterMap (at? [place.1, place.2])).getLast? <;> rfl

/-! ## The defaults -/

theorem get?_table_ne_none_iff {entries : List (Text × Toml)} {name : Text} :
    (Toml.table entries).get? name ≠ none ↔ name ∈ entries.map Prod.fst := by
  rw [get?, Ne, lookup_eq_none_iff, not_not]

theorem at?_pair (part key : Text) (value : Toml) :
    value.at? [part, key] = (value.get? part).bind (get? key) := by
  rw [at?]
  refine Option.bind_congr fun inner _ => ?_
  rw [at?]
  exact Option.bind_fun_some _

theorem formed_base : Formed base := by
  refine ⟨rfl, ?_, ?_⟩
  · simp only [places, List.forall_mem_cons]
    exact ⟨fun _ found => by cases found; rfl, fun _ found => by cases found; rfl,
      fun _ found => by cases found; rfl, List.forall_mem_nil _⟩
  · simp only [places, List.forall_mem_cons]
    exact ⟨fun _ found => by cases found; rfl, fun _ found => by cases found; rfl,
      fun _ found => by cases found; rfl, List.forall_mem_nil _⟩

theorem known_base : Known base := by
  refine ⟨fun name here => get?_table_ne_none_iff.mp here, ?_⟩
  have single (key : Text) (value : Toml) (name : Text)
      (here : (Toml.table [(key, value)]).get? name ≠ none) : name = key :=
    List.mem_singleton.mp (get?_table_ne_none_iff.mp here)
  simp only [places, List.forall_mem_cons, at?_pair]
  exact ⟨fun name here => single _ _ name here, fun name here => single _ _ name here,
    fun name here => single _ _ name here, List.forall_mem_nil _⟩

/-! ## Reading the settings -/

theorem fields?_table_eq_some_iff {surplus : Surplus} {names : List Text}
    {entries parts : List (Text × Toml)} : fields? surplus names (.table entries) = some parts ↔
      (∀ name, (Toml.table entries).get? name ≠ none → name ∈ names) ∧ entries = parts := by
  have all : (entries.all fun entry => names.contains entry.1) = true ↔
      ∀ name, (Toml.table entries).get? name ≠ none → name ∈ names := by
    simp only [get?_table_ne_none_iff, List.all_eq_true, List.contains_iff_mem,
      List.forall_mem_map]
  rw [fields?]
  split
  · rename_i known
    rw [Option.some.injEq, and_iff_right (all.mp known)]
  · rename_i unknown
    exact ⟨nofun, fun known => absurd (all.mpr known.1) unknown⟩

/-- A setting that is there is read if no other key is in its table, and as its value. -/
theorem field_eq_some_iff {α : Type} {surplus : Surplus} {parts : List (Text × Toml)}
    {decode : Decoder α} {missing result : α} {value : Toml} (formed : Formed (.table parts))
    (member : place ∈ places) (found : (Toml.table parts).at? [place.1, place.2] = some value) :
    field parts place.1 (fun part => do
        let fields ← fields? surplus [place.2] part
        field fields place.2 decode missing) missing = some result ↔
      (∀ name, (Toml.table parts).at? [place.1, name] ≠ none → name = place.2) ∧
        decode value = some result := by
  rw [at?_pair, Option.bind_eq_some_iff] at found
  rcases found with ⟨part, here, inside⟩
  have isTable := formed.parts place member part here
  cases part <;> cases isTable
  rename_i entries
  have known (name : Text) : (Toml.table parts).at? [place.1, name] ≠ none ↔
      (Toml.table entries).get? name ≠ none := by rw [at?_pair, here, Option.bind_some]
  simp only [known]
  rw [get?] at here inside
  rw [field, here]
  simp only [Option.bind_eq_bind, Option.bind_eq_some_iff, fields?_table_eq_some_iff,
    List.mem_singleton]
  constructor
  · rintro ⟨fields, ⟨single, rfl⟩, read⟩
    rw [field, inside] at read
    exact ⟨single, read⟩
  · rintro ⟨single, read⟩
    refine ⟨entries, ⟨single, rfl⟩, ?_⟩
    rw [field, inside]
    exact read

/-- What is read of a layer that gives all settings. -/
theorem ofToml?_eq_some_iff {surplus : Surplus} {quality blocks sections : Toml}
    (formed : Formed layer)
    (qualityThere : layer.at? [qualityPlace.1, qualityPlace.2] = some quality)
    (blocksThere : layer.at? [matchPlace.1, matchPlace.2] = some blocks)
    (sectionsThere : layer.at? [sectionsPlace.1, sectionsPlace.2] = some sections) :
    ofToml? surplus layer = some settings ↔ Known layer ∧
      asNatural UInt32.size quality = some settings.jpegQuality ∧
      asNamed blockMatchOfName? blocks = some settings.blockMatch ∧
      asList (asNamed Section.ofName?) sections = some settings.sections := by
  have isTable := formed.isTable
  cases layer <;> cases isTable
  rename_i parts
  rcases settings with ⟨jpegQuality, blockMatch, parts'⟩
  constructor
  · intro read
    rcases Option.bind_eq_some_iff.mp read with ⟨_, first, read⟩
    rcases fields?_table_eq_some_iff.mp first with ⟨known, rfl⟩
    rcases Option.bind_eq_some_iff.mp read with ⟨_, second, read⟩
    rcases Option.bind_eq_some_iff.mp read with ⟨_, third, read⟩
    rcases Option.bind_eq_some_iff.mp read with ⟨_, fourth, read⟩
    cases read
    have one := (field_eq_some_iff formed (by decide) qualityThere).mp second
    have two := (field_eq_some_iff formed (by decide) blocksThere).mp third
    have three := (field_eq_some_iff formed (by decide) sectionsThere).mp fourth
    refine ⟨⟨known, ?_⟩, one.2, two.2, three.2⟩
    simp only [places, List.forall_mem_cons]
    exact ⟨one.1, two.1, three.1, List.forall_mem_nil _⟩
  · rintro ⟨known, one, two, three⟩
    have alone (place : Text × Text) (member : place ∈ places) := known.keys place member
    refine Option.bind_eq_some_iff.mpr
      ⟨_, fields?_table_eq_some_iff.mpr ⟨known.parts, rfl⟩, ?_⟩
    refine Option.bind_eq_some_iff.mpr
      ⟨_, (field_eq_some_iff formed (by decide) qualityThere).mpr ⟨alone _ (by decide), one⟩, ?_⟩
    refine Option.bind_eq_some_iff.mpr
      ⟨_, (field_eq_some_iff formed (by decide) blocksThere).mpr ⟨alone _ (by decide), two⟩, ?_⟩
    exact Option.bind_eq_some_iff.mpr
      ⟨_, (field_eq_some_iff formed (by decide) sectionsThere).mpr ⟨alone _ (by decide), three⟩, rfl⟩

theorem fault?_eq_none_iff : settings.fault? = none ↔
    (1 ≤ settings.jpegQuality ∧ settings.jpegQuality ≤ 100) ∧ settings.sections ≠ [] ∧
      ∀ part ∈ settings.sections, part.isList = true := by
  unfold fault?
  split
  · rename_i outside
    refine ⟨nofun, fun ⟨inRange, _⟩ => ?_⟩
    simp only [Bool.or_eq_true, decide_eq_true_eq] at outside
    omega
  · rename_i inside
    have inRange : 1 ≤ settings.jpegQuality ∧ settings.jpegQuality ≤ 100 := by
      simp only [Bool.or_eq_true, decide_eq_true_eq] at inside
      omega
    rw [and_iff_right inRange]
    split
    · rename_i empty
      exact ⟨nofun, fun ⟨filled, _⟩ => absurd (List.isEmpty_iff.mp empty) filled⟩
    · rename_i filled
      rw [List.isEmpty_iff] at filled
      rw [and_iff_right filled, Option.map_eq_none_iff, List.find?_eq_none]
      simp

/-! ## The result -/

theorem resolve_eq_ok_iff_read : resolve layers = .ok settings ↔
    ofToml? .refused (layers.foldl Toml.merge base) = some settings ∧ settings.fault? = none := by
  unfold resolve
  split
  · rename_i unread
    rw [unread]
    exact ⟨nofun, fun read => nomatch read.1⟩
  · rename_i given read
    rw [read]
    split
    · rename_i fault found
      refine ⟨nofun, ?_⟩
      rintro ⟨⟨⟩, sound⟩
      cases found.symm.trans sound
    · rename_i sound
      constructor
      · rintro ⟨⟩
        exact ⟨rfl, sound⟩
      · rintro ⟨⟨⟩, _⟩
        rfl

/-- Layers have a result exactly if no other keys are in them and the values that decide can be
read and are in order; and then it is these values. -/
theorem resolve_eq_ok_iff (formed : ∀ layer ∈ layers, Formed layer) :
    resolve layers = .ok settings ↔ (∀ layer ∈ layers, Known layer) ∧
      (effective layers qualityPlace).bind (asNatural UInt32.size) = some settings.jpegQuality ∧
      (effective layers matchPlace).bind (asNamed blockMatchOfName?) = some settings.blockMatch ∧
      (effective layers sectionsPlace).bind (asList (asNamed Section.ofName?)) =
        some settings.sections ∧
      (1 ≤ settings.jpegQuality ∧ settings.jpegQuality ≤ 100) ∧ settings.sections ≠ [] ∧
        ∀ part ∈ settings.sections, part.isList = true := by
  rcases foldl_merge formed_base formed with ⟨merged, known, values⟩
  have given (place : Text × Text) (member : place ∈ places) : ∃ value,
      (layers.foldl Toml.merge base).at? [place.1, place.2] = some value ∧
        effective layers place = some value := by
    have default : base.at? [place.1, place.2] ≠ none := by
      revert place
      simp only [places, List.forall_mem_cons]
      exact ⟨nofun, nofun, nofun, List.forall_mem_nil _⟩
    rw [values place member]
    rcases Option.ne_none_iff_exists'.mp default with ⟨value, found⟩
    rw [effective, found]
    cases (layers.filterMap (at? [place.1, place.2])).getLast? with
    | none => exact ⟨value, rfl, rfl⟩
    | some last => exact ⟨last, rfl, rfl⟩
  rcases given qualityPlace (by decide) with ⟨quality, qualityThere, qualityLast⟩
  rcases given matchPlace (by decide) with ⟨blocks, blocksThere, blocksLast⟩
  rcases given sectionsPlace (by decide) with ⟨sections, sectionsThere, sectionsLast⟩
  have reading : ofToml? .refused (layers.foldl Toml.merge base) = some settings ↔ _ :=
    ofToml?_eq_some_iff merged qualityThere blocksThere sectionsThere
  rw [resolve_eq_ok_iff_read, reading, fault?_eq_none_iff, known, and_iff_right known_base,
    qualityLast, blocksLast, sectionsLast]
  simp only [Option.bind_some, and_assoc]

/-- A layer that gives only the quality. -/
def qualityLayer (value : Toml) : Toml :=
  .table [("images", .table [("jpeg_quality", value)])]

theorem formed_qualityLayer {value : Toml} (noTable : value.isTable = false) :
    Formed (qualityLayer value) := by
  refine ⟨rfl, ?_, ?_⟩
  · simp only [places, List.forall_mem_cons]
    exact ⟨fun _ found => by cases found; rfl, nofun, nofun, List.forall_mem_nil _⟩
  · simp only [places, List.forall_mem_cons]
    exact ⟨fun _ found => by cases found; exact noTable, nofun, nofun, List.forall_mem_nil _⟩

theorem known_qualityLayer (value : Toml) : Known (qualityLayer value) := by
  refine ⟨fun name here => ?_, ?_⟩
  · have single := List.mem_singleton.mp (get?_table_ne_none_iff.mp here)
    exact single ▸ List.mem_cons_self
  · simp only [places, List.forall_mem_cons, at?_pair]
    exact ⟨fun name here => List.mem_singleton.mp (get?_table_ne_none_iff.mp here),
      fun name here => absurd rfl here, fun name here => absurd rfl here, List.forall_mem_nil _⟩

/-- The quality in the first layer is no number, but the second one replaces it. -/
theorem resolve_replaced_quality :
    resolve [qualityLayer (.string "high"), qualityLayer (.integer 75)] =
      .ok { jpegQuality := 75 } := by
  refine (resolve_eq_ok_iff ?_).mpr ⟨?_, rfl, rfl, rfl, by decide, by decide, by decide⟩
  · simp only [List.forall_mem_cons]
    exact ⟨formed_qualityLayer rfl, formed_qualityLayer rfl, List.forall_mem_nil _⟩
  · simp only [List.forall_mem_cons]
    exact ⟨known_qualityLayer _, known_qualityLayer _, List.forall_mem_nil _⟩

end MediaSite.Settings
