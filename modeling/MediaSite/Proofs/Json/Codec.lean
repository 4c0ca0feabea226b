import MediaSite.Proofs.Json.Numbers
import MediaSite.Proofs.Text.Lookup

namespace MediaSite.Json

/-!
# Reading what was written

A codec says how the values of a type are read and written, and which values can be read at all:
those are read from what is written for them.  Not every value has to be one of them, since no
codec reads an infinite double.  A field of a record has a codec and a value that stands for a
missing one.  A list, a value that may be null and a table can be read if what they hold can be.
-/

open scoped Text

variable {α κ : Type}

/-- How values of a type are read and written, and which of them can be read. -/
structure Codec (α : Type) where
  decode : Decoder α
  encode : α → Json
  Readable : α → Prop
  readable : ∀ json value, decode json = some value → Readable value
  again : ∀ value, Readable value → decode (encode value) = some value

/-- How a field is read and written, and the value that stands for a missing one. -/
structure FieldCodec (α : Type) extends Codec α where
  missing : α
  missing_readable : Readable missing

/-! ## Values that can all be read -/

/-- Values of which each is read from what is written for it. -/
def Codec.ofAll (decode : Decoder α) (encode : α → Json)
    (again : ∀ value, decode (encode value) = some value) : Codec α where
  decode := decode
  encode := encode
  Readable := fun _ => True
  readable := fun _ _ _ => trivial
  again := fun value _ => again value

/-- Fields that can hold any value. -/
def FieldCodec.ofAll (decode : Decoder α) (encode : α → Json)
    (again : ∀ value, decode (encode value) = some value) (missing : α) : FieldCodec α where
  toCodec := .ofAll decode encode again
  missing := missing
  missing_readable := trivial

@[simp]
theorem Codec.readable_ofAll {decode : Decoder α} {encode : α → Json}
    (again : ∀ value, decode (encode value) = some value) (value : α) :
    (Codec.ofAll decode encode again).Readable value :=
  trivial

@[simp]
theorem FieldCodec.readable_ofAll {decode : Decoder α} {encode : α → Json}
    (again : ∀ value, decode (encode value) = some value) (missing value : α) :
    (FieldCodec.ofAll decode encode again missing).Readable value :=
  trivial

-- Each law is stated as its codec needs it: rewriting with `readable_ofAll` does not look through
-- the readers when it compares the laws.

theorem asText_string (text : Text) : asText (.string text) = some text := rfl

theorem asBool_bool (value : Bool) : asBool (.bool value) = some value := rfl

theorem asText_bind {toText : α → Text} {ofText? : Text → Option α}
    (found : ∀ value, ofText? (toText value) = some value) (value : α) :
    (asText (.string (toText value))).bind ofText? = some value :=
  found value

theorem asNamed_string {name : α → Text} {ofName? : Text → Option α}
    (found : ∀ value, ofName? (name value) = some value) (value : α) :
    asNamed ofName? (.string (name value)) = some value :=
  found value

/-- Values that are written as a text and found by it. -/
abbrev Codec.written (toText : α → Text) (ofText? : Text → Option α)
    (found : ∀ value, ofText? (toText value) = some value) : Codec α :=
  .ofAll (fun json => (asText json).bind ofText?) (fun value => .string (toText value))
    (asText_bind found)

theorem Codec.written_null {toText : α → Text} {ofText? : Text → Option α}
    (found : ∀ value, ofText? (toText value) = some value) :
    (Codec.written toText ofText? found).decode .null = none := rfl

namespace FieldCodec

/-- Texts. -/
abbrev text : FieldCodec Text :=
  .ofAll asText .string asText_string []

theorem text_null : text.decode .null = none := rfl

/-- Truth values. -/
abbrev bool : FieldCodec Bool :=
  .ofAll asBool .bool asBool_bool false

/-- Natural numbers of 64 bits. -/
abbrev uint64 : FieldCodec UInt64 :=
  .ofAll asUInt64 (fun value => ofNatural value.toNat) asUInt64_ofNatural 0

/-- Natural numbers of 32 bits. -/
abbrev uint32 : FieldCodec UInt32 :=
  .ofAll asUInt32 (fun value => ofNatural value.toNat) asUInt32_ofNatural 0

/-- Natural numbers of 16 bits. -/
abbrev uint16 : FieldCodec UInt16 :=
  .ofAll asUInt16 (fun value => ofNatural value.toNat) asUInt16_ofNatural 0

/-- Enumerated values. -/
abbrev named (name : α → Text) (ofName? : Text → Option α)
    (found : ∀ value, ofName? (name value) = some value) (missing : α) : FieldCodec α :=
  .ofAll (asNamed ofName?) (fun value => .string (name value)) (asNamed_string found) missing

end FieldCodec

/-! ## Doubles -/

/-- Doubles, of which the finite ones can be read. -/
def FieldCodec.float : FieldCodec Float where
  decode := asFloat
  encode := .real
  Readable := fun value => value.isFinite = true
  readable := fun _ _ => isFinite_of_asFloat
  again := fun _ finite => if_pos finite
  missing := 0
  missing_readable := by decide

@[simp]
theorem FieldCodec.readable_float (value : Float) :
    FieldCodec.float.Readable value ↔ value.isFinite = true :=
  .rfl

/-! ## Values in lists, and values that may be null -/

theorem readable_of_mapM (codec : Codec α) {elements : List Json} {values : List α}
    (read : elements.mapM codec.decode = some values) : ∀ value ∈ values, codec.Readable value := by
  induction elements generalizing values with
  | nil =>
      cases read
      exact List.forall_mem_nil _
  | cons element elements inductionHypothesis =>
      simp only [List.mapM_cons, Option.bind_eq_bind, Option.bind_eq_some_iff] at read
      rcases read with ⟨value, first, others, rest, ⟨⟩⟩
      exact List.forall_mem_cons.mpr
        ⟨codec.readable element value first, inductionHypothesis rest⟩

theorem mapM_decode_encode (codec : Codec α) {values : List α}
    (readable : ∀ value ∈ values, codec.Readable value) :
    (values.map codec.encode).mapM codec.decode = some values := by
  induction values with
  | nil => rfl
  | cons value values inductionHypothesis =>
      rcases List.forall_mem_cons.mp readable with ⟨first, rest⟩
      simp only [List.map_cons, List.mapM_cons, codec.again value first,
        inductionHypothesis rest, Option.bind_eq_bind, Option.bind_some]
      rfl

/-- Lists of values. -/
def FieldCodec.list (codec : Codec α) : FieldCodec (List α) where
  decode := asList codec.decode
  encode := ofList codec.encode
  Readable := fun values => ∀ value ∈ values, codec.Readable value
  readable := fun json values read => by
    cases json with
    | array elements => exact readable_of_mapM codec read
    | _ => cases read
  again := fun _ => mapM_decode_encode codec
  missing := []
  missing_readable := List.forall_mem_nil _

@[simp]
theorem FieldCodec.readable_list (codec : Codec α) (values : List α) :
    (FieldCodec.list codec).Readable values ↔ ∀ value ∈ values, codec.Readable value :=
  .rfl

theorem asOptional_of_ne_null {decode : Decoder α} {json : Json} (other : json ≠ .null) :
    asOptional decode json = (decode json).map some := by
  cases json with
  | null => exact absurd rfl other
  | _ => rfl

/-- Values that may be null; null itself is not read as one of them. -/
def FieldCodec.optional (codec : Codec α) (strict : codec.decode .null = none) :
    FieldCodec (Option α) where
  decode := asOptional codec.decode
  encode := ofOptional codec.encode
  Readable := fun known => ∀ value ∈ known, codec.Readable value
  readable := fun json known read value here => by
    cases here
    by_cases null : json = .null
    · rw [null] at read
      cases read
    · rw [asOptional_of_ne_null null] at read
      rcases Option.map_eq_some_iff.mp read with ⟨_, found, ⟨⟩⟩
      exact codec.readable json value found
  again := fun known readable => by
    cases known with
    | none => rfl
    | some value =>
        have again := codec.again value (readable value rfl)
        have other : codec.encode value ≠ .null := by
          intro null
          rw [null, strict] at again
          cases again
        show asOptional codec.decode (codec.encode value) = some (some value)
        rw [asOptional_of_ne_null other, again, Option.map_some]
  missing := none
  missing_readable := nofun

@[simp]
theorem FieldCodec.readable_optional (codec : Codec α) (strict : codec.decode .null = none)
    (known : Option α) :
    (FieldCodec.optional codec strict).Readable known ↔ ∀ value ∈ known, codec.Readable value :=
  .rfl

/-! ## Tables -/

/-- The keys of a table: all that there are, each with a name of its own. -/
structure Keys (all : List κ) (name : κ → Text) : Prop where
  complete : ∀ key, key ∈ all
  distinct : (all.map name).Nodup

variable {all : List κ} {name : κ → Text}

theorem find?_name (distinct : (all.map name).Nodup) {key : κ} (member : key ∈ all) :
    all.find? (name · == name key) = some key := by
  cases found : all.find? (name · == name key) with
  | none => exact absurd BEq.rfl (List.find?_eq_none.mp found key member)
  | some other =>
      have same : name other = name key := beq_iff_eq.mp (List.find?_some found :)
      rw [List.inj_on_of_nodup_map distinct (List.mem_of_find?_eq_some found) member same]

/-- Whatever a table holds has been read. -/
theorem read_of_mem_entries? {ofName? : Text → Option κ} {decode : Decoder α}
    {members : List (Text × Json)} {entries : List (κ × α)}
    (read : entries? ofName? decode members = some entries) {key : κ} {value : α}
    (member : (key, value) ∈ entries) : ∃ json, decode json = some value := by
  induction members generalizing entries with
  | nil =>
      cases read
      cases member
  | cons first members inductionHypothesis =>
      simp only [entries?, Option.bind_eq_bind, Option.bind_eq_some_iff] at read
      rcases read with ⟨firstKey, _, firstValue, found, others, rest, ⟨⟩⟩
      rcases List.mem_cons.mp member with same | later
      · cases same
        exact ⟨first.2, found⟩
      · exact inductionHypothesis rest later

/-- What a table holds, in the order of the keys. -/
def entriesOf (keys : List κ) (held : κ → Option α) : List (κ × α) :=
  keys.filterMap fun key => (held key).map fun value => (key, value)

theorem mem_entriesOf {keys : List κ} {held : κ → Option α} {key : κ} {value : α} :
    (key, value) ∈ entriesOf keys held ↔ key ∈ keys ∧ held key = some value := by
  rw [entriesOf, List.mem_filterMap]
  constructor
  · rintro ⟨other, member, shown⟩
    rcases Option.map_eq_some_iff.mp shown with ⟨_, found, ⟨⟩⟩
    exact ⟨member, found⟩
  · rintro ⟨member, found⟩
    exact ⟨key, member, by rw [found, Option.map_some]⟩

theorem keys_entriesOf_sublist (keys : List κ) (held : κ → Option α) :
    ((entriesOf keys held).map Prod.fst).Sublist keys := by
  induction keys with
  | nil => exact .slnil
  | cons key keys inductionHypothesis =>
      rw [entriesOf, List.filterMap_cons]
      cases held key with
      | none => exact .cons key inductionHypothesis
      | some value => exact .cons_cons key inductionHypothesis

theorem entries?_entriesOf {ofName? : Text → Option κ} {codec : Codec α} {held : κ → Option α}
    (readable : ∀ key, ∀ value ∈ held key, codec.Readable value)
    {keys : List κ} (named : ∀ key ∈ keys, ofName? (name key) = some key) :
    entries? ofName? codec.decode (keys.filterMap fun key =>
      (held key).map fun value => (name key, codec.encode value)) =
      some (entriesOf keys held) := by
  induction keys with
  | nil => rfl
  | cons key keys inductionHypothesis =>
      have rest := inductionHypothesis fun other member => named other (.tail key member)
      rw [entriesOf, List.filterMap_cons, List.filterMap_cons]
      cases found : held key with
      | none => exact rest
      | some value =>
          simp only [Option.map_some, entries?, Option.bind_eq_bind, Option.bind_some, rest,
            named key List.mem_cons_self, codec.again value (readable key value found)]
          rfl

variable [BEq κ] [LawfulBEq κ]

theorem lookup_entriesOf (keys : Keys all name) (held : κ → Option α) (key : κ) :
    (entriesOf all held).reverse.lookup key = held key := by
  have distinct : ((entriesOf all held).map Prod.fst).Nodup :=
    (keys.distinct.of_map name).sublist (keys_entriesOf_sublist all held)
  rw [lookup_of_perm (List.reverse_perm _) distinct]
  cases found : held key with
  | some value => exact lookup_of_mem distinct (mem_entriesOf.mpr ⟨keys.complete key, found⟩)
  | none =>
      rw [lookup_eq_none_iff]
      intro member
      rcases List.mem_map.mp member with ⟨⟨_, value⟩, inEntries, rfl⟩
      rw [(mem_entriesOf.mp inEntries).2] at found
      cases found

/-- Tables with a fixed set of keys. -/
def FieldCodec.table (keys : Keys all name) (codec : Codec α) : FieldCodec (κ → Option α) where
  decode := asTable all name codec.decode
  encode := ofTable all name codec.encode
  Readable := fun held => ∀ key, ∀ value ∈ held key, codec.Readable value
  readable := fun json held read key value looked => by
    cases json with
    | object members =>
        rcases Option.bind_eq_some_iff.mp read with ⟨entries, found, ⟨⟩⟩
        have member := List.mem_reverse.mp (mem_of_lookup looked)
        rcases read_of_mem_entries? found member with ⟨json, read⟩
        exact codec.readable json value read
    | _ => cases read
  again := fun held readable => by
    have named : ∀ key ∈ all, (fun text => all.find? (name · == text)) (name key) = some key :=
      fun key member => find?_name keys.distinct member
    show (entries? _ codec.decode _).bind _ = some held
    rw [entries?_entriesOf readable named]
    exact congrArg some (funext (lookup_entriesOf keys held))
  missing := fun _ => none
  missing_readable := fun _ => nofun

@[simp]
theorem FieldCodec.readable_table (keys : Keys all name) (codec : Codec α) (held : κ → Option α) :
    (FieldCodec.table keys codec).Readable held ↔
      ∀ key, ∀ value ∈ held key, codec.Readable value :=
  .rfl

end MediaSite.Json
