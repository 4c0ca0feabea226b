import MediaSite.Proofs.Json.Codec

namespace MediaSite.Json

/-!
# Records read field by field

A record is read by looking its fields up one after another.  So what is read depends only on
what is found under the names of the fields: other members do not count, and neither does a field
that holds what stands for a missing one.  The step of a reader looks one field up; `Gathers` says
what all the steps together find.
-/

/-- A field of a record: its name, its values, and where the record has it. -/
structure RecordPart (ρ : Type) where
  {Value : Type}
  name : Text
  values : FieldCodec Value
  get : ρ → Value

variable {ρ : Type} {names : List Text} {parts : List (RecordPart ρ)} {fields : List (Text × Json)}

/-- A record has the value that the fields hold for a part. -/
def RecordPart.Reads (part : RecordPart ρ) (fields : List (Text × Json)) (record : ρ) : Prop :=
  field fields part.name part.values.decode part.values.missing = some (part.get record)

/-- The member that is written for a part. -/
def RecordPart.write (part : RecordPart ρ) (record : ρ) : Text × Json :=
  (part.name, part.values.encode (part.get record))

/-! ## Fields one after another -/

/-- The result is the only record that is known to be right so far and that has what the fields
hold for the other parts. -/
def Gathers (fields : List (Text × Json)) (known : ρ → Prop) (parts : List (RecordPart ρ))
    (result : Option ρ) : Prop :=
  ∀ record, result = some record ↔ known record ∧ ∀ part ∈ parts, part.Reads fields record

theorem Gathers.done {known : ρ → Prop} {built : ρ}
    (only : ∀ record, built = record ↔ known record) : Gathers fields known [] (some built) := by
  intro record
  rw [Option.some_inj, only]
  exact (and_iff_left fun part member => nomatch member).symm

/-- One more field is looked up, and one more value is known. -/
theorem Gathers.step {known : ρ → Prop} {part : RecordPart ρ} {next : part.Value → Option ρ}
    (rest : ∀ value,
      Gathers fields (fun record => known record ∧ part.get record = value) parts (next value)) :
    Gathers fields known (part :: parts)
      ((field fields part.name part.values.decode part.values.missing).bind next) := by
  intro record
  rw [Option.bind_eq_some_iff, List.forall_mem_cons]
  constructor
  · rintro ⟨value, found, built⟩
    rcases (rest value record).mp built with ⟨⟨right, rfl⟩, others⟩
    exact ⟨right, found, others⟩
  · rintro ⟨right, found, others⟩
    exact ⟨part.get record, found, (rest _ record).mpr ⟨⟨right, rfl⟩, others⟩⟩

/-- A reader that takes the fields of a record and then gathers its parts. -/
theorem reads_of_gathers {read : List (Text × Json) → Option ρ}
    (gathers : ∀ fields, Gathers fields (fun _ => True) parts (read fields)) (json : Json)
    (record : ρ) : (fields? names json).bind read = some record ↔
      ∃ fields, fields? names json = some fields ∧ ∀ part ∈ parts, part.Reads fields record := by
  simp only [Option.bind_eq_some_iff, gathers _ record, true_and]

/-! ## Records -/

/-- The format of a record: the names of its fields, how it is read and written, what it is
without any field, and which records can be read. -/
structure Format (ρ : Type) where
  names : List Text
  decode : Decoder ρ
  encode : ρ → Json
  default : ρ
  Readable : ρ → Prop

/-- A record is read and written part by part. -/
structure IsRecord (format : Format ρ) (parts : List (RecordPart ρ)) : Prop where
  named : parts.map RecordPart.name = format.names
  distinct : format.names.Nodup
  reads : ∀ json record, format.decode json = some record ↔
    ∃ fields, fields? format.names json = some fields ∧ ∀ part ∈ parts, part.Reads fields record
  writes : ∀ record, format.encode record = .object (parts.map fun part => part.write record)
  missing : ∀ part ∈ parts, part.get format.default = part.values.missing
  readable : ∀ record, format.Readable record ↔
    ∀ part ∈ parts, part.values.Readable (part.get record)

/-- What a format has to keep to so that its files stay readable: the records that can be read
are read from what is written for them, which has every field; other members are ignored; and a
field may be left out, in an object or at the end of an array, if it holds what it holds by
default. -/
structure Faithful (format : Format ρ) : Prop where
  readable : ∀ json record, format.decode json = some record → format.Readable record
  again : ∀ record, format.Readable record → format.decode (format.encode record) = some record
  written : ∀ record, ∃ members,
    format.encode record = .object members ∧ members.map Prod.fst = format.names
  empty : format.decode (.object []) = some format.default
  unknown : ∀ front name value back, name ∉ format.names →
    format.decode (.object (front ++ (name, value) :: back)) =
      format.decode (.object (front ++ back))
  missing : ∀ defaults, format.encode format.default = .object defaults →
    ∀ front name value back, (name, value) ∈ defaults → name ∉ (front ++ back).map Prod.fst →
    format.decode (.object (front ++ (name, value) :: back)) =
      format.decode (.object (front ++ back))
  short : ∀ defaults, format.encode format.default = .object defaults →
    ∀ elements name value, defaults[elements.length]? = some (name, value) →
    format.decode (.array (elements ++ [value])) = format.decode (.array elements)

/-! ## What is found under a name -/

theorem fields?_object_eq_some {members fields : List (Text × Json)} :
    fields? names (.object members) = some fields ↔
      (∀ name ∈ names, members.countP (·.1 == name) ≤ 1) ∧ members = fields := by
  rw [fields?, Option.ite_none_right_eq_some, List.all_eq_true]
  simp only [decide_eq_true_eq, Option.some_inj]

theorem lookup_insert_of_ne {name other : Text} (different : name ≠ other) (value : Json)
    (front back : List (Text × Json)) :
    (front ++ (other, value) :: back).lookup name = (front ++ back).lookup name := by
  rw [List.lookup_append, List.lookup_append, List.lookup_cons, beq_false_of_ne different]

theorem lookup_insert_self {name : Text} {front back : List (Text × Json)}
    (absent : name ∉ (front ++ back).map Prod.fst) (value : Json) :
    (front ++ (name, value) :: back).lookup name = some value := by
  rw [List.map_append, List.mem_append, not_or] at absent
  rw [List.lookup_append, lookup_eq_none_iff.mpr absent.1, List.lookup_cons, beq_self_eq_true]
  rfl

theorem countP_insert (front back : List (Text × Json)) (other name : Text) (value : Json) :
    (front ++ (other, value) :: back).countP (·.1 == name) =
      (front ++ back).countP (·.1 == name) + if other == name then 1 else 0 := by
  rw [List.countP_append, List.countP_append, List.countP_cons, Nat.add_assoc]

theorem countP_eq_zero {name : Text} {members : List (Text × Json)}
    (absent : name ∉ members.map Prod.fst) : members.countP (·.1 == name) = 0 := by
  rw [List.countP_eq_zero]
  intro member inMembers same
  exact absent (beq_iff_eq.mp same ▸ List.mem_map_of_mem inMembers)

theorem countP_le_one {members : List (Text × Json)} (distinct : (members.map Prod.fst).Nodup)
    (name : Text) : members.countP (·.1 == name) ≤ 1 := by
  have count := List.nodup_iff_count_le_one.mp distinct name
  rwa [List.count, List.countP_map] at count

/-- A list before one of its elements and behind it. -/
theorem exists_split {items : List Text} {place : Nat} {item : Text}
    (found : items[place]? = some item) :
    ∃ front back, front.length = place ∧ items = front ++ item :: back := by
  rcases List.getElem?_eq_some_iff.mp found with ⟨below, rfl⟩
  refine ⟨items.take place, items.drop (place + 1), ?_, ?_⟩
  · rw [List.length_take, Nat.min_eq_left (Nat.le_of_lt below)]
  · rw [List.getElem_cons_drop, List.take_append_drop]

/-! ## Reading and writing part by part -/

theorem RecordPart.reads_of_lookup {part : RecordPart ρ} {record : ρ} {value : Json}
    (found : fields.lookup part.name = some value) :
    part.Reads fields record ↔ part.values.decode value = some (part.get record) := by
  rw [RecordPart.Reads, field, found]

theorem RecordPart.reads_of_absent {part : RecordPart ρ} {record : ρ}
    (absent : fields.lookup part.name = none) :
    part.Reads fields record ↔ part.values.missing = part.get record := by
  rw [RecordPart.Reads, field, absent]
  exact Option.some_inj

theorem RecordPart.Reads.readable {part : RecordPart ρ} {record : ρ}
    (reads : part.Reads fields record) : part.values.Readable (part.get record) := by
  cases found : fields.lookup part.name with
  | none =>
      rw [← (part.reads_of_absent found).mp reads]
      exact part.values.missing_readable
  | some value => exact part.values.readable value _ ((part.reads_of_lookup found).mp reads)

namespace IsRecord

variable {format : Format ρ}

theorem name_mem (form : IsRecord format parts) {part : RecordPart ρ}
    (member : part ∈ parts) : part.name ∈ format.names :=
  form.named ▸ List.mem_map_of_mem member

theorem map_fst_write (form : IsRecord format parts) (record : ρ) :
    (parts.map fun part => part.write record).map Prod.fst = format.names := by
  rw [List.map_map]
  exact form.named

theorem decode_object_eq_some (form : IsRecord format parts)
    {members : List (Text × Json)} {record : ρ} : format.decode (.object members) = some record ↔
      (∀ name ∈ format.names, members.countP (·.1 == name) ≤ 1) ∧
        ∀ part ∈ parts, part.Reads members record := by
  rw [form.reads]
  constructor
  · rintro ⟨fields, found, reads⟩
    rcases fields?_object_eq_some.mp found with ⟨once, rfl⟩
    exact ⟨once, reads⟩
  · rintro ⟨once, reads⟩
    exact ⟨members, fields?_object_eq_some.mpr ⟨once, rfl⟩, reads⟩

/-- What is read depends on what is found for the parts. -/
theorem decode_object_congr (form : IsRecord format parts)
    {first second : List (Text × Json)}
    (once : (∀ name ∈ format.names, first.countP (·.1 == name) ≤ 1) ↔
      ∀ name ∈ format.names, second.countP (·.1 == name) ≤ 1)
    (same : ∀ part ∈ parts, ∀ record, part.Reads first record ↔ part.Reads second record) :
    format.decode (.object first) = format.decode (.object second) := by
  refine Option.ext fun record => ?_
  rw [form.decode_object_eq_some, form.decode_object_eq_some, once]
  exact and_congr_right fun _ => forall₂_congr fun part member => same part member record

/-- The elements of an array are the first fields in their order. -/
theorem decode_array (form : IsRecord format parts) {front back : List Text}
    (split : format.names = front ++ back) {elements : List Json}
    (fits : front.length = elements.length) :
    format.decode (.array elements) = format.decode (.object (front.zip elements)) := by
  have keys : (front.zip elements).map Prod.fst = front := List.map_fst_zip (Nat.le_of_eq fits)
  have distinct : front.Nodup := (List.nodup_append.mp (split ▸ form.distinct)).1
  have short : elements.length ≤ format.names.length := by
    rw [split, List.length_append, fits]
    exact Nat.le_add_right _ _
  have zipped : format.names.zip elements = front.zip elements := by
    have appended := @List.zip_append Text Json front back elements [] fits
    rwa [List.append_nil, List.zip_nil_right, List.append_nil, ← split] at appended
  have asObject : fields? format.names (.array elements) =
      fields? format.names (.object (front.zip elements)) :=
    calc fields? format.names (.array elements)
        = some (format.names.zip elements) := if_pos short
      _ = some (front.zip elements) := congrArg some zipped
      _ = fields? format.names (.object (front.zip elements)) := Eq.symm <|
          fields?_object_eq_some.mpr ⟨fun name _ => countP_le_one (keys.symm ▸ distinct) name, rfl⟩
  refine Option.ext fun record => ?_
  rw [form.reads, form.reads, asObject]

/-! ## Records are faithful -/

theorem readable_of_decode (form : IsRecord format parts) {json : Json} {record : ρ}
    (read : format.decode json = some record) : format.Readable record := by
  rcases (form.reads json record).mp read with ⟨fields, _, reads⟩
  exact (form.readable record).mpr fun part member => (reads part member).readable

theorem decode_encode (form : IsRecord format parts) {record : ρ}
    (readable : format.Readable record) :
    format.decode (format.encode record) = some record := by
  have distinct := form.map_fst_write record ▸ form.distinct
  rw [form.writes, form.decode_object_eq_some]
  refine ⟨fun name _ => countP_le_one distinct name, fun part member => ?_⟩
  have found := lookup_of_mem distinct (List.mem_map_of_mem member)
  exact (part.reads_of_lookup found).mpr
    (part.values.again _ ((form.readable record).mp readable part member))

theorem decode_empty (form : IsRecord format parts) :
    format.decode (.object []) = some format.default := by
  refine form.decode_object_eq_some.mpr ⟨fun _ _ => Nat.zero_le 1, fun part member => ?_⟩
  exact (part.reads_of_absent rfl).mpr (form.missing part member).symm

theorem decode_unknown (form : IsRecord format parts) {name : Text}
    (unknown : name ∉ format.names) (value : Json) (front back : List (Text × Json)) :
    format.decode (.object (front ++ (name, value) :: back)) =
      format.decode (.object (front ++ back)) := by
  have different : ∀ known ∈ format.names, name ≠ known := fun known member same =>
    unknown (same ▸ member)
  refine form.decode_object_congr ?_ fun part member record => ?_
  · refine forall₂_congr fun known member => ?_
    rw [countP_insert, beq_false_of_ne (different known member)]
    rfl
  · have other := (different _ (form.name_mem member)).symm
    rw [RecordPart.Reads, RecordPart.Reads, field, field, lookup_insert_of_ne other]

/-- A field that is left out holds what stands for a missing one. -/
theorem decode_missing (form : IsRecord format parts)
    {defaults : List (Text × Json)} (written : format.encode format.default = .object defaults)
    {name : Text} {value : Json} (known : (name, value) ∈ defaults)
    {front back : List (Text × Json)}
    (absent : name ∉ (front ++ back).map Prod.fst) :
    format.decode (.object (front ++ (name, value) :: back)) =
      format.decode (.object (front ++ back)) := by
  rw [form.writes, Json.object.injEq] at written
  rw [← written] at known
  rcases List.mem_map.mp known with ⟨part, member, ⟨⟩⟩
  refine form.decode_object_congr ?_ fun other otherMember record => ?_
  · refine forall₂_congr fun name _ => ?_
    rw [countP_insert]
    split
    · rename_i same
      rw [← beq_iff_eq.mp same, countP_eq_zero absent]
      exact iff_of_true (Nat.le_refl 1) (Nat.zero_le 1)
    · rfl
  · by_cases same : other.name = part.name
    · have distinct := form.named ▸ form.distinct
      rw [List.inj_on_of_nodup_map distinct otherMember member same,
        part.reads_of_lookup (lookup_insert_self absent _),
        part.reads_of_absent (lookup_eq_none_iff.mpr absent), form.missing part member,
        part.values.again _ part.values.missing_readable, Option.some_inj]
    · rw [RecordPart.Reads, RecordPart.Reads, field, field, lookup_insert_of_ne same]

theorem decode_short (form : IsRecord format parts)
    {defaults : List (Text × Json)} (written : format.encode format.default = .object defaults)
    {elements : List Json} {name : Text} {value : Json}
    (next : defaults[elements.length]? = some (name, value)) :
    format.decode (.array (elements ++ [value])) = format.decode (.array elements) := by
  have known : (name, value) ∈ defaults := List.mem_of_getElem? next
  have keys : defaults.map Prod.fst = format.names := by
    rw [form.writes, Json.object.injEq] at written
    rw [← written, form.map_fst_write]
  have nextName : format.names[elements.length]? = some name := by
    rw [← keys, List.getElem?_map, next, Option.map_some]
  rcases exists_split nextName with ⟨front, back, fits, split⟩
  have longer : format.names = (front ++ [name]) ++ back := by
    rw [split, List.append_assoc, List.singleton_append]
  have absent : name ∉ (front.zip elements ++ []).map Prod.fst := by
    rw [List.append_nil, List.map_fst_zip (Nat.le_of_eq fits)]
    intro member
    exact (List.nodup_append.mp (split ▸ form.distinct)).2.2 _ member _ List.mem_cons_self rfl
  rw [form.decode_array split fits, form.decode_array longer (by simp [fits]),
    List.zip_append fits]
  have missing := form.decode_missing written known absent
  rwa [List.append_nil] at missing

end IsRecord

theorem IsRecord.faithful {format : Format ρ} (form : IsRecord format parts) :
    Faithful format where
  readable := fun _ _ => form.readable_of_decode
  again := fun _ => form.decode_encode
  written := fun record => ⟨_, form.writes record, form.map_fst_write record⟩
  empty := form.decode_empty
  unknown := fun front _ value back unknown => form.decode_unknown unknown value front back
  missing := fun _ written _ _ _ _ known absent => form.decode_missing written known absent
  short := fun _ written _ _ _ => form.decode_short written

/-- Records as values. -/
def IsRecord.codec {format : Format ρ} (form : IsRecord format parts) : Codec ρ where
  decode := format.decode
  encode := format.encode
  Readable := format.Readable
  readable := fun _ _ => form.readable_of_decode
  again := fun _ => form.decode_encode

/-- Records as values of a field. -/
def IsRecord.values {format : Format ρ} (form : IsRecord format parts) : FieldCodec ρ where
  toCodec := form.codec
  missing := format.default
  missing_readable := form.readable_of_decode form.decode_empty

@[simp]
theorem IsRecord.readable_codec {format : Format ρ} (form : IsRecord format parts) (record : ρ) :
    form.codec.Readable record ↔ format.Readable record :=
  .rfl

@[simp]
theorem IsRecord.readable_values {format : Format ρ} (form : IsRecord format parts) (record : ρ) :
    form.values.Readable record ↔ format.Readable record :=
  .rfl

/-! ## Records in records -/

/-- The places in a value where another reader reads what stands there: an element of a list, or
the member for a part of a record. -/
inductive Inside {α : Type} (inner : Decoder α) :
    {β : Type} → Decoder β → (Json → Json) → Prop where
  | here : Inside inner inner id
  | element {β : Type} {decode : Decoder β} {place : Json → Json} (front back : List Json) :
      Inside inner decode place →
      Inside inner (asList decode) fun json => .array (front ++ place json :: back)
  | member {ρ : Type} {format : Format ρ} {parts : List (RecordPart ρ)} {part : RecordPart ρ}
      {place : Json → Json}
      (front back : List (Text × Json)) :
      IsRecord format parts → part ∈ parts →
      Inside inner part.values.decode place →
      Inside inner format.decode fun json => .object (front ++ (part.name, place json) :: back)

theorem asList_congr {α : Type} {decode : Decoder α} {first second : Json}
    (same : decode first = decode second) (front back : List Json) :
    asList decode (.array (front ++ first :: back)) =
      asList decode (.array (front ++ second :: back)) := by
  show (front ++ first :: back).mapM decode = (front ++ second :: back).mapM decode
  rw [List.mapM_append, List.mapM_append, List.mapM_cons, List.mapM_cons, same]

theorem IsRecord.decode_member_congr {format : Format ρ} (form : IsRecord format parts)
    {part : RecordPart ρ} (member : part ∈ parts) {first second : Json}
    (same : part.values.decode first = part.values.decode second)
    (front back : List (Text × Json)) :
    format.decode (.object (front ++ (part.name, first) :: back)) =
      format.decode (.object (front ++ (part.name, second) :: back)) := by
  refine form.decode_object_congr ?_ fun other otherMember record => ?_
  · simp only [countP_insert]
  · by_cases different : other.name = part.name
    · have distinct := form.named ▸ form.distinct
      rw [List.inj_on_of_nodup_map distinct otherMember member different, RecordPart.Reads,
        RecordPart.Reads, field, field, List.lookup_append, List.lookup_append, List.lookup_cons,
        List.lookup_cons, beq_self_eq_true]
      cases front.lookup part.name with
      | none => exact Eq.congr_left same
      | some value => rfl
    · rw [RecordPart.Reads, RecordPart.Reads, field, field, lookup_insert_of_ne different,
        lookup_insert_of_ne different]

/-- What is read alike somewhere in a value is read alike as a part of it. -/
theorem Inside.congr {α β : Type} {inner : Decoder α} {decode : Decoder β} {place : Json → Json}
    (inside : Inside inner decode place) {first second : Json}
    (same : inner first = inner second) : decode (place first) = decode (place second) := by
  induction inside with
  | here => exact same
  | element front back _ inductionHypothesis => exact asList_congr inductionHypothesis front back
  | member front back form member _ inductionHypothesis =>
      exact form.decode_member_congr member inductionHypothesis front back

end MediaSite.Json
