import Mathlib.Data.Set.Card
import MediaSite.Proofs.Template.Names

namespace MediaSite

/-!
# Two ways to look for tokens

A token can be looked for by its name, or all tokens can be listed without knowing their names.
Both come to the same: a name is listed as often as its token stands in the text, provided that
it has the form of a name (`Token.count_names`).

The list is what a search from left to right finds that takes the first token of all and goes on
behind it (`Token.Scanned`).  It is the only such list.  That nothing is lost by going on behind
a token rests on the braces: no token begins inside of another, as it would have to begin at one
of the two braces of that, and the second one is followed by a blank.
-/

open scoped Text
open Text (StandsAt)

/-! ## Counting occurrences -/

namespace Text

variable {needle rest : Text} {c : Char}

theorem standsAt_cons_iff {offset : Nat} : StandsAt needle (c :: rest) offset ↔
    (needle <+: c :: rest ∧ offset = 0) ∨
      ∃ place, StandsAt needle rest place ∧ offset = c.utf8Size + place := by
  constructor
  · rintro ⟨before, after, same, rfl⟩
    cases before with
    | nil => exact .inl ⟨⟨after, same.symm⟩, rfl⟩
    | cons first before =>
        rcases List.cons.inj same with ⟨rfl, behind⟩
        exact .inr ⟨_, ⟨before, after, behind, rfl⟩, rfl⟩
  · rintro (⟨⟨after, same⟩, rfl⟩ | ⟨place, ⟨before, after, rfl, rfl⟩, rfl⟩)
    · exact ⟨[], after, same.symm, rfl⟩
    · exact ⟨c :: before, after, rfl, rfl⟩

/-- Behind the first character there are as many occurrences as in the rest. -/
theorem encard_standsAt_behind (needle rest : Text) (c : Char) :
    {offset | ∃ place, StandsAt needle rest place ∧ offset = c.utf8Size + place}.encard =
      {offset | StandsAt needle rest offset}.encard := by
  have moved : {offset | ∃ place, StandsAt needle rest place ∧ offset = c.utf8Size + place} =
      (c.utf8Size + ·) '' {offset | StandsAt needle rest offset} := by
    ext offset
    exact exists_congr fun place => and_congr_right fun _ => eq_comm
  rw [moved]
  exact (add_right_injective c.utf8Size).encard_image _

theorem encard_standsAt_of_miss (miss : ¬ needle <+: c :: rest) :
    {offset | StandsAt needle (c :: rest) offset}.encard =
      {offset | StandsAt needle rest offset}.encard := by
  rw [← encard_standsAt_behind needle rest c]
  congr 1
  ext offset
  exact standsAt_cons_iff.trans (or_iff_right fun start => miss start.1)

theorem encard_standsAt_of_start (start : needle <+: c :: rest) :
    {offset | StandsAt needle (c :: rest) offset}.encard =
      1 + {offset | StandsAt needle rest offset}.encard := by
  have split : {offset | StandsAt needle (c :: rest) offset} = {0} ∪
      {offset | ∃ place, StandsAt needle rest place ∧ offset = c.utf8Size + place} := by
    ext offset
    exact standsAt_cons_iff.trans (or_congr_left (and_iff_right start))
  have apart : Disjoint {0}
      {offset | ∃ place, StandsAt needle rest place ∧ offset = c.utf8Size + place} := by
    rw [Set.disjoint_singleton_left]
    rintro ⟨place, _, same⟩
    have positive := c.utf8Size_pos
    omega
  rw [split, Set.encard_union_eq apart, Set.encard_singleton, encard_standsAt_behind]

end Text

namespace Token

variable {name text : Text}

/-! ## Names and tokens -/

/-- One or more runs of capital letters and underscores, joined by single dots. -/
def Dotted (name : Text) : Prop :=
  ∃ runs, runs ≠ [] ∧ (∀ run ∈ runs, run ≠ [] ∧ ∀ c ∈ run, ('A' ≤ c ∧ c ≤ 'Z') ∨ c = '_') ∧
    name = Text.join ['.'] runs

theorem isNameLetter_eq_true_iff {c : Char} :
    isNameLetter c = true ↔ ('A' ≤ c ∧ c ≤ 'Z') ∨ c = '_' := by
  have upper : c.isUpper = true ↔ 'A' ≤ c ∧ c ≤ 'Z' := decide_eq_true_iff
  rw [isNameLetter, Bool.or_eq_true, beq_iff_eq, upper]

theorem isName_eq_true_iff : isName name = true ↔ Dotted name := by
  have proper {run : Text} : (!run.isEmpty && run.all isNameLetter) = true ↔
      run ≠ [] ∧ ∀ c ∈ run, ('A' ≤ c ∧ c ≤ 'Z') ∨ c = '_' := by
    simp only [Bool.and_eq_true, Bool.not_eq_true', List.isEmpty_eq_false_iff, List.all_eq_true,
      isNameLetter_eq_true_iff, ne_eq]
  constructor
  · intro whole
    exact ⟨name.splitOn '.', List.splitOn_ne_nil _ _,
      fun run member => proper.mp (List.all_eq_true.mp whole run member),
      (List.intercalate_splitOn '.').symm⟩
  · rintro ⟨runs, nonempty, letters, rfl⟩
    have noDot : ∀ run ∈ runs, '.' ∉ run := fun run member dot =>
      absurd ((letters run member).2 '.' dot) (by decide)
    rw [isName, Text.join, List.splitOn_intercalate '.' noDot nonempty]
    exact List.all_eq_true.mpr fun run member => proper.mpr (letters run member)

theorem nameAtStart?_eq_some_iff :
    nameAtStart? text = some name ↔ Dotted name ∧ ofName name <+: text := by
  constructor
  · intro found
    rcases Option.bind_eq_some_iff.mp found with ⟨rest, opens, found⟩
    dsimp only at found
    split at found
    · rename_i checked
      rcases Bool.and_eq_true_iff.mp checked with ⟨proper, closes⟩
      rcases List.isPrefixOf_iff_prefix.mp closes with ⟨after, behind⟩
      rw [Option.some.inj found] at proper behind
      have begins : name <+: rest := Option.some.inj found ▸ List.takeWhile_prefix _
      refine ⟨isName_eq_true_iff.mp proper, after, ?_⟩
      rcases begins with ⟨others, rfl⟩
      rw [List.drop_left] at behind
      rw [ofName, List.append_assoc, List.append_assoc, behind]
      exact List.isPrefixOf?_eq_some_iff_append_eq.mp opens
    · cases found
  · rintro ⟨dotted, rest, rfl⟩
    exact nameAtStart?_ofName (isName_eq_true_iff.mpr dotted) rest

/-- The names that are listed are those of the tokens in a text. -/
theorem mem_names_iff : name ∈ names text ↔ Dotted name ∧ ofName name <:+: text := by
  induction text with
  | nil =>
      refine iff_of_false List.not_mem_nil fun listed => ?_
      exact ofName_ne_nil name (List.infix_nil.mp listed.2)
  | cons c rest inductionHypothesis =>
      rw [names, List.mem_append, inductionHypothesis, List.infix_cons_iff, and_or_left,
        Option.mem_toList, nameAtStart?_eq_some_iff]

/-- A name is listed as often as its token stands in a text. -/
theorem count_names (dotted : Dotted name) (text : Text) :
    {offset | StandsAt (ofName name) text offset}.encard = (names text).count name := by
  induction text with
  | nil =>
      have nowhere : {offset | StandsAt (ofName name) [] offset} = ∅ := by
        refine Set.eq_empty_of_forall_notMem ?_
        rintro offset ⟨before, after, same, _⟩
        have noToken := (List.append_eq_nil_iff.mp same.symm).1
        exact ofName_ne_nil name (List.append_eq_nil_iff.mp noToken).2
      rw [nowhere, Set.encard_empty]
      rfl
  | cons c rest inductionHypothesis =>
      rw [names, List.count_append, Nat.cast_add, ← inductionHypothesis]
      by_cases start : ofName name <+: c :: rest
      · rw [Text.encard_standsAt_of_start start,
          nameAtStart?_eq_some_iff.mpr ⟨dotted, start⟩, Option.toList_some,
          List.count_singleton_self, Nat.cast_one]
      · have absent : (nameAtStart? (c :: rest)).toList.count name = 0 := by
          refine List.count_eq_zero.mpr fun member => ?_
          exact start (nameAtStart?_eq_some_iff.mp (Option.mem_toList.mp member)).2
        rw [Text.encard_standsAt_of_miss start, absent, Nat.cast_zero, zero_add]

/-! ## Searching on behind each token -/

/-- No token begins at one of the first `count` characters of a text. -/
def NoneBefore (text : Text) (count : Nat) : Prop :=
  ∀ front name, Dotted name → front ++ ofName name <+: text → count ≤ front.length

/-- The names of the tokens that a search from left to right finds: it takes the token that begins
first and goes on behind its end. -/
inductive Scanned : Text → List Text → Prop where
  | done {text : Text} (absent : ∀ name, Dotted name → ¬ ofName name <:+: text) : Scanned text []
  | next {text after name : Text} {names : List Text} (before : Text) (dotted : Dotted name)
      (whole : text = before ++ (ofName name ++ after)) (first : NoneBefore text before.length)
      (later : Scanned after names) : Scanned text (name :: names)

/-- At most one token begins where another text ends. -/
theorem eq_of_ofName_append {other after rest : Text} (dotted : Dotted name)
    (otherDotted : Dotted other) (same : ofName name ++ after = ofName other ++ rest) :
    name = other ∧ after = rest := by
  have found := nameAtStart?_eq_some_iff.mpr ⟨dotted, List.prefix_append (ofName name) after⟩
  rw [same, nameAtStart?_eq_some_iff.mpr ⟨otherDotted, List.prefix_append (ofName other) rest⟩]
    at found
  rcases Option.some.inj found with rfl
  exact ⟨rfl, List.append_cancel_left same⟩

theorem Scanned.unique {found others : List Text} (scanned : Scanned text found)
    (second : Scanned text others) : found = others := by
  induction scanned generalizing others with
  | done absent =>
      cases second with
      | done _ => rfl
      | @next _ after name _ before dotted whole _ _ =>
          exact absurd ⟨before, after, by rw [whole, List.append_assoc]⟩ (absent name dotted)
  | @next text after name names before dotted whole first later inductionHypothesis =>
      cases second with
      | done absent =>
          exact absurd ⟨before, after, by rw [whole, List.append_assoc]⟩ (absent name dotted)
      | @next _ otherAfter other _ otherBefore otherDotted otherWhole otherFirst otherLater =>
          have low := first otherBefore other otherDotted
            ⟨otherAfter, by rw [otherWhole, List.append_assoc]⟩
          have high := otherFirst before name dotted ⟨after, by rw [whole, List.append_assoc]⟩
          rcases List.append_inj (whole.symm.trans otherWhole) (Nat.le_antisymm low high) with
            ⟨rfl, behind⟩
          rcases eq_of_ofName_append dotted otherDotted behind with ⟨rfl, rfl⟩
          rw [inductionHypothesis otherLater]

/-- A character at which no token begins is passed over. -/
theorem Scanned.cons {c : Char} {rest : Text} {found : List Text} (scanned : Scanned rest found)
    (miss : ∀ name, Dotted name → ¬ ofName name <+: c :: rest) : Scanned (c :: rest) found := by
  cases scanned with
  | done absent =>
      refine .done fun name dotted occurs => ?_
      exact (List.infix_cons_iff.mp occurs).elim (miss name dotted) (absent name dotted)
  | @next _ after name names before dotted whole first later =>
      refine .next (c :: before) dotted (by rw [whole, List.cons_append]) ?_ later
      intro front other otherDotted begins
      cases front with
      | nil => exact absurd begins (miss other otherDotted)
      | cons d front =>
          exact Nat.succ_le_succ (first front other otherDotted (List.cons_prefix_cons.mp begins).2)

theorem scanned_names (text : Text) : Scanned text (names text) := by
  induction size : text.length using Nat.strongRecOn generalizing text with
  | ind size inductionHypothesis =>
      subst size
      cases text with
      | nil => exact .done fun name _ occurs => ofName_ne_nil name (List.infix_nil.mp occurs)
      | cons c rest =>
          cases found : nameAtStart? (c :: rest) with
          | some name =>
              rcases nameAtStart?_eq_some_iff.mp found with ⟨dotted, after, whole⟩
              have shorter : after.length < (c :: rest).length := by
                have filled := List.length_pos_iff.mpr (ofName_ne_nil name)
                rw [← whole, List.length_append]
                omega
              rw [← whole, names_ofName_append (isName_eq_true_iff.mpr dotted)]
              exact .next [] dotted rfl (fun _ _ _ _ => Nat.zero_le _)
                (inductionHypothesis _ shorter after rfl)
          | none =>
              rw [names, found]
              refine (inductionHypothesis _ (Nat.lt_succ_self _) rest rfl).cons ?_
              intro name dotted start
              rw [nameAtStart?_eq_some_iff.mpr ⟨dotted, start⟩] at found
              cases found

/-! ## Agreement -/

theorem isSome_span?_iff : (span? name text).isSome = true ↔ ofName name <:+: text := by
  rw [span?, Option.isSome_map, find?]
  constructor
  · intro found
    rcases Option.isSome_iff_exists.mp found with ⟨parts, same⟩
    exact ⟨parts.1, parts.2, (Text.eq_of_cut? same).symm⟩
  · rintro ⟨before, after, rfl⟩
    rcases Text.cut?_of_occurrence (ofName name) before after with ⟨_, _, found, _⟩
    rw [found]
    rfl

theorem isMarker_eq_false_iff :
    Block.isMarker name = false ↔ ¬ beginMark <+: name ∧ ¬ endMark <+: name := by
  rw [Block.isMarker, Block.isOpening, Bool.or_eq_false_iff, Bool.eq_false_iff, Bool.eq_false_iff,
    ne_eq, ne_eq, List.isPrefixOf_iff_prefix, List.isPrefixOf_iff_prefix]

theorem remaining_eq_filter (text : Text) :
    remaining text = (names text).filter fun name => !Block.isMarker name := by
  refine List.filter_congr fun name _ => ?_
  rw [Block.isMarker, Block.isOpening, Bool.not_or]

/-- The names that remain in a text are those in the form of a name that mark no block and
whose token is found by name, each listed as often as its token stands there.  They are, without
the markers, what a search that goes on behind each token lists. -/
theorem remaining_spec (text : Text) :
    (∀ name, name ∈ remaining text ↔ Dotted name ∧ ¬ beginMark <+: name ∧ ¬ endMark <+: name ∧
      (span? name text).isSome = true) ∧
    (∀ name, Dotted name → ¬ beginMark <+: name → ¬ endMark <+: name →
      {offset | StandsAt (ofName name) text offset}.encard = (remaining text).count name) ∧
    ∃ found, Scanned text found ∧ (∀ others, Scanned text others → others = found) ∧
      remaining text = found.filter fun name => !Block.isMarker name := by
  refine ⟨fun name => ?_, fun name dotted noBegin noEnd => ?_, names text, scanned_names text,
    fun others second => second.unique (scanned_names text), remaining_eq_filter text⟩
  · rw [remaining_eq_filter, List.mem_filter, Bool.not_eq_true', isMarker_eq_false_iff,
      mem_names_iff, isSome_span?_iff]
    exact ⟨fun ⟨⟨dotted, occurs⟩, noBegin, noEnd⟩ => ⟨dotted, noBegin, noEnd, occurs⟩,
      fun ⟨dotted, noBegin, noEnd, occurs⟩ => ⟨⟨dotted, occurs⟩, noBegin, noEnd⟩⟩
  · have noMarker : (!Block.isMarker name) = true := by
      rw [isMarker_eq_false_iff.mpr ⟨noBegin, noEnd⟩, Bool.not_false]
    rw [count_names dotted, remaining_eq_filter,
      List.count_filter (p := fun name => !Block.isMarker name) noMarker]

/-- A text with a token that stands twice, stray braces, a malformed token and a marker. -/
def scattered : Text :=
  "\x7b\x7b\x7b A.B \x7d\x7d\x7d\x7b\x7b A..B \x7d\x7d\x7b\x7b \x7b\x7b A.B \x7d\x7d" ++
    "\x7b\x7b BEGIN_BLOCK_A \x7d\x7d\x7b\x7b a \x7d\x7d"

theorem remaining_scattered : Dotted "A.B" ∧ ¬ beginMark <+: ("A.B" : Text) ∧
    ¬ endMark <+: ("A.B" : Text) ∧ ("A.B" : Text) ∈ remaining scattered ∧
    {offset | StandsAt (ofName "A.B") scattered offset}.encard = 2 := by
  have dotted : Dotted "A.B" := isName_eq_true_iff.mp (by decide)
  have noMarker : ¬ beginMark <+: ("A.B" : Text) ∧ ¬ endMark <+: ("A.B" : Text) := by decide
  rcases remaining_spec scattered with ⟨listed, counted, _⟩
  have twice : (remaining scattered).count ("A.B" : Text) = 2 := by decide +kernel
  refine ⟨dotted, noMarker.1, noMarker.2, (listed "A.B").mpr
    ⟨dotted, noMarker.1, noMarker.2, by decide +kernel⟩, ?_⟩
  rw [counted "A.B" dotted noMarker.1 noMarker.2, twice]
  rfl

end Token
end MediaSite
