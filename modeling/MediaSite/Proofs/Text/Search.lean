import Mathlib.Data.List.Infix
import MediaSite.Text.Basic

namespace MediaSite.Text

/-!
# Searching and replacing literal texts

`replaceAll` is one pass from left to right that skips what it has just
replaced.  Three equations say what the pass does at its next position, and
`replace_induction` turns them into an induction: a text is empty, begins with
the needle, or begins with a character at which the needle does not begin.

The pass can be taken apart at a seam between two texts when no occurrence of
the needle lies across it.  `Straddles` names the occurrences that do, and
`replaceAll_append` is the rule that everything about templates rests on.  A text that
is `Apart` from the needle is a seam on both of its sides.
-/

variable {needle value text rest : Text}

/-! ## The replacing pass -/

theorem replaceFrom_eq_drop (needle value : Text) (skip : Nat) (text : Text) :
    replaceFrom needle value skip text = replaceFrom needle value 0 (text.drop skip) := by
  induction text generalizing skip with
  | nil => cases skip <;> simp [replaceFrom]
  | cons c rest inductionHypothesis =>
      cases skip with
      | zero => rfl
      | succ skip =>
          rw [replaceFrom, List.drop_succ_cons]
          exact inductionHypothesis skip

@[simp] theorem replaceAll_nil (needle value : Text) : replaceAll needle value [] = [] := rfl

/-- An occurrence at the beginning is replaced, and the pass goes on behind it. -/
theorem replaceAll_needle_append (nonempty : needle ≠ []) (value rest : Text) :
    replaceAll needle value (needle ++ rest) = value ++ replaceAll needle value rest := by
  cases needle with
  | nil => exact False.elim (nonempty rfl)
  | cons c tail =>
      have atStart : (c :: tail).isPrefixOf (c :: (tail ++ rest)) = true :=
        List.isPrefixOf_iff_prefix.mpr ⟨rest, rfl⟩
      rw [List.cons_append, replaceAll, replaceFrom, atStart]
      simp only [List.isEmpty_cons, Bool.not_false, Bool.true_and, if_true, List.length_cons,
        Nat.add_sub_cancel]
      rw [replaceFrom_eq_drop, List.drop_left]
      rfl

/-- A character at which the needle does not begin stays. -/
theorem replaceAll_cons_of_miss {c : Char} (absent : ¬ needle <+: c :: rest)
    (value : Text) :
    replaceAll needle value (c :: rest) = c :: replaceAll needle value rest := by
  have noStart : needle.isPrefixOf (c :: rest) = false := by
    apply Bool.eq_false_iff.mpr
    intro start
    exact absent (List.isPrefixOf_iff_prefix.mp start)
  rw [replaceAll, replaceFrom, noStart]
  simp only [Bool.and_false, Bool.false_eq_true, if_false]
  rfl

/-- The induction that follows the replacing pass. -/
theorem replace_induction {motive : Text → Prop} (nonempty : needle ≠ [])
    (nil : motive [])
    (hit : ∀ rest, motive rest → motive (needle ++ rest))
    (miss : ∀ c rest, ¬ needle <+: c :: rest → motive rest → motive (c :: rest))
    (text : Text) : motive text := by
  induction count : text.length using Nat.strong_induction_on generalizing text with
  | h size inductionHypothesis =>
      subst count
      cases text with
      | nil => exact nil
      | cons c rest =>
          by_cases start : needle <+: c :: rest
          · rcases start with ⟨after, same⟩
            have positive : 0 < needle.length := List.length_pos_iff.mpr nonempty
            have shorter : after.length < (c :: rest).length := by
              rw [← same, List.length_append]
              omega
            rw [← same]
            exact hit after (inductionHypothesis after.length shorter after rfl)
          · exact miss c rest start
              (inductionHypothesis rest.length (Nat.lt_succ_self rest.length) rest rfl)

theorem replaceAll_of_not_infix (absent : ¬ needle <:+: text) (value : Text) :
    replaceAll needle value text = text := by
  induction text with
  | nil => rfl
  | cons c rest inductionHypothesis =>
      have notHere : ¬ needle <+: c :: rest := fun start => absent start.isInfix
      have notLater : ¬ needle <:+: rest := fun later =>
        absent (later.trans (List.suffix_cons c rest).isInfix)
      rw [replaceAll_cons_of_miss notHere, inductionHypothesis notLater]

/-- Where the needle is one character, each character is replaced on its own. -/
theorem replaceAll_singleton (c : Char) (value text : Text) :
    replaceAll [c] value text = text.flatMap fun d => if d = c then value else [d] := by
  induction text with
  | nil => rfl
  | cons d text inductionHypothesis =>
      rw [List.flatMap_cons, ← inductionHypothesis]
      by_cases same : d = c
      · rw [if_pos same, same]
        exact replaceAll_needle_append (List.cons_ne_nil c []) value text
      · have miss : ¬ [c] <+: d :: text := by
          rintro ⟨rest, joined⟩
          exact same (List.cons.inj joined).1.symm
        rw [if_neg same, replaceAll_cons_of_miss miss, List.singleton_append]

/-! ## Seams -/

/-- An occurrence of a needle that begins in one text and ends in the next. -/
def Straddles (needle left right : Text) : Prop :=
  ∃ front back, needle = front ++ back ∧ front ≠ [] ∧ back ≠ [] ∧ front <:+ left ∧ back <+: right

theorem Straddles.of_suffix {left longer right : Text} (shorter : left <:+ longer)
    (across : Straddles needle left right) : Straddles needle longer right := by
  rcases across with ⟨front, back, split, frontNonempty, backNonempty, atEnd, atStart⟩
  exact ⟨front, back, split, frontNonempty, backNonempty, atEnd.trans shorter, atStart⟩

/-- What begins in a text and not across its end begins within it. -/
theorem not_prefix_append {left right : Text} (nonempty : left ≠ []) (absent : ¬ needle <+: left)
    (seam : ¬ Straddles needle left right) : ¬ needle <+: left ++ right := by
  intro start
  rcases List.prefix_or_prefix_of_prefix start (List.prefix_append left right) with
    inside | ⟨back, split⟩
  · exact absent inside
  · have backStart : back <+: right := by
      rw [← split] at start
      exact (List.prefix_append_right_inj left).mp start
    refine seam ⟨left, back, split.symm, nonempty, ?_, List.suffix_refl left, backStart⟩
    intro backEmpty
    apply absent
    rw [← split, backEmpty, List.append_nil]

/-- An occurrence in a joined text lies on one side of the seam or across it. -/
theorem infix_or_straddles {left right : Text} (occurs : needle <:+: left ++ right) :
    needle <:+: left ∨ needle <:+: right ∨ Straddles needle left right := by
  rcases occurs with ⟨before, after, same⟩
  rcases List.append_eq_append_iff.mp same with ⟨middle, split, _⟩ | ⟨middle, split, behind⟩
  · exact .inl ⟨before, middle, split.symm⟩
  · rcases List.append_eq_append_iff.mp split with ⟨head, inLeft, inNeedle⟩ | ⟨tail, _, inRight⟩
    · by_cases headEmpty : head = []
      · right; left
        rw [headEmpty, List.nil_append] at inNeedle
        exact ⟨[], after, by rw [behind, inNeedle, List.nil_append]⟩
      · by_cases middleEmpty : middle = []
        · left
          rw [middleEmpty, List.append_nil] at inNeedle
          exact ⟨before, [], by rw [inLeft, inNeedle, List.append_nil]⟩
        · right; right
          exact ⟨head, middle, inNeedle, headEmpty, middleEmpty, ⟨before, inLeft.symm⟩,
            ⟨after, behind.symm⟩⟩
    · right; left
      exact ⟨tail, after, by rw [behind, inRight]⟩

/-- Where no occurrence lies across a seam, both sides are replaced on their own. -/
theorem replaceAll_append {left right : Text} (nonempty : needle ≠ [])
    (seam : ¬ Straddles needle left right) (value : Text) :
    replaceAll needle value (left ++ right) =
      replaceAll needle value left ++ replaceAll needle value right := by
  induction left using replace_induction nonempty with
  | nil => rfl
  | hit rest inductionHypothesis =>
      have restSeam : ¬ Straddles needle rest right := fun across =>
        seam (across.of_suffix (List.suffix_append needle rest))
      rw [List.append_assoc, replaceAll_needle_append nonempty, replaceAll_needle_append nonempty,
        inductionHypothesis restSeam, List.append_assoc]
  | miss c rest absent inductionHypothesis =>
      have restSeam : ¬ Straddles needle rest right := fun across =>
        seam (across.of_suffix (List.suffix_cons c rest))
      have absentJoined : ¬ needle <+: c :: (rest ++ right) :=
        not_prefix_append (List.cons_ne_nil c rest) absent seam
      rw [List.cons_append, replaceAll_cons_of_miss absentJoined,
        replaceAll_cons_of_miss absent, inductionHypothesis restSeam, List.cons_append]

/-- Where no occurrence begins the pass leaves a text as it is. -/
theorem replaceAll_append_of_misses {needle left right : Text}
    (misses : ∀ tail, tail ≠ [] → tail <:+ left → ¬ needle <+: tail ++ right) (value : Text) :
    replaceAll needle value (left ++ right) = left ++ replaceAll needle value right := by
  induction left with
  | nil => rfl
  | cons c left inductionHypothesis =>
      have notHere := misses (c :: left) (List.cons_ne_nil c left) (List.suffix_refl _)
      have later := inductionHypothesis fun tail nonempty atEnd =>
        misses tail nonempty (atEnd.trans (List.suffix_cons c left))
      rw [List.cons_append] at notHere
      rw [List.cons_append, replaceAll_cons_of_miss notHere, later, List.cons_append]

/-- Neither of two texts begins inside of the other, or at its end. -/
def Apart (needle mark : Text) : Prop :=
  (∀ tail ∈ mark.tails, tail ≠ [] → ¬ tail <+: needle ∧ ¬ needle <+: tail) ∧
    ∀ tail ∈ needle.tails, tail ≠ [] → ¬ tail <+: mark ∧ ¬ mark <+: tail

instance (needle mark : Text) : Decidable (Apart needle mark) :=
  inferInstanceAs (Decidable (_ ∧ _))

/-- A mark apart from what is replaced stays, and so both sides are replaced on their own. -/
theorem replaceAll_of_apart {mark : Text} (apart : Apart needle mark) (nonempty : needle ≠ [])
    (value left right : Text) :
    replaceAll needle value (left ++ (mark ++ right)) =
      replaceAll needle value left ++ (mark ++ replaceAll needle value right) := by
  have seam : ¬ Straddles needle left (mark ++ right) := by
    rintro ⟨front, back, rfl, _, backNonempty, _, atStart⟩
    have apartHere := apart.2 back ((List.mem_tails _ _).mpr (List.suffix_append front back))
      backNonempty
    rcases List.prefix_or_prefix_of_prefix atStart (List.prefix_append mark right) with
      inside | longer
    · exact apartHere.1 inside
    · exact apartHere.2 longer
  rw [replaceAll_append nonempty seam]
  congr 1
  apply replaceAll_append_of_misses
  intro tail tailNonempty atEnd start
  have apartHere := apart.1 tail ((List.mem_tails _ _).mpr atEnd) tailNonempty
  rcases List.prefix_or_prefix_of_prefix start (List.prefix_append tail right) with inside | longer
  · exact apartHere.2 inside
  · exact apartHere.1 longer

/-! ## The first occurrence -/

theorem cut?_eq_none_of_not_mem {c : Char} (inNeedle : c ∈ needle) (notInText : c ∉ text) :
    cut? needle text = none := by
  induction text with
  | nil =>
      have filled : needle.isEmpty = false := by
        cases needle with
        | nil => cases inNeedle
        | cons => rfl
      rw [cut?, filled]
      rfl
  | cons first rest inductionHypothesis =>
      have notHere : needle.isPrefixOf? (first :: rest) = none := by
        cases found : needle.isPrefixOf? (first :: rest) with
        | none => rfl
        | some after =>
            have same := List.isPrefixOf?_eq_some_iff_append_eq.mp found
            have member : c ∈ first :: rest := same ▸ List.mem_append_left after inNeedle
            exact False.elim (notInText member)
      have notLater : c ∉ rest := fun later => notInText (List.mem_cons_of_mem first later)
      rw [cut?, notHere]
      simp only [inductionHypothesis notLater, Option.map_none]

/-- What is found stands between what is returned. -/
theorem eq_of_cut? {before after : Text} (found : cut? needle text = some (before, after)) :
    text = before ++ needle ++ after := by
  induction text generalizing before with
  | nil =>
      rw [cut?] at found
      split at found
      · rename_i empty
        rcases Prod.mk.inj (Option.some.inj found) with ⟨rfl, rfl⟩
        rw [List.isEmpty_iff.mp empty]
        rfl
      · cases found
  | cons c rest inductionHypothesis =>
      rw [cut?] at found
      split at found
      · rename_i tail atStart
        rcases Prod.mk.inj (Option.some.inj found) with ⟨rfl, rfl⟩
        exact (List.isPrefixOf?_eq_some_iff_append_eq.mp atStart).symm
      · rcases Option.map_eq_some_iff.mp found with ⟨parts, foundLater, same⟩
        rcases Prod.mk.inj same with ⟨rfl, rfl⟩
        rw [inductionHypothesis foundLater]
        rfl

theorem cut?_eq_none_of_absent (absent : ¬ needle <:+: text) : cut? needle text = none := by
  cases found : cut? needle text with
  | none => rfl
  | some parts => exact False.elim (absent ⟨parts.1, parts.2, (eq_of_cut? found).symm⟩)

/-- An occurrence is found if none begins earlier. -/
theorem cut?_of_fresh {left : Text} (fresh : ¬ needle <:+: left) (rest : Text)
    (seam : ¬ Straddles needle left (needle ++ rest)) :
    cut? needle (left ++ (needle ++ rest)) = some (left, rest) := by
  induction left with
  | nil =>
      have nonempty : needle ≠ [] := fun empty => fresh (empty ▸ List.nil_infix)
      have atStart : needle.isPrefixOf? (needle ++ rest) = some rest :=
        List.isPrefixOf?_eq_some_iff_append_eq.mpr rfl
      cases needle with
      | nil => exact False.elim (nonempty rfl)
      | cons c tail =>
          rw [List.cons_append] at atStart ⊢
          rw [List.nil_append, cut?, atStart]
  | cons c left inductionHypothesis =>
      have notHere : ¬ needle <+: (c :: left) ++ (needle ++ rest) :=
        not_prefix_append (List.cons_ne_nil c left) (fun start => fresh start.isInfix) seam
      have noStart : needle.isPrefixOf? (c :: (left ++ (needle ++ rest))) = none := by
        cases found : needle.isPrefixOf? (c :: (left ++ (needle ++ rest))) with
        | none => rfl
        | some after =>
            exact False.elim
              (notHere ⟨after, List.isPrefixOf?_eq_some_iff_append_eq.mp found⟩)
      have later := inductionHypothesis
        (fun occurs => fresh (occurs.trans (List.suffix_cons c left).isInfix))
        (fun across => seam (across.of_suffix (List.suffix_cons c left)))
      rw [List.cons_append, cut?, noStart]
      simp only [later, Option.map_some]

/-- A needle that occurs is found, and not behind that occurrence. -/
theorem cut?_of_occurrence (needle front back : Text) :
    ∃ before after, cut? needle (front ++ needle ++ back) = some (before, after) ∧
      back <:+ after := by
  induction front with
  | nil =>
      cases whole : needle ++ back with
      | nil =>
          rcases List.append_eq_nil_iff.mp whole with ⟨rfl, rfl⟩
          exact ⟨[], [], rfl, List.suffix_refl _⟩
      | cons c rest =>
          have atStart : needle.isPrefixOf? (c :: rest) = some back :=
            List.isPrefixOf?_eq_some_iff_append_eq.mpr whole
          refine ⟨[], back, ?_, List.suffix_refl _⟩
          rw [List.nil_append, whole, cut?, atStart]
  | cons c front inductionHypothesis =>
      cases start : needle.isPrefixOf? (c :: (front ++ needle ++ back)) with
      | some after =>
          refine ⟨[], after, ?_, ?_⟩
          · rw [List.cons_append, List.cons_append, cut?, start]
          · have same := List.isPrefixOf?_eq_some_iff_append_eq.mp start
            apply List.suffix_of_suffix_length_le
              (List.suffix_append (c :: (front ++ needle)) back)
            · rw [List.cons_append, ← same]
              exact List.suffix_append needle after
            · have lengths := congrArg List.length same
              simp only [List.length_append, List.length_cons] at lengths
              omega
      | none =>
          rcases inductionHypothesis with ⟨before, after, found, behind⟩
          refine ⟨c :: before, after, ?_, behind⟩
          rw [List.cons_append, List.cons_append, cut?, start, found]
          rfl

/-! ## The first mark -/

/-- What stands in front of the first mark, and what behind it, is known from the whole. -/
theorem append_cons_inj {α : Type} {left right rest others : List α} {mark : α}
    (inLeft : mark ∉ left) (inRight : mark ∉ right)
    (same : left ++ mark :: rest = right ++ mark :: others) : left = right ∧ rest = others := by
  induction left generalizing right with
  | nil =>
      cases right with
      | nil => exact ⟨rfl, (List.cons.inj same).2⟩
      | cons other right => exact absurd ((List.cons.inj same).1 ▸ List.mem_cons_self) inRight
  | cons first left inductionHypothesis =>
      cases right with
      | nil => exact absurd ((List.cons.inj same).1 ▸ List.mem_cons_self) inLeft
      | cons other right =>
          rcases List.cons.inj same with ⟨rfl, behind⟩
          rcases inductionHypothesis (fun member => inLeft (List.mem_cons_of_mem _ member))
            (fun member => inRight (List.mem_cons_of_mem _ member)) behind with ⟨rfl, rfl⟩
          exact ⟨rfl, rfl⟩

/-! ## Lines -/

/-- Within one line nothing lies across a line end. -/
theorem infix_of_infix_lines {left right : Text} (line : '\n' ∉ needle)
    (occurs : needle <:+: left ++ '\n' :: right) : needle <:+: left ∨ needle <:+: right := by
  rcases occurs with ⟨before, after, same⟩
  rcases List.append_eq_append_iff.mp same with ⟨middle, split, rest⟩ | ⟨middle, split, rest⟩
  · exact .inl ⟨before, middle, split.symm⟩
  · cases middle with
    | nil =>
        rw [List.append_nil] at split
        exact .inl ⟨before, [], by rw [List.append_nil, split]⟩
    | cons c middle =>
        rcases List.cons.inj rest with ⟨rfl, behind⟩
        -- The line end stands before the occurrence, or would be a part of it.
        rcases List.append_eq_append_iff.mp split with ⟨head, _, inNeedle⟩ | ⟨tail, _, inRight⟩
        · apply False.elim (line _)
          rw [inNeedle]
          exact List.mem_append_right head List.mem_cons_self
        · cases tail with
          | nil =>
              apply False.elim (line _)
              rw [List.nil_append] at inRight
              rw [← inRight]
              exact List.mem_cons_self
          | cons d tail =>
              rcases List.cons.inj inRight with ⟨_, inside⟩
              refine .inr ⟨tail, after, ?_⟩
              rw [behind, inside]
              rfl

/-- A needle of one line is replaced line by line. -/
theorem replaceAll_line (nonempty : needle ≠ []) (line : '\n' ∉ needle) (value left right : Text) :
    replaceAll needle value (left ++ '\n' :: right) =
      replaceAll needle value left ++ '\n' :: replaceAll needle value right := by
  have seam : ¬ Straddles needle left ('\n' :: right) := by
    rintro ⟨front, back, split, _, backNonempty, _, after, same⟩
    cases back with
    | nil => exact backNonempty rfl
    | cons c back =>
        apply line
        rw [split, ← (List.cons.inj same).1]
        exact List.mem_append_right front List.mem_cons_self
  have notHere : ¬ needle <+: '\n' :: right := by
    rintro ⟨after, same⟩
    cases needle with
    | nil => exact nonempty rfl
    | cons c tail =>
        apply line
        rw [(List.cons.inj same).1]
        exact List.mem_cons_self
  rw [replaceAll_append nonempty seam, replaceAll_cons_of_miss notHere]

/-- The same line, a number of times over. -/
def copies (line : Text) : Nat → Text
  | 0 => []
  | count + 1 => line ++ '\n' :: copies line count

theorem copies_suffix_succ (line : Text) (count : Nat) :
    copies line count <:+ copies line (count + 1) :=
  ⟨line ++ ['\n'], by rw [copies, List.append_assoc, List.singleton_append]⟩

theorem infix_of_infix_copies (line : '\n' ∉ needle) (nonempty : needle ≠ []) {copied : Text}
    {count : Nat} (occurs : needle <:+: copies copied count) : needle <:+: copied := by
  induction count with
  | zero => exact False.elim (nonempty (List.infix_nil.mp occurs))
  | succ count inductionHypothesis =>
      rcases infix_of_infix_lines line occurs with first | later
      · exact first
      · exact inductionHypothesis later

/-- Looking for a needle of one line uses up one copy of a line at most. -/
theorem copies_suffix_of_cut? (line : '\n' ∉ needle) (nonempty : needle ≠ []) {copied : Text}
    {count : Nat} {before after : Text} (remain : copies copied (count + 1) <:+ text)
    (found : cut? needle text = some (before, after)) : copies copied count <:+ after := by
  rcases remain with ⟨front, same⟩
  have occurs : needle <:+: front ++ copied ++ '\n' :: copies copied count := by
    have whole := eq_of_cut? found
    rw [← same, copies, ← List.append_assoc] at whole
    exact ⟨before, after, whole.symm⟩
  -- If a later copy has the needle then the first of the copies has it too.
  have early : needle <:+: front ++ copied := by
    rcases infix_of_infix_lines line occurs with first | later
    · exact first
    · exact (infix_of_infix_copies line nonempty later).trans (List.suffix_append _ _).isInfix
  rcases early with ⟨left, right, split⟩
  rcases cut?_of_occurrence needle left (right ++ '\n' :: copies copied count) with
    ⟨_, rest, foundFirst, behind⟩
  rw [← List.append_assoc, split, List.append_assoc, ← copies, same, found] at foundFirst
  rcases Prod.mk.inj (Option.some.inj foundFirst) with ⟨_, rfl⟩
  have tail : copies copied count <:+ right ++ '\n' :: copies copied count :=
    ⟨right ++ ['\n'], by rw [List.append_assoc, List.singleton_append]⟩
  exact tail.trans behind

/-! ## Lengths in octets -/

theorem byteLength_append (left right : Text) :
    byteLength (left ++ right) = byteLength left + byteLength right := by
  induction left with
  | nil => simp [byteLength]
  | cons c left inductionHypothesis =>
      rw [List.cons_append, byteLength, byteLength, inductionHypothesis, Nat.add_assoc]

theorem length_le_byteLength (text : Text) : text.length ≤ byteLength text := by
  induction text with
  | nil => exact Nat.le_refl 0
  | cons c rest inductionHypothesis =>
      have positive := c.utf8Size_pos
      rw [List.length_cons, byteLength]
      omega

/-- An offset determines the text in front of it. -/
theorem eq_of_byteLength_eq {first second text : Text} (firstFront : first <+: text)
    (secondFront : second <+: text) (same : byteLength first = byteLength second) :
    first = second := by
  have noRest {left right : Text} (front : left <+: right)
      (sameLength : byteLength left = byteLength right) : left = right := by
    rcases front with ⟨rest, rfl⟩
    rw [byteLength_append] at sameLength
    cases rest with
    | nil => rw [List.append_nil]
    | cons c rest =>
        have positive := c.utf8Size_pos
        rw [byteLength] at sameLength
        omega
  rcases List.prefix_or_prefix_of_prefix firstFront secondFront with shorter | shorter
  · exact noRest shorter same
  · exact (noRest shorter same.symm).symm

end MediaSite.Text
