import Mathlib.Order.Bounds.Basic
import MediaSite.Proofs.Text.Search

namespace MediaSite.Text

/-!
# Where a text occurs

Occurrences are given by their offsets, in octets.  What searching and replacing come to
can then be said without the functions that search and replace: `cut?` finds the least
offset of all (`isLeast_of_cut?`), and `replaceAll` cuts a text at offsets at which the
needle stands and joins the parts with the value (`exists_parts`).

The one thing a pass from left to right can miss is an occurrence that overlaps the one
before it.  A needle of which no proper part both begins and ends it is `Unbordered`; its
occurrences never overlap (`Unbordered.keepsApart`), and the pass replaces every one of
them.
-/

variable {needle value text front rest : Text}

/-! ## Offsets -/

/-- A needle stands at an offset of a text. -/
def StandsAt (needle text : Text) (offset : Nat) : Prop :=
  ∃ before after, text = before ++ needle ++ after ∧ byteLength before = offset

/-- The offsets at which a needle stands, from a given one on. -/
def placesFrom (start : Nat) (needle text : Text) : Set Nat :=
  {offset | start ≤ offset ∧ StandsAt needle text offset}

/-- An offset that does not lie inside of a character. -/
def IsBoundary (text : Text) (offset : Nat) : Prop :=
  ∃ before after, text = before ++ after ∧ byteLength before = offset

theorem byteLength_pos (nonempty : text ≠ []) : 0 < byteLength text := by
  cases text with
  | nil => exact absurd rfl nonempty
  | cons c rest => exact Nat.lt_of_lt_of_le c.utf8Size_pos (Nat.le_add_right _ _)

theorem byteLength_replicate (count : Nat) (c : Char) :
    byteLength (List.replicate count c) = count * c.utf8Size := by
  induction count with
  | zero => rw [List.replicate_zero, byteLength, Nat.zero_mul]
  | succ count inductionHypothesis =>
      rw [List.replicate_succ, byteLength, inductionHypothesis, Nat.succ_mul, Nat.add_comm]

/-- Of two beginnings of a text the one with fewer octets is the beginning of the other. -/
theorem prefix_of_byteLength_le {first second : Text} (firstFront : first <+: text)
    (secondFront : second <+: text) (shorter : byteLength first ≤ byteLength second) :
    first <+: second := by
  rcases List.prefix_or_prefix_of_prefix firstFront secondFront with inside | inside
  · exact inside
  · rcases inside with ⟨more, split⟩
    have lengths := congrArg byteLength split
    rw [byteLength_append] at lengths
    rw [eq_of_byteLength_eq firstFront secondFront (by omega)]

/-- Behind a beginning of a text occurrences are those in the rest. -/
theorem standsAt_append_iff {offset : Nat} :
    StandsAt needle (front ++ rest) (byteLength front + offset) ↔ StandsAt needle rest offset := by
  constructor
  · rintro ⟨before, after, same, place⟩
    have isFront : before <+: front ++ rest := ⟨needle ++ after, by rw [same, List.append_assoc]⟩
    rcases prefix_of_byteLength_le (List.prefix_append front rest) isFront (by omega) with
      ⟨inRest, rfl⟩
    rw [List.append_assoc, List.append_assoc, List.append_cancel_left_eq] at same
    rw [byteLength_append] at place
    exact ⟨inRest, after, by rw [same, List.append_assoc], by omega⟩
  · rintro ⟨before, after, rfl, rfl⟩
    exact ⟨front ++ before, after, by simp only [List.append_assoc], byteLength_append _ _⟩

theorem placesFrom_append {offset : Nat} :
    offset ∈ placesFrom (byteLength front) needle (front ++ rest) ↔
      ∃ place, StandsAt needle rest place ∧ offset = byteLength front + place := by
  constructor
  · rintro ⟨behind, stands⟩
    rcases Nat.exists_eq_add_of_le behind with ⟨place, rfl⟩
    exact ⟨place, standsAt_append_iff.mp stands, rfl⟩
  · rintro ⟨place, stands, rfl⟩
    exact ⟨Nat.le_add_right _ _, standsAt_append_iff.mpr stands⟩

/-! ## The first occurrence -/

/-- What is found behind the beginning of a text stands at the least offset there. -/
theorem isLeast_of_cut? (front : Text) {before after : Text}
    (found : cut? needle rest = some (before, after)) :
    IsLeast (placesFrom (byteLength front) needle (front ++ rest))
      (byteLength (front ++ before)) := by
  rw [byteLength_append]
  refine ⟨placesFrom_append.mpr ⟨_, ⟨before, after, eq_of_cut? found, rfl⟩, rfl⟩, ?_⟩
  intro offset member
  rcases placesFrom_append.mp member with ⟨_, ⟨earlier, back, same, rfl⟩, rfl⟩
  rcases cut?_of_occurrence needle earlier back with ⟨first, behind, foundFirst, later⟩
  rw [← same, found] at foundFirst
  rcases Prod.mk.inj (Option.some.inj foundFirst) with ⟨rfl, rfl⟩
  rcases later with ⟨between, rfl⟩
  have lengths := congrArg byteLength ((eq_of_cut? found).symm.trans same)
  simp only [byteLength_append] at lengths
  omega

theorem placesFrom_eq_empty_iff (front : Text) :
    placesFrom (byteLength front) needle (front ++ rest) = ∅ ↔ cut? needle rest = none := by
  rw [Set.eq_empty_iff_forall_notMem]
  constructor
  · intro nowhere
    cases found : cut? needle rest with
    | none => rfl
    | some parts => exact absurd (isLeast_of_cut? front found).1 (nowhere _)
  · intro absent offset member
    rcases placesFrom_append.mp member with ⟨_, ⟨before, after, rfl, _⟩, _⟩
    rcases cut?_of_occurrence needle before after with ⟨first, behind, found, _⟩
    rw [absent] at found
    cases found

/-! ## Cutting at occurrences -/

/-- The offsets of the separators between joined parts. -/
def seams (separator : Text) : List Text → List Nat
  | part :: next :: parts =>
    byteLength part :: (seams separator (next :: parts)).map (byteLength (part ++ separator) + ·)
  | _ => []

theorem join_cons_cons (separator part next : Text) (parts : List Text) :
    join separator (part :: next :: parts) = part ++ separator ++ join separator (next :: parts) :=
  List.intercalate_cons_cons

theorem standsAt_of_mem_seams {separator : Text} {parts : List Text} {offset : Nat}
    (member : offset ∈ seams separator parts) :
    StandsAt separator (join separator parts) offset := by
  induction parts generalizing offset with
  | nil => cases member
  | cons part parts inductionHypothesis =>
      cases parts with
      | nil => cases member
      | cons next parts =>
          rw [join_cons_cons]
          rcases List.mem_cons.mp member with rfl | later
          · exact ⟨part, _, rfl, rfl⟩
          · rcases List.mem_map.mp later with ⟨place, inRest, rfl⟩
            exact standsAt_append_iff.mpr (inductionHypothesis inRest)

/-- Every occurrence of a needle is one at which a text is cut, or overlaps one before it at
which the text is cut. -/
def CutAtCopies (needle text : Text) (parts : List Text) : Prop :=
  join needle parts = text ∧ ∀ offset, StandsAt needle text offset →
    ∃ seam ∈ seams needle parts, seam ≤ offset ∧ offset < seam + byteLength needle

/-- The replacing pass cuts a text at copies of the needle and joins the parts with the value. -/
theorem exists_parts (nonempty : needle ≠ []) (text : Text) :
    ∃ part parts, CutAtCopies needle text (part :: parts) ∧
      ∀ value, replaceAll needle value text = join value (part :: parts) := by
  have positive := byteLength_pos nonempty
  induction text using replace_induction nonempty with
  | nil =>
      refine ⟨[], [], ⟨rfl, ?_⟩, fun value => rfl⟩
      rintro _ ⟨before, after, same, _⟩
      have noNeedle := (List.append_eq_nil_iff.mp same.symm).1
      exact absurd (List.append_eq_nil_iff.mp noNeedle).2 nonempty
  | hit rest inductionHypothesis =>
      rcases inductionHypothesis with ⟨part, parts, ⟨whole, covered⟩, replaced⟩
      refine ⟨[], part :: parts, ⟨?_, ?_⟩, fun value => ?_⟩
      · rw [join_cons_cons, whole, List.nil_append]
      · intro offset stands
        by_cases inside : offset < byteLength needle
        · exact ⟨0, List.mem_cons_self, Nat.zero_le _, by omega⟩
        · rcases Nat.exists_eq_add_of_le (Nat.le_of_not_lt inside) with ⟨place, rfl⟩
          rcases covered place (standsAt_append_iff.mp stands) with ⟨seam, member, low, high⟩
          exact ⟨byteLength needle + seam,
            List.mem_cons_of_mem _ (List.mem_map.mpr ⟨seam, member, rfl⟩), by omega, by omega⟩
      · rw [replaceAll_needle_append nonempty, replaced, join_cons_cons, List.nil_append]
  | miss c rest absent inductionHypothesis =>
      rcases inductionHypothesis with ⟨part, parts, ⟨whole, covered⟩, replaced⟩
      have joined (separator : Text) : join separator ((c :: part) :: parts) =
          c :: join separator (part :: parts) := by
        cases parts with
        | nil => rfl
        | cons next parts => rw [join_cons_cons, join_cons_cons]; rfl
      have moved {seam : Nat} (member : seam ∈ seams needle (part :: parts)) :
          c.utf8Size + seam ∈ seams needle ((c :: part) :: parts) := by
        cases parts with
        | nil => cases member
        | cons next parts =>
            rcases List.mem_cons.mp member with rfl | later
            · exact List.mem_cons_self
            · rcases List.mem_map.mp later with ⟨place, inRest, rfl⟩
              refine List.mem_cons_of_mem _ (List.mem_map.mpr ⟨place, inRest, ?_⟩)
              rw [List.cons_append, byteLength, Nat.add_assoc]
      refine ⟨c :: part, parts, ⟨?_, ?_⟩, fun value => ?_⟩
      · rw [joined, whole]
      · rintro offset ⟨before, after, same, rfl⟩
        cases before with
        | nil => exact absurd ⟨after, same.symm⟩ absent
        | cons first before =>
            rcases List.cons.inj same with ⟨rfl, later⟩
            rcases covered _ ⟨before, after, later, rfl⟩ with ⟨seam, member, low, high⟩
            rw [byteLength]
            exact ⟨c.utf8Size + seam, moved member, by omega, by omega⟩
      · rw [replaceAll_cons_of_miss absent, replaced, joined]

/-! ## Occurrences that do not overlap -/

/-- No two occurrences of a needle in a text overlap. -/
def KeepsApart (needle text : Text) : Prop :=
  ∀ first second, StandsAt needle text first → StandsAt needle text second → first < second →
    first + byteLength needle ≤ second

/-- No proper part of a needle both begins and ends it. -/
def Unbordered (needle : Text) : Prop :=
  ∀ border, border ≠ [] → border ≠ needle → border <+: needle → ¬ border <:+ needle

theorem Unbordered.keepsApart (unbordered : Unbordered needle) (text : Text) :
    KeepsApart needle text := by
  rintro _ _ ⟨before, after, rfl, rfl⟩ ⟨longer, back, same, rfl⟩ earlier
  have firstFront : before <+: before ++ needle ++ after :=
    ⟨needle ++ after, (List.append_assoc _ _ _).symm⟩
  have secondFront : longer <+: before ++ needle ++ after :=
    ⟨needle ++ back, by rw [same, List.append_assoc]⟩
  rcases prefix_of_byteLength_le firstFront secondFront (Nat.le_of_lt earlier) with ⟨gap, rfl⟩
  have inside : needle ++ after = gap ++ (needle ++ back) := by
    simpa only [List.append_assoc, List.append_cancel_left_eq] using same
  rw [byteLength_append] at earlier ⊢
  rcases List.append_eq_append_iff.mp inside with ⟨behind, rfl, _⟩ | ⟨border, split, rest⟩
  · rw [byteLength_append]
    omega
  -- What is left of the first occurrence begins the second.
  · have ends : border <:+ needle := ⟨gap, split.symm⟩
    have lengths := congrArg byteLength split
    rw [byteLength_append] at lengths
    have begins : border <+: needle := by
      apply prefix_of_byteLength_le ⟨after, rest.symm⟩ (List.prefix_append needle back)
      omega
    by_cases noBorder : border = []
    · rw [noBorder, byteLength] at lengths
      omega
    · apply absurd ends
      apply unbordered border noBorder _ begins
      intro whole
      rw [whole] at lengths
      omega

/-- Where no occurrences overlap, a text is cut at all of them and nowhere else. -/
theorem CutAtCopies.standsAt_iff {parts : List Text} (cut : CutAtCopies needle text parts)
    (apart : KeepsApart needle text) {offset : Nat} :
    StandsAt needle text offset ↔ offset ∈ seams needle parts := by
  rcases cut with ⟨rfl, covered⟩
  constructor
  · intro stands
    rcases covered offset stands with ⟨seam, member, low, high⟩
    rcases Nat.eq_or_lt_of_le low with same | less
    · exact same ▸ member
    · have behind := apart seam offset (standsAt_of_mem_seams member) stands less
      omega
  · exact standsAt_of_mem_seams

/-- The only occurrence of a needle is replaced alone. -/
theorem replaceAll_of_alone {before after : Text} (nonempty : needle ≠ [])
    (alone : ∀ offset, StandsAt needle (before ++ needle ++ after) offset →
      offset = byteLength before) (value : Text) :
    replaceAll needle value (before ++ needle ++ after) = before ++ value ++ after := by
  have positive := byteLength_pos nonempty
  have notBefore : ¬ needle <:+: before := by
    rintro ⟨left, right, rfl⟩
    have place := alone _ ⟨left, right ++ needle ++ after, by simp only [List.append_assoc], rfl⟩
    simp only [byteLength_append] at place
    omega
  have notAfter : ¬ needle <:+: after := by
    rintro ⟨left, right, rfl⟩
    have place := alone _
      ⟨before ++ needle ++ left, right, by simp only [List.append_assoc], rfl⟩
    simp only [byteLength_append] at place
    omega
  have seam : ¬ Straddles needle before (needle ++ after) := by
    rintro ⟨front, back, split, frontNonempty, _, ⟨left, rfl⟩, ⟨right, joined⟩⟩
    have early := byteLength_pos frontNonempty
    have place := alone _ ⟨left, right, by
      rw [List.append_assoc, ← joined, split]
      simp only [List.append_assoc], rfl⟩
    rw [byteLength_append] at place
    omega
  rw [List.append_assoc, replaceAll_append nonempty seam, replaceAll_of_not_infix notBefore,
    replaceAll_needle_append nonempty, replaceAll_of_not_infix notAfter, List.append_assoc]

end MediaSite.Text
