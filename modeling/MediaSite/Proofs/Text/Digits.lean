import Mathlib.Algebra.Group.Nat.Defs
import MediaSite.Text.Blank

namespace MediaSite.Text

/-!
# Reading numbers back

A number that is written with zeros in front of its digits, or without, is read as itself.
-/

variable {digits : Text} {c : Char} {width n : Nat}

/-- A text of digits and nothing else. -/
def AllDigits (text : Text) : Prop :=
  ∀ c ∈ text, c.isDigit = true

/-- A run of digits is read as the number that it denotes. -/
theorem toNat?_eq_some (filled : digits ≠ []) (all : AllDigits digits) :
    toNat? digits = some (Nat.ofDigitChars 10 digits 0) := by
  have reading (value : Nat) : digits.foldl (fun value c => do
      let value ← value
      let digit ← digitValue? c
      some (10 * value + digit)) (some value) = some (Nat.ofDigitChars 10 digits value) := by
    clear filled
    induction digits generalizing value with
    | nil => rfl
    | cons c digits inductionHypothesis =>
        rcases List.forall_mem_cons.mp all with ⟨digit, others⟩
        rw [List.foldl_cons, Nat.ofDigitChars_cons, ← inductionHypothesis others, digitValue?,
          if_pos digit]
        rfl
  rw [toNat?, List.isEmpty_eq_false_iff.mpr filled, if_neg Bool.false_ne_true]
  exact reading 0

/-! ## Numbers with zeros in front -/

theorem ofNat_ne_nil (n : Nat) : ofNat n ≠ [] :=
  List.ne_nil_of_length_pos Nat.length_toDigits_pos

theorem allDigits_padLeft (width n : Nat) : AllDigits (padLeft width '0' (ofNat n)) := by
  intro c member
  rcases List.mem_append.mp member with zero | digit
  · rw [List.eq_of_mem_replicate zero]
    rfl
  · exact Nat.isDigit_of_mem_toDigits (by decide) (by decide) digit

theorem padLeft_ne_nil (width n : Nat) : padLeft width '0' (ofNat n) ≠ [] :=
  List.append_ne_nil_of_right_ne_nil _ (ofNat_ne_nil n)

theorem toNat?_padLeft (width n : Nat) : toNat? (padLeft width '0' (ofNat n)) = some n := by
  rw [toNat?_eq_some (padLeft_ne_nil width n) (allDigits_padLeft width n), padLeft,
    Nat.ofDigitChars_append, Nat.ofDigitChars_replicate_zero, Nat.mul_zero, ofNat,
    Nat.ofDigitChars_ten_toDigits]

/-- A number with at most so many digits is filled up to exactly so many. -/
theorem length_padLeft (positive : 0 < width) (small : n < 10 ^ width) :
    (padLeft width '0' (ofNat n)).length = width := by
  have fits : (ofNat n).length ≤ width := (Nat.length_toDigits_le_iff (by decide) positive).mpr small
  rw [padLeft, List.length_append, List.length_replicate]
  omega

/-! ## Blanks -/

theorem isBlank_of_isDigit (digit : c.isDigit = true) : isBlank c = false := by
  have range : 48 ≤ c.toNat ∧ c.toNat ≤ 57 := by
    simp only [Char.isDigit, Bool.and_eq_true, decide_eq_true_eq] at digit
    exact digit
  simp only [isBlank, Bool.or_eq_false_iff, Bool.and_eq_false_iff, decide_eq_false_iff_not,
    beq_eq_false_iff_ne]
  omega

theorem trimStart_cons (noBlank : isBlank c = false) (rest : Text) :
    trimStart (c :: rest) = c :: rest :=
  List.dropWhile_cons_of_neg (Bool.eq_false_iff.mp noBlank)

/-- Digits at the beginning are no blanks. -/
theorem trimStart_digits (filled : digits ≠ []) (all : AllDigits digits) (rest : Text) :
    trimStart (digits ++ rest) = digits ++ rest := by
  cases digits with
  | nil => exact absurd rfl filled
  | cons c digits =>
      exact trimStart_cons (isBlank_of_isDigit (all c List.mem_cons_self)) (digits ++ rest)

end MediaSite.Text
