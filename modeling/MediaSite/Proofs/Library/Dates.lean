import MediaSite.Library.Calendar
import MediaSite.Proofs.Text.Digits

namespace MediaSite

/-!
# Dates and times in their written form

What is written is read back: each part has so many digits that reading stops behind it, with the
digits that it may have at most or at the mark that follows.  A year that is not written with four
digits has a sign, which lets it have as many as it needs.
-/

open Text
open scoped Text

namespace Calendar

variable {digits rest : Text} {width n : Nat}

/-! ## Parts -/

/-- A run of digits is read as far as it goes. -/
theorem digits?_append (all : AllDigits digits) (value : toNat? digits = some n)
    (fits : digits.length ≤ width)
    (ends : (rest.take (width - digits.length)).takeWhile Char.isDigit = []) :
    digits? width (digits ++ rest) = some (n, rest) := by
  have run : ((digits ++ rest).take width).takeWhile Char.isDigit = digits := by
    rw [List.take_append, List.take_of_length_le fits, List.takeWhile_append_of_pos all, ends,
      List.append_nil]
  simp only [digits?, run, value, List.drop_left]
  rfl

/-- A number that has all the digits it may have. -/
theorem digits?_padLeft (positive : 0 < width) (small : n < 10 ^ width) (rest : Text) :
    digits? width (padLeft width '0' (ofNat n) ++ rest) = some (n, rest) := by
  have length := length_padLeft positive small
  refine digits?_append (allDigits_padLeft width n) (toNat?_padLeft width n)
    (Nat.le_of_eq length) ?_
  rw [length, Nat.sub_self]
  rfl

theorem number?_twoDigits (small : n < 100) (rest : Text) :
    number? 2 (Date.twoDigits n ++ rest) = some (n, rest) := by
  rw [number?, Date.twoDigits, trimStart_digits (padLeft_ne_nil 2 n) (allDigits_padLeft 2 n)]
  exact digits?_padLeft (by decide) small rest

theorem mark?_cons {mark : Char} (noBlank : isBlank mark = false) (rest : Text) :
    mark? mark (mark :: rest) = some rest := by
  rw [mark?, trimStart_cons noBlank]
  exact if_pos rfl

/-- Without a sign a year has four digits. -/
theorem year?_digits (filled : digits ≠ []) (all : AllDigits digits) (rest : Text) :
    year? (digits ++ rest) =
      (digits? 4 (digits ++ rest)).map fun read => ((read.1 : Int), read.2) := by
  rw [year?, trimStart_digits filled all]
  cases digits with
  | nil => exact absurd rfl filled
  | cons c digits =>
      have digit := all c List.mem_cons_self
      split
      · rename_i sign
        cases sign
        cases digit
      · rename_i sign
        cases sign
        cases digit
      · rfl

theorem year?_yearText (year : Int) (rest : Text) :
    year? (Date.yearText year ++ '-' :: rest) = some (year, '-' :: rest) := by
  have signed : digits? (padLeft 4 '0' (ofNat year.natAbs) ++ '-' :: rest).length
      (padLeft 4 '0' (ofNat year.natAbs) ++ '-' :: rest) = some (year.natAbs, '-' :: rest) := by
    refine digits?_append (allDigits_padLeft 4 _) (toNat?_padLeft 4 _) ?_ ?_
    · rw [List.length_append]
      exact Nat.le_add_right _ _
    · rw [List.length_append, Nat.add_sub_cancel_left, List.take_length]
      rfl
  unfold Date.yearText
  simp only
  split
  · rename_i four
    rw [year?_digits (padLeft_ne_nil 4 _) (allDigits_padLeft 4 _),
      digits?_padLeft (by decide) (by omega)]
    exact congrArg (fun year => some (year, '-' :: rest)) (Int.natAbs_of_nonneg four.1)
  · rename_i sign
    split
    · rename_i negative
      rw [List.cons_append, year?, trimStart_cons (by decide)]
      simp only [signed, Option.map_some]
      exact congrArg (fun year => some (year, '-' :: rest)) (by omega)
    · rename_i positive
      rw [List.cons_append, year?, trimStart_cons (by decide)]
      simp only [signed, Option.map_some]
      exact congrArg (fun year => some (year, '-' :: rest)) (by omega)

end Calendar

/-! ## Days -/

theorem IsDay.bounds {year : Int} {month day : Nat} (real : IsDay year month day) :
    month ≤ 12 ∧ day ≤ 31 := by
  rcases real with ⟨_, positive, within⟩
  unfold daysInMonth at within
  split at within
  · split at within <;> omega
  · split at within
    · rename_i short
      simp only [Bool.or_eq_true, decide_eq_true_eq] at short
      omega
    · split at within
      · rename_i long
        simp only [Bool.and_eq_true, decide_eq_true_eq] at long
        omega
      · omega

theorem Date.toText_append (date : Date) (rest : Text) : date.toText ++ rest =
    yearText date.year ++ '-' :: (twoDigits date.month ++ '-' :: (twoDigits date.day ++ rest)) := by
  simp [toText]

/-- A day is read back, and the blanks behind it are skipped. -/
theorem Calendar.date?_toText (date : Date) (rest : Text) :
    date? (date.toText ++ rest) = some (date, trimStart rest) := by
  rcases date.exists_day.bounds with ⟨month, day⟩
  have parts : Date.ofParts? date.year date.month date.day = some date :=
    dif_pos date.exists_day
  rw [Date.toText_append]
  simp only [date?, Option.bind_eq_bind, year?_yearText, Option.bind_some,
    mark?_cons (show isBlank '-' = false by decide),
    number?_twoDigits (Nat.lt_of_le_of_lt month (by decide)),
    number?_twoDigits (Nat.lt_of_le_of_lt day (by decide)), parts]
  rfl

/-- Every day is read back from its text. -/
theorem Date.parse?_toText (date : Date) : parse? date.toText = some date := by
  have read := Calendar.date?_toText date []
  rw [List.append_nil] at read
  rw [parse?, read]
  rfl

/-! ## Moments -/

theorem Calendar.fraction?_fractionText {nanosecond : Nat} (small : nanosecond < 1000000000) :
    fraction? (DateTime.fractionText nanosecond) = some (nanosecond, []) := by
  have reading {width n : Nat} (positive : 0 < width) (atMost : width ≤ 9) (fits : n < 10 ^ width) :
      fraction? ('.' :: padLeft width '0' (ofNat n)) = some (n * 10 ^ (9 - width), []) := by
    have length := length_padLeft positive fits
    have read : digits? 9 (padLeft width '0' (ofNat n)) = some (n, []) := by
      have all : digits? 9 (padLeft width '0' (ofNat n) ++ []) = some (n, []) :=
        digits?_append (allDigits_padLeft width n) (toNat?_padLeft width n)
          (length.symm ▸ atMost) (by rw [List.take_nil, List.takeWhile_nil])
      rwa [List.append_nil] at all
    simp only [fraction?, read, length]
    rfl
  unfold DateTime.fractionText
  split
  · rename_i zero
    rw [zero]
    rfl
  · split
    · rename_i millis
      refine (reading (by decide) (by decide) (by omega)).trans ?_
      exact congrArg (fun n => some (n, [])) (by omega)
    · split
      · rename_i micros
        refine (reading (by decide) (by decide) (by omega)).trans ?_
        exact congrArg (fun n => some (n, [])) (by omega)
      · refine (reading (by decide) (by decide) (by omega)).trans ?_
        exact congrArg (fun n => some (n, [])) (by omega)

theorem DateTime.toText_eq (moment : DateTime) : moment.toText =
    moment.date.toText ++ 'T' :: (Date.twoDigits moment.hour ++
      ':' :: (Date.twoDigits moment.minute ++ ':' :: (Date.twoDigits moment.second ++
        fractionText moment.nanosecond))) := by
  simp [toText]

/-- Every moment is read back from its text, with its fraction and in a leap second. -/
theorem DateTime.parse?_toText (moment : DateTime) : parse? moment.toText = some moment := by
  rcases moment.exists_time with ⟨hour, minute, second, nanosecond⟩
  have parts : ofParts? moment.date moment.hour moment.minute moment.second moment.nanosecond =
      some moment := dif_pos moment.exists_time
  rw [toText_eq]
  simp only [parse?, Option.bind_eq_bind, Calendar.date?_toText, Option.bind_some,
    trimStart_cons (show isBlank 'T' = false by decide),
    Calendar.mark?_cons (show isBlank 'T' = false by decide),
    Calendar.mark?_cons (show isBlank ':' = false by decide),
    Calendar.number?_twoDigits (Nat.lt_trans hour (by decide)),
    Calendar.number?_twoDigits (Nat.lt_trans minute (by decide)),
    Calendar.number?_twoDigits (Nat.lt_of_le_of_lt second (by decide)),
    Calendar.fraction?_fractionText nanosecond, parts]
  rfl

end MediaSite
