import Mathlib.Algebra.Group.Nat.Defs
import MediaSite.Json.Record

namespace MediaSite.Json

/-!
# Numbers in JSON

A decoder accepts a double only if it is finite.  Doubles that come from whole numbers are, since
a number of 64 bits stays far below the greatest exponent, wherever rounding takes it.  So a double
that has been read is finite, whatever it was read from.  A natural number of some width is
written with its digits and read again as it is.
-/

open Float.Model Float.Model.UnpackedFloat

/-! ## Finite doubles -/

/-- A double taken apart that is finite, also when it is put together. -/
def Moderate : UnpackedFloat → Prop
  | .zero _ => True
  | .finite _ _ exponent _ => exponent ≤ 971
  | _ => False

variable {parts : UnpackedFloat}

theorem Moderate.isFinite (moderate : Moderate parts) : parts.isFinite = true := by
  cases parts with
  | infinity => cases moderate
  | notANumber => cases moderate
  | zero => rfl
  | finite => rfl

/-- Bits that do not have the greatest exponent are taken apart into something finite. -/
theorem moderate_unpack_bits {bits : BitVec Format.binary64.numBits}
    (other : unpackExponent bits ≠ -1#_) :
    Moderate (UnpackedFloat.unpack Format.binary64 bits) := by
  unfold UnpackedFloat.unpack
  rw [if_neg other]
  by_cases least : unpackExponent bits = 0#_
  · rw [if_pos least]
    by_cases zero : unpackMantissa bits = 0#_
    · rw [dif_pos zero]
      trivial
    · rw [dif_neg zero]
      show ((unpackExponent bits).toNat : Int) - ((1023 : Nat) + (52 : Nat)) + 1 ≤ 971
      rw [least]
      decide
  · rw [if_neg least]
    have bound := (unpackExponent bits).isLt
    have different : (unpackExponent bits).toNat ≠ 2047 :=
      fun greatest => other (BitVec.eq_of_toNat_eq greatest)
    generalize (unpackExponent bits).toNat = exponent at bound different
    show (exponent : Int) - ((1023 : Nat) + (52 : Nat)) ≤ 971
    have below : exponent < 2048 := bound
    omega

/-- The doubles that are not finite have the greatest exponent there is. -/
theorem isFinite_unpack_iff (bits : BitVec Format.binary64.numBits) :
    (UnpackedFloat.unpack Format.binary64 bits).isFinite = true ↔ unpackExponent bits ≠ -1#_ := by
  refine ⟨fun finite greatest => ?_, fun other => (moderate_unpack_bits other).isFinite⟩
  unfold UnpackedFloat.unpack at finite
  rw [if_pos greatest] at finite
  by_cases zero : unpackMantissa bits = 0#_
  · rw [if_pos zero] at finite
    cases finite
  · rw [if_neg zero] at finite
    cases finite

theorem moderate_unpack {model : Float.Model} (finite : model.isFinite = true) :
    Moderate model.unpack :=
  moderate_unpack_bits ((isFinite_unpack_iff _).mp finite)

theorem ofNat_ne_greatest {n : Nat} (small : ¬ 2048 ≤ n + 1) : BitVec.ofNat 11 n ≠ -1#11 := by
  intro greatest
  have same : (BitVec.ofNat 11 n).toNat = 2047 := congrArg BitVec.toNat greatest
  rw [BitVec.toNat_ofNat, Nat.mod_eq_of_lt (by omega)] at same
  omega

theorem isFinite_pack (moderate : Moderate parts) : (Float.Model.pack parts).isFinite = true := by
  refine (isFinite_unpack_iff _).mpr ?_
  show unpackExponent (UnpackedFloat.pack Format.binary64 parts) ≠ -1#_
  cases parts with
  | infinity => cases moderate
  | notANumber => cases moderate
  | zero sign =>
      show unpackExponent (packComponents Format.binary64 sign _ _) ≠ -1#_
      rw [unpackExponent_packComponents]
      decide
  | finite sign mantissa exponent positive =>
      have fits : ¬ 2048 ≤ (exponent + 1023 + 52).toNat + 1 := by
        have bound : exponent ≤ 971 := moderate
        omega
      show unpackExponent (if 2048 ≤ (exponent + 1023 + 52).toNat + 1 then _ else _) ≠ -1#_
      rw [if_neg fits]
      split
      · rw [unpackExponent_packComponents]
        exact ofNat_ne_greatest fits
      · rw [unpackExponent_packComponents]
        decide

theorem isFinite_neg {value : Float} (finite : value.isFinite = true) :
    (-value).isFinite = true := by
  show (Float.Model.pack value.toModel.unpack.neg).isFinite = true
  refine isFinite_pack ?_
  have moderate := moderate_unpack finite
  revert moderate
  cases value.toModel.unpack <;> exact id

/-! ## Doubles from whole numbers -/

theorem log2_lt {mantissa bits : Nat} (positive : 0 < bits) (small : mantissa < 2 ^ bits) :
    mantissa.log2 < bits := by
  by_cases zero : mantissa = 0
  · rw [zero]
    exact positive
  · exact (Nat.log2_lt zero).mpr small

theorem mantissa_shiftRight_le (extended : ExtendedMantissa) (places : Nat) :
    (extended >>> places).mantissa ≤ extended.mantissa := by
  induction places with
  | zero => exact Nat.le_refl _
  | succ places inductionHypothesis =>
      exact Nat.le_trans (Nat.div_le_self _ 2) inductionHypothesis

theorem roundedMantissa_le (extended : ExtendedMantissa) :
    extended.roundedMantissa ≤ extended.mantissa + 1 := by
  rcases extended with ⟨mantissa, half, more⟩
  cases half <;> cases more <;>
    simp only [ExtendedMantissa.roundedMantissa, ExtendedMantissa.accuracy,
      Accuracy.roundToNearestEven] <;> omega

/-- Where shifting takes the exponent of a mantissa of some bits. -/
theorem shiftToTargetExponent_le {mantissa bits : Nat} (positive : 0 < bits)
    (small : mantissa < 2 ^ bits) (exponent : Int) :
    let shifted := shiftToTargetExponent Format.binary64 mantissa exponent .exact
    shifted.1.mantissa ≤ mantissa ∧
      shifted.2 ≤ max exponent (max (bits + exponent - 53) (-1074)) := by
  have length := log2_lt positive small
  refine ⟨mantissa_shiftRight_le _ _, ?_⟩
  have target : Format.binary64.targetExponent (totalExponent mantissa exponent) =
      max ((mantissa.log2 : Int) + 1 + exponent - 53) (-1074) := rfl
  show exponent + ((Format.binary64.targetExponent (totalExponent mantissa exponent) -
    exponent).toNat : Int) ≤ _
  rw [target]
  omega

/-- A mantissa is rounded between two shifts. -/
theorem roundWithAccuracy_eq {mantissa : Nat} {exponent raised last : Int}
    {extended final : ExtendedMantissa} (sign : Sign)
    (shifted : shiftToTargetExponent Format.binary64 mantissa exponent .exact =
      (extended, raised))
    (again : shiftToTargetExponent Format.binary64 extended.roundedMantissa raised .exact =
      (final, last)) :
    roundWithAccuracy Format.binary64 sign mantissa exponent .exact =
      if zero : final.mantissa = 0 then .zero sign
      else .finite sign final.mantissa last (Nat.pos_of_ne_zero zero) := by
  unfold roundWithAccuracy
  rw [shifted]
  dsimp only
  rw [again]

/-- Rounding a mantissa of moderate size does not raise the exponent much. -/
theorem moderate_roundWithAccuracy {mantissa : Nat} {exponent : Int} (sign : Sign)
    (small : mantissa < 2 ^ 116) (low : exponent ≤ 0) :
    Moderate (roundWithAccuracy Format.binary64 sign mantissa exponent .exact) := by
  rcases shiftToTargetExponent_le (by decide) small exponent with ⟨less, first⟩
  generalize shifted : shiftToTargetExponent Format.binary64 mantissa exponent .exact = one
    at less first
  rcases one with ⟨extended, raised⟩
  have rounded : extended.roundedMantissa < 2 ^ 117 := by
    have carry := roundedMantissa_le extended
    simp only at less
    omega
  have second := (shiftToTargetExponent_le (by decide) rounded raised).2
  generalize again : shiftToTargetExponent Format.binary64 extended.roundedMantissa raised
    .exact = two at second
  rcases two with ⟨final, last⟩
  rw [roundWithAccuracy_eq sign shifted again]
  by_cases zero : final.mantissa = 0
  · rw [dif_pos zero]
    trivial
  · rw [dif_neg zero]
    show last ≤ 971
    simp only at first second
    omega

theorem moderate_round {mantissa : Nat} (sign : Sign) (small : mantissa < 2 ^ 64) :
    Moderate (UnpackedFloat.round Format.binary64 sign mantissa 0) := by
  have target : -52 ≤ Format.binary64.targetExponent (totalExponent mantissa 0) := by
    show -52 ≤ max ((mantissa.log2 : Int) + 1 + 0 - 53) (-1074)
    omega
  simp only [UnpackedFloat.round, decreaseExponent]
  generalize Format.binary64.targetExponent (totalExponent mantissa 0) = exponent at target
  refine moderate_roundWithAccuracy sign ?_ (by omega)
  have places : (0 - exponent).toNat ≤ 52 := by omega
  calc mantissa <<< (0 - exponent).toNat
      = mantissa * 2 ^ (0 - exponent).toNat := Nat.shiftLeft_eq _ _
    _ ≤ mantissa * 2 ^ 52 := Nat.mul_le_mul_left _ (Nat.pow_le_pow_right (by decide) places)
    _ < 2 ^ 64 * 2 ^ 52 := Nat.mul_lt_mul_of_pos_right small (by decide)
    _ = 2 ^ 116 := by decide

theorem moderate_ofUInt64 (n : UInt64) : Moderate (UnpackedFloat.ofUInt64 Format.binary64 n) := by
  have small : n.toNat < 2 ^ 64 := n.toNat_lt
  show Moderate (UnpackedFloat.normalize Format.binary64 (n.toNat : Int) 0 .positive)
  unfold UnpackedFloat.normalize
  split
  · exact moderate_round .negative (by omega)
  · trivial
  · exact moderate_round .positive (by omega)

theorem isFinite_toFloat (n : UInt64) : n.toFloat.isFinite = true :=
  isFinite_pack (moderate_ofUInt64 n)

/-! ## Reading numbers again -/

/-- A double that was read is finite. -/
theorem isFinite_of_asFloat {json : Json} {value : Float} (read : asFloat json = some value) :
    value.isFinite = true := by
  cases json with
  | real number =>
      rw [asFloat] at read
      split at read
      · rename_i finite
        cases read
        exact finite
      · cases read
  | whole number =>
      cases read
      split
      · exact isFinite_neg (isFinite_toFloat _)
      · exact isFinite_toFloat _
  | _ => cases read

theorem asNatural_ofNatural {bound n : Nat} (small : n < bound) :
    asNatural bound (ofNatural n) = some n :=
  if_pos ⟨Int.natCast_nonneg n, Int.ofNat_lt.mpr small⟩

theorem asUInt64_ofNatural (n : UInt64) : asUInt64 (ofNatural n.toNat) = some n := by
  rw [asUInt64, asNatural_ofNatural n.toNat_lt, Option.map_some, UInt64.ofNat_toNat]

theorem asUInt32_ofNatural (n : UInt32) : asUInt32 (ofNatural n.toNat) = some n := by
  rw [asUInt32, asNatural_ofNatural n.toNat_lt, Option.map_some, UInt32.ofNat_toNat]

theorem asUInt16_ofNatural (n : UInt16) : asUInt16 (ofNatural n.toNat) = some n := by
  rw [asUInt16, asNatural_ofNatural n.toNat_lt, Option.map_some, UInt16.ofNat_toNat]

end MediaSite.Json
