/-
TaskFlow.Proofs.Binary.Nearest — rounding to the nearest double does not fall below a power of two.

The code that a ratio is rounded to is the shift of its leading bits and their rounded value, added
up; a value that rounding carries to the next power of two moves the shift by itself. So the
magnitude of the code is the rounded value times the power that was shifted out (`steps_nearest`),
and it stays at or above every power of two that the ratio reaches. What a double is cut to as a
64-bit integer follows: a ratio of `2 ^ 63` or more goes to the end of the range.

  §1 Codes    — the magnitude of a code from its shift and its significand.
  §2 Rounding — `steps_nearest` and `two_pow_le_steps_nearest`.
  §3 Integers — `saturate_ofRatio`, `saturate_ofDecimal`.
-/
import Mathlib.Algebra.Group.Nat.Defs
import Mathlib.Order.Nat
import Mathlib.Tactic.SplitIfs
import TaskFlow.Binary.Double

namespace TaskFlow.Binary

variable {f : Format} {num den shift significand code e : Nat} {negative : Bool}

/-! ## §1 Codes -/

namespace Format

theorem steps_of_lt (h : code < 2 ^ f.fractionBits) : f.steps code = code := by
  have hshift : f.shift code = 0 := by
    rw [Format.shift, Nat.pow_eq, Nat.div_eq_of_lt h]
  rw [steps, hshift, Format.significand, Nat.pow_eq, if_pos h]
  exact Nat.mul_one code

/-- A normal code: the shift counts from one, and the leading bit is left out. -/
theorem steps_normal {fraction : Nat} (h : fraction < 2 ^ f.fractionBits) :
    f.steps ((shift + 1) * 2 ^ f.fractionBits + fraction) =
      (fraction + 2 ^ f.fractionBits) * 2 ^ shift := by
  have hpos : 0 < 2 ^ f.fractionBits := Nat.two_pow_pos _
  have hshift : f.shift ((shift + 1) * 2 ^ f.fractionBits + fraction) = shift := by
    rw [Format.shift, Nat.pow_eq, Nat.mul_comm, Nat.mul_add_div hpos, Nat.div_eq_of_lt h]
    rfl
  have hsignificand : f.significand ((shift + 1) * 2 ^ f.fractionBits + fraction) =
      fraction + 2 ^ f.fractionBits := by
    have hnormal : ¬(shift + 1) * 2 ^ f.fractionBits + fraction < 2 ^ f.fractionBits := by
      rw [Nat.succ_mul]
      omega
    rw [Format.significand, Nat.pow_eq, if_neg hnormal, Nat.mul_comm, Nat.mul_add_mod,
      Nat.mod_eq_of_lt h]
  rw [steps, hshift, hsignificand, Nat.pow_eq]

/-- The code of a significand and its shift. The significand may be a power of two too long: then
the code is the one of the next shift. -/
theorem steps_add (hlower : shift = 0 ∨ 2 ^ f.fractionBits ≤ significand)
    (hupper : significand ≤ 2 ^ (f.fractionBits + 1)) :
    f.steps (shift * 2 ^ f.fractionBits + significand) = significand * 2 ^ shift := by
  rw [Nat.pow_succ] at hupper
  rcases Nat.lt_or_ge significand (2 ^ f.fractionBits) with hsmall | hnormal
  · obtain rfl : shift = 0 := hlower.resolve_right (Nat.not_le.mpr hsmall)
    rw [Nat.zero_mul, Nat.zero_add, steps_of_lt hsmall, Nat.pow_zero, Nat.mul_one]
  · obtain ⟨fraction, rfl⟩ := Nat.exists_eq_add_of_le' hnormal
    rcases Nat.lt_or_ge fraction (2 ^ f.fractionBits) with hfraction | hcarried
    · have hcode : shift * 2 ^ f.fractionBits + (fraction + 2 ^ f.fractionBits) =
          (shift + 1) * 2 ^ f.fractionBits + fraction := by
        rw [Nat.succ_mul]
        omega
      rw [hcode, steps_normal hfraction]
    · obtain rfl : fraction = 2 ^ f.fractionBits := by omega
      have hcode : shift * 2 ^ f.fractionBits + (2 ^ f.fractionBits + 2 ^ f.fractionBits) =
          (shift + 1 + 1) * 2 ^ f.fractionBits + 0 := by
        rw [Nat.succ_mul, Nat.succ_mul]
        omega
      rw [hcode, steps_normal (Nat.two_pow_pos _), Nat.pow_succ, Nat.zero_add, ← Nat.two_mul,
        Nat.mul_comm (2 ^ shift) 2, Nat.mul_left_comm, Nat.mul_assoc]

end Format

/-! ## §2 Rounding -/

theorem le_roundHalfEven (num den : Nat) : num / den ≤ roundHalfEven num den := by
  rw [roundHalfEven]
  split_ifs <;> omega

theorem roundHalfEven_le (num den : Nat) : roundHalfEven num den ≤ num / den + 1 := by
  rw [roundHalfEven]
  split_ifs <;> omega

/-- A ratio is rounded the same way in lowest terms or not. -/
theorem roundHalfEven_mul_right {k : Nat} (hk : 0 < k) (num den : Nat) :
    roundHalfEven (num * k) (den * k) = roundHalfEven num den := by
  have hbelow : 2 * (num % den * k) < den * k ↔ 2 * (num % den) < den := by
    rw [← Nat.mul_assoc, Nat.mul_lt_mul_right hk]
  have habove : den * k < 2 * (num % den * k) ↔ den < 2 * (num % den) := by
    rw [← Nat.mul_assoc, Nat.mul_lt_mul_right hk]
  simp only [roundHalfEven, Nat.mul_div_mul_right _ _ hk, Nat.mul_mod_mul_right, hbelow, habove]

namespace Format

/-- The number of low bits of a whole number of steps that are rounded away. -/
def spare (f : Format) (whole : Nat) : Nat :=
  if whole < 2 ^ (f.fractionBits + 1) then 0 else Nat.log2 whole - f.fractionBits

/-- The significand that a ratio is rounded to. -/
def rounded (f : Format) (num den : Nat) : Nat :=
  roundHalfEven (num * 2 ^ f.scale) (den * 2 ^ f.spare (num * 2 ^ f.scale / den))

theorem nearest_eq (f : Format) (num den : Nat) :
    f.nearest num den =
      f.spare (num * 2 ^ f.scale / den) * 2 ^ f.fractionBits + f.rounded num den := rfl

/-- What is left of a whole number without its spare bits: all of it, or its leading bits. -/
theorem spare_cases (f : Format) (whole : Nat) :
    whole < 2 ^ (f.fractionBits + 1) ∧ f.spare whole = 0 ∨
      2 ^ f.fractionBits ≤ whole / 2 ^ f.spare whole ∧
        whole / 2 ^ f.spare whole < 2 ^ (f.fractionBits + 1) ∧
        f.fractionBits + f.spare whole = Nat.log2 whole := by
  rcases Nat.lt_or_ge whole (2 ^ (f.fractionBits + 1)) with hsmall | hlarge
  · exact .inl ⟨hsmall, if_pos hsmall⟩
  · right
    have hne : whole ≠ 0 := Nat.ne_of_gt (Nat.lt_of_lt_of_le (Nat.two_pow_pos _) hlarge)
    have hlog : f.fractionBits + 1 ≤ Nat.log2 whole := (Nat.le_log2 hne).mpr hlarge
    have hsum : f.fractionBits + f.spare whole = Nat.log2 whole := by
      rw [spare, if_neg (Nat.not_lt.mpr hlarge)]
      omega
    have hpos : 0 < 2 ^ f.spare whole := Nat.two_pow_pos _
    refine ⟨?_, ?_, hsum⟩
    · rw [Nat.le_div_iff_mul_le hpos, ← Nat.pow_add, hsum]
      exact Nat.log2_self_le hne
    · rw [Nat.div_lt_iff_lt_mul hpos, ← Nat.pow_add, Nat.add_right_comm, hsum]
      exact Nat.lt_log2_self

theorem div_spare (num den : Nat) :
    num * 2 ^ f.scale / (den * 2 ^ f.spare (num * 2 ^ f.scale / den)) =
      num * 2 ^ f.scale / den / 2 ^ f.spare (num * 2 ^ f.scale / den) :=
  (Nat.div_div_eq_div_mul ..).symm

theorem le_rounded (f : Format) (num den : Nat) :
    num * 2 ^ f.scale / den / 2 ^ f.spare (num * 2 ^ f.scale / den) ≤ f.rounded num den :=
  (div_spare num den).symm.trans_le (le_roundHalfEven ..)

theorem rounded_le (f : Format) (num den : Nat) :
    f.rounded num den ≤ num * 2 ^ f.scale / den / 2 ^ f.spare (num * 2 ^ f.scale / den) + 1 :=
  (roundHalfEven_le ..).trans_eq (congrArg (· + 1) (div_spare num den))

/-- The magnitude of the nearest code: the rounded significand, with zeros for the spare bits. -/
theorem steps_nearest (f : Format) (num den : Nat) :
    f.steps (f.nearest num den) =
      f.rounded num den * 2 ^ f.spare (num * 2 ^ f.scale / den) := by
  have hlower := f.le_rounded num den
  have hupper := f.rounded_le num den
  rw [nearest_eq]
  rcases f.spare_cases (num * 2 ^ f.scale / den) with ⟨hsmall, hspare⟩ | ⟨hleast, hmost, -⟩
  · refine steps_add (.inl hspare) ?_
    rw [hspare, Nat.pow_zero, Nat.div_one] at hupper
    omega
  · exact steps_add (.inr (hleast.trans hlower)) (hupper.trans hmost)

/-- Rounding stays at or above a power of two. -/
theorem two_pow_le_steps_nearest (h : 2 ^ e ≤ num * 2 ^ f.scale / den) :
    2 ^ e ≤ f.steps (f.nearest num den) := by
  have hrounded := f.le_rounded num den
  rw [steps_nearest]
  generalize num * 2 ^ f.scale / den = whole at h hrounded ⊢
  rcases f.spare_cases whole with ⟨-, hspare⟩ | ⟨hleast, -, hsum⟩
  · rw [hspare, Nat.pow_zero, Nat.div_one] at hrounded
    rw [hspare, Nat.pow_zero, Nat.mul_one]
    exact h.trans hrounded
  · have hne : whole ≠ 0 := Nat.ne_of_gt (Nat.lt_of_lt_of_le (Nat.two_pow_pos e) h)
    calc 2 ^ e ≤ 2 ^ Nat.log2 whole := Nat.pow_le_pow_right (by decide) ((Nat.le_log2 hne).mpr h)
      _ = 2 ^ f.fractionBits * 2 ^ f.spare whole := by rw [← hsum, Nat.pow_add]
      _ ≤ f.rounded num den * 2 ^ f.spare whole :=
        Nat.mul_le_mul_right _ (hleast.trans hrounded)

theorem spare_of_log2 {whole : Nat} (hne : whole ≠ 0)
    (hlog : Nat.log2 whole = f.fractionBits + e) : f.spare whole = e := by
  rcases f.spare_cases whole with ⟨hsmall, hspare⟩ | ⟨-, -, hsum⟩
  · have hle := (Nat.log2_lt hne).mpr hsmall
    omega
  · omega

/-- A whole number that is `e` bits too long is rounded to a multiple of `2 ^ e`. -/
theorem nearest_whole (hlower : 2 ^ (f.fractionBits + e) ≤ num)
    (hupper : num < 2 ^ (f.fractionBits + e + 1)) :
    f.nearest num 1 = (e + f.scale) * 2 ^ f.fractionBits + roundHalfEven num (2 ^ e) ∧
      f.steps (f.nearest num 1) = roundHalfEven num (2 ^ e) * 2 ^ (e + f.scale) := by
  have hscale : 0 < 2 ^ f.scale := Nat.two_pow_pos _
  have hne : num * 2 ^ f.scale ≠ 0 :=
    Nat.ne_of_gt (Nat.mul_pos (Nat.lt_of_lt_of_le (Nat.two_pow_pos _) hlower) hscale)
  have hlog : Nat.log2 (num * 2 ^ f.scale) = f.fractionBits + (e + f.scale) := by
    rw [Nat.log2_eq_iff hne, ← Nat.add_assoc, Nat.add_right_comm _ f.scale 1, Nat.pow_add,
      Nat.pow_add _ _ f.scale]
    exact ⟨Nat.mul_le_mul_right _ hlower, Nat.mul_lt_mul_of_pos_right hupper hscale⟩
  have hspare : f.spare (num * 2 ^ f.scale / 1) = e + f.scale := by
    rw [Nat.div_one]
    exact spare_of_log2 hne hlog
  have hrounded : f.rounded num 1 = roundHalfEven num (2 ^ e) := by
    rw [rounded, hspare, Nat.one_mul, Nat.pow_add, roundHalfEven_mul_right hscale]
  exact ⟨by rw [nearest_eq, hspare, hrounded], by rw [steps_nearest, hspare, hrounded]⟩

end Format

/-! ## §3 Integers -/

/-- The end of the 64-bit range on the side of the sign. -/
def rangeEnd (negative : Bool) : Int :=
  if negative then -0x8000000000000000 else 0x7FFFFFFFFFFFFFFF

theorem two_pow_le_scaled (hden : 0 < den) (h : 2 ^ e * den ≤ num) (scale : Nat) :
    2 ^ (e + scale) ≤ num * 2 ^ scale / den := by
  rw [Nat.le_div_iff_mul_le hden, Nat.pow_add, Nat.mul_right_comm]
  exact Nat.mul_le_mul_right _ h

theorem two_pow_le_whole {steps scale : Nat} (h : 2 ^ (e + scale) ≤ steps) :
    2 ^ e ≤ steps / Nat.pow 2 scale := by
  rw [Nat.pow_add] at h
  exact (Nat.le_div_iff_mul_le (Nat.two_pow_pos scale)).mpr h

theorem saturate_ofCode (h : 2 ^ (63 + double.scale) ≤ double.steps code) :
    (Double.ofCode negative code).saturate = rangeEnd negative := by
  have hwhole := two_pow_le_whole h
  rw [Double.ofCode]
  split
  · rw [Double.saturate, Finite.truncate, Finite.steps]
    generalize double.steps code / Nat.pow 2 double.scale = whole at hwhole
    cases negative <;>
      simp only [clamp, rangeEnd, Bool.false_eq_true, if_false, if_true] <;> omega
  · rfl

/-- A ratio of at least `2 ^ 63` is cut to the end of the range. -/
theorem saturate_ofRatio (hden : 0 < den) (h : 2 ^ 63 * den ≤ num) :
    (Double.ofRatio negative num den).saturate = rangeEnd negative :=
  saturate_ofCode (Format.two_pow_le_steps_nearest (two_pow_le_scaled hden h double.scale))

/-- The numbers up to half a step past `2 ^ 63` are rounded to `2 ^ 63` itself. -/
theorem ofRatio_edge (hlower : 2 ^ 63 ≤ num) (hupper : num ≤ 2 ^ 63 + 2 ^ 10) :
    Double.ofRatio negative num 1 = .finite ⟨negative, 1086 * 2 ^ 52, by decide⟩ := by
  have hrounded : roundHalfEven num (2 ^ 11) = 2 ^ 52 := by
    rw [roundHalfEven]
    split_ifs <;> omega
  have hcode : double.nearest num 1 = 1086 * 2 ^ 52 := by
    have hlong : num < 2 ^ (double.fractionBits + 11 + 1) := by
      show num < 2 ^ 64
      omega
    rw [(double.nearest_whole (e := 11) hlower hlong).1, hrounded]
    rfl
  rw [Double.ofRatio, hcode]
  rfl

/-- All greater numbers are rounded to more than `2 ^ 63`. -/
theorem lt_steps_nearest (h : 2 ^ 63 + 2 ^ 10 < num) :
    2 ^ (63 + double.scale) < double.steps (double.nearest num 1) := by
  rcases Nat.lt_or_ge num (2 ^ 64) with hlong | hlonger
  · have hlower : 2 ^ (double.fractionBits + 11) ≤ num := by
      show 2 ^ 63 ≤ num
      omega
    have hrounded : 2 ^ 52 < roundHalfEven num (2 ^ 11) := by
      rw [roundHalfEven]
      split_ifs <;> omega
    rw [(double.nearest_whole hlower hlong).2]
    generalize double.scale = scale
    calc 2 ^ (63 + scale) = 2 ^ 52 * 2 ^ (11 + scale) := by rw [← Nat.pow_add, ← Nat.add_assoc]
      _ < roundHalfEven num (2 ^ 11) * 2 ^ (11 + scale) :=
        Nat.mul_lt_mul_of_pos_right hrounded (Nat.two_pow_pos _)
  · have hscaled : 2 ^ (64 + double.scale) ≤ num * 2 ^ double.scale / 1 :=
      two_pow_le_scaled Nat.one_pos (by rwa [Nat.mul_one]) double.scale
    have hexponent : 63 + double.scale < 64 + double.scale := by omega
    exact (Nat.pow_lt_pow_right (by decide) hexponent).trans_le
      (Format.two_pow_le_steps_nearest hscaled)

/-- A whole number is rounded as such, unless it is settled by the number of its digits. -/
theorem ofDecimal_whole (hpos : 0 < num) : Double.ofDecimal negative num 0 =
    if 400 < Double.digitCount num then .infinite negative else Double.ofRatio negative num 1 := by
  have hsome : ¬(num = 0 ∨ (0 : Int) + Double.digitCount num < -400) := by omega
  have hlong : 400 < (0 : Int) + Double.digitCount num ↔ 400 < Double.digitCount num := by omega
  rw [Double.ofDecimal, if_neg hsome, if_pos (Int.le_refl 0), Int.toNat_zero, Nat.pow_eq,
    Nat.pow_zero, Nat.mul_one]
  simp only [hlong]

theorem digitCount_le {k : Nat} (h : num < 10 ^ k) : Double.digitCount num ≤ k := by
  induction k generalizing num with
  | zero =>
    obtain rfl : num = 0 := by omega
    rw [Double.digitCount, if_pos rfl]
  | succ k ih =>
    rw [Double.digitCount]
    split_ifs
    · exact Nat.zero_le _
    · refine Nat.succ_le_succ (ih ?_)
      rwa [Nat.div_lt_iff_lt_mul (by decide), ← Nat.pow_succ]

theorem saturate_ofDecimal (h : 2 ^ 63 ≤ num) :
    (Double.ofDecimal negative num 0).saturate = rangeEnd negative := by
  rw [ofDecimal_whole (by omega)]
  split_ifs
  · rfl
  · exact saturate_ofRatio Nat.one_pos (by rwa [Nat.mul_one])

end TaskFlow.Binary
