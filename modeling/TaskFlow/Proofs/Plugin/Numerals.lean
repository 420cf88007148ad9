/-
TaskFlow.Proofs.Plugin.Numerals — which integers `long` reads from a text.

A numeral of 64 bits is read as such. Any other is read as a double, and what decides then is not
the numeral but the double it is rounded to. Past `2 ^ 63` two doubles are 2048 apart, so a numeral
up to 1024 past it is rounded to `2 ^ 63`, which counts as being in the range and is cut to its end.
Only what is rounded further is refused.

  §1 Numerals — the two ways in which a numeral is read.
  §2 Doubles  — which of the doubles that stand for a whole number are cut, and to what.
  §3 Outcomes — `LongOutcome` and `ExactOrRefused`.
  §4 Texts    — `long_numeral`.
-/
import TaskFlow.Plugin.Builtin.Conversion
import TaskFlow.Proofs.Binary.Nearest
import TaskFlow.Proofs.Binary.Read
import TaskFlow.Proofs.Plugin.Integers

namespace TaskFlow.Plugin

open TaskFlow.Text TaskFlow.Binary

variable {cs : List Char} {s : String} {z : Int} {n : Nat} {negative : Bool}

/-! ## §1 Numerals -/

theorem le_of_not_fits_signed (h : ¬Fits (signed negative n)) : 2 ^ 63 ≤ n := by
  cases negative <;> simp only [Fits, signed, Bool.false_eq_true, if_false, if_true] at h <;> omega

/-- A numeral is read as an integer of 64 bits, or else as a double. -/
theorem read_numeral (h : WholeText cs z) :
    Fits z ∧ Value.long? cs = some (Int64.ofInt z) ∨
      ¬Fits z ∧ Value.long? cs = none ∧ ∃ negative n, z = signed negative n ∧ 2 ^ 63 ≤ n ∧
        Double.read? cs = some (Double.ofDecimal negative n 0) := by
  by_cases hfits : Fits z
  · left
    refine ⟨hfits, Value.long?_eq_some_iff.mpr ?_⟩
    rwa [toInt_ofInt hfits]
  · right
    have hlong : Value.long? cs = none := by
      refine Option.eq_none_iff_forall_ne_some.mpr fun m hm => hfits ?_
      rw [(Value.long?_eq_some_iff.mp hm).unique h]
      exact fits_toInt m
    obtain ⟨negative, n, rfl, hread⟩ := Double.read?_of_wholeText h
    exact ⟨hfits, hlong, negative, n, rfl, le_of_not_fits_signed hfits, hread⟩

namespace Conversion

/-! ## §2 Doubles -/

theorem withinLong_iff {x : Finite} :
    x.withinLong = true ↔ x.steps ≤ 2 ^ (63 + Binary.double.scale) := by
  rw [Finite.withinLong, decide_eq_true_iff, Nat.pow_eq]

theorem floatToLong_of_within {x : Finite} (h : x.withinLong = true) :
    floatToLong (.finite x) = .ok (Int64.ofInt (Double.finite x).saturate) := by
  rw [floatToLong, if_pos h]

/-- A double past the range is refused, whether it is finite or not. -/
theorem floatToLong_ofCode {code : Nat}
    (h : 2 ^ (63 + Binary.double.scale) < Binary.double.steps code) :
    floatToLong (Double.ofCode negative code) = .error (.promotion "float") := by
  rw [Double.ofCode]
  split
  · rw [floatToLong, if_neg]
    rw [withinLong_iff, Nat.not_le]
    exact h
  · rfl

/-- A whole number that is rounded to an end of the range is cut to it. -/
theorem floatToLong_edge (hlower : 2 ^ 63 ≤ n) (hupper : n ≤ 2 ^ 63 + 2 ^ 10) :
    floatToLong (Double.ofDecimal negative n 0) = .ok (Int64.ofInt (rangeEnd negative)) := by
  have hcount : Double.digitCount n ≤ 20 := digitCount_le (by omega)
  have hrounded : Double.ofDecimal negative n 0 = .finite ⟨negative, 1086 * 2 ^ 52, by decide⟩ := by
    rw [ofDecimal_whole (by omega), if_neg (by omega), ofRatio_edge hlower hupper]
  rw [← saturate_ofDecimal hlower, hrounded]
  refine floatToLong_of_within ?_
  cases negative <;> decide +kernel

/-- A whole number that is rounded further is refused. -/
theorem floatToLong_beyond (h : 2 ^ 63 + 2 ^ 10 < n) :
    floatToLong (Double.ofDecimal negative n 0) = .error (.promotion "float") := by
  rw [ofDecimal_whole (by omega)]
  split
  · rfl
  · exact floatToLong_ofCode (lt_steps_nearest h)

/-! ## §3 Outcomes -/

/-- An integer that fits is the result; for any other there is none. -/
def ExactOrRefused (z : Int) (result : Except PluginError Value) : Prop :=
  (Fits z → ∃ n : Int64, n.toInt = z ∧ result = .ok (.integer n)) ∧
    (¬Fits z → ∃ e, result = .error e)

/-- What `long` gives for a numeral of an integer: the integer itself, an end of the range for one
that is rounded to it, and an error for all others. -/
inductive LongOutcome (z : Int) : Except PluginError Value → Prop
  | exact {n : Int64} (hn : n.toInt = z) : LongOutcome z (.ok (.integer n))
  | edge {n : Int64} (hpast : ¬Fits z) (hnear : z.natAbs ≤ 2 ^ 63 + 2 ^ 10)
      (hn : n.toInt = rangeEnd (decide (z < 0))) : LongOutcome z (.ok (.integer n))
  | beyond (hfar : 2 ^ 63 + 2 ^ 10 < z.natAbs) : LongOutcome z (.error (.promotion "float"))

variable {result result' : Except PluginError Value}

theorem natAbs_le_of_fits (h : Fits z) : z.natAbs ≤ 2 ^ 63 := by
  obtain ⟨hlower, hupper⟩ := h
  omega

theorem LongOutcome.unique (h : LongOutcome z result) (h' : LongOutcome z result') :
    result = result' := by
  have hexact : ∀ {n : Int64}, n.toInt = z → Fits z := fun hn => hn ▸ fits_toInt _
  cases h with
  | exact hn =>
    cases h' with
    | exact hn' => rw [Int64.toInt_inj.mp (hn.trans hn'.symm)]
    | edge hpast => exact absurd (hexact hn) hpast
    | beyond hfar => exact absurd (natAbs_le_of_fits (hexact hn)) (by omega)
  | edge hpast hnear hn =>
    cases h' with
    | exact hn' => exact absurd (hexact hn') hpast
    | edge _ _ hn' => rw [Int64.toInt_inj.mp (hn.trans hn'.symm)]
    | beyond hfar => exact absurd hnear (by omega)
  | beyond hfar =>
    cases h' with
    | exact hn' => exact absurd (natAbs_le_of_fits (hexact hn')) (by omega)
    | edge _ hnear => exact absurd hnear (by omega)
    | beyond => rfl

/-- Only at the edge is the result another integer. -/
theorem LongOutcome.exactOrRefused_iff (h : LongOutcome z result) :
    ExactOrRefused z result ↔ Fits z ∨ 2 ^ 63 + 2 ^ 10 < z.natAbs := by
  cases h with
  | @exact n hn =>
    have hfits : Fits z := hn ▸ fits_toInt n
    exact iff_of_true ⟨fun _ => ⟨n, hn, rfl⟩, absurd hfits⟩ (.inl hfits)
  | edge hpast hnear =>
    refine iff_of_false (fun h => ?_) (not_or.mpr ⟨hpast, Nat.not_lt.mpr hnear⟩)
    obtain ⟨e, he⟩ := h.2 hpast
    cases he
  | beyond hfar =>
    have hpast : ¬Fits z := fun hfits => absurd (natAbs_le_of_fits hfits) (by omega)
    exact iff_of_true ⟨fun hfits => absurd hfits hpast, fun _ => ⟨_, rfl⟩⟩ (.inr hfar)

/-! ## §4 Texts -/

theorem long_calculate (ambient : Ambient) (v : Value) :
    long.calculate ambient [v] = (toLong "long" v).map .integer := rfl

theorem toLong_text (plugin s : String) : toLong plugin (.text s) =
    match Value.long? (trim s.toList), Double.read? (trim s.toList) with
    | some n, _ => .ok n
    | none, some x => floatToLong x
    | none, none => failed plugin s!"cannot convert '{s}' to a number" := rfl

theorem fits_rangeEnd (negative : Bool) : Fits (rangeEnd negative) := by
  cases negative <;> decide

theorem signed_lt_zero (hpos : 0 < n) : decide (signed negative n < 0) = negative := by
  cases negative with
  | false => exact decide_eq_false (by simp [signed])
  | true => exact decide_eq_true (by simp [signed]; omega)

theorem natAbs_signed : (signed negative n).natAbs = n := by
  cases negative <;> simp [signed]

/-- The outcome for a numeral. -/
theorem longOutcome_of_numeral (h : WholeText (trim s.toList) z) (ambient : Ambient) :
    LongOutcome z (long.calculate ambient [.text s]) := by
  rw [long_calculate, toLong_text]
  rcases read_numeral h with ⟨hfits, hlong⟩ | ⟨hpast, hlong, negative, n, rfl, hlower, hread⟩
  · rw [hlong]
    exact .exact (toInt_ofInt hfits)
  · rw [hlong, hread]
    dsimp only
    rcases Nat.lt_or_ge (2 ^ 63 + 2 ^ 10) n with hfar | hnear
    · rw [floatToLong_beyond hfar]
      exact .beyond (by rwa [natAbs_signed])
    · rw [floatToLong_edge hlower hnear]
      refine .edge hpast (by rwa [natAbs_signed]) ?_
      rw [signed_lt_zero (by omega), toInt_ofInt (fits_rangeEnd negative)]

/-- A numeral of 64 bits is read exactly. Any other is refused only if it is more than 1024 past
`2 ^ 63`: up to there it is taken for the end of the range on its side. -/
theorem long_numeral (ambient : Ambient) (h : WholeText (trim s.toList) z) :
    (∀ result, long.calculate ambient [.text s] = result ↔ LongOutcome z result) ∧
      (ExactOrRefused z (long.calculate ambient [.text s]) ↔
        Fits z ∨ 2 ^ 63 + 2 ^ 10 < z.natAbs) := by
  have houtcome := longOutcome_of_numeral h ambient
  exact ⟨fun result => ⟨fun heq => heq ▸ houtcome, houtcome.unique⟩, houtcome.exactOrRefused_iff⟩

/-- The least integer of 64 bits is read with blanks around it, and the first integer that is too far
past the range is refused. -/
theorem long_numeral_range_ends :
    long.calculate default [.text " -9223372036854775808 "] =
        .ok (.integer (-0x8000000000000000)) ∧
      long.calculate default [.text "+9223372036854776833"] = .error (.promotion "float") := by
  have hleast : WholeText (trim " -9223372036854775808 ".toList) (-0x8000000000000000) :=
    wholeText_iff.mpr ⟨0x8000000000000000, by decide, by decide⟩
  have hfar : WholeText (trim "+9223372036854776833".toList) 0x8000000000000401 :=
    wholeText_iff.mpr ⟨0x8000000000000401, by decide, by decide⟩
  exact ⟨((long_numeral default hleast).1 _).mpr (.exact (by decide)),
    ((long_numeral default hfar).1 _).mpr (.beyond (by decide))⟩

/-- The first integer past the range is read as the greatest in it. -/
theorem long_past_range :
    WholeText (trim "9223372036854775808".toList) 0x8000000000000000 ∧
      long.calculate default [.text "9223372036854775808"] =
        .ok (.integer 0x7FFFFFFFFFFFFFFF) ∧
      ¬ExactOrRefused 0x8000000000000000
        (long.calculate default [.text "9223372036854775808"]) := by
  have hfirst : WholeText (trim "9223372036854775808".toList) 0x8000000000000000 :=
    wholeText_iff.mpr ⟨0x8000000000000000, by decide, by decide⟩
  have houtcome := longOutcome_of_numeral hfirst default
  refine ⟨hfirst, houtcome.unique (.edge (by decide) (by decide) (by decide)), ?_⟩
  rw [houtcome.exactOrRefused_iff]
  decide

end Conversion

end TaskFlow.Plugin
