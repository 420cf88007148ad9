/-
TaskFlow.Proofs.Mapping.WholeNumbers — which whole numbers a suffix keeps.

A value that cannot be converted is kept as it is, so a conversion to a whole number should give the
number itself or leave the element alone (`Faithful`). It does for the numbers of 64 bits, which are
read as such, and for a text that is neither a number nor a word for something infinite. Whatever
else can be read as a double is cut to the range, since cutting always gives a number: an integer
past the range goes to its end, and `nan` becomes zero.

  §1 Elements    — `Denotes` and `Faithful`.
  §2 Reading     — `wholeNumber?` of an integer, and of a text that spells no number.
  §3 Conversions — `convert_whole`.
-/
import TaskFlow.Mapping.Convert
import TaskFlow.Proofs.Plugin.Numerals

namespace TaskFlow.Mapping

open TaskFlow TaskFlow.Text TaskFlow.Binary
open TaskFlow.Plugin (Fits toInt_ofInt)

variable {v : Json} {s : String} {z : Int} {n : Nat} {negative : Bool} {c : Conversion}

/-! ## §1 Elements -/

/-- The element stands for an integer: it is a whole number, or a text whose trimmed content is a
numeral. -/
inductive Denotes : Json → Int → Prop
  | number (w : Whole) : Denotes (.num (.whole w)) w.val
  | text {s : String} {z : Int} (h : WholeText (trim s.toList) z) : Denotes (.str s) z

/-- An integer is converted to itself, or its element is kept as it is. -/
def Faithful (v : Json) (z : Int) (after : Option Json) : Prop :=
  after = some v ∨ ∃ w : Whole, w.val = z ∧ after = some (.num (.whole w))

/-- An integer moved into the 64-bit range. -/
def saturated (z : Int) : Int := clamp (-0x8000000000000000) 0x7FFFFFFFFFFFFFFF z

theorem saturated_of_fits (h : Fits z) : saturated z = z := by
  obtain ⟨hlower, hupper⟩ := h
  rw [saturated, clamp]
  omega

theorem fits_saturated (z : Int) : Fits (saturated z) := by
  rw [saturated, clamp]
  constructor <;> omega

theorem fits_iff_saturated : Fits z ↔ saturated z = z :=
  ⟨saturated_of_fits, fun h => h ▸ fits_saturated z⟩

/-! ## §2 Reading -/

theorem saturated_signed (h : 2 ^ 63 ≤ n) : saturated (signed negative n) = rangeEnd negative := by
  cases negative <;> simp only [saturated, clamp, signed, rangeEnd, Bool.false_eq_true, if_false,
    if_true] <;> omega

theorem wholeNumber?_number (w : Whole) :
    wholeNumber? (.num (.whole w)) = some (Int64.ofInt (saturated w.val)) := by
  rw [wholeNumber?, Number.toInt64?, Whole.toInt64?]
  split
  · next hfits => rw [saturated_of_fits ⟨w.lower, hfits⟩, Option.getD_some]
  · next hlarge =>
    have hpositive : w.val = signed false w.val.natAbs := by
      show w.val = (w.val.natAbs : Int)
      omega
    have hsign : decide (w.val < 0) = false := decide_eq_false (by omega)
    have hbound : 2 ^ 63 ≤ w.val.natAbs := by omega
    rw [Option.getD_none, cut, Number.toDouble, Double.ofInt, hsign,
      saturate_ofRatio Nat.one_pos (by omega), ← saturated_signed hbound, ← hpositive]

theorem wholeNumber?_text (s : String) : wholeNumber? (.str s) =
    match Plugin.Value.long? (trim s.toList) with
    | some n => some n
    | none => (Double.read? (trim s.toList)).map cut := by
  rw [wholeNumber?]
  · rfl
  all_goals rintro _ ⟨⟩

theorem wholeNumber?_numeral (h : WholeText (trim s.toList) z) :
    wholeNumber? (.str s) = some (Int64.ofInt (saturated z)) := by
  rw [wholeNumber?_text]
  rcases Plugin.read_numeral h with ⟨hfits, hlong⟩ | ⟨-, hlong, negative, n, rfl, hlower, hread⟩
  · rw [hlong, saturated_of_fits hfits]
  · rw [hlong, hread, Option.map_some, cut, saturate_ofDecimal hlower, saturated_signed hlower]

/-- An integer is cut to the range. -/
theorem wholeNumber?_of_denotes (h : Denotes v z) :
    wholeNumber? v = some (Int64.ofInt (saturated z)) := by
  cases h with
  | number w => exact wholeNumber?_number w
  | text h => exact wholeNumber?_numeral h

/-- A text without a number is cut as the double it is read as, if it is read at all. -/
theorem wholeNumber?_of_noNumber (h : NoNumber (trim s.toList)) :
    wholeNumber? (.str s) = (Double.read? (trim s.toList)).map cut := by
  rw [wholeNumber?_text]
  cases hlong : Plugin.Value.long? (trim s.toList) with
  | none => rfl
  | some n => exact absurd (Plugin.Value.long?_eq_some_iff.mp hlong) (h.not_wholeText _)

/-! ## §3 Conversions -/

theorem convert_of_wholeNumber? (supply : Supply) (hc : c = .int ∨ c = .long) (v : Json) :
    convert supply c (some v) = some (((wholeNumber? v).map Json.ofInt64).getD v) := by
  rcases hc with rfl | rfl <;> rfl

/-- The whole number that a conversion gives. -/
theorem exists_whole (h : Fits z) :
    ∃ w : Whole, w.val = z ∧ Json.ofInt64 (Int64.ofInt z) = .num (.whole w) :=
  ⟨Whole.ofInt64 (Int64.ofInt z), toInt_ofInt h, rfl⟩

/-- A whole number is faithful only if it is the number denoted: the element is no other. -/
theorem faithful_iff (h : Denotes v z) (w : Whole) :
    Faithful v z (some (.num (.whole w))) ↔ w.val = z := by
  constructor
  · rintro (hkept | ⟨w', hw', hafter⟩)
    · cases hkept
      cases h
      rfl
    · cases hafter
      exact hw'
  · exact fun hw => .inr ⟨w, hw, rfl⟩

theorem fits_saturate (x : Double) : Fits x.saturate := by
  cases x with
  | nan => decide
  | infinite negative => cases negative <;> decide
  | finite x => exact fits_saturated x.truncate

theorem convert_denotes (supply : Supply) (hc : c = .int ∨ c = .long) (h : Denotes v z) :
    ∃ w : Whole, w.val = saturated z ∧ convert supply c (some v) = some (.num (.whole w)) := by
  obtain ⟨w, hw, hjson⟩ := exists_whole (fits_saturated z)
  refine ⟨w, hw, ?_⟩
  rw [convert_of_wholeNumber? supply hc, wholeNumber?_of_denotes h, Option.map_some, hjson,
    Option.getD_some]

theorem convert_wordText (supply : Supply) (hc : c = .int ∨ c = .long)
    (hnone : NoNumber (trim s.toList)) {x : Double} (h : WordText (trim s.toList) x) :
    ∃ w : Whole, w.val = x.saturate ∧
      convert supply c (some (.str s)) = some (.num (.whole w)) := by
  obtain ⟨w, hw, hjson⟩ := exists_whole (fits_saturate x)
  have hread := (Double.read?_eq_some_iff_wordText hnone).mpr h
  refine ⟨w, hw, ?_⟩
  rw [convert_of_wholeNumber? supply hc, wholeNumber?_of_noNumber hnone, hread, Option.map_some,
    Option.map_some, cut, hjson, Option.getD_some]

theorem convert_plain (supply : Supply) (hc : c = .int ∨ c = .long)
    (hnone : NoNumber (trim s.toList)) (hplain : ∀ x, ¬WordText (trim s.toList) x) :
    convert supply c (some (.str s)) = some (.str s) := by
  have hread : Double.read? (trim s.toList) = none :=
    Option.eq_none_iff_forall_ne_some.mpr fun x hx =>
      hplain x ((Double.read?_eq_some_iff_wordText hnone).mp hx)
  rw [convert_of_wholeNumber? supply hc, wholeNumber?_of_noNumber hnone, hread]
  rfl

/-- An integer is converted to itself or kept exactly if it has 64 bits: any other is moved to the
end of the range on its side. A text that spells no number is kept exactly if it is not read as an
infinity or as `nan`, which is zero. -/
theorem convert_whole (supply : Supply) (hc : c = .int ∨ c = .long) :
    (∀ v z, Denotes v z →
      (∃ w : Whole, w.val = clamp (-0x8000000000000000) 0x7FFFFFFFFFFFFFFF z ∧
        convert supply c (some v) = some (.num (.whole w))) ∧
      (Faithful v z (convert supply c (some v)) ↔ Fits z)) ∧
    ∀ s, NoNumber (trim s.toList) →
      (∀ x, WordText (trim s.toList) x →
        ∃ w : Whole, w.val = x.saturate ∧
          convert supply c (some (.str s)) = some (.num (.whole w))) ∧
      (convert supply c (some (.str s)) = some (.str s) ↔ ∀ x, ¬WordText (trim s.toList) x) := by
  refine ⟨fun v z h => ?_, fun s hnone => ?_⟩
  · obtain ⟨w, hw, hconvert⟩ := convert_denotes supply hc h
    refine ⟨⟨w, hw, hconvert⟩, ?_⟩
    rw [hconvert, faithful_iff h, fits_iff_saturated, hw]
  · refine ⟨fun x => convert_wordText supply hc hnone, fun hkept x hx => ?_,
      convert_plain supply hc hnone⟩
    obtain ⟨w, -, hw⟩ := convert_wordText supply hc hnone hx
    rw [hkept] at hw
    cases hw

/-- The first integer past the range is moved, the last one in a text is read, and a text of words
is kept. -/
theorem convert_whole_range_ends :
    (∃ w : Whole, w.val = 0x7FFFFFFFFFFFFFFF ∧
      convert default .int (some (.num (.whole ⟨0x8000000000000000, by decide, by decide⟩))) =
        some (.num (.whole w))) ∧
      Faithful (.str " -9223372036854775808") (-0x8000000000000000)
        (convert default .long (some (.str " -9223372036854775808"))) ∧
      convert default .int (some (.str "hello world")) = some (.str "hello world") := by
  have hint := convert_whole default (Or.inl rfl : Conversion.int = .int ∨ Conversion.int = .long)
  have hlong :=
    convert_whole default (Or.inr rfl : Conversion.long = .int ∨ Conversion.long = .long)
  have hlast : WholeText (trim " -9223372036854775808".toList) (-0x8000000000000000) :=
    wholeText_iff.mpr ⟨0x8000000000000000, by decide, by decide⟩
  have hread : magnitude? (splitSign (trim "hello world".toList)).2 = none := by decide
  have hnone : NoNumber (trim "hello world".toList) := by
    intro d hd
    rw [← magnitude?_eq_some_iff, hread] at hd
    cases hd
  obtain ⟨w, hw, hmoved⟩ :=
    (hint.1 _ _ (.number ⟨0x8000000000000000, by decide, by decide⟩)).1
  refine ⟨⟨w, hw.trans (by decide), hmoved⟩, (hlong.1 _ _ (.text hlast)).2.mpr (by decide), ?_⟩
  refine (hint.2 _ hnone).2.mpr fun x hx => ?_
  rcases hx with h | h <;> exact absurd h (by decide)

/-- The first integer past the range is altered, and so is the word `nan`: neither is kept. -/
theorem past_range_altered :
    ¬Faithful (.num (.whole ⟨0x8000000000000000, by decide, by decide⟩)) 0x8000000000000000
        (convert default .int (some (.num (.whole ⟨0x8000000000000000, by decide, by decide⟩)))) ∧
      convert default .long (some (.str "nan")) =
        some (.num (.whole ⟨0, by decide, by decide⟩)) := by
  have hmoved : convert default .int
      (some (.num (.whole ⟨0x8000000000000000, by decide, by decide⟩))) =
        some (.num (.whole ⟨0x7FFFFFFFFFFFFFFF, by decide, by decide⟩)) := by decide +kernel
  refine ⟨?_, by decide +kernel⟩
  rw [hmoved, faithful_iff (.number _)]
  decide

end TaskFlow.Mapping
