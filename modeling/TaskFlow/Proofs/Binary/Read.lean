/-
TaskFlow.Proofs.Binary.Read — which texts are read as doubles.

The reader cuts a text at the first character that is no digit. Set against this is a grammar that
mentions no cut: `MagnitudeText` lists the texts of unsigned numbers with the decimals they spell,
and `WordText` the words for what is not finite. The two agree because nothing that may follow a run
of digits begins with a digit.

  §1 Signs — `signed`; a numeral is a sign or none before a run of digits.
  §2 Numbers — `ExponentText`, `MagnitudeText` and what is read of them.
  §3 Doubles — `Double.read?` of a numeral, and of a text without a number.
-/
import TaskFlow.Binary.Read
import TaskFlow.Proofs.Text.Numeral

namespace TaskFlow.Binary

open TaskFlow.Text

variable {cs digits front back tail : List Char} {e z : Int} {d : Decimal} {x : Double}

/-! ## §1 Signs -/

/-- A magnitude with a sign. -/
def signed (negative : Bool) (n : Nat) : Int :=
  if negative then -n else n

theorem splitSign_of_digits (hdigits : ∀ c ∈ cs, isDigit c = true) :
    splitSign cs = (false, cs) := by
  unfold splitSign
  split
  · exact absurd (hdigits '-' List.mem_cons_self) (by decide)
  · exact absurd (hdigits '+' List.mem_cons_self) (by decide)
  · rfl

/-- A numeral of a whole number, by its sign and its digits. -/
theorem wholeText_iff : WholeText cs z ↔
    ∃ n, natural? (splitSign cs).2 = some n ∧ z = signed (splitSign cs).1 n := by
  simp only [natural?_eq_some_iff]
  constructor
  · intro h
    cases h with
    | plain hne hdigits =>
      rw [splitSign_of_digits hdigits]
      exact ⟨_, ⟨hne, hdigits, rfl⟩, rfl⟩
    | plus hne hdigits => exact ⟨_, ⟨hne, hdigits, rfl⟩, rfl⟩
    | minus hne hdigits => exact ⟨_, ⟨hne, hdigits, rfl⟩, rfl⟩
  · rintro ⟨n, ⟨hne, hdigits, rfl⟩, rfl⟩
    revert hne hdigits
    unfold splitSign
    split
    · exact .minus
    · exact .plus
    · exact .plain

/-! ## §2 Numbers -/

/-- What may follow the digits of a number: nothing, or `e` and a numeral. -/
inductive ExponentText : List Char → Int → Prop
  | absent : ExponentText [] 0
  | present {mark : Char} {cs : List Char} {e : Int} (hmark : mark = 'e' ∨ mark = 'E')
      (h : WholeText cs e) : ExponentText (mark :: cs) e

/-- An unsigned number: at least one digit, of which some may stand behind a point, and an exponent
or none. -/
inductive MagnitudeText : List Char → Decimal → Prop
  | whole {digits tail : List Char} {e : Int} (hne : digits ≠ [])
      (hdigits : ∀ c ∈ digits, isDigit c = true) (htail : ExponentText tail e) :
      MagnitudeText (digits ++ tail) ⟨decimal digits, e⟩
  | point {front back tail : List Char} {e : Int} (hne : front ++ back ≠ [])
      (hdigits : ∀ c ∈ front ++ back, isDigit c = true) (htail : ExponentText tail e) :
      MagnitudeText (front ++ '.' :: (back ++ tail)) ⟨decimal (front ++ back), e - back.length⟩

theorem exponent?_of_mark {mark : Char} (hmark : mark = 'e' ∨ mark = 'E') (cs : List Char) :
    exponent? (mark :: cs) = (natural? (splitSign cs).2).map (signed (splitSign cs).1) := by
  rw [exponent?, if_pos hmark]
  cases hsplit : splitSign cs with
  | mk negative digits =>
    dsimp only
    cases natural? digits <;> rfl

theorem exponent?_eq_some_iff : exponent? cs = some e ↔ ExponentText cs e := by
  constructor
  · intro h
    cases cs with
    | nil =>
      cases h
      exact .absent
    | cons mark rest =>
      by_cases hmark : mark = 'e' ∨ mark = 'E'
      · rw [exponent?_of_mark hmark, Option.map_eq_some_iff] at h
        obtain ⟨n, hn, rfl⟩ := h
        exact .present hmark (wholeText_iff.mpr ⟨n, hn, rfl⟩)
      · rw [exponent?, if_neg hmark] at h
        cases h
  · intro h
    cases h with
    | absent => rfl
    | present hmark h =>
      obtain ⟨n, hn, rfl⟩ := wholeText_iff.mp h
      rw [exponent?_of_mark hmark, hn]
      rfl

theorem ExponentText.stops (h : ExponentText cs e) : Stops cs := by
  cases h with
  | absent => rintro c ⟨⟩
  | present hmark =>
    rintro c ⟨⟩
    rcases hmark with rfl | rfl <;> decide

theorem ExponentText.ne_point (h : ExponentText cs e) (rest : List Char) : cs ≠ '.' :: rest := by
  rintro rfl
  cases h with
  | present hmark => exact absurd hmark (by decide)

/-- The decimal of the digits before and behind a point, and of what follows them. -/
def assemble? (digits : List Char) (places : Nat) (tail : List Char) : Option Decimal :=
  match natural? digits, exponent? tail with
  | some coefficient, some exponent => some ⟨coefficient, exponent - places⟩
  | _, _ => none

theorem assemble?_eq_some_iff {places : Nat} : assemble? digits places tail = some d ↔
    digits ≠ [] ∧ (∀ c ∈ digits, isDigit c = true) ∧
      ∃ e, ExponentText tail e ∧ d = ⟨decimal digits, e - places⟩ := by
  unfold assemble?
  constructor
  · intro h
    split at h
    · next n e hn he =>
      obtain ⟨hne, hdigits, rfl⟩ := natural?_eq_some_iff.mp hn
      cases h
      exact ⟨hne, hdigits, e, exponent?_eq_some_iff.mp he, rfl⟩
    · cases h
  · rintro ⟨hne, hdigits, e, he, rfl⟩
    rw [natural?_eq_some_iff.mpr ⟨hne, hdigits, rfl⟩, exponent?_eq_some_iff.mpr he]

/-- The digits behind a point, if there is one, and what follows. -/
def behindPoint : List Char → List Char × List Char
  | '.' :: rest => (rest.takeWhile isDigit, rest.dropWhile isDigit)
  | rest => ([], rest)

theorem magnitude?_eq (cs : List Char) : magnitude? cs =
    assemble? (cs.takeWhile isDigit ++ (behindPoint (cs.dropWhile isDigit)).1)
      (behindPoint (cs.dropWhile isDigit)).1.length (behindPoint (cs.dropWhile isDigit)).2 := rfl

theorem magnitude?_whole (hdigits : ∀ c ∈ digits, isDigit c = true) (hstop : Stops tail)
    (hpoint : ∀ rest, tail ≠ '.' :: rest) :
    magnitude? (digits ++ tail) = assemble? digits 0 tail := by
  have hbehind : behindPoint tail = ([], tail) := by
    unfold behindPoint
    split
    · exact absurd rfl (hpoint _)
    · rfl
  rw [magnitude?_eq, takeWhile_of_stops hdigits hstop, dropWhile_of_stops hdigits hstop, hbehind,
    List.append_nil, List.length_nil]

theorem magnitude?_point (hfront : ∀ c ∈ front, isDigit c = true)
    (hback : ∀ c ∈ back, isDigit c = true) (hstop : Stops tail) :
    magnitude? (front ++ '.' :: (back ++ tail)) = assemble? (front ++ back) back.length tail := by
  have hmark : Stops ('.' :: (back ++ tail)) := by
    rintro c ⟨⟩
    decide
  rw [magnitude?_eq, takeWhile_of_stops hfront hmark, dropWhile_of_stops hfront hmark, behindPoint,
    takeWhile_of_stops hback hstop, dropWhile_of_stops hback hstop]

/-- An unsigned number is read from its texts, and from nothing else. -/
theorem magnitude?_eq_some_iff : magnitude? cs = some d ↔ MagnitudeText cs d := by
  constructor
  · intro h
    obtain ⟨front, rest, rfl, hfront, hstop⟩ := exists_stop cs
    by_cases hpoint : ∃ behind, rest = '.' :: behind
    · obtain ⟨behind, rfl⟩ := hpoint
      obtain ⟨back, tail, rfl, hback, htail⟩ := exists_stop behind
      rw [magnitude?_point hfront hback htail, assemble?_eq_some_iff] at h
      obtain ⟨hne, hdigits, e, he, rfl⟩ := h
      exact .point hne hdigits he
    · rw [magnitude?_whole hfront hstop (not_exists.mp hpoint), assemble?_eq_some_iff] at h
      obtain ⟨hne, hdigits, e, he, rfl⟩ := h
      simpa using MagnitudeText.whole hne hdigits he
  · intro h
    cases h with
    | @whole _ _ e hne hdigits htail =>
      rw [magnitude?_whole hdigits htail.stops htail.ne_point, assemble?_eq_some_iff]
      exact ⟨hne, hdigits, e, htail, by simp⟩
    | @point _ _ _ e hne hdigits htail =>
      have hparts := List.forall_mem_append.mp hdigits
      rw [magnitude?_point hparts.1 hparts.2 htail.stops, assemble?_eq_some_iff]
      exact ⟨hne, hdigits, e, htail, rfl⟩

/-! ## §3 Doubles -/

/-- The text spells no number, with or without a sign. -/
def NoNumber (cs : List Char) : Prop := ∀ d, ¬MagnitudeText (splitSign cs).2 d

/-- A numeral is a sign before a number without a point and an exponent. -/
theorem exists_magnitudeText (h : WholeText cs z) :
    ∃ n, z = signed (splitSign cs).1 n ∧ MagnitudeText (splitSign cs).2 ⟨n, 0⟩ := by
  obtain ⟨n, hn, rfl⟩ := wholeText_iff.mp h
  obtain ⟨hne, hdigits, rfl⟩ := natural?_eq_some_iff.mp hn
  have hnumber := MagnitudeText.whole hne hdigits .absent
  rw [List.append_nil] at hnumber
  exact ⟨_, rfl, hnumber⟩

theorem NoNumber.not_wholeText (h : NoNumber cs) (z : Int) : ¬WholeText cs z := by
  intro htext
  obtain ⟨n, -, hnumber⟩ := exists_magnitudeText htext
  exact h _ hnumber

/-- A word for a double that is not finite, in any case, with or without a sign. -/
inductive WordText (cs : List Char) : Double → Prop
  | nan (h : lowerWord (splitSign cs).2 = "nan".toList) : WordText cs .nan
  | infinite (h : lowerWord (splitSign cs).2 = "inf".toList ∨
      lowerWord (splitSign cs).2 = "infinity".toList) : WordText cs (.infinite (splitSign cs).1)

namespace Double

theorem read?_eq (cs : List Char) : read? cs =
    match magnitude? (splitSign cs).2 with
    | some d => some (ofDecimal (splitSign cs).1 d.coefficient d.exponent)
    | none =>
      if lowerWord (splitSign cs).2 = "nan".toList then some .nan
      else if lowerWord (splitSign cs).2 = "inf".toList ∨
          lowerWord (splitSign cs).2 = "infinity".toList then some (.infinite (splitSign cs).1)
      else none := rfl

/-- A numeral is read as the nearest double. -/
theorem read?_of_wholeText (h : WholeText cs z) :
    ∃ negative n, z = signed negative n ∧ read? cs = some (ofDecimal negative n 0) := by
  obtain ⟨n, hz, hnumber⟩ := exists_magnitudeText h
  refine ⟨_, n, hz, ?_⟩
  rw [read?_eq, magnitude?_eq_some_iff.mpr hnumber]

/-- A text without a number is read exactly if it is a word. -/
theorem read?_eq_some_iff_wordText (hnone : NoNumber cs) : read? cs = some x ↔ WordText cs x := by
  have hmagnitude : magnitude? (splitSign cs).2 = none :=
    Option.eq_none_iff_forall_ne_some.mpr fun d hd => hnone d (magnitude?_eq_some_iff.mp hd)
  rw [read?_eq, hmagnitude]
  dsimp only
  split_ifs with hnan hinf
  · constructor
    · rintro ⟨⟩
      exact .nan hnan
    · rintro (_ | hinf)
      · rfl
      · -- the words are different
        rw [hnan] at hinf
        exact absurd hinf (by decide)
  · constructor
    · rintro ⟨⟩
      exact .infinite hinf
    · rintro (hnan' | _)
      · exact absurd hnan' hnan
      · rfl
  · constructor
    · rintro ⟨⟩
    · rintro (h | h)
      · exact absurd h hnan
      · exact absurd h hinf

end Double

end TaskFlow.Binary
