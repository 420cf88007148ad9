/-
TaskFlow.Proofs.Document.Amounts — which texts are times, and how long they are.

`Writes` says of a text how many milliseconds it denotes. Here the amount and the unit are told
apart (`Spells`), since each has to fit: a text is a time exactly if it spells a positive amount of
64 bits whose milliseconds fit in 64 bits too. Nothing is wrapped, and a unit that is small enough
never keeps an amount from being read back.

  §1 Spelling — `Spells` and `ReadAs` hold of the same texts; the written form of an amount.
  §2 Times    — `ofText?_exact`, and the longest time in hours.
-/
import TaskFlow.Proofs.Document.Durations

namespace TaskFlow.Duration

open TaskFlow.Text

variable {s : String} {amount other : Nat} {timeUnit otherUnit : TimeUnit} {name : List Char}

/-! ## §1 Spelling -/

/-- Between its blanks, the text is the digits of an amount, then blanks or none, then a name of a
unit, which for the second may be empty. -/
def Spells (s : String) (amount : Nat) (timeUnit : TimeUnit) : Prop :=
  ∃ digits middle name : List Char, trim s.toList = digits ++ middle ++ name ∧
    (digits ≠ [] ∧ (∀ c ∈ digits, isDigit c = true) ∧ decimal digits = amount) ∧
    (∀ c ∈ middle, isBlank c = true) ∧ timeUnit.Named name

theorem Spells.readAs (h : Spells s amount timeUnit) : ReadAs s amount timeUnit := by
  obtain ⟨digits, middle, name, htrim, ⟨hne, hdigits, rfl⟩, hmiddle, hname⟩ := h
  refine readAs_of_trim_eq ?_ hne hdigits hmiddle hname
  rw [← htrim]
  exact (tidy_trim s.toList).symm

theorem ReadAs.spells (h : ReadAs s amount timeUnit) : Spells s amount timeUnit := by
  have hdigits := natural?_eq_some_iff.mp h.amount
  have hname := TimeUnit.ofName?_eq_some_iff.mp h.unit
  have hwhole := List.takeWhile_append_dropWhile (p := isDigit) (l := trim s.toList)
  obtain ⟨middle, blanks, hmiddle, hblanks, hrest⟩ :=
    exists_padded ((trim s.toList).dropWhile isDigit)
  rw [hrest] at hwhole
  -- nothing is left behind the name, for the blanks at the end of the text are gone already
  have htidy : Tidy ((trim s.toList).takeWhile isDigit ++
      (middle ++ trim ((trim s.toList).dropWhile isDigit)) ++ blanks) := by
    rw [List.append_assoc, hwhole]
    exact tidy_trim s.toList
  have hend : blanks = [] := htidy.eq_nil_of_append hblanks
  refine ⟨_, middle, _, ?_, hdigits, hmiddle, hname⟩
  rw [hend, List.append_nil, ← List.append_assoc] at hwhole
  exact hwhole.symm

/-- A text spells one amount of one unit at most. -/
theorem Spells.unique (h : Spells s amount timeUnit) (hother : Spells s other otherUnit) :
    other = amount ∧ otherUnit = timeUnit := by
  have hread := h.readAs
  have hread' := hother.readAs
  exact ⟨Option.some.inj (hread'.amount.symm.trans hread.amount),
    Option.some.inj (hread'.unit.symm.trans hread.unit)⟩

/-- The numeral of an amount and a name of its unit spell it. -/
theorem spells_written (amount : Nat) (hname : timeUnit.Named name) :
    Spells (String.ofList (ofNat amount ++ name)) amount timeUnit := by
  obtain ⟨hne, hdigits, hdecimal⟩ := natural?_eq_some_iff.mp (natural?_ofNat amount)
  have hread : ReadAs (String.ofList (ofNat amount ++ name)) (decimal (ofNat amount)) timeUnit := by
    refine readAs_of_trim_eq ?_ hne hdigits (List.forall_mem_nil _) hname
    rw [String.toList_ofList, List.append_nil]
  rw [hdecimal] at hread
  exact hread.spells

/-! ## §2 Times -/

theorem ofText?_eq_some_iff_spells {millis : Nat} :
    ofText? s = some millis ↔ ∃ amount timeUnit, Spells s amount timeUnit ∧ 0 < amount ∧
      amount < wordBound ∧ millis = amount * timeUnit.millis ∧ millis < wordBound := by
  rw [ofText?_eq_some_iff]
  constructor
  · rintro ⟨hwrites, hpos, hfits⟩
    obtain ⟨amount, timeUnit, hread, rfl⟩ := hwrites.exists_readAs
    have hle : amount ≤ amount * timeUnit.millis :=
      Nat.le_mul_of_pos_right amount timeUnit.millis_pos
    exact ⟨amount, timeUnit, hread.spells, Nat.pos_of_mul_pos_right hpos,
      Nat.lt_of_le_of_lt hle hfits, rfl, hfits⟩
  · rintro ⟨amount, timeUnit, hspells, hpos, -, rfl, hfits⟩
    exact ⟨hspells.readAs.writes, Nat.mul_pos hpos timeUnit.millis_pos, hfits⟩

/-- An amount of a unit is a time if its milliseconds fit, and then they are the time. -/
theorem Spells.ofText?_eq (h : Spells s amount timeUnit) (hpos : 0 < amount) :
    ofText? s = if amount * timeUnit.millis < wordBound then some (amount * timeUnit.millis)
      else none := by
  split
  · next hfits =>
    have hle : amount ≤ amount * timeUnit.millis :=
      Nat.le_mul_of_pos_right amount timeUnit.millis_pos
    exact ofText?_eq_some_iff_spells.mpr
      ⟨amount, timeUnit, h, hpos, Nat.lt_of_le_of_lt hle hfits, rfl, hfits⟩
  · next hlarge =>
    rw [Option.eq_none_iff_forall_ne_some]
    intro millis hmillis
    obtain ⟨other, otherUnit, hother, -, -, rfl, hfits⟩ := ofText?_eq_some_iff_spells.mp hmillis
    obtain ⟨rfl, rfl⟩ := h.unique hother
    exact hlarge hfits

/-- A text is a time if and only if it spells a positive amount of 64 bits in a unit in which it
makes milliseconds of 64 bits; these are the time. So an amount that is written with its unit is
read back, and one whose milliseconds do not fit is refused however it is spelled. -/
theorem ofText?_exact :
    (∀ s millis, ofText? s = some millis ↔ ∃ amount timeUnit, Spells s amount timeUnit ∧
      0 < amount ∧ amount < wordBound ∧ millis = amount * timeUnit.millis ∧ millis < wordBound) ∧
    (∀ (timeUnit : TimeUnit) name amount, timeUnit.Named name → 0 < amount →
      amount * timeUnit.millis < wordBound →
      ofText? (String.ofList (ofNat amount ++ name)) = some (amount * timeUnit.millis)) ∧
    (∀ s amount timeUnit, Spells s amount timeUnit → wordBound ≤ amount * timeUnit.millis →
      ofText? s = none) := by
  refine ⟨fun s millis => ofText?_eq_some_iff_spells, ?_, ?_⟩
  · intro timeUnit name amount hname hpos hfits
    rw [(spells_written amount hname).ofText?_eq hpos, if_pos hfits]
  · intro s amount timeUnit hspells hlarge
    have hpos : 0 < amount := by
      rw [Nat.pos_iff_ne_zero]
      rintro rfl
      rw [Nat.zero_mul] at hlarge
      exact absurd hlarge (by decide)
    rw [hspells.ofText?_eq hpos, if_neg (Nat.not_lt.mpr hlarge)]

/-- The longest time in hours, and one hour more. -/
theorem ofText?_exact_hours :
    ofText? "5124095576030h" = some 18446744073708000000 ∧ ofText? "5124095576031h" = none := by
  have hlongest : String.ofList (ofNat 5124095576030 ++ ['h']) = "5124095576030h" := by
    decide +kernel
  have hlonger : String.ofList (ofNat 5124095576031 ++ ['h']) = "5124095576031h" := by
    decide +kernel
  rw [← hlongest, ← hlonger]
  exact ⟨ofText?_exact.2.1 .hour ['h'] 5124095576030 .hour (by decide) (by decide),
    ofText?_exact.2.2 _ _ _ (spells_written 5124095576031 .hour) (by decide)⟩

end TaskFlow.Duration
