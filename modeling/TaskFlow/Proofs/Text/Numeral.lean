/-
TaskFlow.Proofs.Text.Numeral — a number is read back from its numeral.

  §1 Digits   — one digit, and which characters stand in a numeral.
  §2 Numerals — natural numbers, and whole numbers with their sign; where a run of digits ends.
  §3 Signs    — `WholeText`, every numeral of a whole number.
-/
import TaskFlow.Proofs.Text.Cuts
import TaskFlow.Text.Numeral

namespace TaskFlow.Text

/-! ## §1 Digits -/

theorem digit?_digitChar {d : Nat} (h : d < 10) : digit? (digitChar d) = some d := by
  have hall : ∀ k : Fin 10, digit? (digitChar k) = some k.val := by decide
  exact hall ⟨d, h⟩

theorem isDigit_digitChar {d : Nat} (h : d < 10) : isDigit (digitChar d) = true := by
  rw [isDigit, digit?_digitChar h]
  rfl

theorem isBlank_of_isDigit {c : Char} (h : isDigit c = true) : isBlank c = false := by
  unfold isDigit digit? at h
  split at h
  · next hrange =>
    have hcode : 48 ≤ c.toNat ∧ c.toNat ≤ 57 := hrange
    simp only [isBlank, Bool.or_eq_false_iff, Bool.and_eq_false_iff, decide_eq_false_iff_not,
      beq_eq_false_iff_ne]
    omega
  · cases h

theorem ne_of_isDigit {c mark : Char} (h : isDigit c = true) (hmark : isDigit mark = false) :
    c ≠ mark := by
  rintro rfl
  rw [h] at hmark
  cases hmark

theorem ofNat_ne_nil (n : Nat) : ofNat n ≠ [] := by
  rw [ofNat]
  split <;> simp

theorem isDigit_of_mem_ofNat {n : Nat} {c : Char} (h : c ∈ ofNat n) : isDigit c = true := by
  induction n using ofNat.induct with
  | case1 n hsmall =>
    rw [ofNat, if_pos hsmall, List.mem_singleton] at h
    rw [h, isDigit_digitChar hsmall]
  | case2 n hlarge ih =>
    rw [ofNat, if_neg hlarge, List.mem_append, List.mem_singleton] at h
    rcases h with hfront | hlast
    · exact ih hfront
    · rw [hlast, isDigit_digitChar (Nat.mod_lt n (by decide))]

/-- A numeral starts with its sign or a digit, and all else in it are digits. -/
theorem mem_ofInt {z : Int} {c : Char} (h : c ∈ ofInt z) : c = '-' ∨ isDigit c = true := by
  cases z with
  | ofNat n => exact Or.inr (isDigit_of_mem_ofNat h)
  | negSucc n =>
    rcases List.mem_cons.mp h with hsign | hdigit
    · exact Or.inl hsign
    · exact Or.inr (isDigit_of_mem_ofNat hdigit)

theorem not_mem_ofNat {mark : Char} (h : isDigit mark = false) (n : Nat) : mark ∉ ofNat n :=
  fun hmem => ne_of_isDigit (isDigit_of_mem_ofNat hmem) h rfl

/-- There are no blanks in a numeral. -/
theorem tidy_ofInt (z : Int) : Tidy (ofInt z) := by
  refine tidy_of_forall fun c hc => ?_
  rcases mem_ofInt hc with rfl | hdigit
  · decide
  · exact isBlank_of_isDigit hdigit

theorem tidy_ofNat (n : Nat) : Tidy (ofNat n) :=
  tidy_ofInt n

/-! ## §2 Numerals -/

/-- The text is empty or begins with something else than a digit. -/
def Stops (cs : List Char) : Prop := ∀ c ∈ cs.head?, isDigit c = false

theorem takeWhile_of_stops {digits tail : List Char} (hdigits : ∀ c ∈ digits, isDigit c = true)
    (h : Stops tail) : (digits ++ tail).takeWhile isDigit = digits := by
  rw [List.takeWhile_append_of_pos hdigits]
  cases tail with
  | nil => simp
  | cons c rest => simp [h c rfl]

theorem dropWhile_of_stops {digits tail : List Char} (hdigits : ∀ c ∈ digits, isDigit c = true)
    (h : Stops tail) : (digits ++ tail).dropWhile isDigit = tail := by
  rw [List.dropWhile_append_of_pos hdigits]
  cases tail with
  | nil => rfl
  | cons c rest => simp [h c rfl]

/-- A text is cut behind its leading digits. -/
theorem exists_stop (cs : List Char) :
    ∃ digits tail, cs = digits ++ tail ∧ (∀ c ∈ digits, isDigit c = true) ∧ Stops tail := by
  refine ⟨cs.takeWhile isDigit, cs.dropWhile isDigit, (List.takeWhile_append_dropWhile).symm,
    fun _ hc => List.mem_takeWhile_imp hc, fun c hc => ?_⟩
  have hhead := List.head?_dropWhile_not isDigit cs
  rw [hc] at hhead
  simpa using hhead

theorem readDigits_append (acc : Nat) (front back : List Char) :
    readDigits acc (front ++ back) = (readDigits acc front).bind (readDigits · back) := by
  induction front generalizing acc with
  | nil => rfl
  | cons c rest ih =>
    rw [List.cons_append, readDigits, readDigits]
    cases digit? c with
    | none => rfl
    | some d => exact ih (10 * acc + d)

/-- The value of a run of digits. -/
def decimal (digits : List Char) : Nat :=
  digits.foldl (fun n c => 10 * n + (c.toNat - '0'.toNat)) 0

theorem readDigits_eq_some_iff {acc n : Nat} {cs : List Char} :
    readDigits acc cs = some n ↔ (∀ c ∈ cs, isDigit c = true) ∧
      cs.foldl (fun n c => 10 * n + (c.toNat - '0'.toNat)) acc = n := by
  induction cs generalizing acc with
  | nil => simp [readDigits]
  | cons c rest ih =>
    by_cases hc : '0' ≤ c ∧ c ≤ '9'
    · have hdigit : digit? c = some (c.toNat - '0'.toNat) := if_pos hc
      rw [readDigits, hdigit, Option.bind_some, ih]
      simp [isDigit, hdigit]
    · have hdigit : digit? c = none := if_neg hc
      simp [readDigits, isDigit, hdigit]

theorem natural?_eq {cs : List Char} (h : cs ≠ []) : natural? cs = readDigits 0 cs := by
  cases cs with
  | nil => exact absurd rfl h
  | cons c rest => rfl

/-- A numeral is a run of at least one digit. -/
theorem natural?_eq_some_iff {n : Nat} {cs : List Char} :
    natural? cs = some n ↔ cs ≠ [] ∧ (∀ c ∈ cs, isDigit c = true) ∧ decimal cs = n := by
  cases cs with
  | nil => simp [natural?]
  | cons c rest =>
    rw [natural?_eq (List.cons_ne_nil c rest), readDigits_eq_some_iff, decimal]
    simp

theorem natural?_ofNat (n : Nat) : natural? (ofNat n) = some n := by
  rw [natural?_eq (ofNat_ne_nil n)]
  induction n using ofNat.induct with
  | case1 n hsmall =>
    rw [ofNat, if_pos hsmall]
    simp [readDigits, digit?_digitChar hsmall]
  | case2 n hlarge ih =>
    rw [ofNat, if_neg hlarge, readDigits_append, ih]
    simp only [Option.bind_some, readDigits, digit?_digitChar (Nat.mod_lt n (by decide : 0 < 10))]
    rw [Nat.div_add_mod]

/-- A number with an optional plus sign is a run of at least one digit, with or without a plus in
front. -/
theorem unsigned?_eq_some_iff {bound n : Nat} {cs : List Char} :
    unsigned? bound cs = some n ↔ ∃ plus digits, cs = plus ++ digits ∧ (plus = [] ∨ plus = ['+']) ∧
      natural? digits = some n ∧ n < bound := by
  have hfilter : ∀ digits, (natural? digits).filter (· < bound) = some n ↔
      natural? digits = some n ∧ n < bound := by
    intro digits
    rw [Option.filter_eq_some_iff, decide_eq_true_iff]
  unfold unsigned?
  dsimp only
  split
  · next rest =>
    rw [hfilter]
    constructor
    · exact fun h => ⟨['+'], rest, rfl, Or.inr rfl, h⟩
    · rintro ⟨plus, digits, hcs, rfl | rfl, hdigits, hbound⟩
      · -- a plus is no digit
        obtain rfl : '+' :: rest = digits := hcs
        have hplus := (natural?_eq_some_iff.mp hdigits).2.1 '+' List.mem_cons_self
        exact absurd hplus (by decide)
      · cases hcs
        exact ⟨hdigits, hbound⟩
  · next hplus =>
    rw [hfilter]
    constructor
    · exact fun h => ⟨[], cs, rfl, Or.inl rfl, h⟩
    · rintro ⟨plus, digits, rfl, rfl | rfl, h⟩
      · exact h
      · exact absurd rfl (hplus digits)

/-- A natural number below the bound is read back. -/
theorem unsigned?_ofNat {bound n : Nat} (h : n < bound) : unsigned? bound (ofNat n) = some n :=
  unsigned?_eq_some_iff.mpr ⟨[], ofNat n, rfl, Or.inl rfl, natural?_ofNat n, h⟩

/-- A whole number in range is read back. -/
theorem signed?_ofInt {half : Nat} {z : Int} (hlower : -(half : Int) ≤ z) (hupper : z < half) :
    signed? half (ofInt z) = some z := by
  cases z with
  | ofNat n =>
    unfold signed?
    dsimp only [ofInt]
    split
    · next rest heq =>
      exact absurd (heq ▸ List.mem_cons_self) (not_mem_ofNat (by decide : isDigit '+' = false) n)
    · next rest heq =>
      exact absurd (heq ▸ List.mem_cons_self) (not_mem_ofNat (by decide : isDigit '-' = false) n)
    · rw [natural?_ofNat, Option.map_some, Option.filter_some]
      exact if_pos (decide_eq_true ⟨hlower, hupper⟩)
  | negSucc n =>
    have hnumber : (natural? (ofNat (n + 1))).map (fun k => -Int.ofNat k) = some (.negSucc n) := by
      rw [natural?_ofNat]
      rfl
    show Option.filter _ ((natural? (ofNat (n + 1))).map fun k => -Int.ofNat k) = _
    rw [hnumber, Option.filter_some]
    exact if_pos (decide_eq_true ⟨hlower, hupper⟩)

/-! ## §3 Signs -/

/-- The text is a numeral of the whole number: a sign or none, and at least one digit. -/
inductive WholeText : List Char → Int → Prop
  | plain {digits : List Char} (hne : digits ≠ []) (hdigits : ∀ c ∈ digits, isDigit c = true) :
      WholeText digits (decimal digits)
  | plus {digits : List Char} (hne : digits ≠ []) (hdigits : ∀ c ∈ digits, isDigit c = true) :
      WholeText ('+' :: digits) (decimal digits)
  | minus {digits : List Char} (hne : digits ≠ []) (hdigits : ∀ c ∈ digits, isDigit c = true) :
      WholeText ('-' :: digits) (-decimal digits)

/-- A number in range is read from its numerals, and from nothing else. -/
theorem signed?_eq_some_iff {half : Nat} {z : Int} {cs : List Char} :
    signed? half cs = some z ↔ WholeText cs z ∧ -(half : Int) ≤ z ∧ z < half := by
  have hmap : ∀ (f : Nat → Int) digits, (natural? digits).map f = some z ↔
      digits ≠ [] ∧ (∀ c ∈ digits, isDigit c = true) ∧ f (decimal digits) = z := by
    intro f digits
    simp only [Option.map_eq_some_iff, natural?_eq_some_iff]
    constructor
    · rintro ⟨n, ⟨hne, hdigits, rfl⟩, hz⟩
      exact ⟨hne, hdigits, hz⟩
    · rintro ⟨hne, hdigits, hz⟩
      exact ⟨_, ⟨hne, hdigits, rfl⟩, hz⟩
  unfold signed?
  dsimp only
  rw [Option.filter_eq_some_iff, decide_eq_true_iff]
  refine and_congr_left fun _ => ?_
  split
  · next rest =>
    rw [hmap]
    constructor
    · rintro ⟨hne, hdigits, rfl⟩
      exact .plus hne hdigits
    · intro h
      cases h with
      | plain _ hdigits => exact absurd (hdigits '+' List.mem_cons_self) (by decide)
      | plus hne hdigits => exact ⟨hne, hdigits, rfl⟩
  · next rest =>
    rw [hmap]
    constructor
    · rintro ⟨hne, hdigits, rfl⟩
      exact .minus hne hdigits
    · intro h
      cases h with
      | plain _ hdigits => exact absurd (hdigits '-' List.mem_cons_self) (by decide)
      | minus hne hdigits => exact ⟨hne, hdigits, rfl⟩
  · next hplus hminus =>
    rw [hmap]
    constructor
    · rintro ⟨hne, hdigits, rfl⟩
      exact .plain hne hdigits
    · intro h
      cases h with
      | plain hne hdigits => exact ⟨hne, hdigits, rfl⟩
      | plus => exact absurd rfl (hplus _)
      | minus => exact absurd rfl (hminus _)

/-- A text is a numeral of one number at most. -/
theorem WholeText.unique {cs : List Char} {z z' : Int} (h : WholeText cs z)
    (h' : WholeText cs z') : z' = z := by
  have hread : ∀ w, WholeText cs w → w.natAbs ≤ z.natAbs + z'.natAbs →
      signed? (z.natAbs + z'.natAbs + 1) cs = some w :=
    fun w hw hle => signed?_eq_some_iff.mpr ⟨hw, by omega, by omega⟩
  exact Option.some.inj ((hread z' h' (by omega)).symm.trans (hread z h (by omega)))

end TaskFlow.Text
