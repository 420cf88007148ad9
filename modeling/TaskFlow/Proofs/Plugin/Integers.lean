/-
TaskFlow.Proofs.Plugin.Integers — whole number arithmetic is exact or fails.

The plugins promote their arguments to 64-bit integers, fold them step by step and stop at the first
result that does not fit. Set against this is arithmetic on unbounded integers: `Folds` and
`Remains` say which integer is the exact result and when there is none, and `Outcome` lists all that
a plugin can give, each case with what rules out the ones before it. Where the two agree on the
numbers (`Computes`), they agree on every list of arguments.

  §1 Whole numbers — `Fits`, and `Value.Stands` for what a value is promoted to.
  §2 Results       — `Folds` and `Remains` are what the folds of the plugins compute.
  §3 Outcomes      — `Outcome`, and how a calculation comes to it.
  §4 Plugins       — `integers_exact`.
-/
import TaskFlow.Plugin.Builtin.Arithmetic
import TaskFlow.Proofs.Attempt
import TaskFlow.Proofs.Text.Numeral

namespace TaskFlow.Plugin

open TaskFlow.Text

variable {v : Value} {args : List Value} {n : Int64} {numbers : List Int64} {a b z : Int}
  {zs : List Int} {op : Int → Int → Int}

/-! ## §1 Whole numbers -/

/-- The integer has 64 bits. -/
def Fits (z : Int) : Prop := -0x8000000000000000 ≤ z ∧ z < 0x8000000000000000

instance : DecidablePred Fits := fun z =>
  inferInstanceAs (Decidable (-0x8000000000000000 ≤ z ∧ z < 0x8000000000000000))

theorem fits_toInt (n : Int64) : Fits n.toInt := ⟨n.le_toInt, n.toInt_lt⟩

theorem toInt_ofInt (h : Fits z) : (Int64.ofInt z).toInt = z := Int64.toInt_ofInt_of_le h.1 h.2

theorem ofInt_eq_iff (h : Fits z) : Int64.ofInt z = n ↔ z = n.toInt := by
  rw [← Int64.toInt_inj, toInt_ofInt h]

namespace Value

theorem long?_eq_some_iff {cs : List Char} : long? cs = some n ↔ WholeText cs n.toInt := by
  rw [long?, Option.map_eq_some_iff]
  constructor
  · rintro ⟨z, hz, rfl⟩
    obtain ⟨htext, hfits⟩ := signed?_eq_some_iff.mp hz
    rwa [toInt_ofInt hfits]
  · intro htext
    exact ⟨n.toInt, signed?_eq_some_iff.mpr ⟨htext, fits_toInt n⟩, Int64.ofInt_toInt n⟩

/-- The value stands for a whole number: it is one, or a text whose trimmed content is the numeral
of one that fits. -/
inductive Stands : Value → Int → Prop
  | integer (n : Int64) : Stands (.integer n) n.toInt
  | text {s : String} {z : Int} (h : WholeText (trim s.toList) z) (hfits : Fits z) :
      Stands (.text s) z

/-- A value as the refusal to promote it names it: a text in quotes, anything else by its type. -/
def found : Value → String
  | .text s => s!"text '{s}'"
  | v => v.typeName

theorem promote_eq_ok_iff : v.promote = .ok n ↔ v.Stands n.toInt := by
  cases v with
  | integer m =>
    constructor
    · rintro ⟨⟩
      exact .integer n
    · intro h
      generalize hz : n.toInt = z at h
      cases h
      rw [promote, Int64.toInt_inj.mp hz]
  | text s =>
    have hread : (Value.text s).promote = .ok n ↔ long? (trim s.toList) = some n := by
      rw [promote]
      cases long? (trim s.toList) <;> simp
    rw [hread, long?_eq_some_iff]
    constructor
    · exact fun h => .text h (fits_toInt n)
    · rintro ⟨⟩
      assumption
  | _ =>
    constructor <;> intro h <;> cases h

theorem Stands.fits (h : v.Stands z) : Fits z := by
  cases h with
  | integer n => exact fits_toInt n
  | text _ hfits => exact hfits

theorem Stands.exists_promote (h : v.Stands z) : ∃ n : Int64, v.promote = .ok n ∧ n.toInt = z := by
  have hz := toInt_ofInt h.fits
  exact ⟨Int64.ofInt z, promote_eq_ok_iff.mpr (hz.symm ▸ h), hz⟩

theorem eq_promotion_of_promote {e : PluginError} (h : v.promote = .error e) :
    e = .promotion v.found := by
  cases v with
  | integer m => cases h
  | text s =>
    rw [promote] at h
    split at h <;> cases h
    rfl
  | _ =>
    cases h
    rfl

/-- A value that stands for nothing is refused. -/
theorem promote_eq_error_iff {e : PluginError} :
    v.promote = .error e ↔ (∀ z, ¬v.Stands z) ∧ e = .promotion v.found := by
  constructor
  · intro h
    refine ⟨fun z hz => ?_, eq_promotion_of_promote h⟩
    obtain ⟨n, hn, -⟩ := hz.exists_promote
    cases h.symm.trans hn
  · rintro ⟨hnone, rfl⟩
    cases hp : v.promote with
    | ok n => exact absurd (promote_eq_ok_iff.mp hp) (hnone n.toInt)
    | error e => rw [eq_promotion_of_promote hp]

end Value

/-- The whole numbers that the arguments stand for, in order. -/
def Promoted (args : List Value) (zs : List Int) : Prop := List.Forall₂ Value.Stands args zs

theorem promoted_of_mapM (h : args.mapM Value.promote = .ok numbers) :
    Promoted args (numbers.map Int64.toInt) :=
  List.forall₂_map_right_iff.mpr ((mapM_eq_ok_iff.mp h).imp fun _ _ => Value.promote_eq_ok_iff.mp)

theorem Promoted.exists_mapM (h : Promoted args zs) :
    ∃ numbers, args.mapM Value.promote = .ok numbers ∧ numbers.map Int64.toInt = zs := by
  simp only [mapM_eq_ok_iff]
  induction h with
  | nil => exact ⟨[], .nil, rfl⟩
  | cons hv _ ih =>
    obtain ⟨n, hn, rfl⟩ := hv.exists_promote
    obtain ⟨numbers, hnumbers, rfl⟩ := ih
    exact ⟨n :: numbers, .cons hn hnumbers, rfl⟩

theorem Promoted.exists_cons (h : Promoted args (a :: zs)) :
    ∃ first rest, args.mapM Value.promote = .ok (first :: rest) ∧ first.toInt = a ∧
      rest.map Int64.toInt = zs ∧ args.length = rest.length + 1 := by
  obtain ⟨numbers, hnumbers, hzs⟩ := h.exists_mapM
  cases numbers with
  | nil => cases hzs
  | cons first rest =>
    obtain ⟨rfl, rfl⟩ := List.cons.inj hzs
    exact ⟨first, rest, hnumbers, rfl, rfl, by simpa using h.length_eq⟩

/-! ## §2 Results -/

/-- The fold of an operation over unbounded integers, from left to right: every value on the way
fits, and the last one is the result. -/
def Folds (op : Int → Int → Int) (first : Int) (rest : List Int) (z : Int) : Prop :=
  (∀ w ∈ rest.scanl op first, Fits w) ∧ z = rest.foldl op first

/-- The remainder of a division of two integers whose quotient, rounded toward zero, fits. -/
def Remains (a : Int) (rest : List Int) (z : Int) : Prop :=
  ∃ b, rest = [b] ∧ Fits (a.tdiv b) ∧ z = a - b * a.tdiv b

theorem folds_nil : Folds op a [] z ↔ Fits a ∧ z = a := by
  simp [Folds]

theorem folds_cons : Folds op a (b :: zs) z ↔ Fits a ∧ Folds op (op a b) zs z := by
  rw [Folds, Folds, List.scanl_cons, List.forall_mem_cons, List.foldl_cons, and_assoc]

theorem Folds.fits_first (h : Folds op a zs z) : Fits a := by
  cases zs with
  | nil => exact (folds_nil.mp h).1
  | cons b zs => exact (folds_cons.mp h).1

namespace Arithmetic

theorem within?_eq_some_iff : within? z = some n ↔ z = n.toInt := by
  unfold within?
  split
  · next hfits => rw [Option.some_inj, ofInt_eq_iff hfits]
  · next hfits =>
    constructor
    · rintro ⟨⟩
    · rintro rfl
      exact absurd (fits_toInt n) hfits

/-- The fold of checked steps is the fold over unbounded integers, where it exists. -/
theorem folds_iff {first : Int64} {rest : List Int64} :
    Folds op first.toInt (rest.map Int64.toInt) z ↔
      ∃ n, foldFrom (checked op) first rest = some n ∧ n.toInt = z := by
  induction rest generalizing first with
  | nil => simp [folds_nil, foldFrom, fits_toInt, eq_comm]
  | cons b rest ih =>
    rw [List.map_cons, folds_cons, foldFrom, checked]
    constructor
    · rintro ⟨-, h⟩
      have hnext := toInt_ofInt h.fits_first
      have hwithin :
          within? (op first.toInt b.toInt) = some (Int64.ofInt (op first.toInt b.toInt)) :=
        within?_eq_some_iff.mpr hnext.symm
      rw [← hnext] at h
      rw [hwithin]
      exact ih.mp h
    · rintro ⟨n, hn, rfl⟩
      obtain ⟨next, hnext, hrest⟩ := Option.bind_eq_some_iff.mp hn
      rw [within?_eq_some_iff.mp hnext]
      exact ⟨fits_toInt first, ih.mpr ⟨n, hrest, rfl⟩⟩

theorem fits_tmod (a b : Int64) : Fits (a.toInt.tmod b.toInt) := by
  obtain ⟨hlower, hupper⟩ := fits_toInt b
  by_cases hb : b.toInt = 0
  · rw [hb, Int.tmod_zero]
    exact fits_toInt a
  · have habs := Int.natAbs_tmod a.toInt b.toInt
    have hlt : a.toInt.natAbs % b.toInt.natAbs < b.toInt.natAbs :=
      Nat.mod_lt _ (Int.natAbs_pos.mpr hb)
    exact ⟨by omega, by omega⟩

theorem remains_iff {a b : Int64} :
    Remains a.toInt [b.toInt] z ↔ ∃ n, foldFrom remainder a [b] = some n ∧ n.toInt = z := by
  have hfold : foldFrom remainder a [b] = remainder a b := by
    cases h : remainder a b <;> simp [foldFrom, h]
  rw [hfold, remainder]
  constructor
  · rintro ⟨c, hc, hquotient, rfl⟩
    cases hc
    have hdiv : checked Int.tdiv a b = some (Int64.ofInt (a.toInt.tdiv b.toInt)) :=
      within?_eq_some_iff.mpr (toInt_ofInt hquotient).symm
    have hmod : checked Int.tmod a b = some (Int64.ofInt (a.toInt.tmod b.toInt)) :=
      within?_eq_some_iff.mpr (toInt_ofInt (fits_tmod a b)).symm
    exact ⟨_, by rw [hdiv, Option.bind_some, hmod],
      (toInt_ofInt (fits_tmod a b)).trans (Int.tmod_def ..)⟩
  · rintro ⟨n, hn, rfl⟩
    obtain ⟨q, hq, hmod⟩ := Option.bind_eq_some_iff.mp hn
    refine ⟨b.toInt, rfl, ?_, ?_⟩
    · rw [within?_eq_some_iff.mp hq]
      exact fits_toInt q
    · rw [← within?_eq_some_iff.mp hmod, Int.tmod_def]

end Arithmetic

/-! ## §3 Outcomes -/

/-- What a plugin gives that calculates with whole numbers. `arity` is how many it takes, `divides`
says that all behind the first are divisors, and `Exact` which integer is the result. Every case
says why none before it applies. -/
inductive Outcome (arity : Arity) (plugin : String) (divides : Bool)
    (Exact : Int → List Int → Int → Prop) (args : List Value) : Except PluginError Value → Prop
  | miscounted (hcount : arity.admits args.length = false) :
      Outcome arity plugin divides Exact args
        (.error (.arity plugin arity.describe args.length))
  | unpromoted {front back : List Value} {v : Value} (hcount : arity.admits args.length = true)
      (hargs : args = front ++ v :: back) (hfront : ∀ u ∈ front, ∃ z, u.Stands z)
      (hv : ∀ z, ¬v.Stands z) :
      Outcome arity plugin divides Exact args (.error (.promotion v.found))
  | divisionByZero {first : Int} {rest : List Int} (hcount : arity.admits args.length = true)
      (hargs : Promoted args (first :: rest)) (hzero : divides = true ∧ 0 ∈ rest) :
      Outcome arity plugin divides Exact args (.error (.divisionByZero plugin))
  | overflow {first : Int} {rest : List Int} (hcount : arity.admits args.length = true)
      (hargs : Promoted args (first :: rest)) (hnonzero : ¬(divides = true ∧ 0 ∈ rest))
      (hnone : ∀ z, ¬Exact first rest z) :
      Outcome arity plugin divides Exact args (.error (.evaluation plugin "numeric overflow"))
  | exact {first : Int} {rest : List Int} {n : Int64} (hcount : arity.admits args.length = true)
      (hargs : Promoted args (first :: rest)) (hnonzero : ¬(divides = true ∧ 0 ∈ rest))
      (hexact : Exact first rest n.toInt) :
      Outcome arity plugin divides Exact args (.ok (.integer n))

namespace Arithmetic

variable {arity : Arity} {plugin : String} {divides : Bool} {step : Int64 → Int64 → Option Int64}
  {Exact : Int → List Int → Int → Prop} {first : Int64} {rest : List Int64}
  {result : Except PluginError Value}

/-- `folding` and `dividing` in one. -/
def calculating (arity : Arity) (plugin : String) (divides : Bool)
    (step : Int64 → Int64 → Option Int64) (args : List Value) : Except PluginError Value := do
  arity.check plugin args
  let numbers ← args.mapM Value.promote
  if divides && numbers.tail.contains 0 then throw (.divisionByZero plugin)
  fold plugin step numbers

theorem folding_calculate (ambient : Ambient) (args : List Value) :
    (folding arity plugin step).calculate ambient args = calculating arity plugin false step args :=
  rfl

theorem dividing_calculate (ambient : Ambient) (args : List Value) :
    (dividing arity plugin step).calculate ambient args = calculating arity plugin true step args :=
  rfl

theorem calculating_of_miscounted (hcount : arity.admits args.length = false) :
    calculating arity plugin divides step args =
      .error (.arity plugin arity.describe args.length) := by
  simp [calculating, Arity.check, hcount, bind, Except.bind]

theorem calculating_of_unpromoted {e : PluginError} (hcount : arity.admits args.length = true)
    (hargs : args.mapM Value.promote = .error e) :
    calculating arity plugin divides step args = .error e := by
  simp [calculating, Arity.check, hcount, hargs, bind, Except.bind]

theorem calculating_of_promoted (hcount : arity.admits args.length = true)
    (hargs : args.mapM Value.promote = .ok (first :: rest)) :
    calculating arity plugin divides step args =
      if divides = true ∧ 0 ∈ rest then .error (.divisionByZero plugin)
      else match foldFrom step first rest with
        | some n => .ok (.integer n)
        | none => .error (.evaluation plugin "numeric overflow") := by
  have hguard :
      (divides && (first :: rest).tail.contains 0) = true ↔ divides = true ∧ 0 ∈ rest := by
    simp
  simp only [calculating, Arity.check, hcount, hargs, hguard, bind, Except.bind, throw, throwThe,
    MonadExceptOf.throw, if_true]
  split <;> rfl

/-- The steps compute the exact result wherever the plugin comes to them. -/
structure Computes (arity : Arity) (step : Int64 → Int64 → Option Int64)
    (Exact : Int → List Int → Int → Prop) : Prop where
  needed : arity.admits 0 = false
  exact_iff : ∀ {first rest z}, arity.admits (rest.length + 1) = true →
    (Exact first.toInt (rest.map Int64.toInt) z ↔
      ∃ n, foldFrom step first rest = some n ∧ n.toInt = z)

theorem zero_mem_map_iff : 0 ∈ rest.map Int64.toInt ↔ 0 ∈ rest := by
  rw [List.mem_map]
  constructor
  · rintro ⟨n, hn, hzero⟩
    rwa [← Int64.toInt_inj.mp (hzero.trans Int64.toInt_zero.symm)]
  · exact fun h => ⟨0, h, Int64.toInt_zero⟩

theorem Computes.outcome_of_promoted (h : Computes arity step Exact)
    (hcount : arity.admits args.length = true)
    (hnumbers : args.mapM Value.promote = .ok (first :: rest)) :
    Outcome arity plugin divides Exact args (calculating arity plugin divides step args) := by
  have hargs := promoted_of_mapM hnumbers
  have hlength : args.length = rest.length + 1 := by simpa using hargs.length_eq
  have hexact : ∀ z, Exact first.toInt (rest.map Int64.toInt) z ↔
      ∃ n, foldFrom step first rest = some n ∧ n.toInt = z :=
    fun z => h.exact_iff (hlength ▸ hcount)
  rw [calculating_of_promoted hcount hnumbers]
  split
  · next hzero =>
    rw [← zero_mem_map_iff] at hzero
    exact .divisionByZero hcount hargs hzero
  · next hnonzero =>
    rw [← zero_mem_map_iff] at hnonzero
    split
    · next n hn => exact .exact hcount hargs hnonzero ((hexact _).mpr ⟨n, hn, rfl⟩)
    · next hnone =>
      refine .overflow hcount hargs hnonzero fun z hz => ?_
      obtain ⟨n, hn, -⟩ := (hexact z).mp hz
      cases hnone.symm.trans hn

/-- A calculation comes to an outcome. -/
theorem Computes.outcome (h : Computes arity step Exact) (args : List Value) :
    Outcome arity plugin divides Exact args (calculating arity plugin divides step args) := by
  cases hcount : arity.admits args.length with
  | false =>
    rw [calculating_of_miscounted hcount]
    exact .miscounted hcount
  | true =>
    cases hargs : args.mapM Value.promote with
    | error e =>
      obtain ⟨front, v, back, hall, hfront, hv⟩ := mapM_eq_error_iff.mp hargs
      obtain ⟨hnone, rfl⟩ := Value.promote_eq_error_iff.mp hv
      rw [calculating_of_unpromoted hcount hargs]
      refine .unpromoted hcount hall (fun u hu => ?_) hnone
      obtain ⟨n, hn⟩ := hfront u hu
      exact ⟨_, Value.promote_eq_ok_iff.mp hn⟩
    | ok numbers =>
      cases numbers with
      | nil =>
        have hlength : args.length = 0 := by simpa using (promoted_of_mapM hargs).length_eq
        rw [hlength, h.needed] at hcount
        cases hcount
      | cons first rest => exact h.outcome_of_promoted hcount hargs

/-- A calculation comes to no other outcome. -/
theorem Computes.eq_of_outcome (h : Computes arity step Exact)
    (hresult : Outcome arity plugin divides Exact args result) :
    calculating arity plugin divides step args = result := by
  cases hresult with
  | miscounted hcount => exact calculating_of_miscounted hcount
  | unpromoted hcount hargs hfront hv =>
    refine calculating_of_unpromoted hcount (mapM_eq_error_iff.mpr ⟨_, _, _, hargs, ?_, ?_⟩)
    · intro u hu
      obtain ⟨z, hz⟩ := hfront u hu
      obtain ⟨n, hn, -⟩ := hz.exists_promote
      exact ⟨n, hn⟩
    · exact Value.promote_eq_error_iff.mpr ⟨hv, rfl⟩
  | divisionByZero hcount hargs hzero =>
    obtain ⟨first, rest, hnumbers, rfl, rfl, -⟩ := hargs.exists_cons
    rw [zero_mem_map_iff] at hzero
    rw [calculating_of_promoted hcount hnumbers, if_pos hzero]
  | overflow hcount hargs hnonzero hnone =>
    obtain ⟨first, rest, hnumbers, rfl, rfl, hlength⟩ := hargs.exists_cons
    rw [zero_mem_map_iff] at hnonzero
    rw [calculating_of_promoted hcount hnumbers, if_neg hnonzero]
    cases hn : foldFrom step first rest with
    | none => rfl
    | some n => exact absurd ((h.exact_iff (hlength ▸ hcount)).mpr ⟨n, hn, rfl⟩) (hnone _)
  | exact hcount hargs hnonzero hexact =>
    obtain ⟨first, rest, hnumbers, rfl, rfl, hlength⟩ := hargs.exists_cons
    rw [zero_mem_map_iff] at hnonzero
    obtain ⟨m, hm, heq⟩ := (h.exact_iff (hlength ▸ hcount)).mp hexact
    rw [calculating_of_promoted hcount hnumbers, if_neg hnonzero, hm, Int64.toInt_inj.mp heq]

theorem Computes.calculating_iff (h : Computes arity step Exact) :
    calculating arity plugin divides step args = result ↔
      Outcome arity plugin divides Exact args result :=
  ⟨fun heq => heq ▸ h.outcome args, h.eq_of_outcome⟩

theorem Computes.folding_iff (h : Computes arity step Exact) (ambient : Ambient) :
    (folding arity plugin step).calculate ambient args = result ↔
      Outcome arity plugin false Exact args result := by
  rw [folding_calculate]
  exact h.calculating_iff

theorem Computes.dividing_iff (h : Computes arity step Exact) (ambient : Ambient) :
    (dividing arity plugin step).calculate ambient args = result ↔
      Outcome arity plugin true Exact args result := by
  rw [dividing_calculate]
  exact h.calculating_iff

/-! ## §4 Plugins -/

theorem computes_folds (op : Int → Int → Int) (more : Nat) :
    Computes (.atLeast (more + 1)) (checked op) (Folds op) where
  needed := decide_eq_false (Nat.not_succ_le_zero more)
  exact_iff := fun _ => folds_iff

theorem computes_remains : Computes (.exactly 2) remainder Remains where
  needed := rfl
  exact_iff := by
    intro first rest z hcount
    have hlength : rest.length = 1 := by simpa [Arity.admits] using hcount
    obtain ⟨b, rfl⟩ := List.length_eq_one_iff.mp hlength
    exact remains_iff

/-- A quotient fits unless the least integer is divided by minus one. -/
theorem fits_tdiv (ha : Fits a) (hb : b ≠ 0) (hleast : ¬(a = -0x8000000000000000 ∧ b = -1)) :
    Fits (a.tdiv b) := by
  obtain ⟨hlower, hupper⟩ := ha
  have habs : (a.tdiv b).natAbs = a.natAbs / b.natAbs := Int.natAbs_tdiv a b
  by_cases hunit : b.natAbs = 1
  · rcases Int.natAbs_eq_natAbs_iff.mp (hunit.trans Int.natAbs_one.symm) with rfl | rfl
    · rw [Int.tdiv_one]
      exact ⟨hlower, hupper⟩
    · rw [Int.tdiv_neg, Int.tdiv_one]
      exact ⟨by omega, by omega⟩
  · have htwo : 2 ≤ b.natAbs := by omega
    have hhalf : a.natAbs / b.natAbs ≤ a.natAbs / 2 := Nat.div_le_div_left htwo (by decide)
    exact ⟨by omega, by omega⟩

/-- The whole number plugins are exact or fail, and how they fail is settled by the first thing that
is wrong: the number of arguments, an argument that stands for no whole number, a zero among the
divisors, a value on the way that does not fit. Where a quotient is defined and fits, the remainder
is what the quotient leaves. -/
theorem integers_exact (ambient : Ambient) (args : List Value) :
    (∀ result, add.calculate ambient args = result ↔
      Outcome (.atLeast 1) "add" false (Folds (· + ·)) args result) ∧
    (∀ result, subtract.calculate ambient args = result ↔
      Outcome (.atLeast 2) "subtract" false (Folds (· - ·)) args result) ∧
    (∀ result, multiply.calculate ambient args = result ↔
      Outcome (.atLeast 1) "multiply" false (Folds (· * ·)) args result) ∧
    (∀ result, div.calculate ambient args = result ↔
      Outcome (.atLeast 2) "div" true (Folds Int.tdiv) args result) ∧
    (∀ result, mod.calculate ambient args = result ↔
      Outcome (.exactly 2) "mod" true Remains args result) ∧
    (∀ a b, Promoted args [a, b] → b ≠ 0 → ¬(a = -0x8000000000000000 ∧ b = -1) →
      ∃ q r : Int64, div.calculate ambient args = .ok (.integer q) ∧
        mod.calculate ambient args = .ok (.integer r) ∧ r.toInt = a - b * q.toInt) := by
  have hdiv : ∀ result, div.calculate ambient args = result ↔
      Outcome (.atLeast 2) "div" true (Folds Int.tdiv) args result :=
    fun _ => (computes_folds Int.tdiv 1).dividing_iff ambient
  have hmod : ∀ result, mod.calculate ambient args = result ↔
      Outcome (.exactly 2) "mod" true Remains args result :=
    fun _ => computes_remains.dividing_iff ambient
  refine ⟨fun _ => (computes_folds (· + ·) 0).folding_iff ambient,
    fun _ => (computes_folds (· - ·) 1).folding_iff ambient,
    fun _ => (computes_folds (· * ·) 0).folding_iff ambient, hdiv, hmod, ?_⟩
  intro a b hargs hb hleast
  obtain ⟨first, rest, -, rfl, hrest, hlength⟩ := hargs.exists_cons
  obtain ⟨second, rfl, rfl⟩ := List.map_eq_singleton_iff.mp hrest
  have hcount : args.length = 2 := hlength
  have hnonzero : ¬(true = true ∧ 0 ∈ [second.toInt]) := by simpa using Ne.symm hb
  have hquotient := fits_tdiv (fits_toInt first) hb hleast
  have hq := toInt_ofInt hquotient
  obtain ⟨r, -, hr⟩ := remains_iff.mp ⟨second.toInt, rfl, hquotient, rfl⟩
  refine ⟨Int64.ofInt (first.toInt.tdiv second.toInt), r, (hdiv _).mpr ?_, (hmod _).mpr ?_, ?_⟩
  · refine .exact (by simp [Arity.admits, hcount]) hargs hnonzero ?_
    exact folds_cons.mpr ⟨fits_toInt first, folds_nil.mpr ⟨hquotient, hq⟩⟩
  · refine .exact (by simp [Arity.admits, hcount]) hargs hnonzero ?_
    exact ⟨second.toInt, rfl, hquotient, hr⟩
  · rw [hq, hr]

/-- The least integer, written with blanks around it, divided by minus one, by minus one and zero,
and by ten. -/
theorem integers_exact_least :
    let least : Value := .text " -9223372036854775808 "
    mod.calculate default [least, .integer (-1)] =
      .error (.evaluation "mod" "numeric overflow") ∧
    div.calculate default [least, .integer (-1), .integer 0] = .error (.divisionByZero "div") ∧
    ∃ q r : Int64, div.calculate default [least, .integer 10] = .ok (.integer q) ∧
      mod.calculate default [least, .integer 10] = .ok (.integer r) ∧
      r.toInt = -0x8000000000000000 - 10 * q.toInt := by
  intro least
  have hread : signed? 0x8000000000000000 (trim " -9223372036854775808 ".toList) =
      some (-0x8000000000000000) := by decide
  have hleast : least.Stands (-0x8000000000000000) :=
    .text (signed?_eq_some_iff.mp hread).1 (by decide)
  have hargs : ∀ n : Int64, Promoted [least, .integer n] [-0x8000000000000000, n.toInt] :=
    fun n => .cons hleast (.cons (.integer n) .nil)
  refine ⟨?_, ?_, ?_⟩
  · refine ((integers_exact default _).2.2.2.2.1 _).mpr (.overflow rfl (hargs (-1)) (by decide) ?_)
    rintro z ⟨b, hb, hfits, -⟩
    cases hb
    exact absurd hfits (by decide)
  · exact ((integers_exact default _).2.2.2.1 _).mpr (.divisionByZero rfl
      (.cons hleast (.cons (.integer _) (.cons (.integer 0) .nil))) (by decide))
  · exact (integers_exact default [least, .integer 10]).2.2.2.2.2 _ _ (hargs 10) (by decide)
      (by decide)

end Arithmetic

end TaskFlow.Plugin
