/-
TaskFlow.Proofs.Plugin.Exchange — values go through plugins and back without loss.

An element of the data model becomes an argument, and a result becomes an element again, each by a
recursion of its own. The two types differ in their numbers only: an argument has no whole numbers
past the signed 64-bit range, and an element has no infinities and no NaN. So a value survives
exactly if no such number stands in it, at whatever depth (`Json.Signed`, `Value.IsFinite`); one
that does comes back as a double, or as null.

  §1 Containers — lists and dictionaries that a function keeps; sizes.
  §2 Elements   — what stands in an element, induction on it, and `Json.Signed`.
  §3 Arguments  — the same of arguments, and `Value.IsFinite`.
  §4 Numbers    — a number there and back.
  §5 Values     — `exchange_lossless`.
-/
import TaskFlow.Proofs.Plugin.Transposition

namespace TaskFlow

open TaskFlow.Binary

/-! ## §1 Containers -/

theorem map_eq_self_iff {α : Type} {f : α → α} {l : List α} :
    l.map f = l ↔ ∀ x ∈ l, f x = x := by
  have hid : l.map f = l ↔ l.map f = l.map id := by rw [List.map_id]
  rw [hid, List.map_inj_left]
  simp only [id_eq]

namespace Dictionary

variable {α : Type} {d : Dictionary α}

theorem mapValues_eq_self_iff {f : α → α} :
    mapValues f d = d ↔ ∀ entry ∈ d, f entry.2 = entry.2 := by
  simp only [mapValues, map_eq_self_iff, Prod.ext_iff, true_and]

theorem sizeOf_value_lt [SizeOf α] {entry : String × α} (h : entry ∈ d) :
    sizeOf entry.2 < sizeOf d := by
  have hentry := List.sizeOf_lt_of_mem h
  cases entry with
  | mk key value =>
    rw [Prod.mk.sizeOf_spec] at hentry
    dsimp only
    omega

end Dictionary

/-! ## §2 Elements -/

namespace Json

variable {items : List Json} {fields : List (String × Json)}

/-- The first value is the second one, or stands in one of its items or fields, at any depth. -/
inductive Within : Json → Json → Prop
  | self (v : Json) : Within v v
  | item {v u : Json} {items : List Json} (hmem : u ∈ items) (hwithin : Within v u) :
      Within v (.arr items)
  | field {v : Json} {entry : String × Json} {fields : List (String × Json)}
      (hmem : entry ∈ fields) (hwithin : Within v entry.2) : Within v (.obj fields)

/-- No whole number in the value is past the signed 64-bit range. -/
def Signed (v : Json) : Prop :=
  ∀ w : Whole, Within (.num (.whole w)) v → w.val < 0x8000000000000000

@[simp] theorem signed_null : Signed .null := by
  intro w hwithin
  cases hwithin

@[simp] theorem signed_bool (b : Bool) : Signed (.bool b) := by
  intro w hwithin
  cases hwithin

@[simp] theorem signed_str (s : String) : Signed (.str s) := by
  intro w hwithin
  cases hwithin

@[simp] theorem signed_real (x : Finite) : Signed (.num (.real x)) := by
  intro w hwithin
  cases hwithin

@[simp] theorem signed_whole_iff {w : Whole} :
    Signed (.num (.whole w)) ↔ w.val < 0x8000000000000000 := by
  constructor
  · intro h
    exact h w (.self _)
  · intro h u hwithin
    cases hwithin
    exact h

@[simp] theorem signed_arr_iff : Signed (.arr items) ↔ ∀ v ∈ items, v.Signed := by
  constructor
  · intro h v hmem w hwithin
    exact h w (.item hmem hwithin)
  · intro h w hwithin
    cases hwithin with
    | item hmem hwithin => exact h _ hmem w hwithin

@[simp] theorem signed_obj_iff : Signed (.obj fields) ↔ ∀ entry ∈ fields, entry.2.Signed := by
  constructor
  · intro h entry hmem w hwithin
    exact h w (.field hmem hwithin)
  · intro h w hwithin
    cases hwithin with
    | field hmem hwithin => exact h _ hmem w hwithin

/-- Induction on a value, with the hypothesis for every item and for the value of every field. -/
theorem structural {P : Json → Prop} (null : P .null) (bool : ∀ b, P (.bool b))
    (num : ∀ n, P (.num n)) (str : ∀ s, P (.str s))
    (arr : ∀ items, (∀ v ∈ items, P v) → P (.arr items))
    (obj : ∀ fields, (∀ entry ∈ fields, P entry.2) → P (.obj fields)) (v : Json) : P v := by
  match v with
  | .null => exact null
  | .bool b => exact bool b
  | .num n => exact num n
  | .str s => exact str s
  | .arr items =>
    refine arr items fun v hmem => ?_
    have hsmaller := List.sizeOf_lt_of_mem hmem
    exact structural null bool num str arr obj v
  | .obj fields =>
    refine obj fields fun entry hmem => ?_
    have hsmaller := Dictionary.sizeOf_value_lt hmem
    exact structural null bool num str arr obj entry.2
termination_by sizeOf v
decreasing_by all_goals simp_wf; omega

end Json

namespace Plugin.Value

variable {items : List Value} {fields : List (String × Value)}

/-! ## §3 Arguments -/

/-- The first value is the second one, or stands in one of its items or fields, at any depth. -/
inductive Within : Value → Value → Prop
  | self (p : Value) : Within p p
  | item {p q : Value} {items : List Value} (hmem : q ∈ items) (hwithin : Within p q) :
      Within p (.sequence items)
  | field {p : Value} {entry : String × Value} {fields : List (String × Value)}
      (hmem : entry ∈ fields) (hwithin : Within p entry.2) : Within p (.map fields)

/-- Every float in the value is finite. -/
def IsFinite (p : Value) : Prop := ∀ x : Double, Within (.float x) p → ∃ y, x = .finite y

@[simp] theorem isFinite_null : IsFinite .null := by
  intro x hwithin
  cases hwithin

@[simp] theorem isFinite_boolean (b : Bool) : IsFinite (.boolean b) := by
  intro x hwithin
  cases hwithin

@[simp] theorem isFinite_integer (n : Int64) : IsFinite (.integer n) := by
  intro x hwithin
  cases hwithin

@[simp] theorem isFinite_text (s : String) : IsFinite (.text s) := by
  intro x hwithin
  cases hwithin

@[simp] theorem isFinite_float_iff {x : Double} : IsFinite (.float x) ↔ ∃ y, x = .finite y := by
  constructor
  · intro h
    exact h x (.self _)
  · intro h u hwithin
    cases hwithin
    exact h

@[simp] theorem isFinite_sequence_iff : IsFinite (.sequence items) ↔ ∀ p ∈ items, p.IsFinite := by
  constructor
  · intro h p hmem x hwithin
    exact h x (.item hmem hwithin)
  · intro h x hwithin
    cases hwithin with
    | item hmem hwithin => exact h _ hmem x hwithin

@[simp] theorem isFinite_map_iff : IsFinite (.map fields) ↔ ∀ entry ∈ fields, entry.2.IsFinite := by
  constructor
  · intro h entry hmem x hwithin
    exact h x (.field hmem hwithin)
  · intro h x hwithin
    cases hwithin with
    | field hmem hwithin => exact h _ hmem x hwithin

/-- Induction on a value, with the hypothesis for every item and for the value of every field. -/
theorem structural {P : Value → Prop} (null : P .null) (boolean : ∀ b, P (.boolean b))
    (integer : ∀ n, P (.integer n)) (float : ∀ x, P (.float x)) (text : ∀ s, P (.text s))
    (sequence : ∀ items, (∀ p ∈ items, P p) → P (.sequence items))
    (map : ∀ fields, (∀ entry ∈ fields, P entry.2) → P (.map fields)) (p : Value) : P p := by
  match p with
  | .null => exact null
  | .boolean b => exact boolean b
  | .integer n => exact integer n
  | .float x => exact float x
  | .text s => exact text s
  | .sequence items =>
    refine sequence items fun p hmem => ?_
    have hsmaller := List.sizeOf_lt_of_mem hmem
    exact structural null boolean integer float text sequence map p
  | .map fields =>
    refine map fields fun entry hmem => ?_
    have hsmaller := Dictionary.sizeOf_value_lt hmem
    exact structural null boolean integer float text sequence map entry.2
termination_by sizeOf p
decreasing_by all_goals simp_wf; omega

/-! ## §4 Numbers -/

theorem ofJson_whole {w : Whole} (h : w.val < 0x8000000000000000) :
    ofJson (.num (.whole w)) = .integer (Int64.ofInt w.val) := by
  have hread : (Number.whole w).toInt64? = some (Int64.ofInt w.val) := by
    rw [Number.toInt64?, Whole.toInt64?, if_pos h]
  rw [ofJson, hread]

/-- A whole number comes back as it was, or else as a double or as null. -/
theorem toJson_ofJson_whole_iff {w : Whole} :
    (ofJson (.num (.whole w))).toJson = .num (.whole w) ↔ w.val < 0x8000000000000000 := by
  by_cases h : w.val < 0x8000000000000000
  · refine iff_of_true ?_ h
    rw [ofJson_whole h, toJson, Json.ofInt64, Whole.ofInt64_ofInt h]
  · have hread : (Number.whole w).toInt64? = none := by
      rw [Number.toInt64?, Whole.toInt64?, if_neg h]
    refine iff_of_false ?_ h
    rw [ofJson, hread]
    cases (Number.whole w).toDouble with
    | finite y => simp [toJson]
    | _ => simp [toJson]

theorem ofJson_toJson_integer (n : Int64) : ofJson (toJson (.integer n)) = .integer n := by
  have hread : (Number.whole (Whole.ofInt64 n)).toInt64? = some n := Whole.toInt64?_ofInt64 n
  simp only [toJson, Json.ofInt64, ofJson, hread]

theorem ofJson_toJson_float_iff {x : Double} :
    ofJson (toJson (.float x)) = .float x ↔ ∃ y, x = .finite y := by
  cases x with
  | finite y => exact iff_of_true rfl ⟨y, rfl⟩
  | _ => simp [toJson, ofJson]

/-! ## §5 Values -/

theorem toItems_eq (items : List Value) : toItems items = items.map toJson := by
  induction items with
  | nil => rfl
  | cons p items ih => rw [toItems, ih, List.map_cons]

theorem toFields_eq (fields : List (String × Value)) :
    toFields fields = fields.map fun entry => (entry.1, toJson entry.2) := by
  induction fields with
  | nil => rfl
  | cons entry fields ih => rw [toFields, ih, List.map_cons]

/-- An element that goes there and back is the same exactly if its whole numbers fit. -/
theorem toJson_ofJson_iff (v : Json) : (ofJson v).toJson = v ↔ v.Signed := by
  induction v using Json.structural with
  | null => simp [ofJson, toJson]
  | bool b => simp [ofJson, toJson]
  | num n =>
    cases n with
    | whole w => exact toJson_ofJson_whole_iff.trans Json.signed_whole_iff.symm
    | real x => exact iff_of_true rfl (Json.signed_real x)
  | str s => simp [ofJson, toJson]
  | arr items ih =>
    have hitems : toItems (ofItems items) = items.map fun v => (ofJson v).toJson := by
      simp only [toItems_eq, ofItems_eq, List.map_map, Function.comp_def]
    rw [ofJson, toJson, hitems, Json.arr.injEq, map_eq_self_iff, Json.signed_arr_iff]
    exact forall₂_congr ih
  | obj fields ih =>
    have hfields : toFields (ofFields fields) =
        Dictionary.mapValues (fun v => (ofJson v).toJson) fields := by
      simp only [toFields_eq, ofFields_eq, List.map_map, Dictionary.mapValues, Function.comp_def]
    rw [ofJson, toJson, hfields, Json.obj.injEq, Dictionary.mapValues_eq_self_iff,
      Json.signed_obj_iff]
    exact forall₂_congr ih

/-- An argument that goes there and back is the same exactly if its floats are finite. -/
theorem ofJson_toJson_iff (p : Value) : ofJson p.toJson = p ↔ p.IsFinite := by
  induction p using Value.structural with
  | null => simp [toJson, ofJson]
  | boolean b => simp [toJson, ofJson]
  | integer n => exact iff_of_true (ofJson_toJson_integer n) (isFinite_integer n)
  | float x => exact ofJson_toJson_float_iff.trans isFinite_float_iff.symm
  | text s => simp [toJson, ofJson]
  | sequence items ih =>
    have hitems : ofItems (toItems items) = items.map fun p => ofJson p.toJson := by
      simp only [toItems_eq, ofItems_eq, List.map_map, Function.comp_def]
    rw [toJson, ofJson, hitems, sequence.injEq, map_eq_self_iff, isFinite_sequence_iff]
    exact forall₂_congr ih
  | map fields ih =>
    have hfields : ofFields (toFields fields) =
        Dictionary.mapValues (fun p => ofJson p.toJson) fields := by
      simp only [toFields_eq, ofFields_eq, List.map_map, Dictionary.mapValues, Function.comp_def]
    rw [toJson, ofJson, hfields, map.injEq, Dictionary.mapValues_eq_self_iff, isFinite_map_iff]
    exact forall₂_congr ih

/-- Nothing is lost between the data model and the plugins. An element that becomes an argument and
an element again is the same, down to which of its numbers are whole, exactly if no whole number in
it is past the signed 64-bit range. An argument that becomes an element and an argument again is the
same exactly if all floats in it are finite. -/
theorem exchange_lossless :
    (∀ v : Json, (ofJson v).toJson = v ↔ v.Signed) ∧
      ∀ p : Value, ofJson p.toJson = p ↔ p.IsFinite :=
  ⟨toJson_ofJson_iff, ofJson_toJson_iff⟩

/-- The first number past the range comes back as the double `2 ^ 63`, which has the code
`0x43E0000000000000`. -/
example :
    (ofJson (.arr [Json.ofNat 0x7FFFFFFFFFFFFFFF, Json.ofNat 0x8000000000000000])).toJson =
      .arr [Json.ofNat 0x7FFFFFFFFFFFFFFF,
        .num (.real ⟨false, 0x43E0000000000000, by decide⟩)] := by
  decide +kernel

end Plugin.Value

end TaskFlow
