/-
TaskFlow.Dictionary — association lists in the order of their keys.

A dictionary is a list of pairs whose keys ascend strictly by code point (`Dictionary.Sorted`).
Every operation keeps that order, and looking a key up after an operation is settled by one lemma
for each operation.

  §1 Operations — `get?`, `insert`, `erase`, `ofList`, `keys`.
  §2 Look-up    — `get?_insert_self`, `get?_insert_of_ne`, `get?_erase_self`, `get?_erase_of_ne`.
  §3 Order      — `Sorted`, kept by `insert` and `erase`.
-/

namespace TaskFlow

/-- An association list; its keys are meant to be in ascending order. -/
abbrev Dictionary (α : Type) := List (String × α)

namespace Dictionary

variable {α β : Type}

/-! ## §1 Operations -/

/-- The value under a key. -/
def get? (key : String) : Dictionary α → Option α
  | [] => none
  | (k, v) :: rest => if k = key then some v else get? key rest

/-- The dictionary has the key. -/
def contains (d : Dictionary α) (key : String) : Bool :=
  (get? key d).isSome

/-- The dictionary with `key` bound to `value`: in place of the old binding, or else before the
first greater key. -/
def insert (key : String) (value : α) : Dictionary α → Dictionary α
  | [] => [(key, value)]
  | (k, v) :: rest =>
    if k = key then (key, value) :: rest
    else if key < k then (key, value) :: (k, v) :: rest
    else (k, v) :: insert key value rest

/-- The dictionary without the key. -/
def erase (key : String) (d : Dictionary α) : Dictionary α :=
  d.filter fun entry => entry.1 ≠ key

/-- The bindings of a list, a later one replacing an earlier one of the same key. -/
def ofList (entries : List (String × α)) : Dictionary α :=
  entries.foldl (fun d entry => insert entry.1 entry.2 d) []

/-- The keys in order. -/
def keys (d : Dictionary α) : List String :=
  d.map (·.1)

/-- Every value changed by `f`. -/
def mapValues (f : α → β) (d : Dictionary α) : Dictionary β :=
  d.map fun entry => (entry.1, f entry.2)

/-! ## §2 Look-up -/

@[simp] theorem get?_nil (key : String) : get? key ([] : Dictionary α) = none := rfl

@[simp] theorem get?_insert_self (key : String) (value : α) (d : Dictionary α) :
    get? key (insert key value d) = some value := by
  induction d with
  | nil => simp [insert, get?]
  | cons entry rest ih =>
    obtain ⟨k, v⟩ := entry
    simp only [insert]
    split
    · simp [get?]
    · split
      · simp [get?]
      · next hne _ => simp [get?, hne, ih]

theorem get?_insert_of_ne {key other : String} (h : other ≠ key) (value : α) (d : Dictionary α) :
    get? other (insert key value d) = get? other d := by
  induction d with
  | nil => simp [insert, get?, Ne.symm h]
  | cons entry rest ih =>
    obtain ⟨k, v⟩ := entry
    simp only [insert]
    split
    · next heq => subst heq; simp [get?, Ne.symm h]
    · split
      · simp [get?, Ne.symm h]
      · simp [get?, ih]

@[simp] theorem get?_erase_self (key : String) (d : Dictionary α) :
    get? key (erase key d) = none := by
  induction d with
  | nil => rfl
  | cons entry rest ih =>
    obtain ⟨k, v⟩ := entry
    by_cases hk : k = key
    · simpa [erase, hk] using ih
    · simpa [erase, hk, get?] using ih

theorem get?_erase_of_ne {key other : String} (h : other ≠ key) (d : Dictionary α) :
    get? other (erase key d) = get? other d := by
  induction d with
  | nil => rfl
  | cons entry rest ih =>
    obtain ⟨k, v⟩ := entry
    by_cases hk : k = key
    · have hne : k ≠ other := fun e => h (e ▸ hk)
      simpa [erase, hk, get?, Ne.symm h] using ih
    · simp only [erase, ne_eq, hk, not_false_eq_true, decide_true, List.filter_cons_of_pos, get?]
      split
      · rfl
      · exact ih

/-! ## §3 Order -/

/-- The keys ascend strictly. -/
def Sorted (d : Dictionary α) : Prop :=
  d.Pairwise fun a b => a.1 < b.1

theorem sorted_erase {d : Dictionary α} (h : Sorted d) (key : String) : Sorted (erase key d) :=
  h.filter _

theorem mem_insert {key : String} {value : α} {d : Dictionary α} {entry : String × α}
    (h : entry ∈ insert key value d) : entry = (key, value) ∨ entry ∈ d := by
  induction d with
  | nil => simpa [insert] using h
  | cons head rest ih =>
    obtain ⟨k, v⟩ := head
    simp only [insert] at h
    split at h
    · rcases List.mem_cons.1 h with h | h
      · exact .inl h
      · exact .inr (List.mem_cons_of_mem _ h)
    · split at h
      · exact (List.mem_cons.1 h).imp id id
      · rcases List.mem_cons.1 h with h | h
        · exact .inr (h ▸ List.mem_cons_self)
        · exact (ih h).imp id (List.mem_cons_of_mem _)

theorem sorted_insert {d : Dictionary α} (h : Sorted d) (key : String) (value : α) :
    Sorted (insert key value d) := by
  induction d with
  | nil => simp [insert, Sorted]
  | cons head rest ih =>
    obtain ⟨k, v⟩ := head
    have hrest : Sorted rest := h.tail
    have hhead : ∀ e ∈ rest, k < e.1 := (List.pairwise_cons.1 h).1
    simp only [insert]
    split
    · next heq => exact List.pairwise_cons.2 ⟨fun e he => heq ▸ hhead e he, hrest⟩
    · split
      · next hlt =>
        refine List.pairwise_cons.2 ⟨fun e he => ?_, h⟩
        rcases List.mem_cons.1 he with rfl | he
        · exact hlt
        · exact String.lt_trans hlt (hhead e he)
      · next hne hnlt =>
        refine List.pairwise_cons.2 ⟨fun e he => ?_, ih hrest⟩
        rcases mem_insert he with rfl | he
        · exact Std.lt_of_le_of_ne (String.not_lt.1 hnlt) hne
        · exact hhead e he

end Dictionary

end TaskFlow
