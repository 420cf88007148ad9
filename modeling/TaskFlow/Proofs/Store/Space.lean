/-
TaskFlow.Proofs.Store.Space — changes below one key of the state.

A text that starts with `model.` and spells a path leads below the key `model`: its second segment
is a key too, so writing there keeps an object under `model`, and removing there never removes
`model` itself. Nothing beside that key is touched, whether the write succeeds or stops half-way.

  §1 Reading — `Path.LeadsInto`, from the text alone.
  §2 Changes — `set` and `erase` replace the one field, by an object.
  §3 Edits   — `Edited`: any number of such changes.
-/
import Mathlib.Data.List.TakeWhile
import TaskFlow.Proofs.Store.Halves

namespace TaskFlow

open TaskFlow.Text

/-! ## §1 Reading -/

namespace Path

/-- The key of a part ends where the first bracket is opened. -/
theorem readPart_append {name groups : List Char} (hplain : '[' ∉ name)
    (hhead : ∀ c ∈ groups.head?, c = '[') :
    readPart (name ++ groups) =
      if name = [] then none
      else (readIndexes none groups).map (.key (String.ofList name) :: ·.map .index) := by
  have hkeep : ∀ c ∈ name, decide (c ≠ '[') = true :=
    fun c hc => decide_eq_true fun e => hplain (e ▸ hc)
  have htake : (name ++ groups).takeWhile (· ≠ '[') = name := by
    rw [List.takeWhile_append_of_pos hkeep]
    cases groups <;> simp_all
  have hdrop : (name ++ groups).dropWhile (· ≠ '[') = groups := by
    rw [List.dropWhile_append_of_pos hkeep]
    cases groups <;> simp_all
  simp only [readPart, htake, hdrop, List.isEmpty_iff]
  cases readIndexes none groups <;> rfl

/-- A part without brackets is a key. -/
theorem readPart_of_plain {part : List Char} (hne : part ≠ []) (hplain : '[' ∉ part) :
    readPart part = some [.key (String.ofList part)] := by
  have hhead : ∀ c ∈ ([] : List Char).head?, c = '[' := by simp
  have hpart := readPart_append hplain hhead
  rw [List.append_nil, if_neg hne] at hpart
  exact hpart

/-- The text spells a path below the key `space`. -/
def LeadsInto (space text : String) : Prop :=
  ∃ name rest, read? text = some (.key space :: .key name :: rest)

theorem leadsInto_of_startsWith {space : String} (hne : space.toList ≠ [])
    (hdot : '.' ∉ space.toList) (hplain : '[' ∉ space.toList) {cs : List Char}
    (hstart : startsWith (space.toList ++ ['.']) cs = true)
    (hvalid : isValid (String.ofList cs) = true) : LeadsInto space (String.ofList cs) := by
  obtain ⟨after, hafter⟩ := Option.isSome_iff_exists.mp hstart
  have hcs : cs = space.toList ++ '.' :: after := by
    simpa using eq_append_of_afterPrefix? hafter
  obtain ⟨path, hpath⟩ := Option.isSome_iff_exists.mp hvalid
  have hread : readParts (space.toList :: splitOn '.' after) = some path := by
    rw [← splitOn_append_mark hdot, ← hcs]
    simpa [read?] using hpath
  cases hpieces : splitOn '.' after with
  | nil => exact absurd hpieces (splitOn_ne_nil _ _)
  | cons piece pieces =>
    rw [hpieces] at hread
    simp only [readParts, readPart_of_plain hne hplain, String.ofList_toList,
      Option.bind_eq_bind, Option.bind_some, Option.bind_eq_some_iff] at hread
    obtain ⟨tail, ⟨first, hfirst, others, -, htail⟩, hall⟩ := hread
    obtain ⟨name, rest, rfl⟩ := readPart_eq_cons hfirst
    cases htail
    cases hall
    exact ⟨name, rest ++ others, hpath⟩

end Path

/-! ## §2 Changes -/

/-- A removal that starts at a key leaves an object. -/
theorem Json.removeAt?_key {name : String} {rest : Path} {v removed left : Json}
    (h : Json.removeAt? (.key name :: rest) v = some (removed, left)) :
    ∃ fields, left = .obj fields := by
  cases v with
  | obj fields =>
    cases rest with
    | nil =>
      obtain ⟨_, -, heq⟩ := Option.map_eq_some_iff.mp h
      cases heq
      exact ⟨_, rfl⟩
    | cons next rest =>
      obtain ⟨_, -, hchild⟩ := Option.bind_eq_some_iff.mp h
      obtain ⟨_, -, heq⟩ := Option.bind_eq_some_iff.mp hchild
      cases heq
      exact ⟨_, rfl⟩
  | _ => cases rest <;> simp [Json.removeAt?] at h

namespace Store

/-- A write below a key, where nothing or an object stands: afterwards an object stands there, also
when the write fails, and every other field is as it was. -/
theorem set_of_leadsInto {space path : String} (hpath : Path.LeadsInto space path) {s : Store}
    {fields : Dictionary Json} (hroot : s.root = .obj fields)
    (hslot : ∀ v, Dictionary.get? space fields = some v → ∃ inner, v = .obj inner)
    (value : Json) :
    ∃ inner, (s.set path value).1 = ⟨.obj (Dictionary.insert space (.obj inner) fields)⟩ := by
  obtain ⟨name, rest, hread⟩ := hpath
  have hset : (s.set path value).1 =
      ⟨(Json.write value (.key space :: .key name :: rest) s.root).value⟩ := by
    simp only [set, hread]
  rw [hset, hroot]
  cases hold : Dictionary.get? space fields with
  | none => exact ⟨_, by simp [Json.write, Json.asFields?, hold]; rfl⟩
  | some v =>
    obtain ⟨inner, rfl⟩ := hslot v hold
    exact ⟨_, by simp [Json.write, Json.asFields?, hold]; rfl⟩

/-- A removal below a key: nothing happens, or the object there loses something. -/
theorem erase_of_leadsInto {space path : String} (hpath : Path.LeadsInto space path) {s : Store}
    {fields : Dictionary Json} (hroot : s.root = .obj fields) :
    s.erase path = s ∨
      ∃ inner, s.erase path = ⟨.obj (Dictionary.insert space (.obj inner) fields)⟩ := by
  obtain ⟨name, rest, hread⟩ := hpath
  unfold erase
  cases hremoved : s.remove? path with
  | none => exact Or.inl rfl
  | some found =>
    refine Or.inr ?_
    simp only [remove?_eq, hread, hroot, Json.removeAt?, Option.bind_eq_bind, Option.bind_some,
      Option.map_eq_some_iff, Option.bind_eq_some_iff] at hremoved
    obtain ⟨_, ⟨child, -, ⟨removed, left⟩, hleft, heq⟩, hfound⟩ := hremoved
    obtain ⟨inner, rfl⟩ := Json.removeAt?_key hleft
    cases heq
    cases hfound
    exact ⟨inner, rfl⟩

/-! ## §3 Edits -/

/-- Writes below `model` and `output` and removals below `model`, in any number and order. -/
inductive Edited (s : Store) : Store → Prop
  | unchanged : Edited s s
  | model {t : Store} {path : String} (value : Json) (hpath : Path.LeadsInto "model" path) :
      Edited s t → Edited s (t.set path value).1
  | output {t : Store} {path : String} (value : Json) (hpath : Path.LeadsInto "output" path) :
      Edited s t → Edited s (t.set path value).1
  | erased {t : Store} {path : String} (hpath : Path.LeadsInto "model" path) :
      Edited s t → Edited s (t.erase path)

theorem Edited.trans {s t u : Store} (hst : Edited s t) (htu : Edited t u) : Edited s u := by
  induction htu with
  | unchanged => exact hst
  | model value hpath _ ih => exact .model value hpath ih
  | output value hpath _ ih => exact .output value hpath ih
  | erased hpath _ ih => exact .erased hpath ih

/-- The root is an object. -/
def IsObject (s : Store) : Prop := ∃ fields, s.root = .obj fields

/-- Edits keep the root an object, whatever stands under its keys. -/
theorem Edited.isObject {s t : Store} (h : Edited s t) (hs : s.IsObject) : t.IsObject := by
  induction h with
  | unchanged => exact hs
  | model value hpath _ ih | output value hpath _ ih =>
    obtain ⟨fields, hroot⟩ := ih
    obtain ⟨name, rest, hread⟩ := hpath
    simp [IsObject, set, hread, hroot, Json.write, Json.asFields?]
  | erased hpath _ ih =>
    obtain ⟨fields, hroot⟩ := ih
    rcases erase_of_leadsInto hpath hroot with hsame | ⟨inner, hedit⟩
    · rw [hsame]
      exact ⟨fields, hroot⟩
    · rw [hedit]
      exact ⟨_, rfl⟩

end Store

end TaskFlow
