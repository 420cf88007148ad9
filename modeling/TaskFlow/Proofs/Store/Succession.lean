/-
TaskFlow.Proofs.Store.Succession — changes of a store, one after the other.

A change writes or removes one element. What it does elsewhere is little: an element whose path
parts from its own is read as before, but for the nulls that pad a list (`Kept`). So if the paths of
some changes part from each other, what each of them wrote is still there when all of them are made.

  §1 Paths       — `Path.Apart`, for the texts of two paths.
  §2 Changes     — `Change`, and what is read after one.
  §3 Successions — `Succession`, any number of changes.
-/
import TaskFlow.Proofs.Store.Obstacles
import TaskFlow.Proofs.Store.Removal
import TaskFlow.Proofs.Store.Space

namespace TaskFlow

/-! ## §1 Paths -/

/-- The paths that two texts spell part from each other: neither is the other or leads through
it. -/
def Path.Apart (text other : String) : Prop :=
  ∀ path path', read? text = some path → read? other = some path' →
    ¬path <+: path' ∧ ¬path' <+: path

theorem Path.Apart.symm {text other : String} (h : Apart text other) : Apart other text :=
  fun path path' hpath hpath' => (h path' path hpath' hpath).symm

theorem Path.apart_iff {text other : String} {path path' : Path} (hpath : read? text = some path)
    (hpath' : read? other = some path') :
    Apart text other ↔ ¬path <+: path' ∧ ¬path' <+: path := by
  constructor
  · exact fun h => h path path' hpath hpath'
  · intro h p p' hp hp'
    obtain rfl : path = p := Option.some.inj (hpath ▸ hp)
    obtain rfl : path' = p' := Option.some.inj (hpath' ▸ hp')
    exact h

instance (text other : String) : Decidable (Path.Apart text other) :=
  match hpath : Path.read? text, hpath' : Path.read? other with
  | some _, some _ => decidable_of_iff _ (Path.apart_iff hpath hpath').symm
  | none, _ => isTrue fun _ _ h => by cases hpath.symm.trans h
  | _, none => isTrue fun _ _ _ h => by cases hpath'.symm.trans h

/-- A path that is spelt starts with a key. -/
theorem Path.exists_key_of_read? {text : String} {path : Path} (h : read? text = some path) :
    ∃ name rest, path = .key name :: rest := by
  obtain ⟨part, parts, hparts⟩ :=
    List.exists_cons_of_ne_nil (Text.splitOn_ne_nil '.' text.toList)
  rw [read?, hparts] at h
  obtain ⟨head, hhead, htail⟩ := Option.bind_eq_some_iff.mp h
  obtain ⟨tail, -, hpath⟩ := Option.bind_eq_some_iff.mp htail
  obtain ⟨name, rest, rfl⟩ := readPart_eq_cons hhead
  cases hpath
  exact ⟨name, rest ++ tail, rfl⟩

namespace Store

/-! ## §2 Changes -/

/-- A change of a store. -/
inductive Change where
  | put (text : String) (value : Json)
  | drop (text : String)

namespace Change

/-- The text of the path of the element that is changed. -/
def text : Change → String
  | put text _ => text
  | drop text => text

/-- The change can be made and leads from one store to the other. -/
def Leads (s : Store) : Change → Store → Prop
  | put text value, t => s.set text value = (t, none)
  | drop text, t => s.erase text = t

/-- What may be read at the path of a change once it is made: the value that was put, or null or
nothing. -/
def Leaves : Change → Option Json → Prop
  | put _ value, read => read = some value
  | drop _, read => read = none ∨ read = some .null

end Change

/-- Two readings of an element: the same one, or null in place of nothing. -/
inductive Kept : Option Json → Option Json → Prop
  | same (read : Option Json) : Kept read read
  | padded : Kept none (some .null)

theorem Kept.trans {before between after : Option Json} (h : Kept before between)
    (h' : Kept between after) : Kept before after := by
  cases h with
  | same => exact h'
  | padded =>
    cases h'
    exact .padded

theorem Kept.leaves {change : Change} {before after : Option Json} (h : Kept before after)
    (hbefore : change.Leaves before) : change.Leaves after := by
  cases h with
  | same => exact hbefore
  | padded =>
    cases change with
    | put text value => cases hbefore
    | drop text => exact Or.inr rfl

variable {s t u : Store} {text other : String}

theorem kept_set {value : Json} (h : s.set text value = (t, none))
    (hapart : Path.Apart text other) : Kept (s.get? other) (t.get? other) := by
  cases hother : Path.read? other with
  | none =>
    rw [get?, get?, hother]
    exact .same none
  | some path' =>
    cases hread : Path.read? text with
    | none =>
      rw [set, hread] at h
      cases h
    | some path =>
      obtain ⟨hpath, hpath'⟩ := hapart path path' hread hother
      rw [set_of_read? hread, Prod.mk.injEq, Option.map_eq_none_iff] at h
      obtain ⟨rfl, hclear⟩ := h
      obtain ⟨hfilled, hrest⟩ := Json.at?_write_beside hclear hpath hpath'
      rw [get?_of_read? hother, get?_of_read? hother]
      by_cases hpad : s.root.Filled path path'
      · obtain ⟨hbefore, hafter⟩ := hfilled hpad
        rw [hbefore, hafter]
        exact .padded
      · rw [hrest hpad]
        exact .same _

/-- What a removal makes of the store at a path that is spelt. -/
theorem erase_of_read? {front : Path} {slot : Segment}
    (hread : Path.read? text = some (front ++ [slot])) (s : Store) :
    s.erase text = match s.get? text with
      | some _ => ⟨s.root.removed front slot⟩
      | none => s := by
  rw [erase, remove?_of_read? hread]
  cases s.get? text <;> rfl

theorem erase_of_not_read? (hread : Path.read? text = none) (s : Store) : s.erase text = s := by
  rw [erase, remove?_eq, hread]
  rfl

theorem exists_concat_of_read? {path : Path} (h : Path.read? text = some path) :
    ∃ front slot, path = front ++ [slot] :=
  ⟨_, _, (List.dropLast_append_getLast (Path.read?_ne_nil h)).symm⟩

theorem get?_erase_beside (s : Store) (hapart : Path.Apart text other) :
    (s.erase text).get? other = s.get? other := by
  cases hread : Path.read? text with
  | none => rw [erase_of_not_read? hread]
  | some path =>
    obtain ⟨front, slot, rfl⟩ := exists_concat_of_read? hread
    rw [erase_of_read? hread]
    cases hget : s.get? text with
    | none => rfl
    | some w =>
      cases hother : Path.read? other with
      | none =>
        rw [get?, get?, hother]
        rfl
      | some path' =>
        obtain ⟨hpath, hpath'⟩ := hapart _ path' hread hother
        rw [get?_of_read? hread] at hget
        rw [get?_of_read? hother, get?_of_read? hother]
        exact Json.at?_removed_beside hget hpath hpath'

/-- Nothing is left where an element was removed, or null in a list. -/
theorem get?_erase_self (s : Store) (text : String) :
    (s.erase text).get? text = none ∨ (s.erase text).get? text = some .null := by
  cases hread : Path.read? text with
  | none =>
    rw [get?, hread]
    exact Or.inl rfl
  | some path =>
    obtain ⟨front, slot, rfl⟩ := exists_concat_of_read? hread
    rw [erase_of_read? hread]
    cases hget : s.get? text with
    | none => exact Or.inl hget
    | some w =>
      rw [get?_of_read? hread] at hget
      rw [get?_of_read? hread, Json.at?_removed_self hget]
      cases slot with
      | key name => exact Or.inl rfl
      | index position => exact Or.inr rfl

namespace Change

variable {change : Change}

theorem Leads.kept (h : change.Leads s t) (hapart : Path.Apart change.text other) :
    Kept (s.get? other) (t.get? other) := by
  cases change with
  | put text value => exact kept_set h hapart
  | drop text =>
    obtain rfl : s.erase text = t := h
    have hsame : (s.erase text).get? other = s.get? other := get?_erase_beside s hapart
    rw [hsame]
    exact .same _

theorem Leads.leaves (h : change.Leads s t) : change.Leaves (t.get? change.text) := by
  cases change with
  | put text value => exact get?_of_set h
  | drop text =>
    obtain rfl : s.erase text = t := h
    exact get?_erase_self s text

theorem Leads.isObject (h : change.Leads s t) (hs : s.IsObject) : t.IsObject := by
  obtain ⟨fields, hroot⟩ := hs
  cases change with
  | put text value =>
    cases hread : Path.read? text with
    | none =>
      rw [Leads, set, hread] at h
      cases h
    | some path =>
      obtain ⟨name, rest, rfl⟩ := Path.exists_key_of_read? hread
      rw [Leads, set_of_read? hread, hroot, Prod.mk.injEq] at h
      obtain ⟨rfl, -⟩ := h
      exact ⟨_, rfl⟩
  | drop text =>
    obtain rfl : s.erase text = t := h
    cases hread : Path.read? text with
    | none =>
      rw [erase_of_not_read? hread]
      exact ⟨fields, hroot⟩
    | some path =>
      obtain ⟨name, rest, rfl⟩ := Path.exists_key_of_read? hread
      rw [erase, remove?_eq, hread, Option.bind_some]
      cases hremoved : Json.removeAt? (.key name :: rest) s.root with
      | none => exact ⟨fields, hroot⟩
      | some found => exact Json.removeAt?_key hremoved

end Change

/-! ## §3 Successions -/

/-- The changes can be made in this order and lead from one store to the other. -/
inductive Succession : Store → List Change → Store → Prop
  | nil (s : Store) : Succession s [] s
  | cons {s t u : Store} {change : Change} {rest : List Change} (hchange : change.Leads s t)
      (hrest : Succession t rest u) : Succession s (change :: rest) u

/-- At most one change. -/
inductive Step (s : Store) : Option Change → Store → Prop
  | still : Step s none s
  | changed {change : Change} {t : Store} (h : change.Leads s t) : Step s (some change) t

/-- Steps one after the other, each with the change that belongs to an element of a list. -/
theorem Step.succession {β : Type} {change? : β → Option Change} {x : β} {rest : List β}
    (hstep : Step s (change? x) t) (hrest : Succession t (rest.filterMap change?) u) :
    Succession s ((x :: rest).filterMap change?) u := by
  rw [List.filterMap_cons]
  cases hchange : change? x with
  | none =>
    rw [hchange] at hstep
    cases hstep
    exact hrest
  | some change =>
    rw [hchange] at hstep
    cases hstep with
    | changed h => exact .cons h hrest

namespace Succession

variable {changes : List Change}

/-- An element beside all changes is kept. -/
theorem kept (h : Succession s changes t)
    (hapart : ∀ change ∈ changes, Path.Apart change.text other) :
    Kept (s.get? other) (t.get? other) := by
  induction h with
  | nil s => exact .same _
  | cons hchange _ ih =>
    obtain ⟨hhead, hrest⟩ := List.forall_mem_cons.mp hapart
    exact (hchange.kept hhead).trans (ih hrest)

/-- If all changes are beside each other, what each of them leaves is there in the end. -/
theorem leaves (h : Succession s changes t)
    (hapart : changes.Pairwise fun c d => Path.Apart c.text d.text) :
    ∀ change ∈ changes, change.Leaves (t.get? change.text) := by
  induction h with
  | nil s => exact fun _ hmem => absurd hmem List.not_mem_nil
  | cons hchange hsuccession ih =>
    obtain ⟨hhead, hrest⟩ := List.pairwise_cons.mp hapart
    refine List.forall_mem_cons.mpr ⟨?_, ih hrest⟩
    exact (hsuccession.kept fun d hd => (hhead d hd).symm).leaves hchange.leaves

theorem isObject (h : Succession s changes t) (hs : s.IsObject) : t.IsObject := by
  induction h with
  | nil s => exact hs
  | cons hchange _ ih => exact ih (hchange.isObject hs)

end Succession

end Store

end TaskFlow
