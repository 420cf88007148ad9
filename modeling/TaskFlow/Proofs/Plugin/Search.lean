/-
TaskFlow.Proofs.Plugin.Search — which map of lists the search comes to.

The search for a map of lists goes through the entries of a map in order and turns at the first one
that is a list or a map: a list ends it, and a map takes it along for good. So it follows one way
into the nested maps (`Leads`) and never comes back from it. What it finds is a map in which there
is a list, but it does not find one whenever there is one: a map without any list takes it away from
whatever stands behind that map (`Overlooks`).

  §1 Maps   — `Reaches`, `HoldsList` and `HasList`.
  §2 Turns  — `turn?`, and the search as a recursion on it.
  §3 Search — `Leads`; what is found, and what is overlooked.
  §4 Rows   — `search_exact`.
-/
import TaskFlow.Proofs.Plugin.Rows

namespace TaskFlow.Plugin.Rows

open TaskFlow TaskFlow.Plugin

variable {fields inner columns target : Row} {items : List Value} {key : String} {value : Value}

/-! ## §1 Maps -/

/-- One of the entries is a list. -/
def HoldsList (fields : Row) : Prop := ∃ key items, (key, .sequence items) ∈ fields

/-- A map is the whole map or stands in one of its maps, at any depth. -/
inductive Reaches : Row → Row → Prop
  | refl {fields : Row} : Reaches fields fields
  | inner {fields inner target : Row} {key : String} (hentry : (key, .map inner) ∈ fields)
      (hrest : Reaches inner target) : Reaches fields target

/-- There is a list in the map or in a map in it, at any depth. -/
def HasList (fields : Row) : Prop := ∃ target, Reaches fields target ∧ HoldsList target

theorem HasList.of_inner (hentry : (key, .map inner) ∈ fields) (h : HasList inner) :
    HasList fields := by
  obtain ⟨target, hreach, hlist⟩ := h
  exact ⟨target, .inner hentry hreach, hlist⟩

/-! ## §2 Turns -/

/-- The search passes the value by. -/
def isPassed : Value → Bool
  | .sequence _ => false
  | .map _ => false
  | _ => true

/-- The first value that the search does not pass by. -/
def turn? (fields : Row) : Option Value :=
  (fields.find? fun entry => !isPassed entry.2).map (·.2)

theorem exists_of_turn? (h : turn? fields = some value) :
    ∃ key, (key, value) ∈ fields ∧ isPassed value = false := by
  obtain ⟨⟨key, value⟩, hfound, rfl⟩ := Option.map_eq_some_iff.mp h
  exact ⟨key, List.mem_of_find?_eq_some hfound, by simpa using List.find?_some hfound⟩

theorem isPassed_of_turn? (h : turn? fields = none) (hmem : (key, value) ∈ fields) :
    isPassed value = true := by
  have hnone := List.find?_eq_none.mp (Option.map_eq_none_iff.mp h) _ hmem
  simpa using hnone

/-- A map that gives the search nothing to turn at has no list. -/
theorem not_hasList_of_turn? (h : turn? fields = none) : ¬HasList fields := by
  rintro ⟨target, hreach, key, items, hmem⟩
  cases hreach with
  | refl => cases isPassed_of_turn? h hmem
  | inner hentry => cases isPassed_of_turn? h hentry

/-- The search from the entries of `rest` on, where `whole` is the map it is in. -/
theorem columnsOf?_eq (whole rest : Row) : columnsOf? whole rest =
    match turn? rest with
    | some (.sequence _) => some whole
    | some (.map inner) => mapOfLists? inner
    | _ => none := by
  induction rest with
  | nil => rw [columnsOf?]; rfl
  | cons entry rest ih =>
    obtain ⟨key, value⟩ := entry
    cases value with
    | sequence items => rw [columnsOf?]; rfl
    | map inner => rw [columnsOf?]; rfl
    | _ =>
      rw [columnsOf?, ih]
      · rfl
      all_goals rintro _ _ ⟨⟩

theorem mapOfLists?_eq (fields : Row) : mapOfLists? fields =
    match turn? fields with
    | some (.sequence _) => some fields
    | some (.map inner) => mapOfLists? inner
    | _ => none :=
  columnsOf?_eq fields fields

theorem sizeOf_turn? (h : turn? fields = some (.map inner)) : sizeOf inner < sizeOf fields := by
  obtain ⟨key, hmem, -⟩ := exists_of_turn? h
  have hentry := List.sizeOf_lt_of_mem hmem
  simp only [Prod.mk.sizeOf_spec, Value.map.sizeOf_spec] at hentry
  omega

/-- Induction along the search. -/
theorem search_induct {P : Row → Prop} (passed : ∀ fields, turn? fields = none → P fields)
    (stopped : ∀ fields items, turn? fields = some (.sequence items) → P fields)
    (entered : ∀ fields inner, turn? fields = some (.map inner) → P inner → P fields)
    (fields : Row) : P fields := by
  cases hturn : turn? fields with
  | none => exact passed fields hturn
  | some value =>
    cases value with
    | sequence items => exact stopped fields items hturn
    | map inner =>
      have hsmaller := sizeOf_turn? hturn
      exact entered fields inner hturn (search_induct passed stopped entered inner)
    | _ =>
      obtain ⟨-, -, hpassed⟩ := exists_of_turn? hturn
      cases hpassed
termination_by sizeOf fields

/-! ## §3 Search -/

/-- The way of the search: it stops at a map whose first list or map is a list, and goes on in the
map otherwise. -/
inductive Leads : Row → Row → Prop
  | stop {fields : Row} {items : List Value} (hturn : turn? fields = some (.sequence items)) :
      Leads fields fields
  | enter {fields inner columns : Row} (hturn : turn? fields = some (.map inner))
      (hrest : Leads inner columns) : Leads fields columns

/-- The search finds the map to which its way leads. -/
theorem mapOfLists?_eq_some_iff : mapOfLists? fields = some columns ↔ Leads fields columns := by
  constructor
  · induction fields using search_induct with
    | passed fields hturn =>
      rw [mapOfLists?_eq, hturn]
      rintro ⟨⟩
    | stopped fields items hturn =>
      rw [mapOfLists?_eq, hturn]
      rintro ⟨⟩
      exact .stop hturn
    | entered fields inner hturn ih =>
      rw [mapOfLists?_eq, hturn]
      exact fun h => .enter hturn (ih h)
  · intro h
    induction h with
    | stop hturn => rw [mapOfLists?_eq, hturn]
    | enter hturn _ ih =>
      rw [mapOfLists?_eq, hturn]
      exact ih

/-- What is found stands in the map and holds a list. -/
theorem Leads.sound (h : Leads fields columns) : Reaches fields columns ∧ HoldsList columns := by
  induction h with
  | @stop fields items hturn =>
    obtain ⟨key, hmem, -⟩ := exists_of_turn? hturn
    exact ⟨.refl, key, items, hmem⟩
  | enter hturn _ ih =>
    obtain ⟨key, hmem, -⟩ := exists_of_turn? hturn
    exact ⟨.inner hmem ih.1, ih.2⟩

theorem Leads.hasList (h : Leads fields columns) : HasList fields := ⟨columns, h.sound⟩

/-- The search enters a map without a list, at the whole map or on its way, although there is one
behind that map. -/
inductive Overlooks : Row → Prop
  | behind {fields inner : Row} (hturn : turn? fields = some (.map inner))
      (hnone : ¬HasList inner) (hlist : HasList fields) : Overlooks fields
  | inside {fields inner : Row} (hturn : turn? fields = some (.map inner))
      (hinner : Overlooks inner) : Overlooks fields

/-- There is a list, and the search finds none, exactly if it overlooks one. -/
theorem overlooks_iff : Overlooks fields ↔ HasList fields ∧ mapOfLists? fields = none := by
  constructor
  · intro h
    induction h with
    | behind hturn hnone hlist =>
      refine ⟨hlist, Option.eq_none_iff_forall_ne_some.mpr fun columns hfound => hnone ?_⟩
      rw [mapOfLists?_eq, hturn] at hfound
      exact (mapOfLists?_eq_some_iff.mp hfound).hasList
    | inside hturn _ ih =>
      obtain ⟨key, hmem, -⟩ := exists_of_turn? hturn
      rw [mapOfLists?_eq, hturn]
      exact ⟨.of_inner hmem ih.1, ih.2⟩
  · induction fields using search_induct with
    | passed fields hturn => exact fun h => absurd h.1 (not_hasList_of_turn? hturn)
    | stopped fields items hturn =>
      rw [mapOfLists?_eq, hturn]
      rintro ⟨-, ⟨⟩⟩
    | entered fields inner hturn ih =>
      rw [mapOfLists?_eq, hturn]
      rintro ⟨hlist, hnone⟩
      by_cases hinner : HasList inner
      · exact .inside hturn (ih ⟨hinner, hnone⟩)
      · exact .behind hturn hinner hlist

/-! ## §4 Rows -/

/-- A map alone gives no rows if nothing is found in it, or nothing but empty lists. -/
theorem listOfMap_eq_nil_iff : listOfMap [.map fields] = .sequence [] ↔
    mapOfLists? fields = none ∨ ∃ columns, mapOfLists? fields = some columns ∧
      ∀ key items, (key, .sequence items) ∈ columns → items = [] := by
  rw [listOfMap_singleton, contribution?]
  cases mapOfLists? fields with
  | none => simp [ofRows]
  | some columns => simp [ofRows, rowsOf_eq_nil_iff]

/-- The search finds a map with a list whenever there is one, unless it overlooks it: a map without
any list, which stands before all lists and other maps beside it, takes the search away from them.
A map gives no rows if it has no list, if one is overlooked, or if all lists found are empty. -/
theorem search_exact (fields : Row) :
    (∀ columns, mapOfLists? fields = some columns ↔ Leads fields columns) ∧
    (∀ columns, Leads fields columns → Reaches fields columns ∧ HoldsList columns) ∧
    ((HasList fields → ∃ columns, mapOfLists? fields = some columns) ↔ ¬Overlooks fields) ∧
    (listOfMap [.map fields] = .sequence [] ↔
      ¬HasList fields ∨ Overlooks fields ∨ ∃ columns, Leads fields columns ∧
        ∀ key items, (key, .sequence items) ∈ columns → items = []) := by
  refine ⟨fun _ => mapOfLists?_eq_some_iff, fun _ => Leads.sound, ?_, ?_⟩
  · rw [overlooks_iff, not_and, ← ne_eq, Option.ne_none_iff_exists']
  · rw [listOfMap_eq_nil_iff, overlooks_iff, ← or_assoc]
    simp only [mapOfLists?_eq_some_iff]
    refine or_congr_left ⟨fun hnone => ?_, ?_⟩
    · by_cases hlist : HasList fields
      · exact .inr ⟨hlist, hnone⟩
      · exact .inl hlist
    · rintro (hlist | ⟨-, hnone⟩)
      · exact Option.eq_none_iff_forall_ne_some.mpr fun columns hfound =>
          hlist (mapOfLists?_eq_some_iff.mp hfound).hasList
      · exact hnone

/-- An empty map before a list hides it. -/
theorem empty_map_hides :
    HoldsList [("a", .map []), ("b", .sequence [.integer 1])] ∧
      mapOfLists? [("a", .map []), ("b", .sequence [.integer 1])] = none ∧
      listOfMap [.map [("a", .map []), ("b", .sequence [.integer 1])]] = .sequence [] := by
  have hnone : mapOfLists? [("a", .map []), ("b", .sequence [.integer 1])] = none := by
    simp [mapOfLists?, columnsOf?]
  exact ⟨⟨"b", [.integer 1], List.mem_cons_of_mem _ List.mem_cons_self⟩, hnone,
    listOfMap_eq_nil_iff.mpr (.inl hnone)⟩

end TaskFlow.Plugin.Rows
