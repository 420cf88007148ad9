/-
TaskFlow.Proofs.Store.Union — a merge as a union of two trees.

Two objects are merged key by key, and what is newer wins, so that the result can be told from the
two sides alone (`IsUnion`): where the newer side has an element, it stands there, united with the
older one if both are objects; where it has none, the older element is seen, unless something that
is no object stands in front of it on the newer side. One step of this is a look-up in a sorted
dictionary (`get?_mergeFields`); the rest is an induction on the keys. A second merge of the same
value meets nothing but what the first one put there.

  §1 Fields — the fields of an object laid over those of another.
  §2 Keys   — an element of the result, under one key and under several.
  §3 Again  — a merge done twice.
  §4 Stores — the same for the texts of paths.
-/
import TaskFlow.Proofs.Store.Order

namespace TaskFlow

namespace Json

variable {older newer v w : Json} {fields : List (String × Json)} {name : String} {path : Path}

/-! ## §1 Fields -/

theorem merge_null (v : Json) : merge .null v = v := by
  cases v <;> rfl

theorem mergeFields_cons (older : List (String × Json)) (name : String) (v : Json)
    (rest : List (String × Json)) :
    mergeFields older ((name, v) :: rest) =
      mergeFields (Dictionary.insert name
        (merge ((Dictionary.get? name older).getD .null) v) older) rest := by
  rw [mergeFields]
  cases Dictionary.get? name older with
  | none => rw [Option.getD_none, merge_null]
  | some existing => rw [Option.getD_some]

/-- A field of the newer object is merged with the older field; all others stay. -/
theorem get?_mergeFields (hsorted : Dictionary.Sorted fields) (older : List (String × Json))
    (name : String) :
    Dictionary.get? name (mergeFields older fields) =
      match Dictionary.get? name fields with
      | some v => some (merge ((Dictionary.get? name older).getD .null) v)
      | none => Dictionary.get? name older := by
  induction fields generalizing older with
  | nil => rw [mergeFields, Dictionary.get?_nil]
  | cons entry rest ih =>
    obtain ⟨key, v⟩ := entry
    rw [mergeFields_cons, ih hsorted.tail]
    by_cases hkey : key = name
    · subst hkey
      simp [Dictionary.get?_of_sorted_cons hsorted, Dictionary.get?]
    · simp [Dictionary.get?_insert_of_ne (Ne.symm hkey), Dictionary.get?, hkey]

/-! ## §2 Keys -/

/-- The path of some keys. -/
def keyPath (keys : List String) : Path := keys.map .key

theorem keyPath_nil : keyPath [] = [] := rfl

theorem keyPath_cons (name : String) (keys : List String) :
    keyPath (name :: keys) = .key name :: keyPath keys := rfl

/-- Where the newer object has nothing, the older element is seen. -/
theorem at?_merge_of_none (hnewer : Ordered (.obj fields))
    (hfield : Dictionary.get? name fields = none) (older : Json) (rest : Path) :
    (merge older (.obj fields)).at? (.key name :: rest) = older.at? (.key name :: rest) := by
  cases older with
  | obj others => simp [merge, at?, get?_mergeFields hnewer.sorted, hfield]
  | _ => simp [merge, at?, hfield]

/-- Where the newer object has an element, it is merged with the older one. -/
theorem at?_merge_of_some (hnewer : Ordered (.obj fields))
    (hfield : Dictionary.get? name fields = some v) (older : Json) (rest : Path) :
    (merge older (.obj fields)).at? (.key name :: rest) =
      (merge (older.standing [.key name]) v).at? rest := by
  cases older with
  | obj others =>
    simp [merge, at?, get?_mergeFields hnewer.sorted, hfield, standing_key, asFields?]
  | _ => simp [merge, at?, hfield, standing, merge_null]

/-- An element of the newer value is merged with what stands there in the older one. -/
theorem at?_merge_of_at? {keys : List String} (hnewer : newer.Ordered)
    (h : newer.at? (keyPath keys) = some w) (older : Json) :
    (merge older newer).at? (keyPath keys) = some (merge (older.standing (keyPath keys)) w) := by
  induction keys generalizing older newer with
  | nil =>
    rw [keyPath_nil, at?_nil] at h
    cases h
    rw [keyPath_nil, at?_nil, standing_nil]
  | cons name keys ih =>
    rw [keyPath_cons] at h ⊢
    rw [at?_cons] at h
    obtain ⟨v, hv, hrest⟩ := Option.bind_eq_some_iff.mp h
    obtain ⟨_, fields, hkey, rfl, hfield⟩ | ⟨_, _, hkey, -, -⟩ := slot_cases hv
    · cases hkey
      rw [at?_merge_of_some hnewer hfield, standing_cons older _ (keyPath keys)]
      exact ih (hnewer.at? hv) hrest _
    · cases hkey

/-- The longest first part of a path that leads to an element, and that element. -/
structure Longest (v : Json) (path front : Path) (w : Json) : Prop where
  first : front <+: path
  element : v.at? front = some w
  longest : ∀ other u, other <+: path → v.at? other = some u → other <+: front

theorem longest_nil (hslot : v.at? [.key name] = none) :
    Longest v (.key name :: path) [] v := by
  refine ⟨List.nil_prefix, at?_nil v, fun other u hother hu => ?_⟩
  cases other with
  | nil => exact List.nil_prefix
  | cons segment rest =>
    obtain ⟨rfl, -⟩ := List.cons_prefix_cons.mp hother
    rw [at?_cons, hslot] at hu
    cases hu

theorem Longest.cons {front : Path} {child : Json} {segment : Segment}
    (h : Longest child path front w) (hslot : v.at? [segment] = some child) :
    Longest v (segment :: path) (segment :: front) w := by
  refine ⟨List.cons_prefix_cons.mpr ⟨rfl, h.first⟩, ?_, fun other u hother hu => ?_⟩
  · rw [at?_cons, hslot, Option.bind_some, h.element]
  · cases other with
    | nil => exact List.nil_prefix
    | cons next rest =>
      obtain ⟨rfl, hrest⟩ := List.cons_prefix_cons.mp hother
      rw [at?_cons, hslot, Option.bind_some] at hu
      exact List.cons_prefix_cons.mpr ⟨rfl, h.longest rest u hrest hu⟩

/-- Where the newer value has nothing, the older element is seen through objects alone. -/
theorem at?_merge_of_not_at? {keys : List String} (hnewer : newer.Ordered)
    (h : newer.at? (keyPath keys) = none) (older : Json) :
    ∃ front w, Longest newer (keyPath keys) front w ∧
      (merge older newer).at? (keyPath keys) =
        if w.isObject then older.at? (keyPath keys) else none := by
  induction keys generalizing older newer with
  | nil =>
    rw [keyPath_nil, at?_nil] at h
    cases h
  | cons name keys ih =>
    rw [keyPath_cons] at h ⊢
    cases hslot : newer.at? [.key name] with
    | none =>
      refine ⟨[], newer, longest_nil hslot, ?_⟩
      cases newer with
      | obj fields =>
        have hfield : Dictionary.get? name fields = none := by simpa [at?, at?_nil] using hslot
        rw [at?_merge_of_none hnewer hfield]
        rfl
      | _ => rw [merge]; exact h
    | some v =>
      obtain ⟨_, fields, hkey, rfl, hfield⟩ | ⟨_, _, hkey, -, -⟩ := slot_cases hslot
      · cases hkey
        rw [at?_cons, hslot, Option.bind_some] at h
        have hne : keyPath keys ≠ [] := by
          intro hnil
          rw [hnil, at?_nil] at h
          cases h
        obtain ⟨front, w, hlongest, hread⟩ := ih (hnewer.at? hslot) h (older.standing [.key name])
        refine ⟨.key name :: front, w, hlongest.cons hslot, ?_⟩
        rw [at?_merge_of_some hnewer hfield, at?_cons_of_ne_nil older _ hne]
        exact hread
      · cases hkey

/-- One object is the union of two, key by key, the newer one winning: an element of the newer one
stands where it stood, or an object does if it was one; where the newer one has nothing, the older
element is seen if the newer one's last element on the way is an object. -/
structure IsUnion (older newer united : Json) : Prop where
  leaf : ∀ keys w, newer.at? (keyPath keys) = some w → w.isObject = false →
    united.at? (keyPath keys) = some w
  object : ∀ keys fields, newer.at? (keyPath keys) = some (.obj fields) →
    ∃ others, united.at? (keyPath keys) = some (.obj others)
  absent : ∀ keys, newer.at? (keyPath keys) = none →
    ∃ front w, Longest newer (keyPath keys) front w ∧
      united.at? (keyPath keys) = if w.isObject then older.at? (keyPath keys) else none

theorem exists_merge_obj (older : Json) (fields : List (String × Json)) :
    ∃ united, merge older (.obj fields) = .obj united := by
  cases older <;> exact ⟨_, rfl⟩

theorem isUnion_merge (hnewer : newer.Ordered) (older : Json) :
    IsUnion older newer (merge older newer) := by
  refine ⟨fun keys w hw hleaf => ?_, fun keys fields hfields => ?_, fun keys hnone => ?_⟩
  · rw [at?_merge_of_at? hnewer hw, merge_of_not_both]
    rintro _ others ⟨-, rfl⟩
    cases hleaf
  · obtain ⟨others, hothers⟩ := exists_merge_obj (older.standing (keyPath keys)) fields
    exact ⟨others, by rw [at?_merge_of_at? hnewer hfields, hothers]⟩
  · exact at?_merge_of_not_at? hnewer hnone older

/-! ## §3 Again -/

/-- Nothing changes where every field has been merged already. -/
theorem mergeFields_self {united : List (String × Json)} (hunited : Dictionary.Sorted united)
    (h : ∀ entry ∈ fields, ∃ u, Dictionary.get? entry.1 united = some u ∧ merge u entry.2 = u) :
    mergeFields united fields = united := by
  induction fields with
  | nil => rw [mergeFields]
  | cons entry rest ih =>
    obtain ⟨name, v⟩ := entry
    rw [List.forall_mem_cons] at h
    obtain ⟨⟨u, hu, hmerge⟩, hrest⟩ := h
    rw [mergeFields_cons, hu, Option.getD_some, hmerge, Dictionary.insert_of_get? hunited hu]
    exact ih hrest

/-- A second merge of the same value changes nothing. -/
theorem merge_merge (hnewer : newer.Ordered) (holder : older.Ordered) :
    merge (merge older newer) newer = merge older newer := by
  induction hnewer generalizing older with
  | @obj fields hsorted hfields ih =>
    have hnewer : Ordered (.obj fields) := .obj hsorted hfields
    obtain ⟨united, hunited⟩ := exists_merge_obj older fields
    have hordered : Ordered (.obj united) := hunited ▸ ordered_merge holder _ hnewer
    rw [hunited, merge, mergeFields_self hordered.sorted]
    rintro ⟨name, v⟩ hmem
    have hfield := Dictionary.get?_of_mem hsorted hmem
    -- after the first merge, the field is the newer value laid over the older one
    have hread := at?_merge_of_some hnewer hfield older []
    rw [hunited, at?_nil] at hread
    refine ⟨merge (older.standing [.key name]) v, by simpa [at?, at?_nil] using hread, ?_⟩
    exact ih _ hmem (holder.standing _)
  | _ => simp [merge]

end Json

/-! ## §4 Stores -/

namespace Store

variable {s t : Store} {subtree : Json} {text : String}

theorem merge_merge (hs : s.Ordered) (hsubtree : subtree.Ordered)
    (h : s.merge subtree text = (t, none)) : t.merge subtree text = (t, none) := by
  have ht : t.Ordered := by
    have hordered := ordered_merge hs hsubtree text
    rwa [h] at hordered
  rw [merge_eq] at h
  have hget := get?_of_set h
  rw [merge_eq, hget, Option.getD_some, Json.merge_merge hsubtree (ordered_get? hs text)]
  exact set_self ht hget

/-- Two objects are united where the older one stands, and everything beside is read as before.
Otherwise a merge is a write. Whatever was merged, merging it again changes nothing. -/
theorem merge_outcome (hs : s.Ordered) (hsubtree : subtree.Ordered) (text : String) :
    (∀ older newer, s.get? text = some (.obj older) → subtree = .obj newer →
      ∃ t united, s.merge subtree text = (t, none) ∧ t.get? text = some (.obj united) ∧
        Json.IsUnion (.obj older) (.obj newer) (.obj united) ∧
        ∀ path beside other, Path.read? text = some path → Path.read? beside = some other →
          ¬path <+: other → ¬other <+: path → t.get? beside = s.get? beside) ∧
    ((∀ older newer, ¬(s.get? text = some (.obj older) ∧ subtree = .obj newer)) →
      s.merge subtree text = s.set text subtree) ∧
    ∀ t, s.merge subtree text = (t, none) → t.merge subtree text = (t, none) := by
  refine ⟨?_, merge_of_not_both, fun t h => merge_merge hs hsubtree h⟩
  · rintro older newer hget rfl
    obtain ⟨path, hread, hat⟩ := Option.bind_eq_some_iff.mp hget
    obtain ⟨united, hunited⟩ := Json.exists_merge_obj (.obj older) newer
    have hmerge : s.merge (.obj newer) text =
        (⟨(Json.write (.obj united) path s.root).value⟩, none) := by
      rw [merge_eq, hget, Option.getD_some, hunited, set, hread]
      simp [Json.obstacle_write_of_at? hat]
    refine ⟨_, united, hmerge, ?_, ?_, ?_⟩
    · rw [merge_eq, hget, Option.getD_some, hunited] at hmerge
      exact get?_of_set hmerge
    · rw [← hunited]
      exact Json.isUnion_merge hsubtree _
    · intro path' beside other hpath hbeside hdown hup
      rw [hread] at hpath
      cases hpath
      rw [get?_of_read? hbeside, get?_of_read? hbeside]
      exact Json.at?_write_of_at? hat _ hdown hup

/-- An option is added to an object of options, twice. -/
theorem merge_outcome_options :
    let s : Store := ⟨.obj [("model", .obj [("options", .obj [("dry", .bool true)])])]⟩
    let subtree : Json := .obj [("options", .obj [("mode", .str "fast")])]
    ∃ t united, s.merge subtree "model" = (t, none) ∧ t.get? "model" = some (.obj united) ∧
      (Json.obj united).at? (Json.keyPath ["options", "mode"]) = some (.str "fast") ∧
      t.merge subtree "model" = (t, none) := by
  intro s subtree
  have hroot : Json.read? "\x7b\"model\": \x7b\"options\": \x7b\"dry\": true\x7d\x7d\x7d" =
      some s.root := by decide +kernel
  have hadded : Json.read? "\x7b\"options\": \x7b\"mode\": \"fast\"\x7d\x7d" =
      some subtree := by decide +kernel
  have hs : s.Ordered := Json.ordered_of_read? hroot
  have hsubtree : subtree.Ordered := Json.ordered_of_read? hadded
  obtain ⟨hunite, -, hagain⟩ := merge_outcome hs hsubtree "model"
  have hget : s.get? "model" = some (.obj [("options", .obj [("dry", .bool true)])]) := by decide
  obtain ⟨t, united, hmerge, hread, hunion, -⟩ := hunite _ _ hget rfl
  exact ⟨t, united, hmerge, hread, hunion.leaf ["options", "mode"] _ rfl rfl, hagain t hmerge⟩

end Store

end TaskFlow
