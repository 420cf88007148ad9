/-
TaskFlow.Proofs.Plugin.Order — no plugin disturbs the order of keys.

The arguments of a call are elements of a state, and its result goes back into the state. The order
of the keys survives the way there (`Value.ordered_ofJson`) and the way back
(`Value.ordered_toJson`). In between, most of the built-in plugins give scalars; the others hand on
their arguments, drop fields from them or insert fields where they belong. So the registry of the
built-in plugins answers ordered arguments by ordered results (`Registry.keepsOrder_builtin`).

  §1 Values     — results whose maps are in order; an insertion, a deletion.
  §2 Attempts   — `Orderly`: whatever value an attempt gives is in order.
  §3 Plugins    — `KeepsOrder`, for one plugin after the other.
  §4 Rows       — the plugins that make rows of columns.
  §5 Registries — all plugins of a registry.
-/
import TaskFlow.Proofs.Attempt
import TaskFlow.Proofs.Plugin.Exchange

namespace TaskFlow.Plugin

open TaskFlow

/-! ## §1 Values -/

namespace Value

variable {v : Value} {items : List Value} {fields : List (String × Value)}

theorem Ordered.insert (h : Ordered (.map fields)) (key : String) (hv : v.Ordered) :
    Ordered (.map (Dictionary.insert key v fields)) := by
  refine .map (Dictionary.sorted_insert h.sorted key v) fun entry hmem => ?_
  rcases Dictionary.mem_insert hmem with rfl | hmem
  · exact hv
  · exact h.field hmem

theorem Ordered.filter (h : Ordered (.map fields)) (keep : String × Value → Bool) :
    Ordered (.map (fields.filter keep)) :=
  .map (h.sorted.filter keep) fun _ hmem => h.field (List.mem_filter.mp hmem).1

theorem ordered_empty : Ordered (.map []) :=
  .map .nil fun _ hmem => absurd hmem List.not_mem_nil

/-- A result whose maps are in order is an element whose objects are. -/
theorem ordered_toJson (h : v.Ordered) : v.toJson.Ordered := by
  induction h with
  | null => exact .null
  | boolean b => exact .bool b
  | integer n => exact .num _
  | float x =>
    cases x with
    | finite y => exact .num _
    | nan | infinite => exact .null
  | text s => exact .str s
  | sequence _ ih =>
    rw [toJson, toItems_eq]
    exact .arr (List.forall_mem_map.mpr ih)
  | map hsorted _ ih =>
    rw [toJson, toFields_eq]
    exact .obj (List.pairwise_map.mpr hsorted) (List.forall_mem_map.mpr ih)

end Value

/-! ## §2 Attempts -/

/-- Whatever value the attempt gives is in order. -/
def Orderly (attempt : Except PluginError Value) : Prop := ∀ v, attempt = .ok v → v.Ordered

section

variable {α : Type} {args : List Value} {f : Value → Except PluginError Value}

theorem orderly_ok {v : Value} (h : v.Ordered) : Orderly (.ok v) := by
  intro w hw
  exact Except.ok.inj hw ▸ h

theorem orderly_error (e : PluginError) : Orderly (.error e) := by
  intro v hv
  cases hv

theorem orderly_bind {x : Except PluginError α} {f : α → Except PluginError Value}
    (h : ∀ a, x = .ok a → Orderly (f a)) : Orderly (x >>= f) := by
  intro v hv
  obtain ⟨a, hx, ha⟩ := bind_eq_ok_iff.mp hv
  exact h a hx v ha

theorem orderly_map {x : Except PluginError α} {f : α → Value}
    (h : ∀ a, x = .ok a → (f a).Ordered) : Orderly (x.map f) := by
  intro v hv
  obtain ⟨a, hx, rfl⟩ := map_eq_ok_iff.mp hv
  exact h a hx

theorem orderly_mapEach (plugin : String) (h : ∀ v ∈ args, Orderly (f v)) :
    Orderly (mapEach plugin f args) := by
  unfold mapEach
  split
  · exact orderly_error _
  · exact h _ List.mem_cons_self
  · refine orderly_map fun results hresults => .sequence fun result hresult => ?_
    obtain ⟨v, hv, hf⟩ := exists_of_mem_mapM hresults hresult
    exact h v hv result hf

end

/-! ## §3 Plugins -/

/-- Arguments in order make a result in order. -/
def Definition.KeepsOrder (plugin : Definition) : Prop :=
  ∀ ambient args, (∀ v ∈ args, v.Ordered) → Orderly (plugin.calculate ambient args)

theorem keepsOrder_each {name : String} {f : Value → Except PluginError Value}
    (h : ∀ v, v.Ordered → Orderly (f v)) : (each name f).KeepsOrder :=
  fun _ _ hargs => orderly_mapEach name fun v hv => h v (hargs v hv)

namespace Arithmetic

theorem orderly_fold (plugin : String) (op : Int64 → Int64 → Option Int64) (numbers : List Int64) :
    Orderly (fold plugin op numbers) := by
  unfold fold
  split
  · exact orderly_error _
  · split
    · exact orderly_ok (.integer _)
    · exact orderly_error _

theorem keepsOrder_folding (arity : Arity) (name : String) (op : Int64 → Int64 → Option Int64) :
    (folding arity name op).KeepsOrder := by
  intro ambient args _
  exact orderly_bind fun _ _ => orderly_bind fun numbers _ => orderly_fold name op numbers

theorem keepsOrder_dividing (arity : Arity) (name : String) (op : Int64 → Int64 → Option Int64) :
    (dividing arity name op).KeepsOrder := by
  intro ambient args _
  refine orderly_bind fun _ _ => orderly_bind fun numbers _ => ?_
  split
  · exact orderly_error _
  · exact orderly_fold name op numbers

theorem keepsOrder_stepping (name : String) (step : Int) : (stepping name step).KeepsOrder := by
  refine keepsOrder_each fun v _ => orderly_bind fun n _ => ?_
  split
  · exact orderly_ok (.integer _)
  · exact orderly_error _

theorem keepsOrder_all : ∀ plugin ∈ all, plugin.KeepsOrder := by
  simp [all, add, subtract, multiply, div, mod, increment, decrement, keepsOrder_folding,
    keepsOrder_dividing, keepsOrder_stepping]

end Arithmetic

namespace Moment

theorem orderly_inPattern (t : Calendar.LocalTime) (pattern : List Char) :
    Orderly (inPattern t pattern) := by
  unfold inPattern
  split
  · exact orderly_ok (.text _)
  · split
    · exact orderly_error _
    · split
      · exact orderly_ok (.text _)
      · exact orderly_error _

theorem keepsOrder_all : ∀ plugin ∈ all, plugin.KeepsOrder := by
  have hdateTime : dateTime.KeepsOrder := fun _ _ _ =>
    orderly_bind fun _ _ => orderly_bind fun t _ => orderly_inPattern t _
  have huuid : uuid.KeepsOrder := fun _ _ _ => orderly_ok (.text _)
  simp [all, hdateTime, huuid]

end Moment

namespace Logic

theorem keepsOrder_comparing (name : String) (relation : Int → Int → Bool) :
    (comparing name relation).KeepsOrder := by
  intro ambient args _
  refine orderly_bind fun _ _ => ?_
  split
  · exact orderly_bind fun _ _ => orderly_bind fun _ _ => orderly_ok (.boolean _)
  · exact orderly_ok (.boolean _)

theorem keepsOrder_testing (name : String) (test : Value → Bool) : (testing name test).KeepsOrder :=
  fun _ _ _ => orderly_bind fun _ _ => orderly_ok (.boolean _)

/-- The result is one of the arguments. -/
theorem keepsOrder_ternary : ternary.KeepsOrder := by
  intro ambient args hargs
  refine orderly_bind fun _ _ => ?_
  split
  · next condition yes no _ =>
    split
    · exact orderly_ok (hargs yes (by simp))
    · exact orderly_ok (hargs no (by simp))
  · exact orderly_ok .null

theorem keepsOrder_all : ∀ plugin ∈ all, plugin.KeepsOrder := by
  have heq : eq.KeepsOrder := by
    intro ambient args _
    refine orderly_bind fun _ _ => ?_
    split <;> exact orderly_ok (.boolean _)
  have hand : and.KeepsOrder := fun _ _ _ => orderly_bind fun _ _ => orderly_ok (.boolean _)
  have hor : or.KeepsOrder := fun _ _ _ => orderly_bind fun _ _ => orderly_ok (.boolean _)
  have hnot : not.KeepsOrder := keepsOrder_each fun _ _ => orderly_ok (.boolean _)
  simp [all, heq, hand, hor, hnot, gt, lt, isNull, notNull, keepsOrder_comparing,
    keepsOrder_testing, keepsOrder_ternary]

end Logic

namespace Conversion

/-- Maps lose fields, and nothing else changes. -/
theorem ordered_dropKeys {v : Value} (h : v.Ordered) (keys : List String) :
    (dropKeys keys v).Ordered := by
  unfold dropKeys
  split
  · exact h.filter _
  · exact h

theorem keepsOrder_removeKey : removeKey.KeepsOrder := by
  intro ambient args hargs
  refine orderly_bind fun _ _ => ?_
  split
  · exact orderly_ok (ordered_dropKeys (hargs _ List.mem_cons_self) _)
  · have hitems := hargs _ List.mem_cons_self
    refine orderly_ok (.sequence (List.forall_mem_map.mpr fun item hitem => ?_))
    exact ordered_dropKeys (hitems.item hitem) _
  · exact orderly_ok .null

theorem keepsOrder_binary : binary.KeepsOrder :=
  keepsOrder_each fun _ _ => orderly_ok (.sequence (List.forall_mem_map.mpr fun _ _ => .integer _))

theorem keepsOrder_all : ∀ plugin ∈ all, plugin.KeepsOrder := by
  have htext : text.KeepsOrder := keepsOrder_each fun _ _ => orderly_ok (.text _)
  have hint : int.KeepsOrder := by
    refine keepsOrder_each fun _ _ => orderly_bind fun _ _ => ?_
    split
    · exact orderly_ok (.integer _)
    · exact orderly_error _
  have hlong : long.KeepsOrder := keepsOrder_each fun _ _ => orderly_map fun _ _ => .integer _
  have hdouble : double.KeepsOrder := keepsOrder_each fun _ _ => orderly_map fun _ _ => .float _
  have hfloat : float.KeepsOrder := keepsOrder_each fun _ _ => orderly_map fun _ _ => .float _
  have hboolean : boolean.KeepsOrder := keepsOrder_each fun _ _ => orderly_ok (.boolean _)
  have hb64 : b64.KeepsOrder := keepsOrder_each fun _ _ => orderly_ok (.text _)
  simp [all, htext, hint, hlong, hdouble, hfloat, hboolean, hb64, keepsOrder_binary,
    keepsOrder_removeKey]

end Conversion

namespace Wording

theorem orderly_slice (chars : List Char) (start stop : Nat) :
    Orderly (slice chars start stop) := by
  unfold slice
  split
  · exact orderly_ok (.text _)
  · exact orderly_error _

theorem keepsOrder_substring : substring.KeepsOrder := by
  intro ambient args _
  refine orderly_bind fun _ _ => ?_
  split
  · refine orderly_bind fun start _ => ?_
    split
    · exact orderly_bind fun stop _ => orderly_slice _ start stop
    · exact orderly_slice _ start _
  · exact orderly_ok .null

theorem keepsOrder_all : ∀ plugin ∈ all, plugin.KeepsOrder := by
  have hconcat : concat.KeepsOrder := fun _ _ _ => orderly_bind fun _ _ => orderly_ok (.text _)
  have hlength : length.KeepsOrder := fun _ _ _ => orderly_bind fun _ _ => orderly_ok (.integer _)
  simp [all, hconcat, hlength, keepsOrder_substring]

end Wording

/-! ## §4 Rows -/

namespace Rows

variable {columns row : Row} {rows additions : List Row} {args : List Value} {v item : Value}
  {position : Nat}

theorem ordered_of_itemAt? (hv : v.Ordered) (h : itemAt? position v = some item) :
    item.Ordered := by
  unfold itemAt? at h
  split at h
  · exact hv.item (List.mem_of_getElem? h)
  · cases h

theorem ordered_withItems (hrow : (Value.map row).Ordered)
    (hcolumns : (Value.map columns).Ordered) :
    (Value.map (withItems position row columns)).Ordered := by
  rw [withItems_eq]
  refine List.foldlRecOn (motive := fun row => (Value.map row).Ordered) columns _ hrow ?_
  intro row hrow entry hentry
  rw [withItem]
  split
  · next item hitem => exact hrow.insert _ (ordered_of_itemAt? (hcolumns.field hentry) hitem)
  · exact hrow

theorem ordered_of_mem_rowsOf (hcolumns : (Value.map columns).Ordered)
    (hmem : row ∈ rowsOf columns) : (Value.map row).Ordered := by
  obtain ⟨position, hrow⟩ := List.mem_iff_getElem?.mp hmem
  rw [eq_withItems_of_getElem? hrow]
  exact ordered_withItems Value.ordered_empty hcolumns

theorem ordered_of_mem_addColumns (hrows : ∀ row ∈ rows, (Value.map row).Ordered)
    (hadditions : ∀ columns ∈ additions, (Value.map columns).Ordered)
    (hmem : row ∈ addColumns rows additions) : (Value.map row).Ordered := by
  obtain ⟨position, hposition, rfl⟩ := List.mem_mapIdx.mp hmem
  refine List.foldlRecOn (motive := fun row => (Value.map row).Ordered) additions _
    (hrows _ (List.getElem_mem hposition)) ?_
  exact fun row hrow columns hcolumns => ordered_withItems hrow (hadditions columns hcolumns)

theorem ordered_ofRows (h : ∀ row ∈ rows, (Value.map row).Ordered) : (ofRows rows).Ordered :=
  .sequence (List.forall_mem_map.mpr h)

theorem ordered_ofRows_nil : (ofRows []).Ordered :=
  ordered_ofRows fun _ hmem => absurd hmem List.not_mem_nil

theorem ordered_extended (hrows : ∀ row ∈ rows, (Value.map row).Ordered)
    (hargs : ∀ v ∈ args, v.Ordered) : (extended rows args).Ordered := by
  have hadditions : ∀ columns ∈ contributions args, (Value.map columns).Ordered :=
    fun _ hmem => ordered_of_mem_contributions hargs hmem
  by_cases hadded : contributions args ≠ [] ∧
      ∀ added ∈ contributions args, Aligned rows.length added
  · rw [extended_of_aligned hadded.1 hadded.2]
    exact ordered_ofRows fun row hmem => ordered_of_mem_addColumns hrows hadditions hmem
  · rw [extended_of_not_aligned hadded]
    exact ordered_ofRows_nil

theorem ordered_listOfMap (hargs : ∀ v ∈ args, v.Ordered) : (listOfMap args).Ordered := by
  cases args with
  | nil => exact ordered_ofRows_nil
  | cons v rest =>
    obtain ⟨hv, hrest⟩ := List.forall_mem_cons.mp hargs
    rw [listOfMap_cons]
    split
    · exact ordered_ofRows_nil
    · next columns hfound =>
      have hrows : ∀ row ∈ rowsOf columns, (Value.map row).Ordered := fun row hmem =>
        ordered_of_mem_rowsOf (ordered_of_contribution? hv hfound) hmem
      split
      · exact ordered_ofRows hrows
      · exact ordered_extended hrows hrest

theorem eq_of_toRows? {items : List Value} (h : toRows? items = some rows) :
    items = rows.map .map := by
  fun_induction toRows? items generalizing rows with
  | case1 =>
    cases h
    rfl
  | case2 row rest ih =>
    obtain ⟨others, hothers, rfl⟩ := Option.map_eq_some_iff.mp h
    rw [ih hothers, List.map_cons]
  | case3 => cases h

theorem ordered_updateListOfMap (hargs : ∀ v ∈ args, v.Ordered) :
    (updateListOfMap args).Ordered := by
  unfold updateListOfMap
  split
  · next items rest =>
    obtain ⟨hitems, hrest⟩ := List.forall_mem_cons.mp hargs
    split
    · exact ordered_ofRows_nil
    · split
      · next rows hrows =>
        obtain rfl := eq_of_toRows? hrows
        exact ordered_extended (fun row hmem => hitems.item (List.mem_map_of_mem hmem)) hrest
      · exact ordered_ofRows_nil
  · exact ordered_ofRows_nil

theorem keepsOrder_all : ∀ plugin ∈ all, plugin.KeepsOrder := by
  simp only [all, List.forall_mem_cons]
  refine ⟨?_, ?_, fun _ hmem => absurd hmem List.not_mem_nil⟩
  · exact fun _ _ hargs => orderly_ok (ordered_listOfMap hargs)
  · exact fun _ _ hargs => orderly_ok (ordered_updateListOfMap hargs)

end Rows

/-! ## §5 Registries -/

namespace Registry

/-- Every plugin makes results in order of arguments in order. -/
def KeepsOrder (r : Registry) : Prop := ∀ entry ∈ r.plugins, entry.2.KeepsOrder

theorem KeepsOrder.invoke {r : Registry} (h : r.KeepsOrder) (ambient : Ambient) (name : String)
    {args : List Value} (hargs : ∀ v ∈ args, v.Ordered) : Orderly (r.invoke ambient name args) := by
  refine orderly_bind fun plugin hplugin => ?_
  unfold lookup at hplugin
  split at hplugin
  · next hfound =>
    cases hplugin
    exact h _ (Dictionary.mem_of_get? hfound) ambient args hargs
  · cases hplugin

/-- The built-in plugins keep the order of keys. -/
theorem keepsOrder_builtin : builtin.KeepsOrder := by
  have hall : ∀ plugin ∈ builtins, plugin.KeepsOrder := by
    simp only [builtins, List.forall_mem_append]
    exact ⟨⟨⟨⟨⟨Arithmetic.keepsOrder_all, Moment.keepsOrder_all⟩, Logic.keepsOrder_all⟩,
      Conversion.keepsOrder_all⟩, Wording.keepsOrder_all⟩, Rows.keepsOrder_all⟩
  intro entry hentry
  obtain ⟨plugin, hplugin, rfl⟩ := List.mem_map.mp (Dictionary.mem_ofList entry hentry)
  exact hall plugin hplugin

end Registry

end TaskFlow.Plugin
