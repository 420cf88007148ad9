/-
TaskFlow.Proofs.Json.Order — values whose objects have their fields in order.

A value of the data model is a tree with dictionaries in it, and a dictionary stands for a map only
if its keys ascend. `Json.Ordered` says so of every object at every depth. It is what the operations
on values may take for granted: a text is never read as anything else, whatever the order of the
fields in it (`ordered_of_read?`), and neither an operation nor a plugin nor a run makes anything
else of ordered values.

  §1 Dictionaries — sorted ones are told apart by what is found in them; an existing binding
                    inserted again; a list of bindings.
  §2 Values       — `Json.Ordered`, and how a container stays ordered.
  §3 Tokens       — the values among the tokens of a text are scalar.
  §4 Assembly     — what the open containers hold is ordered.
-/
import TaskFlow.Json.Read

namespace TaskFlow

/-! ## §1 Dictionaries -/

namespace Dictionary

variable {α : Type} {key : String} {value : α} {d : Dictionary α}

theorem mem_of_get? (h : get? key d = some value) : (key, value) ∈ d := by
  induction d with
  | nil => cases h
  | cons entry rest ih =>
    obtain ⟨k, v⟩ := entry
    rw [get?] at h
    split at h
    · next heq =>
      cases heq
      cases h
      exact List.mem_cons_self
    · exact List.mem_cons_of_mem _ (ih h)

/-- In a sorted dictionary, no other binding of a key is in front of one. -/
theorem get?_of_mem (hsorted : Sorted d) (h : (key, value) ∈ d) : get? key d = some value := by
  induction d with
  | nil => cases h
  | cons entry rest ih =>
    obtain ⟨k, v⟩ := entry
    rcases List.mem_cons.mp h with heq | hmem
    · cases heq
      simp [get?]
    · have hlt : k < key := (List.pairwise_cons.mp hsorted).1 _ hmem
      have hne : k ≠ key := fun e => String.lt_irrefl key (e ▸ hlt)
      rw [get?, if_neg hne, ih hsorted.tail hmem]

theorem mem_iff_get? (hsorted : Sorted d) : (key, value) ∈ d ↔ get? key d = some value :=
  ⟨get?_of_mem hsorted, mem_of_get?⟩

/-- The keys are those under which there is a value. -/
theorem mem_keys_iff : key ∈ keys d ↔ (get? key d).isSome := by
  induction d with
  | nil => simp [keys]
  | cons entry rest ih =>
    obtain ⟨k, v⟩ := entry
    rw [keys, List.map_cons, List.mem_cons, get?]
    split
    · next heq => simp [heq]
    · next hne => simpa [keys, Ne.symm hne] using ih

/-- Sorted dictionaries in which the same is found are the same. -/
theorem ext_of_sorted {e : Dictionary α} (hd : Sorted d) (he : Sorted e)
    (h : ∀ key, get? key d = get? key e) : d = e := by
  have hmem : ∀ entry, entry ∈ d ↔ entry ∈ e := by
    rintro ⟨key, value⟩
    rw [mem_iff_get? hd, mem_iff_get? he, h]
  have hnodup : ∀ {f : Dictionary α}, Sorted f → f.Nodup := by
    intro f hf
    refine hf.imp ?_
    rintro a b hlt rfl
    exact String.lt_irrefl _ hlt
  have hperm := (List.perm_ext_iff_of_nodup (hnodup hd) (hnodup he)).mpr hmem
  exact hperm.eq_of_pairwise (fun a b _ _ hab hba => absurd hba (String.lt_asymm hab)) hd he

/-- The first key of a sorted dictionary does not occur again. -/
theorem get?_of_sorted_cons (hsorted : Sorted ((key, value) :: d)) : get? key d = none := by
  rw [Option.eq_none_iff_forall_ne_some]
  intro other hother
  have hlt : key < key := (List.pairwise_cons.mp hsorted).1 _ (mem_of_get? hother)
  exact String.lt_irrefl key hlt

/-- In a sorted dictionary, an existing binding is inserted where it stands. -/
theorem insert_of_get? (hsorted : Sorted d) (h : get? key d = some value) :
    insert key value d = d := by
  induction d with
  | nil => cases h
  | cons entry rest ih =>
    obtain ⟨k, v⟩ := entry
    rw [get?] at h
    rw [insert]
    split at h
    · next heq =>
      cases heq
      cases h
      rw [if_pos rfl]
    · next hne =>
      have hlt : k < key := (List.pairwise_cons.mp hsorted).1 _ (mem_of_get? h)
      rw [if_neg hne, if_neg (String.lt_asymm hlt), ih hsorted.tail h]

theorem mem_ofList {entries : List (String × α)} : ∀ entry ∈ ofList entries, entry ∈ entries := by
  refine List.foldlRecOn (motive := fun d => ∀ entry ∈ d, entry ∈ entries) entries _ ?_ ?_
  · exact fun _ hmem => absurd hmem List.not_mem_nil
  · intro d hd last hlast entry hentry
    rcases mem_insert hentry with rfl | hmem
    · exact hlast
    · exact hd entry hmem

theorem sorted_ofList (entries : List (String × α)) : Sorted (ofList entries) :=
  List.foldlRecOn entries _ .nil fun _ hsorted entry _ => sorted_insert hsorted entry.1 entry.2

end Dictionary

namespace Json

/-! ## §2 Values -/

/-- The keys of every object in the value ascend. -/
inductive Ordered : Json → Prop
  | null : Ordered .null
  | bool (b : Bool) : Ordered (.bool b)
  | num (n : Number) : Ordered (.num n)
  | str (s : String) : Ordered (.str s)
  | arr {items : List Json} (hitems : ∀ v ∈ items, Ordered v) : Ordered (.arr items)
  | obj {fields : List (String × Json)} (hsorted : Dictionary.Sorted fields)
      (hfields : ∀ entry ∈ fields, Ordered entry.2) : Ordered (.obj fields)

variable {v : Json} {fields : List (String × Json)} {items : List Json}

theorem ordered_nil : Ordered (.arr []) :=
  .arr fun _ hmem => absurd hmem List.not_mem_nil

theorem ordered_empty : Ordered (.obj []) :=
  .obj .nil fun _ hmem => absurd hmem List.not_mem_nil

theorem Ordered.sorted (h : Ordered (.obj fields)) : Dictionary.Sorted fields := by
  cases h with
  | obj hsorted => exact hsorted

theorem Ordered.field {entry : String × Json} (h : Ordered (.obj fields))
    (hmem : entry ∈ fields) : entry.2.Ordered := by
  cases h with
  | obj hsorted hfields => exact hfields entry hmem

theorem Ordered.item (h : Ordered (.arr items)) (hmem : v ∈ items) : v.Ordered := by
  cases h with
  | arr hitems => exact hitems v hmem

theorem Ordered.insert (h : Ordered (.obj fields)) (name : String) (hv : v.Ordered) :
    Ordered (.obj (Dictionary.insert name v fields)) := by
  refine .obj (Dictionary.sorted_insert h.sorted name v) fun entry hmem => ?_
  rcases Dictionary.mem_insert hmem with rfl | hmem
  · exact hv
  · exact h.field hmem

theorem ordered_ofNat (n : Nat) : (ofNat n).Ordered := by
  -- opened as a function: applied, the kernel would count up to the bound of a whole number
  generalize hopen : ofNat = f
  delta ofNat at hopen
  subst hopen
  dsimp only
  generalize Whole.ofInt? n = w
  cases w with
  | none => exact .null
  | some w => exact .num _

/-- An object made of ordered fields is ordered, in whatever order they come. -/
theorem ordered_ofFields (h : ∀ entry ∈ fields, entry.2.Ordered) : (ofFields fields).Ordered :=
  .obj (Dictionary.sorted_ofList fields) fun _ hmem => h _ (Dictionary.mem_ofList _ hmem)

theorem Ordered.erase (h : Ordered (.obj fields)) (name : String) :
    Ordered (.obj (Dictionary.erase name fields)) :=
  .obj (Dictionary.sorted_erase h.sorted name) fun _ hmem => h.field (List.mem_filter.mp hmem).1

theorem Ordered.set (h : Ordered (.arr items)) (position : Nat) (hv : v.Ordered) :
    Ordered (.arr (items.set position v)) := by
  refine .arr fun item hmem => ?_
  rcases List.mem_or_eq_of_mem_set hmem with hmem | rfl
  · exact h.item hmem
  · exact hv

/-! ## §3 Tokens -/

/-- If the token is a value, it is an ordered one. -/
def Token.Ordered (token : Token) : Prop := ∀ v, token = .value v → v.Ordered

theorem Token.ordered_value (hv : v.Ordered) : (Token.value v).Ordered := by
  rintro w ⟨⟩
  exact hv

theorem Token.ordered_of_map {α : Type} {read : Option α} {f : α → Token × List Char}
    {token : Token} {rest : List Char} (hf : ∀ x, (f x).1.Ordered)
    (h : read.map f = some (token, rest)) : token.Ordered := by
  obtain ⟨x, -, hx⟩ := Option.map_eq_some_iff.mp h
  have htoken := hf x
  rwa [hx] at htoken

theorem Token.ordered_of_next? {cs rest : List Char} {token : Token}
    (h : Token.next? cs = some (token, rest)) : token.Ordered := by
  unfold Token.next? at h
  split at h
  case h_1 | h_2 | h_3 | h_4 | h_5 | h_6 =>
    cases h
    rintro v ⟨⟩
  case h_7 =>
    cases h
    exact ordered_value (.bool true)
  case h_8 =>
    cases h
    exact ordered_value (.bool false)
  case h_9 =>
    cases h
    exact ordered_value .null
  case h_10 => exact ordered_of_map (fun read => ordered_value (.str read.1)) h
  case h_11 => exact ordered_of_map (fun read => ordered_value (.num read.1)) h
  case h_12 =>
    split at h
    · exact ordered_of_map (fun read => ordered_value (.num read.1)) h
    · cases h
  case h_13 => cases h

theorem ordered_of_tokens? {cs : List Char} {tokens : List Token}
    (h : tokens? cs = some tokens) : ∀ token ∈ tokens, token.Ordered := by
  fun_induction tokens? cs generalizing tokens with
  | case1 =>
    cases h
    exact fun _ hmem => absurd hmem List.not_mem_nil
  | case2 => cases h
  | case3 cs token rest _ _ hnext ih =>
    obtain ⟨others, hothers, rfl⟩ := Option.map_eq_some_iff.mp h
    exact List.forall_mem_cons.mpr ⟨Token.ordered_of_next? hnext, ih hothers⟩
  | case4 => cases h

/-! ## §4 Assembly -/

/-- What is finished of an open container is ordered. -/
def Frame.Ordered : Frame → Prop
  | .items done => Json.Ordered (.arr done)
  | .fields done _ => Json.Ordered (.obj done)

namespace Cursor

/-- The open containers are ordered, and so is the result. -/
structure Ordered (c : Cursor) : Prop where
  stack : ∀ frame ∈ c.stack, frame.Ordered
  result : ∀ v, c.awaiting = .nothing v → v.Ordered

variable {c c' : Cursor} {stack : List Frame} {token : Token}

theorem ordered_put (hv : v.Ordered) (hstack : ∀ frame ∈ stack, frame.Ordered)
    (h : put v stack = some c) : c.Ordered := by
  unfold put at h
  split at h
  · cases h
    refine ⟨hstack, ?_⟩
    rintro _ ⟨⟩
    exact hv
  · cases h
    obtain ⟨hdone, houter⟩ := List.forall_mem_cons.mp hstack
    refine ⟨List.forall_mem_cons.mpr ⟨?_, houter⟩, by rintro _ ⟨⟩⟩
    exact .arr (List.forall_mem_cons.mpr ⟨hv, fun _ hmem => hdone.item hmem⟩)
  · next key _ =>
    cases h
    obtain ⟨hdone, houter⟩ := List.forall_mem_cons.mp hstack
    refine ⟨List.forall_mem_cons.mpr ⟨?_, houter⟩, by rintro _ ⟨⟩⟩
    exact Json.Ordered.insert hdone key hv
  · cases h

theorem ordered_close (hstack : ∀ frame ∈ stack, frame.Ordered) (h : close stack = some c) :
    c.Ordered := by
  unfold close at h
  split at h
  · obtain ⟨hdone, houter⟩ := List.forall_mem_cons.mp hstack
    have hlist : Json.Ordered (.arr _) := .arr fun v hmem => hdone.item (List.mem_reverse.mp hmem)
    exact ordered_put hlist houter h
  · obtain ⟨hdone, houter⟩ := List.forall_mem_cons.mp hstack
    exact ordered_put hdone houter h
  · cases h

theorem ordered_enter {frame : Frame} {awaiting : Awaiting} (hframe : frame.Ordered)
    (hawaiting : ∀ v, awaiting ≠ .nothing v) (hstack : ∀ frame ∈ stack, frame.Ordered)
    (h : enter frame awaiting stack = some c) : c.Ordered := by
  unfold enter at h
  split at h
  · cases h
    exact ⟨List.forall_mem_cons.mpr ⟨hframe, hstack⟩, fun v hv => absurd hv (hawaiting v)⟩
  · cases h

theorem ordered_begin (htoken : token.Ordered) (hstack : ∀ frame ∈ stack, frame.Ordered)
    (h : begin token stack = some c) : c.Ordered := by
  cases token with
  | value v => exact ordered_put (htoken v rfl) hstack h
  | openList =>
    have hframe : (Frame.items []).Ordered := ordered_nil
    exact ordered_enter hframe (by rintro v ⟨⟩) hstack h
  | openObject =>
    have hframe : (Frame.fields [] none).Ordered := ordered_empty
    exact ordered_enter hframe (by rintro v ⟨⟩) hstack h
  | closeList | closeObject | comma | colon => cases h

/-- One more token keeps the open containers ordered. -/
theorem Ordered.step (hc : c.Ordered) (htoken : token.Ordered) (h : c.step token = some c') :
    c'.Ordered := by
  obtain ⟨hstack, -⟩ := hc
  unfold Cursor.step at h
  split at h
  case h_1 | h_3 => exact ordered_begin htoken hstack h
  case h_2 | h_4 => exact ordered_close hstack h
  case h_5 hopen | h_6 hopen =>
    -- the key belongs to the innermost object, whose finished fields are the same
    cases h
    rw [hopen] at hstack
    obtain ⟨hdone, houter⟩ := List.forall_mem_cons.mp hstack
    exact ⟨List.forall_mem_cons.mpr ⟨hdone, houter⟩, by rintro _ ⟨⟩⟩
  case h_7 =>
    cases h
    exact ⟨hstack, by rintro _ ⟨⟩⟩
  case h_8 hopen | h_9 hopen =>
    cases h
    exact ⟨hopen ▸ hstack, by rintro _ ⟨⟩⟩
  case h_10 hopen | h_11 hopen => exact ordered_close (hopen ▸ hstack) h
  case h_12 => cases h

theorem Ordered.run {tokens : List Token} (hc : c.Ordered)
    (htokens : ∀ token ∈ tokens, token.Ordered) (h : tokens.foldlM Cursor.step c = some c') :
    c'.Ordered := by
  induction tokens generalizing c with
  | nil =>
    cases h
    exact hc
  | cons token tokens ih =>
    obtain ⟨htoken, hothers⟩ := List.forall_mem_cons.mp htokens
    rw [List.foldlM_cons] at h
    obtain ⟨next, hnext, hrest⟩ := Option.bind_eq_some_iff.mp h
    exact ih (hc.step htoken hnext) hothers hrest

end Cursor

/-- A value that a text is read as is ordered. -/
theorem ordered_of_read? {text : String} (h : read? text = some v) : v.Ordered := by
  obtain ⟨tokens, htokens, hvalue⟩ := Option.bind_eq_some_iff.mp h
  unfold ofTokens? at hvalue
  split at hvalue
  · next w hrun =>
    cases hvalue
    have hstart : Cursor.start.Ordered :=
      ⟨fun _ hmem => absurd hmem List.not_mem_nil, by rintro _ ⟨⟩⟩
    exact (hstart.run (ordered_of_tokens? htokens) hrun).result v rfl
  · cases hvalue

end Json

end TaskFlow
