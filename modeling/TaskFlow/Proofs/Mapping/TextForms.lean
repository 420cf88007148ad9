/-
TaskFlow.Proofs.Mapping.TextForms — one text for an element, wherever it is put into words.

Three functions put an element into words. References and mapping lines write the element itself; a
plugin writes the argument that it was given, and a container by the element that the argument
stands for. What becomes an argument and an element again is the same (`toJson_ofJson_iff`), so all
of them come to one text. Only a double on its own is left out, for which the plugins have another
layout.

  §1 Arguments — the text form of an argument that was an element.
  §2 Paths     — `IsWritable`.
  §3 Sources   — `Gives`: what a source comes to in any line that has it.
  §4 Texts     — `GivenAs`, and `texts_agree`.
-/
import TaskFlow.Plugin.Builtin
import TaskFlow.Proofs.Mapping.RoundTrip
import TaskFlow.Proofs.Mapping.Turns
import TaskFlow.Proofs.Plugin.Exchange
import TaskFlow.Proofs.Store.Spelling
import TaskFlow.Proofs.Template.Pieces

namespace TaskFlow

open TaskFlow.Text TaskFlow.Plugin

/-! ## §1 Arguments -/

/-- An element has the same text as an argument, unless it is a double on its own or holds a
whole number past the signed 64-bit range. -/
theorem Plugin.Value.toText_ofJson {v : Json} (hreal : ∀ x, v ≠ .num (.real x))
    (hsigned : v.Signed) : (ofJson v).toText = Template.textOf v := by
  have hback : (ofJson v).toJson = v := (toJson_ofJson_iff v).mpr hsigned
  cases v with
  | null => rfl
  | bool b => cases b <;> rfl
  | num n =>
    cases n with
    | real x => exact absurd rfl (hreal x)
    | whole w =>
      have hfits : w.val < 0x8000000000000000 := Json.signed_whole_iff.mp hsigned
      rw [ofJson_whole hfits, toText, Int64.toInt_ofInt_of_le w.lower hfits]
      rfl
  | str s => rfl
  | arr items => exact congrArg Json.text hback
  | obj fields => exact congrArg Json.text hback

namespace Mapping

variable {plugins : Registry} {s : Store} {m : String} {v : Json}

/-! ## §2 Paths -/

/-- The marks that mean something in a source or in a text with references. -/
def marks : List Char := [':', '(', ')', ',', '\x7b', '\x7d']

/-- An element of the model whose path can be written in a mapping line and in a reference. -/
structure IsWritable (m : String) : Prop where
  isPath : IsPath m
  isBelow : IsBelow "model" m
  unmarked : ∀ mark ∈ marks, mark ∉ m.toList

theorem IsWritable.isModelElement (h : IsWritable m) : IsModelElement m :=
  ⟨h.isPath, h.isBelow, h.unmarked ':' (by decide)⟩

theorem IsWritable.isPlain (h : IsWritable m) : IsPlain m.toList :=
  ⟨h.unmarked '(' (by decide), h.unmarked ')' (by decide), h.unmarked ',' (by decide)⟩

theorem IsWritable.braceless (h : IsWritable m) : Template.Braceless m.toList :=
  ⟨h.unmarked '\x7b' (by decide), h.unmarked '\x7d' (by decide)⟩

theorem IsWritable.names (h : IsWritable m) (hget : s.get? m = some v) (hnull : v ≠ .null) :
    Template.Names s m.toList v where
  inModel := h.isBelow
  isPath := by
    rw [String.ofList_toList]
    exact h.isPath.1
  element := by
    rw [String.ofList_toList]
    exact hget
  ne_null := hnull

/-- A key whose characters mean nothing in a path, nor in a source or a reference. -/
def IsPlainKey (key : String) : Prop :=
  key.toList ≠ [] ∧ ∀ c ∈ key.toList, isBlank c = false ∧ c ∉ '.' :: '[' :: marks

instance : DecidablePred IsPlainKey := fun key =>
  decidable_of_iff (key.toList ≠ [] ∧
      key.toList.all (fun c => !isBlank c && !('.' :: '[' :: marks).contains c) = true)
    (by simp [IsPlainKey])

theorem IsPlainKey.printable {key : String} (h : IsPlainKey key) : Path.Printable (.key key) :=
  ⟨h.1, fun hmem => (h.2 _ hmem).2 (by decide), fun hmem => (h.2 _ hmem).2 (by decide)⟩

theorem IsPlainKey.unmarked {key : String} (h : IsPlainKey key) :
    ∀ c ∈ key.toList, isBlank c = false ∧ c ∉ marks := by
  intro c hc
  obtain ⟨hblank, hmark⟩ := h.2 c hc
  exact ⟨hblank, fun hmem => hmark (List.mem_cons_of_mem _ (List.mem_cons_of_mem _ hmem))⟩

theorem unmarked_printTail {keys : List String} (h : ∀ key ∈ keys, IsPlainKey key) :
    ∀ c ∈ Path.printTail (keys.map .key), isBlank c = false ∧ c ∉ marks := by
  induction keys with
  | nil => exact List.forall_mem_nil _
  | cons key keys ih =>
    obtain ⟨hkey, hkeys⟩ := List.forall_mem_cons.mp h
    rw [List.map_cons, Path.printTail, List.forall_mem_cons, List.forall_mem_append]
    exact ⟨by decide, hkey.unmarked, ih hkeys⟩

/-- The path of plain keys below the model can be written. -/
theorem isWritable_print {keys : List String} (hne : keys ≠ [])
    (h : ∀ key ∈ keys, IsPlainKey key) :
    IsWritable (String.ofList (Path.print (.key "model" :: keys.map .key))) := by
  have hmodel : IsPlainKey "model" := by decide
  have hunmarked : ∀ c ∈ Path.print (.key "model" :: keys.map .key),
      isBlank c = false ∧ c ∉ marks :=
    List.forall_mem_append.mpr ⟨hmodel.unmarked, unmarked_printTail h⟩
  have hspells : Path.Spells (Path.print (.key "model" :: keys.map .key))
      (.key "model" :: keys.map .key) := by
    refine Path.spells_print (List.forall_mem_cons.mpr ⟨hmodel.printable, ?_⟩)
    exact List.forall_mem_map.mpr fun key hmem => (h key hmem).printable
  constructor
  case isPath =>
    refine ⟨?_, ?_⟩
    · rw [Path.isValid, Path.read?_eq_some_iff.mpr (by rwa [String.toList_ofList])]
      rfl
    · rw [String.toList_ofList]
      exact tidy_of_forall fun c hc => (hunmarked c hc).1
  case isBelow =>
    obtain ⟨key, keys, rfl⟩ := List.exists_cons_of_ne_nil hne
    have hbelow : (String.ofList (Path.print (.key "model" :: (key :: keys).map .key))).toList =
        "model".toList ++ ['.'] ++ (key.toList ++ Path.printTail (keys.map .key)) :=
      String.toList_ofList
    exact ⟨_, hbelow.symm⟩
  case unmarked =>
    intro mark hmark hmem
    rw [String.toList_ofList] at hmem
    exact (hunmarked mark hmem).2 hmark

/-- A reference to an element is replaced by its text, whatever stands around it. -/
theorem IsWritable.expand_reference (h : IsWritable m) (hget : s.get? m = some v)
    (hnull : v ≠ .null) (before after : String) :
    Template.expand s (before ++ ("\x7b" ++ m ++ "\x7d") ++ after) =
      Template.expand s before ++ Template.textOf v ++ Template.expand s after := by
  have hfilled : Template.modelText? s m.toList = some (Template.textOf v).toList :=
    Template.modelText?_eq_some_iff.mpr
      ⟨v, h.names hget hnull, (Template.textOf_iff hnull).mpr rfl⟩
  have htext : (before ++ ("\x7b" ++ m ++ "\x7d") ++ after).toList =
      before.toList ++ '\x7b' :: (m.toList ++ '\x7d' :: after.toList) := by
    simp
  rw [← String.toList_inj]
  simp only [Template.expand, htext, Template.fill_reference h.braceless, hfilled,
    Option.getD_some, String.toList_ofList, String.toList_append, List.append_assoc]

/-! ## §3 Sources -/

/-- On either side of a task, a line has its turn with the value if the source is what stands on its
left when it is expanded, and what stands on its right is a target. -/
def Gives (plugins : Registry) (s : Store) (source : Source) (value : Json) : Prop :=
  ∀ (ambient : Ambient) (line : String) (right : List Char),
    readSides (Template.expand s line).toList = .ok (source.render, right) →
      (∀ target, readInputTarget right = .ok target →
        turn? readInput plugins ambient line s = some ⟨target, some value⟩) ∧
      ∀ allowDecision target, readOutputTarget allowDecision right = .ok target →
        turn? (readOutput allowDecision) plugins ambient line s = some ⟨target, some value⟩

theorem turn?_of_sides {τ : Type} {side : Side} {readTarget : List Char → Except LineFault τ}
    {ambient : Ambient} {line : String} {right : List Char} {source : Source} {target : τ}
    {value : Option Json}
    (hsides : readSides (Template.expand s line).toList = .ok (source.render, right))
    (hsource : source.Regular side) (htarget : readTarget right = .ok target)
    (hvalue : evaluate plugins ambient s source = .ok value) :
    turn? (readLine side readTarget) plugins ambient line s = some ⟨target, value⟩ := by
  have hread := readLine_of_sides hsides (readSource_render hsource) htarget
  simp only [turn?, hread, hvalue]

/-- What a source gives is its value. -/
theorem gives_of_evaluate {source : Source} {value : Json} (hsource : ∀ side, source.Regular side)
    (hvalue : ∀ ambient, evaluate plugins ambient s source = .ok (some value)) :
    Gives plugins s source value := by
  intro ambient line right hsides
  constructor
  · intro target htarget
    exact turn?_of_sides hsides (hsource .input) htarget (hvalue ambient)
  · intro allowDecision target htarget
    exact turn?_of_sides hsides (hsource .output) htarget (hvalue ambient)

theorem gives_path (h : IsWritable m) (hget : s.get? m = some v) : Gives plugins s (.path m) v :=
  gives_of_evaluate (fun _ => Or.inl h.isModelElement) fun _ => congrArg Except.ok hget

theorem gives_text (h : IsWritable m) (hget : s.get? m = some v) :
    Gives plugins s (.typed m .text) (.str (Template.textOf v)) := by
  refine gives_of_evaluate (fun _ => ⟨h.isModelElement, trivial⟩) fun ambient => ?_
  rw [evaluate, hget]
  rfl

/-- A call gives the result of the plugin for the values of the arguments. -/
theorem gives_call {name : String} {args : List Argument} {plugin : Definition} {result : Value}
    (hname : name ≠ "" ∧ '(' ∉ name.toList ∧ Tidy name.toList)
    (hargs : ∀ arg ∈ args, arg.Regular) (hplugin : plugins.find? name = some plugin)
    (hresult : ∀ ambient, plugin.calculate ambient (args.map (evaluateArgument s)) = .ok result) :
    Gives plugins s (.call name args) result.toJson := by
  refine gives_of_evaluate (fun _ => ⟨hname.1, hname.2.1, hname.2.2, hargs⟩) fun ambient => ?_
  have hinvoke : plugins.invoke ambient name (args.map (evaluateArgument s)) = .ok result := by
    rw [Registry.invoke, Registry.lookup, hplugin]
    exact hresult ambient
  rw [evaluate, hinvoke]

/-! ## §4 Texts -/

/-- What an argument adds to a concatenation. -/
def addition (s : Store) (arg : Argument) : String := (evaluateArgument s arg).toText

theorem addition_path (hget : s.get? m = some v) (hreal : ∀ x, v ≠ .num (.real x))
    (hsigned : v.Signed) : addition s (.path m) = Template.textOf v := by
  rw [addition, evaluateArgument, hget]
  exact Value.toText_ofJson hreal hsigned

theorem gives_concat {args : List Argument} (hplugin : plugins.find? "concat" = some Wording.concat)
    (hargs : ∀ arg ∈ args, arg.Regular) (hcount : 2 ≤ args.length) :
    Gives plugins s (.call "concat" args) (.str (String.join (args.map (addition s)))) := by
  have hadmitted : (Arity.atLeast 2).admits (args.map (evaluateArgument s)).length = true := by
    simpa [Arity.admits] using hcount
  have hresult : ∀ ambient, Wording.concat.calculate ambient (args.map (evaluateArgument s)) =
      .ok (.text (String.join (args.map (addition s)))) := by
    intro ambient
    simp only [Wording.concat, Arity.check, hadmitted, List.map_map]
    rfl
  exact gives_call (by decide) hargs hplugin hresult

/-- Wherever the element is put into words, it is given as the text. -/
structure GivenAs (plugins : Registry) (s : Store) (m text : String) : Prop where
  /-- A reference in any text. -/
  reference : ∀ before after, Template.expand s (before ++ ("\x7b" ++ m ++ "\x7d") ++ after) =
    Template.expand s before ++ text ++ Template.expand s after
  /-- The suffix `:text`. -/
  suffix : Gives plugins s (.typed m .text) (.str text)
  /-- A header, by a line behind others that leave the state as it is here. -/
  header : ∀ {ambient front s₀ draft line name},
    mapInput plugins ambient front s₀ = ⟨s, .ok draft⟩ → name ≠ "" →
    readSides (Template.expand s line).toList =
      .ok (m.toList, (InputTarget.header name).render) →
    mapInput plugins ambient (front ++ [line]) s₀ =
      ⟨s, .ok { draft with headers := Dictionary.insert name text draft.headers }⟩
  /-- The plugin `text`. -/
  call : Gives plugins s (.call "text" [.path m]) (.str text)
  /-- The plugin `concat`, with other arguments in front and behind. -/
  concatenation : ∀ front back : List Argument, (∀ arg ∈ front ++ back, arg.Regular) →
    front ++ back ≠ [] →
    Gives plugins s (.call "concat" (front ++ .path m :: back))
      (.str (String.join (front.map (addition s)) ++ text ++
        String.join (back.map (addition s))))

theorem mapInput_header (h : IsWritable m) (hget : s.get? m = some v) (hnull : v ≠ .null)
    {ambient : Ambient} {front : List String} {s₀ : Store} {draft : Draft} {line name : String}
    (hfront : mapInput plugins ambient front s₀ = ⟨s, .ok draft⟩) (hname : name ≠ "")
    (hsides : readSides (Template.expand s line).toList =
      .ok (m.toList, (InputTarget.header name).render)) :
    mapInput plugins ambient (front ++ [line]) s₀ =
      ⟨s, .ok { draft with
        headers := Dictionary.insert name (Template.textOf v) draft.headers }⟩ := by
  have htarget : readInputTarget (InputTarget.header name).render = .ok (.header name) :=
    readInputTarget_render hname
  have hturn : ∀ ambient, turn? readInput plugins ambient line s = some ⟨.header name, some v⟩ :=
    fun ambient => (gives_path h hget ambient line _ hsides).1 _ htarget
  have hwrite : writeInput s draft (.header name) (some v) =
      ⟨s, .ok { draft with
        headers := Dictionary.insert name (Template.textOf v) draft.headers }⟩ := by
    cases v with
    | null => exact absurd rfl hnull
    | _ => rfl
  rw [mapInput] at hfront ⊢
  rw [runLines_append, hfront]
  simp only [runLines, runLine_of_turn? (hturn _), hwrite]

/-- An element of the model has one text. Be it filled in for a reference, converted by a suffix,
written into a header, or handed to the plugins `text` and `concat`: any element but null is given
as the same text, unless it is a double on its own or holds a whole number past the signed 64-bit
range. -/
theorem texts_agree (htext : plugins.find? "text" = some Plugin.Conversion.text)
    (hconcat : plugins.find? "concat" = some Wording.concat) (hm : IsWritable m)
    (hget : s.get? m = some v) (hnull : v ≠ .null) (hreal : ∀ x, v ≠ .num (.real x))
    (hsigned : v.Signed) : GivenAs plugins s m (Template.textOf v) := by
  have hadded := addition_path hget hreal hsigned
  have harg : (Argument.path m).Regular := ⟨hm.isPath, hm.isPlain⟩
  constructor
  case reference => exact hm.expand_reference hget hnull
  case suffix => exact gives_text hm hget
  case header => exact mapInput_header hm hget hnull
  case call =>
    have hcall : Gives plugins s (.call "text" [.path m])
        (Value.text (addition s (.path m))).toJson :=
      gives_call (by decide) (by simpa using harg) htext fun _ => rfl
    rwa [hadded] at hcall
  case concatenation =>
    intro front back hargs hne
    have hregular : ∀ arg ∈ front ++ .path m :: back, arg.Regular := by
      simp only [List.forall_mem_append, List.forall_mem_cons] at hargs ⊢
      exact ⟨hargs.1, harg, hargs.2⟩
    have hcount : 2 ≤ (front ++ .path m :: back).length := by
      have hothers : 0 < (front ++ back).length := List.length_pos_of_ne_nil hne
      simp only [List.length_append, List.length_cons] at hothers ⊢
      omega
    have hconcatenated : Gives plugins s (.call "concat" (front ++ .path m :: back)) _ :=
      gives_concat hconcat hregular hcount
    simpa only [List.map_append, List.map_cons, String.join_append, String.join_cons, hadded,
      String.append_assoc] using hconcatenated

/-- An order with a list in it. -/
def purchase : Json := .obj [("items", .arr [Json.ofNat 2, .str "ham", .null, .bool true])]

/-- The order is put into a header, behind a text. -/
theorem texts_agree_order :
    let s : Store := ⟨.obj [("model", .obj [("order", purchase)])]⟩
    let text := "\x7b\"items\":[2,\"ham\",null,true]\x7d"
    let line := "f:concat(text(order ), model.order) -> header.X-Order"
    GivenAs Registry.builtin s "model.order" text ∧
      turn? readInput Registry.builtin default line s =
        some ⟨.header "X-Order", some (.str ("order " ++ text))⟩ := by
  intro s text line
  have hwritable : IsWritable "model.order" :=
    isWritable_print (List.cons_ne_nil "order" []) (by decide)
  have hsigned : purchase.Signed := (Value.toJson_ofJson_iff purchase).mp (by decide +kernel)
  have hget : s.get? "model.order" = some purchase := by decide +kernel
  have hgiven : GivenAs Registry.builtin s "model.order" (Template.textOf purchase) :=
    texts_agree rfl rfl hwritable hget (by rintro ⟨⟩) (by rintro x ⟨⟩) hsigned
  rw [show Template.textOf purchase = text by decide +kernel] at hgiven
  have hargs : ∀ arg ∈ [Argument.constant (.str "order ")] ++ [], arg.Regular :=
    List.forall_mem_singleton.mpr (show Balanced "order ".toList by decide)
  have hgives := hgiven.concatenation [.constant (.str "order ")] [] hargs (by decide)
  have hturn := (hgives default line "header.X-Order".toList (by decide +kernel)).1
  exact ⟨hgiven, hturn (.header "X-Order") (by decide)⟩

end Mapping

end TaskFlow
