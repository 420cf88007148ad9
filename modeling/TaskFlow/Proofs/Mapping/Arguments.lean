/-
TaskFlow.Proofs.Mapping.Arguments — the arguments of a call are read back.

Arguments are cut at the commas outside parentheses. A written argument is `Sealed`: a comma in it
stands in parentheses, and all of them are closed at its end, so the cuts fall between arguments.

  §1 Constants — a constant is read from its kind and what stands in its parentheses.
  §2 Depth     — the parentheses that are open along a text.
  §3 Cuts      — `splitArgs` tells sealed pieces apart.
  §4 Arguments — every argument, and any number of them.
-/
import TaskFlow.Proofs.Mapping.Grammar
import TaskFlow.Proofs.Text.Numeral

namespace TaskFlow.Mapping

open TaskFlow TaskFlow.Text

variable {word inner : List Char}

/-! ## §1 Constants -/

theorem enclosed_eq (word inner : List Char) :
    enclosed word inner = (word ++ '(' :: inner) ++ [')'] := by
  simp [enclosed]

/-- What stands in parentheses is found from the first opening one to the end. -/
theorem opened_enclosed (h : '(' ∉ word) (inner : List Char) :
    (beforeLast? ')' (enclosed word inner)).bind (cutFirst '(') = some (word, inner) := by
  rw [enclosed_eq, beforeLast?_concat]
  exact cutFirst_append h inner

theorem constant?_eq (cs : List Char) :
    constant? cs =
      ((beforeLast? ')' cs).bind (cutFirst '(')).bind fun opened => ofKind? opened.1 opened.2 := by
  rw [Option.bind_assoc]
  rfl

theorem constant?_enclosed (h : '(' ∉ word) (inner : List Char) :
    constant? (enclosed word inner) = ofKind? word inner := by
  rw [constant?_eq, opened_enclosed h]
  rfl

theorem readWhole_ofInt {w : Whole} (h : w.val < 0x8000000000000000) :
    readWhole (ofInt w.val) = .ok (.num (.whole w)) := by
  have hsigned : signed? 0x8000000000000000 (ofInt w.val) = some w.val :=
    signed?_ofInt w.lower h
  unfold readWhole Plugin.Value.long?
  rw [show trim (ofInt w.val) = ofInt w.val from tidy_ofInt w.val, hsigned]
  dsimp only [Option.map_some]
  rw [Json.ofInt64, Whole.ofInt64_ofInt h]

/-- A constant is read back. -/
theorem constant?_renderConstant {value : Json} (h : IsConstant value) :
    constant? (renderConstant value) = some (.ok value) := by
  match value, h with
  | .str s, _ =>
    rw [renderConstant, constant?_enclosed (by decide)]
    show some (Except.ok (Json.str (String.ofList s.toList))) = _
    rw [String.ofList_toList]
  | .bool b, _ =>
    rw [renderConstant, constant?_enclosed (by decide)]
    cases b <;> rfl
  | .num (.whole w), h =>
    show constant? (enclosed "int".toList (ofInt w.val)) = _
    rw [constant?_enclosed (by decide)]
    show some (readWhole (ofInt w.val)) = _
    rw [readWhole_ofInt h]

theorem constant?_eq_none_of_plain {cs : List Char} (h : '(' ∉ cs) : constant? cs = none := by
  rw [constant?_eq]
  cases hbefore : beforeLast? ')' cs with
  | none => rfl
  | some before =>
    rw [eq_concat_of_beforeLast? hbefore, List.mem_append, not_or] at h
    rw [Option.bind_some, cutFirst_eq_none_iff.mpr h.1]
    rfl

/-! ## §2 Depth -/

/-- Read from a depth on, no comma of the text stands outside parentheses. -/
def Shielded : Nat → List Char → Prop
  | _, [] => True
  | depth, c :: rest => ¬(c = ',' ∧ depth = 0) ∧ Shielded (depthAfter depth c) rest

/-- A text that is cut nowhere and leaves no parenthesis open. -/
def Sealed (cs : List Char) : Prop :=
  Shielded 0 cs ∧ cs.foldl depthAfter 0 = 0

theorem Shielded.append {depth : Nat} {front back : List Char} (hfront : Shielded depth front)
    (hback : Shielded (front.foldl depthAfter depth) back) : Shielded depth (front ++ back) := by
  induction front generalizing depth with
  | nil => exact hback
  | cons c rest ih => exact ⟨hfront.1, ih hfront.2 hback⟩

/-- Without parentheses and commas there is nothing to count. -/
theorem shielded_of_plain {cs : List Char} (h : IsPlain cs) (depth : Nat) :
    Shielded depth cs ∧ cs.foldl depthAfter depth = depth := by
  induction cs with
  | nil => exact ⟨trivial, rfl⟩
  | cons c rest ih =>
    simp only [IsPlain, List.mem_cons, not_or] at h
    obtain ⟨⟨hopen, hopens⟩, ⟨hclose, hcloses⟩, hcomma, hcommas⟩ := h
    have hdepth : depthAfter depth c = depth := by
      simp [depthAfter, Ne.symm hopen, Ne.symm hclose]
    obtain ⟨hrest, hfold⟩ := ih ⟨hopens, hcloses, hcommas⟩
    rw [Shielded, List.foldl_cons, hdepth]
    exact ⟨⟨fun hcut => hcomma hcut.1.symm, hrest⟩, hfold⟩

/-- The depth counts the parentheses. While some are open, no comma cuts. -/
theorem shielded_of_count {depth : Nat} {cs : List Char}
    (h : ∀ front, front <+: cs → front.count ')' < depth + front.count '(') :
    Shielded depth cs ∧ cs.foldl depthAfter depth + cs.count ')' = depth + cs.count '(' := by
  induction cs generalizing depth with
  | nil => exact ⟨trivial, rfl⟩
  | cons c rest ih =>
    have hpos : 0 < depth := by simpa using h [] (List.nil_prefix)
    have hcount : ∀ mark, (c :: rest).count mark = [c].count mark + rest.count mark := by
      intro mark
      rw [← List.singleton_append, List.count_append]
    have hstep : depthAfter depth c + [c].count ')' = depth + [c].count '(' := by
      by_cases hopen : c = '('
      · simp [depthAfter, hopen]
      · by_cases hclose : c = ')'
        · simp only [depthAfter, hclose, List.count_singleton]
          simp
          omega
        · simp [depthAfter, hopen, hclose]
    -- a beginning of the rest is a beginning of the whole without its first character
    have hrest : ∀ front, front <+: rest →
        front.count ')' < depthAfter depth c + front.count '(' := by
      intro front hfront
      have hlonger := h (c :: front) (List.cons_prefix_cons.mpr ⟨rfl, hfront⟩)
      rw [← List.singleton_append, List.count_append, List.count_append] at hlonger
      omega
    obtain ⟨hshielded, hfold⟩ := ih hrest
    refine ⟨⟨fun hcut => by omega, hshielded⟩, ?_⟩
    rw [List.foldl_cons, hcount, hcount]
    omega

/-- Parentheses around a balanced text seal it. -/
theorem sealed_enclosed (hword : IsPlain word) (h : Balanced inner) :
    Sealed (enclosed word inner) := by
  have hcount : ∀ front, front <+: inner → front.count ')' < 1 + front.count '(' := by
    intro front hfront
    have := h.1 front (List.mem_inits _ _ |>.mpr hfront)
    omega
  obtain ⟨hstart, hdepth⟩ := shielded_of_plain hword 0
  obtain ⟨hinner, hend⟩ := shielded_of_count hcount
  have hclosed : inner.foldl depthAfter 1 = 1 := by
    have := h.2
    omega
  have hlast : ∀ depth, Shielded depth [')'] :=
    fun depth => ⟨fun hcomma => absurd hcomma.1 (by decide), trivial⟩
  have hrest : Shielded 0 ('(' :: (inner ++ [')'])) := ⟨by decide, hinner.append (hlast _)⟩
  refine ⟨Shielded.append hstart (hdepth.symm ▸ hrest), ?_⟩
  rw [enclosed, List.foldl_append, hdepth, List.foldl_cons, List.foldl_append]
  show List.foldl depthAfter (inner.foldl depthAfter 1) [')'] = 0
  rw [hclosed]
  rfl

/-! ## §3 Cuts -/

theorem splitArgs_ne_nil (depth : Nat) (cs : List Char) : splitArgs depth cs ≠ [] := by
  cases cs with
  | nil => simp [splitArgs]
  | cons c rest =>
    rw [splitArgs]
    split
    · simp
    · cases splitArgs (depthAfter depth c) rest <;> simp [consFirst]

theorem foldr_consFirst (front piece : List Char) (pieces : List (List Char)) :
    front.foldr consFirst (piece :: pieces) = (front ++ piece) :: pieces := by
  induction front with
  | nil => rfl
  | cons c rest ih =>
    rw [List.foldr_cons, ih]
    rfl

/-- Nothing is cut inside a shielded text. -/
theorem splitArgs_append {depth : Nat} {front : List Char} (h : Shielded depth front)
    (back : List Char) :
    splitArgs depth (front ++ back) =
      front.foldr consFirst (splitArgs (front.foldl depthAfter depth) back) := by
  induction front generalizing depth with
  | nil => rfl
  | cons c rest ih =>
    rw [List.cons_append, splitArgs, if_neg h.1, List.foldr_cons, List.foldl_cons, ih h.2]

theorem map_trim_consFirst {pieces : List (List Char)} (h : pieces ≠ []) :
    (consFirst ' ' pieces).map trim = pieces.map trim := by
  cases pieces with
  | nil => exact absurd rfl h
  | cons piece rest => rw [consFirst, List.map_cons, trim_cons (by decide), List.map_cons]

/-- Sealed pieces are told apart again. -/
theorem splitArgs_joinWith {pieces : List (List Char)} (hne : pieces ≠ [])
    (h : ∀ piece ∈ pieces, Sealed piece ∧ Tidy piece) :
    (splitArgs 0 (joinWith ", ".toList pieces)).map trim = pieces := by
  induction pieces with
  | nil => exact absurd rfl hne
  | cons piece rest ih =>
    obtain ⟨⟨hshielded, hclosed⟩, htidy⟩ := h piece List.mem_cons_self
    have hpiece : trim piece = piece := htidy
    cases rest with
    | nil =>
      have hsplit := splitArgs_append hshielded []
      rw [List.append_nil, hclosed, splitArgs, foldr_consFirst, List.append_nil] at hsplit
      rw [joinWith, hsplit, List.map_singleton, hpiece]
    | cons next rest =>
      have hrest := ih (List.cons_ne_nil _ _) fun p hp => h p (List.mem_cons_of_mem _ hp)
      have hcut : splitArgs 0 (", ".toList ++ joinWith ", ".toList (next :: rest)) =
          [] :: consFirst ' ' (splitArgs 0 (joinWith ", ".toList (next :: rest))) := rfl
      -- the blank behind the comma begins the next piece, until that is trimmed
      rw [joinWith, List.append_assoc, splitArgs_append hshielded, hclosed, hcut, foldr_consFirst,
        List.append_nil, List.map_cons, hpiece, map_trim_consFirst (splitArgs_ne_nil _ _), hrest]

/-! ## §4 Arguments -/

theorem balanced_of_plain {cs : List Char} (hopen : '(' ∉ cs) (hclose : ')' ∉ cs) :
    Balanced cs := by
  refine ⟨fun front hfront => ?_, ?_⟩
  · have hbeginning := (List.mem_inits _ _).mp hfront
    rw [List.count_eq_zero_of_not_mem fun hmem => hclose (hbeginning.subset hmem)]
    exact Nat.zero_le _
  · rw [List.count_eq_zero_of_not_mem hopen, List.count_eq_zero_of_not_mem hclose]

theorem ne_nil_of_isValid {path : String} (h : Path.isValid path = true) : path.toList ≠ [] := by
  intro hnil
  rw [show path = "" from String.toList_eq_nil_iff.mp hnil] at h
  exact absurd h (by decide)

theorem checkPath_of_isValid {path : String} (h : Path.isValid path = true) :
    checkPath path.toList = .ok path := by
  unfold checkPath
  rw [String.ofList_toList, if_pos h]

/-- Every constant is a word with something in parentheses behind it. -/
theorem renderConstant_eq (value : Json) :
    ∃ word ∈ ["text".toList, "boolean".toList, "int".toList], ∃ inner,
      renderConstant value = enclosed word inner := by
  unfold renderConstant
  split <;> exact ⟨_, by simp, _, rfl⟩

theorem enclosed_ne_nil (word inner : List Char) : enclosed word inner ≠ [] := by
  simp [enclosed]

theorem tidy_enclosed_of_tidy (hne : word ≠ []) (hword : Tidy word) (inner : List Char) :
    Tidy (enclosed word inner) := by
  have htidy := tidy_enclosed hword (by decide : Tidy [')']) hne
    (List.cons_ne_nil _ _) ('(' :: inner)
  simpa [enclosed] using htidy

theorem renderConstant_ne_nil (value : Json) : renderConstant value ≠ [] := by
  obtain ⟨word, -, inner, heq⟩ := renderConstant_eq value
  rw [heq]
  exact enclosed_ne_nil word inner

theorem tidy_renderConstant (value : Json) : Tidy (renderConstant value) := by
  obtain ⟨word, hword, inner, heq⟩ := renderConstant_eq value
  have hall : ∀ word ∈ ["text".toList, "boolean".toList, "int".toList],
      word ≠ [] ∧ trim word = word := by decide
  rw [heq]
  exact tidy_enclosed_of_tidy (hall word hword).1 (hall word hword).2 inner

/-- The constant of an argument is sealed. -/
theorem sealed_renderConstant {value : Json} (h : (Argument.constant value).Regular) :
    Sealed (renderConstant value) := by
  match value, h with
  | .str s, h => exact sealed_enclosed (by decide) h
  | .bool b, _ =>
    refine sealed_enclosed (by decide) (balanced_of_plain ?_ ?_) <;> cases b <;> decide
  | .num (.whole w), _ =>
    have hplain : ∀ mark, mark ≠ '-' → isDigit mark = false → mark ∉ ofInt w.val := by
      intro mark hsign hdigit hmem
      rcases mem_ofInt hmem with hsign' | hdigit'
      · exact hsign hsign'
      · exact ne_of_isDigit hdigit' hdigit rfl
    exact sealed_enclosed (by decide)
      (balanced_of_plain (hplain '(' (by decide) (by decide)) (hplain ')' (by decide) (by decide)))

variable {arg : Argument} {args : List Argument}

theorem sealed_render (h : arg.Regular) : Sealed arg.render := by
  cases arg with
  | constant value => exact sealed_renderConstant h
  | path path => exact shielded_of_plain h.2 0

theorem tidy_render (h : arg.Regular) : Tidy arg.render ∧ arg.render ≠ [] := by
  cases arg with
  | constant value => exact ⟨tidy_renderConstant value, renderConstant_ne_nil value⟩
  | path path => exact ⟨h.1.2, ne_nil_of_isValid h.1.1⟩

theorem Argument.Regular.isConstant {value : Json} (h : (Argument.constant value).Regular) :
    IsConstant value := by
  match value, h with
  | .str s, _ => exact trivial
  | .bool b, _ => exact trivial
  | .num (.whole w), h => exact h

/-- An argument is read back. -/
theorem readArgument_render (h : arg.Regular) : readArgument arg.render = .ok arg := by
  cases arg with
  | constant value =>
    rw [Argument.render, readArgument, constant?_renderConstant h.isConstant]
    rfl
  | path path =>
    rw [Argument.render, readArgument, constant?_eq_none_of_plain h.2.1]
    dsimp only
    rw [checkPath_of_isValid h.1.1]
    rfl

theorem mapM_readArgument (h : ∀ arg ∈ args, arg.Regular) :
    (args.map Argument.render).mapM readArgument = .ok args := by
  induction args with
  | nil => rfl
  | cons arg rest ih =>
    rw [List.map_cons, List.mapM_cons, readArgument_render (h arg List.mem_cons_self),
      ih fun other hother => h other (List.mem_cons_of_mem _ hother)]
    rfl

/-- What is joined is not blank. -/
theorem trim_joinWith_ne_nil {piece : List Char} (hne : piece ≠ []) (htidy : Tidy piece)
    (mark : List Char) (pieces : List (List Char)) :
    trim (joinWith mark (piece :: pieces)) ≠ [] := by
  obtain ⟨c, rest, rfl⟩ := List.exists_cons_of_ne_nil hne
  have hmem : c ∈ joinWith mark ((c :: rest) :: pieces) := by
    cases pieces <;> simp [joinWith]
  intro hnil
  have hblank := trim_eq_nil_iff.mp hnil c hmem
  rw [(tidy_iff.mp htidy).1 c rfl] at hblank
  cases hblank

/-- The arguments of a call are read back, however many there are. -/
theorem readArguments_joinWith (h : ∀ arg ∈ args, arg.Regular) :
    readArguments (joinWith ", ".toList (args.map Argument.render)) = .ok args := by
  unfold readArguments
  cases args with
  | nil => rfl
  | cons arg rest =>
    obtain ⟨htidy, hne⟩ := tidy_render (h arg List.mem_cons_self)
    have hpieces : ∀ piece ∈ (arg :: rest).map Argument.render, Sealed piece ∧ Tidy piece := by
      intro piece hpiece
      obtain ⟨other, hother, rfl⟩ := List.mem_map.mp hpiece
      exact ⟨sealed_render (h other hother), (tidy_render (h other hother)).1⟩
    have hcut := splitArgs_joinWith (by simp) hpieces
    rw [if_neg (by simpa using trim_joinWith_ne_nil hne htidy _ _), hcut]
    exact mapM_readArgument h

end TaskFlow.Mapping
