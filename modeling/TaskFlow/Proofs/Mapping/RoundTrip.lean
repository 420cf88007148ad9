/-
TaskFlow.Proofs.Mapping.RoundTrip — a written mapping line is read back.

The reader tries one form after another, and an earlier form must not take what was written as a
later one. A text below a key such as `model.` is no call and no constant, because what stands
before its first parenthesis has a dot in it. Within a form, the marks that a `Regular` part does
not contain are found where the writer put them.

  §1 Suffixes — type conversions.
  §2 Elements — texts that lead below a key are taken for nothing else.
  §3 Sources  — the left side of a line.
  §4 Targets  — the right side.
  §5 Lines    — both sides, on either side of a task.
-/
import TaskFlow.Proofs.Mapping.Arguments
import TaskFlow.Proofs.Mapping.Lines

namespace TaskFlow.Mapping

open TaskFlow TaskFlow.Text

/-! ## §1 Suffixes -/

theorem readIndex_ofNat {n : Nat} (h : n < wordBound) : readIndex (ofNat n) = .ok n := by
  rw [readIndex, unsigned?_ofNat h]

theorem readSubstring_start {start : Nat} (h : start < wordBound) :
    readSubstring (ofNat start) = .ok (.substring start none) := by
  have hsplit : (splitOn ',' (ofNat start)).map trim = [ofNat start] := by
    rw [splitOn_of_not_mem (not_mem_ofNat (by decide) start), List.map_singleton,
      show trim (ofNat start) = ofNat start from tidy_ofNat start]
  rw [readSubstring, hsplit]
  dsimp only
  rw [readIndex_ofNat h]
  rfl

theorem readSubstring_stop {start stop : Nat} (horder : start < stop) (h : stop < wordBound) :
    readSubstring (ofNat start ++ ',' :: ofNat stop) = .ok (.substring start (some stop)) := by
  have hsplit : (splitOn ',' (ofNat start ++ ',' :: ofNat stop)).map trim =
      [ofNat start, ofNat stop] := by
    rw [splitOn_append_mark (not_mem_ofNat (by decide) start),
      splitOn_of_not_mem (not_mem_ofNat (by decide) stop), List.map_cons, List.map_singleton,
      show trim (ofNat start) = ofNat start from tidy_ofNat start,
      show trim (ofNat stop) = ofNat stop from tidy_ofNat stop]
  rw [readSubstring, hsplit]
  dsimp only
  rw [readIndex_ofNat (horder.trans h), readIndex_ofNat h]
  exact if_neg (Nat.not_le.mpr horder)

/-- A suffix with parentheses can only be a substring. -/
theorem readConversion_enclosed (bounds : List Char) :
    readConversion (enclosed "substring".toList bounds) = readSubstring bounds := by
  have hinside : (afterPrefix? "substring(".toList (enclosed "substring".toList bounds)).bind
      (beforeLast? ')') = some bounds := by
    have htext : enclosed "substring".toList bounds =
        "substring(".toList ++ (bounds ++ [')']) := rfl
    rw [htext, afterPrefix?_append]
    exact beforeLast?_concat ')' bounds
  have hword : ∀ word : String, '(' ∉ word.toList →
      String.ofList (enclosed "substring".toList bounds) ≠ word := by
    rintro word hopen rfl
    rw [String.toList_ofList] at hopen
    exact hopen (by simp [enclosed])
  unfold readConversion
  split
  any_goals exact absurd ‹_› (hword _ (by decide))
  rw [hinside]

/-- A type suffix is read back. -/
theorem readConversion_render {conversion : Conversion} (h : conversion.Regular) :
    readConversion conversion.render = .ok conversion := by
  cases conversion with
  | substring start stop =>
    cases stop with
    | none => exact (readConversion_enclosed _).trans (readSubstring_start h)
    | some stop => exact (readConversion_enclosed _).trans (readSubstring_stop h.1 h.2)
  | _ => rfl

theorem tidy_conversion (conversion : Conversion) :
    Tidy conversion.render ∧ conversion.render ≠ [] := by
  have hsubstring : ∀ bounds, Tidy (enclosed "substring".toList bounds) :=
    tidy_enclosed_of_tidy (by decide) (by decide)
  cases conversion with
  | substring start stop =>
    cases stop with
    | none => exact ⟨hsubstring _, enclosed_ne_nil _ _⟩
    | some stop => exact ⟨hsubstring _, enclosed_ne_nil _ _⟩
  | _ => exact ⟨by decide, by decide⟩

/-! ## §2 Elements -/

/-- No kind of constants has a dot in its name. -/
theorem ofKind?_of_dot {kind : List Char} (h : '.' ∈ kind) (inner : List Char) :
    ofKind? kind inner = none := by
  have hword : ∀ word : String, '.' ∉ word.toList → String.ofList kind ≠ word := by
    rintro word hword rfl
    exact hword (by simpa using h)
  unfold ofKind?
  split
  any_goals exact absurd ‹_› (hword _ (by decide))
  rfl

section

variable {space path : String}

/-- An element below a key is no constant. -/
theorem constant?_of_isBelow (hopen : '(' ∉ space.toList) (h : IsBelow space path) :
    constant? path.toList = none := by
  rw [constant?_eq]
  cases hopened : (beforeLast? ')' path.toList).bind (cutFirst '(') with
  | none => rfl
  | some opened =>
    obtain ⟨before, hbefore, hcut⟩ := Option.bind_eq_some_iff.mp hopened
    obtain ⟨hkind, -⟩ := eq_append_of_cutFirst hcut
    have hpath : path.toList = opened.1 ++ '(' :: (opened.2 ++ [')']) := by
      rw [eq_concat_of_beforeLast? hbefore, hkind]
      simp
    obtain ⟨rest, hrest⟩ := h
    rw [hpath, List.append_assoc, List.singleton_append] at hrest
    -- the dot comes before the first parenthesis, for there is none in the key
    rcases List.append_eq_append_iff.mp hrest with ⟨behind, hkind, hback⟩ | ⟨behind, hkey, hback⟩
    · cases behind with
      | nil => exact absurd (List.cons.inj hback).1 (by decide)
      | cons c behind =>
        have hdot : '.' ∈ opened.1 := by
          rw [hkind, ← (List.cons.inj hback).1]
          simp
        exact ofKind?_of_dot hdot opened.2
    · cases behind with
      | nil => exact absurd (List.cons.inj hback).1 (by decide)
      | cons c behind =>
        rw [hkey, ← (List.cons.inj hback).1] at hopen
        exact absurd (by simp) hopen

theorem ne_of_isBelow {word : List Char} (h : IsBelow space path)
    (hword : ¬space.toList ++ ['.'] <+: word) : path.toList ≠ word := by
  rintro rfl
  exact hword h

theorem not_prefix_of_isBelow {word : List Char} (h : IsBelow space path)
    (hshorter : ¬word <+: space.toList ++ ['.']) (hlonger : ¬space.toList ++ ['.'] <+: word) :
    ¬word <+: path.toList := by
  intro hword
  rcases List.prefix_or_prefix_of_prefix hword h with hin | hin
  · exact hshorter hin
  · exact hlonger hin

end

/-! ## §3 Sources -/

section

variable {side : Side} {path : String}

theorem readSource_of_isBelow (h : IsBelow "model" path) :
    readSource side path.toList = readModelSource path.toList := by
  have hcall : afterPrefix? "f:".toList path.toList = none :=
    afterPrefix?_eq_none (not_prefix_of_isBelow h (by decide) (by decide))
  have hwhole : path.toList ≠ "model".toList := ne_of_isBelow h (by decide)
  have hstart : startsWith "model.".toList path.toList = true := startsWith_iff.mpr h
  unfold readSource
  rw [hcall, constant?_of_isBelow (by decide) h]
  dsimp only
  rw [if_neg hwhole, if_pos hstart]

theorem inNamespace_of {space : String} (h : path = space ∨ IsBelow space path) :
    inNamespace space path.toList = true := by
  rcases h with rfl | hbelow
  · simp [inNamespace]
  · have hstart : startsWith (space ++ ".").toList path.toList = true := by
      rw [startsWith_iff, String.toList_append]
      exact hbelow
    rw [inNamespace, hstart, Bool.or_true]

theorem IsOffered.isReadable (h : IsOffered side path) :
    isReadable side path.toList = true := by
  cases side with
  | input => exact inNamespace_of h
  | output =>
    rcases h with rfl | ⟨space, hspace, hin⟩
    · decide
    · have hnamespace := inNamespace_of hin
      simp only [List.mem_cons, List.not_mem_nil, or_false] at hspace
      rcases hspace with rfl | rfl | rfl <;> simp [Mapping.isReadable, hnamespace]

theorem IsOffered.cases (h : IsOffered side path) :
    path ∈ ["input", "result", "header", "status"] ∨
      ∃ space ∈ ["input", "result", "header"], IsBelow space path := by
  cases side with
  | input =>
    rcases h with rfl | hbelow
    · exact Or.inl (by decide)
    · exact Or.inr ⟨"input", by decide, hbelow⟩
  | output =>
    rcases h with rfl | ⟨space, hspace, rfl | hbelow⟩
    · exact Or.inl (by decide)
    · exact Or.inl (List.mem_of_mem_dropLast (l := ["input", "result", "header", "status"]) hspace)
    · exact Or.inr ⟨space, hspace, hbelow⟩

/-- An element outside the model is taken neither for a call or a constant nor for one inside. -/
theorem IsOffered.outside (h : IsOffered side path) :
    ¬"f:".toList <+: path.toList ∧ constant? path.toList = none ∧
      path.toList ≠ "model".toList ∧ ¬"model.".toList <+: path.toList := by
  rcases h.cases with hword | ⟨space, hspace, hbelow⟩
  · have hall : ∀ word ∈ ["input", "result", "header", "status"],
        ¬"f:".toList <+: word.toList ∧ '(' ∉ word.toList ∧ word.toList ≠ "model".toList ∧
          ¬"model.".toList <+: word.toList := by decide
    obtain ⟨hcall, hplain, hwhole, hmodel⟩ := hall path hword
    exact ⟨hcall, constant?_eq_none_of_plain hplain, hwhole, hmodel⟩
  · have hopen : ∀ space ∈ ["input", "result", "header"], '(' ∉ space.toList := by decide
    have hapart : ∀ space ∈ ["input", "result", "header"], ∀ word ∈ ["f:", "model", "model."],
        ¬word.toList <+: space.toList ++ ['.'] ∧ ¬space.toList ++ ['.'] <+: word.toList := by decide
    have hnot : ∀ word ∈ ["f:", "model", "model."], ¬word.toList <+: path.toList := by
      intro word hword
      obtain ⟨hshorter, hlonger⟩ := hapart space hspace word hword
      exact not_prefix_of_isBelow hbelow hshorter hlonger
    refine ⟨hnot "f:" (by simp), constant?_of_isBelow (hopen space hspace) hbelow, ?_,
      hnot "model." (by simp)⟩
    intro hwhole
    exact hnot "model" (by simp) (hwhole ▸ List.prefix_refl _)

theorem readSource_of_isOffered (h : IsOffered side path) :
    readSource side path.toList = (checkPath path.toList).map .path := by
  obtain ⟨hcall, hconstant, hwhole, hmodel⟩ := h.outside
  unfold readSource
  rw [afterPrefix?_eq_none hcall, hconstant]
  dsimp only
  rw [if_neg hwhole, startsWith_eq_false hmodel, if_neg (by decide), if_pos h.isReadable]

theorem readModelSource_path (h : IsModelElement path) :
    readModelSource path.toList = .ok (.path path) := by
  obtain ⟨⟨hvalid, -⟩, -, hcolon⟩ := h
  rw [readModelSource, cutFirst_eq_none_iff.mpr hcolon]
  dsimp only
  rw [checkPath_of_isValid hvalid]
  rfl

theorem readModelSource_typed (h : IsModelElement path) {conversion : Conversion}
    (hconversion : conversion.Regular) :
    readModelSource (path.toList ++ ':' :: conversion.render) = .ok (.typed path conversion) := by
  obtain ⟨⟨hvalid, htidy⟩, -, hcolon⟩ := h
  rw [readModelSource, cutFirst_append hcolon]
  dsimp only
  rw [show trim path.toList = path.toList from htidy,
    show trim conversion.render = conversion.render from (tidy_conversion conversion).1,
    checkPath_of_isValid hvalid, readConversion_render hconversion]
  rfl

/-- A call is read back. -/
theorem readCall_enclosed {name : String} {args : List Argument} (hname : name ≠ "")
    (hopen : '(' ∉ name.toList) (htidy : Tidy name.toList) (hargs : ∀ arg ∈ args, arg.Regular) :
    readCall (enclosed name.toList (joinWith ", ".toList (args.map Argument.render))) =
      .ok (.call name args) := by
  have hne : ¬(trim name.toList).isEmpty = true := by
    rw [show trim name.toList = name.toList from htidy, List.isEmpty_iff]
    exact fun hnil => hname (String.toList_eq_nil_iff.mp hnil)
  rw [readCall, opened_enclosed hopen]
  dsimp only
  rw [if_neg hne, readArguments_joinWith hargs, show trim name.toList = name.toList from htidy,
    String.ofList_toList]
  rfl

theorem afterPrefix?_renderConstant (value : Json) :
    afterPrefix? "f:".toList (renderConstant value) = none := by
  obtain ⟨word, hword, inner, heq⟩ := renderConstant_eq value
  rw [heq]
  simp only [List.mem_cons, List.not_mem_nil, or_false] at hword
  rcases hword with rfl | rfl | rfl <;> rfl

/-- A source is read back. -/
theorem readSource_render {source : Source} (h : source.Regular side) :
    readSource side source.render = .ok source := by
  cases source with
  | constant value =>
    show readSource side (renderConstant value) = _
    rw [readSource, afterPrefix?_renderConstant, constant?_renderConstant h]
    rfl
  | path path =>
    show readSource side path.toList = _
    rcases h with hmodel | ⟨hpath, hoffered⟩
    · rw [readSource_of_isBelow hmodel.2.1, readModelSource_path hmodel]
    · rw [readSource_of_isOffered hoffered, checkPath_of_isValid hpath.1]
      rfl
  | typed path conversion =>
    obtain ⟨hmodel, hconversion⟩ := h
    -- the whole text, with its suffix, leads below the model too
    have htext : (String.ofList (path.toList ++ ':' :: conversion.render)).toList =
        path.toList ++ ':' :: conversion.render := String.toList_ofList
    have hbelow : IsBelow "model" (String.ofList (path.toList ++ ':' :: conversion.render)) := by
      rw [IsBelow, htext]
      exact hmodel.2.1.trans (List.prefix_append _ _)
    show readSource side (path.toList ++ ':' :: conversion.render) = _
    rw [← htext, readSource_of_isBelow hbelow, htext, readModelSource_typed hmodel hconversion]
  | call name args =>
    obtain ⟨hname, hopen, htidy, hargs⟩ := h
    show readSource side ("f:".toList ++ enclosed name.toList _) = _
    rw [readSource, afterPrefix?_append]
    exact readCall_enclosed hname hopen htidy hargs

/-- No blanks stand around a written source. -/
theorem tidy_source {source : Source} (h : source.Regular side) :
    Tidy source.render ∧ source.render ≠ [] := by
  cases source with
  | constant value => exact ⟨tidy_renderConstant value, renderConstant_ne_nil value⟩
  | path path =>
    have hpath : IsPath path := by
      rcases h with hmodel | hoffered
      · exact hmodel.1
      · exact hoffered.1
    exact ⟨hpath.2, ne_nil_of_isValid hpath.1⟩
  | typed path conversion =>
    obtain ⟨⟨⟨hvalid, htidy⟩, -⟩, -⟩ := h
    obtain ⟨hsuffix, hne⟩ := tidy_conversion conversion
    have hwhole := tidy_enclosed htidy hsuffix (ne_nil_of_isValid hvalid) hne [':']
    rw [List.append_assoc, List.singleton_append] at hwhole
    exact ⟨hwhole, List.append_ne_nil_of_left_ne_nil (ne_nil_of_isValid hvalid) _⟩
  | call name args =>
    obtain ⟨hname, -, htidy, -⟩ := h
    have hback := tidy_enclosed_of_tidy (fun hnil => hname (String.toList_eq_nil_iff.mp hnil)) htidy
      (joinWith ", ".toList (args.map Argument.render))
    have hwhole := tidy_enclosed (by decide : Tidy "f:".toList) hback
      (by decide) (enclosed_ne_nil _ _) []
    rw [List.append_nil] at hwhole
    exact ⟨hwhole, List.append_ne_nil_of_left_ne_nil (by decide) _⟩

end

/-! ## §4 Targets -/

/-- A target of the input side is read back. -/
theorem readInputTarget_render {target : InputTarget} (h : target.Regular) :
    readInputTarget target.render = .ok target := by
  cases target with
  | header name =>
    have hne : ¬name.toList.isEmpty = true := by
      rw [List.isEmpty_iff]
      exact fun hnil => h (String.toList_eq_nil_iff.mp hnil)
    show readInputTarget ("header.".toList ++ name.toList) = _
    rw [readInputTarget, afterPrefix?_append]
    dsimp only
    rw [if_neg hne, String.ofList_toList]
  | model path =>
    obtain ⟨hvalid, hbelow⟩ := h
    have hheader : ¬"header.".toList <+: path.toList :=
      not_prefix_of_isBelow hbelow (by decide) (by decide)
    have hwhole : path.toList ≠ "model".toList := ne_of_isBelow hbelow (by decide)
    have hstart : startsWith "model.".toList path.toList = true := startsWith_iff.mpr hbelow
    show readInputTarget path.toList = _
    rw [readInputTarget, afterPrefix?_eq_none hheader]
    dsimp only
    rw [if_neg hwhole, if_pos hstart, checkPath_of_isValid hvalid]
    rfl
  | body path =>
    obtain ⟨hvalid, hne, hmodel, hbelow⟩ := h
    have hheader : ¬"header.".toList <+: path.toList := hbelow
    have hwhole : path.toList ≠ "model".toList := fun heq => hne (String.toList_inj.mp heq)
    have hstart : ¬startsWith "model.".toList path.toList = true :=
      fun hin => hmodel (startsWith_iff.mp hin)
    show readInputTarget path.toList = _
    rw [readInputTarget, afterPrefix?_eq_none hheader]
    dsimp only
    rw [if_neg hwhole, if_neg hstart, checkPath_of_isValid hvalid]
    rfl

/-- A target of the output side is read back. -/
theorem readOutputTarget_render {allowDecision : Bool} {target : OutputTarget}
    (h : target.Regular allowDecision) :
    readOutputTarget allowDecision target.render = .ok target := by
  cases target with
  | model path =>
    obtain ⟨hvalid, hbelow⟩ := h
    have hdecision : path.toList ≠ "decision".toList := ne_of_isBelow hbelow (by decide)
    have hstart : startsWith "model.".toList path.toList = true := startsWith_iff.mpr hbelow
    show readOutputTarget allowDecision path.toList = _
    rw [readOutputTarget, if_neg hdecision, if_pos hstart, checkPath_of_isValid hvalid]
    rfl
  | output path =>
    obtain ⟨hvalid, hbelow⟩ := h
    have hdecision : path.toList ≠ "decision".toList := ne_of_isBelow hbelow (by decide)
    have hmodel : ¬"model.".toList <+: path.toList :=
      not_prefix_of_isBelow hbelow (by decide) (by decide)
    have hstart : startsWith "output.".toList path.toList = true := startsWith_iff.mpr hbelow
    show readOutputTarget allowDecision path.toList = _
    rw [readOutputTarget, if_neg hdecision, startsWith_eq_false hmodel, if_neg (by decide),
      if_pos hstart, checkPath_of_isValid hvalid]
    rfl
  | decision =>
    show readOutputTarget allowDecision "decision".toList = _
    have hallowed : allowDecision = true := h
    rw [readOutputTarget, if_pos rfl, if_pos hallowed]

/-! ## §5 Lines -/

theorem readSides_lineText {source target : List Char} (hsource : Tidy source) (hne : source ≠ [])
    (htarget : IsRightSide target) (hne' : target ≠ []) :
    readSides (lineText source target).toList =
      if source = target then .error .sameSides else .ok (source, target) := by
  have hlast : ¬arrow <:+: ' ' :: target := by
    rw [List.infix_cons_iff, not_or]
    exact ⟨by simp [arrow], htarget.1⟩
  have htext : (lineText source target).toList = (source ++ [' ']) ++ arrow ++ (' ' :: target) := by
    simp [lineText]
  have hleft : trim (source ++ [' ']) = source := (trim_concat (by decide) source).trans hsource
  have hright : trim (' ' :: target) = target := (trim_cons (by decide) target).trans htarget.2
  unfold readSides
  rw [show "->".toList = arrow from rfl, htext, cutLast_arrow hlast]
  dsimp only
  rw [hleft, hright, if_neg (by simp [hne, hne'])]

/-- A written line is read back, if its source and its target are not written alike. -/
theorem readLine_lineText {τ : Type} {side : Side} {readTarget : List Char → Except LineFault τ}
    {render : τ → List Char} {line : Line τ} (hsource : line.source.Regular side)
    (hread : readTarget (render line.target) = .ok line.target)
    (htarget : IsRightSide (render line.target)) (hne : render line.target ≠ []) :
    readLine side readTarget (lineText line.source.render (render line.target)) =
      if line.source.render = render line.target then .error .sameSides else .ok line := by
  obtain ⟨htidy, hne'⟩ := tidy_source hsource
  rw [readLine, readSides_lineText htidy hne' htarget hne]
  split
  · rfl
  · show (do let source ← readSource side line.source.render
             let target ← readTarget (render line.target)
             Except.ok (⟨source, target⟩ : Line τ)) = _
    rw [readSource_render hsource, hread]
    rfl

theorem inputTarget_ne_nil {target : InputTarget} (h : target.Regular) : target.render ≠ [] := by
  cases target with
  | header name => exact List.append_ne_nil_of_left_ne_nil (by decide) name.toList
  | model path => exact ne_nil_of_isValid h.1
  | body path => exact ne_nil_of_isValid h.1

theorem outputTarget_ne_nil {allowDecision : Bool} {target : OutputTarget}
    (h : target.Regular allowDecision) : target.render ≠ [] := by
  cases target with
  | model path => exact ne_nil_of_isValid h.1
  | output path => exact ne_nil_of_isValid h.1
  | decision => decide

/-- To read a written line gives the line, on either side of a task. The one exception is a line
whose sides are written alike: it is refused as such. -/
theorem read_lineText :
    (∀ line : Line InputTarget, line.source.Regular .input → line.target.Regular →
      IsRightSide line.target.render →
      readInput (lineText line.source.render line.target.render) =
        if line.source.render = line.target.render then .error .sameSides else .ok line) ∧
    ∀ (allowDecision : Bool) (line : Line OutputTarget), line.source.Regular .output →
      line.target.Regular allowDecision → IsRightSide line.target.render →
      readOutput allowDecision (lineText line.source.render line.target.render) =
        if line.source.render = line.target.render then .error .sameSides else .ok line := by
  refine ⟨?_, ?_⟩
  · intro line hsource htarget hright
    exact readLine_lineText hsource (readInputTarget_render htarget) hright
      (inputTarget_ne_nil htarget)
  · intro allowDecision line hsource htarget hright
    exact readLine_lineText hsource (readOutputTarget_render htarget) hright
      (outputTarget_ne_nil htarget)

/-- A call with a text that has a comma, parentheses and an arrow of its own. -/
def calling : Line InputTarget where
  source := .call "join"
    [.constant (.str "a, (b) -> c"), .path "model.user[0]", .constant (Json.ofInt64 (-7)),
      .constant (.bool true)]
  target := .header "X-Trace"

/-- A part of an element that decides what comes next. -/
def deciding : Line OutputTarget where
  source := .typed "model.total" (.substring 2 (some 5))
  target := .decision

/-- A call on the input side and a conversion on the output side. -/
theorem read_lineText_calling :
    let call := "f:join(text(a, (b) -> c), model.user[0], int(-7), boolean(true)) -> header.X-Trace"
    let choice := "model.total:substring(2,5) -> decision"
    lineText calling.source.render calling.target.render = call ∧ readInput call = .ok calling ∧
      lineText deciding.source.render deciding.target.render = choice ∧
      readOutput true choice = .ok deciding := by
  intro call choice
  have hargs : ∀ arg ∈ [Argument.constant (.str "a, (b) -> c"), .path "model.user[0]",
      .constant (Json.ofInt64 (-7)), .constant (.bool true)], arg.Regular := by
    simp only [List.forall_mem_cons, List.not_mem_nil, false_implies, implies_true, and_true]
    have hwhole : (Json.ofInt64 (-7)) = .num (.whole ⟨-7, by decide, by decide⟩) := by decide
    rw [hwhole]
    exact ⟨(by decide : Balanced _), ⟨by decide, by decide⟩, (by decide : (-7 : Int) < _), trivial⟩
  have hcall : calling.source.Regular .input := ⟨by decide, by decide, by decide, hargs⟩
  have htyped : deciding.source.Regular .output :=
    ⟨⟨by decide, ⟨_, rfl⟩, by decide⟩, by decide, by decide⟩
  have hinput := read_lineText.1 calling hcall (by decide : "X-Trace" ≠ "") (by decide)
  have houtput := read_lineText.2 true deciding htyped rfl (by decide)
  rw [if_neg (by decide)] at hinput houtput
  have hcallText : lineText calling.source.render calling.target.render = call := by
    decide +kernel
  have hchoiceText : lineText deciding.source.render deciding.target.render = choice := by
    decide +kernel
  exact ⟨hcallText, hcallText ▸ hinput, hchoiceText, hchoiceText ▸ houtput⟩

end TaskFlow.Mapping
