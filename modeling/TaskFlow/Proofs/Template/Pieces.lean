/-
TaskFlow.Proofs.Template.Pieces — a text is filled piece by piece.

Filling goes through a text once and never looks at what it gives for a reference. So the text
alone tells the pieces (`IsCut`): wherever a pair of braces stands around a text without braces, it
is a reference, and every other character is a piece of its own, also a brace that is nested, stray
or never closed. A text has exactly one cut into such pieces, and filling replaces its references,
each for itself.

  §1 Pieces    — `Piece`, `IsCut`; a text has one cut at most.
  §2 Cutting   — every text has a cut.
  §3 Filling   — the scanner along the cut.
  §4 The model — what a reference to the model is replaced by; `expand_pieces`.
-/
import TaskFlow.Proofs.Template.Scan

namespace TaskFlow.Template

open TaskFlow.Text

variable {resolve : List Char → Option (List Char)} {content rest text : List Char}

/-! ## §1 Pieces -/

/-- A piece of a text: a character that is copied, or a reference. -/
inductive Piece where
  | copied (c : Char)
  | reference (content : List Char)

/-- The text of a piece. -/
def Piece.source : Piece → List Char
  | .copied c => [c]
  | .reference content => '\x7b' :: (content ++ ['\x7d'])

/-- What a piece is replaced by. -/
def Piece.filled (resolve : List Char → Option (List Char)) : Piece → List Char
  | .copied c => [c]
  | .reference content => (resolve content).getD (source (.reference content))

/-- The pieces spell the text. Their references hold no braces, and every pair of braces around a
text without braces is one of them, at its place. -/
structure IsCut (text : List Char) (pieces : List Piece) : Prop where
  spelt : pieces.flatMap Piece.source = text
  braceless : ∀ content, .reference content ∈ pieces → Braceless content
  complete : ∀ before content after, Braceless content →
    text = before ++ Piece.source (.reference content) ++ after →
    ∃ front back, pieces = front ++ .reference content :: back ∧
      front.flatMap Piece.source = before ∧ back.flatMap Piece.source = after

theorem Piece.source_ne_nil (piece : Piece) : piece.source ≠ [] := by
  cases piece <;> simp [source]

section

variable {piece : Piece} {pieces others : List Piece}

/-- Behind its first piece, a cut is the cut of what is left of the text. -/
theorem IsCut.tail (h : IsCut text (piece :: pieces)) :
    IsCut (pieces.flatMap Piece.source) pieces := by
  refine ⟨rfl, fun content hmem => h.braceless content (List.mem_cons_of_mem _ hmem), ?_⟩
  intro before content after hcontent htext
  obtain ⟨front, back, hpieces, hfront, hback⟩ :=
    h.complete (piece.source ++ before) content after hcontent (by simp [← h.spelt, htext])
  cases front with
  | nil =>
    have hnil : piece.source = [] := (List.append_eq_nil_iff.mp hfront.symm).1
    exact absurd hnil piece.source_ne_nil
  | cons first front =>
    obtain ⟨rfl, hrest⟩ := List.cons.inj hpieces
    exact ⟨front, back, hrest, List.append_cancel_left hfront, hback⟩

/-- A reference at the head of the text is the first piece. -/
theorem IsCut.head_eq (h : IsCut text (piece :: pieces)) (hcontent : Braceless content)
    (htext : text = Piece.source (.reference content) ++ rest) : piece = .reference content := by
  obtain ⟨front, back, hpieces, hfront, -⟩ := h.complete [] content rest hcontent (by simp [htext])
  cases front with
  | nil => exact (List.cons.inj hpieces).1
  | cons first front =>
    have hnil : first.source = [] := (List.append_eq_nil_iff.mp hfront).1
    exact absurd hnil first.source_ne_nil

theorem IsCut.eq_nil (h : IsCut [] pieces) : pieces = [] := by
  cases pieces with
  | nil => rfl
  | cons piece pieces =>
    have hnil : piece.source = [] := (List.append_eq_nil_iff.mp h.spelt).1
    exact absurd hnil piece.source_ne_nil

/-- A text has one cut at most. -/
theorem IsCut.unique (h : IsCut text pieces) (hother : IsCut text others) : others = pieces := by
  induction pieces generalizing text others with
  | nil =>
    rw [← h.spelt] at hother
    exact hother.eq_nil
  | cons piece pieces ih =>
    cases others with
    | nil =>
      rw [← hother.spelt] at h
      exact h.eq_nil.symm
    | cons other others =>
      have hhead : other = piece := by
        cases piece with
        | reference content =>
          exact hother.head_eq (h.braceless content List.mem_cons_self) h.spelt.symm
        | copied c =>
          cases other with
          | reference content =>
            exact (h.head_eq (hother.braceless content List.mem_cons_self) hother.spelt.symm).symm
          | copied d =>
            have hchar := hother.spelt.trans h.spelt.symm
            simp only [List.flatMap_cons, Piece.source, List.singleton_append] at hchar
            rw [(List.cons.inj hchar).1]
      subst hhead
      have htext : others.flatMap Piece.source = pieces.flatMap Piece.source :=
        List.append_cancel_left (hother.spelt.trans h.spelt.symm)
      have hothers := hother.tail
      rw [htext] at hothers
      rw [ih h.tail hothers]

/-! ## §2 Cutting -/

theorem isCut_nil : IsCut [] [] := by
  refine ⟨rfl, by simp, fun before content after _ htext => ?_⟩
  simp [Piece.source] at htext

/-- Where no reference starts, the first character is copied. -/
theorem IsCut.copied {c : Char} (h : IsCut rest pieces)
    (hstart : ∀ content after, Braceless content →
      c :: rest ≠ Piece.source (.reference content) ++ after) :
    IsCut (c :: rest) (.copied c :: pieces) := by
  refine ⟨by simp [Piece.source, h.spelt], by simpa using h.braceless, ?_⟩
  intro before content after hcontent htext
  cases before with
  | nil => exact absurd htext (hstart content after hcontent)
  | cons d before =>
    simp only [List.cons_append, List.cons.injEq] at htext
    obtain ⟨rfl, hrest⟩ := htext
    obtain ⟨front, back, rfl, hfront, hback⟩ := h.complete before content after hcontent hrest
    exact ⟨.copied c :: front, back, rfl, by simp [Piece.source, hfront], hback⟩

/-- A reference stands behind another one, or both are the same. -/
theorem reference_append_eq {before other after : List Char} (hcontent : Braceless content)
    (hother : Braceless other)
    (h : Piece.source (.reference content) ++ rest =
      before ++ Piece.source (.reference other) ++ after) :
    (before = [] ∧ other = content) ∨
      ∃ between, before = Piece.source (.reference content) ++ between ∧
        rest = between ++ Piece.source (.reference other) ++ after := by
  simp only [Piece.source, List.cons_append, List.append_assoc, List.nil_append] at h ⊢
  cases before with
  | nil =>
    have hcut := cutFirst_append hcontent.2 rest
    rw [(List.cons.inj h).2, cutFirst_append hother.2 after] at hcut
    exact Or.inl ⟨rfl, congrArg Prod.fst (Option.some.inj hcut)⟩
  | cons c before =>
    obtain ⟨rfl, hrest⟩ := List.cons.inj h
    -- the second open brace is not in the content of the first reference, so it is behind it
    rcases List.append_eq_append_iff.mp hrest with ⟨between, rfl, hbetween⟩ | ⟨inner, rfl, hinner⟩
    · cases between with
      | nil => simp at hbetween
      | cons d between =>
        obtain ⟨rfl, hbehind⟩ := List.cons.inj hbetween
        exact Or.inr ⟨between, rfl, hbehind⟩
    · cases inner with
      | nil => simp at hinner
      | cons d inner =>
        obtain ⟨rfl, -⟩ := List.cons.inj hinner
        exact absurd (by simp) hcontent.1

theorem IsCut.reference (hcontent : Braceless content) (h : IsCut rest pieces) :
    IsCut (Piece.source (.reference content) ++ rest) (.reference content :: pieces) := by
  refine ⟨by simp [h.spelt], ?_, ?_⟩
  · intro other hmem
    rcases List.mem_cons.mp hmem with heq | hmem
    · cases heq
      exact hcontent
    · exact h.braceless other hmem
  · intro before other after hother htext
    rcases reference_append_eq hcontent hother htext with ⟨rfl, rfl⟩ | ⟨between, rfl, hrest⟩
    · have hafter : rest = after := by simpa using htext
      exact ⟨[], pieces, rfl, rfl, h.spelt.trans hafter⟩
    · obtain ⟨front, back, rfl, hfront, hback⟩ := h.complete between other after hother hrest
      exact ⟨.reference content :: front, back, rfl, by simp [hfront], hback⟩

/-- Every text has a cut. -/
theorem exists_isCut (text : List Char) : ∃ pieces, IsCut text pieces := by
  induction hlength : text.length using Nat.strong_induction_on generalizing text with
  | _ n ih =>
    by_cases hstart : ∃ content rest, Braceless content ∧
        text = Piece.source (.reference content) ++ rest
    · obtain ⟨content, rest, hcontent, rfl⟩ := hstart
      have hshorter : rest.length < n := by
        simp [Piece.source] at hlength
        omega
      obtain ⟨pieces, hpieces⟩ := ih rest.length hshorter rest rfl
      exact ⟨_, hpieces.reference hcontent⟩
    · cases text with
      | nil => exact ⟨[], isCut_nil⟩
      | cons c rest =>
        obtain ⟨pieces, hpieces⟩ := ih rest.length (by simp [← hlength]) rest rfl
        exact ⟨_, hpieces.copied fun content after hcontent heq =>
          hstart ⟨content, after, hcontent, heq⟩⟩

/-! ## §3 Filling -/

/-- A brace that is not closed is copied, and so is all that was read since. -/
theorem scan_unclosed (h : ∀ content after, Braceless content → rest ≠ content ++ '\x7d' :: after)
    (read : List Char) :
    scan resolve (some read) rest = unread (some read) ++ scan resolve none rest := by
  induction rest generalizing read with
  | nil => simp [scan, unread]
  | cons c rest ih =>
    by_cases hopen : c = '\x7b'
    · rw [hopen, scan_open, scan_open]
      rfl
    · have hclose : c ≠ '\x7d' := by
        rintro rfl
        exact h [] rest (by simp [Braceless]) rfl
      have hrest : ∀ content after, Braceless content → rest ≠ content ++ '\x7d' :: after := by
        rintro content after hcontent rfl
        refine h (c :: content) after ?_ rfl
        simpa [Braceless, Ne.symm hopen, Ne.symm hclose] using hcontent
      rw [scan_inside hopen hclose, ih hrest, scan_outside hopen]
      simp [unread]

/-- The scanner goes from piece to piece. -/
theorem scan_eq_flatMap (h : IsCut text pieces) :
    scan resolve none text = pieces.flatMap (Piece.filled resolve) := by
  induction pieces generalizing text with
  | nil =>
    rw [← h.spelt]
    rfl
  | cons piece pieces ih =>
    have hrest := ih h.tail
    have htext : text = piece.source ++ pieces.flatMap Piece.source := by simp [← h.spelt]
    rw [List.flatMap_cons, ← hrest, htext]
    cases piece with
    | reference content =>
      rw [Piece.source, List.cons_append, List.append_assoc, List.singleton_append,
        scan_reference (h.braceless content List.mem_cons_self)]
      rfl
    | copied c =>
      rw [Piece.source, List.singleton_append, Piece.filled, List.singleton_append]
      by_cases hopen : c = '\x7b'
      · subst hopen
        -- no reference starts here, or it would be the first piece
        have hunclosed : ∀ content after, Braceless content →
            pieces.flatMap Piece.source ≠ content ++ '\x7d' :: after := by
          intro content after hcontent heq
          have hstart : text = Piece.source (.reference content) ++ after := by
            simp [htext, Piece.source, heq]
          have hhead := h.head_eq hcontent hstart
          cases hhead
        rw [scan_open, scan_unclosed hunclosed]
        rfl
      · exact scan_outside hopen _

end

/-! ## §4 The model -/

/-- The element of the model that a reference names: its content starts with `model.`, spells a
path, and leads to an element that is not null. -/
structure Names (s : Store) (content : List Char) (v : Json) : Prop where
  inModel : modelStart <+: content
  isPath : Path.isValid (String.ofList content) = true
  element : s.get? (String.ofList content) = some v
  ne_null : v ≠ .null

/-- The text that stands for an element: a string stands for itself, anything else for its compact
JSON text. -/
inductive TextOf : Json → List Char → Prop
  | string (x : String) : TextOf (.str x) x.toList
  | other {v : Json} (h : ∀ x, v ≠ .str x) : TextOf v v.print

theorem textOf_iff {v : Json} (hnull : v ≠ .null) {replacement : List Char} :
    TextOf v replacement ↔ (textOf v).toList = replacement := by
  constructor
  · rintro (x | h)
    · rfl
    · cases v with
      | null => exact absurd rfl hnull
      | str x => exact absurd rfl (h x)
      | _ => simp [textOf, Json.text]
  · rintro rfl
    cases v with
    | null => exact absurd rfl hnull
    | str x => exact .string x
    | _ =>
      simp only [textOf, Json.text, String.toList_ofList]
      exact .other (by rintro x ⟨⟩)

/-- A reference is replaced by the text of the element that it names, and only if it names one. -/
theorem modelText?_eq_some_iff {s : Store} {replacement : List Char} :
    modelText? s content = some replacement ↔ ∃ v, Names s content v ∧ TextOf v replacement := by
  unfold modelText?
  constructor
  · intro h
    split at h
    · next hstart =>
      split at h
      · cases h
      · cases h
      · next v hnull hget =>
        obtain ⟨path, hpath, -⟩ := Option.bind_eq_some_iff.mp hget
        have hnames : Names s content v :=
          ⟨startsWith_iff.mp hstart, by simp [Path.isValid, hpath], hget, fun e => hnull (e ▸ rfl)⟩
        exact ⟨v, hnames, (textOf_iff hnames.ne_null).mpr (Option.some.inj h)⟩
    · cases h
  · rintro ⟨v, hnames, htext⟩
    rw [if_pos (startsWith_iff.mpr hnames.inModel), hnames.element,
      ← (textOf_iff hnames.ne_null).mp htext]
    have hnull := hnames.ne_null
    cases v <;> first | rfl | exact absurd rfl hnull

/-- Expansion is one pass over the pieces of a text, and it ends on every text. The text alone tells
its pieces, the same ones for every state: the references are the pairs of braces around texts
without braces, and any other character is copied. A reference is replaced exactly if it names an
element of the model, by the text of that element; otherwise it is copied as it stands. -/
theorem expand_pieces (text : String) :
    ∃ pieces, IsCut text.toList pieces ∧ (∀ others, IsCut text.toList others → others = pieces) ∧
      ∀ s : Store,
        (expand s text).toList = pieces.flatMap (Piece.filled (modelText? s)) ∧
          ∀ content replacement, modelText? s content = some replacement ↔
            ∃ v, Names s content v ∧ TextOf v replacement := by
  obtain ⟨pieces, hpieces⟩ := exists_isCut text.toList
  refine ⟨pieces, hpieces, fun others => hpieces.unique, fun s => ⟨?_, ?_⟩⟩
  · rw [expand, String.toList_ofList, fill_eq_scan, scan_eq_flatMap hpieces]
  · exact fun content replacement => modelText?_eq_some_iff

/-- What is put in is not read again, and an open brace is copied. -/
example :
    let s : Store := ⟨.obj [("model", .obj [("a", .str "\x7bmodel.b\x7d"), ("b", .str "deep")])]⟩
    expand s "\x7bx.\x7bmodel.a\x7d" = "\x7bx.\x7bmodel.b\x7d" := by
  decide +kernel

end TaskFlow.Template
