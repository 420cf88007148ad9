/-
TaskFlow.Proofs.Store.Spelling — which texts spell which paths.

The texts are those of a grammar: parts with a dot between each two, every part a key with any
number of indexes in brackets behind it. The reader goes through a text character by character; here
it is shown to find the pieces that the grammar puts together, in every text that has them.

  §1 Grammar  — `IndexText`, `GroupsText`, `PartText`, `Spells`.
  §2 Indexes  — what stands between brackets.
  §3 Parts    — what stands between dots.
  §4 Texts    — `read?_eq_some_iff`.
  §5 Printing — the text of a path spells it.
-/
import TaskFlow.Proofs.Store.Space
import TaskFlow.Proofs.Text.Numeral

namespace TaskFlow

open TaskFlow.Text

namespace Path

/-! ## §1 Grammar -/

/-- A text between brackets and the index that it stands for: at least one digit, perhaps a plus
sign in front, and blanks around them. -/
inductive IndexText : List Char → Nat → Prop
  | intro {front plus digits back : List Char} (hfront : ∀ c ∈ front, isBlank c = true)
      (hplus : plus = [] ∨ plus = ['+']) (hne : digits ≠ [])
      (hdigits : ∀ c ∈ digits, isDigit c = true) (hback : ∀ c ∈ back, isBlank c = true)
      (hbound : decimal digits < wordBound) :
      IndexText (front ++ (plus ++ digits) ++ back) (decimal digits)

/-- Any number of indexes, each in brackets. -/
inductive GroupsText : List Char → List Nat → Prop
  | nil : GroupsText [] []
  | cons {inside rest : List Char} {position : Nat} {others : List Nat}
      (hindex : IndexText inside position) (hrest : GroupsText rest others) :
      GroupsText ('[' :: (inside ++ ']' :: rest)) (position :: others)

/-- A key with indexes behind it. -/
inductive PartText : List Char → Path → Prop
  | intro {name groups : List Char} {positions : List Nat} (hne : name ≠ []) (hplain : '[' ∉ name)
      (hgroups : GroupsText groups positions) :
      PartText (name ++ groups) (.key (String.ofList name) :: positions.map .index)

/-- Parts with a dot between each two. -/
inductive Spells : List Char → Path → Prop
  | last {part : List Char} {path : Path} (hdot : '.' ∉ part) (hpart : PartText part path) :
      Spells part path
  | cons {part rest : List Char} {path tail : Path} (hdot : '.' ∉ part)
      (hpart : PartText part path) (hrest : Spells rest tail) :
      Spells (part ++ '.' :: rest) (path ++ tail)

/-! ## §2 Indexes -/

theorem IndexText.not_mem {inside : List Char} {position : Nat} (h : IndexText inside position)
    {mark : Char} (hblank : isBlank mark = false) (hplus : mark ≠ '+')
    (hdigit : isDigit mark = false) : mark ∉ inside := by
  obtain ⟨hfront, hsign, -, hdigits, hback, -⟩ := h
  have hnoblank : ∀ cs : List Char, (∀ c ∈ cs, isBlank c = true) → mark ∉ cs := by
    intro cs hcs hmem
    rw [hcs mark hmem] at hblank
    cases hblank
  simp only [List.mem_append, not_or]
  refine ⟨⟨hnoblank _ hfront, ?_, fun hmem => ne_of_isDigit (hdigits _ hmem) hdigit rfl⟩,
    hnoblank _ hback⟩
  rcases hsign with rfl | rfl
  · exact List.not_mem_nil
  · exact fun hmem => hplus (List.mem_singleton.mp hmem)

theorem index?_eq_some_iff {inside : List Char} {position : Nat} :
    index? inside = some position ↔ IndexText inside position := by
  constructor
  · intro h
    obtain ⟨plus, digits, htrim, hplus, hnatural, hbound⟩ := unsigned?_eq_some_iff.mp h
    obtain ⟨hne, hdigits, rfl⟩ := natural?_eq_some_iff.mp hnatural
    obtain ⟨front, back, hfront, hback, hinside⟩ := exists_padded inside
    rw [hinside, htrim]
    exact .intro hfront hplus hne hdigits hback hbound
  · rintro ⟨hfront, hplus, hne, hdigits, hback, hbound⟩
    next front plus digits back =>
    have htidy : Tidy (plus ++ digits) := by
      refine tidy_of_forall fun c hc => ?_
      rcases List.mem_append.mp hc with hmem | hmem
      · rcases hplus with rfl | rfl
        · cases hmem
        · rw [List.mem_singleton.mp hmem]
          decide
      · exact isBlank_of_isDigit (hdigits c hmem)
    rw [index?, trim_padded hfront hback, htidy]
    exact unsigned?_eq_some_iff.mpr
      ⟨plus, digits, rfl, hplus, natural?_eq_some_iff.mpr ⟨hne, hdigits, rfl⟩, hbound⟩

/-- Inside a bracket, all up to the first closing one is the text of an index. -/
theorem readIndexes_inside (read cs : List Char) :
    readIndexes (some read) cs = (cutFirst ']' cs).bind fun cut =>
      (index? (read.reverse ++ cut.1)).bind fun position =>
        (readIndexes none cut.2).map (position :: ·) := by
  induction cs generalizing read with
  | nil => rfl
  | cons c rest ih =>
    by_cases hc : c = ']'
    · rw [readIndexes, if_pos hc, cutFirst, if_pos hc, Option.bind_some, List.append_nil]
      cases index? read.reverse with
      | none => rfl
      | some position => cases readIndexes none rest <;> rfl
    · rw [readIndexes, if_neg hc, ih, cutFirst, if_neg hc]
      cases cutFirst ']' rest <;> simp

/-- Brackets are opened where none is open. -/
theorem readIndexes_open (cs : List Char) :
    readIndexes none ('[' :: cs) = (cutFirst ']' cs).bind fun cut =>
      (index? cut.1).bind fun position => (readIndexes none cut.2).map (position :: ·) := by
  rw [readIndexes, if_pos rfl, readIndexes_inside]
  rfl

theorem readIndexes_eq_none {c : Char} (h : c ≠ '[') (cs : List Char) :
    readIndexes none (c :: cs) = none := by
  rw [readIndexes, if_neg h]

theorem readIndexes_eq_some_iff {cs : List Char} {positions : List Nat} :
    readIndexes none cs = some positions ↔ GroupsText cs positions := by
  constructor
  · intro h
    -- a group is cut off, and what is behind it is shorter
    induction hlength : cs.length using Nat.strongRecOn generalizing cs positions with
    | _ length ih =>
    cases cs with
    | nil =>
      cases h
      exact .nil
    | cons c cs =>
      by_cases hc : c = '['
      · subst hc
        rw [readIndexes_open] at h
        obtain ⟨⟨inside, rest⟩, hcut, hindex⟩ := Option.bind_eq_some_iff.mp h
        obtain ⟨position, hposition, hothers⟩ := Option.bind_eq_some_iff.mp hindex
        obtain ⟨others, hrest, rfl⟩ := Option.map_eq_some_iff.mp hothers
        obtain ⟨rfl, -⟩ := eq_append_of_cutFirst hcut
        refine .cons (index?_eq_some_iff.mp hposition) (ih rest.length ?_ hrest rfl)
        simp only [List.length_cons, List.length_append] at hlength
        omega
      · rw [readIndexes_eq_none hc] at h
        cases h
  · intro h
    induction h with
    | nil => rfl
    | cons hindex _ ih =>
      rw [readIndexes_open,
        cutFirst_append (hindex.not_mem (by decide) (by decide) (by decide)), Option.bind_some,
        index?_eq_some_iff.mpr hindex, Option.bind_some, ih]
      rfl

theorem GroupsText.append {cs cs' : List Char} {positions positions' : List Nat}
    (h : GroupsText cs positions) (h' : GroupsText cs' positions') :
    GroupsText (cs ++ cs') (positions ++ positions') := by
  induction h with
  | nil => exact h'
  | cons hindex _ ih =>
    rw [List.cons_append, List.append_assoc]
    exact .cons hindex ih

/-! ## §3 Parts -/

theorem GroupsText.head_eq {groups : List Char} {positions : List Nat}
    (h : GroupsText groups positions) : ∀ c ∈ groups.head?, c = '[' := by
  cases h <;> simp

/-- Every part is cut into a key and what begins with the first bracket. -/
theorem exists_span (part : List Char) : ∃ name groups, part = name ++ groups ∧ '[' ∉ name ∧
    ∀ c ∈ groups.head?, c = '[' := by
  cases hcut : cutFirst '[' part with
  | none =>
    exact ⟨part, [], (List.append_nil part).symm, cutFirst_eq_none_iff.mp hcut, by simp⟩
  | some cut =>
    obtain ⟨name, after⟩ := cut
    obtain ⟨rfl, hplain⟩ := eq_append_of_cutFirst hcut
    exact ⟨name, '[' :: after, rfl, hplain, by simp⟩

theorem readPart_eq_some_iff {part : List Char} {path : Path} :
    readPart part = some path ↔ PartText part path := by
  constructor
  · intro h
    obtain ⟨name, groups, rfl, hplain, hhead⟩ := exists_span part
    rw [readPart_append hplain hhead] at h
    split at h
    · cases h
    · next hne =>
      obtain ⟨positions, hgroups, rfl⟩ := Option.map_eq_some_iff.mp h
      exact .intro hne hplain (readIndexes_eq_some_iff.mp hgroups)
  · rintro ⟨hne, hplain, hgroups⟩
    rw [readPart_append hplain hgroups.head_eq, if_neg hne, readIndexes_eq_some_iff.mpr hgroups]
    rfl

/-! ## §4 Texts -/

theorem readParts_eq_some_iff {cs : List Char} {path : Path} :
    readParts (splitOn '.' cs) = some path ↔ Spells cs path := by
  constructor
  · intro h
    cases hparts : splitOn '.' cs with
    | nil => exact absurd hparts (splitOn_ne_nil '.' cs)
    | cons part parts =>
      rw [hparts] at h
      induction parts generalizing cs part path with
      | nil =>
        obtain ⟨hdot, ⟨rfl, -⟩ | ⟨after, -, hafter⟩⟩ := splitOn_eq_cons hparts
        · obtain ⟨head, hhead, htail⟩ := Option.bind_eq_some_iff.mp h
          cases htail
          rw [List.append_nil]
          exact .last hdot (readPart_eq_some_iff.mp hhead)
        · exact absurd hafter (splitOn_ne_nil '.' after)
      | cons next parts ih =>
        obtain ⟨hdot, ⟨-, hnil⟩ | ⟨after, rfl, hafter⟩⟩ := splitOn_eq_cons hparts
        · cases hnil
        · obtain ⟨head, hhead, hrest⟩ := Option.bind_eq_some_iff.mp h
          obtain ⟨tail, htail, heq⟩ := Option.bind_eq_some_iff.mp hrest
          cases heq
          exact .cons hdot (readPart_eq_some_iff.mp hhead) (ih next htail hafter)
  · intro h
    induction h with
    | last hdot hpart =>
      rw [splitOn_of_not_mem hdot, readParts, readPart_eq_some_iff.mpr hpart]
      simp [readParts]
    | cons hdot hpart _ ih =>
      rw [splitOn_append_mark hdot, readParts, readPart_eq_some_iff.mpr hpart, ih]
      rfl

/-- A text is read as a path if and only if it spells that path. -/
theorem read?_eq_some_iff {text : String} {path : Path} :
    read? text = some path ↔ Spells text.toList path :=
  readParts_eq_some_iff

/-! ## §5 Printing -/

/-- What a segment must be like for its text to be read back: a key is not empty and has neither
dots nor opening brackets in it, and an index is a word. -/
def Printable : Segment → Prop
  | .key name => name.toList ≠ [] ∧ '.' ∉ name.toList ∧ '[' ∉ name.toList
  | .index position => position < wordBound

instance : DecidablePred Printable
  | .key _ => inferInstanceAs (Decidable (_ ∧ _ ∧ _))
  | .index _ => inferInstanceAs (Decidable (_ < _))

theorem indexText_ofNat {position : Nat} (h : position < wordBound) :
    IndexText (ofNat position) position := by
  rw [← index?_eq_some_iff, index?, tidy_ofNat]
  exact unsigned?_ofNat h

theorem PartText.key {name : String} (hne : name.toList ≠ []) (hplain : '[' ∉ name.toList) :
    PartText name.toList [.key name] := by
  have hpart := PartText.intro hne hplain .nil
  rwa [List.append_nil, String.ofList_toList] at hpart

/-- A part may be given one more index. -/
theorem PartText.concat {part : List Char} {path : Path} {position : Nat}
    (h : PartText part path) (hbound : position < wordBound) :
    PartText (part ++ '[' :: (ofNat position ++ [']'])) (path ++ [.index position]) := by
  obtain ⟨hne, hplain, hgroups⟩ := h
  have hgroup := hgroups.append (.cons (indexText_ofNat hbound) .nil)
  have hpart := PartText.intro hne hplain hgroup
  rwa [List.map_append, ← List.cons_append, ← List.append_assoc] at hpart

/-- What is printed behind a part, indexes of that part first, spells what it was printed for. -/
theorem spells_printTail {part : List Char} {head rest : Path} (hdot : '.' ∉ part)
    (hpart : PartText part head) (hrest : ∀ segment ∈ rest, Printable segment) :
    Spells (part ++ printTail rest) (head ++ rest) := by
  induction rest generalizing part head with
  | nil =>
    rw [printTail, List.append_nil, List.append_nil]
    exact .last hdot hpart
  | cons segment rest ih =>
    obtain ⟨hsegment, hbehind⟩ := List.forall_mem_cons.mp hrest
    cases segment with
    | key name =>
      obtain ⟨hne, hdot', hplain⟩ := hsegment
      exact .cons hdot hpart (ih hdot' (.key hne hplain) hbehind)
    | index position =>
      have hgroup : '.' ∉ '[' :: (ofNat position ++ [']']) := by
        simp [not_mem_ofNat (by decide : isDigit '.' = false) position]
      have hspells := ih (List.mem_append.not.mpr (not_or.mpr ⟨hdot, hgroup⟩))
        (hpart.concat hsegment) hbehind
      simpa [printTail] using hspells

/-- The text of a path that starts with a key spells it. -/
theorem spells_print {name : String} {rest : Path}
    (h : ∀ segment ∈ Segment.key name :: rest, Printable segment) :
    Spells (print (.key name :: rest)) (.key name :: rest) := by
  obtain ⟨⟨hne, hdot, hplain⟩, hrest⟩ := List.forall_mem_cons.mp h
  exact spells_printTail hdot (.key hne hplain) hrest

end Path

end TaskFlow
