/-
TaskFlow.Proofs.Store.Scanner — reading paths by byte offsets.

A path can be read without building a text at all: a mark is found at its byte offset, and what
stands between two offsets is a slice of the text. Such a slice need not exist. An offset may lie
behind the end of the text or inside a character, and a slice may end before it begins; a scanner
that asks for one of these cannot go on. The scanner below never does, whatever text it is given,
and it reads what `Path.read?` reads.

  §1 Offsets — `find?`, `cutAt?` and the slices.
  §2 Scanner — `scan`; a slice that does not exist ends it without an answer.
  §3 Answers — the scanner always answers, and as the reader does.
-/
import TaskFlow.Proofs.Store.Spelling

namespace TaskFlow.Text

/-! ## §1 Offsets -/

/-- The number of bytes of a text. -/
def size : List Char → Nat
  | [] => 0
  | c :: rest => c.utf8Size + size rest

/-- The byte offset of the first occurrence of a character. -/
def find? (mark : Char) : List Char → Option Nat
  | [] => none
  | c :: rest => if c = mark then some 0 else (find? mark rest).map (c.utf8Size + ·)

/-- The text before a byte offset and the text from there on, if a character begins there or the
text ends there. -/
def cutAt? : Nat → List Char → Option (List Char × List Char)
  | 0, cs => some ([], cs)
  | _ + 1, [] => none
  | n + 1, c :: rest =>
    if n + 1 < c.utf8Size then none
    else (cutAt? (n + 1 - c.utf8Size) rest).map fun (before, after) => (c :: before, after)

/-- The slice before a byte offset. -/
def sliceTo? (stop : Nat) (cs : List Char) : Option (List Char) :=
  (cutAt? stop cs).map (·.1)

/-- The slice from a byte offset on. -/
def sliceFrom? (start : Nat) (cs : List Char) : Option (List Char) :=
  (cutAt? start cs).map (·.2)

/-- The slice between two byte offsets. -/
def slice? (start stop : Nat) (cs : List Char) : Option (List Char) :=
  if stop < start then none else (sliceTo? stop cs).bind (sliceFrom? start)

@[simp] theorem size_nil : size [] = 0 := rfl

@[simp] theorem size_cons (c : Char) (cs : List Char) : size (c :: cs) = c.utf8Size + size cs := rfl

/-- A text is as long as its two parts. -/
theorem size_append (before after : List Char) :
    size (before ++ after) = size before + size after := by
  induction before with
  | nil => simp
  | cons c rest ih => rw [List.cons_append, size_cons, size_cons, ih, Nat.add_assoc]

theorem find?_eq_none {mark : Char} {cs : List Char} (h : mark ∉ cs) : find? mark cs = none := by
  induction cs with
  | nil => rfl
  | cons c rest ih =>
    rw [List.mem_cons, not_or] at h
    rw [find?, if_neg (Ne.symm h.1), ih h.2]
    rfl

/-- A mark is found behind all that is in front of it. -/
theorem find?_append {mark : Char} {before : List Char} (h : mark ∉ before) (after : List Char) :
    find? mark (before ++ mark :: after) = some (size before) := by
  induction before with
  | nil => exact if_pos rfl
  | cons c rest ih =>
    rw [List.mem_cons, not_or] at h
    rw [List.cons_append, find?, if_neg (Ne.symm h.1), ih h.2, Option.map_some, size_cons]

/-- A text can be cut behind any beginning of it. -/
theorem cutAt?_append (before after : List Char) :
    cutAt? (size before) (before ++ after) = some (before, after) := by
  induction before with
  | nil => rw [size_nil, List.nil_append, cutAt?]
  | cons c rest ih =>
    obtain ⟨n, hn⟩ : ∃ n, size (c :: rest) = n + 1 :=
      Nat.exists_eq_add_one.mpr (by rw [size_cons]; have := c.utf8Size_pos; omega)
    have hskip : n + 1 - c.utf8Size = size rest := by rw [← hn, size_cons]; omega
    have hfits : ¬n + 1 < c.utf8Size := by rw [← hn, size_cons]; omega
    rw [hn, List.cons_append, cutAt?, if_neg hfits, hskip, ih]
    rfl

theorem sliceTo?_append (before after : List Char) :
    sliceTo? (size before) (before ++ after) = some before := by
  rw [sliceTo?, cutAt?_append]
  rfl

theorem sliceFrom?_append (before after : List Char) :
    sliceFrom? (size before) (before ++ after) = some after := by
  rw [sliceFrom?, cutAt?_append]
  rfl

/-- What is behind an offset is shorter than the text. -/
theorem length_lt_of_sliceFrom? {n : Nat} {cs rest : List Char}
    (h : sliceFrom? (n + 1) cs = some rest) : rest.length < cs.length := by
  obtain ⟨⟨before, after⟩, hcut, rfl⟩ := Option.map_eq_some_iff.mp h
  clear h
  induction cs generalizing n before with
  | nil => cases hcut
  | cons c cs ih =>
    rw [cutAt?] at hcut
    split at hcut
    · cases hcut
    · obtain ⟨⟨front, back⟩, hrest, heq⟩ := Option.map_eq_some_iff.mp hcut
      cases heq
      cases hskip : n + 1 - c.utf8Size with
      | zero =>
        rw [hskip, cutAt?] at hrest
        cases hrest
        exact Nat.lt_succ_self _
      | succ m =>
        rw [hskip] at hrest
        exact Nat.lt_succ_of_lt (ih front hrest)

end TaskFlow.Text

namespace TaskFlow.Path

open TaskFlow.Text

/-! ## §2 Scanner -/

/-- The bracketed indexes behind a key. There is no answer if a slice does not exist; the answer is
none if the text is refused. -/
def scanIndexes (rest : List Char) : Option (Option (List Nat)) :=
  if rest = [] then some (some [])
  else match find? ']' rest with
    | none => some none
    | some close =>
      if startsWith ['['] rest then
        match slice? 1 close rest with
        | none => none
        | some inside =>
          match index? inside with
          | none => some none
          | some position =>
            match _hbehind : sliceFrom? (close + 1) rest with
            | none => none
            | some behind => (scanIndexes behind).map (·.map (position :: ·))
      else some none
termination_by rest.length
decreasing_by exact length_lt_of_sliceFrom? _hbehind

/-- The segments of one part between dots. -/
def scanPart (part : List Char) : Option (Option Path) :=
  let keyEnd := (find? '[' part).getD (size part)
  match sliceTo? keyEnd part with
  | none => none
  | some name =>
    if name = [] then some none
    else match sliceFrom? keyEnd part with
      | none => none
      | some rest =>
        (scanIndexes rest).map
          (·.map fun positions => .key (String.ofList name) :: positions.map .index)

/-- The segments of all parts in order, up to the first part that is refused. -/
def scanParts : List (List Char) → Option (Option Path)
  | [] => some (some [])
  | part :: parts =>
    match scanPart part with
    | none => none
    | some none => some none
    | some (some head) => (scanParts parts).map (·.map (head ++ ·))

/-- The path that a text spells, read by byte offsets. -/
def scan (text : String) : Option (Option Path) :=
  scanParts (splitOn '.' text.toList)

/-! ## §3 Answers -/

/-- A text in brackets is the slice between them, and what is behind is the slice from there on. -/
theorem slices_of_group (inside rest : List Char) :
    slice? 1 (size ('[' :: inside)) ('[' :: (inside ++ ']' :: rest)) = some inside ∧
      sliceFrom? (size ('[' :: inside) + 1) ('[' :: (inside ++ ']' :: rest)) = some rest := by
  constructor
  · have hstop : sliceTo? (size ('[' :: inside)) ('[' :: (inside ++ ']' :: rest)) =
        some ('[' :: inside) := sliceTo?_append ('[' :: inside) (']' :: rest)
    have hstart : sliceFrom? 1 ('[' :: inside) = some inside := sliceFrom?_append ['['] inside
    have horder : ¬size ('[' :: inside) < 1 := by
      rw [size_cons, show '['.utf8Size = 1 from rfl]
      omega
    rw [slice?, if_neg horder, hstop, Option.bind_some, hstart]
  · have hsize : size ('[' :: inside) + 1 = size ('[' :: inside ++ [']']) := by
      rw [size_append]
      rfl
    rw [hsize]
    simpa using sliceFrom?_append ('[' :: (inside ++ [']'])) rest

/-- A text that does not begin with a bracket is refused, whether or not one is closed in it. -/
theorem scanIndexes_of_ne {c : Char} (h : c ≠ '[') (cs : List Char) :
    scanIndexes (c :: cs) = some none := by
  have hstart : startsWith ['['] (c :: cs) = false :=
    startsWith_eq_false fun hprefix => h (List.cons_prefix_cons.mp hprefix).1.symm
  rw [scanIndexes, if_neg (List.cons_ne_nil c cs), hstart]
  cases find? ']' (c :: cs) <;> rfl

/-- A bracket that is not closed is refused. -/
theorem scanIndexes_of_not_mem {cs : List Char} (h : ']' ∉ cs) :
    scanIndexes ('[' :: cs) = some none := by
  have hfind : find? ']' ('[' :: cs) = none := find?_eq_none (by simpa using h)
  rw [scanIndexes, if_neg (List.cons_ne_nil _ cs), hfind]

/-- A group is scanned, and then what is behind it. -/
theorem scanIndexes_group {inside : List Char} (h : ']' ∉ inside) (behind : List Char) :
    scanIndexes ('[' :: (inside ++ ']' :: behind)) =
      match index? inside with
      | none => some none
      | some position => (scanIndexes behind).map (·.map (position :: ·)) := by
  have hinside : ']' ∉ '[' :: inside := by simpa using h
  have hfind : find? ']' ('[' :: (inside ++ ']' :: behind)) = some (size ('[' :: inside)) :=
    find?_append hinside behind
  have hstart : startsWith ['['] ('[' :: (inside ++ ']' :: behind)) = true := rfl
  obtain ⟨hslice, hbehind⟩ := slices_of_group inside behind
  rw [scanIndexes, if_neg (List.cons_ne_nil _ _), hfind]
  dsimp only
  rw [if_pos hstart, hslice]
  dsimp only
  cases index? inside with
  | none => rfl
  | some position =>
    dsimp only
    split
    · next hnone => cases hnone.symm.trans hbehind
    · next hsome => cases hsome.symm.trans hbehind; rfl

theorem scanIndexes_eq (rest : List Char) : scanIndexes rest = some (readIndexes none rest) := by
  induction hlength : rest.length using Nat.strongRecOn generalizing rest with
  | _ length ih =>
  cases rest with
  | nil => rw [scanIndexes, if_pos rfl, readIndexes]; rfl
  | cons c cs =>
    by_cases hc : c = '['
    · subst hc
      rw [readIndexes_open]
      cases hcut : cutFirst ']' cs with
      | none => rw [scanIndexes_of_not_mem (cutFirst_eq_none_iff.mp hcut)]; rfl
      | some cut =>
        obtain ⟨inside, behind⟩ := cut
        obtain ⟨rfl, hinside⟩ := eq_append_of_cutFirst hcut
        have hshorter : behind.length < length := by
          simp only [List.length_cons, List.length_append] at hlength
          omega
        rw [scanIndexes_group hinside, ih behind.length hshorter behind rfl]
        cases hindex : index? inside with
        | none => simp [hindex]
        | some position => simp [hindex]
    · rw [scanIndexes_of_ne hc, readIndexes_eq_none hc]

theorem find?_bracket {name groups : List Char} (hplain : '[' ∉ name)
    (hhead : ∀ c ∈ groups.head?, c = '[') :
    (find? '[' (name ++ groups)).getD (size (name ++ groups)) = size name := by
  cases groups with
  | nil => rw [List.append_nil, find?_eq_none hplain, Option.getD_none]
  | cons c rest =>
    obtain rfl : c = '[' := hhead c rfl
    rw [find?_append hplain, Option.getD_some]

/-- The key of a part ends where the scanner finds a bracket, or with the part. -/
theorem scanPart_eq (part : List Char) : scanPart part = some (readPart part) := by
  obtain ⟨name, groups, rfl, hplain, hhead⟩ := exists_span part
  rw [readPart_append hplain hhead, scanPart, find?_bracket hplain hhead, sliceTo?_append]
  dsimp only
  split
  · rfl
  · rw [sliceFrom?_append]
    dsimp only
    rw [scanIndexes_eq, Option.map_some]

theorem scanParts_eq (parts : List (List Char)) : scanParts parts = some (readParts parts) := by
  induction parts with
  | nil => rfl
  | cons part parts ih =>
    rw [scanParts, scanPart_eq, readParts]
    cases readPart part with
    | none => rfl
    | some head =>
      dsimp only
      rw [ih]
      cases readParts parts <;> rfl

/-- The scanner answers for every text, and as the reader does. -/
theorem scan_eq (text : String) : scan text = some (read? text) :=
  scanParts_eq _

/-- A text is read as a path if and only if it spells that path, no slice that is asked for on the
way is missing, and the text of a path is read as that path. -/
theorem read?_exact (text : String) (path : Path) :
    (read? text = some path ↔ Spells text.toList path) ∧
    scan text = some (read? text) ∧
    ((∃ name rest, path = .key name :: rest) → (∀ segment ∈ path, Printable segment) →
      read? (String.ofList (print path)) = some path) := by
  refine ⟨read?_eq_some_iff, scan_eq text, ?_⟩
  rintro ⟨name, rest, rfl⟩ hprintable
  rw [read?_eq_some_iff, String.toList_ofList]
  exact spells_print hprintable

/-- The item of an order, with a key that no program would choose. -/
theorem read?_exact_item :
    read? (String.ofList (print [.key "orders]", .index 2, .index 0, .key " id"])) =
      some [.key "orders]", .index 2, .index 0, .key " id"] :=
  (read?_exact "orders][2][0]. id" _).2.2 ⟨_, _, rfl⟩ (by decide)

/-- Blanks and a plus sign are accepted around an index, and what is behind a bracket is not. -/
example : scan "rows[ +7 ]" = some (some [.key "rows", .index 7]) ∧
    scan "rows[7]x" = some none ∧ scan "rows]7[" = some none := by
  simp only [scan_eq]
  decide

end TaskFlow.Path
