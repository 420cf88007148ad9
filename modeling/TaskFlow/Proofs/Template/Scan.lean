/-
TaskFlow.Proofs.Template.Scan — filling a text as a scan, character by character.

`fill` jumps from brace to brace and starts again at the innermost open one. It gives what a scanner
gives that goes through the text once and holds what it has read since the last open brace
(`fill_eq_scan`). Unlike the jumps, the scanner can be followed by induction on the text.

  §1 The scanner — `scan`, and what it does with one character.
  §2 Spans       — what it does with a text that lacks one of the braces.
  §3 Filling     — `fill` gives the same.
-/
import TaskFlow.Proofs.Text.Cuts
import TaskFlow.Template

namespace TaskFlow.Template

open TaskFlow.Text

variable {resolve : List Char → Option (List Char)} {content front text : List Char}

/-! ## §1 The scanner -/

/-- The text of an open brace and what was read after it, last character first. -/
def unread : Option (List Char) → List Char
  | none => []
  | some content => '\x7b' :: content.reverse

/-- The text with each reference replaced that `resolve` knows. `pending` holds what was read since
the last open brace, last character first. -/
def scan (resolve : List Char → Option (List Char)) (pending : Option (List Char)) :
    List Char → List Char
  | [] => unread pending
  | c :: rest =>
    if c = '\x7b' then unread pending ++ scan resolve (some []) rest
    else match pending with
      | none => c :: scan resolve none rest
      | some content =>
        if c = '\x7d' then
          (resolve content.reverse).getD (unread (some content) ++ ['\x7d'])
            ++ scan resolve none rest
        else scan resolve (some (c :: content)) rest

theorem scan_open (pending : Option (List Char)) (rest : List Char) :
    scan resolve pending ('\x7b' :: rest) = unread pending ++ scan resolve (some []) rest := by
  cases pending <;> simp [scan]

theorem scan_outside {c : Char} (hopen : c ≠ '\x7b') (rest : List Char) :
    scan resolve none (c :: rest) = c :: scan resolve none rest := by
  simp [scan, hopen]

theorem scan_close (content rest : List Char) :
    scan resolve (some content) ('\x7d' :: rest) =
      (resolve content.reverse).getD (unread (some content) ++ ['\x7d']) ++
        scan resolve none rest := by
  simp [scan]

theorem scan_inside {c : Char} (hopen : c ≠ '\x7b') (hclose : c ≠ '\x7d')
    (content rest : List Char) :
    scan resolve (some content) (c :: rest) = scan resolve (some (c :: content)) rest := by
  simp [scan, hopen, hclose]

/-! ## §2 Spans -/

/-- There is no brace in the text. -/
def Braceless (cs : List Char) : Prop := '\x7b' ∉ cs ∧ '\x7d' ∉ cs

/-- Outside of references, a text without an open brace is copied. -/
theorem scan_append_of_no_open (h : '\x7b' ∉ front) (rest : List Char) :
    scan resolve none (front ++ rest) = front ++ scan resolve none rest := by
  induction front with
  | nil => rfl
  | cons c front ih =>
    rw [List.mem_cons, not_or] at h
    rw [List.cons_append, scan_outside (Ne.symm h.1), ih h.2, List.cons_append]

/-- Without a closing brace nothing is replaced. -/
theorem scan_of_no_close (h : '\x7d' ∉ text) (pending : Option (List Char)) :
    scan resolve pending text = unread pending ++ text := by
  induction text generalizing pending with
  | nil => cases pending <;> simp [scan]
  | cons c rest ih =>
    rw [List.mem_cons, not_or] at h
    by_cases hopen : c = '\x7b'
    · rw [hopen, scan_open, ih h.2]
      rfl
    · cases pending with
      | none => rw [scan_outside hopen, ih h.2]; rfl
      | some content =>
        rw [scan_inside hopen (Ne.symm h.1), ih h.2]
        simp [unread]

/-- The scanner takes a text apart where the text behind it is scanned alike in any state. -/
theorem scan_append_of {tail rest : List Char}
    (h : ∀ pending, scan resolve pending tail = unread pending ++ rest)
    (pending : Option (List Char)) (front : List Char) :
    scan resolve pending (front ++ tail) = scan resolve pending front ++ rest := by
  induction front generalizing pending with
  | nil =>
    rw [List.nil_append, h]
    cases pending <;> simp [scan]
  | cons c front ih =>
    rw [List.cons_append]
    by_cases hopen : c = '\x7b'
    · rw [hopen, scan_open, scan_open, ih, List.append_assoc]
    · cases pending with
      | none => rw [scan_outside hopen, scan_outside hopen, ih, List.cons_append]
      | some content =>
        by_cases hclose : c = '\x7d'
        · rw [hclose, scan_close, scan_close, ih, List.append_assoc]
        · rw [scan_inside hopen hclose, scan_inside hopen hclose, ih]

/-- An open brace ends whatever was open in front of it. -/
theorem scan_append_open (pending : Option (List Char)) (front rest : List Char) :
    scan resolve pending (front ++ '\x7b' :: rest) =
      scan resolve pending front ++ scan resolve none ('\x7b' :: rest) := by
  refine scan_append_of (fun pending => ?_) pending front
  rw [scan_open, scan_open]
  rfl

/-- The scanner collects the content of a reference. -/
theorem scan_content (hcontent : Braceless content) (read rest : List Char) :
    scan resolve (some read) (content ++ rest) =
      scan resolve (some (content.reverse ++ read)) rest := by
  induction content generalizing read with
  | nil => rfl
  | cons c content ih =>
    simp only [Braceless, List.mem_cons, not_or] at hcontent
    obtain ⟨⟨hopen, hopens⟩, hclose, hcloses⟩ := hcontent
    rw [List.cons_append, scan_inside (Ne.symm hopen) (Ne.symm hclose), ih ⟨hopens, hcloses⟩]
    simp

theorem scan_reference (hcontent : Braceless content) (rest : List Char) :
    scan resolve none ('\x7b' :: (content ++ '\x7d' :: rest)) =
      (resolve content).getD ('\x7b' :: (content ++ ['\x7d'])) ++ scan resolve none rest := by
  rw [scan_open, scan_content hcontent, scan_close]
  simp [unread]

/-! ## §3 Filling -/

theorem fill_of_no_open (h : '\x7b' ∉ text) : fill resolve text = text := by
  unfold fill
  split
  · rfl
  · next hopen =>
    rw [cutFirst_eq_none_iff.mpr h] at hopen
    cases hopen

/-- Jumping from brace to brace gives what the scanner gives. -/
theorem fill_eq_scan (resolve : List Char → Option (List Char)) (text : List Char) :
    fill resolve text = scan resolve none text := by
  fun_induction fill resolve text with
  | case1 text hopen =>
    rw [← List.append_nil text, scan_append_of_no_open (cutFirst_eq_none_iff.mp hopen)]
    rfl
  | case2 text before after hopen hclose =>
    obtain ⟨rfl, hbefore⟩ := eq_append_of_cutFirst hopen
    rw [scan_append_of_no_open hbefore, scan_open,
      scan_of_no_close (cutFirst_eq_none_iff.mp hclose)]
    rfl
  | case3 text before after hopen content rest hclose outer inner hnested ih =>
    -- the reference starts at the innermost brace; what is in front of that one is copied
    obtain ⟨rfl, hbefore⟩ := eq_append_of_cutFirst hopen
    obtain ⟨rfl, hcontent⟩ := eq_append_of_cutFirst hclose
    obtain rfl := eq_append_of_cutLast hnested
    have houter : '\x7d' ∉ outer := fun hmem => hcontent (by simp [hmem])
    rw [ih, scan_append_of_no_open hbefore, scan_open, List.append_assoc outer,
      List.append_assoc outer, List.singleton_append, List.cons_append, scan_append_open,
      scan_of_no_close houter]
    simp [unread]
  | case4 text before after hopen content rest hclose hnested ih =>
    obtain ⟨rfl, hbefore⟩ := eq_append_of_cutFirst hopen
    obtain ⟨rfl, hcontent⟩ := eq_append_of_cutFirst hclose
    have hbraceless : Braceless content := ⟨not_mem_of_cutLast hnested, hcontent⟩
    rw [scan_append_of_no_open hbefore, scan_reference hbraceless, ih, List.append_assoc]
    rfl

/-- A reference is filled alike in any text, and what stands around it is filled for itself. -/
theorem fill_reference (hcontent : Braceless content) (before after : List Char) :
    fill resolve (before ++ '\x7b' :: (content ++ '\x7d' :: after)) =
      fill resolve before ++
        ((resolve content).getD ('\x7b' :: (content ++ ['\x7d'])) ++ fill resolve after) := by
  simp only [fill_eq_scan]
  rw [scan_append_open, scan_reference hcontent]

end TaskFlow.Template
