/-
TaskFlow.Proofs.Route.Tokens — service names as tokens between dots.

The pattern of service names is built from runs: letters, then joiners and letters in turn, then all
of that again behind each dot. A reader of names sees none of those runs. To him a name is what
stands between its dots, and a token is told by its characters and by its two ends (`IsToken`). Both
say the same, since a text that ends in a letter can be cut into runs in one way only, each joiner
belonging to the run in front of the next letter.

  §1 Tokens   — `IsLetter`, `IsJoiner` and `IsToken`.
  §2 Runs     — texts of one class; what the pattern of a token asks of the two ends.
  §3 Language — the pattern of a token stands for the tokens.
  §4 Names    — tokens behind dots, and `isServiceName_iff`.
-/
import TaskFlow.Proofs.Route.Language
import TaskFlow.Proofs.Text.Cuts
import TaskFlow.Route.ServiceName

namespace TaskFlow

open TaskFlow.Text

variable {c : Char} {cs front back : List Char}

/-! ## §1 Tokens -/

/-- A lower case ASCII letter or an ASCII digit. -/
def IsLetter (c : Char) : Prop := ('a' ≤ c ∧ c ≤ 'z') ∨ ('0' ≤ c ∧ c ≤ '9')

instance : DecidablePred IsLetter := fun c =>
  inferInstanceAs (Decidable (('a' ≤ c ∧ c ≤ 'z') ∨ ('0' ≤ c ∧ c ≤ '9')))

/-- A character that stands only inside tokens. -/
def IsJoiner (c : Char) : Prop := c = '_' ∨ c = '-'

instance : DecidablePred IsJoiner := fun c => inferInstanceAs (Decidable (c = '_' ∨ c = '-'))

/-- Some letters, digits and joiners, with no joiner at either end. -/
def IsToken (cs : List Char) : Prop :=
  cs ≠ [] ∧ (∀ c ∈ cs, IsLetter c ∨ IsJoiner c) ∧
    (∀ c ∈ cs.head?, ¬IsJoiner c) ∧ ∀ c ∈ cs.getLast?, ¬IsJoiner c

instance : DecidablePred IsToken := fun cs =>
  decidable_of_iff (cs ≠ [] ∧ cs.all (fun c => IsLetter c ∨ IsJoiner c) = true ∧
      cs.head?.all (fun c => ¬IsJoiner c) = true ∧ cs.getLast?.all (fun c => ¬IsJoiner c) = true)
    (by simp [IsToken, Option.all_eq_true])

theorem IsLetter.not_isJoiner (h : IsLetter c) : ¬IsJoiner c := by
  rintro (rfl | rfl) <;> exact absurd h (by decide)

theorem not_mem_of_plain (h : ∀ c ∈ cs, IsLetter c ∨ IsJoiner c) : '.' ∉ cs := by
  intro hmem
  exact absurd (h '.' hmem) (by decide)

/-! ## §2 Runs -/

/-- The text has letters and joiners only, and a letter at its end if it has an end. -/
def EndsInLetter (cs : List Char) : Prop :=
  (∀ c ∈ cs, IsLetter c ∨ IsJoiner c) ∧ ∀ c ∈ cs.getLast?, IsLetter c

theorem endsInLetter_nil : EndsInLetter [] := by
  simp [EndsInLetter]

theorem EndsInLetter.append (hfront : EndsInLetter front) (hback : EndsInLetter back) :
    EndsInLetter (front ++ back) := by
  refine ⟨List.forall_mem_append.mpr ⟨hfront.1, hback.1⟩, ?_⟩
  intro c hc
  rw [List.getLast?_append] at hc
  cases hlast : back.getLast? with
  | none =>
    rw [hlast, Option.none_or] at hc
    exact hfront.2 c hc
  | some d =>
    rw [hlast, Option.some_or] at hc
    exact hback.2 c (hlast.trans hc)

/-- A run of letters, with joiners in front of it or not. -/
theorem endsInLetter_run (hfront : ∀ c ∈ front, IsLetter c ∨ IsJoiner c) (hne : back ≠ [])
    (hback : ∀ c ∈ back, IsLetter c) : EndsInLetter (front ++ back) := by
  refine ⟨List.forall_mem_append.mpr ⟨hfront, fun c hc => Or.inl (hback c hc)⟩, ?_⟩
  intro c hc
  rw [List.getLast?_append_of_ne_nil _ hne] at hc
  exact hback c (List.mem_of_getLast? hc)

/-- A token begins with a letter and ends in one. -/
theorem isToken_iff :
    IsToken cs ↔ cs ≠ [] ∧ EndsInLetter cs ∧ ∀ c ∈ cs.head?, IsLetter c := by
  have hletter : (∀ c ∈ cs, IsLetter c ∨ IsJoiner c) → ∀ c ∈ cs, ¬IsJoiner c → IsLetter c :=
    fun hplain c hc hnot => (hplain c hc).resolve_right hnot
  constructor
  · rintro ⟨hne, hplain, hfirst, hlast⟩
    refine ⟨hne, ⟨hplain, ?_⟩, ?_⟩
    · intro c hc
      exact hletter hplain c (List.mem_of_getLast? hc) (hlast c hc)
    · intro c hc
      exact hletter hplain c (List.mem_of_mem_head? hc) (hfirst c hc)
  · rintro ⟨hne, ⟨hplain, hlast⟩, hfirst⟩
    refine ⟨hne, hplain, ?_, ?_⟩
    · exact fun c hc => (hfirst c hc).not_isJoiner
    · exact fun c hc => (hlast c hc).not_isJoiner

namespace Pattern

/-! ## §3 Language -/

theorem le_and_le_iff {d : Char} : d ≤ c ∧ c ≤ d ↔ c = d := by
  constructor
  · intro h
    exact Char.le_antisymm h.2 h.1
  · intro h
    subst h
    exact ⟨Char.le_refl c, Char.le_refl c⟩

theorem inClass_letter : inClass [('a', 'z'), ('0', '9')] c = true ↔ IsLetter c := by
  simp [inClass, IsLetter]

theorem inClass_joiner : inClass [('_', '_'), ('-', '-')] c = true ↔ IsJoiner c := by
  simp [inClass, IsJoiner, le_and_le_iff]

theorem inClass_dot : inClass [('.', '.')] c = true ↔ c = '.' := by
  simp [inClass, le_and_le_iff]

theorem matches_seq_oneOf_cons_iff {ranges : List (Char × Char)} {q : Pattern} :
    Matches (.seq (.oneOf ranges) q) (c :: cs) ↔ inClass ranges c = true ∧ Matches q cs := by
  simp only [matches_seq_cons_iff, matches_oneOf_cons_iff, not_matches_oneOf_nil, false_and,
    or_false]
  constructor
  · rintro ⟨front, back, ⟨hc, rfl⟩, hback, rfl⟩
    exact ⟨hc, hback⟩
  · rintro ⟨hc, hcs⟩
    exact ⟨[], cs, ⟨hc, rfl⟩, hcs, rfl⟩

/-- Repetitions of a class are the texts of its characters. -/
theorem matches_star_oneOf_iff {ranges : List (Char × Char)} :
    Matches (.star (.oneOf ranges)) cs ↔ ∀ c ∈ cs, inClass ranges c = true := by
  induction cs with
  | nil => simp only [Matches.starNil, List.not_mem_nil, false_implies, implies_true]
  | cons c rest ih =>
    have hseq : Matches (.star (.oneOf ranges)) (c :: rest) ↔
        Matches (.seq (.oneOf ranges) (.star (.oneOf ranges))) (c :: rest) := by
      simp only [matches_star_cons_iff, matches_seq_cons_iff, not_matches_oneOf_nil, false_and,
        or_false]
    rw [hseq, matches_seq_oneOf_cons_iff, List.forall_mem_cons, ih]

theorem matches_run_iff {ranges : List (Char × Char)} :
    Matches (.plus (.oneOf ranges)) cs ↔ cs ≠ [] ∧ ∀ c ∈ cs, inClass ranges c = true := by
  cases cs with
  | nil => simp [plus, matches_seq_iff, not_matches_oneOf_nil]
  | cons c rest =>
    rw [plus, matches_seq_oneOf_cons_iff, matches_star_oneOf_iff, List.forall_mem_cons]
    simp only [ne_eq, reduceCtorEq, not_false_eq_true, true_and]

theorem matches_letters_iff : Matches letter.plus cs ↔ cs ≠ [] ∧ ∀ c ∈ cs, IsLetter c := by
  simp only [letter, matches_run_iff, inClass_letter]

theorem matches_joiners_iff : Matches joiner.plus cs ↔ cs ≠ [] ∧ ∀ c ∈ cs, IsJoiner c := by
  simp only [joiner, matches_run_iff, inClass_joiner]

/-- What stands behind the first letters of a token ends in a letter. -/
theorem endsInLetter_of_links (h : Matches (.star (.seq joiner.plus letter.plus)) cs) :
    EndsInLetter cs := by
  rw [matches_star_iff] at h
  obtain ⟨pieces, hpieces, rfl⟩ := h
  induction pieces with
  | nil => exact endsInLetter_nil
  | cons piece pieces ih =>
    obtain ⟨hpiece, hrest⟩ := List.forall_mem_cons.mp hpieces
    obtain ⟨joiners, letters, hjoiners, hletters, rfl⟩ := matches_seq_iff.mp hpiece
    rw [matches_joiners_iff] at hjoiners
    rw [matches_letters_iff] at hletters
    have hlink : EndsInLetter (joiners ++ letters) :=
      endsInLetter_run (fun c hc => Or.inr (hjoiners.2 c hc)) hletters.1 hletters.2
    exact hlink.append (ih hrest)

theorem isToken_of_matches (h : Matches token cs) : IsToken cs := by
  obtain ⟨letters, links, hletters, hlinks, rfl⟩ := matches_seq_iff.mp h
  rw [matches_letters_iff] at hletters
  have hrun : EndsInLetter ([] ++ letters) :=
    endsInLetter_run (List.forall_mem_nil _) hletters.1 hletters.2
  refine isToken_iff.mpr ⟨List.append_ne_nil_of_left_ne_nil hletters.1 links,
    hrun.append (endsInLetter_of_links hlinks), ?_⟩
  intro c hc
  rw [List.head?_append_of_ne_nil _ hletters.1] at hc
  exact hletters.2 c (List.mem_of_mem_head? hc)

/-! A text is read as runs from its end: a letter in front makes the first run longer, and so does a
joiner, or else it starts a run of its own. -/

theorem matches_token_singleton (hc : IsLetter c) : Matches token [c] := by
  have hrun : Matches letter.plus [c] := by simp [matches_letters_iff, hc]
  exact matches_seq_iff.mpr ⟨[c], [], hrun, .starNil, rfl⟩

theorem matches_token_cons (hc : IsLetter c) (h : Matches token cs) : Matches token (c :: cs) := by
  obtain ⟨letters, links, hletters, hlinks, rfl⟩ := matches_seq_iff.mp h
  rw [matches_letters_iff] at hletters
  have hrun : Matches letter.plus (c :: letters) :=
    matches_letters_iff.mpr ⟨List.cons_ne_nil _ _, List.forall_mem_cons.mpr ⟨hc, hletters.2⟩⟩
  exact matches_seq_iff.mpr ⟨c :: letters, links, hrun, hlinks, rfl⟩

theorem matches_token_link (hc : IsLetter c) (h : Matches (.seq joiner.plus token) cs) :
    Matches token (c :: cs) := by
  obtain ⟨joiners, rest, hjoiners, hrest, rfl⟩ := matches_seq_iff.mp h
  obtain ⟨letters, links, hletters, hlinks, rfl⟩ := matches_seq_iff.mp hrest
  have hrun : Matches letter.plus [c] := by simp [matches_letters_iff, hc]
  refine matches_seq_iff.mpr ⟨[c], (joiners ++ letters) ++ links, hrun, ?_, by simp⟩
  exact .starCons (.seq hjoiners hletters) hlinks

theorem matches_joined_cons (hc : IsJoiner c)
    (h : Matches token cs ∨ Matches (.seq joiner.plus token) cs) :
    Matches (.seq joiner.plus token) (c :: cs) := by
  rcases h with htoken | hjoined
  · have hrun : Matches joiner.plus [c] := by simp [matches_joiners_iff, hc]
    exact matches_seq_iff.mpr ⟨[c], cs, hrun, htoken, rfl⟩
  · obtain ⟨joiners, rest, hjoiners, hrest, rfl⟩ := matches_seq_iff.mp hjoined
    rw [matches_joiners_iff] at hjoiners
    have hrun : Matches joiner.plus (c :: joiners) :=
      matches_joiners_iff.mpr ⟨List.cons_ne_nil _ _, List.forall_mem_cons.mpr ⟨hc, hjoiners.2⟩⟩
    exact matches_seq_iff.mpr ⟨c :: joiners, rest, hrun, hrest, rfl⟩

/-- A text that ends in a letter is a token, or a token with joiners in front of it. -/
theorem matches_of_endsInLetter (h : EndsInLetter (c :: cs)) :
    (IsLetter c → Matches token (c :: cs)) ∧
      (IsJoiner c → Matches (.seq joiner.plus token) (c :: cs)) := by
  induction cs generalizing c with
  | nil =>
    have hc : IsLetter c := h.2 c rfl
    exact ⟨matches_token_singleton, fun hjoiner => absurd hjoiner hc.not_isJoiner⟩
  | cons d rest ih =>
    have hrest : EndsInLetter (d :: rest) :=
      ⟨(List.forall_mem_cons.mp h.1).2, fun e he => h.2 e (by simpa using he)⟩
    obtain ⟨hletter, hjoiner⟩ := ih hrest
    rcases hrest.1 d List.mem_cons_self with hd | hd
    · exact ⟨fun hc => matches_token_cons hc (hletter hd),
        fun hc => matches_joined_cons hc (Or.inl (hletter hd))⟩
    · exact ⟨fun hc => matches_token_link hc (hjoiner hd),
        fun hc => matches_joined_cons hc (Or.inr (hjoiner hd))⟩

/-- The pattern of a token stands for the tokens. -/
theorem matches_token_iff : Matches token cs ↔ IsToken cs := by
  constructor
  · exact isToken_of_matches
  · intro h
    obtain ⟨hne, hends, hfirst⟩ := isToken_iff.mp h
    obtain ⟨c, rest, rfl⟩ := List.exists_cons_of_ne_nil hne
    exact (matches_of_endsInLetter hends).1 (hfirst c rfl)

/-! ## §4 Names -/

theorem matches_dotted_iff :
    Matches (.seq dot token) cs ↔ ∃ piece, IsToken piece ∧ cs = '.' :: piece := by
  cases cs with
  | nil => simp [dot, matches_seq_iff, not_matches_oneOf_nil]
  | cons c rest =>
    rw [dot, matches_seq_oneOf_cons_iff, inClass_dot, matches_token_iff]
    constructor
    · rintro ⟨rfl, hrest⟩
      exact ⟨rest, hrest, rfl⟩
    · rintro ⟨piece, hpiece, heq⟩
      cases heq
      exact ⟨rfl, hpiece⟩

theorem matches_star_dotted_iff :
    Matches (.star (.seq dot token)) cs ↔
      ∃ pieces : List (List Char), (∀ piece ∈ pieces, IsToken piece) ∧
        cs = pieces.flatMap ('.' :: ·) := by
  rw [matches_star_iff]
  constructor
  · rintro ⟨dotted, hdotted, rfl⟩
    induction dotted with
    | nil => exact ⟨[], List.forall_mem_nil _, rfl⟩
    | cons front dotted ih =>
      obtain ⟨hfront, hrest⟩ := List.forall_mem_cons.mp hdotted
      obtain ⟨piece, hpiece, rfl⟩ := matches_dotted_iff.mp hfront
      obtain ⟨pieces, hpieces, heq⟩ := ih hrest
      exact ⟨piece :: pieces, List.forall_mem_cons.mpr ⟨hpiece, hpieces⟩, by simp [heq]⟩
  · rintro ⟨pieces, hpieces, rfl⟩
    refine ⟨pieces.map ('.' :: ·), ?_, List.flatMap_def⟩
    intro front hfront
    obtain ⟨piece, hmem, rfl⟩ := List.mem_map.mp hfront
    exact matches_dotted_iff.mpr ⟨piece, hpieces piece hmem, rfl⟩

/-- The pattern of service names stands for a token with tokens behind dots, at least one. -/
theorem matches_serviceName_iff :
    Matches serviceName cs ↔
      ∃ (first : List Char) (others : List (List Char)), others ≠ [] ∧
        (∀ piece ∈ first :: others, IsToken piece) ∧
          cs = first ++ others.flatMap ('.' :: ·) := by
  constructor
  · intro h
    obtain ⟨first, dotted, hfirst, hdotted, rfl⟩ := matches_seq_iff.mp h
    obtain ⟨front, back, hfront, hback, rfl⟩ := matches_seq_iff.mp hdotted
    obtain ⟨second, hsecond, rfl⟩ := matches_dotted_iff.mp hfront
    obtain ⟨others, hothers, rfl⟩ := matches_star_dotted_iff.mp hback
    refine ⟨first, second :: others, List.cons_ne_nil _ _, ?_, by simp⟩
    simp only [List.forall_mem_cons]
    exact ⟨matches_token_iff.mp hfirst, hsecond, hothers⟩
  · rintro ⟨first, others, hne, hpieces, rfl⟩
    obtain ⟨second, others, rfl⟩ := List.exists_cons_of_ne_nil hne
    simp only [List.forall_mem_cons] at hpieces
    obtain ⟨hfirst, hsecond, hothers⟩ := hpieces
    refine matches_seq_iff.mpr ⟨first, _, matches_token_iff.mpr hfirst, ?_, rfl⟩
    refine matches_seq_iff.mpr ⟨'.' :: second, others.flatMap ('.' :: ·), ?_, ?_, by simp⟩
    · exact matches_dotted_iff.mpr ⟨second, hsecond, rfl⟩
    · exact matches_star_dotted_iff.mpr ⟨others, hothers, rfl⟩

/-- The same by the dots of the text: they cut it into tokens, at least two. -/
theorem matches_serviceName_iff_splitOn :
    Matches serviceName cs ↔
      2 ≤ (splitOn '.' cs).length ∧ ∀ piece ∈ splitOn '.' cs, IsToken piece := by
  rw [matches_serviceName_iff]
  constructor
  · rintro ⟨first, others, hne, hpieces, hcs⟩
    have hdot : ∀ piece ∈ first :: others, '.' ∉ piece :=
      fun piece hmem => not_mem_of_plain (hpieces piece hmem).2.1
    rw [splitOn_eq_cons_iff.mpr ⟨hcs, List.forall_mem_cons.mp hdot⟩]
    have hlength : 0 < others.length := List.length_pos_of_ne_nil hne
    exact ⟨by simp only [List.length_cons]; omega, hpieces⟩
  · rintro ⟨hlength, hpieces⟩
    obtain ⟨first, others, hsplit⟩ := List.exists_cons_of_ne_nil (splitOn_ne_nil '.' cs)
    rw [hsplit] at hlength hpieces
    have hne : others ≠ [] := by
      rintro rfl
      simp at hlength
    exact ⟨first, others, hne, hpieces, (splitOn_eq_cons_iff.mp hsplit).1⟩

end Pattern

/-- A text is a service name exactly if the pattern of service names stands for it, and exactly if
its dots cut it into tokens, at least two. Any other character refuses the text, wherever it
stands. -/
theorem isServiceName_iff (text : String) :
    (isServiceName text = true ↔ Pattern.serviceName.Matches text.toList) ∧
      (isServiceName text = true ↔
        2 ≤ (splitOn '.' text.toList).length ∧
          ∀ piece ∈ splitOn '.' text.toList, IsToken piece) ∧
      ∀ c ∈ text.toList, ¬IsLetter c → ¬IsJoiner c → c ≠ '.' → isServiceName text = false := by
  have hmatches : isServiceName text = true ↔ Pattern.serviceName.Matches text.toList :=
    Pattern.accepts_iff_matches
  have hpieces := hmatches.trans Pattern.matches_serviceName_iff_splitOn
  refine ⟨hmatches, hpieces, ?_⟩
  intro c hc hletter hjoiner hdot
  rw [← Bool.not_eq_true, hpieces]
  rintro ⟨-, htokens⟩
  obtain ⟨piece, hpiece, hmem⟩ := exists_mem_splitOn hc hdot
  rcases (htokens piece hpiece).2.1 c hmem with h | h
  · exact hletter h
  · exact hjoiner h

/-- Joiners may stand in a row inside a token, and a line break is refused even at the end. -/
theorem isServiceName_iff_line_break :
    isServiceName "my_app.task--a" = true ∧ isServiceName "a.b\n" = false := by
  have hsplit : splitOn '.' "my_app.task--a".toList = ["my_app".toList, "task--a".toList] := by
    decide
  have htokens : ∀ piece ∈ ["my_app".toList, "task--a".toList], IsToken piece := by decide
  have hbreak : '\n' ∈ "a.b\n".toList := by decide
  refine ⟨(isServiceName_iff "my_app.task--a").2.1.mpr ?_, ?_⟩
  · rw [hsplit]
    exact ⟨by decide, htokens⟩
  · exact (isServiceName_iff "a.b\n").2.2 '\n' hbreak (by decide) (by decide) (by decide)

end TaskFlow
