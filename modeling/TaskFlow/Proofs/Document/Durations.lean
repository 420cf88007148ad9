/-
TaskFlow.Proofs.Document.Durations — what becomes of the times in a document.

A text is read as an amount with a unit and refused where its milliseconds do not fit in 64 bits. A
bare number is not: it counts seconds, and of their milliseconds 64 bits are kept. So every time in
a document that breaks no rule comes into the definition as the milliseconds that it denotes
(`Denotes`), exactly if these fit, and otherwise without what lies above.

  §1 Notation  — `Writes`, how a text writes an amount and a unit; `Denotes`.
  §2 Reading   — texts and values are read as what they denote.
  §3 Documents — the definition of a document that breaks no rule.
  §4 Times     — `Kept`; `definition_times`, and a limit that becomes zero.
-/
import TaskFlow.Document.Problems
import TaskFlow.Proofs.Attempt
import TaskFlow.Proofs.Text.Numeral

namespace TaskFlow

open TaskFlow.Text

/-! ## §1 Notation -/

/-- The names of a unit. A second needs none. -/
inductive TimeUnit.Named : TimeUnit → List Char → Prop
  | millisecond : Named .millisecond ['m', 's']
  | second : Named .second ['s']
  | bare : Named .second []
  | minute : Named .minute ['m']
  | hour : Named .hour ['h']

namespace Duration

/-- The text is an amount with a unit, blanks around both; the two make that many milliseconds. -/
inductive Writes : String → Nat → Prop
  | intro {front digits middle name back : List Char} {timeUnit : TimeUnit}
      (hfront : ∀ c ∈ front, isBlank c = true) (hne : digits ≠ [])
      (hdigits : ∀ c ∈ digits, isDigit c = true) (hmiddle : ∀ c ∈ middle, isBlank c = true)
      (hname : timeUnit.Named name) (hback : ∀ c ∈ back, isBlank c = true) :
      Writes (String.ofList (front ++ (digits ++ middle ++ name) ++ back))
        (decimal digits * timeUnit.millis)

/-- The milliseconds that a value denotes. A bare number counts seconds. -/
inductive Denotes : Yaml.Value → Nat → Prop
  | number {w : Whole} {n : Nat} (h : w.val = n) : Denotes (.number (.whole w)) (1000 * n)
  | text {s : String} {millis : Nat} (h : Writes s millis) : Denotes (.text s) millis

end Duration

/-! ## §2 Reading -/

theorem TimeUnit.ofName?_eq_some_iff {timeUnit : TimeUnit} {name : List Char} :
    ofName? name = some timeUnit ↔ timeUnit.Named name := by
  constructor
  · intro h
    unfold ofName? at h
    split at h
    case h_6 => cases h
    all_goals
      next hname =>
      cases h
      rw [← String.toList_ofList (l := name), hname]
      constructor
  · rintro (_ | _ | _ | _ | _) <;> rfl

theorem TimeUnit.Named.tidy {timeUnit : TimeUnit} {name : List Char} (h : timeUnit.Named name) :
    Tidy name := by
  cases h <;> decide

theorem TimeUnit.Named.head_not_digit {timeUnit : TimeUnit} {name : List Char}
    (h : timeUnit.Named name) {c : Char} (hc : c ∈ name.head?) : isDigit c = false := by
  cases h <;> cases hc <;> decide

theorem TimeUnit.millis_pos (timeUnit : TimeUnit) : 0 < timeUnit.millis := by
  cases timeUnit <;> decide

namespace Duration

variable {s : String} {millis other amount : Nat} {timeUnit : TimeUnit}

/-- The amount and the unit that a text is read as. -/
structure ReadAs (s : String) (amount : Nat) (timeUnit : TimeUnit) : Prop where
  amount : natural? ((trim s.toList).takeWhile isDigit) = some amount
  unit : TimeUnit.ofName? (trim ((trim s.toList).dropWhile isDigit)) = some timeUnit

/-- Between its blanks, a text that writes an amount starts with the digits and ends with the name,
if there is one. -/
theorem exists_trim_eq {digits middle name : List Char} (hne : digits ≠ [])
    (hdigits : ∀ c ∈ digits, isDigit c = true) (hmiddle : ∀ c ∈ middle, isBlank c = true)
    (hname : timeUnit.Named name) :
    ∃ tail, trim (digits ++ middle ++ name) = digits ++ tail ∧ trim tail = name ∧ Stops tail := by
  have htidy : Tidy digits := tidy_of_forall fun c hc => isBlank_of_isDigit (hdigits c hc)
  by_cases hbare : name = []
  · subst hbare
    have htrim := trim_padded (List.forall_mem_nil _) hmiddle digits
    exact ⟨[], by simpa using htrim.trans htidy, rfl, by simp [Stops]⟩
  · have hwhole := tidy_enclosed htidy hname.tidy hne hbare middle
    have htail := trim_padded hmiddle (List.forall_mem_nil _) name
    refine ⟨middle ++ name, hwhole.trans (List.append_assoc ..), ?_, ?_⟩
    · simpa using htail.trans hname.tidy
    · intro c hc
      cases middle with
      | nil => exact hname.head_not_digit hc
      | cons b middle =>
        cases hc
        have hblank := hmiddle c List.mem_cons_self
        rw [← Bool.not_eq_true]
        intro hdigit
        rw [isBlank_of_isDigit hdigit] at hblank
        cases hblank

/-- A text that is digits, blanks and a name between its own blanks is read as these. -/
theorem readAs_of_trim_eq {digits middle name : List Char}
    (htext : trim s.toList = trim (digits ++ middle ++ name)) (hne : digits ≠ [])
    (hdigits : ∀ c ∈ digits, isDigit c = true) (hmiddle : ∀ c ∈ middle, isBlank c = true)
    (hname : timeUnit.Named name) : ReadAs s (decimal digits) timeUnit := by
  obtain ⟨tail, htrim, htail, hstop⟩ := exists_trim_eq hne hdigits hmiddle hname
  constructor
  case amount =>
    rw [htext, htrim, takeWhile_of_stops hdigits hstop]
    exact natural?_eq_some_iff.mpr ⟨hne, hdigits, rfl⟩
  case unit =>
    rw [htext, htrim, dropWhile_of_stops hdigits hstop, htail]
    exact TimeUnit.ofName?_eq_some_iff.mpr hname

theorem Writes.exists_readAs (h : Writes s millis) :
    ∃ amount timeUnit, ReadAs s amount timeUnit ∧ millis = amount * timeUnit.millis := by
  obtain ⟨hfront, hne, hdigits, hmiddle, hname, hback⟩ := h
  refine ⟨_, _, readAs_of_trim_eq ?_ hne hdigits hmiddle hname, rfl⟩
  rw [String.toList_ofList, trim_padded hfront hback]

theorem ReadAs.writes (h : ReadAs s amount timeUnit) : Writes s (amount * timeUnit.millis) := by
  obtain ⟨hne, hdigits, rfl⟩ := natural?_eq_some_iff.mp h.amount
  have hname := TimeUnit.ofName?_eq_some_iff.mp h.unit
  obtain ⟨front, back, hfront, hback, htext⟩ := exists_padded s.toList
  obtain ⟨middle, blanks, hmiddle, hblanks, hrest⟩ :=
    exists_padded ((trim s.toList).dropWhile isDigit)
  have hs : s = String.ofList (front ++ ((trim s.toList).takeWhile isDigit ++ middle ++
      trim ((trim s.toList).dropWhile isDigit)) ++ (blanks ++ back)) := by
    rw [← String.toList_inj, String.toList_ofList]
    conv_lhs => rw [htext, ← List.takeWhile_append_dropWhile (p := isDigit) (l := trim s.toList),
      hrest]
    simp only [List.append_assoc]
  have hends : ∀ c ∈ blanks ++ back, isBlank c = true :=
    List.forall_mem_append.mpr ⟨hblanks, hback⟩
  have hwrites := Writes.intro hfront hne hdigits hmiddle hname hends
  rwa [← hs] at hwrites

/-- A text is read as one number of milliseconds at most. -/
theorem Writes.unique (h : Writes s millis) (hother : Writes s other) : other = millis := by
  obtain ⟨amount, timeUnit, hread, rfl⟩ := h.exists_readAs
  obtain ⟨amount', timeUnit', hread', rfl⟩ := hother.exists_readAs
  cases hread.amount.symm.trans hread'.amount
  cases hread.unit.symm.trans hread'.unit
  rfl

/-- A text is read as the milliseconds that it writes, unless they are none or do not fit. -/
theorem ofText?_eq_some_iff :
    ofText? s = some millis ↔ Writes s millis ∧ 0 < millis ∧ millis < wordBound := by
  constructor
  · intro h
    unfold ofText? at h
    dsimp only at h
    split at h
    · next amount timeUnit hamount hunit =>
      split at h
      · next hfits =>
        cases h
        exact ⟨ReadAs.writes ⟨hamount, hunit⟩, hfits.2.2, hfits.2.1⟩
      · cases h
    · cases h
  · rintro ⟨hwrites, hpos, hfits⟩
    obtain ⟨amount, timeUnit, hread, rfl⟩ := hwrites.exists_readAs
    have hamount : amount < wordBound :=
      Nat.lt_of_le_of_lt (Nat.le_mul_of_pos_right amount timeUnit.millis_pos) hfits
    unfold ofText?
    dsimp only
    rw [hread.amount, hread.unit]
    exact if_pos ⟨hamount, hfits, hpos⟩

/-- A numeral without a unit writes as many seconds. -/
theorem writes_natText (n : Nat) : Writes (natText n) (1000 * n) := by
  obtain ⟨hne, hdigits, hdecimal⟩ := natural?_eq_some_iff.mp (natural?_ofNat n)
  have hwrites := Writes.intro (List.forall_mem_nil _) hne hdigits (List.forall_mem_nil _) .bare
    (List.forall_mem_nil _)
  simpa [natText, hdecimal, TimeUnit.millis, Nat.mul_comm] using hwrites

theorem Denotes.unique {v : Yaml.Value} (h : Denotes v millis) (hother : Denotes v other) :
    other = millis := by
  cases h with
  | number hn =>
    cases hother with
    | number hm =>
      have heq := Int.ofNat_inj.mp (hm.symm.trans hn)
      rw [heq]
  | text hwrites =>
    cases hother with
    | text hother => exact hwrites.unique hother

/-- A value is a time if it denotes some milliseconds, which have to fit if it is a text. -/
theorem ofValue?_eq_some_iff {v : Yaml.Value} :
    ofValue? v = some millis ↔
      Denotes v millis ∧ 0 < millis ∧ ∀ s, v = .text s → millis < wordBound := by
  cases v with
  | text s =>
    rw [ofValue?, ofText?_eq_some_iff]
    constructor
    · rintro ⟨hwrites, hpos, hfits⟩
      exact ⟨.text hwrites, hpos, fun _ _ => hfits⟩
    · rintro ⟨⟨⟩ | ⟨hwrites⟩, hpos, hfits⟩
      exact ⟨hwrites, hpos, hfits s rfl⟩
  | number x =>
    cases x with
    | real x =>
      constructor
      · intro h
        cases h
      · rintro ⟨⟨⟩, -⟩
    | whole w =>
      rw [ofValue?, Yaml.Number.toNat?]
      constructor
      · intro h
        obtain ⟨n, hn, rfl⟩ := Option.map_eq_some_iff.mp h
        obtain ⟨hread, hpos⟩ := Option.filter_eq_some_iff.mp hn
        split at hread
        · next hsign =>
          cases hread
          have hval : w.val = w.val.toNat := (Int.toNat_of_nonneg hsign).symm
          rw [TimeUnit.millis, Nat.mul_comm]
          exact ⟨.number hval, by simpa using hpos, by rintro s ⟨⟩⟩
        · cases hread
      · rintro ⟨hdenotes, hpos, -⟩
        cases hdenotes with
        | @number _ n hn =>
          have hseconds : 0 < n := by omega
          rw [hn, if_pos (Int.natCast_nonneg n), Int.toNat_natCast]
          simp [TimeUnit.millis, Nat.mul_comm, hseconds]
  | _ =>
    constructor
    · intro h
      cases h
    · rintro ⟨⟨⟩, -⟩

end Duration

/-! ## §3 Documents -/

theorem complainIf_eq_nil_iff {test : Bool} {problem : DocumentProblem} :
    complainIf test problem = [] ↔ test = false := by
  cases test <;> simp [complainIf]

/-- No complaint is made of a field if the value that it has, if any, passes. -/
theorem complaints_eq_nil_iff {α : Type} {field : Option α} {test : α → Bool}
    {problem : α → DocumentProblem} :
    (field.toList.flatMap fun x => complainIf (test x) (problem x)) = [] ↔
      ∀ x, field = some x → test x = false := by
  cases field <;> simp [complainIf_eq_nil_iff]

theorem isBadDuration_eq_false_iff {v : Yaml.Value} :
    isBadDuration v = false ↔ ∃ millis, Duration.ofValue? v = some millis := by
  rw [isBadDuration, Option.isNone_eq_false_iff, Option.isSome_iff_exists]

namespace TaskEntry

variable {t : TaskEntry} {position : Nat}

theorem wrong_eq_nil_iff :
    t.wrong position = [] ↔
      (∀ name, t.execution = some name → ∃ execution, Execution.ofName? name = some execution) ∧
        ∀ v, t.timeout = some v → ∃ millis, Duration.ofValue? v = some millis := by
  rw [wrong, List.append_eq_nil_iff, complaints_eq_nil_iff, complaints_eq_nil_iff]
  simp [isBadDuration_eq_false_iff, Option.isSome_iff_exists]

/-- An entry without wrong values describes a task. -/
theorem exists_task (h : t.wrong position = []) : ∃ task, t.task = .ok task := by
  have hexecution := (wrong_eq_nil_iff.mp h).1
  unfold task
  cases hname : t.execution with
  | none => exact ⟨_, rfl⟩
  | some name =>
    obtain ⟨execution, hfound⟩ := hexecution name hname
    dsimp only
    rw [hfound]
    exact ⟨_, rfl⟩

theorem timeout_of_task {task : Task} (h : t.task = .ok task) :
    task.timeout = Duration.ofOptional t.timeout := by
  unfold TaskEntry.task at h
  dsimp only at h
  split at h
  · cases h
    rfl
  · split at h
    · cases h
      rfl
    · cases h

end TaskEntry

namespace FlowDocument

variable {d : FlowDocument}

theorem check_eq_ok_iff : d.check = .ok () ↔ d.problems = [] := by
  unfold check
  split
  · next h => simp [h]
  · next h => simp [h]

/-- The values of a document that breaks no rule are not wrong. -/
theorem values_of_check (h : d.check = .ok ()) :
    (∀ v, d.header.bind (·.ttl) = some v → ∃ millis, Duration.ofValue? v = some millis) ∧
      ∀ t ∈ d.tasks, ∃ position, t.wrong position = [] := by
  have hwrong := (List.append_eq_nil_iff.mp (check_eq_ok_iff.mp h)).2
  rw [wrong, List.append_eq_nil_iff, complaints_eq_nil_iff, List.flatMap_eq_nil_iff] at hwrong
  refine ⟨fun v hv => isBadDuration_eq_false_iff.mp (hwrong.1 v hv), fun t ht => ?_⟩
  obtain ⟨position, hposition⟩ := List.getElem?_of_mem ht
  exact ⟨position, hwrong.2 (t, position) (List.mem_zipIdx_iff_getElem?.mpr hposition)⟩

/-- A document that breaks no rule has a definition, with a task for each entry. -/
theorem exists_definition (h : d.check = .ok ()) :
    ∃ definition, d.definition = .ok definition ∧
      definition.ttl = Duration.ofOptional (d.header.bind (·.ttl)) ∧
      List.Forall₂ (fun entry task => entry.task = .ok task) d.tasks definition.tasks := by
  have hentries : ∀ entry ∈ d.tasks, ∃ task, entry.task = .ok task := by
    intro entry hmem
    obtain ⟨position, hwrong⟩ := (values_of_check h).2 entry hmem
    exact TaskEntry.exists_task hwrong
  obtain ⟨tasks, htasks⟩ := exists_mapM_eq_ok hentries
  unfold definition
  rw [htasks]
  refine ⟨_, rfl, ?_, mapM_eq_ok_iff.mp htasks⟩
  cases d.header <;> rfl

end FlowDocument

/-! ## §4 Times -/

namespace Duration

/-- What is kept of a value that denotes `millis`. It denotes nothing else, and not zero. It is kept
as it is exactly if it fits in 64 bits; it always does if it is a text, and a bare number does
exactly if the same number as a text would be accepted. Else only its lower 64 bits are kept. -/
structure Kept (v : Yaml.Value) (millis kept : Nat) : Prop where
  denotes_iff : ∀ other, Denotes v other ↔ other = millis
  pos : 0 < millis
  kept_eq : kept = millis % wordBound
  exact_iff : kept = millis ↔ millis < wordBound
  zero_iff : kept = 0 ↔ wordBound ∣ millis
  text : ∀ s, v = .text s → millis < wordBound
  number : ∀ (w : Whole) (n : Nat), v = .number (.whole w) → w.val = n →
    ((∃ read, ofText? (natText n) = some read) ↔ millis < wordBound)

/-- A field of a definition holds what is kept of the field of the document, and nothing exactly if
there is none. -/
inductive Carried : Option Yaml.Value → Option Nat → Prop
  | absent : Carried none none
  | given {v : Yaml.Value} {millis kept : Nat} (h : Kept v millis kept) :
      Carried (some v) (some kept)

theorem kept_of_ofValue? {v : Yaml.Value} {millis : Nat} (h : ofValue? v = some millis) :
    Kept v millis (stored millis) := by
  obtain ⟨hdenotes, hpos, htext⟩ := ofValue?_eq_some_iff.mp h
  refine ⟨?_, hpos, rfl, Nat.mod_eq_iff_lt (by decide), ?_, htext, ?_⟩
  · intro other
    constructor
    · exact hdenotes.unique
    · rintro rfl
      exact hdenotes
  · exact (Nat.dvd_iff_mod_eq_zero ..).symm
  · rintro w n rfl hn
    obtain rfl := hdenotes.unique (.number hn)
    constructor
    · rintro ⟨read, hread⟩
      obtain ⟨hwrites, -, hfits⟩ := ofText?_eq_some_iff.mp hread
      rwa [hwrites.unique (writes_natText n)]
    · intro hfits
      exact ⟨_, ofText?_eq_some_iff.mpr ⟨writes_natText n, hpos, hfits⟩⟩

theorem carried_ofOptional {field : Option Yaml.Value}
    (h : ∀ v, field = some v → ∃ millis, ofValue? v = some millis) :
    Carried field (ofOptional field) := by
  cases field with
  | none => exact .absent
  | some v =>
    obtain ⟨millis, hmillis⟩ := h v rfl
    rw [ofOptional, Option.bind_some, hmillis]
    exact .given (kept_of_ofValue? hmillis)

end Duration

/-- The times of a document that breaks no rule come into its definition: the lifetime of the flow,
and the limit of each task. -/
theorem definition_times {d : FlowDocument} (h : d.check = .ok ()) :
    ∃ definition, d.definition = .ok definition ∧
      Duration.Carried (d.header.bind (·.ttl)) definition.ttl ∧
      List.Forall₂ (fun entry task => Duration.Carried entry.timeout task.timeout)
        d.tasks definition.tasks := by
  obtain ⟨httl, hentries⟩ := FlowDocument.values_of_check h
  obtain ⟨definition, hdefinition, hheader, htasks⟩ := FlowDocument.exists_definition h
  refine ⟨definition, hdefinition, hheader ▸ Duration.carried_ofOptional httl, ?_⟩
  refine ((List.forall₂_and_left _ _).mpr ⟨hentries, htasks⟩).imp ?_
  rintro entry task ⟨⟨position, hwrong⟩, htask⟩
  rw [TaskEntry.timeout_of_task htask]
  exact Duration.carried_ofOptional (TaskEntry.wrong_eq_nil_iff.mp hwrong).2

/-- A document with a lifetime of ten seconds and a limit of 2 ^ 61 seconds. -/
def overlong : FlowDocument where
  header := some { id := some "f", ttl := some (.text "10s") }
  firstTask := some "worker.v1"
  tasks := [{
    process := some "worker.v1"
    execution := some "end"
    timeout := some (.number (.whole ⟨2305843009213693952, by decide, by decide⟩)) }]

theorem definition_times_overlong :
    overlong.check = .ok () ∧
      ∃ definition, overlong.definition = .ok definition ∧
        Duration.Carried (some (.text "10s")) definition.ttl ∧
        List.Forall₂ (fun entry task => Duration.Carried entry.timeout task.timeout)
          overlong.tasks definition.tasks :=
  ⟨rfl, definition_times rfl⟩

/-- The milliseconds of the limit are a multiple of 2 ^ 64: the document breaks no rule, and its
limit comes into the definition as zero. As a text, the same limit is refused. -/
theorem overlong_limit_lost :
    overlong.check = .ok () ∧
      (∃ definition, overlong.definition = .ok definition ∧
        definition.tasks.map (·.timeout) = [some 0]) ∧
      Duration.ofText? "2305843009213693952" = none := by
  refine ⟨rfl, ⟨_, rfl, rfl⟩, ?_⟩
  decide +kernel

end TaskFlow
