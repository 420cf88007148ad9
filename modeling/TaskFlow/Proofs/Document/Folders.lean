/-
TaskFlow.Proofs.Document.Folders — which flows a folder holds.

Loading goes through the files of a folder one after the other, and each of them can fail in many
ways. What comes of it is stated here of the files as a set, for any way from texts to documents: a
file either supplies one flow (`Supplies`) or none, and an id belongs to the first file that
supplies a flow of that id (`FirstWith`). So two folders have the same catalog if they agree in
this, and a file that supplies nothing, or nothing new (`Idle`), may as well not be there.

  §1 Names    — the names of flow documents.
  §2 Files    — `Makes` and `Supplies`, the flow of one file.
  §3 Order    — the files as they are read.
  §4 Catalogs — what is found in a catalog after some files.
  §5 Folders  — `FirstWith`, `Idle` and `ofFiles_exact`.
-/
import TaskFlow.Document.Folder
import TaskFlow.Proofs.Attempt
import TaskFlow.Proofs.Json.Order
import TaskFlow.Proofs.Text.Cuts

namespace TaskFlow

open TaskFlow.Text

variable {parse : String → Option FlowDocument} {read : FlowReader}
  {files rest others : List SourceFile} {file other : SourceFile} {f g : Flow}
  {id name text : String} {c : Catalog}

/-! ## §1 Names -/

/-- The name is something, a point and one of the endings of flow documents. -/
def NamesDocument (name : String) : Prop :=
  ∃ stem ending, stem ≠ [] ∧ ending ∈ documentEndings ∧
    name.toList = stem ++ ['.'] ++ ending.toList

theorem fileEnding?_eq_some {stem ending : List Char}
    (hname : name.toList = stem ++ ['.'] ++ ending) (hstem : stem ≠ []) (hending : '.' ∉ ending) :
    fileEnding? name = some (String.ofList ending) := by
  have hcut : cutLast ['.'] name.toList = some (stem, ending) := by
    have hno : ¬['.'] <:+: [] ++ ending := by
      rwa [List.nil_append, List.singleton_infix_iff]
    rw [hname, cutLast_append hno]
  cases stem with
  | nil => exact absurd rfl hstem
  | cons c stem => rw [fileEnding?, hcut]

theorem isDocumentName_iff : isDocumentName name = true ↔ NamesDocument name := by
  constructor
  · intro h
    unfold isDocumentName fileEnding? at h
    split at h
    · next ending hending =>
      split at hending
      · next c stem after hcut =>
        cases hending
        refine ⟨c :: stem, String.ofList after, List.cons_ne_nil c stem, of_decide_eq_true h, ?_⟩
        rw [String.toList_ofList]
        exact eq_append_of_cutLast hcut
      · cases hending
    · cases h
  · rintro ⟨stem, ending, hstem, hending, hname⟩
    have hpoint : ∀ e ∈ documentEndings, '.' ∉ e.toList := by decide
    rw [isDocumentName, fileEnding?_eq_some hname hstem (hpoint ending hending),
      String.ofList_toList]
    exact decide_eq_true hending

/-! ## §2 Files -/

namespace FlowDocument

/-- `readDefinition` with any way from a text to its document. -/
def readDefinitionBy (parse : String → Option FlowDocument) (text : String) :
    Except DocumentError FlowDefinition := do
  match parse text with
  | none => .error .malformed
  | some d => do
    d.check
    match d.definition with
    | .ok definition => .ok definition
    | .error cause => .error (.notLoaded cause)

/-- `readFlow` with any way from a text to its document. -/
def readFlowBy (parse : String → Option FlowDocument) : FlowReader := fun text => do
  let definition ← readDefinitionBy parse text
  match Flow.load definition with
  | .ok f => .ok f
  | .error cause => .error (.notLoaded cause)

theorem readFlowBy_read? : readFlowBy read? = readFlow := rfl

/-- The text is that of a document which breaks no rule and whose definition is that of a flow. -/
inductive Makes (parse : String → Option FlowDocument) : String → Flow → Prop
  | intro {text : String} {d : FlowDocument} {definition : FlowDefinition} {f : Flow}
      (parsed : parse text = some d) (checked : d.check = .ok ())
      (converted : d.definition = .ok definition) (loaded : Flow.load definition = .ok f) :
      Makes parse text f

theorem readFlowBy_eq_ok_iff : readFlowBy parse text = .ok f ↔ Makes parse text f := by
  constructor
  · intro h
    obtain ⟨definition, hdefinition, hload⟩ := bind_eq_ok_iff.mp h
    unfold readDefinitionBy at hdefinition
    split at hdefinition
    · cases hdefinition
    · next d hparsed =>
      obtain ⟨⟨⟩, hchecked, hconverted⟩ := bind_eq_ok_iff.mp hdefinition
      split at hconverted
      · next hok =>
        cases hconverted
        split at hload
        · next hloaded =>
          cases hload
          exact .intro hparsed hchecked hok hloaded
        · cases hload
      · cases hconverted
  · rintro ⟨hparsed, hchecked, hconverted, hloaded⟩
    simp [readFlowBy, readDefinitionBy, hparsed, hchecked, hconverted, hloaded, bind, Except.bind]

end FlowDocument

namespace SourceFile

/-- The file is a flow document, can be read, and its text makes a flow. -/
structure Supplies (parse : String → Option FlowDocument) (file : SourceFile) (f : Flow) :
    Prop where
  named : NamesDocument file.name
  makes : ∃ text, file.text = some text ∧ FlowDocument.Makes parse text f

theorem flow_of_text (read : FlowReader) (name text : String) :
    flow read ⟨name, some text⟩ = read text := rfl

theorem supplies_iff : file.Supplies parse f ↔
    isDocumentName file.name = true ∧ file.flow (FlowDocument.readFlowBy parse) = .ok f := by
  have hflow : file.flow (FlowDocument.readFlowBy parse) = .ok f ↔
      ∃ text, file.text = some text ∧ FlowDocument.Makes parse text f := by
    unfold flow
    cases file.text with
    | none => simp
    | some text => simp [FlowDocument.readFlowBy_eq_ok_iff]
  rw [isDocumentName_iff, hflow]
  exact ⟨fun h => ⟨h.named, h.makes⟩, fun h => ⟨h.1, h.2⟩⟩

theorem Supplies.makes_of_text (h : Supplies parse ⟨name, some text⟩ f) :
    FlowDocument.Makes parse text f := by
  obtain ⟨_, ⟨⟩, hmakes⟩ := h.makes
  exact hmakes

/-- A file supplies one flow at most. -/
theorem Supplies.unique (h : file.Supplies parse f) (hother : file.Supplies parse g) : g = f :=
  Except.ok.inj ((supplies_iff.mp hother).2.symm.trans (supplies_iff.mp h).2)

/-! ## §3 Order -/

theorem mem_documents :
    file ∈ documents files ↔ file ∈ files ∧ isDocumentName file.name = true := by
  rw [documents, List.mem_mergeSort, List.mem_filter]

/-- Files with different names are read in the order of these. -/
theorem pairwise_documents (hnames : (files.map (·.name)).Nodup) :
    (documents files).Pairwise fun a b => a.name < b.name := by
  have htrans : ∀ a b c : SourceFile,
      before a b = true → before b c = true → before a c = true := by
    intro a b c hab hbc
    exact decide_eq_true (String.le_trans (of_decide_eq_true hab) (of_decide_eq_true hbc))
  have htotal : ∀ a b : SourceFile, (before a b || before b a) = true := by
    intro a b
    rw [Bool.or_eq_true]
    exact (String.le_total a.name b.name).imp decide_eq_true decide_eq_true
  have hsorted := List.pairwise_mergeSort htrans htotal
    (files.filter fun file => isDocumentName file.name)
  have hne : (documents files).Pairwise fun a b => a.name ≠ b.name := by
    have hfiles : files.Pairwise fun a b => a.name ≠ b.name := List.pairwise_map.mp hnames
    exact ((List.mergeSort_perm _ _).pairwise_iff Ne.symm).mpr (hfiles.filter _)
  exact hsorted.imp₂ (fun a b hle hne => Std.lt_of_le_of_ne (of_decide_eq_true hle) hne) hne

end SourceFile

/-! ## §4 Catalogs -/

namespace Catalog

/-- The flow of a file, if it has the id. -/
def named? (read : FlowReader) (id : String) (file : SourceFile) : Option Flow :=
  match file.flow read with
  | .ok f => if f.id = id then some f else none
  | .error _ => none

theorem named?_eq_some_iff : named? read id file = some f ↔ file.flow read = .ok f ∧ f.id = id := by
  unfold named?
  cases file.flow read with
  | error e => simp
  | ok g =>
    dsimp only
    split
    · next hid => simpa using fun h => h ▸ hid
    · next hid => simpa using fun h => h ▸ hid

/-- What is found after one more file is what was there, and else the flow of the file. -/
theorem get?_addFile : Dictionary.get? id (c.addFile read file).flows =
    (Dictionary.get? id c.flows).or (named? read id file) := by
  unfold addFile named?
  cases file.flow read with
  | error e => simp
  | ok f =>
    dsimp only
    unfold add
    by_cases hin : c.contains f.id = true
    · rw [if_pos hin]
      dsimp only
      split
      · next hid =>
        obtain ⟨g, hg⟩ := Option.isSome_iff_exists.mp hin
        rw [← hid, hg, Option.some_or]
      · rw [Option.or_none]
    · rw [if_neg hin]
      dsimp only
      split
      · next hid =>
        have hnone : Dictionary.get? f.id c.flows = none := by
          simpa [contains, Dictionary.contains] using hin
        rw [← hid, Dictionary.get?_insert_self, hnone, Option.none_or]
      · next hid => rw [Dictionary.get?_insert_of_ne (Ne.symm hid), Option.or_none]

theorem get?_foldl_addFile (files : List SourceFile) (c : Catalog) :
    Dictionary.get? id (files.foldl (addFile read) c).flows =
      (Dictionary.get? id c.flows).or (files.findSome? (named? read id)) := by
  induction files generalizing c with
  | nil => simp
  | cons file files ih =>
    rw [List.foldl_cons, ih, get?_addFile, Option.or_assoc, List.findSome?_cons]
    cases named? read id file <;> rfl

theorem sorted_addFile (h : Dictionary.Sorted c.flows) (file : SourceFile) :
    Dictionary.Sorted (c.addFile read file).flows := by
  unfold addFile add
  cases file.flow read with
  | error e => exact h
  | ok f =>
    dsimp only
    by_cases hin : c.contains f.id = true
    · rw [if_pos hin]
      exact h
    · rw [if_neg hin]
      exact Dictionary.sorted_insert h f.id f

theorem sorted_foldl_addFile (files : List SourceFile) (h : Dictionary.Sorted c.flows) :
    Dictionary.Sorted (files.foldl (addFile read) c).flows := by
  induction files generalizing c with
  | nil => exact h
  | cons file files ih => exact ih (sorted_addFile h file)

/-- Catalogs are the same if the same is found in them. -/
theorem ofFiles_congr (h : ∀ id, Dictionary.get? id (ofFiles read files).flows =
    Dictionary.get? id (ofFiles read others).flows) : ofFiles read files = ofFiles read others := by
  have hsorted : ∀ files, Dictionary.Sorted (ofFiles read files).flows :=
    fun files => sorted_foldl_addFile _ List.Pairwise.nil
  exact congrArg Catalog.mk (Dictionary.ext_of_sorted (hsorted files) (hsorted others) h)

theorem flow_eq_ok_iff : c.flow id = .ok f ↔ Dictionary.get? id c.flows = some f := by
  unfold flow
  cases Dictionary.get? id c.flows <;> simp

/-! ## §5 Folders -/

/-- A file supplies the flow under its id, and no file whose name comes before supplies another. -/
def FirstWith (parse : String → Option FlowDocument) (files : List SourceFile) (id : String)
    (f : Flow) : Prop :=
  ∃ file ∈ files, file.Supplies parse f ∧ f.id = id ∧
    ∀ other ∈ files, other.name < file.name → ∀ g, other.Supplies parse g → g.id ≠ id

/-- A file beside others that does not count: it is no flow document, fails at one of the stages to
a flow, or supplies a flow whose id a file with an earlier name has taken. -/
inductive Idle (parse : String → Option FlowDocument) (others : List SourceFile) :
    SourceFile → Prop
  | otherwiseNamed {file : SourceFile} (h : ¬NamesDocument file.name) : Idle parse others file
  | unreadable {name : String} : Idle parse others ⟨name, none⟩
  | malformed {name text : String} (h : parse text = none) : Idle parse others ⟨name, some text⟩
  | invalid {name text : String} {d : FlowDocument} {e : DocumentError} (h : parse text = some d)
      (he : d.check = .error e) : Idle parse others ⟨name, some text⟩
  | notConverted {name text : String} {d : FlowDocument} {e : Error} (h : parse text = some d)
      (he : d.definition = .error e) : Idle parse others ⟨name, some text⟩
  | notLoaded {name text : String} {d : FlowDocument} {definition : FlowDefinition} {e : Error}
      (h : parse text = some d) (hdefinition : d.definition = .ok definition)
      (he : Flow.load definition = .error e) : Idle parse others ⟨name, some text⟩
  | taken {file other : SourceFile} {f g : Flow} (h : file.Supplies parse f) (hmem : other ∈ others)
      (hname : other.name < file.name) (hother : other.Supplies parse g) (hid : g.id = f.id) :
      Idle parse others file

/-- Whatever an idle file supplies, an earlier one supplies another flow of that id. -/
theorem Idle.exists_earlier (h : Idle parse others file) (hf : file.Supplies parse f) :
    ∃ other ∈ others, other.name < file.name ∧ ∃ g, other.Supplies parse g ∧ g.id = f.id := by
  cases h with
  | taken hfile hmem hname hother hid =>
    obtain rfl := hfile.unique hf
    exact ⟨_, hmem, hname, _, hother, hid⟩
  | otherwiseNamed hname => exact absurd hf.named hname
  | unreadable =>
    obtain ⟨text, htext, -⟩ := hf.makes
    cases htext
  | malformed hparse =>
    obtain ⟨hparsed⟩ := hf.makes_of_text
    cases hparse.symm.trans hparsed
  | invalid hparse hinvalid =>
    obtain ⟨hparsed, hchecked⟩ := hf.makes_of_text
    cases hparse.symm.trans hparsed
    cases hinvalid.symm.trans hchecked
  | notConverted hparse hfails =>
    obtain ⟨hparsed, -, hconverted⟩ := hf.makes_of_text
    cases hparse.symm.trans hparsed
    cases hfails.symm.trans hconverted
  | notLoaded hparse hdefinition hfails =>
    obtain ⟨hparsed, -, hconverted, hloaded⟩ := hf.makes_of_text
    cases hparse.symm.trans hparsed
    cases hdefinition.symm.trans hconverted
    cases hfails.symm.trans hloaded

/-- An idle file is never the first with an id, and never keeps another from being it. -/
theorem Idle.firstWith_iff (h : Idle parse rest file) :
    FirstWith parse (file :: rest) id f ↔ FirstWith parse rest id f := by
  constructor
  · rintro ⟨first, hmem, hf, hid, hfirst⟩
    have hothers : ∀ other ∈ rest, other.name < first.name → ∀ g, other.Supplies parse g →
        g.id ≠ id := fun other hother => hfirst other (List.mem_cons_of_mem file hother)
    rcases List.mem_cons.mp hmem with rfl | hrest
    · obtain ⟨other, hother, hname, g, hg, hgid⟩ := h.exists_earlier hf
      exact absurd (hgid.trans hid) (hothers other hother hname g hg)
    · exact ⟨first, hrest, hf, hid, hothers⟩
  · rintro ⟨first, hmem, hf, hid, hfirst⟩
    refine ⟨first, List.mem_cons_of_mem file hmem, hf, hid, ?_⟩
    intro other hother hname g hg hgid
    rcases List.mem_cons.mp hother with rfl | hrest
    · obtain ⟨earlier, hearlier, hlt, k, hk, hkid⟩ := h.exists_earlier hg
      exact hfirst earlier hearlier (String.lt_trans hlt hname) k hk (hkid.trans hgid)
    · exact hfirst other hrest hname g hg hgid

theorem firstWith_congr (h : files.Perm others) :
    FirstWith parse files id f ↔ FirstWith parse others id f := by
  simp only [FirstWith, h.mem_iff]

/-- Under an id, the first flow with that id is found. -/
theorem get?_ofFiles_iff (hnames : (files.map (·.name)).Nodup) :
    Dictionary.get? id (ofFiles (FlowDocument.readFlowBy parse) files).flows = some f ↔
      FirstWith parse files id f := by
  have hsorted := SourceFile.pairwise_documents hnames
  have hsupplies : ∀ {file f}, file ∈ SourceFile.documents files →
      (named? (FlowDocument.readFlowBy parse) id file = some f ↔
        file.Supplies parse f ∧ f.id = id) := by
    intro file f hmem
    rw [named?_eq_some_iff, SourceFile.supplies_iff]
    simp [(SourceFile.mem_documents.mp hmem).2]
  rw [ofFiles, get?_foldl_addFile, empty, Dictionary.get?_nil, Option.none_or,
    List.findSome?_eq_some_iff]
  constructor
  · rintro ⟨front, file, back, hall, hf, hfront⟩
    have hmem : file ∈ SourceFile.documents files := by simp [hall]
    obtain ⟨hsupplied, hid⟩ := (hsupplies hmem).mp hf
    refine ⟨file, (SourceFile.mem_documents.mp hmem).1, hsupplied, hid, ?_⟩
    intro other hother hlt g hg hgid
    have hread : other ∈ SourceFile.documents files :=
      SourceFile.mem_documents.mpr ⟨hother, (SourceFile.supplies_iff.mp hg).1⟩
    have hnamed := (hsupplies hread).mpr ⟨hg, hgid⟩
    rw [hall] at hread hsorted
    -- the files from this one on have no earlier names
    have hlater : ∀ b ∈ back, file.name < b.name :=
      (List.pairwise_cons.mp (List.pairwise_append.mp hsorted).2.1).1
    rcases List.mem_append.mp hread with hin | hin
    · rw [hfront other hin] at hnamed
      cases hnamed
    · rcases List.mem_cons.mp hin with rfl | hin
      · exact String.lt_irrefl _ hlt
      · exact String.lt_asymm hlt (hlater other hin)
  · rintro ⟨file, hfile, hf, hid, hfirst⟩
    have hmem : file ∈ SourceFile.documents files :=
      SourceFile.mem_documents.mpr ⟨hfile, (SourceFile.supplies_iff.mp hf).1⟩
    obtain ⟨front, back, hall⟩ := List.append_of_mem hmem
    refine ⟨front, file, back, hall, (hsupplies hmem).mpr ⟨hf, hid⟩, ?_⟩
    intro other hother
    have hread : other ∈ SourceFile.documents files := by simp [hall, hother]
    rw [hall] at hsorted
    have hlt : other.name < file.name :=
      (List.pairwise_append.mp hsorted).2.2 other hother file List.mem_cons_self
    rw [Option.eq_none_iff_forall_ne_some]
    intro g hnamed
    obtain ⟨hg, hgid⟩ := (hsupplies hread).mp hnamed
    exact hfirst other (SourceFile.mem_documents.mp hread).1 hlt g hg hgid

/-- An id is in the catalog if some file supplies a flow of that id. -/
theorem mem_ids_ofFiles_iff : id ∈ (ofFiles (FlowDocument.readFlowBy parse) files).ids ↔
    ∃ file ∈ files, ∃ f, file.Supplies parse f ∧ f.id = id := by
  rw [ids, Dictionary.mem_keys_iff, ofFiles, get?_foldl_addFile, empty, Dictionary.get?_nil,
    Option.none_or, List.findSome?_isSome_iff]
  simp only [SourceFile.mem_documents, Option.isSome_iff_exists, named?_eq_some_iff,
    SourceFile.supplies_iff]
  constructor
  · rintro ⟨file, ⟨hmem, hnamed⟩, f, hf, hid⟩
    exact ⟨file, hmem, f, ⟨hnamed, hf⟩, hid⟩
  · rintro ⟨file, hmem, f, ⟨hnamed, hf⟩, hid⟩
    exact ⟨file, ⟨hmem, hnamed⟩, f, hf, hid⟩

/-- The catalog of a folder, whatever way there is from a text to a document. It has the ids of the
flows that the files supply, and under each the flow of the first file that supplies one of that id.
It does not matter how the files are listed, and a file that is idle beside the others may as well
be there or not. -/
theorem ofFiles_exact (parse : String → Option FlowDocument) {files : List SourceFile}
    (hnames : (files.map (·.name)).Nodup) :
    let load := ofFiles (FlowDocument.readFlowBy parse)
    (∀ id, id ∈ (load files).ids ↔ ∃ file ∈ files, ∃ f, file.Supplies parse f ∧ f.id = id) ∧
    (∀ id f, (load files).flow id = .ok f ↔ FirstWith parse files id f) ∧
    (∀ others, others.Perm files → load others = load files) ∧
    (∀ file rest, files.Perm (file :: rest) → Idle parse rest file → load files = load rest) := by
  intro load
  have hfirst : ∀ {others}, files.Perm others → ∀ id f,
      Dictionary.get? id (load others).flows = some f ↔ FirstWith parse others id f :=
    fun hperm id f => get?_ofFiles_iff ((hperm.map _).nodup_iff.mp hnames)
  refine ⟨fun id => mem_ids_ofFiles_iff, ?_, ?_, ?_⟩
  · intro id f
    rw [flow_eq_ok_iff]
    exact hfirst (.refl files) id f
  · intro others hperm
    refine ofFiles_congr fun id => Option.ext fun f => ?_
    rw [hfirst hperm.symm, hfirst (.refl files), firstWith_congr hperm]
  · intro file rest hperm hidle
    have hrest : (rest.map (·.name)).Nodup :=
      ((hperm.map _).nodup_iff.mp hnames).sublist ((List.sublist_cons_self file rest).map _)
    refine ofFiles_congr fun id => Option.ext fun f => ?_
    rw [hfirst (.refl files), firstWith_congr hperm, hidle.firstWith_iff]
    exact (get?_ofFiles_iff hrest).symm

/-- The document of a flow of one task with a route. -/
def greeting (route : String) : String :=
  "flow:\n  id: greeting\nfirst.task: greet\ntasks:\n  - name: greet\n    execution: end\n" ++
    "    process: " ++ route ++ "\n"

/-- Of two files with flows of one id the one with the earlier name counts, wherever it is listed; a
file that cannot be read may as well not be there. -/
theorem ofFiles_exact_greeting :
    let later : SourceFile := ⟨"b.yml", some (greeting "v2.greet")⟩
    let broken : SourceFile := ⟨"broken.yml", none⟩
    let earlier : SourceFile := ⟨"a.yaml", some (greeting "v1.greet")⟩
    let load := ofFiles FlowDocument.readFlow
    (["b.yml", "broken.yml", "a.yaml"] : List String).Nodup ∧
      (∃ f, (load [later, broken, earlier]).flow "greeting" = .ok f ∧
        f.tasks.map (·.route) = ["v1.greet"]) ∧
      load [later, broken, earlier] = load [later, earlier] := by
  intro later broken earlier load
  have hnames : (["b.yml", "broken.yml", "a.yaml"] : List String).Nodup := by decide
  have hexact := @ofFiles_exact FlowDocument.read? [later, broken, earlier] hnames
  rw [FlowDocument.readFlowBy_read?] at hexact
  obtain ⟨-, hflow, -, hidle⟩ := hexact
  have hread : ((FlowDocument.readFlow (greeting "v1.greet")).toOption.map fun f =>
      (f.id, f.tasks.map (·.route))) = some ("greeting", ["v1.greet"]) := by decide +kernel
  have hearliest : ∀ name ∈ ["b.yml", "broken.yml", "a.yaml"], ¬name < "a.yaml" := by decide
  refine ⟨hnames, ?_, hidle broken [later, earlier] (.swap ..) .unreadable⟩
  cases hf : FlowDocument.readFlow (greeting "v1.greet") with
  | error e =>
    rw [hf] at hread
    cases hread
  | ok f =>
    rw [hf] at hread
    obtain ⟨hid, hroutes⟩ := Prod.mk.inj (Option.some.inj hread)
    have hsupplies : earlier.Supplies FlowDocument.read? f := by
      rw [SourceFile.supplies_iff, FlowDocument.readFlowBy_read?, SourceFile.flow_of_text]
      exact ⟨by decide, hf⟩
    refine ⟨f, (hflow "greeting" f).mpr ⟨earlier, by simp, hsupplies, hid, ?_⟩, hroutes⟩
    intro other hother hlt
    exact absurd hlt (hearliest other.name (List.mem_map_of_mem hother))

end Catalog

end TaskFlow
