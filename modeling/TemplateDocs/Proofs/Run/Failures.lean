import TemplateDocs.Proofs.Files.Faults
import TemplateDocs.Proofs.Page.Rendering
import TemplateDocs.Proofs.Run.Compiler
import TemplateDocs.Proofs.Template.Shape

/-! # How a run for one template fails

A run ends with a document in step, with a report that names the source, or with a fault. Faults are
few, and each has its place: the console of the compiler, the name of the source, the bytes of the compiled
template, the sections of the settings, the depth of its default values, the name of the document and its
text.
-/

namespace TemplateDocs

/-! ## Reports -/

/-- A failure that is reported and names a file. -/
def Failure.Names (e : Failure) (file : String) : Prop :=
  ∃ report, e = .reported report ∧ report.file = some file

/-- A failure that is reported and names no other file. -/
def Failure.NamesAtMost (e : Failure) (file : String) : Prop :=
  ∃ report, e = .reported report ∧ (report.file = none ∨ report.file = some file)

namespace Failure

variable {e : Failure} {file : String}

theorem NamesAtMost.attach (h : e.NamesAtMost file) : (e.attach file).Names file := by
  obtain ⟨report, rfl, hfile⟩ := h
  refine ⟨report.attach file, rfl, ?_⟩
  unfold Report.attach
  rcases hfile with hnone | hsome
  · simp [hnone]
  · simp [hsome]

theorem Names.namesAtMost (h : e.Names file) : e.NamesAtMost file := by
  obtain ⟨report, he, hfile⟩ := h
  exact ⟨report, he, .inr hfile⟩

end Failure

/-! ## Parsing -/

/-- The fault that the bytes of a compiled template end in: they are no text, or the document in them
is beyond the limits of the reader. -/
def compiledFault? (bytes : ByteArray) : Option Fault :=
  match Text.decode? bytes with
  | none => some .notText
  | some text =>
    match Json.read text with
    | .error e => e.fault?
    | .ok _ => none

theorem ofFile_eq_error {collect : Bool} {name : String} {contents : Contents} {e : Failure}
    (h : Findings.ofFile collect name contents = .error e) :
    e.NamesAtMost name ∨ ∃ e' f, contents = .error e' ∧ e'.fault? = some f ∧ e = .fault f := by
  unfold Findings.ofFile at h
  dsimp only at h
  split at h
  case h_1 e' =>
    cases hfault : e'.fault? with
    | none =>
        simp only [hfault, Option.map_none, Option.getD_none, Except.error.injEq] at h
        exact .inl ⟨_, h.symm, .inl rfl⟩
    | some f =>
        simp only [hfault, Option.map_some, Option.getD_some, Except.error.injEq] at h
        exact .inr ⟨e', f, rfl, hfault, h.symm⟩
  case h_2 bytes =>
    split at h
    case h_1 =>
      cases h
      exact .inl ⟨_, rfl, .inl rfl⟩
    case h_2 text htext =>
      split at h
      case h_1 =>
        cases h
        exact .inl ⟨_, rfl, .inl rfl⟩
      case h_2 => cases h

theorem compiledDocument_eq_error {name : String} {bytes : ByteArray} {e : Failure} (file : String)
    (h : compiledDocument name (.ok bytes) = .error e) :
    e.NamesAtMost file ∨ ∃ f, compiledFault? bytes = some f ∧ e = .fault f := by
  unfold compiledDocument at h
  unfold compiledFault?
  cases htext : Text.decode? bytes with
  | none =>
      simp only [htext, Except.error.injEq] at h
      exact .inr ⟨.notText, rfl, h.symm⟩
  | some text =>
      simp only [htext] at h
      cases hread : Json.read text with
      | error e' =>
          simp only [hread] at h
          cases hfault : e'.fault? with
          | some f =>
              simp only [hfault, Except.error.injEq] at h
              exact .inr ⟨f, by simp only [hread, hfault], h.symm⟩
          | none =>
              simp only [hfault, Except.error.injEq] at h
              exact .inl ⟨_, h.symm, .inl rfl⟩
      | ok doc =>
          simp only [hread] at h
          cases hobject : Decode.object "template" doc with
          | error e' =>
              obtain ⟨problem, rfl⟩ := Decode.object_eq_error hobject
              simp only [hobject, Except.error.injEq] at h
              exact .inl ⟨_, h.symm, .inl rfl⟩
          | ok entries =>
              rw [hobject] at h
              cases h

theorem compiledDocument_of_fault {name : String} {bytes : ByteArray} {f : Fault}
    (h : compiledFault? bytes = some f) : compiledDocument name (.ok bytes) = .error (.fault f) := by
  unfold compiledFault? at h
  unfold compiledDocument
  cases htext : Text.decode? bytes with
  | none =>
      rw [htext] at h
      cases h
      simp only [htext]
  | some text =>
      cases hread : Json.read text with
      | error e =>
          simp only [htext, hread] at h
          simp only [htext, hread, h]
      | ok doc => simp [htext, hread] at h

theorem ofFile_of_fault {collect : Bool} {name : String} {e : SystemError} {f : Fault}
    (h : e.fault? = some f) : Findings.ofFile collect name (.error e) = .error (.fault f) := by
  simp [Findings.ofFile, h]

theorem parse_result (sourceName : String) (source : Contents) (compiledName : String)
    (compiled : Contents) :
    (Template.parse sourceName source compiledName compiled).result =
      (Findings.ofFile true sourceName source >>= fun found =>
        compiledDocument compiledName compiled >>= fun doc =>
          (Template.ofDocument sourceName found doc).result) := by
  simp only [Template.parse, Outcome.bind_result]
  rfl

/-- Of a document that was read, all labels can be shown, so that nothing but a report comes of it. -/
theorem ofDocument_eq_error {name file : String} {found : Findings} {doc : Json} {e : Failure}
    (hlimits : doc.InLimits) (h : (Template.ofDocument name found doc).result = .error e) :
    e.NamesAtMost file := by
  have hchecks := Decode.decode_checks { fileName := name } doc
  unfold Template.ofDocument at h
  dsimp only at h
  split at h
  case h_1 e' hdecode =>
    have hnot : ¬ (doc.IsTemplate ∧ doc.LabelsShown) := by
      rintro ⟨htemplate, hshown⟩
      obtain ⟨t, ht⟩ := hchecks.accepts htemplate hshown
      rw [hdecode] at ht
      cases ht
    rcases hchecks.refuses hnot with ⟨field, problem, he⟩ | ⟨hlabels, -⟩
    · rw [hdecode] at he
      cases he
      cases h
      exact ⟨_, rfl, .inl rfl⟩
    · exact absurd hlimits.labelsShown hlabels
  case h_2 => cases h

namespace Generate

/-! ## Compiling -/

theorem build_eq_error {c : Compiler} {source : String} {w after : World} {e : Failure}
    (h : (c.build source).run.run w = (.error e, after)) :
    e.Names source ∨ (c.Starts source ∧ ¬ (c.compile source).IsText ∧ e = .fault .notText) := by
  rw [Compiler.build_run] at h
  dsimp only at h
  split at h
  · cases h
    exact .inl ⟨_, rfl, rfl⟩
  rename_i hending
  split at h
  · cases h
    exact .inl ⟨_, rfl, rfl⟩
  rename_i command hcommand
  split at h
  · cases h
    exact .inl ⟨_, rfl, rfl⟩
  rename_i hstarts
  split at h
  · rename_i herrors
    cases h
    obtain ⟨hnot, he⟩ := Compilation.errorText_eq_error_iff.mp herrors
    exact .inr ⟨⟨by simpa using hending, Compiler.command_any hcommand, by simpa using hstarts⟩, hnot, he⟩
  · split at h
    · cases h
    · cases h
      exact .inl ⟨_, rfl, rfl⟩

/-- Where the parsing of a template ends in a fault. -/
inductive ParseFault (c : Compiler) (source : String) (w : World) : Fault → Prop
  /-- The compiler is started, and what it writes to the console is no text. -/
  | console (hstarts : c.Starts source) (hconsole : ¬ (c.compile source).IsText) :
      ParseFault c source w .notText
  /-- The system is never asked about the name of the source. -/
  | source {f : Fault} {name : String} {built : World}
      (hbuilt : (c.build source).run.run w = (.ok name, built))
      (hname : Tree.nameFault? source = some f) : ParseFault c source w f
  /-- The source is in order, and the bytes of the product are not. -/
  | product {f : Fault} {name : String} {built : World} {found : Findings} {bytes : ByteArray}
      (hbuilt : (c.build source).run.run w = (.ok name, built))
      (hsource : Findings.ofFile true source (w.files.read source) = .ok found)
      (hproduct : built.readTemporary name = .ok bytes)
      (hbytes : compiledFault? bytes = some f) : ParseFault c source w f

theorem readTemporary_eq_error {w : World} {name : String} {e : SystemError}
    (h : w.readTemporary name = .error e) : e.fault? = none := by
  unfold World.readTemporary at h
  split at h
  · cases h
    rfl
  · cases h
  · cases h
    rfl

theorem build_files {c : Compiler} {source : String} {w built : World} {r : Except Failure String}
    (h : (c.build source).run.run w = (r, built)) : built.files = w.files := by
  have hkeeps := c.build_keeps source w
  rw [h] at hkeeps
  exact hkeeps.1

theorem parse_eq_error {c : Compiler} {source : String} {w after : World} {e : Failure}
    (h : (parse c source).run.run w = (.error e, after)) :
    e.NamesAtMost source ∨ ∃ f, ParseFault c source w f ∧ e = .fault f := by
  rw [parse_run] at h
  rcases hbuild : (c.build source).run.run w with ⟨e' | name, built⟩
  · rw [hbuild] at h
    cases h
    rcases build_eq_error hbuild with hnames | ⟨hstarts, hconsole, rfl⟩
    · exact .inl hnames.namesAtMost
    · exact .inr ⟨.notText, .console hstarts hconsole, rfl⟩
  rw [hbuild] at h
  have hresult := congrArg Prod.fst h
  simp only [build_files hbuild, parse_result] at hresult
  cases hsource : Findings.ofFile true source (w.files.read source) with
  | error e' =>
      rw [hsource] at hresult
      cases hresult
      rcases ofFile_eq_error hsource with hnames | ⟨system, f, hread, hfault, rfl⟩
      · exact .inl hnames
      · refine .inr ⟨f, .source hbuild ?_, rfl⟩
        rw [← hfault]
        exact (Tree.read_eq_error hread).symm
  | ok found =>
      simp only [hsource, bind, Except.bind] at hresult
      cases hproduct : built.readTemporary name with
      | error system =>
          have hdocument : compiledDocument (c.productPath name) (.error system) =
              .error (DecodeError.unreadable (c.productPath name)).failure := by
            simp [compiledDocument, readTemporary_eq_error hproduct]
          rw [hproduct, hdocument] at hresult
          cases hresult
          exact .inl ⟨_, rfl, .inl rfl⟩
      | ok bytes =>
          rw [hproduct] at hresult
          cases hdocument : compiledDocument (c.productPath name) (.ok bytes) with
          | error e' =>
              rw [hdocument] at hresult
              cases hresult
              rcases compiledDocument_eq_error source hdocument with hnames | ⟨f, hbytes, rfl⟩
              · exact .inl hnames
              · exact .inr ⟨f, .product hbuild hsource hproduct hbytes, rfl⟩
          | ok doc =>
              rw [hdocument] at hresult
              exact .inl (ofDocument_eq_error (compiledDocument_eq_ok hdocument).inLimits hresult)

theorem parse_of_fault {c : Compiler} {source : String} {w : World} {f : Fault}
    (h : ParseFault c source w f) : ((parse c source).run.run w).1 = .error (.fault f) := by
  rw [parse_run]
  cases h with
  | console hstarts hconsole =>
      obtain ⟨after, hbuild⟩ := hstarts.build_of_not_isText hconsole w
      rw [hbuild]
  | source hbuilt hname =>
      obtain ⟨system, hread, hfault⟩ := Tree.read_of_nameFault (t := w.files) hname
      rw [hbuilt]
      simp only [build_files hbuilt, parse_result, hread, ofFile_of_fault hfault]
      rfl
  | product hbuilt hsource hproduct hbytes =>
      rw [hbuilt]
      simp only [build_files hbuilt, parse_result, hsource, hproduct, compiledDocument_of_fault hbytes]
      rfl

/-! ## Documents -/

theorem needs_eq_error {s : Settings} {name : String} {e : Failure} (h : s.needs name = .error e) :
    ∃ f, e = .fault f := by
  unfold Settings.needs at h
  split at h
  · cases h
    exact ⟨_, rfl⟩
  · split at h
    · cases h
      exact ⟨_, rfl⟩
    · cases h

/-- Why a parsed template has no page: the settings have no sections that can be used, or they ask for an
example of use with a literal that there is no room for. -/
theorem page_eq_error_iff {s : Settings} {t : Template} {e : Failure} (h : t.FromDocument) :
    page s t = .error e ↔ s.needs "sections" = .error e ∨
      (s.needs "sections" = .ok () ∧ .usage ∈ s.sections ∧ ¬ t.HasRoom ∧ e = .fault .tooDeep) := by
  rw [page]
  cases s.needs "sections" with
  | error e' => simp [bind, Except.bind]
  | ok done =>
      have hiff := Page.exists_document_iff h s.sections s.showAllDecorators.truthy
      cases hdocument : Page.document t (s.sections.map .known) s.showAllDecorators.truthy with
      | ok text =>
          have hroom := hiff.mp ⟨text, hdocument⟩
          simp only [bind, Except.bind, reduceCtorEq, false_or, true_and, false_iff]
          exact fun ⟨husage, hnot, _⟩ => hnot (hroom husage)
      | error e' =>
          obtain rfl := Page.document_eq_error h hdocument
          have hnot : ¬ (.usage ∈ s.sections → t.HasRoom) := by
            intro hroom
            obtain ⟨text, htext⟩ := hiff.mpr hroom
            rw [hdocument] at htext
            cases htext
          have hmissing := Classical.not_imp.mp hnot
          simp [bind, Except.bind, hmissing, eq_comm]

theorem fromDocument_of_parse {c : Compiler} {source : String} {w after : World} {t : Template}
    (h : (parse c source).run.run w = (.ok t, after)) : t.FromDocument := by
  rw [parse_run] at h
  rcases hbuild : (c.build source).run.run w with ⟨e | name, built⟩
  · rw [hbuild] at h
    cases h
  · rw [hbuild] at h
    exact parse_fromDocument (congrArg Prod.fst h)

theorem page_eq_error {s : Settings} {t : Template} {e : Failure} (h : t.FromDocument)
    (he : page s t = .error e) : ∃ f, e = .fault f := by
  rcases (page_eq_error_iff h).mp he with hneeds | ⟨-, -, -, rfl⟩
  · exact needs_eq_error hneeds
  · exact ⟨_, rfl⟩

theorem document_eq_error {s : Settings} {target : String} {t : Template} {w after : World}
    {e : Failure} (ht : t.FromDocument)
    (h : (document s target t).run.run w = (.error e, after)) :
    (∃ e' : FileError, e = e'.failure) ∨ ∃ f, e = .fault f := by
  rw [document_run] at h
  cases hpage : page s t with
  | error e' =>
      rw [hpage] at h
      cases h
      exact .inr (page_eq_error ht hpage)
  | ok text =>
      simp only [hpage] at h
      rcases hsync : w.files.sync target text none w.disk with ⟨e' | status, files⟩
      · rw [hsync] at h
        cases h
        exact Tree.reported_or_fault_of_sync hsync
      · rw [hsync] at h
        cases h

theorem document_eq_fault_iff {s : Settings} {target : String} {t : Template} {w : World} {f : Fault} :
    ((document s target t).run.run w).1 = .error (.fault f) ↔
      page s t = .error (.fault f) ∨
        ∃ text, page s t = .ok text ∧ (w.files.sync target text none w.disk).1 = .error (.fault f) := by
  rw [document_run]
  cases page s t with
  | error e => simp
  | ok text => simp

/-! ## Jobs -/

/-- Where a run for a job ends in a fault. -/
inductive Escapes (c : Compiler) (s : Settings) (job : Job) (w : World) : Fault → Prop
  | parse {f : Fault} (h : ParseFault c job.source.text w f) : Escapes c s job w f
  /-- The settings have no sections that can be used. -/
  | sections {f : Fault} {t : Template} (ht : ((parse c job.source.text).run.run w).1 = .ok t)
      (hneeds : s.needs "sections" = .error (.fault f)) : Escapes c s job w f
  /-- The example of use is asked for, and the literal of a default value takes more calls than there is
  room for. -/
  | rendering {t : Template} (ht : ((parse c job.source.text).run.run w).1 = .ok t)
      (hneeds : s.needs "sections" = .ok ()) (husage : .usage ∈ s.sections) (hroom : ¬ t.HasRoom) :
      Escapes c s job w .tooDeep
  /-- The system is never asked about the name of the document. -/
  | target {f : Fault} {text : String} (htext : Renders c s job w text)
      (hinspect : w.disk.refuses .inspect = false)
      (hname : Tree.nameFault? job.target.text = some f) : Escapes c s job w f
  /-- The document has no bytes, which shows once its draft is open. -/
  | document {text : String} (htext : Renders c s job w text)
      (hhalf : Text.hasHalf (Tree.withLineFeeds text) = true)
      (hdraft : w.files.LeavesDraft job.target.text text w.disk) : Escapes c s job w .noBytes

theorem one_run (c : Compiler) (s : Settings) (job : Job) (w : World) :
    (one c s job).run.run w =
      match (parse c job.source.text).run.run w with
      | (.error e, after) => (.error (e.attach job.source.text), after)
      | (.ok t, mid) =>
        match (document s job.target.text t).run.run mid with
        | (.error e, after) => (.error (e.attach job.source.text), after)
        | (.ok status, after) =>
          (.ok { path := job.target.text, status },
            { after with synced := after.synced ++ [{ path := job.target.text, status }] }) := by
  unfold one
  dsimp only
  rw [Run.run_bind, Run.processing_run, Run.run_bind]
  rcases (parse c job.source.text).run.run w with ⟨e | t, mid⟩
  · rfl
  · dsimp only
    rcases (document s job.target.text t).run.run mid with ⟨e | status, after⟩ <;> rfl

theorem attach_eq_fault_iff {e : Failure} {file : String} {f : Fault} :
    e.attach file = .fault f ↔ e = .fault f := by
  cases e <;> simp [Failure.attach]

theorem escapes_of_document {c : Compiler} {s : Settings} {job : Job} {w mid : World} {t : Template}
    {f : Fault} (hparse : (parse c job.source.text).run.run w = (.ok t, mid)) :
    ((document s job.target.text t).run.run mid).1 = .error (.fault f) ↔
      page s t = .error (.fault f) ∨ ∃ text, Renders c s job w text ∧
        (w.files.sync job.target.text text none w.disk).1 = .error (.fault f) := by
  have hkeeps := parse_keeps c job.source.text w
  rw [hparse] at hkeeps
  obtain ⟨hfiles, hdisk⟩ := hkeeps
  simp only at hfiles hdisk
  rw [document_eq_fault_iff, hfiles, hdisk]
  unfold Renders
  simp [hparse]

theorem one_eq_fault_iff {c : Compiler} {s : Settings} {job : Job} {w : World} {f : Fault} :
    ((one c s job).run.run w).1 = .error (.fault f) ↔ Escapes c s job w f := by
  rw [one_run]
  rcases hparse : (parse c job.source.text).run.run w with ⟨e | t, mid⟩
  · have hnot : ∀ t, ((parse c job.source.text).run.run w).1 ≠ .ok t := by simp [hparse]
    simp only [Except.error.injEq, attach_eq_fault_iff]
    constructor
    · rintro rfl
      rcases parse_eq_error hparse with ⟨report, hreport, -⟩ | ⟨f', hfault, heq⟩
      · cases hreport
      · cases heq
        exact .parse hfault
    · rintro (hfault | ⟨ht, -⟩ | ⟨ht, -⟩ | ⟨⟨t, ht, -⟩, -⟩ | ⟨⟨t, ht, -⟩, -⟩)
      · have hresult := parse_of_fault hfault
        rw [hparse] at hresult
        exact Except.error.inj hresult
      · exact absurd ht (hnot _)
      · exact absurd ht (hnot _)
      · exact absurd ht (hnot t)
      · exact absurd ht (hnot t)
  · have hresult : ((parse c job.source.text).run.run w).1 = .ok t := by rw [hparse]
    have hdocument := escapes_of_document (s := s) (f := f) hparse
    have hpage := page_eq_error_iff (s := s) (e := .fault f) (fromDocument_of_parse hparse)
    have hescapes : Escapes c s job w f ↔
        ((document s job.target.text t).run.run mid).1 = .error (.fault f) := by
      rw [hdocument, hpage]
      constructor
      · rintro (hfault | ⟨-, hneeds⟩ | ⟨ht, hneeds, husage, hroom⟩ | ⟨htext, hinspect, hname⟩ |
          ⟨htext, hhalf, hdraft⟩)
        · have hfailed := parse_of_fault hfault
          rw [hresult] at hfailed
          cases hfailed
        · exact .inl (.inl hneeds)
        · rw [hresult] at ht
          cases ht
          exact .inl (.inr ⟨hneeds, husage, hroom, rfl⟩)
        · exact .inr ⟨_, htext, Tree.sync_eq_fault_iff.mpr (.inl ⟨hinspect, hname⟩)⟩
        · exact .inr ⟨_, htext, Tree.sync_eq_fault_iff.mpr (.inr ⟨rfl, hhalf, hdraft⟩)⟩
      · rintro ((hneeds | ⟨hneeds, husage, hroom, hfault⟩) | ⟨text, htext, hsync⟩)
        · exact .sections hresult hneeds
        · cases hfault
          exact .rendering hresult hneeds husage hroom
        · rcases Tree.sync_eq_fault_iff.mp hsync with ⟨hinspect, hname⟩ | ⟨rfl, hhalf, hdraft⟩
          · exact .target htext hinspect hname
          · exact .document htext hhalf hdraft
    rw [hescapes]
    dsimp only
    rcases (document s job.target.text t).run.run mid with ⟨e | status, after⟩
    · simp [attach_eq_fault_iff]
    · simp

/-- What is no fault names the source. -/
theorem one_eq_error_cases {c : Compiler} {s : Settings} {job : Job} {w after : World} {e : Failure}
    (h : (one c s job).run.run w = (.error e, after)) :
    e.Names job.source.text ∨ ∃ f, e = .fault f := by
  rw [one_run] at h
  rcases hparse : (parse c job.source.text).run.run w with ⟨e' | t, mid⟩
  · rw [hparse] at h
    cases h
    rcases parse_eq_error hparse with hnames | ⟨f, -, rfl⟩
    · exact .inl hnames.attach
    · exact .inr ⟨f, rfl⟩
  · simp only [hparse] at h
    rcases hdocument : (document s job.target.text t).run.run mid with ⟨e' | status, last⟩
    · rw [hdocument] at h
      cases h
      rcases document_eq_error (fromDocument_of_parse hparse) hdocument with ⟨e'', rfl⟩ | ⟨f, rfl⟩
      · exact .inl (Failure.NamesAtMost.attach ⟨_, rfl, .inl rfl⟩)
      · exact .inr ⟨f, rfl⟩
    · rw [hdocument] at h
      cases h

/-- A run for a job ends with a document in step or with a report that names the source, exactly when
no fault escapes: neither the console of the compiler, the name of the source, the bytes of the product, the
sections of the settings and the depth of default values nor the name and the text of the document give
one. -/
theorem one_located_iff (c : Compiler) (s : Settings) (job : Job) (w : World) :
    ((∃ synced, ((one c s job).run.run w).1 = .ok synced) ∨
        ∃ report : Report, ((one c s job).run.run w).1 = .error (.reported report) ∧
          report.file = some job.source.text) ↔
      ∀ f, ¬ Escapes c s job w f := by
  rcases hone : (one c s job).run.run w with ⟨e | synced, after⟩
  · constructor
    · rintro (⟨synced, hsynced⟩ | ⟨report, hreport, -⟩) f hescapes
      · cases hsynced
      · have hfault := one_eq_fault_iff.mpr hescapes
        rw [hone] at hfault
        cases hreport
        cases hfault
    · intro hnone
      rcases one_eq_error_cases hone with ⟨report, rfl, hfile⟩ | ⟨f, rfl⟩
      · exact .inr ⟨report, rfl, hfile⟩
      · exact absurd (one_eq_fault_iff.mp (by rw [hone])) (hnone f)
  · refine iff_of_true (.inl ⟨synced, rfl⟩) fun f hescapes => ?_
    have hfault := one_eq_fault_iff.mpr hescapes
    rw [hone] at hfault
    cases hfault

/-- A compiler whose products are no text. -/
def brokenCompiler : Compiler where
  compile _ := { product := some (.file ⟨#[0xFF]⟩) }
  folder := "/tmp"
  tag _ := "0"

theorem brokenCompiler_build (w : World) :
    ∃ name built, (brokenCompiler.build (Path.ofString "main.bicep").text).run.run w =
        (.ok name, built) ∧ built.readTemporary name = .ok ⟨#[0xFF]⟩ := by
  rw [Compiler.build_run, if_neg (by decide +kernel)]
  refine ⟨_, _, rfl, ?_⟩
  simp [World.readTemporary, Compiler.worldAfter, World.addTemporary, brokenCompiler, entryOf?]

/-- A product that is no text: the failure is not reported, and it names no file. -/
theorem one_escapes_notText :
    ((one brokenCompiler (.default none) ⟨.ofString "main.bicep", .ofString "README.md"⟩).run.run
      { files := .folder [("main.bicep", .file .empty)] }).1 = .error (.fault .notText) := by
  have hread : (Tree.folder [("main.bicep", .file .empty)]).read (Path.ofString "main.bicep").text =
      .ok .empty := by
    decide +kernel
  have hsource : ∃ found, Findings.ofFile true (Path.ofString "main.bicep").text
      ((Tree.folder [("main.bicep", .file .empty)]).read (Path.ofString "main.bicep").text) =
        .ok found := by
    rw [hread]
    exact ⟨_, rfl⟩
  obtain ⟨found, hsource⟩ := hsource
  obtain ⟨name, built, hbuilt, hproduct⟩ := brokenCompiler_build _
  exact one_eq_fault_iff.mpr (.parse (.product hbuilt hsource hproduct (by decide +kernel)))

end Generate

end TemplateDocs
