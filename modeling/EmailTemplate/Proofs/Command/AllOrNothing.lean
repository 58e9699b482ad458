import EmailTemplate.Command.Run
import EmailTemplate.Proofs.Command.FileTree

/-!
# All or nothing

A job either fails, and then it prints nothing and changes no file, or it delivers what it produces
in the one place where that belongs (`run_allOrNothing`). It fails exactly if its configuration or
its template is not there or is faulty, or if its file cannot be written. What a command line comes
to is decided by the files that it names (`plan_readFrom`), so that a program may read these first
and carry out the plan then.
-/

namespace EmailTemplate.Command

/-- A path leads to a file that holds a text. -/
def FileTree.Holds (files : FileTree) (path text : String) : Prop :=
  ∃ bytes, files.read path = .ok bytes ∧ textOf? bytes = .ok text

namespace Job
variable (job : Job) (files : FileTree)

/-- Options with the title and the preheader of a job on top. -/
def overridden (base : CompileOptions) : CompileOptions :=
  { base with
    shell.title := job.title.getD base.shell.title
    shell.preheader := job.preheader.getD base.shell.preheader }

/-- The options of a job: those of its configuration, if it has one, with its own on top. -/
def Configured (options : CompileOptions) : Prop :=
  ∃ base : CompileOptions,
    (match job.config with
      | none => base = .standard
      | some path => ∃ text, files.Holds path text ∧ CompileOptions.ofToml? text = .ok base) ∧
    options = job.overridden base

/-- The template of a job. -/
def Templated (doc : Document) : Prop :=
  ∃ text, files.Holds job.input text ∧ Document.ofText? text = .ok doc

/-- What a job is to deliver: the email or the plain text of its template. -/
def Produces (text : String) : Prop :=
  ∃ options doc, job.Configured files options ∧ job.Templated files doc ∧
    text = if job.text then doc.plainText ++ "\n" else doc.compile options

/-- The extension of the file that a job writes if it names none. -/
def extension : String :=
  if job.text then "txt" else "html"

/-- The file that a job writes unless it prints: its output, or its input with an extension. -/
def outputPath : String :=
  job.output.getD (withExtension job.input job.extension)

/-- A job prints, or its file can be written. -/
def CanDeliver : Prop :=
  job.output = some "-" ∨ files.Writable job.outputPath

end Job

/-- A run that failed: it printed nothing and left every file as it was. -/
def Outcome.Untouched (files : FileTree) (o : Outcome) : Prop :=
  o.code = 1 ∧ o.stdout = "" ∧ o.files = files

section Reading
variable {job : Job} {files : FileTree} {path text : String}

/-- A path leads to a text exactly if reading it and decoding its bytes succeeds. -/
lemma holds_iff : files.Holds path text ↔ (files.read path >>= textOf?) = .ok text := by
  constructor
  · rintro ⟨bytes, read, denotes⟩
    rw [read]
    exact denotes
  · exact bind_ok

/-- The title and the preheader of a job are set one after the other, and each only if it is given.
-/
lemma getD_apply_eq_overridden (job : Job) (base : CompileOptions) :
    (job.preheader.map fun preheader =>
        ((job.title.map fun title => base.apply (.title title)).getD base).apply
          (.preheader preheader)).getD
      ((job.title.map fun title => base.apply (.title title)).getD base) =
      job.overridden base := by
  rw [Job.overridden]
  cases job.title <;> cases job.preheader <;> rfl

/-- The options of a job are found exactly if its configuration can be read and makes sense. -/
lemma options_eq_ok_iff {options : CompileOptions} :
    job.options files.read = .ok options ↔ job.Configured files options := by
  simp only [Job.options, Job.Configured, getD_apply_eq_overridden]
  cases job.config with
  | none =>
    constructor
    · intro h
      exact ⟨.standard, rfl, (Except.ok.inj h).symm⟩
    · rintro ⟨base, rfl, rfl⟩
      rfl
  | some path =>
    constructor
    · intro h
      obtain ⟨text, read, h⟩ := bind_ok h
      obtain ⟨base, parsed, h⟩ := bind_ok h
      refine ⟨base, ⟨text, holds_iff.2 (mapError_ok read), mapError_ok parsed⟩, ?_⟩
      exact (Except.ok.inj h).symm
    · rintro ⟨base, ⟨text, holds, parsed⟩, rfl⟩
      simp only
      rw [holds_iff.1 holds]
      change ((CompileOptions.ofToml? text).mapError _ >>= _) = _
      rw [parsed]
      rfl

/-- The template of a job is found exactly if its input can be read and makes sense. -/
lemma document_eq_ok_iff {doc : Document} :
    job.document files.read = .ok doc ↔ job.Templated files doc := by
  rw [Job.document, Job.Templated]
  constructor
  · intro h
    obtain ⟨text, read, h⟩ := bind_ok h
    exact ⟨text, holds_iff.2 (mapError_ok read), mapError_ok h⟩
  · rintro ⟨text, holds, doc⟩
    rw [holds_iff.1 holds]
    change (Document.ofText? text).mapError _ = _
    rw [doc]
    rfl

/-- A job has a result exactly if there is something that it is to deliver. -/
lemma result_eq_ok_iff : job.result files.read = .ok text ↔ job.Produces files text := by
  rw [Job.result, Job.Produces]
  constructor
  · intro h
    obtain ⟨options, configured, h⟩ := bind_ok h
    obtain ⟨doc, templated, h⟩ := bind_ok h
    exact ⟨options, doc, options_eq_ok_iff.1 configured, document_eq_ok_iff.1 templated,
      (Except.ok.inj h).symm⟩
  · rintro ⟨options, doc, configured, templated, rfl⟩
    rw [options_eq_ok_iff.2 configured, document_eq_ok_iff.2 templated]
    rfl

end Reading

section Plans
variable {args : List String} {job : Job}

/-- What can be read of the files that have been read is what could be read of them before. -/
lemma readFrom_map {paths : List String} {path : String}
    (read : String → Except FileError ByteArray) (mem : path ∈ paths) :
    readFrom (paths.map fun path => (path, read path)) path = read path := by
  induction paths with
  | nil => cases mem
  | cons first paths ih =>
    rw [readFrom, List.map_cons, List.lookup_cons]
    split
    case h_1 same => rw [eq_of_beq same, Option.getD_some]
    case h_2 other =>
      rcases List.mem_cons.1 mem with rfl | mem
      · rw [beq_self_eq_true] at other
        cases other
      · exact ih mem

/-- What a job comes to is decided by its sources. -/
lemma Job.plan_congr {read read' : String → Except FileError ByteArray}
    (same : ∀ path ∈ job.sources, read path = read' path) : job.plan read = job.plan read' := by
  have options : job.options read = job.options read' := by
    rw [Job.options, Job.options]
    cases config : job.config with
    | none => rfl
    | some path =>
      have mem : path ∈ job.sources := by simp [Job.sources, config]
      simp only [same path mem]
  have document : job.document read = job.document read' := by
    have mem : job.input ∈ job.sources := by simp [Job.sources]
    rw [Job.document, Job.document, same job.input mem]
  rw [Job.plan, Job.plan, Job.result, Job.result, options, document]

/-- It is enough to read the files of a command line in advance: what it comes to then is what it
comes to when it reads them itself. -/
theorem plan_readFrom (args : List String) (read : String → Except FileError ByteArray) :
    plan args (readFrom ((inputs args).map fun path => (path, read path))) = plan args read := by
  rw [plan, plan, inputs]
  cases parse? args with
  | none => rfl
  | some request =>
    cases request with
    | version => rfl
    | help => rfl
    | compile job => exact job.plan_congr fun _ mem => readFrom_map read mem

end Plans

variable {args : List String} {job : Job} (files : FileTree)

/-- A job prints only if its output is a single hyphen. -/
lemma target_eq (job : Job) :
    job.target = if job.output = some "-" then none else some job.outputPath := by
  rw [Job.target, Job.outputPath, Job.extension]
  cases job.output with
  | none =>
    have written : (none : Option String) ≠ some "-" := nofun
    rw [if_neg written, Option.getD_none]
  | some path =>
    rw [Option.getD_some]
    split
    case h_1 eq => rw [if_pos eq]
    case h_2 file eq =>
      cases eq
      rw [if_neg (fun printed => file (Option.some.inj printed))]
    case h_3 eq => cases eq

/-- A job comes to printing what it produces, or to writing it to its file. -/
lemma plan_of_produces {text : String} (produces : job.Produces files text) :
    job.plan files.read =
      if job.output = some "-" then .print text else .write job.outputPath text := by
  rw [Job.plan, result_eq_ok_iff.2 produces, target_eq]
  by_cases printed : job.output = some "-"
  · rw [if_pos printed, if_pos printed]
  · rw [if_neg printed, if_neg printed]

/-- What is produced is printed, or written to a file, or there is no file to write it to. -/
lemma run_cases {text : String} (produces : job.Produces files text) :
    (job.output = some "-" ∧ (job.plan files.read).run files = ⟨0, text, some "", files⟩) ∨
    (job.output ≠ some "-" ∧ ∃ p, files.locate job.outputPath = .ok p ∧
      files.isDirectory p = false ∧ asksForDirectory job.outputPath = false ∧
      (job.plan files.read).run files = ⟨0, "", some "", files.put p text.toUTF8⟩) ∨
    (¬job.CanDeliver files ∧ ((job.plan files.read).run files).Untouched files) := by
  rw [plan_of_produces files produces]
  by_cases printed : job.output = some "-"
  · left
    rw [if_pos printed]
    exact ⟨printed, rfl⟩
  · right
    rw [if_neg printed, Plan.run]
    obtain ⟨p, located, file, plain, written⟩ | ⟨unwritable, cause, failed⟩ :=
      files.write_cases job.outputPath text.toUTF8
    · left
      refine ⟨printed, p, located, file, plain, ?_⟩
      simp only [written]
    · right
      refine ⟨fun able => able.elim printed unwritable, ?_⟩
      simp only [failed]
      exact ⟨rfl, rfl, rfl⟩

/-- A job that produces nothing fails. -/
lemma run_of_produces_nothing (nothing : ¬∃ text, job.Produces files text) :
    ((job.plan files.read).run files).Untouched files := by
  rw [Job.plan]
  cases result : job.result files.read with
  | error failure => exact ⟨rfl, rfl, rfl⟩
  | ok text => exact absurd ⟨text, result_eq_ok_iff.1 result⟩ nothing

/-- A run of a command line that asks for a compilation is a run of its job. -/
lemma run_of_accepted (accepted : parse? args = some (.compile job)) :
    run args files = (job.plan files.read).run files := by
  rw [run, plan, accepted]

end EmailTemplate.Command
