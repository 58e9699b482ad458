import EmailTemplate.Proofs.Command.AllOrNothing
import EmailTemplate.Proofs.Command.Path

/-!
# The output that is not named

Where no output is named, a job writes to its input with the extension replaced. This leaves its
sources as they are, but for two cases that nothing guards against: an input that has the extension
of the output is the output itself, and so may be the configuration (`run_keeps_sources`,
`run_replaces_sources`).
-/

namespace EmailTemplate.Command
open Text

/-- Two paths lead to one file. -/
def FileTree.SameFile (files : FileTree) (path path' : String) : Prop :=
  ∃ p, files.locate path = .ok p ∧ files.locate path' = .ok p ∧ files.isDirectory p = false

/-- A path ends in a name with an extension: something other than a point, a point, and that. -/
def HasExtension (path extension : String) : Prop :=
  ∃ folder name stem, Splits path.toList folder name ∧ name = stem ++ '.' :: extension.toList ∧
    stem ≠ [] ∧ stem ≠ ['.']

section Names
variable {name extension : List Char}

/-- What stands in a name before its last point, if it has one. -/
def stemOf (name : List Char) : List Char :=
  ((name.reverse.dropWhile (· != '.')).drop 1).reverse

/-- A name with its extension replaced, as `withExtension` replaces it in a path. -/
def renamed (name extension : List Char) : List Char :=
  if stemOf name = ['.'] then ['.', '.']
  else (if (stemOf name).isEmpty then name else stemOf name) ++ '.' :: extension

/-- The stem of a name is what stands before its last point. -/
lemma stemOf_append (whole : '.' ∉ extension) (stem : List Char) :
    stemOf (stem ++ '.' :: extension) = stem := by
  have skipped : (extension.reverse ++ '.' :: stem.reverse).dropWhile (· != '.') =
      '.' :: stem.reverse := by
    rw [List.dropWhile_append_of_pos]
    · rfl
    · intro c mem
      exact bne_iff_ne.2 fun point => whole (List.mem_reverse.1 (point ▸ mem))
  rw [stemOf, List.reverse_append, List.reverse_cons, List.append_assoc, List.singleton_append,
    skipped, List.drop_one, List.tail_cons, List.reverse_reverse]

/-- A stem has no characters but those of its name. -/
lemma stemOf_subset (name : List Char) : stemOf name ⊆ name := by
  intro c mem
  have back := List.mem_of_mem_drop (List.mem_reverse.1 mem)
  exact List.mem_reverse.1 ((List.dropWhile_sublist _).subset back)

/-- A name does not become empty when its extension is replaced. -/
lemma renamed_ne_nil : renamed name extension ≠ [] := by
  rw [renamed]
  split
  · exact List.cons_ne_nil _ _
  · exact List.append_ne_nil_of_right_ne_nil _ (List.cons_ne_nil _ _)

/-- Replacing the extension of a name makes no folder of a part of it. -/
lemma slash_notMem_renamed (bare : '/' ∉ name) (bare' : '/' ∉ extension) :
    '/' ∉ renamed name extension := by
  rw [renamed]
  split
  · decide
  · rw [List.mem_append, List.mem_cons, not_or, not_or]
    refine ⟨?_, by decide, bare'⟩
    split
    · exact bare
    · exact fun mem => bare (stemOf_subset name mem)

/-- A name that keeps its extension has the new one, unless it is that of the directory above. -/
lemma eq_append_of_renamed (same : renamed name extension = name) (down : name ≠ ['.', '.']) :
    ∃ stem, name = stem ++ '.' :: extension ∧ stem ≠ [] ∧ stem ≠ ['.'] := by
  rw [renamed] at same
  split at same
  case isTrue => exact absurd same.symm down
  case isFalse notPoint =>
    split at same
    case isTrue =>
      exact absurd (List.append_right_eq_self.1 same) (List.cons_ne_nil _ _)
    case isFalse filled =>
      exact ⟨stemOf name, same.symm, fun empty => filled (List.isEmpty_iff.2 empty), notPoint⟩

/-- A name that has the extension already keeps it. -/
lemma renamed_append (whole : '.' ∉ extension) {stem : List Char} (filled : stem ≠ [])
    (notPoint : stem ≠ ['.']) :
    renamed (stem ++ '.' :: extension) extension = stem ++ '.' :: extension := by
  rw [renamed, stemOf_append whole, if_neg notPoint, if_neg]
  exact fun empty => filled (List.isEmpty_iff.1 empty)

end Names

section Paths
variable {files : FileTree} {old : ByteArray} {path extension : String} {folder name : List Char}

/-- Replacing the extension changes the name that a path ends in, and not its folder. -/
lemma toList_withExtension (h : Splits path.toList folder name) :
    (withExtension path extension).toList = folder ++ renamed name extension.toList := by
  have front : path.toList.take (path.toList.length - name.length) = folder := by
    rw [h.eq, List.length_append, Nat.add_sub_cancel, List.take_left]
  rw [withExtension]
  simp only [takeWhile_reverse_of_splits h, front]
  change (if stemOf name == ['.'] then _ else _ ++ String.ofList
    (if (stemOf name).isEmpty then name else stemOf name) ++ "." ++ extension : String).toList = _
  rw [renamed]
  by_cases point : stemOf name = ['.']
  · rw [if_pos point, if_pos (beq_iff_eq.2 point), String.toList_append, String.toList_ofList]
    rfl
  · rw [if_neg point, if_neg (fun eq => point (eq_of_beq eq))]
    simp only [String.toList_append, String.toList_ofList, List.append_assoc]
    rfl

/-- With another extension, a path has the same folder. -/
lemma splits_withExtension (bare : '/' ∉ extension.toList) (h : Splits path.toList folder name) :
    Splits (withExtension path extension).toList folder (renamed name extension.toList) :=
  ⟨toList_withExtension h, slash_notMem_renamed h.bare bare, h.closed⟩

/-- A path that ends in an extension keeps it. -/
lemma withExtension_of_hasExtension (whole : '.' ∉ extension.toList)
    (h : HasExtension path extension) : withExtension path extension = path := by
  obtain ⟨folder, name, stem, splits, rfl, filled, notPoint⟩ := h
  apply String.toList_inj.1
  rw [toList_withExtension splits, renamed_append whole filled notPoint, splits.eq]

/-- The extension of the output is a part of a name. -/
lemma slash_notMem_extension (job : Job) : '/' ∉ job.extension.toList := by
  rw [Job.extension]
  split <;> decide +kernel

/-- The extension of the output is a single one. -/
lemma point_notMem_extension (job : Job) : '.' ∉ job.extension.toList := by
  rw [Job.extension]
  split <;> decide +kernel

/-- Only a path that is not empty, and that does not ask for a directory, leads to bytes. -/
lemma not_asksForDirectory_of_read (reads : files.read path = .ok old) :
    path.isEmpty = false ∧ asksForDirectory path = false := by
  rw [FileTree.read] at reads
  obtain ⟨p, located, reads⟩ := bind_ok reads
  rw [FileTree.locate] at located
  split at located
  case isTrue => cases located
  case isFalse filled =>
    refine ⟨by simpa using filled, ?_⟩
    split at reads
    case h_1 =>
      split at reads
      · cases reads
      · rename_i file
        simpa using file
    case h_2 => cases reads

/-- A file that can be read is only replaced by its own default output if that is its name. -/
lemma hasExtension_of_sameFile (bare : '/' ∉ extension.toList) (reads : files.read path = .ok old)
    (same : files.SameFile path (withExtension path extension)) : HasExtension path extension := by
  obtain ⟨p, located, located', file⟩ := same
  obtain ⟨folder, name, splits⟩ := exists_splits path.toList
  have named : name ≠ [] := by
    rintro rfl
    obtain ⟨filled, plain⟩ := not_asksForDirectory_of_read reads
    rw [asksForDirectory_of_splits splits filled] at plain
    cases plain
  obtain ⟨kept, down⟩ := FileTree.eq_of_locate splits (splits_withExtension bare splits) named
    renamed_ne_nil located located' file
  obtain ⟨stem, eq, filled, notPoint⟩ := eq_append_of_renamed kept.symm down
  exact ⟨folder, name, stem, splits, eq, filled, notPoint⟩

end Paths

section Runs
variable {job : Job} {files : FileTree} {path text : String}

/-- A job changes at most one file, one that its output leads to. -/
lemma files_run_cases (job : Job) (files : FileTree) :
    ((job.plan files.read).run files).files = files ∨
      ∃ text p, job.Produces files text ∧ files.locate job.outputPath = .ok p ∧
        files.isDirectory p = false ∧
        ((job.plan files.read).run files).files = files.put p text.toUTF8 := by
  by_cases produced : ∃ text, job.Produces files text
  · obtain ⟨text, produces⟩ := produced
    obtain ⟨-, eq⟩ | ⟨-, p, located, file, -, eq⟩ | ⟨-, -, -, same⟩ := run_cases files produces
    · left
      rw [eq]
    · right
      refine ⟨text, p, produces, located, file, ?_⟩
      rw [eq]
    · exact .inl same
  · obtain ⟨-, -, same⟩ := run_of_produces_nothing files produced
    exact .inl same

/-- What is read by a path stays the same in a run, unless the output is the same file. -/
lemma read_run (reads : ∀ text, job.Produces files text → ∃ old, files.read path = .ok old)
    (other : ∀ old, files.read path = .ok old → ¬files.SameFile path job.outputPath) :
    ((job.plan files.read).run files).files.read path = files.read path := by
  obtain same | ⟨text, p, produces, located, file, eq⟩ := files_run_cases job files
  · rw [same]
  · obtain ⟨old, reads⟩ := reads text produces
    rw [eq, reads]
    apply FileTree.read_put (FileTree.held_of_locate located) file reads
    exact fun located' => other old reads ⟨p, located', located, file⟩

/-- A job that produces something has read its input. -/
lemma read_input (produces : job.Produces files text) :
    ∃ old, files.read job.input = .ok old := by
  obtain ⟨options, doc, -, ⟨text, ⟨old, reads, -⟩, -⟩, -⟩ := produces
  exact ⟨old, reads⟩

/-- A job that produces something has read its configuration, if it has one. -/
lemma read_config (configured : job.config = some path) (produces : job.Produces files text) :
    ∃ old, files.read path = .ok old := by
  obtain ⟨options, doc, ⟨base, config, -⟩, -⟩ := produces
  rw [configured] at config
  obtain ⟨text, ⟨old, reads, -⟩, -⟩ := config
  exact ⟨old, reads⟩

end Runs

/-- Where no output is named, the input keeps its bytes unless it has the extension of the output
already, and then the output is the input. The configuration keeps its bytes unless it is the very
file that is written. -/
theorem run_keeps_sources {args : List String} {job : Job} (files : FileTree)
    (accepted : parse? args = some (.compile job)) (unnamed : job.output = none) :
    (¬HasExtension job.input job.extension →
      (run args files).files.read job.input = files.read job.input) ∧
    (HasExtension job.input job.extension → job.outputPath = job.input) ∧
    ∀ path, job.config = some path → ¬files.SameFile path job.outputPath →
      (run args files).files.read path = files.read path := by
  have output : job.outputPath = withExtension job.input job.extension := by
    rw [Job.outputPath, unnamed, Option.getD_none]
  rw [run_of_accepted files accepted]
  refine ⟨?_, ?_, ?_⟩
  · intro other
    apply read_run fun _ => read_input
    intro old reads same
    rw [output] at same
    exact other (hasExtension_of_sameFile (slash_notMem_extension job) reads same)
  · intro extended
    rw [output]
    exact withExtension_of_hasExtension (point_notMem_extension job) extended
  · intro path configured other
    exact read_run (fun _ => read_config configured) fun _ _ => other

/-- A job for the plain text of a template, with or without a configuration. -/
def textJob (input : String) (config : Option String) : Job where
  input := input
  output := none
  config := config
  title := none
  preheader := none
  text := true

/-- The working directory with an empty template and an empty configuration. -/
def sources (template config : String) : FileTree :=
  [(.within [template], "\x7b\x7d".toUTF8), (.within [config], "".toUTF8)]

/-- A command line that names a template and a configuration. -/
def mailArgs : List String :=
  ["mail.json", "--text", "--config", "mail.toml"]

/-- The template and the configuration of that command line. -/
def mailFiles : FileTree :=
  sources "mail.json" "mail.toml"

/-- Neither source has the extension of the output, and both are left as they are. -/
theorem run_keeps_mail :
    parse? mailArgs = some (.compile (textJob "mail.json" (some "mail.toml"))) ∧
      ¬HasExtension "mail.json" "txt" ∧ ¬mailFiles.SameFile "mail.toml" "mail.txt" ∧
      (run mailArgs mailFiles).files.read "mail.json" = mailFiles.read "mail.json" ∧
      (run mailArgs mailFiles).files.read "mail.toml" = mailFiles.read "mail.toml" := by
  have accepted : parse? mailArgs = some (.compile (textJob "mail.json" (some "mail.toml"))) := by
    decide +kernel
  have other : ¬HasExtension "mail.json" "txt" := by
    rintro ⟨folder, name, stem, splits, rfl, -, -⟩
    have last := congrArg List.getLast? splits.eq
    rw [← List.append_assoc, List.getLast?_append_of_ne_nil _ (List.cons_ne_nil _ _)] at last
    exact absurd last (by decide +kernel)
  have config : mailFiles.locate "mail.toml" = .ok (.within ["mail.toml"]) := by decide +kernel
  have output : mailFiles.locate "mail.txt" = .ok (.within ["mail.txt"]) := by decide +kernel
  have apart : ¬mailFiles.SameFile "mail.toml" "mail.txt" := by
    rintro ⟨p, located, located', -⟩
    rw [config] at located
    rw [output, ← located] at located'
    exact absurd located' (by decide)
  have path : (textJob "mail.json" (some "mail.toml")).outputPath = "mail.txt" := by decide +kernel
  obtain ⟨keepsInput, -, keepsConfig⟩ := run_keeps_sources mailFiles accepted rfl
  exact ⟨accepted, other, apart, keepsInput other, keepsConfig "mail.toml" rfl (path ▸ apart)⟩

/-- A template with the extension of the output is replaced, and so is a configuration that has the
name of the output. -/
theorem run_replaces_sources :
    (parse? ["mail.txt", "--text"] = some (.compile (textJob "mail.txt" none)) ∧
      (run ["mail.txt", "--text"] (sources "mail.txt" "mail.toml")).files.read "mail.txt" ≠
        (sources "mail.txt" "mail.toml").read "mail.txt") ∧
    (parse? ["mail.json", "--text", "--config", "mail.txt"] =
        some (.compile (textJob "mail.json" (some "mail.txt"))) ∧
      (run ["mail.json", "--text", "--config", "mail.txt"]
          (sources "mail.json" "mail.txt")).files.read "mail.txt" ≠
        (sources "mail.json" "mail.txt").read "mail.txt") := by
  decide +kernel

end EmailTemplate.Command
