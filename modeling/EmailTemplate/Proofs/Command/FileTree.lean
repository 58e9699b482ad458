import EmailTemplate.Command.FileTree
import EmailTemplate.Proofs.Json.Step
import Mathlib.Data.List.Infix

/-!
# What writing a file changes

Writing a file changes what is read at its own place and nowhere else. A file is written only where
a directory is already there to hold it, so no place becomes a directory, and every path that could
be followed still leads to the same place (`Place.Held`, `read_put`).
-/

namespace EmailTemplate.Command

namespace FileTree
variable {t t' : FileTree} {p q : Place} {bytes : ByteArray} {path : String}

/-- At any other place nothing changes. -/
lemma lookup_put_of_ne (other : q ≠ p) : (t.put p bytes).lookup q = t.lookup q := by
  induction t with
  | nil => rw [put, List.lookup_cons, beq_false_of_ne other]
  | cons file files ih =>
    obtain ⟨r, old⟩ := file
    rw [put]
    split
    case isTrue same =>
      rw [List.lookup_cons, List.lookup_cons, beq_false_of_ne (eq_of_beq same ▸ other)]
    case isFalse =>
      rw [List.lookup_cons, List.lookup_cons, ih]

/-- Putting bytes at a place adds that place and no other. -/
lemma mem_places_put : q ∈ (t.put p bytes).map Prod.fst ↔ q = p ∨ q ∈ t.map Prod.fst := by
  induction t with
  | nil =>
    rw [put, List.map_singleton, List.mem_singleton, List.map_nil, or_iff_left List.not_mem_nil]
  | cons file files ih =>
    obtain ⟨r, old⟩ := file
    rw [put]
    split
    case isTrue same =>
      rw [eq_of_beq same, List.map_cons, List.map_cons, List.mem_cons]
      exact ⟨.inr, fun h => h.elim .inl id⟩
    case isFalse =>
      rw [List.map_cons, List.map_cons, List.mem_cons, List.mem_cons, ih]
      exact or_left_comm

/-- A file can be written where a path leads: it does not lead to a directory, nor ask for one. -/
def Writable (t : FileTree) (path : String) : Prop :=
  ∃ p, t.locate path = .ok p ∧ t.isDirectory p = false ∧ asksForDirectory path = false

/-- Writing succeeds exactly where a file can be written, and then it puts the bytes there. -/
lemma write_cases (t : FileTree) (path : String) (bytes : ByteArray) :
    (∃ p, t.locate path = .ok p ∧ t.isDirectory p = false ∧ asksForDirectory path = false ∧
      t.write path bytes = .ok (t.put p bytes)) ∨
    ¬t.Writable path ∧ ∃ cause, t.write path bytes = .error cause := by
  rw [write, Writable]
  cases t.locate path with
  | error cause =>
    right
    exact ⟨nofun, cause, rfl⟩
  | ok p =>
    cases h : t.isDirectory p || asksForDirectory path with
    | true =>
      right
      refine ⟨?_, .isDirectory, if_pos h⟩
      rintro ⟨q, eq, file, plain⟩
      cases eq
      rw [file, plain] at h
      cases h
    | false =>
      left
      obtain ⟨file, plain⟩ := Bool.or_eq_false_iff.1 h
      exact ⟨p, rfl, file, plain, if_neg (by rw [h]; exact Bool.false_ne_true)⟩

/-- A file lies in a directory, at whatever depth. -/
def Encloses (dir file : Place) : Prop :=
  dir.base = file.base ∧ dir.names <+: file.names ∧ dir.names ≠ file.names

/-- A directory has no names below its base, or a file lies in it. -/
lemma isDirectory_iff :
    t.isDirectory p = true ↔ p.names = [] ∨ ∃ file ∈ t.map Prod.fst, Encloses p file := by
  rw [isDirectory, Bool.or_eq_true, List.isEmpty_iff, List.any_eq_true]
  simp only [Encloses, List.mem_map, Prod.exists, Bool.and_eq_true, beq_iff_eq, bne_iff_ne,
    List.isPrefixOf_iff_prefix, exists_and_right, exists_eq_right, and_assoc]

/-- What leads to a directory is a directory too. -/
lemma isDirectory_above (dir : t.isDirectory p = true) (base : q.base = p.base)
    (above : q.names <+: p.names) : t.isDirectory q = true := by
  rw [isDirectory_iff] at dir ⊢
  obtain top | ⟨file, mem, same, below, apart⟩ := dir
  · left
    rw [top] at above
    exact List.prefix_nil.1 above
  · right
    refine ⟨file, mem, base.trans same, above.trans below, ?_⟩
    intro eq
    rw [eq] at above
    exact apart (below.eq_of_length (Nat.le_antisymm below.length_le above.length_le))

/-- The directory above a directory is one. -/
lemma isDirectory_parent (dir : t.isDirectory p = true) : t.isDirectory p.parent = true := by
  obtain ⟨base, names⟩ := p
  cases names with
  | nil =>
    cases base with
    | root => exact dir
    | above levels => exact isDirectory_iff.2 (.inl rfl)
  | cons name names =>
    cases base <;> exact isDirectory_above dir rfl (List.dropLast_prefix _)

/-- A place that is a directory, or in one. -/
def Held (t : FileTree) (p : Place) : Prop :=
  t.isDirectory p = true ∨ ∃ dir name, p = dir.child name ∧ t.isDirectory dir = true

/-- A path leads only to what is a directory or in one, since every step needs a directory. -/
lemma held_of_follow {names : List String} (held : t.Held p) (h : t.follow p names = .ok q) :
    t.Held q := by
  induction names generalizing p with
  | nil =>
    cases h
    exact held
  | cons name names ih =>
    rw [follow] at h
    split at h
    case isTrue => cases h
    case isFalse notFile =>
      have dir : t.isDirectory p = true := by simpa using notFile
      split at h
      · exact ih held h
      · split at h
        · exact ih (.inl (isDirectory_parent dir)) h
        · split at h
          · cases h
          · exact ih (.inr ⟨p, name, rfl, dir⟩) h

/-- A path leads only to what is a directory or in one, since it starts in one. -/
lemma held_of_locate (h : t.locate path = .ok p) : t.Held p := by
  rw [locate] at h
  split at h
  · cases h
  · split at h
    · cases h
    · refine held_of_follow (.inl ?_) h
      rw [isDirectory_iff, start]
      split <;> exact .inl rfl

/-- A new file makes no directories. -/
lemma isDirectory_put (held : t.Held p) (file : t.isDirectory p = false) (q : Place) :
    (t.put p bytes).isDirectory q = t.isDirectory q := by
  obtain dir | ⟨dir, name, rfl, isDir⟩ := held
  · rw [file] at dir
    cases dir
  · rw [Bool.eq_iff_iff, isDirectory_iff, isDirectory_iff]
    simp only [mem_places_put]
    constructor
    · rintro (top | ⟨r, rfl | old, enclosed⟩)
      · exact .inl top
      · obtain ⟨base, below, apart⟩ := enclosed
        have above : q.names <+: dir.names := (List.prefix_concat_iff.1 below).resolve_left apart
        exact isDirectory_iff.1 (isDirectory_above isDir base above)
      · exact .inr ⟨r, old, enclosed⟩
    · rintro (top | ⟨r, old, enclosed⟩)
      · exact .inl top
      · exact .inr ⟨r, .inr old, enclosed⟩

/-- Where no directories come or go, names lead where they led before. -/
lemma follow_put {names : List String} (same : ∀ q, (t.put p bytes).isDirectory q = t.isDirectory q)
    {s : Place} (h : t.follow s names = .ok q) : (t.put p bytes).follow s names = .ok q := by
  induction names generalizing s with
  | nil => exact h
  | cons name names ih =>
    rw [follow] at h ⊢
    rw [same]
    split at h
    case isTrue => cases h
    case isFalse dir =>
      rw [if_neg dir]
      split at h
      case isTrue point =>
        rw [if_pos point]
        exact ih h
      case isFalse point =>
        rw [if_neg point]
        split at h
        case isTrue up =>
          rw [if_pos up]
          exact ih h
        case isFalse up =>
          rw [if_neg up]
          split at h
          case isTrue => cases h
          case isFalse short =>
            rw [if_neg short]
            exact ih h

/-- Writing a file leaves what is read by a path that leads elsewhere. -/
lemma read_put {old : ByteArray} (held : t.Held p) (file : t.isDirectory p = false)
    (h : t.read path = .ok old) (other : t.locate path ≠ .ok p) :
    (t.put p bytes).read path = .ok old := by
  rw [read] at h ⊢
  obtain ⟨q, located, h⟩ := bind_ok h
  -- the same directories are there, so the path leads where it did
  have located' : (t.put p bytes).locate path = .ok q := by
    rw [locate] at located ⊢
    split at located
    case isTrue => cases located
    case isFalse named =>
      rw [if_neg named]
      split at located
      case isTrue => cases located
      case isFalse short =>
        rw [if_neg short]
        exact follow_put (isDirectory_put held file) located
  have apart : q ≠ p := by
    rintro rfl
    exact other located
  rw [located']
  dsimp only [bind, Except.bind]
  rw [lookup_put_of_ne apart]
  cases found : t.lookup q with
  | none =>
    rw [found] at h
    cases h
  | some bytes =>
    rw [found] at h
    exact h

end FileTree

end EmailTemplate.Command
