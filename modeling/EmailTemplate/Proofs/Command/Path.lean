import EmailTemplate.Proofs.Command.FileTree
import EmailTemplate.Proofs.Text.Cut
import EmailTemplate.Proofs.Text.Span

/-!
# Paths by their last name

A path is a folder and a name behind its last slash (`Splits`). Paths in one folder lead to the same
directory first, and from there each goes by its own name, so that no two of them lead to one file
(`eq_of_locate`).
-/

namespace EmailTemplate.Command
open Text

/-- A text is a folder, up to a slash if it is not empty, and a name behind it. -/
structure Splits (cs folder name : List Char) : Prop where
  eq : cs = folder ++ name
  bare : '/' ∉ name
  closed : folder = [] ∨ ∃ up, folder = up ++ ['/']

section Splitting
variable {folder name : List Char}

/-- Every text has a folder and a name, either of which may be empty. -/
lemma exists_splits (cs : List Char) : ∃ folder name, Splits cs folder name := by
  refine ⟨(cs.reverse.dropWhile (· != '/')).reverse, (cs.reverse.takeWhile (· != '/')).reverse,
    ?_, ?_, ?_⟩
  · rw [← List.reverse_append, List.takeWhile_append_dropWhile, List.reverse_reverse]
  · intro mem
    have notSlash := List.all_eq_true.1 List.all_takeWhile _ (List.mem_reverse.1 mem)
    cases notSlash
  · have stop := stops_dropWhile (p := (· != '/')) cs.reverse
    generalize cs.reverse.dropWhile (· != '/') = folder at stop
    cases folder with
    | nil => exact .inl rfl
    | cons c folder =>
      obtain rfl : c = '/' := by simpa using stop
      exact .inr ⟨folder.reverse, List.reverse_cons⟩

/-- The name of a path is what stands behind its last slash. -/
lemma takeWhile_reverse_of_splits {cs : List Char} (h : Splits cs folder name) :
    (cs.reverse.takeWhile (· != '/')).reverse = name := by
  have stop : Stops (· != '/') folder.reverse := by
    obtain rfl | ⟨up, rfl⟩ := h.closed
    · exact stops_nil
    · rw [List.reverse_concat]
      exact stops_cons.2 rfl
  have run : ∀ c ∈ name.reverse, (c != '/') = true := by
    intro c mem
    exact bne_iff_ne.2 fun slash => h.bare (List.mem_reverse.1 (slash ▸ mem))
  rw [h.eq, List.reverse_append, takeWhile_append_stops run stop, List.reverse_reverse]

end Splitting

section Names
variable {path : String} {folder name : List Char}

/-- The names of a folder. -/
def folderNames (folder : List Char) : List String :=
  (cutNonEmpty (· == '/') folder.dropLast).map String.ofList

/-- The names of a path are those of its folder and its own. -/
lemma names_of_splits (h : Splits path.toList folder name) (named : name ≠ []) :
    names path = folderNames folder ++ [String.ofList name] := by
  have single : cut (· == '/') name = [name] := by
    apply cut_of_none
    intro c mem
    exact beq_false_of_ne fun slash => h.bare (slash ▸ mem)
  have kept : [name].filter (!·.isEmpty) = [name] := by
    apply List.filter_eq_self.2
    intro piece mem
    rw [List.mem_singleton.1 mem, List.isEmpty_eq_false_iff.2 named]
    rfl
  rw [names, h.eq, folderNames, cutNonEmpty]
  obtain rfl | ⟨up, rfl⟩ := h.closed
  · rw [List.nil_append, single, kept]
    rfl
  · rw [List.append_assoc, List.singleton_append, cut_append_cons rfl, single, List.filter_append,
      kept, List.map_append, List.dropLast_concat]
    rfl

/-- Paths in one folder are followed from one place. -/
lemma start_of_splits {path' : String} {name' : List Char} (h : Splits path.toList folder name)
    (h' : Splits path'.toList folder name') : start path = start path' := by
  have relative {name : List Char} (bare : '/' ∉ name) : (name.head? == some '/') = false := by
    cases name with
    | nil => rfl
    | cons c name =>
      apply beq_false_of_ne
      intro eq
      exact bare (List.mem_cons.2 (.inl (Option.some.inj eq).symm))
  rw [start, start, h.eq, h'.eq]
  cases folder with
  | nil => rw [List.nil_append, List.nil_append, relative h.bare, relative h'.bare]
  | cons c folder => rfl

/-- A path that has no name, but is not empty, ends with a slash. -/
lemma asksForDirectory_of_splits (h : Splits path.toList folder [])
    (filled : path.isEmpty = false) :
    asksForDirectory path = true := by
  rw [asksForDirectory, h.eq, List.append_nil]
  obtain rfl | ⟨up, rfl⟩ := h.closed
  · have empty : path = "" := String.toList_inj.1 (by rw [h.eq]; rfl)
    rw [empty] at filled
    cases filled
  · rw [List.getLast?_concat]
    rfl

end Names

namespace FileTree
variable {t : FileTree} {p q : Place} {name : String}

/-- Names are followed one after another, the later ones from where the earlier lead. -/
lemma follow_append {front back : List String} :
    t.follow p (front ++ back) = (t.follow p front >>= fun dir => t.follow dir back) := by
  induction front generalizing p with
  | nil => rfl
  | cons name front ih =>
    rw [List.cons_append, follow, follow]
    split
    · rfl
    · split
      · exact ih
      · split
        · exact ih
        · split
          · rfl
          · exact ih

/-- One name leads from a directory to itself, to the one above, or down. -/
lemma follow_single (h : t.follow p [name] = .ok q) :
    t.isDirectory p = true ∧
      (name = "." ∧ q = p ∨ name = ".." ∧ q = p.parent ∨ name ≠ ".." ∧ q = p.child name) := by
  rw [follow] at h
  split at h
  case isTrue => cases h
  case isFalse notFile =>
    refine ⟨by simpa using notFile, ?_⟩
    split at h
    case isTrue point =>
      cases h
      exact .inl ⟨eq_of_beq point, rfl⟩
    case isFalse =>
      right
      split at h
      case isTrue points =>
        cases h
        exact .inl ⟨eq_of_beq points, rfl⟩
      case isFalse points =>
        right
        split at h
        · cases h
        · cases h
          exact ⟨fun eq => points (beq_iff_eq.2 eq), rfl⟩

/-- A path leads to where its name leads from its folder. -/
lemma exists_follow_of_locate {path : String} {folder name : List Char}
    (h : Splits path.toList folder name) (named : name ≠ []) (located : t.locate path = .ok q) :
    ∃ dir, t.follow (start path) (folderNames folder) = .ok dir ∧
      t.follow dir [String.ofList name] = .ok q := by
  rw [locate] at located
  split at located
  · cases located
  · split at located
    · cases located
    · rw [names_of_splits h named, follow_append] at located
      exact bind_ok located

/-- A directory has fewer names below its base than what lies in it. -/
lemma length_parent_lt_child (p : Place) (name : String) :
    p.parent.names.length < (p.child name).names.length := by
  have child : (p.child name).names.length = p.names.length + 1 := List.length_append
  rw [child]
  obtain ⟨base, names⟩ := p
  cases names with
  | nil => cases base <;> exact Nat.succ_pos _
  | cons name names =>
    have shorter := (List.dropLast_sublist (name :: names)).length_le
    cases base <;> exact Nat.lt_succ_of_le shorter

/-- Of the paths in one folder, only one leads to a place where a file can be. -/
lemma eq_of_locate {path path' : String} {folder name name' : List Char}
    (h : Splits path.toList folder name) (h' : Splits path'.toList folder name')
    (named : name ≠ []) (named' : name' ≠ []) (located : t.locate path = .ok p)
    (located' : t.locate path' = .ok p) (file : t.isDirectory p = false) :
    name = name' ∧ name ≠ ['.', '.'] := by
  obtain ⟨dir, front, last⟩ := exists_follow_of_locate h named located
  obtain ⟨dir', front', last'⟩ := exists_follow_of_locate h' named' located'
  rw [start_of_splits h' h, front] at front'
  cases front'
  -- a name that leads to itself or up leads to a directory, where no file can be
  obtain ⟨isDir, ⟨-, rfl⟩ | ⟨-, rfl⟩ | ⟨notUp, rfl⟩⟩ := follow_single last
  · rw [isDir] at file
    cases file
  · rw [isDirectory_parent isDir] at file
    cases file
  · obtain ⟨-, ⟨-, same⟩ | ⟨-, same⟩ | ⟨-, same⟩⟩ := follow_single last'
    · have length := congrArg (fun p : Place => p.names.length) same
      simp [Place.child] at length
    · have length := length_parent_lt_child dir (String.ofList name)
      rw [same] at length
      exact absurd length (Nat.lt_irrefl _)
    · have names : dir.names ++ [String.ofList name] = dir.names ++ [String.ofList name'] :=
        congrArg Place.names same
      have last := List.singleton_inj.1 (List.append_cancel_left names)
      refine ⟨String.ofList_inj.1 last, ?_⟩
      rintro rfl
      exact notUp rfl

end FileTree

end EmailTemplate.Command
