import EmailTemplate.Proofs.Document.ColumnOrder
import EmailTemplate.Render.Email
import EmailTemplate.Render.PlainText
import Mathlib.Data.List.Forall2

/-!
# What order and identifiers cannot change

Two documents have the same contents if they differ at most in identifiers and in the order in which
the columns of each row were given. They are compiled to the same email, and have the same plain
text (`compile_eq_of_sameContents`).
-/

namespace EmailTemplate
open Html Html.Step

/-- An element without its identifier. -/
def Element.anonymous (e : Element) : Element :=
  { e with id := none }

/-- A column whose elements have no identifiers. -/
def Column.anonymous (column : Column) : Column :=
  (column.1, column.2.map Element.anonymous)

/-- Two rows map the same keys to the same elements, up to identifiers. -/
structure Row.SameContents (a b : Row) : Prop where
  columns : (a.columns.map Column.anonymous).Perm (b.columns.map Column.anonymous)

/-- Two documents have the same rows and the same standalone elements, up to identifiers and to the
order in which columns were given. -/
structure Document.SameContents (a b : Document) : Prop where
  rows : List.Forall₂ Row.SameContents a.layoutRows b.layoutRows
  standalone : a.canvasItems.map Element.anonymous = b.canvasItems.map Element.anonymous

/-- Rows with the same contents have the same columns in the layout. -/
lemma Row.SameContents.sortedColumns {a b : Row} (same : a.SameContents b) :
    a.sortedColumns.map Column.anonymous = b.sortedColumns.map Column.anonymous := by
  have keyed : ((a.columns.map Column.anonymous).map Prod.fst).Nodup := by
    rw [List.map_map]
    exact a.keyed
  calc
    a.sortedColumns.map Column.anonymous = sortedByKey (a.columns.map Column.anonymous) :=
      map_sortedByKey _ _
    _ = sortedByKey (b.columns.map Column.anonymous) := sortedByKey_eq_of_perm keyed same.columns
    _ = b.sortedColumns.map Column.anonymous := (map_sortedByKey _ _).symm

/-- Nothing that is written of an element says what its identifier is. -/
lemma Element.steps_anonymous (d : RenderDefaults) (e : Element) :
    e.anonymous.steps d = e.steps d := rfl

/-- A standalone element is written without its identifier. -/
lemma standaloneSteps_anonymous (options : CompileOptions) (e : Element) :
    standaloneSteps options e.anonymous = standaloneSteps options e := by
  rw [standaloneSteps, standaloneSteps, e.steps_anonymous]

/-- The text of an element does not tell its identifier. -/
lemma Element.textBlock?_anonymous (e : Element) : e.anonymous.textBlock? = e.textBlock? := rfl

/-- A column without identifiers has its elements without theirs. -/
lemma Column.elements_anonymous (column : Column) :
    column.anonymous.2 = column.2.map Element.anonymous := rfl

/-- A column is written without identifiers. -/
lemma Column.steps_anonymous (d : RenderDefaults) (width : String) (column : Column) :
    column.anonymous.steps d width = column.steps d width := by
  rw [steps, steps, elements_anonymous, List.flatMap_map]
  simp only [Element.steps_anonymous]

/-- Columns are written without identifiers. -/
lemma flatMap_steps_anonymous (d : RenderDefaults) (width : String) (columns : List Column) :
    (columns.map Column.anonymous).flatMap (Column.steps d width) =
      columns.flatMap (Column.steps d width) := by
  rw [List.flatMap_map]
  exact List.flatMap_congr fun column _ => column.steps_anonymous d width

/-- Rows with the same contents are written alike. -/
lemma Row.SameContents.steps {a b : Row} (same : a.SameContents b) (d : RenderDefaults) :
    a.steps d = b.steps d := by
  have length : a.sortedColumns.length = b.sortedColumns.length := by
    simpa using same.columns.length_eq
  have none : a.sortedColumns.isEmpty = b.sortedColumns.isEmpty := by
    rw [Bool.eq_iff_iff, List.isEmpty_iff_length_eq_zero, List.isEmpty_iff_length_eq_zero, length]
  have cells (width : String) : a.sortedColumns.flatMap (Column.steps d width) =
      b.sortedColumns.flatMap (Column.steps d width) := by
    rw [← flatMap_steps_anonymous, same.sortedColumns, flatMap_steps_anonymous]
  rw [Row.steps, Row.steps, none, length, cells]

/-- Rows with the same contents have the same elements in the layout. -/
lemma Row.SameContents.elements {a b : Row} (same : a.SameContents b) :
    a.elements.map Element.anonymous = b.elements.map Element.anonymous := by
  have anonymous (row : Row) : row.elements.map Element.anonymous =
      (row.sortedColumns.map Column.anonymous).flatMap (·.2) := by
    rw [Row.elements, List.map_flatMap, List.flatMap_map]
    rfl
  rw [anonymous, anonymous, same.sortedColumns]

/-- What is the same for rows with the same contents is the same for lists of them. -/
lemma Row.SameContents.map {β : Type} {f : Row → β} {as bs : List Row}
    (eq : ∀ {a b : Row}, a.SameContents b → f a = f b)
    (same : List.Forall₂ Row.SameContents as bs) : as.map f = bs.map f := by
  induction same with
  | nil => rfl
  | cons head _ ih => rw [List.map_cons, List.map_cons, eq head, ih]

namespace Document.SameContents
variable {a b : Document}

/-- Documents with the same contents have the same body. -/
lemma bodySteps (same : a.SameContents b) (options : CompileOptions) :
    a.bodySteps options = b.bodySteps options := by
  have rows : a.layoutRows.map (Row.steps options.defaults) =
      b.layoutRows.map (Row.steps options.defaults) :=
    Row.SameContents.map (fun row => row.steps options.defaults) same.rows
  have standalone (doc : Document) :
      doc.canvasItems.map (standaloneSteps options) =
        (doc.canvasItems.map Element.anonymous).map (standaloneSteps options) := by
    rw [List.map_map, Function.comp_def]
    simp only [standaloneSteps_anonymous]
  rw [Document.bodySteps, Document.bodySteps, List.flatMap_def, List.flatMap_def, List.flatMap_def,
    List.flatMap_def, rows, standalone, standalone, same.standalone]

/-- Documents with the same contents have the same elements in the layout. -/
lemma elements (same : a.SameContents b) :
    a.elements.map Element.anonymous = b.elements.map Element.anonymous := by
  have rows : a.layoutRows.map (fun row => row.elements.map Element.anonymous) =
      b.layoutRows.map fun row => row.elements.map Element.anonymous :=
    Row.SameContents.map Row.SameContents.elements same.rows
  rw [Document.elements, Document.elements, List.map_append, List.map_append, List.map_flatMap,
    List.map_flatMap, List.flatMap_def, List.flatMap_def, rows, same.standalone]

/-- Documents with the same contents are compiled to one email. -/
lemma compile (same : a.SameContents b) (options : CompileOptions) :
    a.compile options = b.compile options := by
  rw [Document.compile, Document.compile, compose, compose, same.bodySteps]

/-- Documents with the same contents have one plain text. -/
lemma plainText (same : a.SameContents b) : a.plainText = b.plainText := by
  have blocks (doc : Document) : doc.elements.filterMap Element.textBlock? =
      (doc.elements.map Element.anonymous).filterMap Element.textBlock? := by
    rw [List.filterMap_map, Function.comp_def]
    simp only [Element.textBlock?_anonymous]
  rw [Document.plainText, Document.plainText, blocks, blocks, same.elements]

end Document.SameContents

/-- Column keys are totally ordered, and only equal keys compare equal; so documents that differ at
most in identifiers, and in the order in which the columns of each row were given, are compiled to
one email and have one plain text. -/
theorem compile_eq_of_sameContents :
    (∀ k l : ColumnKey, k.compare l = .eq ↔ k = l) ∧
    (∀ k l : ColumnKey, k.compare l = (l.compare k).swap) ∧
    (∀ k l m : ColumnKey, (k.compare l).isLE → (l.compare m).isLE → (k.compare m).isLE) ∧
    ∀ {a b : Document}, a.SameContents b →
      (∀ options, a.compile options = b.compile options) ∧ a.plainText = b.plainText := by
  refine ⟨?_, ?_, ?_, ?_⟩
  · intro k l
    exact Std.LawfulEqCmp.compare_eq_iff_eq
  · intro k l
    exact Std.OrientedCmp.eq_swap
  · intro k l m kl lm
    exact Std.TransCmp.isLE_trans kl lm
  · intro a b same
    exact ⟨same.compile, same.plainText⟩

/-- A document with a column of each of the given names, which contains its name. -/
def namedColumns (id : String) (names : List String) : Document where
  canvasItems := [⟨some id, .plain, .rawMarkup "<hr>"⟩]
  layoutRows :=
    [.ofColumns (some id) <| names.map fun name =>
      (⟨name⟩, [⟨some id, .plain, .text ⟨name, none, none, none, .plain⟩⟩])]

/-- Three spellings of one number, another number, and no number. -/
theorem compile_namedColumns :
    (namedColumns "a" ["col-5", "intro", "col-05", "col-10", "col-+5"]).SameContents
      (namedColumns "b" ["col-+5", "col-10", "col-5", "col-05", "intro"]) ∧
    (namedColumns "a" ["col-5", "intro", "col-05", "col-10", "col-+5"]).compile .standard =
      (namedColumns "b" ["col-+5", "col-10", "col-5", "col-05", "intro"]).compile .standard := by
  have same : (namedColumns "a" ["col-5", "intro", "col-05", "col-10", "col-+5"]).SameContents
      (namedColumns "b" ["col-+5", "col-10", "col-5", "col-05", "intro"]) := by
    refine ⟨.cons ⟨?_⟩ .nil, rfl⟩
    decide
  exact ⟨same, (compile_eq_of_sameContents.2.2.2 same).1 .standard⟩

end EmailTemplate
