import EmailTemplate.Proofs.Document.ColumnOrder
import EmailTemplate.Proofs.Html.Run
import EmailTemplate.Render.Body
import EmailTemplate.Render.PlainText

/-!
# What a body is made of

A body is a list of parts: elements, and wrappers around them that are the same whatever the
elements are. The main statement, `compose_eq_join_parts`, is that the body of a document is the
markup of its parts, each written by itself, with the elements of the document among them, each of
them once and in the order of the layout; and that its plain text has the same elements in the same
order.
-/

namespace EmailTemplate
open Html Html.Step

/-- Markup around elements, the same whatever they are. -/
inductive Wrapper where
  | rowStart
  /-- The start of a cell, with its width in percent. -/
  | cellStart (percent : Nat)
  | cellEnd
  | rowEnd
  | standaloneStart
  | standaloneEnd
  deriving DecidableEq, Repr

/-- A part of a body. -/
inductive Part where
  | wrapper (w : Wrapper)
  | element (e : Element)
  deriving DecidableEq, Repr

/-- The steps that write a wrapper. -/
def Wrapper.steps (options : CompileOptions) : Wrapper → List Step
  | rowStart =>
    [startTag "tr", finishTag, startTag "td", attr "class" "row", style [css "padding" "0"],
      finishTag] ++
    presentationTable "100%" ++
    [style [css "border-collapse" "collapse"], finishTag, startTag "tr", finishTag]
  | cellStart percent =>
    let width := toString percent ++ "%"
    [startTag "td", attr "class" "column", attr "valign" "top", attr "width" width,
      style [css "width" width, css "vertical-align" "top"], finishTag]
  | cellEnd => [endTag "td"]
  | rowEnd => [endTag "tr", endTag "table", endTag "td", endTag "tr", newline]
  | standaloneStart =>
    [startTag "tr", finishTag, startTag "td", attr "class" "standalone",
      style [css "padding" options.shell.standalonePadding], finishTag]
  | standaloneEnd => [endTag "td", endTag "tr", newline]

namespace Part

/-- The steps that write a part. -/
def steps (options : CompileOptions) : Part → List Step
  | wrapper w => w.steps options
  | element e => e.steps options.defaults

/-- The markup of a part; that of an element is what it is rendered to by itself. -/
def markup (options : CompileOptions) : Part → String
  | wrapper w => write (w.steps options)
  | element e => e.render options.defaults

/-- The element that a part is, if it is one. -/
def element? : Part → Option Element
  | element e => some e
  | wrapper _ => none

/-- The width of the cell that a part starts. -/
def percent? : Part → Option Nat
  | wrapper (.cellStart percent) => some percent
  | _ => none

/-- A part is written from outside tags to outside tags. -/
lemma closing_steps (options : CompileOptions) (p : Part) : Closing (p.steps options) := by
  intro w _
  cases p with
  | wrapper w => cases w <;> rfl
  | element e =>
    rw [steps, Element.steps, layoutTable, Writer.run_append]
    rfl

/-- The markup of a part is what its steps write. -/
lemma write_steps (options : CompileOptions) (p : Part) :
    write (p.steps options) = p.markup options := by
  cases p <;> rfl

end Part

/-- A column is its elements between the start and the end of its cell. -/
def Column.parts (percent : Nat) (column : Column) : List Part :=
  .wrapper (.cellStart percent) :: column.2.map .element ++ [.wrapper .cellEnd]

/-- The parts of a row; a row without columns has none. -/
def Row.parts (row : Row) : List Part :=
  if row.columns.isEmpty then []
  else
    .wrapper .rowStart ::
      row.sortedColumns.flatMap (Column.parts (max 1 (100 / row.columns.length))) ++
    [.wrapper .rowEnd]

/-- A standalone element is a part in a wrapper of its own. -/
def standaloneParts (e : Element) : List Part :=
  [.wrapper .standaloneStart, .element e, .wrapper .standaloneEnd]

/-- The parts of a document, rows first. -/
def Document.parts (doc : Document) : List Part :=
  doc.layoutRows.flatMap Row.parts ++ doc.canvasItems.flatMap standaloneParts

/-- A column is written as its parts. -/
lemma Column.steps_eq (options : CompileOptions) (percent : Nat) (column : Column) :
    column.steps options.defaults (toString percent ++ "%") =
      (column.parts percent).flatMap (Part.steps options) := by
  simp [Column.steps, around, Column.parts, Part.steps, Wrapper.steps, List.flatMap_map]

/-- A row is written as its parts. -/
lemma Row.steps_eq (options : CompileOptions) (row : Row) :
    row.steps options.defaults = row.parts.flatMap (Part.steps options) := by
  simp only [Row.steps, Row.parts, row.isEmpty_sortedColumns, row.length_sortedColumns]
  split
  case isTrue => rfl
  case isFalse =>
    have columns : row.sortedColumns.flatMap
          (Column.steps options.defaults (columnWidth row.columns.length)) =
        (row.sortedColumns.flatMap (Column.parts (max 1 (100 / row.columns.length)))).flatMap
          (Part.steps options) := by
      rw [List.flatMap_assoc]
      congr 1
      funext column
      exact column.steps_eq options (max 1 (100 / row.columns.length))
    rw [columns]
    simp [around, layoutTable, presentationTable, Part.steps, Wrapper.steps]

/-- A standalone element is written as its parts. -/
lemma standaloneSteps_eq (options : CompileOptions) (e : Element) :
    standaloneSteps options e = (standaloneParts e).flatMap (Part.steps options) := by
  simp [standaloneSteps, standaloneParts, around, Part.steps, Wrapper.steps]

/-- The body of a document is written as its parts. -/
lemma Document.bodySteps_eq (options : CompileOptions) (doc : Document) :
    doc.bodySteps options = doc.parts.flatMap (Part.steps options) := by
  have rows : Row.steps options.defaults = fun row => row.parts.flatMap (Part.steps options) :=
    funext (Row.steps_eq options)
  have standalone : standaloneSteps options =
      fun e => (standaloneParts e).flatMap (Part.steps options) :=
    funext (standaloneSteps_eq options)
  rw [bodySteps, parts, rows, standalone, List.flatMap_append, List.flatMap_assoc,
    List.flatMap_assoc]

/-- A body is the markup of its parts, each written by itself. -/
lemma Document.compose_eq_join (options : CompileOptions) (doc : Document) :
    doc.compose options = String.join (doc.parts.map (Part.markup options)) := by
  rw [compose, bodySteps_eq, write_flatMap fun p _ => p.closing_steps options]
  congr 1
  exact List.map_congr_left fun p _ => p.write_steps options

/-- Between its wrappers a column has its elements. -/
lemma Column.filterMap_element? (percent : Nat) (column : Column) :
    (column.parts percent).filterMap Part.element? = column.2 := by
  have elements : (column.2.map Part.element).filterMap Part.element? = column.2 := by
    rw [List.filterMap_map]
    exact List.filterMap_some
  rw [Column.parts, List.filterMap_append, List.filterMap_cons_none rfl, elements]
  exact List.append_nil _

/-- A row has the elements of its columns. -/
lemma Row.filterMap_element? (row : Row) :
    row.parts.filterMap Part.element? = row.elements := by
  rw [Row.parts, Row.elements]
  split
  case isTrue none =>
    rw [← row.isEmpty_sortedColumns, List.isEmpty_iff] at none
    rw [none]
    rfl
  case isFalse =>
    rw [List.filterMap_append, List.filterMap_cons_none rfl, List.filterMap_flatMap]
    simp only [Column.filterMap_element?]
    exact List.append_nil _

/-- The elements of a body's parts are those of the document, in the order of its layout. -/
lemma Document.filterMap_element? (doc : Document) :
    doc.parts.filterMap Part.element? = doc.elements := by
  have standalone : doc.canvasItems.flatMap (fun e => (standaloneParts e).filterMap Part.element?) =
      doc.canvasItems := List.flatMap_singleton' _
  rw [parts, elements, List.filterMap_append, List.filterMap_flatMap, List.filterMap_flatMap,
    standalone]
  simp only [Row.filterMap_element?]

/-- A column has one cell. -/
lemma Column.filterMap_percent? (percent : Nat) (column : Column) :
    (column.parts percent).filterMap Part.percent? = [percent] := by
  have elements : (column.2.map Part.element).filterMap Part.percent? = [] := by
    rw [List.filterMap_eq_nil_iff]
    intro p mem
    obtain ⟨e, -, rfl⟩ := List.mem_map.1 mem
    rfl
  rw [Column.parts, List.cons_append, List.filterMap_cons, List.filterMap_append, elements]
  rfl

/-- A row has a cell for each of its columns, all of one width. -/
lemma Row.filterMap_percent? (row : Row) :
    row.parts.filterMap Part.percent? =
      List.replicate row.columns.length (max 1 (100 / row.columns.length)) := by
  rw [Row.parts]
  split
  case isTrue none =>
    rw [List.isEmpty_iff] at none
    rw [none]
    rfl
  case isFalse =>
    rw [List.filterMap_append, List.filterMap_cons_none rfl, List.filterMap_flatMap]
    simp only [Column.filterMap_percent?]
    rw [← List.map_eq_flatMap, List.map_const', row.length_sortedColumns]
    exact List.append_nil _

/-- An element alone in a document gives the text of its block, if it has one. -/
lemma Element.plainText_withElement (e : Element) :
    (Document.empty.withElement e).plainText = e.textBlock?.getD "" := by
  have elements : (Document.empty.withElement e).elements = [e] := rfl
  rw [Document.plainText, elements]
  cases h : e.textBlock? with
  | none =>
    rw [List.filterMap_cons_none h]
    rfl
  | some block =>
    rw [List.filterMap_cons_some h]
    rfl

/-- The text of a document are the texts of its elements, each taken by itself, as far as there is
anything in them. -/
lemma Document.plainText_eq (doc : Document) :
    doc.plainText = "\n\n".intercalate
      ((doc.elements.map fun e => (empty.withElement e).plainText).filter (!·.isEmpty)) := by
  rw [plainText]
  congr 1
  induction doc.elements with
  | nil => rfl
  | cons e es ih =>
    rw [List.map_cons, e.plainText_withElement]
    cases h : e.textBlock? with
    | none =>
      rw [List.filterMap_cons_none h, ih]
      rfl
    | some block =>
      have some : (!block.isEmpty) = true := (Option.filter_eq_some_iff.1 h).2
      rw [List.filterMap_cons_some h, ih, Option.getD_some, List.filter_cons, if_pos some]

/-- The body of a document is made of wrappers and of what its elements are rendered to by
themselves, each of them once and in the order of the layout, with a cell for each column of a row,
all of one width; and its text is made of the texts of the same elements in the same order. -/
theorem compose_eq_join_parts (options : CompileOptions) (doc : Document) :
    doc.compose options = String.join (doc.parts.map (Part.markup options)) ∧
    doc.parts.filterMap Part.element? = doc.elements ∧
    (∀ row : Row, row.parts.filterMap Part.percent? =
      List.replicate row.columns.length (max 1 (100 / row.columns.length))) ∧
    doc.plainText = "\n\n".intercalate
      ((doc.elements.map fun e => (Document.empty.withElement e).plainText).filter (!·.isEmpty)) :=
  ⟨doc.compose_eq_join options, doc.filterMap_element?, Row.filterMap_percent?, doc.plainText_eq⟩

end EmailTemplate
