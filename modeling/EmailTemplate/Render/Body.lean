import EmailTemplate.Document.Basic
import EmailTemplate.Render.Element

/-!
# The body of an email

A document laid out as the rows of a table. A row of the document becomes one table row, with a
nested table of its columns side by side in equal width; a row without columns is left out. Each
standalone element follows in a table row of its own.
-/

namespace EmailTemplate
open Html Html.Step

/-- The share of the width that each of `n` columns has: whole percent, and never less than one. -/
def columnWidth (n : Nat) : String :=
  toString (max 1 (100 / n)) ++ "%"

/-- The cell of a column in a row with cells of the given width. -/
def Column.steps (d : RenderDefaults) (width : String) (column : Column) : List Step :=
  around "td"
    [attr "class" "column", attr "valign" "top", attr "width" width,
      style [css "width" width, css "vertical-align" "top"]]
    (column.2.flatMap (Element.steps d))

/-- A row of a document; without columns it leaves no trace. -/
def Row.steps (d : RenderDefaults) (row : Row) : List Step :=
  let columns := row.sortedColumns
  if columns.isEmpty then []
  else
    around "tr" []
      (around "td" [attr "class" "row", style [css "padding" "0"]]
        (layoutTable (columns.flatMap (Column.steps d (columnWidth columns.length))))) ++
    [newline]

/-- A standalone element in a row of its own. -/
def standaloneSteps (options : CompileOptions) (e : Element) : List Step :=
  around "tr" []
    (around "td"
      [attr "class" "standalone", style [css "padding" options.shell.standalonePadding]]
      (e.steps options.defaults)) ++
  [newline]

/-- What is reported when a row is rendered. -/
def Row.renderNotices (row : Row) : List Notice :=
  if row.columns.isEmpty then [.rowWithoutColumns row.id]
  else row.elements.flatMap Element.renderNotices

namespace Document

/-- The steps that write the body of a document. -/
def bodySteps (options : CompileOptions) (doc : Document) : List Step :=
  doc.layoutRows.flatMap (Row.steps options.defaults) ++
    doc.canvasItems.flatMap (standaloneSteps options)

/-- The body of a document: the rows of the table that holds it. -/
def compose (options : CompileOptions) (doc : Document) : String :=
  write (doc.bodySteps options)

/-- What is reported when a body is composed. -/
def composeNotices (doc : Document) : List Notice :=
  doc.layoutRows.flatMap Row.renderNotices ++ doc.canvasItems.flatMap Element.renderNotices

end Document

end EmailTemplate
