import EmailTemplate.Document.Basic
import EmailTemplate.Markup.Sanitize

/-!
# Plain text

The readable text of a document, for readers without HTML: one block for each element that has
something to say, in the order in which the elements are laid out, with a blank line between
blocks.
-/

namespace EmailTemplate
open Text

/-- The address that a link leads to; blanks around it do not count, and one that is empty or leads
nowhere is none. -/
def linkTarget? (url : Option String) : Option String :=
  (url.map trimmed).filter fun url => !(url.isEmpty || url == "#")

/-- The text of an element before it is trimmed. -/
def ElementKind.rawText : ElementKind → String
  | text p => p.content
  | button p =>
    match linkTarget? p.buttonUrl with
    | none => p.content
    | some url =>
      let label := trimmed p.content
      if label.isEmpty then url else label ++ " (" ++ url ++ ")"
  | image p => p.alt.getD ""
  | divider _ => "----"
  | socialIcon p => (linkTarget? p.url).getD ""
  | rawMarkup content => Markup.visibleText content

/-- The block of an element, if there is anything in it. -/
def Element.textBlock? (e : Element) : Option String :=
  (some (trimmed e.kind.rawText)).filter (!·.isEmpty)

/-- What is reported when the text of an element is taken. -/
def Element.textNotices (e : Element) : List Notice :=
  match e.kind with
  | .rawMarkup content => Markup.sanitizeNotices content
  | _ => []

namespace Document

/-- The plain text of a document: its blocks, with a blank line between neighbours. -/
def plainText (doc : Document) : String :=
  "\n\n".intercalate (doc.elements.filterMap Element.textBlock?)

/-- What is reported when the text of a document is taken. -/
def textNotices (doc : Document) : List Notice :=
  doc.elements.flatMap Element.textNotices

end Document

end EmailTemplate
