import EmailTemplate.Proofs.Html.Unclassed
import EmailTemplate.Proofs.Render.Nested
import EmailTemplate.Proofs.Text.Occurrence

/-!
# The body within an email

The body can be cut out of a complete email: it begins behind the start tag of the container, and
ends where the tables around it are closed last. The main statement, `bodyOf?_compile`, is that this
gives the body back, whatever the options and the document say. No option can name the class of the
container before its tag does, since a class is given only by an attribute of that name
(`unclassed_leadSteps`), and no bracket of an option ends the tag; and a body that closes tables
does it in front of the last place.
-/

namespace EmailTemplate
open Html Html.Step Text

/-- What names the container. -/
def containerMark : List Char :=
  "class=\"container\"".toList

/-- What ends the tag of the container. -/
def tagEnd : List Char :=
  ">\n".toList

/-- What closes the tables around a body. -/
def tablesEnd : List Char :=
  "</table>\n</td>\n</tr>\n</table>".toList

/-- What stands in an email between the tag of its container and the last end of the tables. -/
def bodyOf? (email : String) : Option String := do
  let cs := email.toList
  let mark ← firstAt? containerMark cs
  let bracket ← firstAt? tagEnd (cs.drop mark)
  let stop ← lastAt? tablesEnd cs
  let start := mark + bracket + tagEnd.length
  if start ≤ stop then some (String.ofList ((cs.take stop).drop start)) else none

namespace ShellOptions

/-- The style of the container. -/
def containerStyle (options : ShellOptions) : Style :=
  [css "width" "100%", pixels "max-width" options.maxWidth,
    css "background-color" options.containerBackground,
    css "border" "1px solid #e5e5e5", css "border-radius" "4px",
    css "box-shadow" "0 2px 8px rgba(0, 0, 0, 0.08)"]

/-- The steps of a page up to where its container is named. -/
def leadSteps (options : ShellOptions) : List Step :=
  [verbatim "<!DOCTYPE html>\n", startTag "html", attr "lang" options.lang,
    attr "xmlns" "http://www.w3.org/1999/xhtml", finishTag, newline] ++
    options.headSteps ++
    [startTag "body",
      style [css "margin" "0", css "padding" "0",
        css "background-color" options.pageBackground],
      finishTag, newline] ++
    options.preheaderSteps ++
    presentationTable "100%" ++
    [style [css "background-color" options.pageBackground], finishTag,
      verbatim "\n<tr>\n", startTag "td", attr "align" "center",
      style [css "padding" "20px 0"], finishTag, newline] ++
    presentationTable (toString options.maxWidth)

/-- Behind the lead of a page stands the tag of its container. -/
lemma openingSteps_eq (options : ShellOptions) :
    options.openingSteps = options.leadSteps ++
      [attr "class" "container", style options.containerStyle, finishTag, newline] := rfl

/-- The style sheet has no quotes, and so cannot spell a class. -/
lemma unclassed_styleSheet (options : ShellOptions) : '"' ∉ options.styleSheet.toList := by
  rw [styleSheet, String.toList_append, String.toList_append, List.mem_append, List.mem_append]
  rintro ((opening | rule) | ending)
  · exact absurd opening (by decide)
  · exact (options.isData_rules _ rule).2.2 rfl
  · exact absurd ending (by decide)

/-- Up to the container, no tag has a class. -/
lemma unclassed_leadSteps (options : ShellOptions) : ∀ s ∈ options.leadSteps, s.Unclassed := by
  have head : ∀ s ∈ options.headSteps, s.Unclassed := by
    simp [headSteps, metaSteps, around, newline, Step.Unclassed, attrNames, tagNames,
      options.unclassed_styleSheet]
  have preheader : ∀ s ∈ options.preheaderSteps, s.Unclassed := by
    rw [preheaderSteps]
    split
    case isTrue => exact List.forall_mem_nil _
    case isFalse => simp [around, newline, Step.Unclassed, tagNames]
  rw [leadSteps]
  simp only [List.forall_mem_append]
  refine ⟨⟨⟨⟨⟨⟨?_, head⟩, ?_⟩, preheader⟩, ?_⟩, ?_⟩, ?_⟩
  all_goals simp [presentationTable, newline, Step.Unclassed, attrNames, tagNames]

/-- At the end of the lead the tag of the container is still open. -/
lemma tagOpen_leadSteps (options : ShellOptions) :
    (Writer.empty.run options.leadSteps).tagOpen = true := by
  rw [leadSteps, Writer.run_append]
  rfl

/-- The text of a page up to where its container is named. -/
def lead (options : ShellOptions) : String :=
  (Writer.empty.run options.leadSteps).written ++ " "

/-- The rest of the container's tag, behind its class. -/
def containerTail (options : ShellOptions) : String :=
  " " ++ "style" ++ "=\"" ++ escape (Style.css options.containerStyle) ++ "\""

/-- Where the container is named, a page goes on to the end of its tag, with the body behind it. -/
lemma toList_page (options : ShellOptions) (body : String) :
    (options.page body).toList = options.lead.toList ++ (containerMark ++
      options.containerTail.toList ++ (tagEnd ++ (body.toList ++ closing.toList))) := by
  have isOpen := options.tagOpen_leadSteps
  rw [page, openingSteps_eq, write, Writer.run_append, Writer.run_append, lead, containerTail]
  generalize Writer.empty.run options.leadSteps = w at isOpen ⊢
  obtain ⟨written, tagOpen⟩ := w
  subst isOpen
  have steps : ((Writer.mk written true).run [attr "class" "container",
        style options.containerStyle, finishTag, newline]).run [verbatim body, verbatim closing] =
      ⟨written ++ " " ++ "class" ++ "=\"" ++ escape "container" ++ "\"" ++
        " " ++ "style" ++ "=\"" ++ escape (Style.css options.containerStyle) ++ "\"" ++
        ">" ++ "\n" ++ body ++ closing, false⟩ :=
    rfl
  have mark : containerMark = ("class" ++ "=\"" ++ escape "container" ++ "\"").toList := by decide
  have bracket : tagEnd = (">" ++ "\n").toList := by decide
  rw [steps, Writer.markup, if_neg Bool.false_ne_true, bracket, mark]
  simp only [String.toList_append, List.append_assoc]

/-- The container is not named before its tag is. -/
lemma noneBegins_lead (options : ShellOptions) (rest : List Char) :
    NoneBegins containerMark options.lead.toList (containerMark ++ rest) := by
  have apart := (Writer.Unclassed.empty.run options.unclassed_leadSteps).apart
  have start : classQuote ++ ['c'] <+: containerMark := by decide
  have blank : ' ' ∉ classQuote ++ ['c'] := by decide
  intro cs suffix ne begins
  rw [lead, String.toList_append] at suffix
  generalize (Writer.empty.run options.leadSteps).written.toList = written at apart suffix
  have suffix : cs <:+ written ++ [' '] := suffix
  obtain empty | ⟨inner, rfl, back⟩ := List.suffix_concat_iff.1 suffix
  · exact ne empty
  · -- the blank in front of the class is no part of it, so that all of it stands further in front
    rw [List.append_assoc] at begins
    have inside := prefix_of_notMem (start.trans begins) blank
    exact apart (inside.isInfix.trans back.isInfix)

/-- The tag of the container has no bracket before its end. -/
lemma bracket_notMem_containerTail (options : ShellOptions) :
    '>' ∉ containerMark ++ options.containerTail.toList := by
  have mark : '>' ∉ containerMark := by decide
  have data : '>' ∉ (escape (Style.css options.containerStyle)).toList :=
    fun mem => (isData_escape _ mem).2.1 rfl
  simp [mark, containerTail, data]

end ShellOptions

/-- A body is found between a lead that does not name the container, the rest of its tag, and what
closes the tables. -/
lemma bodyOf?_of_parts {email body closing : String} {lead tail : List Char}
    (parts : email.toList =
      lead ++ (containerMark ++ tail ++ (tagEnd ++ (body.toList ++ closing.toList))))
    (unnamed : ∀ rest, NoneBegins containerMark lead (containerMark ++ rest))
    (unended : '>' ∉ containerMark ++ tail)
    (closes : lastAt? tablesEnd closing.toList = some 0) : bodyOf? email = some body := by
  have mark : firstAt? containerMark email.toList = some lead.length := by
    rw [parts, List.append_assoc]
    exact firstAt?_append (unnamed _) (List.prefix_append _ _)
  have bracket : firstAt? tagEnd (email.toList.drop lead.length) =
      some (containerMark ++ tail).length := by
    rw [parts, List.drop_left]
    exact firstAt?_append (noneBegins_of_notMem unended _) (List.prefix_append _ _)
  let front := lead ++ (containerMark ++ tail) ++ tagEnd
  have whole : email.toList = front ++ body.toList ++ closing.toList := by
    rw [parts]
    simp only [front, List.append_assoc]
  have stop : lastAt? tablesEnd email.toList = some (front ++ body.toList).length := by
    rw [whole, lastAt?_append closes, Nat.add_zero]
  have start : lead.length + (containerMark ++ tail).length + tagEnd.length = front.length := by
    simp only [front, List.length_append]
  have order : front.length ≤ (front ++ body.toList).length :=
    (List.prefix_append front body.toList).length_le
  rw [bodyOf?]
  simp only [mark, bracket, stop, Option.bind_eq_bind, Option.bind_some, start, if_pos order]
  rw [whole, List.take_left, List.drop_left, String.ofList_toList]

/-- Whatever the options and the document are, the body of an email stands between the tag of its
container and the last end of the tables. -/
theorem bodyOf?_compile (options : CompileOptions) (doc : Document) :
    bodyOf? (doc.compile options) = some (doc.compose options) := by
  have closes : lastAt? tablesEnd ShellOptions.closing.toList = some 0 := by decide
  exact bodyOf?_of_parts (options.shell.toList_page _) options.shell.noneBegins_lead
    options.shell.bracket_notMem_containerTail closes

end EmailTemplate
