import EmailTemplate.Proofs.Html.Escape
import EmailTemplate.Proofs.Html.Fragment
import EmailTemplate.Proofs.Html.Run
import EmailTemplate.Render.Email

/-!
# Emails as nested steps

Everything that is rendered is a `Fragment`, the body of an email as well as the page around it. The
page is written in two parts, before and behind the body, and some of its tags are written as they
are; `write_page` says that it reads like nested steps around the rows of the body.
-/

namespace EmailTemplate
open Html Html.Step Html.Writer

/-- What stands in a divider has no tags. -/
lemma DividerStyle.bracket_notMem_glyph (style : DividerStyle) : '<' ∉ style.glyph.toList := by
  cases style <;> decide

/-- An element that is no raw markup is rendered as a fragment. -/
lemma ElementKind.fragment {raw d} {kind : ElementKind} (plain : ∀ m, kind ≠ rawMarkup m) :
    Fragment raw (kind.steps d) := by
  cases kind with
  | text p => exact .around (by decide) (by simp) .text
  | button p => exact .around (by decide) (by simp [attrNames]) .text
  | image p =>
    have known : ∀ s ∈ (p.imageSteps d).tail.dropLast, s.IsAttr := by
      simp [ImageProps.imageSteps, attrNames]
    have image : Fragment raw (p.imageSteps d) := .empty (by decide) known
    rw [steps, ImageProps.steps]
    split
    case h_1 => exact .around (by decide) (by simp [attrNames]) image
    case h_2 => exact image
  | divider p => exact .around (by decide) (by simp) (.plain p.style.bracket_notMem_glyph)
  | socialIcon p =>
    have circle : Fragment raw (around "span" [style (p.declarations d)] [verbatim "&nbsp;"]) :=
      .around (by decide) (by simp) (.plain (by decide))
    exact .around (by decide) (by simp [attrNames]) circle
  | rawMarkup m => exact absurd rfl (plain m)

/-- An element is rendered as a fragment. -/
lemma Element.fragment {raw d} {e : Element} (h : ∀ m, e.kind = .rawMarkup m → raw) :
    Fragment raw (e.steps d) := by
  refine .layoutTable ?_
  by_cases markup : ∃ m, e.kind = .rawMarkup m
  · obtain ⟨m, hm⟩ := markup
    rw [hm]
    exact .cell (h m hm) (by simp [attrNames])
  · exact .around (by decide) (by simp [attrNames])
      (ElementKind.fragment fun m hm => markup ⟨m, hm⟩)

/-- A column is rendered as a fragment. -/
lemma Column.fragment {raw d width} {column : Column}
    (h : ∀ e ∈ column.2, ∀ m, e.kind = .rawMarkup m → raw) :
    Fragment raw (column.steps d width) :=
  .around (by decide) (by simp [attrNames]) (.flatMap fun e he => Element.fragment (h e he))

/-- A row is rendered as a fragment. -/
lemma Row.fragment {raw d} {row : Row}
    (h : ∀ e ∈ row.elements, ∀ m, e.kind = .rawMarkup m → raw) :
    Fragment raw (row.steps d) := by
  have columns : ∀ c ∈ row.sortedColumns, ∀ e ∈ c.2, ∀ m, e.kind = .rawMarkup m → raw :=
    fun c hc e he => h e (List.mem_flatMap.2 ⟨c, hc, he⟩)
  simp only [Row.steps]
  split
  case isTrue => exact .nil
  case isFalse =>
    refine .append (.around (by decide) (by simp) ?_) .newline
    refine .around (by decide) (by simp [attrNames]) (.layoutTable ?_)
    exact .flatMap fun c hc => Column.fragment (columns c hc)

/-- A standalone element is rendered as a fragment. -/
lemma fragment_standaloneSteps {raw} {options : CompileOptions} {e : Element}
    (h : ∀ m, e.kind = .rawMarkup m → raw) : Fragment raw (standaloneSteps options e) := by
  refine .append (.around (by decide) (by simp) ?_) .newline
  exact .around (by decide) (by simp [attrNames]) (Element.fragment h)

/-- The body of a document is rendered as a fragment. -/
lemma Document.fragment {raw} {options : CompileOptions} {doc : Document}
    (h : ∀ e ∈ doc.elements, ∀ m, e.kind = .rawMarkup m → raw) :
    Fragment raw (doc.bodySteps options) := by
  simp only [Document.elements, List.forall_mem_append] at h
  refine .append (.flatMap fun row hrow => Row.fragment ?_) (.flatMap fun e he => ?_)
  · exact fun e he => h.1 e (List.mem_flatMap.2 ⟨row, hrow, he⟩)
  · exact fragment_standaloneSteps (h.2 e he)

namespace ShellOptions

/-- The head of a page as nested steps. -/
def nestedHead (options : ShellOptions) : List Step :=
  around "head" []
    ([newline] ++ [startTag "meta", attr "charset" "UTF-8", finishSelfClosing, newline] ++
      metaSteps "name" "viewport" "width=device-width, initial-scale=1.0" ++
      metaSteps "http-equiv" "X-UA-Compatible" "IE=edge" ++
      around "title" [] [text options.title] ++ [newline] ++
      around "style" [] [verbatim options.rules] ++ [newline]) ++
  [newline]

/-- The table whose rows a body is, within the centered table. -/
def nestedTables (options : ShellOptions) (rows : List Step) : List Step :=
  presentationTable "100%" ++ [style [css "background-color" options.pageBackground]] ++
    [finishTag] ++
    ([newline] ++
      around "tr" []
        ([newline] ++
          around "td" [attr "align" "center", style [css "padding" "20px 0"]]
            ([newline] ++
              (presentationTable (toString options.maxWidth) ++
                [attr "class" "container",
                  style [css "width" "100%", pixels "max-width" options.maxWidth,
                    css "background-color" options.containerBackground,
                    css "border" "1px solid #e5e5e5", css "border-radius" "4px",
                    css "box-shadow" "0 2px 8px rgba(0, 0, 0, 0.08)"]] ++
                [finishTag] ++ ([newline] ++ rows) ++ [endTag "table"]) ++
              [newline]) ++
          [newline]) ++
      [newline]) ++
    [endTag "table"]

/-- The page around the rows of a body, as nested steps. -/
def nestedSteps (options : ShellOptions) (rows : List Step) : List Step :=
  around "html" [attr "lang" options.lang, attr "xmlns" "http://www.w3.org/1999/xhtml"]
    ([newline] ++ options.nestedHead ++
      around "body"
        [style [css "margin" "0", css "padding" "0",
          css "background-color" options.pageBackground]]
        ([newline] ++ options.preheaderSteps ++ options.nestedTables rows ++ [newline]) ++
      [newline]) ++
  [newline]

/-- A number is written with digits and a sign. -/
lemma isData_toString (n : Int) : ∀ c ∈ (toString n).toList, IsData c := by
  have digit {c : Char} (h : c.isDigit = true) : IsData c := by
    refine ⟨?_, ?_, ?_⟩ <;> rintro rfl <;> exact absurd h (by decide)
  intro c h
  rw [Int.toString_eq_repr, Int.repr_eq_if] at h
  split at h
  case isTrue =>
    rw [Nat.toList_repr] at h
    exact digit (Nat.isDigit_of_mem_toDigits (by decide) (by decide) h)
  case isFalse =>
    rw [String.toList_append, List.mem_append, Nat.toList_repr] at h
    obtain sign | h := h
    · obtain rfl : c = '-' := List.mem_singleton.1 sign
      decide
    · exact digit (Nat.isDigit_of_mem_toDigits (by decide) (by decide) h)

/-- The rules of the style sheet have no tags and no quotes. -/
lemma isData_rules (options : ShellOptions) : ∀ c ∈ options.rules.toList, IsData c := by
  have join {a b : String} (ha : ∀ c ∈ a.toList, IsData c) (hb : ∀ c ∈ b.toList, IsData c) :
      ∀ c ∈ (a ++ b).toList, IsData c := by
    intro c h
    rw [String.toList_append, List.mem_append] at h
    exact h.elim (ha c) (hb c)
  have number := isData_toString options.mobileBreakpoint
  refine join (join (join (join (join (join (join (join ?_ number) ?_) ?_) ?_) ?_) ?_) ?_) ?_
  all_goals
    rw [String.toList_ofList]
    decide

/-- The rules of the style sheet have no tags. -/
lemma bracket_notMem_rules (options : ShellOptions) : '<' ∉ options.rules.toList :=
  fun mem => (options.isData_rules _ mem).1 rfl

/-- A line of the head is a fragment. -/
lemma fragment_metaSteps {raw key name content} (known : key ∈ attrNames) :
    Fragment raw (metaSteps key name content) := by
  have attrs : ∀ s ∈ [attr key name, attr "content" content], s.IsAttr := by
    simpa using ⟨known, by decide⟩
  exact .append (.empty (by decide) attrs) .newline

/-- The head of a page is a fragment. -/
lemma fragment_nestedHead {raw} (options : ShellOptions) : Fragment raw options.nestedHead := by
  have charset : ∀ s ∈ [attr "charset" "UTF-8"], s.IsAttr := by simp [attrNames]
  have title : Fragment raw (around "title" [] [text options.title]) :=
    .around (by decide) (by simp) .text
  have sheet : Fragment raw (around "style" [] [verbatim options.rules]) :=
    .around (by decide) (by simp) (.plain options.bracket_notMem_rules)
  refine .append (.around (by decide) (by simp) ?_) .newline
  refine .append (.append (.append (.append (.append (.append ?_ ?_) ?_) title) .newline) sheet)
    .newline
  · exact .append .newline (.append (.empty (by decide) charset) .newline)
  · exact fragment_metaSteps (by decide)
  · exact fragment_metaSteps (by decide)

/-- A preheader is a fragment, if there is one. -/
lemma fragment_preheaderSteps {raw} (options : ShellOptions) :
    Fragment raw options.preheaderSteps := by
  unfold preheaderSteps
  split
  case isTrue => exact .nil
  case isFalse => exact .append (.around (by decide) (by simp) .text) .newline

/-- The tables around a fragment make a fragment. -/
lemma fragment_nestedTables {raw rows} (options : ShellOptions) (h : Fragment raw rows) :
    Fragment raw (options.nestedTables rows) := by
  refine .table (by simp) (.append (.append .newline (.around (by decide) (by simp) ?_)) .newline)
  refine .append (.append .newline (.around (by decide) (by simp [attrNames]) ?_)) .newline
  exact .append (.append .newline (.table (by simp [attrNames]) (.append .newline h))) .newline

/-- A page is a fragment. -/
lemma fragment_nestedSteps {raw rows} (options : ShellOptions) (h : Fragment raw rows) :
    Fragment raw (options.nestedSteps rows) := by
  have tables := options.fragment_nestedTables h
  have inner := ((Fragment.newline.append options.fragment_preheaderSteps).append tables).append
    .newline
  refine .append (.around (by decide) (by simp [attrNames]) ?_) .newline
  refine .append (.append (.append .newline options.fragment_nestedHead) ?_) .newline
  exact .around (by decide) (by simp) inner

/-- A page reads like nested steps around the rows of its body. -/
theorem write_page (options : ShellOptions) (rows : List Step) :
    options.page (write rows) =
      write ([verbatim "<!DOCTYPE html>", newline] ++ options.nestedSteps rows) := by
  -- tags that the page writes as they are, step by step
  have doctype (w : Writer) : w.step (verbatim "<!DOCTYPE html>\n") =
      (w.step (verbatim "<!DOCTYPE html>")).step newline := by
    simp [step, put, Writer.markup, newline, String.append_assoc]
  have head (w : Writer) : w.step (verbatim "<head>\n") =
      ((w.step (startTag "head")).step finishTag).step newline := by
    simp [step, put, Writer.markup, newline, String.append_assoc]
  have sheet (w : Writer) : w.step (verbatim options.styleSheet) =
      ((((w.step (startTag "style")).step finishTag).step (verbatim options.rules)).step
        (endTag "style")).step newline := by
    simp [step, put, Writer.markup, newline, styleSheet, String.append_assoc]
  have headEnd (w : Writer) : w.step (verbatim "</head>\n") =
      (w.step (endTag "head")).step newline := by
    simp [step, put, Writer.markup, newline, String.append_assoc]
  have row (w : Writer) : w.step (verbatim "\n<tr>\n") =
      (((w.step newline).step (startTag "tr")).step finishTag).step newline := by
    simp [step, put, Writer.markup, newline, String.append_assoc]
  -- both sides are runs of single steps now; what the page writes behind the body is one string
  change (Writer.run _ _).markup = (Writer.run _ _).markup
  simp only [openingSteps, headSteps, nestedSteps, nestedHead, nestedTables, around,
    presentationTable, metaSteps, run_append, List.cons_append, List.nil_append, run_cons, run_nil,
    List.append_assoc, doctype, head, sheet, headEnd, row, markup_verbatim, markup_newline,
    markup_endTag]
  rw [markup_run (tagOpen_newline _), markup_newline]
  simp [closing, String.append_assoc]

end ShellOptions

/-- A complete email is written by nested steps behind the document type. -/
theorem Document.compile_eq_write (options : CompileOptions) (doc : Document) :
    doc.compile options = write ([verbatim "<!DOCTYPE html>", newline] ++
      options.shell.nestedSteps (doc.bodySteps options)) :=
  options.shell.write_page (doc.bodySteps options)

end EmailTemplate
