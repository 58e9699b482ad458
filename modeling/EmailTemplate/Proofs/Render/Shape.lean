import EmailTemplate.Proofs.Document.ColumnOrder
import EmailTemplate.Proofs.Html.Skeleton
import EmailTemplate.Proofs.Render.Nested

/-!
# What strings cannot do

The shape of a document are the kinds of its elements and their places. Without raw markup, the
complete email of a document is well nested and has a skeleton that only its shape decides
(`nested_compile`): no text, address, color or number in the document or the options adds, removes
or renames a tag or an attribute.
-/

namespace EmailTemplate
open Html Html.Step Markup

/-- What an element is, without anything that is written in it. -/
inductive ElementShape where
  | text
  | button
  | image (linked : Bool)
  | divider
  | socialIcon
  | rawMarkup
  deriving DecidableEq, Repr

/-- The shape of an element; an image may stand within a link. -/
def ElementKind.shape : ElementKind → ElementShape
  | text _ => .text
  | button _ => .button
  | image p => .image p.link?.isSome
  | divider _ => .divider
  | socialIcon _ => .socialIcon
  | rawMarkup _ => .rawMarkup

/-- The shape of an element, which its frame has no part in. -/
def Element.shape (e : Element) : ElementShape :=
  e.kind.shape

/-- The shapes of the elements in each column of a row, as they are laid out. -/
def Row.shape (row : Row) : List (List ElementShape) :=
  row.sortedColumns.map fun column => column.2.map Element.shape

/-- The shapes of the elements of a document, in their places. -/
structure DocumentShape where
  rows : List (List (List ElementShape))
  standalone : List ElementShape
  deriving DecidableEq, Repr

/-- The shape of a document. -/
def Document.shape (doc : Document) : DocumentShape :=
  ⟨doc.layoutRows.map Row.shape, doc.canvasItems.map Element.shape⟩

/-- No element of a document is raw markup. -/
def Document.Plain (doc : Document) : Prop :=
  ∀ e ∈ doc.elements, e.shape ≠ .rawMarkup

/-- Images are rendered alike if both stand within a link, or neither does. -/
lemma ImageProps.alike {d d'} {p p' : ImageProps} (h : p.link?.isSome = p'.link?.isSome) :
    Alike (p.steps d) (p'.steps d') := by
  have image : Alike (p.imageSteps d) (p'.imageSteps d') := rfl
  cases e : p.link? with
  | none =>
    cases e' : p'.link? with
    | none => simpa [ImageProps.steps, e, e'] using image
    | some url => simp [e, e'] at h
  | some url =>
    cases e' : p'.link? with
    | none => simp [e, e'] at h
    | some url' =>
      simp only [ImageProps.steps, e, e']
      exact .around rfl image

/-- Dividers of any style are rendered alike. -/
lemma DividerProps.alike {d d'} (p p' : DividerProps) : Alike (p.steps d) (p'.steps d') := by
  have declared (p : DividerProps) (color : String) :
      [bare (Step.style (p.style.declarations color))] = [attr "style" ""] := by
    cases p.style <;> rfl
  refine .around ?_ (.plain p.style.bracket_notMem_glyph p'.style.bracket_notMem_glyph)
  exact (declared p _).trans (declared p' _).symm

/-- Elements of one shape are rendered alike. -/
lemma ElementKind.alike {d d'} {k k' : ElementKind} (plain : k.shape ≠ .rawMarkup)
    (h : k.shape = k'.shape) : Alike (k.steps d) (k'.steps d') := by
  cases k with
  | text p =>
    cases k' with
    | text p' => rfl
    | _ => cases h
  | button p =>
    cases k' with
    | button p' => rfl
    | _ => cases h
  | image p =>
    cases k' with
    | image p' => exact ImageProps.alike (ElementShape.image.inj h)
    | _ => cases h
  | divider p =>
    cases k' with
    | divider p' => exact p.alike p'
    | _ => cases h
  | socialIcon p =>
    cases k' with
    | socialIcon p' => rfl
    | _ => cases h
  | rawMarkup m => exact absurd rfl plain

/-- Elements of one shape are rendered alike, each in its frame. -/
lemma Element.alike {d d'} {e e' : Element} (plain : e.shape ≠ .rawMarkup)
    (h : e.shape = e'.shape) : Alike (e.steps d) (e'.steps d') :=
  .layoutTable (.around rfl (ElementKind.alike plain h))

/-- Columns of one shape are rendered alike, whatever their widths. -/
lemma Column.alike {d d' width width'} {c c' : Column} (plain : ∀ e ∈ c.2, e.shape ≠ .rawMarkup)
    (h : c.2.map Element.shape = c'.2.map Element.shape) :
    Alike (c.steps d width) (c'.steps d' width') :=
  .around rfl (.flatMap h fun e he _ same => Element.alike (plain e he) same)

/-- Rows of one shape are rendered alike. -/
lemma Row.alike {d d'} {row row' : Row} (plain : ∀ e ∈ row.elements, e.shape ≠ .rawMarkup)
    (h : row.shape = row'.shape) : Alike (row.steps d) (row'.steps d') := by
  have columns : ∀ c ∈ row.sortedColumns, ∀ e ∈ c.2, e.shape ≠ .rawMarkup :=
    fun c hc e he => plain e (List.mem_flatMap.2 ⟨c, hc, he⟩)
  have length : row.sortedColumns.length = row'.sortedColumns.length := by
    simpa [Row.shape] using congrArg List.length h
  have cells (width width' : String) : Alike (row.sortedColumns.flatMap (Column.steps d width))
      (row'.sortedColumns.flatMap (Column.steps d' width')) :=
    .flatMap h fun c hc _ same => Column.alike (columns c hc) same
  simp only [Row.steps]
  split
  case isTrue none =>
    have none' : row'.sortedColumns.isEmpty = true := by
      rw [List.isEmpty_iff_length_eq_zero, ← length]
      exact List.isEmpty_iff_length_eq_zero.1 none
    rw [if_pos none']
    exact .refl []
  case isFalse some =>
    have some' : ¬row'.sortedColumns.isEmpty = true := by
      rwa [List.isEmpty_iff_length_eq_zero, ← length, ← List.isEmpty_iff_length_eq_zero]
    rw [if_neg some']
    exact .append (.around rfl (.around rfl (.layoutTable (cells _ _)))) rfl

/-- Standalone elements of one shape are rendered alike. -/
lemma alike_standaloneSteps {options options' : CompileOptions} {e e' : Element}
    (plain : e.shape ≠ .rawMarkup) (h : e.shape = e'.shape) :
    Alike (standaloneSteps options e) (standaloneSteps options' e') :=
  .append (.around rfl (.around rfl (Element.alike plain h))) rfl

/-- Documents of one shape have bodies that are alike. -/
lemma Document.alike {options options' : CompileOptions} {doc doc' : Document}
    (plain : doc.Plain) (h : doc.shape = doc'.shape) :
    Alike (doc.bodySteps options) (doc'.bodySteps options') := by
  obtain ⟨rows, standalone⟩ := DocumentShape.mk.inj h
  have elements := List.forall_mem_append.1 plain
  refine .append (.flatMap rows fun row hrow _ same => Row.alike ?_ same) ?_
  · exact fun e he => elements.1 e (List.mem_flatMap.2 ⟨row, hrow, he⟩)
  · exact .flatMap standalone fun e he _ same => alike_standaloneSteps (elements.2 e he) same

namespace ShellOptions
variable {options options' : ShellOptions}

/-- The heads of all pages are alike. -/
lemma alike_nestedHead : Alike options.nestedHead options'.nestedHead := by
  have title : Alike (around "title" [] [text options.title])
      (around "title" [] [text options'.title]) := rfl
  have sheet : Alike (around "style" [] [verbatim options.rules])
      (around "style" [] [verbatim options'.rules]) :=
    .around rfl (.plain options.bracket_notMem_rules options'.bracket_notMem_rules)
  refine .append (.around rfl ?_) rfl
  exact .append (.append (.append (.append rfl title) rfl) sheet) rfl

/-- Preheaders are alike if both are there, or neither is. -/
lemma alike_preheaderSteps (h : options.preheader.isEmpty = options'.preheader.isEmpty) :
    Alike options.preheaderSteps options'.preheaderSteps := by
  rw [preheaderSteps, preheaderSteps, h]
  split
  case isTrue => rfl
  case isFalse => rfl

/-- Tables around rows that are alike are alike. -/
lemma alike_nestedTables {rows rows'} (h : Alike rows rows') :
    Alike (options.nestedTables rows) (options'.nestedTables rows') := by
  have inner : Alike ([newline] ++ rows) ([newline] ++ rows') := .append rfl h
  refine .append (.append rfl (.append (.append rfl (.around rfl ?_)) rfl)) rfl
  refine .append (.append rfl (.around rfl ?_)) rfl
  exact .append (.append rfl (.append (.append rfl inner) rfl)) rfl

/-- Pages around rows that are alike are alike, if both have a preheader or neither has. -/
lemma alike_nestedSteps {rows rows'}
    (preheader : options.preheader.isEmpty = options'.preheader.isEmpty) (h : Alike rows rows') :
    Alike (options.nestedSteps rows) (options'.nestedSteps rows') := by
  refine .append (.around rfl ?_) rfl
  refine .append (.append (.append rfl alike_nestedHead) (.around rfl ?_)) rfl
  exact .append (.append (.append rfl (alike_preheaderSteps preheader)) (alike_nestedTables h)) rfl

end ShellOptions

/-- The steps behind the document type. -/
def Document.emailSteps (options : CompileOptions) (doc : Document) : List Step :=
  [newline] ++ options.shell.nestedSteps (doc.bodySteps options)

/-- Without raw markup, an email is nested behind the document type. -/
lemma Document.Plain.fragment {doc : Document} (plain : doc.Plain) (options : CompileOptions) :
    Fragment False (doc.emailSteps options) := by
  have body : Fragment False (doc.bodySteps options) := Document.fragment fun e he m hm =>
    plain e he (by rw [Element.shape, hm]; rfl)
  rw [Document.emailSteps]
  exact .append .newline (options.shell.fragment_nestedSteps body)

/-- The document type stands in front of everything else. -/
lemma Document.toList_compile (options : CompileOptions) (doc : Document) :
    (doc.compile options).toList =
      "<!DOCTYPE html>".toList ++ (write (doc.emailSteps options)).toList := by
  rw [doc.compile_eq_write options, List.cons_append, write_verbatim, String.toList_append,
    emailSteps]

/-- Without raw markup, an email is read as its document type and the tokens that were written. -/
lemma Document.Plain.tokens_compile {doc : Document} (plain : doc.Plain)
    (options : CompileOptions) : tokens (doc.compile options).toList =
      .declaration "!DOCTYPE html".toList :: outline (doc.emailSteps options) := by
  rw [doc.toList_compile options, ← tokens_write (lexical_fragment (plain.fragment options))]
  have doctype : "<!DOCTYPE html>".toList = (Token.declaration "!DOCTYPE html".toList).text := by
    rw [String.toList_ofList, String.toList_ofList]
    rfl
  rw [doctype]
  exact tokens_declaration (by decide) (by decide) (by decide) _

/-- Without raw markup, an email is its document type and then texts and tags, well nested; and two
emails have the same tags with the same attributes if their documents are of one shape, and both
have a preheader or neither has. -/
theorem nested_compile {doc : Document} (plain : doc.Plain) (options : CompileOptions) :
    (∃ page, tokens (doc.compile options).toList = .declaration "!DOCTYPE html".toList :: page ∧
      (∀ t ∈ page, t.Closed) ∧ WellNested (skeleton page)) ∧
    ∀ (doc' : Document) (options' : CompileOptions), doc'.Plain → doc.shape = doc'.shape →
      options.shell.preheader.isEmpty = options'.shell.preheader.isEmpty →
      skeleton (tokens (doc.compile options).toList) =
        skeleton (tokens (doc'.compile options').toList) := by
  have nested := plain.fragment options
  refine ⟨⟨_, plain.tokens_compile options, closed_outline (lexical_fragment nested),
    wellNested_fragment nested⟩, ?_⟩
  -- the two runs are compared by their steps, which are alike before anything is read
  intro doc' options' plain' shape preheader
  have alike : Alike (doc.emailSteps options) (doc'.emailSteps options') :=
    .append rfl (ShellOptions.alike_nestedSteps preheader (Document.alike plain shape))
  rw [plain.tokens_compile options, plain'.tokens_compile options', skeleton_declaration,
    skeleton_declaration]
  exact alike.skeleton_eq

/-- A document with one text, and an image within a link. -/
def letter (content src link : String) : Document where
  canvasItems :=
    [⟨none, .plain, .text ⟨content, none, none, none, ⟨false, false, false⟩⟩⟩,
      ⟨none, .plain, .image ⟨src, none, none, none, none, none, some link⟩⟩]
  layoutRows := []

/-- What a text says cannot be told from the tags of an email. -/
theorem skeleton_compile_letter :
    (letter "Hello" "a.png" "b").Plain ∧ (letter "</td><script>" "\"><b" "'>").Plain ∧
    skeleton (tokens ((letter "Hello" "a.png" "b").compile .standard).toList) =
      skeleton (tokens ((letter "</td><script>" "\"><b" "'>").compile .standard).toList) := by
  have plain (content src link : String) : (letter content src link).Plain := by
    simp [Document.Plain, Document.elements, letter, Element.shape, ElementKind.shape]
  have same := (nested_compile (plain "Hello" "a.png" "b") .standard).2 _ .standard
    (plain "</td><script>" "\"><b" "'>") (by decide) rfl
  exact ⟨plain _ _ _, plain _ _ _, same⟩

end EmailTemplate
