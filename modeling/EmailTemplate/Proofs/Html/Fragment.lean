import EmailTemplate.Html.Writer
import EmailTemplate.Markup.Sanitize
import Mathlib.Tactic.Lemma

/-!
# Nested steps

The renderers put steps together in a few ways only: texts and elements stand one after another, and
an element is closed where its contents end. `Fragment` is the grammar of these steps, over the
elements and attributes that emails are made of. Sanitized markup may stand in a cell of its own.
What is said of everything that is rendered is proved by induction on this grammar.
-/

namespace EmailTemplate.Html
open Html.Step

/-- The elements that emails are made of. -/
def tagNames : List String :=
  ["html", "head", "meta", "title", "style", "body", "div", "table", "tr", "td", "a", "img", "span"]

/-- The attributes that these elements have. -/
def attrNames : List String :=
  ["lang", "xmlns", "charset", "name", "http-equiv", "content", "role", "class", "align", "valign",
    "width", "height", "cellpadding", "cellspacing", "border", "href", "target", "src", "alt",
    "style"]

/-- A step that gives the open tag one of the known attributes. -/
def Step.IsAttr : Step → Prop
  | attr key _ => key ∈ attrNames
  | style _ => True
  | _ => False

/-- An attribute step is about an attribute if its name is known. -/
@[simp] lemma Step.isAttr_attr {key value} : (attr key value).IsAttr ↔ key ∈ attrNames := Iff.rfl

/-- An attribute with a number is one like any other. -/
@[simp] lemma Step.isAttr_attrInt {key n} : (attrInt key n).IsAttr ↔ key ∈ attrNames := Iff.rfl

/-- An inline style is an attribute. -/
@[simp] lemma Step.isAttr_style {decls} : (style decls).IsAttr := trivial

/-- Steps in which every element is closed where its contents end. `raw` says whether sanitized
markup may stand in a cell. -/
inductive Fragment (raw : Prop) : List Step → Prop where
  | nil : Fragment raw []
  | text {content} : Fragment raw [Step.text content]
  /-- Markup without tags. -/
  | plain {markup} :
    '<' ∉ markup.toList →
    Fragment raw [verbatim markup]
  /-- An element without contents. -/
  | empty {name attrs} :
    name ∈ tagNames →
    (∀ s ∈ attrs, s.IsAttr) →
    Fragment raw (startTag name :: attrs ++ [finishSelfClosing])
  /-- An element around its contents. -/
  | around {name attrs inner} :
    name ∈ tagNames →
    (∀ s ∈ attrs, s.IsAttr) →
    Fragment raw inner →
    Fragment raw (around name attrs inner)
  /-- A cell that holds sanitized markup. -/
  | cell {attrs markup} :
    raw →
    (∀ s ∈ attrs, s.IsAttr) →
    Fragment raw (Html.around "td" attrs [verbatim (Markup.sanitize markup)])
  | append {a b} :
    Fragment raw a →
    Fragment raw b →
    Fragment raw (a ++ b)

namespace Fragment

/-- A line break is markup without tags. -/
lemma newline {raw} : Fragment raw [Step.newline] :=
  .plain (by decide)

/-- Nested steps for each member of a list are nested when they are put together. -/
lemma flatMap {α raw} {f : α → List Step} {xs : List α} (h : ∀ x ∈ xs, Fragment raw (f x)) :
    Fragment raw (xs.flatMap f) := by
  induction xs with
  | nil => exact .nil
  | cons x xs ih =>
    exact .append (h x List.mem_cons_self) (ih fun y hy => h y (List.mem_cons_of_mem x hy))

/-- A table is an element around its rows. -/
lemma table {raw width attrs inner} (known : ∀ s ∈ attrs, s.IsAttr) (h : Fragment raw inner) :
    Fragment raw
      (presentationTable width ++ attrs ++ [finishTag] ++ inner ++ [endTag "table"]) := by
  have all : ∀ s ∈ (presentationTable width).tail ++ attrs, s.IsAttr := by
    simpa [presentationTable, attrNames] using known
  exact .around (by decide) all h

/-- The cells of a layout table stand in its only row. -/
lemma layoutTable {raw cells} (h : Fragment raw cells) : Fragment raw (layoutTable cells) := by
  have row : Fragment raw (Html.around "tr" [] cells) := .around (by decide) (by simp) h
  have known : ∀ s ∈ [style [css "border-collapse" "collapse"]], s.IsAttr := by simp
  have h : Fragment raw (presentationTable "100%" ++ _ ++ _ ++ _ ++ _) := table known row
  simpa [Html.layoutTable] using h

end Fragment

end EmailTemplate.Html
