import EmailTemplate.Proofs.Html.Escape
import EmailTemplate.Proofs.Markup.Scriptless
import EmailTemplate.Proofs.Render.Nested

/-!
# Emails run no script

A complete email opens no script, whatever its document and options are (`no_script_compile`). The
text that a writer has written screens (`Screens`), and every step of the grammar of nested steps
keeps it so; raw markup does it together with the end tag of its cell.
-/

namespace EmailTemplate.Html
open Html.Step Markup

/-- Steps after which what is written screens, if it did before. -/
def Keeps (steps : List Step) : Prop :=
  ∀ w : Writer, Screens w.written.toList → Screens (w.run steps).written.toList

/-- No element is named like a script, or like the start of its name. -/
lemma afterName?_tagNames {name} (known : name ∈ tagNames) (next : List Char) :
    Text.afterName? "script".toList (name.toList ++ next) = none := by
  simp only [tagNames, List.mem_cons, List.not_mem_nil, or_false] at known
  rcases known with rfl | rfl | rfl | rfl | rfl | rfl | rfl | rfl | rfl | rfl | rfl | rfl | rfl <;>
    rfl

/-- No element's name has a bracket in it. -/
lemma bracket_notMem_tagNames {name} (known : name ∈ tagNames) : '<' ∉ name.toList := by
  have all : ∀ name ∈ tagNames, '<' ∉ name.toList := by decide
  exact all name known

/-- The start of an element's tag screens. -/
lemma screens_startTag {name} (known : name ∈ tagNames) : Screens ("<" ++ name).toList := by
  rw [String.toList_append]
  exact .tag (bracket_notMem_tagNames known) (afterName?_tagNames known)

/-- The end tag of an element screens. -/
lemma screens_endTag {name} (known : name ∈ tagNames) : Screens ("</" ++ name ++ ">").toList := by
  have plain : '<' ∉ '/' :: (name.toList ++ ['>']) := by
    simp [bracket_notMem_tagNames known]
  simpa using Screens.tag plain fun next => rfl

/-- With an open tag closed, what is written screens as well. -/
lemma screens_markup {w : Writer} (h : Screens w.written.toList) : Screens w.markup.toList := by
  unfold Writer.markup
  split
  case isTrue =>
    rw [String.toList_append]
    exact h.append (.of_notMem (by decide))
  case isFalse => exact h

namespace Keeps

/-- Where nothing is written, nothing changes. -/
lemma nil : Keeps [] :=
  fun _ h => h

/-- Steps that keep what is written do so one after the other. -/
lemma append {a b} (ha : Keeps a) (hb : Keeps b) : Keeps (a ++ b) := fun w h => by
  rw [Writer.run_append]
  exact hb _ (ha w h)

/-- The start of a tag keeps what is written. -/
lemma startTag {name} (known : name ∈ tagNames) : Keeps [startTag name] := fun w h => by
  have h := (screens_markup h).append (screens_startTag known)
  simpa [Writer.step, String.append_assoc] using h

/-- An attribute is written without a bracket. -/
lemma putAttr {key value} (known : key ∈ attrNames) {w : Writer} (h : Screens w.written.toList) :
    Screens (w.putAttr key value).written.toList := by
  have all : ∀ key ∈ attrNames, '<' ∉ key.toList := by decide
  have plain : '<' ∉ ' ' :: (key.toList ++ '=' :: '"' :: ((escape value).toList ++ ['"'])) := by
    simp [all key known, bracket_notMem_escape]
  unfold Writer.putAttr
  split
  case isTrue => simpa using h.append (.of_notMem plain)
  case isFalse => exact h

/-- A step that writes an attribute, or none, keeps what is written. -/
lemma attr {s : Step} (known : s.IsAttr) : Keeps [s] := by
  intro w h
  cases s with
  | attr key value => exact putAttr known h
  | style decls =>
    rw [Writer.run_cons, Writer.run_nil, Writer.step]
    split
    case isTrue => exact h
    case isFalse => exact putAttr (by decide) h
  | _ => exact known.elim

/-- Attributes keep what is written. -/
lemma attrs {attrs : List Step} (known : ∀ s ∈ attrs, s.IsAttr) : Keeps attrs := by
  induction attrs with
  | nil => exact nil
  | cons s attrs ih =>
    have first : Keeps [s] := attr (known s List.mem_cons_self)
    exact first.append (ih fun t ht => known t (List.mem_cons_of_mem s ht))

/-- The end of a tag keeps what is written. -/
lemma finishTag : Keeps [finishTag] :=
  fun _ h => screens_markup h

/-- The end of an element without contents keeps what is written. -/
lemma finishSelfClosing : Keeps [finishSelfClosing] := fun w h => by
  rw [Writer.run_cons, Writer.run_nil, Writer.step]
  split
  case isTrue =>
    rw [String.toList_append]
    exact h.append (.of_notMem (by decide))
  case isFalse => exact h

/-- A piece outside tags keeps what is written if it screens. -/
lemma put {piece : String} (screens : Screens piece.toList) {w : Writer}
    (h : Screens w.written.toList) : Screens (w.put piece).written.toList := by
  rw [Writer.put, String.toList_append]
  exact (screens_markup h).append screens

/-- An end tag keeps what is written. -/
lemma endTag {name} (known : name ∈ tagNames) : Keeps [endTag name] :=
  fun _ h => put (screens_endTag known) h

/-- Sanitized markup keeps what is written, with the end tag of its cell. -/
lemma cell (markup : String) : Keeps [verbatim (sanitize markup), Step.endTag "td"] := by
  intro w h
  have tag : Screens ['<', '/', 't', 'd', '>'] := .tag (by decide) fun _ => rfl
  have h := (screens_markup h).append (screens_sanitize markup tag)
  simpa [Writer.step, Writer.put, Writer.markup] using h

/-- Nested steps keep what is written. -/
lemma of_fragment {raw steps} (h : Fragment raw steps) : Keeps steps := by
  induction h with
  | nil => exact nil
  | text => exact fun w h => put (.of_notMem bracket_notMem_escape) h
  | plain none => exact fun w h => put (.of_notMem none) h
  | empty known isAttr =>
    exact ((startTag known).append (attrs isAttr)).append finishSelfClosing
  | around known isAttr _ ih =>
    exact ((((startTag known).append (attrs isAttr)).append finishTag).append ih).append
      (endTag known)
  | @cell _ markup _ isAttr =>
    -- sanitized markup screens only together with the tag that ends its cell
    have td : "td" ∈ tagNames := by decide
    have h := (((startTag td).append (attrs isAttr)).append finishTag).append (cell markup)
    simpa [around] using h
  | append _ _ iha ihb => exact iha.append ihb

end Keeps

end EmailTemplate.Html

namespace EmailTemplate
open Html Html.Step Markup

/-- A complete email opens no script: no `<` in it stands before the name of a script at a word's
end, whether it is written in small letters or in capitals; where the name is found by folding its
letters, it is spelled with a long s in front. -/
theorem no_script_compile (options : CompileOptions) (doc : Document) :
    ¬HasScript (doc.compile options).toList ∧ Scriptless (doc.compile options).toList := by
  have body : Fragment True (doc.bodySteps options) := Document.fragment fun _ _ _ _ => trivial
  have steps := options.shell.fragment_nestedSteps body
  have start : Screens (Writer.empty.run [verbatim "<!DOCTYPE html>", newline]).written.toList := by
    have doctype : Screens "<!DOCTYPE html>".toList := by
      rw [String.toList_ofList]
      exact .tag (by decide) fun _ => rfl
    exact Keeps.put (.of_notMem (by decide)) (Keeps.put doctype .nil)
  have written := screens_markup (Keeps.of_fragment steps _ start)
  rw [← Writer.run_append] at written
  have scriptless : Scriptless (doc.compile options).toList := by
    rw [doc.compile_eq_write options]
    exact written.scriptless
  exact ⟨scriptless.not_hasScript, scriptless⟩

end EmailTemplate
