import EmailTemplate.Html.Writer
import Mathlib.Tactic.Lemma

/-!
# Runs of the writer

What a writer has written before does not matter for what it writes next, except that an open tag
may take attributes: markup in front stays in front (`Writer.run_behind`), and without an open tag
steps are written as they are from the start (`Writer.markup_run`), so that steps that leave no tag
open are written one after another (`write_append`, `write_flatMap`). A tag that is written as it is
could as well be written by its own steps.
-/

namespace EmailTemplate.Html
open Html.Step

namespace Writer

/-- No step changes nothing. -/
@[simp] lemma run_nil {w : Writer} : w.run [] = w := rfl

/-- The first step is taken first. -/
@[simp] lemma run_cons {w : Writer} {s steps} : w.run (s :: steps) = (w.step s).run steps := rfl

/-- The writer with other markup in front of what it has written. -/
def behind (w : Writer) (front : String) : Writer :=
  ⟨front ++ w.written, w.tagOpen⟩

/-- Markup in front stays in front when the open tag is closed. -/
lemma markup_behind (w : Writer) (front : String) :
    (w.behind front).markup = front ++ w.markup := by
  unfold markup behind
  split <;> simp [String.append_assoc]

/-- Markup in front stays in front of a piece. -/
lemma put_behind (w : Writer) (front piece : String) :
    (w.behind front).put piece = (w.put piece).behind front := by
  rw [put, put, markup_behind, String.append_assoc]
  rfl

/-- Markup in front stays in front of an attribute. -/
lemma putAttr_behind (w : Writer) (front key value : String) :
    (w.behind front).putAttr key value = (w.putAttr key value).behind front := by
  cases h : w.tagOpen <;> simp [putAttr, h, behind, String.append_assoc]

/-- Markup in front stays in front of a step. -/
lemma step_behind (w : Writer) (front : String) (s : Step) :
    (w.behind front).step s = (w.step s).behind front := by
  cases s with
  | startTag name =>
    simp only [step, markup_behind, String.append_assoc]
    rfl
  | attr key value => exact putAttr_behind w front key value
  | style decls =>
    simp only [step]
    split
    case isTrue => rfl
    case isFalse => exact putAttr_behind w front "style" (Style.css decls)
  | finishTag =>
    simp only [step, markup_behind]
    rfl
  | finishSelfClosing =>
    cases h : w.tagOpen <;> simp [step, h, behind, String.append_assoc]
  | endTag name => exact put_behind w front ("</" ++ name ++ ">")
  | text content => exact put_behind w front (escape content)
  | verbatim piece => exact put_behind w front piece

/-- Steps do not touch what stands in front. -/
lemma run_behind (w : Writer) (front : String) (steps : List Step) :
    (w.behind front).run steps = (w.run steps).behind front := by
  induction steps generalizing w with
  | nil => rfl
  | cons s steps ih => rw [run_cons, run_cons, step_behind, ih]

/-- Without an open tag, steps write what they write from the start. -/
lemma markup_run {w : Writer} (closed : w.tagOpen = false) (steps : List Step) :
    (w.run steps).markup = w.markup ++ write steps := by
  have start : w = empty.behind w.written := by
    simp [behind, empty, ← closed]
  have written : w.markup = w.written := by simp [markup, closed]
  rw [written, start, run_behind, markup_behind]
  simp [behind, empty, write]

/-- Markup that is written as it is goes behind what is there. -/
@[simp] lemma markup_verbatim (w : Writer) (piece : String) :
    (w.step (verbatim piece)).markup = w.markup ++ piece := rfl

/-- A line break goes behind what is there. -/
@[simp] lemma markup_newline (w : Writer) : (w.step newline).markup = w.markup ++ "\n" := rfl

/-- An end tag goes behind what is there. -/
@[simp] lemma markup_endTag (w : Writer) (name : String) :
    (w.step (endTag name)).markup = w.markup ++ ("</" ++ name ++ ">") := rfl

/-- Behind a line break no tag is open. -/
@[simp] lemma tagOpen_newline (w : Writer) : (w.step newline).tagOpen = false := rfl

end Writer

/-- Steps behind which no tag is open if none is open in front of them. -/
def Closing (steps : List Step) : Prop :=
  ∀ w : Writer, w.tagOpen = false → (w.run steps).tagOpen = false

/-- Steps that leave no tag open are written by themselves. -/
lemma write_append {a : List Step} (closing : Closing a) (b : List Step) :
    write (a ++ b) = write a ++ write b := by
  have closed : (Writer.empty.run a).tagOpen = false := closing Writer.empty rfl
  have written := Writer.markup_run closed b
  rw [← Writer.run_append] at written
  exact written

/-- Lists of steps that leave no tag open are written one after another. -/
lemma write_flatMap {α} {f : α → List Step} {xs : List α} (closing : ∀ x ∈ xs, Closing (f x)) :
    write (xs.flatMap f) = String.join (xs.map fun x => write (f x)) := by
  induction xs with
  | nil => rfl
  | cons x xs ih =>
    have rest := ih fun y hy => closing y (List.mem_cons_of_mem x hy)
    rw [List.flatMap_cons, write_append (closing x List.mem_cons_self), rest, List.map_cons,
      String.join_cons]

/-- Markup that is written first stands in front of what is written by the other steps. -/
lemma write_verbatim (piece : String) (steps : List Step) :
    write (verbatim piece :: steps) = piece ++ write steps := by
  have closing : Closing [verbatim piece] := fun _ _ => rfl
  have front : write [verbatim piece] = piece := by
    simp [write, Writer.step, Writer.put, Writer.markup, Writer.empty]
  have written := write_append closing steps
  rwa [front] at written

end EmailTemplate.Html
