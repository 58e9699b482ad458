import EmailTemplate.Proofs.Html.Escape
import EmailTemplate.Proofs.Html.Fragment
import EmailTemplate.Proofs.Html.Run
import Mathlib.Data.List.Infix
import Mathlib.Data.List.Induction

/-!
# Markup without a class

A value may hold any text, so that `class=` can stand in front of the quote that ends it; but the
tag goes on behind that quote with a blank or a bracket. Steps that give no tag a class therefore
write no class that begins with a given letter (`Writer.Unclassed.run`), whatever values and texts
they write.
-/

namespace EmailTemplate.Html
open Html.Step

/-- What stands in front of the value of a class. -/
def classQuote : List Char :=
  "class=\"".toList

/-- No class that begins with a `c` stands in a text. -/
def Apart (cs : List Char) : Prop :=
  ¬classQuote ++ ['c'] <:+: cs

/-- A step that gives no tag a class. -/
def Step.Unclassed : Step → Prop
  | startTag name | endTag name => name ∈ tagNames
  | attr key _ => key ∈ attrNames ∧ key ≠ "class"
  | verbatim markup => '"' ∉ markup.toList
  | _ => True

/-- A text without quotes does not end in one. -/
lemma eq_nil_of_classQuote_suffix {cs piece : List Char} (plain : '"' ∉ piece)
    (h : classQuote <:+ cs ++ piece) : piece = [] := by
  cases piece using List.reverseRecOn with
  | nil => rfl
  | append_singleton piece d =>
    obtain ⟨front, eq⟩ := h
    have whole : front ++ "class=".toList ++ ['"'] = cs ++ piece ++ [d] := by
      rw [List.append_assoc cs, ← eq, List.append_assoc]
      rfl
    obtain rfl : '"' = d := List.singleton_inj.1 (List.append_inj_right' whole rfl)
    exact absurd (List.mem_append_right piece (List.mem_singleton_self _)) plain

/-- A text ends in a letter behind the start of a class. -/
lemma classQuote_suffix_of_concat {cs : List Char} {d : Char}
    (h : classQuote ++ ['c'] <:+ cs ++ [d]) : d = 'c' ∧ classQuote <:+ cs := by
  obtain ⟨front, eq⟩ := h
  rw [← List.append_assoc] at eq
  obtain ⟨left, right⟩ := List.append_inj' eq rfl
  exact ⟨(List.singleton_inj.1 right).symm, front, left⟩

/-- A class is given by its name. -/
lemma class_suffix_of_assigned {cs key : List Char}
    (h : classQuote <:+ cs ++ (' ' :: key ++ ['=']) ++ ['"']) : "class".toList <:+ key := by
  obtain ⟨front, eq⟩ := h
  have name : classQuote = "class".toList ++ ['=', '"'] := rfl
  have whole : front ++ "class".toList ++ ['=', '"'] = cs ++ ' ' :: key ++ ['=', '"'] := by
    rw [name, ← List.append_assoc] at eq
    rw [eq, List.append_assoc, List.append_assoc, List.append_assoc]
    rfl
  obtain ⟨extra, -, eq⟩ | ⟨extra, -, eq⟩ :=
    List.append_eq_append_iff.1 (List.append_cancel_right whole)
  · have blank : ' ' ∈ "class".toList := by
      rw [eq]
      exact List.mem_append_right extra List.mem_cons_self
    exact absurd blank (by decide)
  · cases extra with
    | nil => exact absurd (List.cons.inj eq).1 (by decide)
    | cons e extra => exact ⟨extra, (List.cons.inj eq).2.symm⟩

namespace Apart
variable {cs piece : List Char}

/-- Only a `c` can begin a class. -/
lemma concat {d : Char} (h : Apart cs) (other : d ≠ 'c') : Apart (cs ++ [d]) := by
  intro found
  obtain ends | inside := List.infix_concat_iff.1 found
  · exact other (classQuote_suffix_of_concat ends).1
  · exact h inside

/-- What has no quotes goes behind a text, unless it is the value of a class. -/
lemma append (h : Apart cs) (plain : '"' ∉ piece)
    (joint : classQuote <:+ cs → piece.head? ≠ some 'c') : Apart (cs ++ piece) := by
  induction piece using List.reverseRecOn with
  | nil => rwa [List.append_nil]
  | append_singleton piece d ih =>
    have plain' : '"' ∉ piece := fun mem => plain (List.mem_append_left _ mem)
    intro found
    rw [← List.append_assoc] at found
    obtain ends | inside := List.infix_concat_iff.1 found
    · obtain ⟨rfl, start⟩ := classQuote_suffix_of_concat ends
      obtain rfl := eq_nil_of_classQuote_suffix plain' start
      rw [List.append_nil] at start
      exact joint start rfl
    · refine ih plain' ?_ inside
      intro start letter
      apply joint start
      rw [List.head?_append, letter, Option.some_or]

end Apart

/-- The names of tags have no quotes. -/
lemma quote_notMem_tagNames {name : String} (known : name ∈ tagNames) : '"' ∉ name.toList := by
  have all : ∀ name ∈ tagNames, '"' ∉ name.toList := by decide
  exact all name known

namespace Writer

/-- A writer that has written no class. In an open tag, anything may stand in front of the quote
that ends a value. -/
structure Unclassed (w : Writer) : Prop where
  apart : Apart w.written.toList
  ends : w.tagOpen = false → ¬classQuote <:+ w.written.toList

namespace Unclassed
variable {w : Writer}

/-- Nothing has been written, and so no class. -/
lemma empty : Writer.empty.Unclassed := by
  constructor
  · show ¬classQuote ++ ['c'] <:+: []
    decide
  · intro _
    decide

/-- With an open tag closed, no value is left open. -/
lemma markup (h : w.Unclassed) : Apart w.markup.toList ∧ ¬classQuote <:+ w.markup.toList := by
  rw [Writer.markup]
  split
  case isTrue =>
    rw [String.toList_append]
    refine ⟨h.apart.concat (by decide), ?_⟩
    intro suffix
    exact absurd (eq_nil_of_classQuote_suffix (by decide) suffix) (by decide)
  case isFalse closed =>
    exact ⟨h.apart, h.ends (by simpa using closed)⟩

/-- Markup without quotes goes behind what has been written. -/
lemma put {piece : String} {tagOpen : Bool} (h : w.Unclassed) (plain : '"' ∉ piece.toList) :
    Writer.Unclassed ⟨w.markup ++ piece, tagOpen⟩ := by
  obtain ⟨apart, ends⟩ := h.markup
  constructor
  · rw [String.toList_append]
    exact apart.append plain fun start => absurd start ends
  · intro _ suffix
    rw [String.toList_append] at suffix
    have empty := eq_nil_of_classQuote_suffix plain suffix
    rw [empty, List.append_nil] at suffix
    exact ends suffix

/-- An attribute that is no class goes behind what has been written. -/
lemma putAttr {key value : String} (h : w.Unclassed) (known : key ∈ attrNames)
    (ne : key ≠ "class") : (w.putAttr key value).Unclassed := by
  have names : ∀ key ∈ attrNames, key ≠ "class" →
      '"' ∉ key.toList ∧ ¬"class".toList <:+ key.toList := by decide
  obtain ⟨plain, other⟩ := names key known ne
  rw [Writer.putAttr]
  split
  case isFalse => exact h
  case isTrue isOpen =>
    refine ⟨?_, fun closed => absurd (isOpen.symm.trans closed) (by decide)⟩
    have data : '"' ∉ (escape value).toList := fun mem => (isData_escape _ mem).2.2 rfl
    have name : Apart (w.written.toList ++ (' ' :: key.toList ++ ['='])) :=
      h.apart.append (by simpa using plain) fun _ => by simp
    have start : ¬classQuote <:+ w.written.toList ++ (' ' :: key.toList ++ ['=']) ++ ['"'] :=
      fun suffix => other (class_suffix_of_assigned suffix)
    have whole := ((name.concat (d := '"') (by decide)).append data fun s => absurd s start).concat
      (d := '"') (by decide)
    simpa using whole

/-- A step that gives no tag a class writes none. -/
lemma step {s : Step} (h : w.Unclassed) (plain : s.Unclassed) : (w.step s).Unclassed := by
  cases s with
  | startTag name =>
    have tag : '"' ∉ ("<" ++ name).toList := by
      simpa using quote_notMem_tagNames plain
    have written : Writer.Unclassed ⟨w.markup ++ ("<" ++ name), true⟩ := h.put tag
    rwa [← String.append_assoc] at written
  | attr key value => exact h.putAttr plain.1 plain.2
  | style decls =>
    rw [Writer.step]
    split
    case isTrue => exact h
    case isFalse => exact h.putAttr (by decide) (by decide)
  | finishTag =>
    -- the bracket that ends the tag is no quote
    obtain ⟨apart, ends⟩ := h.markup
    exact ⟨apart, fun _ => ends⟩
  | finishSelfClosing =>
    rw [Writer.step]
    split
    case isFalse => exact h
    case isTrue =>
      constructor
      · rw [String.toList_append]
        exact h.apart.append (by decide) fun _ => by decide
      · intro _ suffix
        rw [String.toList_append] at suffix
        exact absurd (eq_nil_of_classQuote_suffix (by decide) suffix) (by decide)
  | endTag name =>
    have tag : '"' ∉ ("</" ++ name ++ ">").toList := by
      simpa using quote_notMem_tagNames plain
    exact h.put tag
  | text content =>
    exact h.put fun mem => (isData_escape _ mem).2.2 rfl
  | verbatim piece => exact h.put plain

/-- Steps that give no tag a class write none. -/
lemma run {steps : List Step} (h : w.Unclassed) (plain : ∀ s ∈ steps, s.Unclassed) :
    (w.run steps).Unclassed := by
  induction steps generalizing w with
  | nil => exact h
  | cons s steps ih =>
    apply ih (h.step (plain s List.mem_cons_self))
    exact fun t mem => plain t (List.mem_cons_of_mem s mem)

end Unclassed

end Writer

end EmailTemplate.Html
