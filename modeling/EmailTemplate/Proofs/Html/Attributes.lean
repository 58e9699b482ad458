import EmailTemplate.Proofs.Html.Contents
import EmailTemplate.Proofs.Html.Skeleton

/-!
# Where attributes come from

No tag is written with an attribute that no step asks for: a start tag begins without attributes,
and each step gives it those that the step asks for (`Draft.AttrsIn.step`). So every attribute that
a reader finds in the markup of nested steps is one that a step asked for, with the value that it
asked for (`exists_attr?_of_fragment`).
-/

namespace EmailTemplate.Html
open Html.Step Markup

/-- The start tags of a draft have attributes of one class only. -/
def Draft.AttrsIn (p : Attribute → Prop) (d : Draft) : Prop :=
  ∀ t, .startTag t ∈ d.finished → ∀ a ∈ t.attrs, p a

namespace Draft.AttrsIn
variable {p : Attribute → Prop} {d : Draft}

/-- A draft without tokens has no attributes. -/
lemma empty : Draft.empty.AttrsIn p :=
  fun _ found => absurd found List.not_mem_nil

/-- Tokens that are no start tags are put behind the others. -/
lemma put (h : d.AttrsIn p) {ts : List Token} (tagless : ∀ t, .startTag t ∉ ts) :
    (d.put ts).AttrsIn p := by
  intro t found
  rw [Draft.put, Draft.finished, Option.map_none, Option.toList_none, List.append_nil] at found
  rcases List.mem_append.1 found with before | new
  · exact h t before
  · exact absurd new (tagless t)

/-- A pending tag is given an attribute of the class. -/
lemma putAttr (h : d.AttrsIn p) {key value : String} (asked : p (quoted key value)) :
    (d.putAttr key value).AttrsIn p := by
  obtain ⟨ts, _ | t⟩ := d
  · exact h
  · intro u found
    rcases List.mem_append.1 found with before | pending
    · exact h u (List.mem_append_left _ before)
    · obtain rfl := Token.startTag.inj (List.mem_singleton.1 pending)
      have old := h t (List.mem_append_right _ (List.mem_singleton_self _))
      exact List.forall_mem_append.2 ⟨old, List.forall_mem_singleton.2 asked⟩

/-- A tag begins without attributes. -/
lemma startTag (h : d.AttrsIn p) (name : String) : (d.step (.startTag name)).AttrsIn p := by
  intro t found
  rcases List.mem_append.1 found with before | new
  · exact h t before
  · obtain rfl := Token.startTag.inj (List.mem_singleton.1 new)
    exact List.forall_mem_nil p

/-- Closing a tag as empty leaves its attributes as they are. -/
lemma finishSelfClosing (h : d.AttrsIn p) : (d.step .finishSelfClosing).AttrsIn p := by
  obtain ⟨ts, _ | t⟩ := d
  · simpa [Draft.step] using h
  · intro u found
    rw [Draft.step, Draft.finished, Option.map_none, Option.toList_none, List.append_nil] at found
    rcases List.mem_append.1 found with before | finished
    · exact h u (List.mem_append_left _ before)
    · obtain rfl := Token.startTag.inj (List.mem_singleton.1 finished)
      exact h t (List.mem_append_right _ (List.mem_singleton_self _))

/-- A step gives only attributes that it asks for. -/
lemma step (h : d.AttrsIn p) {s : Step}
    (asked : ∀ key value, s.attr? = some (key, value) → p (quoted key value))
    (tagless : ∀ markup, s = verbatim markup → '<' ∉ markup.toList) : (d.step s).AttrsIn p := by
  cases s with
  | startTag name => exact h.startTag name
  | attr key value => exact h.putAttr (asked key value rfl)
  | style decls =>
    rw [Draft.step]
    split
    case isTrue => exact h
    case isFalse some => exact h.putAttr (asked _ _ (if_neg some))
  | finishTag => exact h.put fun _ => List.not_mem_nil
  | finishSelfClosing => exact h.finishSelfClosing
  | endTag name => exact h.put (by simp)
  | text content => exact h.put (by simp)
  | verbatim markup =>
    refine h.put ?_
    rw [tokens_of_notMem (tagless markup rfl)]
    simp

/-- Steps that ask for attributes of the class only, and write no tags of others as they are, keep a
draft in the class. -/
lemma run (h : d.AttrsIn p) {steps : List Step}
    (asked : ∀ s ∈ steps, ∀ key value, s.attr? = some (key, value) → p (quoted key value))
    (tagless : ∀ markup, verbatim markup ∈ steps → '<' ∉ markup.toList) :
    (d.run steps).AttrsIn p := by
  induction steps generalizing d with
  | nil => exact h
  | cons s steps ih =>
    have first := h.step (asked s List.mem_cons_self) fun markup same =>
      tagless markup (same ▸ List.mem_cons_self)
    exact ih first (fun t ht => asked t (List.mem_cons_of_mem s ht))
      fun markup ht => tagless markup (List.mem_cons_of_mem s ht)

end Draft.AttrsIn

/-- Nested steps without raw markup write no tag as it is. -/
lemma bracket_notMem_verbatim {steps} (h : Fragment False steps) :
    ∀ markup, verbatim markup ∈ steps → '<' ∉ markup.toList := by
  have plain {attrs : List Step} (isAttr : ∀ s ∈ attrs, s.IsAttr) (markup : String) :
      verbatim markup ∉ attrs :=
    fun mem => isAttr _ mem
  intro markup
  induction h with
  | nil => simp
  | text => simp
  | plain none =>
    intro mem
    obtain rfl := Step.verbatim.inj (List.mem_singleton.1 mem)
    exact none
  | empty _ isAttr => simp [plain isAttr]
  | around _ isAttr _ ih => simpa [Html.around, plain isAttr] using ih
  | cell raw => exact raw.elim
  | append _ _ iha ihb =>
    intro mem
    exact (List.mem_append.1 mem).elim iha ihb

/-- Every attribute that is found in what nested steps write is one that a step asked for. -/
theorem exists_attr?_of_fragment {steps} (h : Fragment False steps) {t : StartTag}
    (found : .startTag t ∈ tokens (write steps).toList) :
    ∀ a ∈ t.attrs, ∃ s ∈ steps,
      s.attr? = some (String.ofList a.pair.1, String.ofList a.pair.2) := by
  rw [tokens_write (lexical_fragment h)] at found
  refine Draft.AttrsIn.run .empty ?_ (bracket_notMem_verbatim h) t found
  intro s mem key value asked
  refine ⟨s, mem, ?_⟩
  rw [pair_quoted, String.ofList_toList, String.ofList_toList, asked]

end EmailTemplate.Html
