import EmailTemplate.Proofs.Markup.Openers
import EmailTemplate.Proofs.Text.Name

/-!
# Texts that open no script

A text opens a script where a `<` stands right before the name at a word's end. Letters are compared
here as stripping compares them; a name in small letters or capitals is then found in particular
(`Scriptless.not_hasScript`). What a text opens may depend on what is written after it, so the
property that writing preserves is that a text *screens*: it opens no script, whatever scriptless
text follows. Sanitized markup screens in front of a tag (`screens_sanitize`).
-/

namespace EmailTemplate.Markup
open EmailTemplate.Text

/-- Whether a `<` stands in a text before the name of a script, case aside, at a word's end. -/
def HasScript (cs : List Char) : Prop :=
  ∃ rest, ('<' :: rest) <:+ cs ∧ (rest.take 6).map Char.toLower = "script".toList ∧
    atWordEnd (rest.drop 6) = true

/-- A text that opens no script, unless the name is spelled with a long s in front. -/
def Scriptless (cs : List Char) : Prop :=
  ∀ rest after, Opening ["script"] cs rest after → rest.head? = some 'ſ'

/-- A text that opens no script, whatever scriptless text follows. -/
def Screens (cs : List Char) : Prop :=
  ∀ next, Scriptless next → Scriptless (cs ++ next)

/-- A name in small letters or capitals is a name, case aside. -/
lemma afterName?_of_map_toLower {name cs : List Char} (small : ∀ n ∈ name, n.isLower = true)
    (h : (cs.take name.length).map Char.toLower = name) :
    afterName? name cs = some (cs.drop name.length) := by
  induction name generalizing cs with
  | nil => simp [afterName?]
  | cons n name ih =>
    cases cs with
    | nil => simp at h
    | cons c cs =>
      simp only [List.length_cons, List.take_succ_cons, List.map_cons, List.cons.injEq] at h
      obtain ⟨hc, h⟩ := h
      have lower := small n List.mem_cons_self
      have long : c ≠ '\u017f' := by
        rintro rfl
        exact absurd lower (by rw [← hc]; decide)
      have kelvin : c ≠ '\u212a' := by
        rintro rfl
        exact absurd lower (by rw [← hc]; decide)
      have fold : foldCase c = n := by simp [foldCase, long, kelvin, hc]
      have ih := ih (fun m hm => small m (List.mem_cons_of_mem n hm)) h
      rw [afterName?, if_pos (by simp [fold]), ih]
      rfl

/-- A scriptless text has no script whose name is written in small letters or capitals. -/
lemma Scriptless.not_hasScript {cs} (h : Scriptless cs) : ¬HasScript cs := by
  rintro ⟨rest, suffix, name, word⟩
  have found : afterName? "script".toList rest = some (rest.drop 6) :=
    afterName?_of_map_toLower (by decide) name
  have long := h rest _ ⟨suffix, "script", List.mem_singleton_self _, found, word⟩
  cases rest with
  | nil => simp at long
  | cons c rest =>
    obtain rfl : c = 'ſ' := by simpa using long
    exact absurd (List.cons.inj name).1 (by decide)

/-- Nothing opens no script. -/
lemma scriptless_nil : Scriptless [] := fun _ _ h => by
  simpa using h.suffix

/-- A character opens no script unless it is a `<` before the name. -/
lemma Scriptless.cons {c cs} (h : Scriptless cs)
    (first : c = '<' → afterName? "script".toList cs = none) : Scriptless (c :: cs) := by
  intro rest after opening
  rcases List.suffix_cons_iff.1 opening.suffix with e | suffix
  · obtain ⟨rfl, rfl⟩ := List.cons.inj e
    obtain ⟨name, mem, found, -⟩ := opening.name
    rw [List.mem_singleton.1 mem, first rfl] at found
    simp at found
  · exact h rest after ⟨suffix, opening.name⟩

namespace Screens

/-- Nothing in front leaves a scriptless text as it is. -/
lemma nil : Screens [] :=
  fun _ h => h

/-- Texts that screen do so together. -/
lemma append {a b} (ha : Screens a) (hb : Screens b) : Screens (a ++ b) := fun next h => by
  rw [List.append_assoc]
  exact ha _ (hb next h)

/-- A text that screens opens no script by itself. -/
lemma scriptless {cs} (h : Screens cs) : Scriptless cs := by
  simpa using h [] scriptless_nil

/-- A text without a `<` opens nothing. -/
lemma of_notMem {cs} (h : '<' ∉ cs) : Screens cs := by
  induction cs with
  | nil => exact nil
  | cons c cs ih =>
    rw [List.mem_cons, not_or] at h
    exact fun next hnext => (ih h.2 next hnext).cons fun e => absurd e.symm h.1

/-- A `<` before a text that is not the start of the name screens. -/
lemma tag {cs} (plain : '<' ∉ cs)
    (other : ∀ next, afterName? "script".toList (cs ++ next) = none) : Screens ('<' :: cs) :=
  fun next h => (of_notMem plain next h).cons fun _ => other next

end Screens

/-- Sanitized markup screens in front of a tag that does. -/
lemma screens_sanitize {tag} (m : String) (h : Screens ('<' :: tag)) :
    Screens ((sanitize m).toList ++ '<' :: tag) := by
  intro next hnext rest after opening
  have suffix := opening.suffix
  rw [List.append_assoc] at suffix
  -- the bracket stands in the tag or behind it, or in the sanitized markup
  rcases List.suffix_or_suffix_of_suffix suffix (List.suffix_append _ _) with inside | ⟨cs, e⟩
  · exact h next hnext rest after ⟨inside, opening.name⟩
  · -- the name starts in the sanitized markup and ends there, since the tag starts with a `<`
    rw [← e, List.suffix_append_self_iff] at suffix
    cases cs with
    | nil => exact h next hnext rest after ⟨⟨[], e.symm⟩, opening.name⟩
    | cons c cs =>
      obtain ⟨rfl, rfl⟩ := List.cons.inj e
      obtain ⟨name, mem, found, word⟩ := opening.name
      rw [List.mem_singleton.1 mem] at found
      obtain ⟨after', inside, rfl⟩ := afterName?_append_cons (by decide) rfl (tag ++ next) found
      have word : atWordEnd after' = true := by
        cases after' with
        | nil => rfl
        | cons => exact word
      have long := (long_of_opening_sanitize ⟨suffix, "script", by decide, inside, word⟩).2
      change (cs ++ _).head? = _
      rw [List.head?_append, long, Option.some_or]

end EmailTemplate.Markup
