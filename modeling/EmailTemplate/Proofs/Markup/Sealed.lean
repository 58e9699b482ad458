import EmailTemplate.Proofs.Markup.InStep

/-!
# Sealed markup

Markup is sealed if a browser is in no tag, comment or declaration at its end, so that whatever
follows is read by itself (`tokens_append`); and what stands in front of a token is sealed
(`sealed_front`). The filter knows start tags only. What it writes is sealed if each token of the
markup stays so by itself (`sealed_filterTags`).
-/

namespace EmailTemplate.Markup
open EmailTemplate.Text

/-- What is behind the `<` of a token, up to its last bracket, is read as the token again, whatever
follows the bracket. -/
structure Token.Bracketed (t : Token) (body : List Char) : Prop where
  text : t.text = '<' :: (body ++ ['>'])
  read : ∀ next, readMarkup? (body ++ '>' :: next) = some (t, next)

/-- The first occurrence of a text stays the first when what follows it changes. -/
lemma afterText?_append {needle front rest : List Char} (ne : needle ≠ [])
    (h : afterText? needle (front ++ (needle ++ rest)) = some rest) (next : List Char) :
    afterText? needle (front ++ (needle ++ next)) = some next := by
  induction front with
  | nil =>
    obtain ⟨c, needle, rfl⟩ := List.exists_cons_of_ne_nil ne
    have begins : (c :: needle).isPrefixOf (c :: (needle ++ next)) = true :=
      List.isPrefixOf_iff_prefix.2 ⟨next, rfl⟩
    rw [List.nil_append, List.cons_append, afterText?, if_pos begins]
    exact congrArg some List.drop_left
  | cons c front ih =>
    rw [List.cons_append, afterText?] at h
    split at h
    case isTrue =>
      -- an occurrence further in front would leave more behind it
      have left := congrArg List.length (Option.some.inj h)
      simp only [List.length_drop, List.length_cons, List.length_append] at left
      omega
    case isFalse none =>
      rw [List.cons_append, afterText?, if_neg, ih h]
      intro begins
      apply none
      rw [List.isPrefixOf_iff_prefix] at begins ⊢
      have inside : needle <+: c :: (front ++ needle) := by
        refine List.prefix_of_prefix_length_le begins ?_ ?_
        · exact ⟨next, by simp⟩
        · simp
          omega
      have front : c :: (front ++ needle) <+: c :: (front ++ (needle ++ rest)) := ⟨rest, by simp⟩
      exact inside.trans front

/-- Whether the markup that a `<` opens is neither a tag nor a comment. -/
def opensDeclaration (cs : List Char) : Bool :=
  !startsWithLetter cs && !(cs.head? == some '/' && startsWithLetter cs.tail) &&
    !List.isPrefixOf ['!', '-', '-'] cs

/-- What stands behind a bracket does not decide what a `<` in front of it opens. -/
lemma opensDeclaration_append (body rest next : List Char) :
    opensDeclaration (body ++ '>' :: rest) = opensDeclaration (body ++ '>' :: next) := by
  rcases body with _ | ⟨c, _ | ⟨d, _ | ⟨e, body⟩⟩⟩ <;>
    simp [opensDeclaration, startsWithLetter, List.isPrefixOf]

/-- What is neither a tag nor a comment is read as a declaration. -/
lemma readMarkup?_declaration {cs} (h : opensDeclaration cs = true) :
    readMarkup? cs = readDeclaration? cs := by
  unfold readMarkup?
  split
  case h_1 =>
    rw [if_neg]
    intro letter
    simp [opensDeclaration, letter] at h
  case h_2 => simp [opensDeclaration] at h
  case h_3 =>
    rw [if_neg]
    intro letter
    simp [opensDeclaration, letter] at h

/-- An end tag is read as a start tag is, behind its slash. -/
lemma readMarkup?_endTag {cs} (letter : startsWithLetter cs = true) :
    readMarkup? ('/' :: cs) = (StartTag.read? cs).map fun (t, rest) => (.endTag t, rest) := by
  rw [readMarkup?, if_pos letter]

/-- What a `<` opens, by what stands behind it. -/
lemma opens_cases (cs : List Char) :
    startsWithLetter cs = true ∨ (∃ body, cs = '/' :: body ∧ startsWithLetter body = true) ∨
      (∃ body, cs = '!' :: '-' :: '-' :: body) ∨ opensDeclaration cs = true := by
  cases h : opensDeclaration cs with
  | true => simp
  | false =>
    rw [opensDeclaration, Bool.and_eq_false_iff, Bool.and_eq_false_iff] at h
    rcases h with (letter | slash) | hyphens
    · exact .inl (by simpa using letter)
    · rw [Bool.not_eq_false', Bool.and_eq_true, beq_iff_eq, List.head?_eq_some_iff] at slash
      obtain ⟨⟨body, rfl⟩, letter⟩ := slash
      exact .inr (.inl ⟨body, rfl, letter⟩)
    · rw [Bool.not_eq_false', List.isPrefixOf_iff_prefix] at hyphens
      obtain ⟨body, rfl⟩ := hyphens
      exact .inr (.inr (.inl ⟨body, rfl⟩))

/-- A comment is read up to the first place where it can end. -/
lemma readMarkup?_comment {front rest : List Char}
    (h : afterText? ['-', '-', '>'] (front ++ (['-', '-', '>'] ++ rest)) = some rest) :
    readMarkup? ('!' :: '-' :: '-' :: (front ++ (['-', '-', '>'] ++ rest))) =
      some (.comment ('!' :: '-' :: '-' :: (front ++ ['-', '-', '>'])), rest) := by
  have split : '!' :: '-' :: '-' :: (front ++ (['-', '-', '>'] ++ rest)) =
      '!' :: '-' :: '-' :: (front ++ ['-', '-', '>']) ++ rest := by simp
  rw [readMarkup?, afterComment?, h, Option.map_some, split, List.length_append,
    Nat.add_sub_cancel, List.take_left]

/-- A tag is read again from what is in front of its bracket, whatever follows. -/
lemma exists_inner_of_read? {t : StartTag} {cs rest} (h : StartTag.read? cs = some (t, rest)) :
    ∃ inner, t.name ++ attrsText t.attrs t.tail = inner ++ ['>'] ∧ inner ++ '>' :: rest = cs ∧
      ∀ next, StartTag.read? (inner ++ '>' :: next) = some (t, next) := by
  have text : t.name ++ attrsText t.attrs t.tail =
      t.name ++ (t.attrs.flatMap Attribute.text ++ t.tail) ++ ['>'] := by
    simp [attrsText]
  refine ⟨t.name ++ (t.attrs.flatMap Attribute.text ++ t.tail), text, ?_, ?_⟩
  · rw [← text_of_read? h, attrsText]
    simp
  · intro next
    have read := (StartTag.readable_of_read? h).read? next
    rwa [text, List.append_assoc, List.singleton_append] at read

/-- Whether a letter stands in front of a bracket does not depend on what is behind it. -/
lemma startsWithLetter_bracket {body rest : List Char}
    (letter : startsWithLetter (body ++ '>' :: rest) = true) (next : List Char) :
    startsWithLetter (body ++ '>' :: next) = true := by
  cases body with
  | nil => exact letter
  | cons c body => exact letter

/-- What is read as markup is read again from its own text. -/
lemma bracketed_of_readMarkup? {cs t rest} (h : readMarkup? cs = some (t, rest)) :
    ∃ body, body ++ '>' :: rest = cs ∧ t.Bracketed body := by
  -- a start tag, an end tag, a comment or a declaration
  rcases opens_cases cs with letter | ⟨cs, rfl, letter⟩ | ⟨cs, rfl⟩ | declaration
  · rw [readMarkup?_startTag letter] at h
    obtain ⟨⟨t, rest⟩, h, e⟩ := Option.map_eq_some_iff.1 h
    cases e
    obtain ⟨inner, text, rfl, read⟩ := exists_inner_of_read? h
    refine ⟨inner, rfl, by rw [Token.text, text], ?_⟩
    intro next
    rw [readMarkup?_startTag (startsWithLetter_bracket letter next), read]
    rfl
  · rw [readMarkup?_endTag letter] at h
    obtain ⟨⟨t, rest⟩, h, e⟩ := Option.map_eq_some_iff.1 h
    cases e
    obtain ⟨inner, text, rfl, read⟩ := exists_inner_of_read? h
    refine ⟨'/' :: inner, rfl, by rw [Token.text, text]; rfl, ?_⟩
    intro next
    rw [List.cons_append, readMarkup?_endTag (startsWithLetter_bracket letter next), read]
    rfl
  · obtain ⟨rest', found, e⟩ := Option.map_eq_some_iff.1 h
    obtain ⟨-, rfl⟩ := Prod.mk.inj e
    obtain ⟨front, rfl⟩ := eq_of_afterText? found
    have ne : ['-', '-', '>'] ≠ [] := List.cons_ne_nil _ _
    have again (next : List Char) := readMarkup?_comment (afterText?_append ne found next)
    have same := (again rest').symm.trans h
    cases same
    refine ⟨'!' :: '-' :: '-' :: (front ++ ['-', '-']), by simp, by simp [Token.text], ?_⟩
    intro next
    simpa using again next
  · rw [readMarkup?_declaration declaration] at h
    obtain ⟨rest', h, e⟩ := Option.map_eq_some_iff.1 h
    cases e
    have plain : '>' ∉ cs.takeWhile (· != '>') := by
      intro mem
      simpa using List.mem_takeWhile_imp mem
    have split := eq_of_afterBracket? h
    refine ⟨cs.takeWhile (· != '>'), split, rfl, ?_⟩
    intro next
    rw [← split, opensDeclaration_append _ rest next] at declaration
    rw [readMarkup?_declaration declaration, readDeclaration?_append plain]

/-- A character that opens no markup is a token by itself. -/
lemma tokens_char {c cs} (h : (c == '<' && opensMarkup cs) = false) :
    tokens (c :: cs) = .char c :: tokens cs := by
  rw [tokens, if_neg (by simp [h])]

/-- Markup that cannot be read takes in all that is left. -/
lemma tokens_unclosed {cs} (opens : opensMarkup cs = true) (h : readMarkup? cs = none) :
    tokens ('<' :: cs) = [.unclosed ('<' :: cs)] := by
  rw [tokens, if_pos (by simp [opens])]
  split
  case h_1 h' => simp [h] at h'
  case h_2 => rfl

/-- The text of a token is read as that token, whatever follows. -/
lemma tokens_bracketed {t : Token} {body : List Char} (h : t.Bracketed body)
    (opens : opensMarkup body = true) (next : List Char) :
    tokens (t.text ++ next) = t :: tokens next := by
  rw [h.text, List.cons_append, List.append_assoc]
  exact tokens_of_readMarkup? (opensMarkup_append opens _) (h.read next)

/-- Markup is gone through as a browser reads it. -/
@[elab_as_elim]
lemma tokens_induction {motive : List Char → Prop} (nil : motive [])
    (char : ∀ c cs, (c == '<' && opensMarkup cs) = false → motive cs → motive (c :: cs))
    (markup : ∀ t body rest, Token.Bracketed t body → opensMarkup body = true → motive rest →
      motive (t.text ++ rest))
    (unclosed : ∀ cs, opensMarkup cs = true → readMarkup? cs = none → motive ('<' :: cs))
    (cs : List Char) : motive cs := by
  fun_induction tokens cs with
  | case1 => exact nil
  | case2 c cs hc t rest hr ih =>
    rw [Bool.and_eq_true, beq_iff_eq] at hc
    obtain ⟨rfl, opens⟩ := hc
    obtain ⟨body, rfl, bracketed⟩ := bracketed_of_readMarkup? hr
    have opens : opensMarkup body = true := by
      cases body with
      | nil => simp [opensMarkup] at opens
      | cons c body => exact opens
    have h := markup t body rest bracketed opens ih
    rw [bracketed.text, List.cons_append, List.append_assoc] at h
    exact h
  | case3 c cs hc hr =>
    rw [Bool.and_eq_true, beq_iff_eq] at hc
    obtain ⟨rfl, opens⟩ := hc
    exact unclosed cs opens hr
  | case4 c cs hc ih => exact char c cs (Bool.eq_false_iff.2 hc) ih

/-- Whether a token is markup that is never closed. -/
def Token.isUnclosed : Token → Bool
  | unclosed _ => true
  | _ => false

/-- Markup that leaves nothing open at its end. -/
def Sealed (cs : List Char) : Prop :=
  ∀ t ∈ tokens cs, t.isUnclosed = false

instance (cs : List Char) : Decidable (Sealed cs) :=
  inferInstanceAs (Decidable (∀ t ∈ tokens cs, t.isUnclosed = false))

/-- Nothing is left open where nothing stands. -/
lemma sealed_nil : Sealed [] := by
  simp [Sealed, tokens]

/-- A character that opens no markup leaves nothing open. -/
lemma sealed_cons_iff {c cs} (h : (c == '<' && opensMarkup cs) = false) :
    Sealed (c :: cs) ↔ Sealed cs := by
  rw [Sealed, tokens_char h, List.forall_mem_cons]
  exact and_iff_right rfl

/-- What ends with a bracket is closed. -/
lemma Token.Bracketed.isUnclosed {t : Token} {body : List Char} (h : t.Bracketed body) :
    t.isUnclosed = false := by
  have reads := readsMarkup_of_readMarkup? (h.read [])
  generalize body ++ '>' :: [] = cs at reads
  cases reads <;> rfl

/-- A token that is closed leaves nothing open. -/
lemma sealed_text_append_iff {t : Token} {body : List Char} (h : t.Bracketed body)
    (opens : opensMarkup body = true) (rest : List Char) :
    Sealed (t.text ++ rest) ↔ Sealed rest := by
  rw [Sealed, tokens_bracketed h opens, List.forall_mem_cons]
  exact and_iff_right h.isUnclosed

/-- Markup that cannot be read is left open. -/
lemma not_sealed_unclosed {cs} (opens : opensMarkup cs = true) (h : readMarkup? cs = none) :
    ¬Sealed ('<' :: cs) := by
  rw [Sealed, tokens_unclosed opens h, List.forall_mem_singleton]
  intro e
  cases e

/-- Sealed markup is read by itself, unless it ends with a bracket that what follows makes markup
of. -/
lemma tokens_append {cs next : List Char} (closed : Sealed cs)
    (apart : cs.getLast? = some '<' → opensMarkup next = false) :
    tokens (cs ++ next) = tokens cs ++ tokens next := by
  induction cs using tokens_induction with
  | nil => rw [tokens, List.nil_append, List.nil_append]
  | char c cs h ih =>
    have closed := (sealed_cons_iff h).1 closed
    cases cs with
    | nil =>
      have h' : (c == '<' && opensMarkup next) = false := by
        cases bracket : c == '<' with
        | true => exact apart (by simpa using bracket)
        | false => rfl
      rw [List.singleton_append, tokens_char h', tokens_char h, tokens]
      rfl
    | cons d cs =>
      have h' : (c == '<' && opensMarkup (d :: cs ++ next)) = false := h
      have ih := ih closed fun e => apart (by rwa [List.getLast?_cons_cons])
      rw [List.cons_append, tokens_char h', ih, tokens_char h, List.cons_append]
  | markup t body rest bracketed opens ih =>
    have closed := (sealed_text_append_iff bracketed opens rest).1 closed
    have ih := ih closed fun e => apart (by rw [List.getLast?_append, e, Option.some_or])
    rw [List.append_assoc, tokens_bracketed bracketed opens, ih, tokens_bracketed bracketed opens,
      List.cons_append]
  | unclosed cs opens h => exact absurd closed (not_sealed_unclosed opens h)

/-- Sealed markup behind sealed markup is sealed, unless the two make markup together. -/
lemma sealed_append {cs next : List Char} (closed : Sealed cs)
    (apart : cs.getLast? = some '<' → opensMarkup next = false) (behind : Sealed next) :
    Sealed (cs ++ next) := by
  intro t mem
  rw [tokens_append closed apart, List.mem_append] at mem
  exact mem.elim (closed t) (behind t)

/-- What stands in front of a token is sealed. -/
lemma sealed_front {cs ts t us} (h : tokens cs = ts ++ t :: us) :
    Sealed (ts.flatMap Token.text) := by
  induction cs using tokens_induction generalizing ts with
  | nil => simp [tokens] at h
  | char c cs plain ih =>
    cases ts with
    | nil => exact sealed_nil
    | cons u ts =>
      rw [tokens_char plain, List.cons_append, List.cons.injEq] at h
      obtain ⟨rfl, h⟩ := h
      have text := flatMap_text_tokens cs
      rw [h, List.flatMap_append] at text
      have plain : (c == '<' && opensMarkup (ts.flatMap Token.text)) = false := by
        rw [Bool.eq_false_iff] at plain ⊢
        intro opens
        rw [Bool.and_eq_true] at opens
        have behind := opensMarkup_append opens.2 ((t :: us).flatMap Token.text)
        rw [text] at behind
        exact plain (by rw [opens.1, behind, Bool.true_and])
      exact (sealed_cons_iff plain).2 (ih h)
  | markup u body rest bracketed opens ih =>
    cases ts with
    | nil => exact sealed_nil
    | cons v ts =>
      rw [tokens_bracketed bracketed opens, List.cons_append, List.cons.injEq] at h
      obtain ⟨rfl, h⟩ := h
      rw [List.flatMap_cons]
      exact (sealed_text_append_iff bracketed opens _).2 (ih h)
  | unclosed cs opens unread =>
    -- what is left open is the last token, and nothing is behind it
    cases ts with
    | nil => exact sealed_nil
    | cons u ts =>
      rw [tokens_unclosed opens unread, List.cons_append, List.cons.injEq] at h
      simp at h

/-- Settled markup is filtered by itself, unless it ends with a `<` that a letter follows. -/
lemma filterTags_append {cs next : List Char} (settled : Settled cs)
    (apart : cs.getLast? = some '<' → startsWithLetter next = false) :
    filterTags (cs ++ next) = filterTags cs ++ filterTags next := by
  rw [filterTags, pieces_append settled apart, List.flatMap_append]
  rfl

/-- Filtering leaves the bracket that settled markup ends with. -/
lemma getLast?_filterTags {cs : List Char} (settled : Settled cs)
    (bracket : cs.getLast? = some '>') : (filterTags cs).getLast? = some '>' := by
  induction cs using pieces_induction with
  | nil => simp at bracket
  | char c cs plain ih =>
    rw [filterTags_char plain]
    cases cs with
    | nil => rwa [filterTags_nil]
    | cons d cs =>
      rw [List.getLast?_cons_cons] at bracket
      rw [List.getLast?_cons, ih ((settled_cons_iff plain).1 settled) bracket]
      rfl
  | tag t rest readable letter ih =>
    rw [filterTags_text readable letter, List.getLast?_append]
    cases rest with
    | nil =>
      rw [filterTags_nil, StartTag.text, List.getLast?_concat]
      rfl
    | cons d rest =>
      have behind : (d :: rest).getLast? = some '>' := by
        rw [List.getLast?_append] at bracket
        cases h : (d :: rest).getLast? with
        | none => simp at h
        | some c => rwa [h, Option.some_or] at bracket
      have settled := (settled_text_append_iff readable letter _).1 settled
      rw [ih settled behind, Option.some_or]
  | unclosed cs letter unread => exact absurd settled (not_settled_unclosed letter unread)

/-- A token that the filter writes, by itself, as sealed markup, and behind which it is in no start
tag; an open token has nothing behind it. -/
def Token.StaysSealed (t : Token) : Prop :=
  (t.isUnclosed = false → Settled t.text) ∧ Sealed (filterTags t.text)

instance : DecidablePred Token.StaysSealed := fun t =>
  inferInstanceAs (Decidable ((t.isUnclosed = false → Settled t.text) ∧ Sealed (filterTags t.text)))

/-- Filtering opens no markup where none was opened. -/
lemma opensMarkup_filterTags {cs : List Char} (h : opensMarkup (filterTags cs) = true) :
    opensMarkup cs = true := by
  cases cs with
  | nil => simp [filterTags_nil, opensMarkup] at h
  | cons c cs =>
    have head := head?_filterTags c cs
    cases e : filterTags (c :: cs) with
    | nil => simp [e, opensMarkup] at h
    | cons d ds =>
      rw [e] at head h
      rw [← head d rfl]
      exact h

/-- Filtered markup is sealed if each token stays so by itself. -/
lemma sealed_filterTags {cs : List Char} (h : ∀ t ∈ tokens cs, t.StaysSealed) :
    Sealed (filterTags cs) := by
  induction cs using tokens_induction with
  | nil => rw [filterTags_nil]; exact sealed_nil
  | char c cs plain ih =>
    rw [tokens_char plain, List.forall_mem_cons] at h
    have noTag : (c == '<' && startsWithLetter cs) = false := by
      rw [Bool.eq_false_iff] at plain ⊢
      intro letter
      rw [Bool.and_eq_true] at letter
      exact plain (by rw [letter.1, opensMarkup_of_startsWithLetter letter.2, Bool.true_and])
    have plain : (c == '<' && opensMarkup (filterTags cs)) = false := by
      rw [Bool.eq_false_iff] at plain ⊢
      intro opens
      rw [Bool.and_eq_true] at opens
      exact plain (by rw [opens.1, opensMarkup_filterTags opens.2, Bool.true_and])
    rw [filterTags_char noTag, sealed_cons_iff plain]
    exact ih h.2
  | markup t body rest bracketed opens ih =>
    rw [tokens_bracketed bracketed opens, List.forall_mem_cons] at h
    obtain ⟨⟨settled, closed⟩, h⟩ := h
    have settled := settled bracketed.isUnclosed
    have bracket : t.text.getLast? = some '>' := by
      rw [bracketed.text, ← List.cons_append, List.getLast?_concat]
    have apart : t.text.getLast? = some '<' → startsWithLetter rest = false := by
      intro e
      simp [bracket] at e
    -- the filter takes the token by itself, and what it writes for it ends with a bracket
    rw [filterTags_append settled apart]
    apply sealed_append closed _ (ih h)
    intro e
    simp [getLast?_filterTags settled bracket] at e
  | unclosed cs opens unread =>
    rw [tokens_unclosed opens unread, List.forall_mem_singleton] at h
    exact h.2

end EmailTemplate.Markup
