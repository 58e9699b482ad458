import EmailTemplate.Markup.Construct
import EmailTemplate.Proofs.Markup.Pieces

/-!
# Tokens of markup

Markup as a browser takes it in: start tags and end tags, comments, declarations, and the characters
between them. The filter reads markup as `Piece`s, which know start tags only; `tokens` is what its
output, and that of the writer, is measured by. Reading loses no character (`flatMap_text_tokens`),
and tokens that end by themselves are read back from their texts, whatever follows
(`tokens_flatMap_text`).
-/

namespace EmailTemplate.Markup
open EmailTemplate.Text

/-- A token of markup. -/
inductive Token where
  /-- A character outside markup. -/
  | char (c : Char)
  | startTag (t : StartTag)
  /-- An end tag; behind its slash it is read like a start tag. -/
  | endTag (t : StartTag)
  /-- A comment, from behind its `<` to the end of its `-->`. -/
  | comment (body : List Char)
  /-- A declaration, or what a browser takes for one, between its brackets. -/
  | declaration (body : List Char)
  /-- Markup that is still open at the end. -/
  | unclosed (cs : List Char)
  deriving DecidableEq, Repr

/-- The characters of a token. -/
def Token.text : Token → List Char
  | char c => [c]
  | startTag t => '<' :: (t.name ++ attrsText t.attrs t.tail)
  | endTag t => '<' :: '/' :: (t.name ++ attrsText t.attrs t.tail)
  | comment body => '<' :: body
  | declaration body => '<' :: (body ++ ['>'])
  | unclosed cs => cs

/-- Whether what follows a `<` makes markup of it. -/
def opensMarkup : List Char → Bool
  | [] => false
  | c :: _ => c.isAlpha || c == '/' || c == '!' || c == '?'

/-- Reads a declaration behind its `<`, and gives what follows it. -/
def readDeclaration? (cs : List Char) : Option (Token × List Char) :=
  (afterBracket? cs).map fun rest => (.declaration (cs.takeWhile (· != '>')), rest)

/-- Reads the markup that a `<` opens, behind the `<`, and gives what follows it; `none` when the
input ends before the markup does. -/
def readMarkup? (cs : List Char) : Option (Token × List Char) :=
  match cs with
  | '/' :: body =>
    if startsWithLetter body then (StartTag.read? body).map fun (t, rest) => (.endTag t, rest)
    else readDeclaration? cs
  | '!' :: '-' :: '-' :: _ =>
    (afterComment? cs).map fun rest => (.comment (cs.take (cs.length - rest.length)), rest)
  | _ =>
    if startsWithLetter cs then (StartTag.read? cs).map fun (t, rest) => (.startTag t, rest)
    else readDeclaration? cs

/-- How `readMarkup?` reads a token, by what stands behind the `<` and what is left. -/
inductive ReadsMarkup : List Char → Token → List Char → Prop where
  | startTag {cs t rest} :
    startsWithLetter cs = true → StartTag.read? cs = some (t, rest) →
    ReadsMarkup cs (.startTag t) rest
  | endTag {cs t rest} :
    startsWithLetter cs = true → StartTag.read? cs = some (t, rest) →
    ReadsMarkup ('/' :: cs) (.endTag t) rest
  | comment {body rest} :
    ReadsMarkup ('!' :: '-' :: '-' :: (body ++ '-' :: '-' :: '>' :: rest))
      (.comment ('!' :: '-' :: '-' :: (body ++ ['-', '-', '>']))) rest
  | declaration {body rest} :
    ReadsMarkup (body ++ '>' :: rest) (.declaration body) rest

/-- What is read as a declaration is read as markup. -/
lemma readsMarkup_of_readDeclaration? {cs t rest} (h : readDeclaration? cs = some (t, rest)) :
    ReadsMarkup cs t rest := by
  obtain ⟨rest', h, e⟩ := Option.map_eq_some_iff.1 h
  cases e
  have read := @ReadsMarkup.declaration (cs.takeWhile (· != '>')) rest
  rwa [eq_of_afterBracket? h] at read

/-- Markup is read as `ReadsMarkup` says. -/
lemma readsMarkup_of_readMarkup? {cs t rest} (h : readMarkup? cs = some (t, rest)) :
    ReadsMarkup cs t rest := by
  unfold readMarkup? at h
  split at h
  case h_1 body =>
    split at h
    case isTrue letter =>
      obtain ⟨⟨t, rest⟩, h, e⟩ := Option.map_eq_some_iff.1 h
      cases e
      exact .endTag letter h
    case isFalse => exact readsMarkup_of_readDeclaration? h
  case h_2 body =>
    obtain ⟨rest', found, e⟩ := Option.map_eq_some_iff.1 h
    cases e
    obtain ⟨front, rfl⟩ := eq_of_afterText? found
    have split : '!' :: '-' :: '-' :: (front ++ (['-', '-', '>'] ++ rest)) =
        '!' :: '-' :: '-' :: (front ++ ['-', '-', '>']) ++ rest := by simp
    rw [split, List.length_append, Nat.add_sub_cancel, List.take_left, ← split]
    exact .comment
  case h_3 =>
    split at h
    case isTrue letter =>
      obtain ⟨⟨t, rest⟩, h, e⟩ := Option.map_eq_some_iff.1 h
      cases e
      exact .startTag letter h
    case isFalse => exact readsMarkup_of_readDeclaration? h

/-- Reading a tag loses no character behind its bracket. -/
lemma text_of_read? {cs t rest} (h : StartTag.read? cs = some (t, rest)) :
    t.name ++ attrsText t.attrs t.tail ++ rest = cs := by
  have text := StartTag.text_of_read? h
  rw [StartTag.text_eq, List.cons_append] at text
  exact (List.cons.inj text).2

/-- Reading markup loses no character, and what is read ends with a bracket. -/
lemma ReadsMarkup.text {cs t rest} (h : ReadsMarkup cs t rest) :
    ∃ body, t.text = '<' :: (body ++ ['>']) ∧ body ++ '>' :: rest = cs := by
  cases h with
  | @startTag _ t _ _ h =>
    refine ⟨t.name ++ (t.attrs.flatMap Attribute.text ++ t.tail), ?_, ?_⟩
    · simp [Token.text, attrsText]
    · simp [← text_of_read? h, attrsText]
  | @endTag _ t _ _ h =>
    refine ⟨'/' :: (t.name ++ (t.attrs.flatMap Attribute.text ++ t.tail)), ?_, ?_⟩
    · simp [Token.text, attrsText]
    · simp [← text_of_read? h, attrsText]
  | @comment body rest =>
    refine ⟨'!' :: '-' :: '-' :: (body ++ ['-', '-']), ?_, ?_⟩
    · simp [Token.text]
    · simp
  | declaration => exact ⟨_, rfl, rfl⟩

/-- Reading markup leaves no more than there was. -/
lemma length_of_readMarkup? {cs t rest} (h : readMarkup? cs = some (t, rest)) :
    rest.length ≤ cs.length := by
  obtain ⟨body, -, rfl⟩ := (readsMarkup_of_readMarkup? h).text
  simp
  omega

/-- Reads markup as tokens. -/
def tokens : List Char → List Token
  | [] => []
  | c :: cs =>
    if c == '<' && opensMarkup cs then
      match _h : readMarkup? cs with
      | some (t, rest) => t :: tokens rest
      | none => [.unclosed (c :: cs)]
    else .char c :: tokens cs
termination_by cs => cs.length
decreasing_by
  all_goals simp only [List.length_cons]
  all_goals try omega
  have := length_of_readMarkup? _h
  omega

/-- Reading as tokens loses no character. -/
theorem flatMap_text_tokens (cs : List Char) : (tokens cs).flatMap Token.text = cs := by
  fun_induction tokens cs with
  | case1 => rfl
  | case2 c cs hc t rest h ih =>
    simp only [Bool.and_eq_true, beq_iff_eq] at hc
    obtain ⟨body, text, e⟩ := (readsMarkup_of_readMarkup? h).text
    rw [List.flatMap_cons, ih, text, hc.1, List.cons_append, List.append_assoc, ← e]
    rfl
  | case3 c cs hc h => simp [Token.text]
  | case4 c cs hc ih => simp [Token.text, ih]

/-- A tag that is read back where its name stands. -/
structure StartTag.Closed (t : StartTag) : Prop where
  letter : startsWithLetter t.name = true
  readable : t.Readable

/-- A token of an element's markup or contents that ends by itself. -/
inductive Token.Closed : Token → Prop where
  | char {c} : c ≠ '<' → Closed (.char c)
  | startTag {t} : t.Closed → Closed (.startTag t)
  | endTag {t} : t.Closed → Closed (.endTag t)

/-- A character that is no `<` ends by itself. -/
lemma closed_chars {cs : List Char} (h : '<' ∉ cs) : ∀ t ∈ cs.map Token.char, t.Closed := by
  intro t ht
  obtain ⟨c, hc, rfl⟩ := List.mem_map.1 ht
  exact .char fun e => h (e ▸ hc)

/-- A letter in front stays in front. -/
lemma startsWithLetter_append {cs : List Char} (h : startsWithLetter cs = true) (next : List Char) :
    startsWithLetter (cs ++ next) = true := by
  cases cs with
  | nil => simp [startsWithLetter] at h
  | cons => exact h

/-- Markup is a token where it is read behind a bracket. -/
lemma tokens_of_readMarkup? {cs t rest} (opens : opensMarkup cs = true)
    (h : readMarkup? cs = some (t, rest)) : tokens ('<' :: cs) = t :: tokens rest := by
  rw [tokens, if_pos (by simp [opens])]
  split
  case h_1 t' rest' h' =>
    rw [h] at h'
    cases h'
    rfl
  case h_2 h' => simp [h] at h'

/-- What opens markup does so whatever follows. -/
lemma opensMarkup_append {cs : List Char} (h : opensMarkup cs = true) (next : List Char) :
    opensMarkup (cs ++ next) = true := by
  cases cs with
  | nil => simp [opensMarkup] at h
  | cons c cs => exact h

/-- A letter opens markup. -/
lemma opensMarkup_of_startsWithLetter {cs} (letter : startsWithLetter cs = true) :
    opensMarkup cs = true := by
  cases cs with
  | nil => simp [startsWithLetter] at letter
  | cons c cs =>
    have alpha : c.isAlpha = true := letter
    simp [opensMarkup, alpha]

/-- Where a letter stands behind the `<`, a start tag is read. -/
lemma readMarkup?_startTag {cs} (letter : startsWithLetter cs = true) :
    readMarkup? cs = (StartTag.read? cs).map fun (t, rest) => (.startTag t, rest) := by
  unfold readMarkup?
  split
  case h_1 => simp [startsWithLetter] at letter
  case h_2 => simp [startsWithLetter] at letter
  case h_3 => rw [if_pos letter]

/-- A token that ends by itself is read back from its text. -/
lemma tokens_text {t : Token} (h : t.Closed) (rest : List Char) :
    tokens (t.text ++ rest) = t :: tokens rest := by
  cases h with
  | @char c ne =>
    rw [Token.text, List.singleton_append, tokens, if_neg (by simp [ne])]
  | @startTag t h =>
    have letter := startsWithLetter_append h.letter (attrsText t.attrs t.tail ++ rest)
    rw [Token.text, List.cons_append, List.append_assoc]
    refine tokens_of_readMarkup? (opensMarkup_of_startsWithLetter letter) ?_
    rw [readMarkup?_startTag letter, ← List.append_assoc, h.readable.read? rest]
    rfl
  | @endTag t h =>
    have letter := startsWithLetter_append h.letter (attrsText t.attrs t.tail ++ rest)
    rw [Token.text, List.cons_append, List.cons_append, List.append_assoc]
    refine tokens_of_readMarkup? rfl ?_
    rw [readMarkup?, if_pos letter, ← List.append_assoc, h.readable.read? rest]
    rfl

/-- Tokens that end by themselves are read back from their texts. -/
theorem tokens_flatMap_text {ts : List Token} (h : ∀ t ∈ ts, t.Closed) (rest : List Char) :
    tokens (ts.flatMap Token.text ++ rest) = ts ++ tokens rest := by
  induction ts with
  | nil => rfl
  | cons t ts ih =>
    rw [List.flatMap_cons, List.append_assoc, tokens_text (h t List.mem_cons_self),
      ih fun u hu => h u (List.mem_cons_of_mem t hu), List.cons_append]

/-- A declaration ends with the next bracket. -/
lemma readDeclaration?_append {body : List Char} (plain : '>' ∉ body) (rest : List Char) :
    readDeclaration? (body ++ '>' :: rest) = some (.declaration body, rest) := by
  have inside : ∀ d ∈ body, (d != '>') = true := by
    intro d hd
    rw [bne_iff_ne]
    rintro rfl
    exact plain hd
  have stop : Stops (· != '>') ('>' :: rest) := stops_cons.2 rfl
  rw [readDeclaration?, afterBracket?, dropWhile_append_stops inside stop,
    takeWhile_append_stops inside stop]
  rfl

/-- A declaration that is no comment runs to the next bracket. -/
lemma tokens_declaration {body : List Char} (first : body.head? = some '!')
    (second : body[1]? ≠ some '-') (plain : '>' ∉ body) (rest : List Char) :
    tokens ((Token.declaration body).text ++ rest) = .declaration body :: tokens rest := by
  obtain ⟨body, rfl⟩ := List.head?_eq_some_iff.1 first
  rw [Token.text, List.cons_append, List.append_assoc, List.singleton_append]
  refine tokens_of_readMarkup? rfl ?_
  rw [← readDeclaration?_append plain rest, List.cons_append, readMarkup?]
  · exact if_neg Bool.false_ne_true
  · exact fun _ e => by cases e
  · -- a second hyphen would make a comment of it
    intro tail e
    cases body with
    | nil => cases e
    | cons c body => exact second (congrArg some (List.cons.inj (List.cons.inj e).2).1)

/-- Text without a `<` is read as its characters. -/
lemma tokens_of_notMem {cs : List Char} (h : '<' ∉ cs) : tokens cs = cs.map .char := by
  have text : (cs.map Token.char).flatMap Token.text = cs := by
    simp [List.flatMap_map, Token.text]
  have read := tokens_flatMap_text (closed_chars h) []
  rwa [text, List.append_nil, tokens, List.append_nil] at read

end EmailTemplate.Markup
