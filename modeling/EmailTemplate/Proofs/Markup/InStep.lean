import EmailTemplate.Proofs.Markup.Token

/-!
# The filter and a browser in step

The filter knows start tags only, a browser comments, declarations and end tags besides. It reads a
start tag that a browser finds, and filters it apart from what stands around it
(`filterTags_of_readsTag`), exactly when the markup in front does not leave it in an open start tag
(`readsTag_iff_settled`). That a comment can do: the quote in `<!--<a b="-->` is closed behind the
comment only, and takes in the tags up to there (`not_readsTag_quotedImage`).
-/

namespace EmailTemplate.Markup
open EmailTemplate.Text

/-- Whether a piece is a start tag that is never closed. -/
def Piece.isUnclosed : Piece → Bool
  | .unclosed _ => true
  | _ => false

/-- Markup at whose end the filter is in no start tag. -/
def Settled (cs : List Char) : Prop :=
  ∀ p ∈ pieces cs, p.isUnclosed = false

instance (cs : List Char) : Decidable (Settled cs) :=
  inferInstanceAs (Decidable (∀ p ∈ pieces cs, p.isUnclosed = false))

/-- The filter reads the start tag `t` behind `front`. -/
def ReadsTag (cs front : List Char) (t : StartTag) : Prop :=
  ∃ ps qs, pieces cs = ps ++ .tag t :: qs ∧ ps.flatMap Piece.text = front

/-- The tokens that a browser knows and the filter does not. -/
def Token.isForeign : Token → Bool
  | .char _ | .startTag _ => false
  | _ => true

/-- At the start the filter is in no start tag. -/
lemma settled_nil : Settled [] := by
  simp [Settled, pieces]

/-- A character that begins no start tag leaves the filter where it was. -/
lemma settled_cons_iff {c cs} (h : (c == '<' && startsWithLetter cs) = false) :
    Settled (c :: cs) ↔ Settled cs := by
  rw [Settled, pieces_char h, List.forall_mem_cons]
  exact and_iff_right rfl

/-- A start tag that is read whole leaves the filter where it was. -/
lemma settled_text_append_iff {t : StartTag} (h : t.Readable)
    (letter : startsWithLetter t.name = true) (rest : List Char) :
    Settled (t.text ++ rest) ↔ Settled rest := by
  rw [Settled, pieces_text h letter, List.forall_mem_cons]
  exact and_iff_right rfl

/-- A start tag that is never closed keeps the filter in it. -/
lemma not_settled_unclosed {cs} (letter : startsWithLetter cs = true)
    (h : StartTag.read? cs = none) : ¬Settled ('<' :: cs) := by
  rw [Settled, pieces_unclosed letter h, List.forall_mem_singleton]
  intro e
  cases e

/-- Settled markup is read by itself, unless it ends with a bracket and a letter follows. -/
lemma pieces_append {cs next : List Char} (settled : Settled cs)
    (apart : cs.getLast? = some '<' → startsWithLetter next = false) :
    pieces (cs ++ next) = pieces cs ++ pieces next := by
  induction cs using pieces_induction with
  | nil => rw [pieces, List.nil_append, List.nil_append]
  | char c cs h ih =>
    have settled := (settled_cons_iff h).1 settled
    cases cs with
    | nil =>
      have h' : (c == '<' && startsWithLetter next) = false := by
        cases bracket : c == '<' with
        | true => exact apart (by simpa using bracket)
        | false => rfl
      rw [List.singleton_append, pieces_char h', pieces_char h, pieces]
      rfl
    | cons d cs =>
      have h' : (c == '<' && startsWithLetter (d :: cs ++ next)) = false := h
      have ih := ih settled fun e => apart (by rwa [List.getLast?_cons_cons])
      rw [List.cons_append, pieces_char h', ih, pieces_char h, List.cons_append]
  | tag t rest readable letter ih =>
    have settled := (settled_text_append_iff readable letter rest).1 settled
    have ih := ih settled fun e => apart (by rw [List.getLast?_append, e, Option.some_or])
    rw [List.append_assoc, pieces_text readable letter, ih, pieces_text readable letter,
      List.cons_append]
  | unclosed cs letter h => exact absurd settled (not_settled_unclosed letter h)

/-- Settled markup behind settled markup is settled, unless the two make a start tag together. -/
lemma settled_append {cs next : List Char} (settled : Settled cs)
    (apart : cs.getLast? = some '<' → startsWithLetter next = false) (behind : Settled next) :
    Settled (cs ++ next) := by
  intro p mem
  rw [pieces_append settled apart, List.mem_append] at mem
  exact mem.elim (settled p) (behind p)

/-- What stands behind a piece is read as it is behind the piece. -/
lemma pieces_tail {cs p ps} (h : pieces cs = p :: ps) : pieces (ps.flatMap Piece.text) = ps := by
  induction cs using pieces_induction with
  | nil => simp [pieces] at h
  | char c cs plain =>
    rw [pieces_char plain] at h
    obtain ⟨-, rfl⟩ := List.cons.inj h
    rw [flatMap_text_pieces]
  | tag t rest readable letter =>
    rw [pieces_text readable letter] at h
    obtain ⟨-, rfl⟩ := List.cons.inj h
    rw [flatMap_text_pieces]
  | unclosed cs letter unread =>
    rw [pieces_unclosed letter unread] at h
    obtain ⟨-, rfl⟩ := List.cons.inj h
    simp [pieces]

/-- What stands behind any number of pieces is read as it is behind them. -/
lemma pieces_of_append {cs : List Char} {ps qs : List Piece} (h : pieces cs = ps ++ qs) :
    pieces (qs.flatMap Piece.text) = qs := by
  induction ps generalizing cs with
  | nil =>
    rw [List.nil_append] at h
    rw [← h, flatMap_text_pieces]
  | cons p ps ih => exact ih (pieces_tail h)

/-- What stands in front of a piece is read as it is in front of the piece, and is settled. -/
lemma pieces_front {cs ps q qs} (h : pieces cs = ps ++ q :: qs) :
    pieces (ps.flatMap Piece.text) = ps ∧ Settled (ps.flatMap Piece.text) := by
  induction ps generalizing cs with
  | nil => exact ⟨by simp [pieces], settled_nil⟩
  | cons p ps ih =>
    rw [List.cons_append] at h
    induction cs using pieces_induction with
    | nil => simp [pieces] at h
    | char c cs plain =>
      rw [pieces_char plain, List.cons.injEq] at h
      obtain ⟨rfl, h⟩ := h
      obtain ⟨read, settled⟩ := ih h
      have text := flatMap_text_pieces cs
      rw [h, List.flatMap_append] at text
      have plain : (c == '<' && startsWithLetter (ps.flatMap Piece.text)) = false := by
        rw [Bool.eq_false_iff] at plain ⊢
        intro opens
        rw [Bool.and_eq_true] at opens
        have letter := startsWithLetter_append opens.2 ((q :: qs).flatMap Piece.text)
        rw [text] at letter
        exact plain (by rw [opens.1, letter, Bool.true_and])
      rw [List.flatMap_cons, Piece.text, List.singleton_append, pieces_char plain, read]
      exact ⟨rfl, (settled_cons_iff plain).2 settled⟩
    | tag t rest readable letter =>
      rw [pieces_text readable letter, List.cons.injEq] at h
      obtain ⟨rfl, h⟩ := h
      obtain ⟨read, settled⟩ := ih h
      rw [List.flatMap_cons, Piece.text, pieces_text readable letter, read]
      exact ⟨rfl, (settled_text_append_iff readable letter _).2 settled⟩
    | unclosed cs letter unread =>
      -- what is left open is the last piece, and nothing is behind it
      rw [pieces_unclosed letter unread, List.cons.injEq] at h
      simp at h

/-- In front of a start tag that the filter reads it is in no other. -/
lemma settled_of_readsTag {cs front t} (h : ReadsTag cs front t) : Settled front := by
  obtain ⟨ps, qs, h, rfl⟩ := h
  exact (pieces_front h).2

/-- Behind settled markup the filter reads a closed start tag. -/
lemma readsTag_of_settled {front : List Char} {t : StartTag} (settled : Settled front)
    (closed : t.Closed) (rest : List Char) : ReadsTag (front ++ (t.text ++ rest)) front t := by
  refine ⟨pieces front, pieces rest, ?_, flatMap_text_pieces front⟩
  rw [pieces_append settled fun _ => rfl, pieces_text closed.readable closed.letter]

/-- The filter acts on a start tag that it reads, and apart from it on what stands on either
side. -/
theorem filterTags_of_readsTag {cs front t} (h : ReadsTag cs front t) :
    ∃ rest, cs = front ++ (t.text ++ rest) ∧
      filterTags cs = filterTags front ++ (t.filtered.text ++ filterTags rest) := by
  obtain ⟨ps, qs, h, rfl⟩ := h
  have text := flatMap_text_pieces cs
  have before := (pieces_front h).1
  have behind := pieces_of_append (h.trans (List.append_cons ps (.tag t) qs))
  refine ⟨qs.flatMap Piece.text, ?_, ?_⟩
  · rw [← text, h, List.flatMap_append, List.flatMap_cons, Piece.text]
  · rw [filterTags, filterTags, filterTags, h, before, behind, List.flatMap_append,
      List.flatMap_cons, Piece.filtered]

/-- A start tag that a browser finds is read wherever its text stands. -/
lemma closed_of_mem_tokens {cs t} (h : .startTag t ∈ tokens cs) : t.Closed := by
  fun_induction tokens cs with
  | case1 => simp at h
  | case2 c cs hc u rest hr ih =>
    rcases List.mem_cons.1 h with rfl | h
    · cases readsMarkup_of_readMarkup? hr with
      | startTag letter h =>
        exact ⟨StartTag.startsWithLetter_name letter h, StartTag.readable_of_read? h⟩
    · exact ih h
  | case3 c cs hc hr => simp at h
  | case4 c cs hc ih => exact ih (by simpa using h)

/-- Tokens behind which the filter is in no start tag leave it in none together. -/
lemma settled_of_tokens {cs ts u us} (h : tokens cs = ts ++ u :: us)
    (settled : ∀ v ∈ ts, Settled v.text) : Settled (ts.flatMap Token.text) := by
  fun_induction tokens cs generalizing ts with
  | case1 => simp at h
  | case2 c cs hc v rest hr ih =>
    cases ts with
    | nil => exact settled_nil
    | cons w ts =>
      rw [List.cons_append, List.cons.injEq] at h
      obtain ⟨rfl, h⟩ := h
      obtain ⟨body, text, -⟩ := (readsMarkup_of_readMarkup? hr).text
      have behind := ih h fun u mem => settled u (List.mem_cons_of_mem _ mem)
      rw [List.flatMap_cons]
      -- what is read as markup ends with `>`, and no letter makes a tag of that
      refine settled_append (settled v List.mem_cons_self) (fun e => ?_) behind
      rw [text, ← List.cons_append, List.getLast?_concat] at e
      simp at e
  | case3 c cs hc hr =>
    cases ts with
    | nil => exact settled_nil
    | cons w ts => simp at h
  | case4 c cs hc ih =>
    cases ts with
    | nil => exact settled_nil
    | cons w ts =>
      rw [List.cons_append, List.cons.injEq] at h
      obtain ⟨rfl, h⟩ := h
      have behind := ih h fun u mem => settled u (List.mem_cons_of_mem _ mem)
      rw [List.flatMap_cons]
      -- nor does a letter follow a `<` that is read as a character
      refine settled_append (settled _ List.mem_cons_self) (fun e => ?_) behind
      have bracket : c = '<' := by simpa [Token.text] using e
      have text := flatMap_text_tokens cs
      rw [h, List.flatMap_append] at text
      rw [Bool.eq_false_iff]
      intro letter
      have letter := startsWithLetter_append letter ((u :: us).flatMap Token.text)
      rw [text] at letter
      exact hc (by rw [bracket, opensMarkup_of_startsWithLetter letter]; rfl)

/-- Behind a character or a start tag the filter is in no start tag. -/
lemma settled_token {cs : List Char} {u : Token} (mem : u ∈ tokens cs)
    (foreign : u.isForeign = true → Settled u.text) : Settled u.text := by
  cases u with
  | char c => exact (settled_cons_iff (by simp [startsWithLetter])).2 settled_nil
  | startTag t =>
    have closed := closed_of_mem_tokens mem
    have settled := (settled_text_append_iff closed.readable closed.letter []).2 settled_nil
    rwa [List.append_nil, StartTag.text_eq] at settled
  | endTag | comment | declaration | unclosed => exact foreign rfl

/-- The filter reads a start tag that a browser finds exactly when it is in no start tag in front
of it, and so it is unless a comment, a declaration or an end tag in front leaves it in one. -/
theorem readsTag_iff_settled {cs ts t us} (found : tokens cs = ts ++ .startTag t :: us) :
    (ReadsTag cs (ts.flatMap Token.text) t ↔ Settled (ts.flatMap Token.text)) ∧
      ((∀ u ∈ ts, u.isForeign = true → Settled u.text) →
        ReadsTag cs (ts.flatMap Token.text) t) := by
  have closed : t.Closed := closed_of_mem_tokens (by rw [found]; simp)
  have text := flatMap_text_tokens cs
  rw [found, List.flatMap_append, List.flatMap_cons] at text
  have reads (settled : Settled (ts.flatMap Token.text)) :
      ReadsTag cs (ts.flatMap Token.text) t := by
    have reads := readsTag_of_settled settled closed (us.flatMap Token.text)
    rwa [StartTag.text_eq, ← Token.text, text] at reads
  refine ⟨⟨settled_of_readsTag, reads⟩, fun foreign => reads ?_⟩
  refine settled_of_tokens found fun u mem => ?_
  have mem' : u ∈ tokens cs := by
    rw [found]
    exact List.mem_append_left _ mem
  exact settled_token mem' (foreign u mem)

/-- An image with an event handler. -/
def handledImage : StartTag where
  name := "img".toList
  attrs :=
    [⟨[' '], "src".toList, ['='], ['x']⟩, ⟨[' '], "onerror".toList, ['='], "alert(1)".toList⟩]
  tail := []

/-- An image behind a comment with a start tag. -/
def commentedImage : List Char :=
  "<!-- <b title='>'> --><img src=x onerror=alert(1)>".toList

/-- The comment closes its own start tag, so the image behind it is read as a browser finds it. -/
theorem readsTag_commentedImage :
    tokens commentedImage =
        [.comment "!-- <b title='>'> -->".toList] ++ .startTag handledImage :: [] ∧
      ReadsTag commentedImage "<!-- <b title='>'> -->".toList handledImage := by
  have found : tokens commentedImage =
      [.comment "!-- <b title='>'> -->".toList] ++ .startTag handledImage :: [] := by
    decide +kernel
  have settled : ∀ u ∈ [Token.comment "!-- <b title='>'> -->".toList],
      u.isForeign = true → Settled u.text := by
    decide +kernel
  exact ⟨found, (readsTag_iff_settled found).2 settled⟩

/-- An image behind a comment that opens a quote, and the end of the quote behind it. -/
def quotedImage : List Char :=
  "<!--<a b=\"--><img src=x onerror=alert(1)>\">".toList

/-- A browser finds the image, the filter reads no start tag there and keeps the handler. -/
theorem not_readsTag_quotedImage :
    tokens quotedImage = [.comment "!--<a b=\"-->".toList, .startTag handledImage, .char '"',
        .char '>'] ∧
      (∀ t, ¬ ReadsTag quotedImage "<!--<a b=\"-->".toList t) ∧
      filterTags quotedImage = quotedImage := by
  refine ⟨by decide +kernel, fun t h => ?_, by decide +kernel⟩
  exact absurd (settled_of_readsTag h) (by decide +kernel)

end EmailTemplate.Markup
