import EmailTemplate.Proofs.Markup.Fusion

/-!
# The pieces of filtered markup

Filtered markup is read as the filtered pieces of the markup it was made from, up to the first start
tag that fuses (`pieces_filterTags`). From there on nothing is known but that it is read from what
filtering wrote.
-/

namespace EmailTemplate.Markup
open EmailTemplate.Text

/-- Whether a piece is a start tag whose attributes fuse. -/
def Piece.fuses : Piece → Bool
  | .tag t => t.fuses
  | _ => false

/-- What filtering makes of a piece, as a piece. -/
def Piece.kept? : Piece → Option Piece
  | .char c => some (.char c)
  | .tag t => some (.tag t.filtered)
  | .unclosed _ => none

/-- The start tag that a piece is, if it is one. -/
def Piece.tag? : Piece → Option StartTag
  | .tag t => some t
  | _ => none

/-- The start tags of a markup are those among its pieces. -/
lemma startTags_eq (cs : List Char) : startTags cs = (pieces cs).filterMap Piece.tag? := rfl

/-- The pieces in front of the first start tag that fuses. -/
def beforeFusion (ps : List Piece) : List Piece :=
  ps.takeWhile (!·.fuses)

/-- The pieces from the first start tag on that fuses. -/
def fromFusion (ps : List Piece) : List Piece :=
  ps.dropWhile (!·.fuses)

/-- What filtering writes for pieces. -/
def rewritten (ps : List Piece) : List Char :=
  ps.flatMap Piece.filtered

/-- A start tag that is read becomes a piece, and reading goes on behind it. -/
lemma pieces_of_read? {cs t rest} (letter : startsWithLetter cs = true)
    (h : StartTag.read? cs = some (t, rest)) : pieces ('<' :: cs) = .tag t :: pieces rest := by
  rw [pieces, if_pos (by simp [letter])]
  split
  case h_1 t' rest' h' =>
    rw [h] at h'
    cases h'
    rfl
  case h_2 h' => simp [h] at h'

/-- A character that opens no start tag is a piece by itself. -/
lemma pieces_char {c cs} (h : (c == '<' && startsWithLetter cs) = false) :
    pieces (c :: cs) = .char c :: pieces cs := by
  rw [pieces, if_neg (by simp [h])]

/-- A start tag that cannot be read takes in all that is left. -/
lemma pieces_unclosed {cs} (letter : startsWithLetter cs = true) (h : StartTag.read? cs = none) :
    pieces ('<' :: cs) = [.unclosed ('<' :: cs)] := by
  rw [pieces, if_pos (by simp [letter])]
  split
  case h_1 h' => simp [h] at h'
  case h_2 => rfl

/-- A letter belongs to the name of a tag. -/
lemma isTagNameChar_of_isAlpha {c : Char} (h : c.isAlpha = true) : isTagNameChar c = true := by
  have ne (d : Char) (hd : d.isAlpha = false) : c ≠ d := fun e => by simp [← e, h] at hd
  simp [isTagNameChar, isTagSpace, ne ' ' rfl, ne '\t' rfl, ne '\n' rfl, ne '\x0c' rfl, ne '\r' rfl,
    ne '/' rfl, ne '>' rfl]

/-- A start tag that opens with a letter has a name that begins with it. -/
lemma StartTag.startsWithLetter_name {cs t rest} (letter : startsWithLetter cs = true)
    (h : StartTag.read? cs = some (t, rest)) : startsWithLetter t.name = true := by
  have stop := (StartTag.readable_of_read? h).stop
  have text := StartTag.text_of_read? h
  rw [StartTag.text_eq, List.cons_append] at text
  obtain ⟨-, rfl⟩ := List.cons.inj text
  cases hn : t.name with
  | nil =>
    obtain ⟨c, cs, e⟩ := List.exists_cons_of_ne_nil (attrsText_ne_nil t.attrs t.tail)
    rw [e, stops_cons] at stop
    have : c.isAlpha = true := by simpa [hn, e, startsWithLetter] using letter
    simp [isTagNameChar_of_isAlpha this] at stop
  | cons c cs => simpa [hn, startsWithLetter] using letter

/-- The text of a readable start tag is read as that tag, whatever follows. -/
lemma pieces_text {t : StartTag} (h : t.Readable) (letter : startsWithLetter t.name = true)
    (rest : List Char) : pieces (t.text ++ rest) = .tag t :: pieces rest := by
  rw [StartTag.text_eq, List.cons_append]
  refine pieces_of_read? ?_ (h.read? rest)
  cases hn : t.name with
  | nil => simp [hn, startsWithLetter] at letter
  | cons c cs => simpa [hn, startsWithLetter] using letter

/-- Markup is gone through as it is read: character by character up to a start tag, from behind a
start tag on, and not behind one that is left open. -/
@[elab_as_elim]
lemma pieces_induction {motive : List Char → Prop} (nil : motive [])
    (char : ∀ c cs, (c == '<' && startsWithLetter cs) = false → motive cs → motive (c :: cs))
    (tag : ∀ t rest, StartTag.Readable t → startsWithLetter t.name = true → motive rest →
      motive (t.text ++ rest))
    (unclosed : ∀ cs, startsWithLetter cs = true → StartTag.read? cs = none →
      motive ('<' :: cs)) (cs : List Char) : motive cs := by
  fun_induction pieces cs with
  | case1 => exact nil
  | case2 c cs hc t rest hr ih =>
    rw [Bool.and_eq_true, beq_iff_eq] at hc
    obtain ⟨rfl, letter⟩ := hc
    have h := tag t rest (StartTag.readable_of_read? hr)
      (StartTag.startsWithLetter_name letter hr) ih
    rwa [StartTag.text_of_read? hr] at h
  | case3 c cs hc hr =>
    rw [Bool.and_eq_true, beq_iff_eq] at hc
    obtain ⟨rfl, letter⟩ := hc
    exact unclosed cs letter hr
  | case4 c cs hc ih => exact char c cs (Bool.eq_false_iff.2 hc) ih

/-- Filtering nothing gives nothing. -/
lemma filterTags_nil : filterTags [] = [] := by
  simp [filterTags, pieces]

/-- A character that opens no start tag is written as it is. -/
lemma filterTags_char {c cs} (h : (c == '<' && startsWithLetter cs) = false) :
    filterTags (c :: cs) = c :: filterTags cs := by
  rw [filterTags, pieces_char h]
  rfl

/-- The text of a readable start tag is filtered by itself. -/
lemma filterTags_text {t : StartTag} (h : t.Readable) (letter : startsWithLetter t.name = true)
    (rest : List Char) : filterTags (t.text ++ rest) = t.filtered.text ++ filterTags rest := by
  rw [filterTags, pieces_text h letter]
  rfl

/-- A start tag that cannot be read is left out with all behind it. -/
lemma filterTags_unclosed {cs} (letter : startsWithLetter cs = true)
    (h : StartTag.read? cs = none) : filterTags ('<' :: cs) = [] := by
  rw [filterTags, pieces_unclosed letter h]
  rfl

/-- Filtered markup starts as the markup did, if anything is left of it. -/
lemma head?_filterTags (c : Char) (cs : List Char) : ∀ d ∈ (filterTags (c :: cs)).head?, d = c := by
  intro d hd
  cases tag : c == '<' && startsWithLetter cs with
  | true =>
    obtain ⟨rfl, letter⟩ : c = '<' ∧ startsWithLetter cs = true := by simpa using tag
    cases hr : StartTag.read? cs with
    | none => simp [filterTags, pieces_unclosed letter hr, Piece.filtered] at hd
    | some r =>
      obtain rfl : '<' = d := by
        simpa [filterTags, pieces_of_read? letter hr, Piece.filtered, StartTag.text] using hd
      rfl
  | false =>
    rw [filterTags_char tag, List.head?_cons, Option.mem_def, Option.some.injEq] at hd
    exact hd.symm

/-- A letter at the start of filtered markup stood at the start of the markup. -/
lemma startsWithLetter_filterTags {cs} (h : startsWithLetter (filterTags cs) = true) :
    startsWithLetter cs = true := by
  cases cs with
  | nil => simp [filterTags, pieces, startsWithLetter] at h
  | cons c cs =>
    have head := head?_filterTags c cs
    cases e : filterTags (c :: cs) with
    | nil => simp [e, startsWithLetter] at h
    | cons d ds =>
      rw [e] at head h
      rw [← head d rfl]
      exact h

/-- Up to the first start tag that fuses, filtered markup is read as the filtered pieces. -/
theorem pieces_filterTags (cs : List Char) :
    pieces (filterTags cs) =
      (beforeFusion (pieces cs)).filterMap Piece.kept? ++
        pieces (rewritten (fromFusion (pieces cs))) := by
  induction cs using pieces_induction with
  | nil => simp [filterTags_nil, beforeFusion, fromFusion, rewritten, pieces]
  | char c cs h ih =>
    -- filtering puts no letter behind a bracket that opened no tag
    have h' : (c == '<' && startsWithLetter (filterTags cs)) = false := by
      rw [Bool.eq_false_iff] at h ⊢
      intro opens
      rw [Bool.and_eq_true] at opens
      exact h (by rw [opens.1, startsWithLetter_filterTags opens.2, Bool.true_and])
    rw [filterTags_char h, pieces_char h', ih, pieces_char h]
    simp [beforeFusion, fromFusion, Piece.fuses, Piece.kept?]
  | tag t rest readable letter ih =>
    cases fuses : t.fuses with
    | true =>
      simp [filterTags, pieces_text readable letter, beforeFusion, fromFusion, rewritten,
        Piece.fuses, fuses]
    | false =>
      have apart := (StartTag.readable_filtered_iff readable).2 fuses
      rw [filterTags_text readable letter, pieces_text apart letter, ih,
        pieces_text readable letter]
      simp [beforeFusion, fromFusion, Piece.fuses, Piece.kept?, fuses]
  | unclosed cs letter h =>
    rw [filterTags_unclosed letter h, pieces_unclosed letter h]
    simp [beforeFusion, fromFusion, rewritten, Piece.fuses, Piece.kept?, pieces]

end EmailTemplate.Markup
