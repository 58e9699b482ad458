import EmailTemplate.Markup.Sanitize
import EmailTemplate.Proofs.Markup.Replaced
import EmailTemplate.Proofs.Text.Occurrence

/-!
# What a reader sees of a markup

`visibleText` takes anything between `<` and the next `>` for a tag, whereas start tags are read by
`StartTag.read?`, for which a bracket in a quoted value does not end the tag, and a `<` that opens
nothing is a character like any other. `parts` reads a markup that way. The main statement,
`visibleText_iff_plain`, is that the two agree exactly on `Plain` markup, where no tag has a bracket
inside and no bracket stands behind a `<` that opens nothing. It is about markup without comments
that begin inside a tag, since comments are looked for first.
-/

namespace EmailTemplate.Markup
open EmailTemplate.Text EmailTemplate.Html

/-! ### Parts of a markup -/

/-- A part of a markup, as a reader sees it. -/
inductive Part where
  /-- A character that stands for itself. -/
  | char (c : Char)
  | comment
  /-- A start tag or an end tag, given by what stands between its brackets. -/
  | tag (body : List Char)
  deriving DecidableEq, Repr

namespace Part

/-- What a reader sees of a part. -/
def shown : Part → List Char
  | char c => [c]
  | comment => []
  | tag _ => [' ']

/-- The characters of a part; a comment has none. -/
def text : Part → List Char
  | char c => [c]
  | comment => []
  | tag body => '<' :: (body ++ ['>'])

end Part

/-- Reads a tag behind its `<`, and gives what stands in front of its bracket and behind it. -/
def readTag? : List Char → Option (List Char × List Char)
  | '/' :: cs =>
    if startsWithLetter cs then
      (afterBracket? cs).map fun rest => ('/' :: cs.takeWhile (· != '>'), rest)
    else none
  | cs =>
    if startsWithLetter cs then
      (StartTag.read? cs).map fun (t, rest) =>
        (t.name ++ (t.attrs.flatMap Attribute.text ++ t.tail), rest)
    else none

/-- Reads the comment or the tag that a `<` opens, behind the `<`, and gives what follows it. -/
def readPart? (cs : List Char) : Option (Part × List Char) :=
  match afterComment? cs with
  | some rest => some (.comment, rest)
  | none => (readTag? cs).map fun (body, rest) => (.tag body, rest)

/-- How `readPart?` reads a part, by what stands behind the `<` and what is left. -/
inductive ReadsPart : List Char → Part → List Char → Prop where
  | comment {cs rest} :
    afterComment? cs = some rest →
    ReadsPart cs .comment rest
  | tag {body rest} :
    afterComment? (body ++ '>' :: rest) = none →
    ReadsPart (body ++ '>' :: rest) (.tag body) rest

/-- Reading a tag loses no character. -/
lemma eq_of_readTag? {cs body rest} (h : readTag? cs = some (body, rest)) :
    body ++ '>' :: rest = cs := by
  unfold readTag? at h
  split at h
  case h_1 cs =>
    split at h
    case isTrue =>
      obtain ⟨rest', found, e⟩ := Option.map_eq_some_iff.1 h
      cases e
      exact congrArg ('/' :: ·) (eq_of_afterBracket? found)
    case isFalse => cases h
  case h_2 =>
    split at h
    case isTrue =>
      obtain ⟨⟨t, rest'⟩, found, e⟩ := Option.map_eq_some_iff.1 h
      cases e
      have text := StartTag.text_of_read? found
      simpa [StartTag.text] using text
    case isFalse => cases h

/-- Parts are read as `ReadsPart` says. -/
lemma readsPart_of_readPart? {cs p rest} (h : readPart? cs = some (p, rest)) :
    ReadsPart cs p rest := by
  unfold readPart? at h
  split at h
  case h_1 rest' found =>
    cases h
    exact .comment found
  case h_2 none =>
    obtain ⟨⟨body, rest'⟩, found, e⟩ := Option.map_eq_some_iff.1 h
    cases e
    obtain rfl := eq_of_readTag? found
    exact .tag none

/-- Reading a part leaves no more than there was. -/
lemma ReadsPart.length_le {cs p rest} (h : ReadsPart cs p rest) : rest.length ≤ cs.length := by
  cases h with
  | comment found => exact (Markup.comment.suffix_of_after? found).length_le
  | tag =>
    rw [List.length_append, List.length_cons]
    omega

/-- Reads a markup as its parts. -/
def parts : List Char → List Part
  | [] => []
  | c :: cs =>
    if c == '<' then
      match _h : readPart? cs with
      | some (p, rest) => p :: parts rest
      | none => .char c :: parts cs
    else .char c :: parts cs
termination_by cs => cs.length
decreasing_by
  all_goals simp only [List.length_cons]
  all_goals try omega
  have := (readsPart_of_readPart? _h).length_le
  omega

/-- What a reader sees of a markup. -/
def shown (ps : List Part) : List Char :=
  ps.flatMap Part.shown

/-- What is left of a markup without its comments. -/
def uncommented (ps : List Part) : List Char :=
  ps.flatMap Part.text

/-- A tag keeps its characters when comments are left out. -/
lemma uncommented_tag (body : List Char) (ps : List Part) :
    uncommented (.tag body :: ps) = '<' :: (body ++ '>' :: uncommented ps) := by
  simp [uncommented, Part.text]

/-- No tag has a bracket inside, and no bracket follows a `<` that opens nothing. -/
def Plain : List Part → Prop
  | [] => True
  | .char c :: ps => (c = '<' → '>' ∉ uncommented ps) ∧ Plain ps
  | .comment :: ps => Plain ps
  | .tag body :: ps => '>' ∉ body ∧ Plain ps

instance : (ps : List Part) → Decidable (Plain ps)
  | [] => isTrue trivial
  | .char c :: ps =>
    have := instDecidablePlain ps
    inferInstanceAs (Decidable ((c = '<' → '>' ∉ uncommented ps) ∧ Plain ps))
  | .comment :: ps => instDecidablePlain ps
  | .tag body :: ps =>
    have := instDecidablePlain ps
    inferInstanceAs (Decidable ('>' ∉ body ∧ Plain ps))

/-! ### Replacing what stands in brackets -/

/-- The text with everything between `<` and the next `>` replaced by a space. -/
def flattened (cs : List Char) : List Char :=
  bracketed.replace [' '] cs

/-- Nothing is replaced by nothing. -/
lemma flattened_nil : flattened [] = [] := by
  rw [flattened, Construct.replace]

/-- A character other than `<` stays. -/
lemma flattened_cons {c} (other : c ≠ '<') (cs : List Char) :
    flattened (c :: cs) = c :: flattened cs :=
  Construct.replace_cons other cs

/-- A tag without a bracket inside becomes a space. -/
lemma flattened_tag {body : List Char} (plain : '>' ∉ body) (rest : List Char) :
    flattened ('<' :: (body ++ '>' :: rest)) = ' ' :: flattened rest :=
  Construct.replace_of_some (p := bracketed) (afterBracket?_append plain rest)

/-- A `<` stays where no bracket follows it. -/
lemma flattened_unclosed {cs : List Char} (plain : '>' ∉ cs) :
    flattened ('<' :: cs) = '<' :: flattened cs :=
  Construct.replace_of_none (p := bracketed) (afterBracket?_eq_none plain)

/-- No `<` is left in front of a bracket, and something is. -/
lemma flattened_append_bracket (front : List Char) :
    ∃ left, left ≠ [] ∧ '<' ∉ left ∧
      ∀ rest, flattened (front ++ '>' :: rest) = left ++ flattened rest := by
  generalize len : front.length = n
  induction n using Nat.strong_induction_on generalizing front with
  | _ n ih =>
  subst len
  cases front with
  | nil => exact ⟨['>'], by simp, by decide, fun rest => flattened_cons (by decide) rest⟩
  | cons c front =>
    by_cases opens : c = '<'
    · subst opens
      by_cases closes : '>' ∈ front
      · obtain ⟨body, behind, rfl, plain⟩ := List.eq_append_cons_of_mem closes
        obtain ⟨left, -, none, e⟩ := ih behind.length (by simp; omega) behind rfl
        refine ⟨' ' :: left, List.cons_ne_nil _ left, ?_, fun rest => ?_⟩
        · simp [none]
        · rw [List.cons_append, List.append_assoc, List.cons_append, flattened_tag plain, e]
          rfl
      · exact ⟨[' '], by simp, by decide, flattened_tag closes⟩
    · obtain ⟨left, -, none, e⟩ := ih front.length (by simp) front rfl
      refine ⟨c :: left, List.cons_ne_nil c left, ?_, fun rest => ?_⟩
      · simp [none, Ne.symm opens]
      · rw [List.cons_append, flattened_cons opens, e]
        rfl

/-- What is left of a tag is a space, and more if the tag has a bracket inside. -/
lemma flattened_body (body : List Char) :
    ∃ left, (left = [] ↔ '>' ∉ body) ∧ '<' ∉ left ∧
      ∀ rest, flattened ('<' :: (body ++ '>' :: rest)) = ' ' :: (left ++ flattened rest) := by
  by_cases closes : '>' ∈ body
  · obtain ⟨front, behind, rfl, plain⟩ := List.eq_append_cons_of_mem closes
    obtain ⟨left, ne, none, e⟩ := flattened_append_bracket behind
    refine ⟨left, iff_of_false ne (not_not_intro closes), none, fun rest => ?_⟩
    rw [List.append_assoc, List.cons_append, flattened_tag plain, e]
  · exact ⟨[], iff_of_true rfl closes, by simp, flattened_tag closes⟩

/-- Where a text goes on with its first character, that character may be moved behind it. -/
lemma rotate {left gap cs ds : List Char} {c : Char} (ne : left ≠ []) (none : '<' ∉ left)
    (other : c ≠ '<') (noneInGap : '<' ∉ gap) (e : left ++ c :: (gap ++ cs) = c :: ds) :
    ∃ left', left' ≠ [] ∧ '<' ∉ left' ∧ left' ++ cs = ds := by
  cases left with
  | nil => exact absurd rfl ne
  | cons d left =>
    obtain ⟨rfl, e⟩ := List.cons.inj e
    refine ⟨left ++ d :: gap, by simp, ?_, by simpa using e⟩
    have behind : '<' ∉ left := fun h => none (List.mem_cons_of_mem d h)
    simp [behind, noneInGap, Ne.symm other]

/-- A markup that begins with characters other than `<` is not flattened to what a reader sees of
the rest: it would have to repeat them up to the end, or up to a `<`. -/
lemma append_flattened_ne_shown {left : List Char} (ne : left ≠ []) (none : '<' ∉ left)
    (ps : List Part) : left ++ flattened (uncommented ps) ≠ shown ps := by
  induction ps generalizing left with
  | nil =>
    intro e
    exact ne (List.append_eq_nil_iff.1 e).1
  | cons p ps ih =>
    intro e
    cases p with
    | char c =>
      by_cases opens : c = '<'
      · cases left with
        | nil => exact ne rfl
        | cons d left =>
          obtain ⟨rfl, -⟩ := List.cons.inj e
          rw [opens] at none
          exact none List.mem_cons_self
      -- the character is moved from the front of `left` to its end, and the rest is shorter
      · have here : flattened (uncommented (.char c :: ps)) =
            c :: ([] ++ flattened (uncommented ps)) :=
          flattened_cons opens _
        rw [here] at e
        obtain ⟨left', ne', none', e'⟩ := rotate ne none opens List.not_mem_nil e
        exact ih ne' none' e'
    | comment => exact ih ne none e
    | tag body =>
      obtain ⟨gap, -, noneInGap, here⟩ := flattened_body body
      rw [uncommented_tag, here] at e
      obtain ⟨left', ne', none', e'⟩ := rotate ne none (by decide) noneInGap e
      exact ih ne' none' e'

/-- A markup is flattened to what a reader sees of it exactly if it is plain. -/
theorem flattened_eq_shown_iff (ps : List Part) :
    flattened (uncommented ps) = shown ps ↔ Plain ps := by
  induction ps with
  | nil => exact iff_of_true flattened_nil trivial
  | cons p ps ih =>
    cases p with
    | char c =>
      change flattened (c :: uncommented ps) = c :: shown ps ↔ (c = '<' → _) ∧ _
      by_cases opens : c = '<'
      · subst opens
        by_cases closes : '>' ∈ uncommented ps
        · obtain ⟨body, rest, e, plain⟩ := List.eq_append_cons_of_mem closes
          rw [e, flattened_tag plain, ← e]
          simp [closes]
        · rw [flattened_unclosed closes, List.cons.injEq, ih]
          simp [closes]
      · rw [flattened_cons opens, List.cons.injEq, ih]
        simp [opens]
    | comment => exact ih
    | tag body =>
      -- a bracket inside leaves something behind the space, which would have to be made up for
      obtain ⟨left, empty, none, here⟩ := flattened_body body
      rw [uncommented_tag, here]
      change ' ' :: (left ++ flattened (uncommented ps)) = ' ' :: shown ps ↔ '>' ∉ body ∧ Plain ps
      rw [List.cons.injEq, ← empty, ← ih]
      by_cases ne : left = []
      · simp [ne]
      · simp [ne, append_flattened_ne_shown ne none ps]

/-! ### Erasing comments -/

/-- No comment begins in a text. -/
def NoComment (cs : List Char) : Prop :=
  ¬['<', '!', '-', '-'] <:+: cs

/-- Where no comment begins in front of a bracket, none begins there at all. -/
lemma afterComment?_eq_none {front : List Char} (apart : ¬['!', '-', '-'] <+: front)
    (rest : List Char) : afterComment? (front ++ '>' :: rest) = none := by
  unfold afterComment?
  split
  case h_1 cs e =>
    have begins : ['!', '-', '-'] <+: front ++ '>' :: rest := by
      rw [e]
      exact List.prefix_append ['!', '-', '-'] cs
    exact absurd (prefix_of_notMem begins (by decide)) apart
  case h_2 => rfl

/-- A text up to a bracket in which no comment begins is kept. -/
lemma erase_comment_append {front : List Char} (none : NoComment front) (rest : List Char) :
    comment.erase (front ++ '>' :: rest) = front ++ '>' :: comment.erase rest := by
  have noneOpens : comment.NoneOpens front ('>' :: rest) := by
    intro cs suffix
    apply afterComment?_eq_none
    intro begins
    exact none ((List.cons_prefix_cons.2 ⟨rfl, begins⟩).isInfix.trans suffix.isInfix)
  rw [Construct.erase, Construct.replace_append noneOpens, Construct.replace_cons (by decide)]

/-- No comment begins inside a tag. -/
def Part.Apart : Part → Prop
  | .tag body => NoComment body
  | _ => True

instance : (p : Part) → Decidable p.Apart
  | .tag body => inferInstanceAs (Decidable ¬['<', '!', '-', '-'] <:+: body)
  | .char _ => isTrue trivial
  | .comment => isTrue trivial

/-- Where no part is read, there is no comment either. -/
lemma afterComment?_of_readPart? {cs} (h : readPart? cs = none) : afterComment? cs = none := by
  cases found : afterComment? cs with
  | none => rfl
  | some rest =>
    rw [readPart?, found] at h
    cases h

/-- Erasing comments leaves the other parts as they are, unless one begins inside a tag. -/
lemma erase_comment {cs : List Char} (apart : ∀ p ∈ parts cs, p.Apart) :
    comment.erase cs = uncommented (parts cs) := by
  fun_induction parts cs with
  | case1 =>
    rw [Construct.erase, Construct.replace]
    rfl
  | case2 c cs opens p rest read ih =>
    obtain rfl := beq_iff_eq.1 opens
    have behind := ih fun q h => apart q (List.mem_cons_of_mem p h)
    cases readsPart_of_readPart? read with
    | comment found =>
      rw [Construct.erase, Construct.replace_of_some found]
      exact behind
    | @tag body _ closed =>
      -- comments are looked for inside tags too, but this one has none
      have here : NoComment body := apart (.tag body) List.mem_cons_self
      rw [uncommented_tag, ← behind, ← erase_comment_append here]
      exact Construct.replace_of_none closed
  | case3 c cs opens read ih =>
    obtain rfl := beq_iff_eq.1 opens
    have behind := ih fun q h => apart q (List.mem_cons_of_mem _ h)
    rw [Construct.erase, Construct.replace_of_none (afterComment?_of_readPart? read)]
    exact congrArg ('<' :: ·) behind
  | case4 c cs other ih =>
    have behind := ih fun q h => apart q (List.mem_cons_of_mem _ h)
    rw [Construct.erase, Construct.replace_cons (by simpa using other)]
    exact congrArg (c :: ·) behind

/-! ### The visible text -/

/-- The words that a reader sees of a text with references, joined by single spaces. -/
def wording (cs : List Char) : String :=
  String.ofList (join [' '] (words (decodeRefs cs)))

/-- The visible text is made of what a reader sees exactly on plain markup, unless a comment begins
inside a tag. -/
theorem visibleText_iff_plain {m : String}
    (apart : ∀ p ∈ parts (sanitizeChars m.toList), p.Apart) :
    (flattened (comment.erase (sanitizeChars m.toList)) = shown (parts (sanitizeChars m.toList)) ↔
        Plain (parts (sanitizeChars m.toList))) ∧
      (Plain (parts (sanitizeChars m.toList)) →
        visibleText m = wording (shown (parts (sanitizeChars m.toList)))) := by
  have exactly : flattened (comment.erase (sanitizeChars m.toList)) =
      shown (parts (sanitizeChars m.toList)) ↔ Plain (parts (sanitizeChars m.toList)) := by
    rw [erase_comment apart]
    exact flattened_eq_shown_iff _
  refine ⟨exactly, fun plain => ?_⟩
  rw [← exactly.2 plain]
  rfl

/-- Markup with a comment and a quoted value. -/
def boldMarkup : String :=
  "<b title='x'>a &lt; b</b><!-- c > d -->"

/-- Without its tags and its comment the markup reads as its author meant it. -/
theorem visibleText_boldMarkup :
    (∀ p ∈ parts (sanitizeChars boldMarkup.toList), p.Apart) ∧
      visibleText boldMarkup = "a < b" := by
  have read : parts (sanitizeChars boldMarkup.toList) =
      .tag "b title='x'".toList :: "a &lt; b".toList.map .char ++ [.tag "/b".toList, .comment] := by
    decide +kernel
  have apart : ∀ p ∈ parts (sanitizeChars boldMarkup.toList), p.Apart := by
    rw [read]
    decide
  have plain : Plain (parts (sanitizeChars boldMarkup.toList)) := by
    rw [read]
    decide
  refine ⟨apart, ((visibleText_iff_plain apart).2 plain).trans ?_⟩
  rw [read]
  decide +kernel

/-- Markup with a bracket in a quoted value. -/
def titledMarkup : String :=
  "<a title=\"a>b\">x</a>"

/-- A part of the value is taken for visible text. -/
theorem visibleText_titledMarkup :
    visibleText titledMarkup = "b\">x" ∧
      wording (shown (parts (sanitizeChars titledMarkup.toList))) = "x" := by
  constructor
  all_goals decide +kernel

end EmailTemplate.Markup
