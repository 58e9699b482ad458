import EmailTemplate.Text.Blank
import EmailTemplate.Text.Fold
import EmailTemplate.Text.WordChar

/-!
# Constructs of markup

A construct is something that opens with `<` and is recognised by what follows: a tag of a given
name, an element with its contents, a comment. `Construct.replace` puts a text in the place of
every occurrence, from left to right, and `Construct.erase` removes them. Erasing leaves a sublist
of the markup.
-/

namespace EmailTemplate.Markup
open EmailTemplate.Text

/-- A construct of markup. Given what follows a `<`, `after?` is what follows the construct that
the `<` opens, if it opens one. -/
structure Construct where
  after? : List Char → Option (List Char)
  suffix_of_after? : ∀ {cs rest : List Char}, after? cs = some rest → rest <:+ cs

namespace Construct

/-- Replaces every occurrence of a construct by a text. -/
def replace (p : Construct) (instead : List Char) : List Char → List Char
  | [] => []
  | c :: cs =>
    if c == '<' then
      match _h : p.after? cs with
      | some rest => instead ++ p.replace instead rest
      | none => c :: p.replace instead cs
    else c :: p.replace instead cs
termination_by cs => cs.length
decreasing_by
  all_goals simp only [List.length_cons]
  all_goals try omega
  have := (p.suffix_of_after? _h).length_le
  omega

/-- Removes every occurrence of a construct. -/
def erase (p : Construct) : List Char → List Char :=
  p.replace []

/-- Whether a construct occurs at the very start of a markup. -/
def opens (p : Construct) : List Char → Bool
  | [] => false
  | c :: cs => c == '<' && (p.after? cs).isSome

/-- Erasing removes characters and changes nothing else. -/
theorem erase_sublist (p : Construct) (cs : List Char) : (p.erase cs).Sublist cs := by
  unfold erase
  fun_induction replace p [] cs with
  | case1 => exact List.Sublist.refl _
  | case2 c cs hc rest h ih =>
    exact (ih.trans (p.suffix_of_after? h).sublist).cons c
  | case3 c cs hc h ih => exact ih.cons_cons c
  | case4 c cs hc ih => exact ih.cons_cons c

end Construct

/-- What follows the next `>`. -/
def afterBracket? (cs : List Char) : Option (List Char) :=
  match cs.dropWhile (· != '>') with
  | [] => none
  | _ :: rest => some rest

/-- What precedes a bracket, the bracket and what follows it make up the text. -/
theorem eq_of_afterBracket? {cs rest : List Char} (h : afterBracket? cs = some rest) :
    cs.takeWhile (· != '>') ++ '>' :: rest = cs := by
  unfold afterBracket? at h
  split at h
  · simp at h
  · rename_i c r hr
    obtain rfl : r = rest := by simpa using h
    have bracket : c = '>' := by
      have := List.head?_dropWhile_not (· != '>') cs
      simpa [hr] using this
    have split := List.takeWhile_append_dropWhile (p := (· != '>')) (l := cs)
    rwa [hr, bracket] at split

/-- What follows a bracket is a suffix of the text. -/
theorem suffix_of_afterBracket? {cs rest : List Char} (h : afterBracket? cs = some rest) :
    rest <:+ cs :=
  ⟨cs.takeWhile (· != '>') ++ ['>'], by simpa using eq_of_afterBracket? h⟩

/-- What follows a token that begins with one of the names, case aside, at a word's end, and runs
to the next `>`. -/
def afterToken? (names : List (List Char)) (cs : List Char) : Option (List Char) :=
  names.findSome? fun name =>
    (afterName? name cs).bind fun rest => if atWordEnd rest then afterBracket? rest else none

/-- What follows a token is a suffix of the text. -/
theorem suffix_of_afterToken? {names : List (List Char)} {cs rest : List Char}
    (h : afterToken? names cs = some rest) : rest <:+ cs := by
  obtain ⟨name, -, h⟩ := List.exists_of_findSome?_eq_some h
  obtain ⟨r, hr, h⟩ := Option.bind_eq_some_iff.1 h
  split at h
  · exact (suffix_of_afterBracket? h).trans (suffix_of_afterName? hr)
  · simp at h

/-- A token that begins with `<` and one of the names. -/
def token (names : List String) : Construct where
  after? := afterToken? (names.map String.toList)
  suffix_of_after? := suffix_of_afterToken?

/-- What follows the end tag of an element that a text starts with; only blanks may stand between
the name and the bracket. -/
def afterEndTag? (name : List Char) : List Char → Option (List Char)
  | '<' :: '/' :: cs =>
    (afterName? name cs).bind fun rest =>
      match rest.dropWhile isBlank with
      | '>' :: rest => some rest
      | _ => none
  | _ => none

/-- What follows an end tag is a suffix of the text. -/
theorem suffix_of_afterEndTag? {name cs rest : List Char} (h : afterEndTag? name cs = some rest) :
    rest <:+ cs := by
  unfold afterEndTag? at h
  split at h
  · rename_i cs
    obtain ⟨r, hr, h⟩ := Option.bind_eq_some_iff.1 h
    split at h
    · rename_i r' hr'
      obtain rfl : r' = rest := by simpa using h
      have h₁ : r' <:+ r := (List.suffix_cons _ _).trans (hr' ▸ List.dropWhile_suffix _)
      exact (h₁.trans (suffix_of_afterName? hr)).trans
        ((List.suffix_cons _ _).trans (List.suffix_cons _ _))
    · simp at h
  · simp at h

/-- What follows the first end tag of an element; an element without one takes the whole text. -/
def afterContents (name : List Char) : List Char → List Char
  | [] => []
  | c :: cs => (afterEndTag? name (c :: cs)).getD (afterContents name cs)

/-- What follows the contents of an element is a suffix of the text. -/
theorem suffix_afterContents (name cs : List Char) : afterContents name cs <:+ cs := by
  induction cs with
  | nil => exact List.suffix_refl _
  | cons c cs ih =>
    rw [afterContents]
    cases h : afterEndTag? name (c :: cs) with
    | none => exact ih.trans (List.suffix_cons c cs)
    | some rest => exact suffix_of_afterEndTag? h

/-- An element of the given name with its contents. -/
def element (name : String) : Construct where
  after? cs := (afterToken? [name.toList] cs).map (afterContents name.toList)
  suffix_of_after? := by
    intro cs rest h
    obtain ⟨r, hr, rfl⟩ := Option.map_eq_some_iff.1 h
    exact (suffix_afterContents _ r).trans (suffix_of_afterToken? hr)

/-- What follows the first occurrence of a text. -/
def afterText? (needle : List Char) : List Char → Option (List Char)
  | [] => none
  | c :: cs =>
    if needle.isPrefixOf (c :: cs) then some ((c :: cs).drop needle.length)
    else afterText? needle cs

/-- What follows a needle stands behind an occurrence of it. -/
theorem eq_of_afterText? {needle cs rest : List Char} (h : afterText? needle cs = some rest) :
    ∃ front, front ++ (needle ++ rest) = cs := by
  induction cs with
  | nil => simp [afterText?] at h
  | cons c cs ih =>
    rw [afterText?] at h
    split at h
    case isTrue begins =>
      obtain ⟨behind, e⟩ := List.isPrefixOf_iff_prefix.1 begins
      rw [← e, List.drop_left, Option.some.injEq] at h
      exact ⟨[], by rw [← e, h, List.nil_append]⟩
    case isFalse =>
      obtain ⟨front, rfl⟩ := ih h
      exact ⟨c :: front, rfl⟩

/-- What follows a needle is a suffix of the text. -/
theorem suffix_of_afterText? {needle cs rest : List Char} (h : afterText? needle cs = some rest) :
    rest <:+ cs := by
  obtain ⟨front, e⟩ := eq_of_afterText? h
  exact ⟨front ++ needle, by rw [List.append_assoc, e]⟩

/-- What follows a comment, after its `<`: everything up to the first `-->` is part of it. -/
def afterComment? : List Char → Option (List Char)
  | '!' :: '-' :: '-' :: cs => afterText? ['-', '-', '>'] cs
  | _ => none

/-- A comment that is closed. -/
def comment : Construct where
  after? := afterComment?
  suffix_of_after? := by
    intro cs rest h
    unfold afterComment? at h
    split at h
    · exact (suffix_of_afterText? h).trans
        (((List.suffix_cons _ _).trans (List.suffix_cons _ _)).trans (List.suffix_cons _ _))
    · simp at h

/-- Anything between `<` and the next `>`. -/
def bracketed : Construct where
  after? := afterBracket?
  suffix_of_after? := suffix_of_afterBracket?

end EmailTemplate.Markup
