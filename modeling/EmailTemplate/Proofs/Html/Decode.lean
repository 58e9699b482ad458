import EmailTemplate.Html.CharRef
import EmailTemplate.Html.Escape
import EmailTemplate.Proofs.Text.Span
import Mathlib.Data.List.TakeWhile

/-!
# Resolved references

Resolving references gives an escaped text back (`decodeRefs_escapeChars`), whatever is written
behind it, keeps what stands behind the last reference (`decodeRefs_append`), and never makes a text
longer (`length_decodeRefs_le`).
-/

namespace EmailTemplate.Html
open EmailTemplate.Text

/-- A character that opens no reference is given back. -/
lemma decodeRefs_cons {c} (plain : c ≠ '&') (cs : List Char) :
    decodeRefs (c :: cs) = c :: decodeRefs cs := by
  rw [decodeRefs, if_neg]
  simpa using plain

/-- A reference is resolved up to its semicolon. -/
lemma decodeRefs_reference (name : List Char) {c} (body : ∀ d ∈ name, isRefBody d = true)
    (denotes : reference? name = some c) (rest : List Char) :
    decodeRefs ('&' :: (name ++ ';' :: rest)) = c :: decodeRefs rest := by
  have stop : Stops isRefBody (';' :: rest) := stops_cons.2 rfl
  have cut := dropWhile_append_stops body stop
  have inside := takeWhile_append_stops body stop
  rw [decodeRefs, if_pos (beq_self_eq_true '&')]
  split
  case h_1 rest' h =>
    rw [inside, denotes, cut]
    rfl
  case h_2 none =>
    exact absurd cut (none rest)

/-- An ampersand that opens no reference stays. -/
lemma decodeRefs_ampersand {cs : List Char}
    (none : ∀ body rest, cs = body ++ ';' :: rest → (∀ c ∈ body, isRefBody c = true) →
      reference? body = none) :
    decodeRefs ('&' :: cs) = '&' :: decodeRefs cs := by
  rw [decodeRefs, if_pos (beq_self_eq_true '&')]
  split
  case h_1 rest semicolon =>
    have split := List.takeWhile_append_dropWhile (p := isRefBody) (l := cs)
    rw [semicolon] at split
    rw [none _ _ split.symm fun c hc => List.mem_takeWhile_imp hc]
  case h_2 => rfl

/-- An ampersand stays in front of a text that no reference with a semicolon begins. -/
lemma decodeRefs_body {body rest : List Char} (inside : ∀ c ∈ body, isRefBody c = true)
    (stop : Stops isRefBody rest) (none : rest.head? = some ';' → reference? body = none) :
    decodeRefs ('&' :: (body ++ rest)) = '&' :: decodeRefs (body ++ rest) := by
  apply decodeRefs_ampersand
  intro body' rest' e inside'
  obtain ⟨rfl, rfl⟩ := append_inj_of_stops inside stop inside' (stops_cons.2 rfl) e
  exact none rfl

/-- The escaped form of a character is resolved to that character, whatever follows. -/
lemma decodeRefs_escapeChar (c : Char) (rest : List Char) :
    decodeRefs (escapeChar c ++ rest) = c :: decodeRefs rest := by
  unfold escapeChar
  split
  case h_1 => exact decodeRefs_reference "amp".toList (by decide) (by decide) rest
  case h_2 => exact decodeRefs_reference "lt".toList (by decide) (by decide) rest
  case h_3 => exact decodeRefs_reference "gt".toList (by decide) (by decide) rest
  case h_4 => exact decodeRefs_reference "quot".toList (by decide) (by decide) rest
  case h_5 amp _ _ _ => exact decodeRefs_cons amp rest

/-- An escaped text is given back, whatever follows it. -/
theorem decodeRefs_escapeChars (cs rest : List Char) :
    decodeRefs (escapeChars cs ++ rest) = cs ++ decodeRefs rest := by
  induction cs with
  | nil => rfl
  | cons c cs ih =>
    rw [escapeChars, List.flatMap_cons, List.append_assoc, decodeRefs_escapeChar]
    exact congrArg (c :: ·) ih

/-- An escaped text is resolved to itself, whatever follows. -/
lemma decodeRefs_escape (s : String) (rest : List Char) :
    decodeRefs ((escape s).toList ++ rest) = s.toList ++ decodeRefs rest := by
  rw [escape, String.toList_ofList]
  exact decodeRefs_escapeChars s.toList rest

/-- A text that no reference begins in is given back. -/
lemma decodeRefs_plain {cs : List Char} (plain : ∀ c ∈ cs, isRefBody c = true) :
    decodeRefs cs = cs := by
  induction cs with
  | nil => rw [decodeRefs]
  | cons c cs ih =>
    have other : c ≠ '&' := by
      rintro rfl
      cases plain '&' List.mem_cons_self
    rw [decodeRefs_cons other, ih fun d hd => plain d (List.mem_cons_of_mem c hd)]

/-- A semicolon that ends a reference stands in front of a run that could only go on with one. -/
lemma semicolon_left {front rest body behind : List Char} (plain : ∀ c ∈ rest, isRefBody c = true)
    (e : front ++ rest = body ++ ';' :: behind) : ∃ behind', front = body ++ ';' :: behind' := by
  obtain ⟨more, -, tail⟩ | ⟨more, whole, tail⟩ := List.append_eq_append_iff.1 e
  · rw [tail] at plain
    cases plain ';' (List.mem_append_right more List.mem_cons_self)
  · cases more with
    | nil =>
      rw [List.nil_append] at tail
      rw [← tail] at plain
      cases plain ';' List.mem_cons_self
    | cons c more =>
      obtain ⟨rfl, -⟩ := List.cons.inj tail
      exact ⟨more, whole⟩

/-- A text with neither a reference nor the end of one is kept behind any other. -/
lemma decodeRefs_append {rest : List Char} (plain : ∀ c ∈ rest, isRefBody c = true)
    (cs : List Char) : decodeRefs (cs ++ rest) = decodeRefs cs ++ rest := by
  fun_induction decodeRefs cs with
  | case1 => exact decodeRefs_plain plain
  | case2 c cs amp behind semicolon denoted denotes ih =>
    obtain rfl := beq_iff_eq.1 amp
    have split := List.takeWhile_append_dropWhile (p := isRefBody) (l := cs)
    have inside : ∀ c ∈ cs.takeWhile isRefBody, isRefBody c = true :=
      fun c hc => List.mem_takeWhile_imp hc
    rw [semicolon] at split ih
    have text : '&' :: cs ++ rest = '&' :: (cs.takeWhile isRefBody ++ ';' :: (behind ++ rest)) := by
      simpa using congrArg ('&' :: · ++ rest) split.symm
    rw [text, decodeRefs_reference _ inside denotes, semicolon]
    exact congrArg (denoted :: ·) ih
  | case3 c cs amp behind semicolon refused ih =>
    obtain rfl := beq_iff_eq.1 amp
    rw [List.cons_append, decodeRefs_ampersand, ih]
    · rfl
    -- the semicolon stands in front of what is put behind, since there is none in that
    intro body rest' e inside
    obtain ⟨behind', rfl⟩ := semicolon_left plain e
    rwa [takeWhile_append_stops inside (stops_cons.2 rfl)] at refused
  | case4 c cs amp unclosed ih =>
    obtain rfl := beq_iff_eq.1 amp
    rw [List.cons_append, decodeRefs_ampersand, ih]
    · rfl
    intro body rest' e inside
    obtain ⟨behind', rfl⟩ := semicolon_left plain e
    exact absurd (dropWhile_append_stops inside (stops_cons.2 rfl)) (unclosed behind')
  | case5 c cs other ih =>
    rw [List.cons_append, decodeRefs_cons (by simpa using other), ih]
    rfl

/-- A reference is at least as long as the character that it denotes. -/
lemma length_decodeRefs_le (cs : List Char) : (decodeRefs cs).length ≤ cs.length := by
  fun_induction decodeRefs cs with
  | case1 => exact Nat.le_refl _
  | case2 c cs _ _ _ denoted _ ih =>
    have drop := (List.dropWhile_suffix isRefBody (l := cs)).length_le
    rw [List.length_drop] at ih
    rw [List.length_cons, List.length_cons]
    omega
  | case3 c cs _ _ _ _ ih => exact Nat.succ_le_succ ih
  | case4 c cs _ _ ih => exact Nat.succ_le_succ ih
  | case5 c cs _ ih => exact Nat.succ_le_succ ih

end EmailTemplate.Html
