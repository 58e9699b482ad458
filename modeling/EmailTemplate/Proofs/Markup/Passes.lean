import EmailTemplate.Proofs.Markup.Idempotent

/-!
# The passes of stripping

Stripping makes one pass after another until one leaves the length of the markup as it is
(`passes`). Whatever a pass removes takes six bytes at least, since the shortest names have four
characters, so that the number of passes is bounded by the length of the markup. The main statement
is `strip_after_passes`: the last pass ends in markup in which nothing forbidden begins anywhere.
-/

namespace EmailTemplate.Markup
open EmailTemplate.Text

/-- The number of passes that stripping makes; the last one removes nothing. -/
def passes (cs : List Char) : Nat :=
  if (stripPass cs).length < cs.length then passes (stripPass cs) + 1 else 1
termination_by cs.length

/-- The fewest bytes of a forbidden construct. -/
def leastBytes : Nat :=
  6

/-- A text is the same as another one, or takes fewer bytes by those of a construct at least. -/
def Cuts (cs source : List Char) : Prop :=
  cs = source ∨ byteLength cs + leastBytes ≤ byteLength source

namespace Cuts
variable {a b c : List Char}

/-- Nothing may be taken out. -/
lemma refl (a : List Char) : Cuts a a :=
  .inl rfl

/-- What is left is not longer. -/
lemma le (h : Cuts a b) : byteLength a ≤ byteLength b := by
  rcases h with rfl | less
  · exact Nat.le_refl _
  · exact (Nat.le_add_right _ _).trans less

/-- What is left after two cuts is the same text, or a construct's bytes shorter. -/
lemma trans (h : Cuts a b) (h' : Cuts b c) : Cuts a c := by
  rcases h with rfl | less
  · exact h'
  · exact .inr (less.trans h'.le)

/-- A cut behind a character is a cut. -/
lemma cons (h : Cuts a b) (d : Char) : Cuts (d :: a) (d :: b) := by
  rcases h with rfl | less
  · exact refl _
  · right
    rw [byteLength_cons, byteLength_cons, Nat.add_assoc]
    exact Nat.add_le_add_left less _

end Cuts

/-- What follows a token lacks its name and its bracket. -/
lemma byteLength_of_afterToken? {names : List (List Char)} {cs rest : List Char} {k : Nat}
    (long : ∀ name ∈ names, k ≤ name.length) (found : afterToken? names cs = some rest) :
    byteLength rest + (k + 1) ≤ byteLength cs := by
  obtain ⟨name, mem, found⟩ := List.exists_of_findSome?_eq_some found
  obtain ⟨after, named, tag⟩ := Option.bind_eq_some_iff.1 found
  obtain ⟨spelling, spells, rfl⟩ := afterName?_eq_some_iff.1 named
  split at tag
  case isTrue =>
    have bracket := eq_of_afterBracket? tag
    have name := length_le_byteLength spelling
    have length := congrArg List.length spells
    have least := long _ mem
    rw [List.length_map] at length
    rw [byteLength_append, ← bracket, byteLength_append, byteLength_cons]
    have one : '>'.utf8Size = 1 := rfl
    omega
  case isFalse => cases tag

/-- A forbidden construct takes six bytes at least, that of its `<` included. -/
lemma byteLength_of_after? {p : Construct} (mem : p ∈ forbidden) {cs rest : List Char}
    (found : p.after? cs = some rest) : byteLength rest + 5 ≤ byteLength cs := by
  have ofToken (names : List String) (long : ∀ name ∈ names.map String.toList, 4 ≤ name.length)
      (found : (token names).after? cs = some rest) : byteLength rest + 5 ≤ byteLength cs :=
    byteLength_of_afterToken? long found
  have ofElement (name : String) (long : 4 ≤ name.toList.length)
      (found : (element name).after? cs = some rest) : byteLength rest + 5 ≤ byteLength cs := by
    obtain ⟨body, tag, rfl⟩ := Option.map_eq_some_iff.1 found
    have tag := byteLength_of_afterToken? (k := 4) (by simpa using long) tag
    have rest := (Shrinks.of_sublist (suffix_afterContents name.toList body).sublist).le
    omega
  simp only [forbidden, List.mem_cons, List.not_mem_nil, or_false] at mem
  rcases mem with rfl | rfl | rfl | rfl | rfl
  · exact ofElement "head" (by decide) found
  · exact ofElement "style" (by decide) found
  · exact ofElement "script" (by decide) found
  · exact ofToken _ (by decide) found
  · exact ofToken _ (by decide) found

/-- Erasing a forbidden construct takes its bytes, or nothing. -/
lemma cuts_erase {p : Construct} (mem : p ∈ forbidden) (cs : List Char) :
    Cuts (p.erase cs) cs := by
  unfold Construct.erase
  fun_induction Construct.replace p [] cs with
  | case1 => exact .refl []
  | case2 c cs hc rest found ih =>
    have removed := byteLength_of_after? mem found
    have size := c.utf8Size_pos
    have behind := ih.le
    right
    rw [List.nil_append, byteLength_cons, leastBytes]
    omega
  | case3 c cs hc none ih => exact ih.cons c
  | case4 c cs hc ih => exact ih.cons c

/-- A pass takes the bytes of one construct at least, or nothing. -/
lemma cuts_stripPass (cs : List Char) : Cuts (stripPass cs) cs := by
  have fold : ∀ ps : List Construct, (∀ p ∈ ps, p ∈ forbidden) → ∀ cs,
      Cuts (ps.foldl (fun cs p => p.erase cs) cs) cs := by
    intro ps sub
    induction ps with
    | nil => exact Cuts.refl
    | cons p ps ih =>
      intro cs
      obtain ⟨first, others⟩ := List.forall_mem_cons.1 sub
      exact (ih others (p.erase cs)).trans (cuts_erase first cs)
  exact fold forbidden (fun _ => id) cs

/-- A pass that leaves fewer characters leaves fewer bytes, by those of a construct at least. -/
lemma byteLength_stripPass {cs : List Char} (shorter : (stripPass cs).length < cs.length) :
    byteLength (stripPass cs) + leastBytes ≤ byteLength cs := by
  rcases cuts_stripPass cs with same | less
  · rw [same] at shorter
    exact absurd shorter (Nat.lt_irrefl _)
  · exact less

/-- What stripping leaves stood in the markup, in the same order. -/
lemma strip_sublist (cs : List Char) : (strip cs).Sublist cs := by
  fun_induction strip cs with
  | case1 cs _ ih => exact ih.trans (stripPass_sublist cs)
  | case2 cs _ => exact stripPass_sublist cs

/-- Stripping does as many passes as are counted. -/
lemma strip_eq_iterate (cs : List Char) : strip cs = stripPass^[passes cs] cs := by
  fun_induction strip cs with
  | case1 cs shorter ih => rw [passes, if_pos shorter, Function.iterate_succ_apply, ih]
  | case2 cs long => rw [passes, if_neg long, Function.iterate_one]

/-- Each pass that another one follows removes a construct at least. -/
lemma byteLength_iterate {cs : List Char} {i : Nat} (follows : i + 1 < passes cs) :
    byteLength (stripPass^[i + 1] cs) + leastBytes ≤ byteLength (stripPass^[i] cs) := by
  induction i generalizing cs with
  | zero =>
    rw [passes] at follows
    split at follows
    case isTrue shorter => exact byteLength_stripPass shorter
    case isFalse => exact absurd follows (Nat.lt_irrefl _)
  | succ i ih =>
    rw [passes] at follows
    split at follows
    case isTrue shorter =>
      rw [Function.iterate_succ_apply, Function.iterate_succ_apply]
      exact ih (Nat.lt_of_add_lt_add_right follows)
    case isFalse => omega

/-- Each pass but the last one takes the bytes of one construct at least. -/
lemma passes_le (cs : List Char) : leastBytes * passes cs ≤ byteLength cs + leastBytes := by
  fun_induction passes cs with
  | case1 cs shorter ih =>
    have := byteLength_stripPass shorter
    rw [Nat.mul_succ]
    omega
  | case2 cs long =>
    rw [Nat.mul_one]
    exact Nat.le_add_left _ _

/-- Nothing that is closed begins with a forbidden name. -/
lemma bracket_notMem_of_spelling {cs spelling after : List Char} {name : String}
    (absent : ∀ p ∈ forbidden, p.Absent cs)
    (mem : name ∈ (elementNames ++ declarationNames) ++ endTagNames)
    (begins : '<' :: (spelling ++ after) <:+ cs) (spells : spelling.map foldCase = name.toList)
    (word : atWordEnd after = true) : '>' ∉ after := by
  intro bracket
  have found : afterName? name.toList (spelling ++ after) = some after :=
    afterName?_eq_some_iff.2 ⟨spelling, spells, rfl⟩
  have opens : ∃ p ∈ forbidden, p.opens ('<' :: (spelling ++ after)) = true := by
    rcases List.mem_append.1 mem with mem | mem
    · exact exists_opens mem found word bracket
    · exact exists_opens_of_endTag ⟨name, mem, after, found, word, bracket⟩
  obtain ⟨p, mem, opens⟩ := opens
  rw [absent p mem _ begins] at opens
  cases opens

/-- Stripping markup of `n` bytes takes `n / 6 + 1` passes at most: each of them but the last
removes six bytes at least. It only removes characters, and what is left is changed by no further
pass: none of the forbidden constructs begins anywhere in it, so that a forbidden name behind a `<`,
in any spelling and at a word's end, has no `>` behind it. -/
theorem strip_after_passes (m : String) :
    passes m.toList ≤ m.utf8ByteSize / 6 + 1 ∧
    strip m.toList = stripPass^[passes m.toList] m.toList ∧
    (∀ i, i + 1 < passes m.toList →
      byteLength (stripPass^[i + 1] m.toList) + 6 ≤ byteLength (stripPass^[i] m.toList)) ∧
    stripPass (strip m.toList) = strip m.toList ∧
    (strip m.toList).Sublist m.toList ∧
    (∀ p ∈ forbidden, p.Absent (strip m.toList)) ∧
    ∀ name ∈ (elementNames ++ declarationNames) ++ endTagNames, ∀ spelling after,
      '<' :: (spelling ++ after) <:+ strip m.toList → spelling.map foldCase = name.toList →
      atWordEnd after = true → '>' ∉ after := by
  have absent := absent_strip m.toList
  refine ⟨?_, strip_eq_iterate _, fun i => byteLength_iterate, stripPass_strip _, strip_sublist _,
    absent, ?_⟩
  · have bound := passes_le m.toList
    rw [byteLength_toList, leastBytes] at bound
    omega
  · intro name mem spelling after
    exact bracket_notMem_of_spelling absent mem

/-- The bound is reached: the tag that is left by the first pass is removed by the second one. -/
example : passes "<ht<html>ml>".toList = 3 ∧ "<ht<html>ml>".utf8ByteSize / 6 + 1 = 3 := by
  decide +kernel

end EmailTemplate.Markup
