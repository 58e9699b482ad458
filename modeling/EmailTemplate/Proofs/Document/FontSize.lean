import EmailTemplate.Proofs.Decimal.FloatText
import EmailTemplate.Proofs.Document.SetField

/-!
# Font sizes in template files

A font size may be a number or a string; one of digits and points is taken as a number of pixels. So
a number has no unit if it is printed with a sign or an exponent, and a string with several points
has one. The main statement, `fontSize_number_or_text`, says for which numbers and which strings
this is so.
-/

namespace EmailTemplate
open Text Decimal

namespace Text
variable {w t w' : List Char}

/-- A text without blanks does not start with one. -/
lemma isBlank_of_mem_head? (inked : ∀ c ∈ t, isBlank c = false) : Stops isBlank t :=
  fun c mem => inked c (List.mem_of_mem_head? mem)

/-- Blanks around a text are trimmed, and nothing else. -/
lemma trim_surrounded (ne : t ≠ []) (inked : ∀ c ∈ t, isBlank c = false)
    (before : ∀ c ∈ w, isBlank c = true) (behind : ∀ c ∈ w', isBlank c = true) :
    trim (w ++ (t ++ w')) = t := by
  have start : Stops isBlank (t ++ w') :=
    (stops_append_iff ne w').2 (isBlank_of_mem_head? inked)
  have stop : Stops isBlank t.reverse :=
    isBlank_of_mem_head? fun c mem => inked c (List.mem_reverse.1 mem)
  have run : ∀ c ∈ w'.reverse, isBlank c = true := fun c mem => behind c (List.mem_reverse.1 mem)
  rw [trim, trimStart, dropWhile_append_stops before start, trimEnd, List.reverse_append,
    dropWhile_append_stops run stop, List.reverse_reverse]

end Text

namespace Number

/-- A number that is printed without a sign and without an exponent: an integer that is not
negative, or a double without a sign that is zero or between `10 ^ -5` and `10 ^ 16`. -/
def Bare : Number → Prop
  | .int n => 0 ≤ n
  | .float x => ∃ d, Dyadic.ofFloat? x = some d ∧ d.negative = false ∧
    (d.m = 0 ∨ (10 : ℚ) ^ (-5 : ℤ) ≤ d.size ∧ d.size < 10 ^ (16 : ℤ))

/-- A negative integer is printed with a sign. -/
lemma text_negSucc (m : Nat) : (int (.negSucc m)).text = "-" ++ toString (m + 1) :=
  rfl

/-- A double's shortest decimal is written without an exponent if the double is bare. -/
lemma positional_iff {d : Decimal.Dyadic} (double : d.Double) :
    (d.shortestDigits Json.floatStyle.tie).digits = 0 ∨
        Json.floatStyle.positional ((d.shortestDigits Json.floatStyle.tie).places - 1) = true ↔
      d.m = 0 ∨ (10 : ℚ) ^ (-5 : ℤ) ≤ d.size ∧ d.size < 10 ^ (16 : ℤ) := by
  rcases Nat.eq_zero_or_pos d.m with zero | pos
  · refine iff_of_true (.inl ?_) (.inl zero)
    rw [Decimal.Dyadic.shortestDigits, if_pos (beq_iff_eq.2 zero)]
  · obtain ⟨filled, positional⟩ :=
      Dyadic.places_shortestDigits_iff Json.floatStyle.tie double pos
    rw [or_iff_right filled, or_iff_right pos.ne', ← positional]
    show (decide _ && decide _) = true ↔ _
    rw [Bool.and_eq_true, decide_eq_true_iff, decide_eq_true_iff]

/-- A number is written in digits and points alone exactly if it is bare. -/
lemma isDecimalText_text_iff (n : Number) : IsDecimalText n.text ↔ n.Bare := by
  cases n with
  | int n =>
    cases n with
    | ofNat m => exact iff_of_true (isDecimalText_toString m) (Int.natCast_nonneg m)
    | negSucc m =>
      refine iff_of_false ?_ (Int.not_le.2 (Int.negSucc_lt_zero m))
      rw [text_negSucc, isDecimalText_append]
      exact fun decimal => absurd decimal.1 (by decide)
  | float x =>
    refine isDecimalText_floatText_iff.trans ?_
    apply exists_congr
    intro d
    apply and_congr_right
    intro finite
    rw [positional_iff (Dyadic.double_of_ofFloat? finite)]

/-- A number is written without blanks, and never as nothing. -/
lemma inked_text (n : Number) : Inked n.text ∧ n.text ≠ "" := by
  cases n with
  | int n =>
    cases n with
    | ofNat m =>
      refine ⟨(isDecimalText_toString m).inked, ?_⟩
      exact fun empty => toString_ne_nil m (String.toList_eq_nil_iff.2 empty)
    | negSucc m =>
      rw [text_negSucc, inked_append]
      refine ⟨⟨by decide, (isDecimalText_toString (m + 1)).inked⟩, ?_⟩
      simp
  | float x => exact inked_floatText Json.floatStyle x

/-- A bare number is printed as a decimal number. -/
lemma isDecimalNumber_text {n : Number} (bare : n.Bare) : IsDecimalNumber n.text := by
  rw [← isDecimalText_text_iff] at bare
  cases n with
  | int n =>
    cases n with
    | ofNat m => exact isDecimalNumber_toString m
    | negSucc m =>
      rw [text_negSucc, isDecimalText_append] at bare
      exact absurd bare.1 (by decide)
  | float x => exact isDecimalNumber_floatText bare

end Number

namespace Json

/-- A size with its unit: one of digits and points is a number of pixels. -/
def withUnit (size : String) : String :=
  if size.toList.all fun c => c.isDigit || c == '.' then size ++ "px" else size

/-- The unit is added to decimal texts and to nothing else. -/
lemma withUnit_eq_iff (size : String) :
    (withUnit size = size ++ "px" ↔ IsDecimalText size) ∧
      (withUnit size = size ↔ ¬IsDecimalText size) := by
  have longer : size ++ "px" ≠ size := by
    intro same
    have length := congrArg String.length same
    rw [String.length_append] at length
    exact absurd length (Nat.ne_of_gt (Nat.lt_add_of_pos_right (by decide)))
  rw [withUnit]
  split
  case isTrue all =>
    have decimal : IsDecimalText size := List.all_eq_true.1 all
    exact ⟨iff_of_true rfl decimal, iff_of_false longer (not_not.2 decimal)⟩
  case isFalse all =>
    have sized : ¬IsDecimalText size := fun decimal => all (List.all_eq_true.2 decimal)
    exact ⟨iff_of_false longer.symm sized, iff_of_true rfl sized⟩

/-- A font size is the text of a scalar, trimmed, with a unit if it needs one. -/
lemma fontSize?_eq (value : Json) :
    value.fontSize? = value.nonBlank?.map fun text => withUnit (trimmed text) :=
  rfl

/-- A scalar whose text is more than blanks counts. -/
lemma nonBlank?_of_scalarText? {value : Json} {text : String}
    (given : value.scalarText? = some text)
    (filled : ¬(∀ c ∈ text.toList, isBlank c = true)) : value.nonBlank? = some text := by
  rw [nonBlank?, given, Option.filter_some, if_pos]
  rw [Bool.not_eq_true', ← Bool.not_eq_true, isBlankText, List.all_eq_true]
  exact filled

/-- A number, and its text with blanks around it, is read as a font size. -/
lemma fontSize?_text (n : Number) {w w' : String} (before : ∀ c ∈ w.toList, isBlank c = true)
    (behind : ∀ c ∈ w'.toList, isBlank c = true) :
    ∀ shape ∈ [num n, str (w ++ n.text ++ w')], shape.fontSize? = some (withUnit n.text) := by
  obtain ⟨inked, ne⟩ := n.inked_text
  have written : n.text.toList ≠ [] := fun empty => ne (String.toList_eq_nil_iff.1 empty)
  -- a number is the case in which there are no blanks
  have surrounded {w w' : List Char} (before : ∀ c ∈ w, isBlank c = true)
      (behind : ∀ c ∈ w', isBlank c = true) {value : Json} {text : String}
      (chars : text.toList = w ++ (n.text.toList ++ w')) (given : value.scalarText? = some text) :
      value.fontSize? = some (withUnit n.text) := by
    have filled : ¬(∀ c ∈ text.toList, isBlank c = true) := by
      intro blank
      obtain ⟨c, mem⟩ := List.exists_mem_of_ne_nil _ written
      rw [chars] at blank
      have solid := inked c mem
      rw [blank c (List.mem_append_right _ (List.mem_append_left _ mem))] at solid
      cases solid
    rw [fontSize?_eq, nonBlank?_of_scalarText? given filled, Option.map_some, trimmed, chars,
      trim_surrounded written inked before behind, String.ofList_toList]
  intro shape mem
  simp only [List.mem_cons, List.not_mem_nil, or_false] at mem
  rcases mem with rfl | rfl
  · have alone : n.text.toList = [] ++ (n.text.toList ++ []) := (List.append_nil _).symm
    exact surrounded (by simp) (by simp) alone rfl
  · refine surrounded before behind ?_ rfl
    rw [String.toList_append, String.toList_append, List.append_assoc]

end Json

open Json in
/-- A number and its text, with blanks around it, give an element the same font size: in pixels
exactly if the number is bare, and otherwise the text as it is. A text is taken for a number of
pixels exactly if it is made of digits and points, blanks around it aside; the text of a bare number
is a decimal number, and so is any such text unless it has two points or no digit. -/
theorem fontSize_number_or_text (n : Number) {w w' : String}
    (before : ∀ c ∈ w.toList, isBlank c = true) (behind : ∀ c ∈ w'.toList, isBlank c = true)
    {members : List (String × Json)} (ascending : Ascending members)
    (once : ¬Element.Respelled members) :
    (∃ e : Element,
      (∀ shape ∈ [num n, str (w ++ n.text ++ w')],
        Element.ofJson? (.obj (insertMember "fontSize" shape members)) = .ok e) ∧
      ∀ size ∈ e.fontSize?,
        (size = some (n.text ++ "px") ↔ n.Bare) ∧ (size = some n.text ↔ ¬n.Bare)) ∧
    (n.Bare → IsDecimalNumber n.text) ∧
    ∀ (value : Json) (text : String), value.nonBlank? = some text →
      (value.fontSize? = some (trimmed text ++ "px") ↔ IsDecimalText (trimmed text)) ∧
      (IsDecimalText (trimmed text) → (IsDecimalNumber (trimmed text) ↔
        (trimmed text).toList.count '.' ≤ 1 ∧ ∃ c ∈ (trimmed text).toList, c.isDigit = true)) := by
  have read := fontSize?_text n before behind
  have given := read (num n) List.mem_cons_self
  have set := Element.ofJson?_setField ascending once (k := .fontSize) (by decide) (by decide)
  refine ⟨⟨Element.ofFields
    (Function.update (Element.othersOf .fontSize members) .fontSize (num n)), ?_, ?_⟩,
    Number.isDecimalNumber_text, ?_⟩
  · intro shape mem
    have alike : ElementField.fontSize.reading.Alike shape (num n) := by
      show shape.fontSize? = (num n).fontSize?
      rw [read shape mem, given]
    rw [← Element.ofFields_update_congr _ alike]
    exact set shape
  · intro size mem
    rw [Element.eq_of_mem_fontSize? _ size mem, Function.update_self, given, Option.some.injEq,
      Option.some.injEq, ← n.isDecimalText_text_iff]
    exact withUnit_eq_iff n.text
  · intro value text given
    rw [fontSize?_eq, given, Option.map_some, Option.some.injEq]
    exact ⟨(withUnit_eq_iff _).1, isDecimalNumber_iff⟩

open Json in
/-- The greatest integer of 64 bits, as a number and as a text between blanks of two kinds. -/
theorem fontSize_greatestInteger :
    (∀ c ∈ "\u00a0".toList, isBlank c = true) ∧ (∀ c ∈ " \n".toList, isBlank c = true) ∧
    Ascending [("kind", str "button")] ∧ ¬Element.Respelled [("kind", str "button")] ∧
    ∃ e : Element,
      (∀ shape ∈ [num (.int 18446744073709551615), str "\u00a018446744073709551615 \n"],
        Element.ofJson? (.obj [("fontSize", shape), ("kind", str "button")]) = .ok e) ∧
      e.fontSize? = some (some "18446744073709551615px") := by
  have before : ∀ c ∈ "\u00a0".toList, isBlank c = true := by decide
  have behind : ∀ c ∈ " \n".toList, isBlank c = true := by decide
  have ascending : Ascending [("kind", str "button")] := by decide
  have once : ¬Element.Respelled [("kind", str "button")] := by decide
  obtain ⟨⟨e, read, size⟩, -⟩ :=
    fontSize_number_or_text (.int 18446744073709551615) before behind ascending once
  refine ⟨before, behind, ascending, once, e, read, ?_⟩
  obtain ⟨-, rfl⟩ := Element.ofJson?_eq_ok_iff.1 (read _ List.mem_cons_self)
  obtain ⟨pixels, -⟩ := size _ rfl
  exact congrArg some (pixels.2 (Int.natCast_nonneg 18446744073709551615))

open Json in
/-- A negative number has no unit, and a text with two points has one. -/
theorem fontSize_negativeNumber :
    (num (.int (-5))).fontSize? = some "-5" ∧ (str "1.2.3").fontSize? = some "1.2.3px" ∧
      ¬IsDecimalNumber "1.2.3" := by
  refine ⟨rfl, by decide, ?_⟩
  rw [isDecimalNumber_iff (by decide)]
  decide

end EmailTemplate
