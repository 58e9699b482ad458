import EmailTemplate.Proofs.Document.Lenient
import EmailTemplate.Proofs.Text.Numeral

/-!
# Integers in template files

A property that is a whole number may be given as a number or as a string that begins with one, and
comes out the same, with one exception: the least integer is read from a number only, since the
digits of a string are read before its sign and must be in range by themselves. The main statement
is `integer_either_form`.
-/

namespace EmailTemplate
open Text

namespace Json

/-- What `integerPrefix?` reads: a numeral behind blanks and a sign, if the numeral by itself is in
the positive range. -/
lemma integerPrefix?_numeral {w sign rest : List Char} (blank : ∀ c ∈ w, isBlank c = true)
    (mem : sign ∈ [[], ['+'], ['-']]) (a : Numeral) (stop : Stops Char.isDigit rest) :
    integerPrefix? (String.ofList (w ++ (sign ++ (a.digits ++ rest)))) =
      if maxInteger < a.value then none
      else some (if sign = ['-'] then -(a.value : Int) else a.value) := by
  have taken : (a.digits ++ rest).takeWhile Char.isDigit = a.digits :=
    takeWhile_append_stops a.isDigit stop
  have solid : Stops isBlank (a.digits ++ rest) := a.stops_digits (fun _ => isBlank_of_isDigit) rest
  have filled : a.digits.isEmpty = false := List.isEmpty_eq_false_iff.2 a.ne_nil
  simp only [List.mem_cons, List.not_mem_nil, or_false] at mem
  rw [integerPrefix?, String.toList_ofList, trimStart]
  rcases mem with rfl | rfl | rfl
  · rw [List.nil_append, dropWhile_append_stops blank solid]
    simp only [a.head?_beq_eq_false (s := '-') rfl, a.head?_beq_eq_false (s := '+') rfl,
      Bool.or_self, Bool.false_eq_true, if_false, taken, filled, a.foldl_digits]
    simp
  · have solid : Stops isBlank (['+'] ++ (a.digits ++ rest)) := stops_cons.2 rfl
    rw [dropWhile_append_stops blank solid]
    simp [taken, filled, a.foldl_digits]
  · have solid : Stops isBlank (['-'] ++ (a.digits ++ rest)) := stops_cons.2 rfl
    rw [dropWhile_append_stops blank solid]
    simp [taken, filled, a.foldl_digits]

/-- A printed integer is read back, whatever stands around it that is no part of it, if its digits
are in the positive range. -/
lemma integerPrefix?_toString (n : Int) {w rest : String}
    (blank : ∀ c ∈ w.toList, isBlank c = true) (stop : Stops Char.isDigit rest.toList) :
    integerPrefix? (w ++ toString n ++ rest) = if maxInteger < n.natAbs then none else some n := by
  have text (sign : List Char) (a : Numeral) (printed : (toString n).toList = sign ++ a.digits) :
      w ++ toString n ++ rest =
        String.ofList (w.toList ++ (sign ++ (a.digits ++ rest.toList))) := by
    rw [← String.toList_inj, String.toList_ofList, String.toList_append, String.toList_append,
      printed]
    simp
  cases n with
  | ofNat m =>
    rw [text [] (.ofNat m) (Numeral.digits_ofNat m).symm,
      integerPrefix?_numeral blank (by decide) _ stop, Numeral.value_ofNat]
    rfl
  | negSucc m =>
    have printed : (toString (Int.negSucc m)).toList = ['-'] ++ (Numeral.ofNat (m + 1)).digits := by
      rw [Numeral.digits_ofNat]
      exact String.toList_append
    rw [text ['-'] (.ofNat (m + 1)) printed, integerPrefix?_numeral blank (by decide) _ stop,
      Numeral.value_ofNat]
    rfl

end Json

/-- The fields that hold the padding of one side each. -/
def ElementField.sides : List ElementField :=
  [paddingTop, paddingRight, paddingBottom, paddingLeft]

namespace Element
open Json

/-- The fields of an element that hold integers, as far as its kind has them. -/
def integerFields (e : Element) : List ElementField :=
  ElementField.sides ++
    match e.kind with
    | .image _ => [.imageWidth, .imageHeight, .borderRadius]
    | .socialIcon _ => [.socialSize]
    | _ => []

/-- The integer that an element has for a field. -/
def integerAt? (e : Element) (k : ElementField) : Option Int :=
  match k, e.kind with
  | .paddingTop, _ => e.frame.padding.top
  | .paddingRight, _ => e.frame.padding.right
  | .paddingBottom, _ => e.frame.padding.bottom
  | .paddingLeft, _ => e.frame.padding.left
  | .imageWidth, .image props => props.width
  | .imageHeight, .image props => props.height
  | .borderRadius, .image props => props.borderRadius
  | .socialSize, .socialIcon props => props.size
  | _, _ => none

/-- A side has its own padding, or else the common one. -/
lemma integerAt?_side (field : ElementField → Json) {side : ElementField}
    (mem : side ∈ ElementField.sides) :
    (ofFields field).integerAt? side = (field side).integer?.or (field .padding).integer? := by
  simp only [ElementField.sides, List.mem_cons, List.not_mem_nil, or_false] at mem
  rcases mem with rfl | rfl | rfl | rfl
  · rfl
  · rfl
  · rfl
  · rfl

/-- An integer given for a field is the one that the element has for it. -/
lemma integerAt?_ofFields {field : ElementField → Json} {k : ElementField} {n : Int}
    (mem : k ∈ (ofFields field).integerFields) (given : (field k).integer? = some n) :
    (ofFields field).integerAt? k = some n := by
  rcases List.mem_append.1 mem with side | size
  · rw [integerAt?_side field side, given, Option.some_or]
  · simp only [ofFields, kindOf] at size ⊢
    generalize (KindName.ofName? (kindNameOf field)).getD .text = kind at size ⊢
    cases kind with
    | image =>
      simp only [List.mem_cons, List.not_mem_nil, or_false] at size
      rcases size with rfl | rfl | rfl
      · exact given
      · exact given
      · exact given
    | socialIcon =>
      rw [List.mem_singleton] at size
      subst size
      exact given
    | text => cases size
    | button => cases size
    | divider => cases size
    | rawMarkup => cases size

/-- A side whose own member holds no integer, if it has one, has the common padding. -/
lemma integerAt?_padding {members : List (String × Json)} {e : Element} {value : Json} {n : Int}
    (ok : ofJson? (.obj members) = .ok e) (mem : ("padding", value) ∈ members)
    (given : value.integer? = some n) {side : ElementField} (isSide : side ∈ ElementField.sides)
    (unset : ∀ own, (side.name, own) ∈ members → own.integer? = none) :
    e.integerAt? side = some n := by
  obtain ⟨distinct, rfl⟩ := ofJson?_eq_ok_iff.1 ok
  have own : (schema.valueOf members side).integer? = none := by
    obtain ⟨key, member, field⟩ | null := Schema.valueOf_cases (s := schema) members side
    · obtain rfl | ⟨-, rfl⟩ := field?_eq_some field
      · exact unset _ member
      · exact absurd isSide (by decide)
    · rw [null]
      rfl
  have common := Schema.valueOf_of_mem distinct mem (field?_name .padding)
  rw [integerAt?_side _ isSide, own, common, given, Option.none_or]

end Element

open Json in
/-- An integer is read the same from a number and from a string that begins with it, behind blanks
and in front of anything but a digit, unless it is the least one: the string then gives nothing.
An element has the integer that is given for a field, in either form, and its sides have the one
that is given for all of them where they have none of their own. -/
theorem integer_either_form {n : Int} (low : minInteger ≤ n) (high : n ≤ maxInteger)
    {w rest : String} (blank : ∀ c ∈ w.toList, isBlank c = true)
    (stop : Stops Char.isDigit rest.toList) :
    (num (.int n)).integer? = some n ∧
    ((str (w ++ toString n ++ rest)).integer? = some n ↔ n ≠ minInteger) ∧
    ∀ value : Json, value.integer? = some n → ∀ members e,
      Element.ofJson? (.obj members) = .ok e →
      (∀ k ∈ e.integerFields, (k.name, value) ∈ members → e.integerAt? k = some n) ∧
      (("padding", value) ∈ members → ∀ side ∈ ElementField.sides,
        (∀ own, (side.name, own) ∈ members → own.integer? = none) →
          e.integerAt? side = some n) := by
  refine ⟨?_, ?_, ?_⟩
  · rw [integer?, clamp, Int.min_eq_right high, Int.max_eq_right low]
  · rw [integer?, integerPrefix?_toString n blank stop]
    have range : minInteger = -maxInteger - 1 := by decide
    -- the size must fit before the sign is looked at, and that of the least integer does not
    by_cases beyond : maxInteger < n.natAbs
    · rw [if_pos beyond]
      refine iff_of_false (Option.some_ne_none n).symm ?_
      omega
    · rw [if_neg beyond]
      refine iff_of_true rfl ?_
      omega
  · intro value given members e ok
    constructor
    · intro k mem member
      obtain ⟨distinct, rfl⟩ := Element.ofJson?_eq_ok_iff.1 ok
      have found := Schema.valueOf_of_mem distinct member (Element.field?_name k)
      exact Element.integerAt?_ofFields mem (by rw [found, given])
    · intro member side isSide unset
      exact Element.integerAt?_padding ok member given isSide unset

/-- An image whose width and padding are strings with an integer near the end of the range. -/
def wideImage : List (String × Json) :=
  [("imageWidth", .str "\u00a0 -9223372036854775807px"), ("kind", .str "image"),
    ("padding", .str "\u00a0 -9223372036854775807px"), ("paddingTop", .str "px")]

open Json in
/-- The integer after the least one, with blanks before it and a unit behind, is read as a width and
as a padding. -/
theorem integer_wideImage :
    minInteger ≤ minInteger + 1 ∧ minInteger + 1 ≤ maxInteger ∧
    (∀ c ∈ "\u00a0 ".toList, isBlank c = true) ∧ Stops Char.isDigit "px".toList ∧
    (str ("\u00a0 " ++ toString (minInteger + 1) ++ "px")).integer? = some (minInteger + 1) ∧
    ∃ e, Element.ofJson? (.obj wideImage) = .ok e ∧
      e.integerAt? .imageWidth = some (minInteger + 1) ∧
      e.integerAt? .paddingTop = some (minInteger + 1) := by
  have low : minInteger ≤ minInteger + 1 := by decide
  have high : minInteger + 1 ≤ maxInteger := by decide
  have blank : ∀ c ∈ "\u00a0 ".toList, isBlank c = true := by decide
  have stop : Stops Char.isDigit "px".toList := by decide
  obtain ⟨-, text, given⟩ := integer_either_form low high blank stop
  have string := text.2 (by decide)
  have distinct : Element.schema.Distinct wideImage := by decide
  have read := Element.ofJson?_eq_ok_iff.2 ⟨distinct, rfl⟩
  obtain ⟨own, common⟩ := given _ string wideImage _ read
  refine ⟨low, high, blank, stop, string, _, read, ?_, ?_⟩
  · exact own .imageWidth (by decide) List.mem_cons_self
  · have third : ("padding", str ("\u00a0 " ++ toString (minInteger + 1) ++ "px")) ∈ wideImage :=
      List.mem_cons_of_mem _ (List.mem_cons_of_mem _ List.mem_cons_self)
    refine common third .paddingTop List.mem_cons_self ?_
    intro unread mem
    obtain rfl : unread = str "px" := by simpa [wideImage, ElementField.name] using mem
    decide

open Json in
/-- The least integer is not read from its own text. -/
theorem integer_leastText :
    (num (.int minInteger)).integer? = some minInteger ∧
    (str (toString minInteger)).integer? = none := by
  decide

end EmailTemplate
