import EmailTemplate.Proofs.Document.Malformed

/-!
# Elements with one field set

An object in which one field of an element is set, whatever it held before, is read as the element
that has the value in this field and everything else as before (`ofJson?_setField`). Values that are
read alike in the field make the same element (`ofFields_update_congr`).
-/

namespace EmailTemplate
open Json

namespace Json
variable {key : String} {value : Json} {members : List (String × Json)}

/-- Inserting a member adds its key and no other. -/
lemma mem_keys_insertMember {other : String} :
    other ∈ (insertMember key value members).map Prod.fst ↔
      other = key ∨ other ∈ members.map Prod.fst := by
  induction members with
  | nil => simp [insertMember]
  | cons m members ih =>
    obtain ⟨k, v⟩ := m
    rw [insertMember]
    split
    case isTrue => exact List.mem_cons
    case isFalse =>
      split
      case isTrue same =>
        subst same
        simp
      case isFalse =>
        rw [List.map_cons, List.mem_cons, ih, List.map_cons, List.mem_cons]
        exact or_left_comm

/-- The values of the fields after one is set. -/
lemma Schema.valueOf_insertMember {κ : Type} [DecidableEq κ] {s : Schema κ} {k : κ}
    (ascending : Ascending members) (denoted : s.field? key = some k)
    (distinct : s.Distinct (insertMember key value members)) :
    s.valueOf (insertMember key value members) =
      Function.update (s.valueOf (removeMember key members)) k value := by
  obtain ⟨front, back, set, removed⟩ := insertMember_split ascending key value
  rw [set] at distinct ⊢
  rw [removed]
  obtain ⟨here, -, others⟩ := Schema.valueOf_split distinct denoted
  funext other
  by_cases same : other = k
  · subst same
    rw [here, Function.update_self]
  · rw [others other same, Function.update_of_ne same]

end Json

namespace Element
variable {members : List (String × Json)}

/-- Only the two spellings of the kind matter for whether an object has both. -/
lemma respelled_insertMember {key : String} {value : Json} (notKind : key ≠ "kind")
    (notType : key ≠ "type") : Respelled (insertMember key value members) ↔ Respelled members := by
  rw [Respelled, mem_keys_insertMember, mem_keys_insertMember, or_iff_right notKind.symm,
    or_iff_right notType.symm]
  rfl

/-- The fields of an element before one of them is set. -/
def othersOf (k : ElementField) (members : List (String × Json)) : ElementField → Json :=
  schema.valueOf (removeMember k.name members)

/-- An object in which a field is set is read as the element with the value in that field. -/
lemma ofJson?_setField (ascending : Ascending members) (once : ¬Respelled members)
    {k : ElementField} (notKind : k.name ≠ "kind") (notType : k.name ≠ "type") (value : Json) :
    ofJson? (.obj (insertMember k.name value members)) =
      .ok (ofFields (Function.update (othersOf k members) k value)) := by
  have keys := ascending.nodup_insertMember k.name value
  have distinct : schema.Distinct (insertMember k.name value members) := by
    apply (distinct_iff keys).2
    rwa [respelled_insertMember notKind notType]
  rw [ofJson?_eq_ok_iff]
  refine ⟨distinct, ?_⟩
  rw [Schema.valueOf_insertMember ascending (field?_name k) distinct]
  rfl

/-- Values that are read alike in a field make the same element. -/
lemma ofFields_update_congr (field : ElementField → Json) {k : ElementField} {value value' : Json}
    (alike : k.reading.Alike value value') :
    ofFields (Function.update field k value) = ofFields (Function.update field k value') := by
  apply ofFields_congr
  intro other
  by_cases same : other = k
  · subst same
    rw [Function.update_self, Function.update_self]
    exact alike
  · rw [Function.update_of_ne same, Function.update_of_ne same]
    exact .refl _ _

/-- The font size of an element, if its kind has one; it may be unset. -/
def fontSize? (e : Element) : Option (Option String) :=
  match e.kind with
  | .text props => some props.fontSize
  | .button props => some props.fontSize
  | _ => none

/-- The font styles of an element, if its kind has them. -/
def fontStyles? (e : Element) : Option FontStyles :=
  match e.kind with
  | .text props => some props.fontStyles
  | _ => none

/-- A font size that an element has is read from the field for it. -/
lemma eq_of_mem_fontSize? (field : ElementField → Json) :
    ∀ size ∈ (ofFields field).fontSize?, size = (field .fontSize).fontSize? := by
  intro size given
  rw [fontSize?, ofFields, kindOf] at given
  cases h : (KindName.ofName? (kindNameOf field)).getD .text with
  | text =>
    rw [h] at given
    exact (Option.some.inj given).symm
  | button =>
    rw [h] at given
    exact (Option.some.inj given).symm
  | _ =>
    rw [h] at given
    cases given

/-- Styles that an element has are read from the field for them. -/
lemma eq_of_mem_fontStyles? (field : ElementField → Json) :
    ∀ styles ∈ (ofFields field).fontStyles?, styles = (field .fontStyles).fontStyles := by
  intro styles given
  rw [fontStyles?, ofFields, kindOf] at given
  cases h : (KindName.ofName? (kindNameOf field)).getD .text with
  | text =>
    rw [h] at given
    exact (Option.some.inj given).symm
  | _ =>
    rw [h] at given
    cases given

end Element

end EmailTemplate
