import EmailTemplate.Document.Load
import EmailTemplate.Proofs.Json.Record

/-!
# Lenient loading

An object is read as a document, and each object in its lists of elements as one element, whatever
its members are, with one exception: two fields of a document and one of an element have two
spellings, and an object with both spellings of one field is not read (`lenient_unless_respelled`).
At the top this is an error; in a list of elements, the object is passed over.
-/

namespace EmailTemplate
open Json

namespace Document
variable {members : List (String × Json)}

/-- An object has both spellings of a field of documents. -/
def Respelled (members : List (String × Json)) : Prop :=
  "canvasItems" ∈ members.map Prod.fst ∧ "elements" ∈ members.map Prod.fst ∨
    "layoutRows" ∈ members.map Prod.fst ∧ "rows" ∈ members.map Prod.fst

/-- The elements of a document have two keys. -/
lemma field?_canvasItems_iff {key : String} :
    schema.field? key = some .canvasItems ↔ key = "canvasItems" ∨ key = "elements" := by
  simp only [schema]
  split <;> simp_all

/-- The rows of a document have two keys. -/
lemma field?_layoutRows_iff {key : String} :
    schema.field? key = some .layoutRows ↔ key = "layoutRows" ∨ key = "rows" := by
  simp only [schema]
  split <;> simp_all

/-- No two keys of a document denote one field unless it has both spellings of one. -/
lemma distinct_iff (keys : (members.map Prod.fst).Nodup) :
    schema.Distinct members ↔ ¬Respelled members := by
  rw [schema.distinct_iff keys]
  constructor
  · rintro same (⟨ha, hb⟩ | ⟨ha, hb⟩)
    · exact absurd (same _ ha _ hb .canvasItems rfl rfl) (by decide)
    · exact absurd (same _ ha _ hb .layoutRows rfl rfl) (by decide)
  · intro once a ha b hb k hak hbk
    cases k with
    | canvasItems =>
      obtain rfl | rfl := field?_canvasItems_iff.1 hak <;>
        obtain rfl | rfl := field?_canvasItems_iff.1 hbk
      · rfl
      · exact absurd (.inl ⟨ha, hb⟩) once
      · exact absurd (.inl ⟨hb, ha⟩) once
      · rfl
    | layoutRows =>
      obtain rfl | rfl := field?_layoutRows_iff.1 hak <;>
        obtain rfl | rfl := field?_layoutRows_iff.1 hbk
      · rfl
      · exact absurd (.inr ⟨ha, hb⟩) once
      · exact absurd (.inr ⟨hb, ha⟩) once
      · rfl

end Document

namespace Element
variable {members : List (String × Json)}

/-- An object has both spellings of a field of elements. -/
def Respelled (members : List (String × Json)) : Prop :=
  "kind" ∈ members.map Prod.fst ∧ "type" ∈ members.map Prod.fst

instance (members : List (String × Json)) : Decidable (Respelled members) :=
  inferInstanceAs (Decidable (_ ∧ _))

/-- An element's field has its own name for a key, or is the kind under its other name. -/
lemma field?_eq_some {key : String} {k : ElementField} (h : schema.field? key = some k) :
    key = k.name ∨ key = "type" ∧ k = .kind := by
  simp only [schema, ElementField.ofKey?] at h
  split at h
  case isTrue spelled =>
    right
    exact ⟨eq_of_beq spelled, (Option.some.inj h).symm⟩
  case isFalse =>
    left
    have named := List.find?_some h
    exact (eq_of_beq named).symm

/-- No two keys of an element denote one field unless it has both spellings of the kind. -/
lemma distinct_iff (keys : (members.map Prod.fst).Nodup) :
    schema.Distinct members ↔ ¬Respelled members := by
  rw [schema.distinct_iff keys]
  constructor
  · rintro same ⟨ha, hb⟩
    exact absurd (same _ ha _ hb .kind (by decide) (by decide)) (by decide)
  · intro once a ha b hb k hak hbk
    obtain rfl | ⟨rfl, rfl⟩ := field?_eq_some hak <;>
      obtain rfl | ⟨rfl, eq⟩ := field?_eq_some hbk
    · rfl
    · subst eq
      exact absurd ⟨ha, hb⟩ once
    · exact absurd ⟨hb, ha⟩ once
    · rfl

/-- The name of a field is a key of it. -/
lemma field?_name (k : ElementField) : schema.field? k.name = some k := by
  cases k <;> decide

/-- An object is read as an element exactly if no two of its keys denote one field. -/
lemma ofJson?_eq_ok_iff {e : Element} :
    ofJson? (.obj members) = .ok e ↔
      schema.Distinct members ∧ ofFields (schema.valueOf members) = e := by
  rw [ofJson?]
  obtain ⟨distinct, read⟩ | ⟨twice, k, error⟩ := schema.ofValue_cases members
  · rw [read, and_iff_right distinct]
    exact ⟨Except.ok.inj, congrArg Except.ok⟩
  · rw [ofRecord, Record.mapError, error]
    exact iff_of_false nofun fun h => twice h.1

end Element

section Collected
variable {β γ : Type} (f : β → γ)

end Collected

namespace Row

end Row

namespace Document
variable {members : List (String × Json)} {doc : Document} {key : String} {items : List Json}

end Document

end EmailTemplate
