import EmailTemplate.Document.Load
import EmailTemplate.Proofs.Json.RecordText

/-!
# Documents from texts and from values

A template can be given as a text or as a JSON value. Loading the text as it is read and loading the
value that it holds come to the same (`ofText?_eq_ofJson?`).
-/

namespace EmailTemplate.Document
open Json

/-- Readings that agree make up the same document, or fail alike. -/
lemma toOption_ofRecord {ε ε' : Type} {r : Record DocumentField ε} {r' : Record DocumentField ε'}
    (h : r.Agrees r') : (ofRecord r).toOption = (ofRecord r').toOption := by
  obtain ⟨errors, same⟩ := h
  rw [ofRecord, ofRecord]
  cases error : r.error with
  | none =>
    rw [errors.1 error, same error]
    rfl
  | some e =>
    cases error' : r'.error with
    | none =>
      rw [errors.2 error'] at error
      cases error
    | some e' => rfl

/-- A text is loaded as a document exactly if the value that it holds is, and as the same one. -/
theorem ofText?_eq_ofJson? {text : String} {value : Json} (holds : Json.ofText? text = .ok value)
    (once : ((writtenMembers text.toList).map Prod.fst).Nodup) :
    (ofText? text).toOption = (ofJson? value).toOption := by
  have agrees := schema.ofText_agrees holds once
  apply toOption_ofRecord
  exact agrees.trans (Record.agrees_mapError _ _)

/-- A template of one button, with a field that documents do not have. -/
def buttonTemplate : String :=
  "\x7b\"rows\": null, \"note\": [true, \x7b\x7d], \"elements\": [\x7b\"type\": \"button\"\x7d]\x7d"

/-- The value that the template holds, its members in the order of their keys. -/
def buttonValue : Json :=
  .obj
    [ ("elements", .arr [.obj [("type", .str "button")]]),
      ("note", .arr [.bool true, .obj []]),
      ("rows", .null) ]

/-- The button is loaded from the text and from the value, and the two documents are the same. -/
theorem ofText?_buttonTemplate :
    Json.ofText? buttonTemplate = .ok buttonValue ∧
      ((writtenMembers buttonTemplate.toList).map Prod.fst).Nodup ∧
      (ofText? buttonTemplate).toOption.isSome = true ∧
      (ofText? buttonTemplate).toOption = (ofJson? buttonValue).toOption := by
  have holds : Json.ofText? buttonTemplate = .ok buttonValue := by cbv
  have once : ((writtenMembers buttonTemplate.toList).map Prod.fst).Nodup := by decide +kernel
  have loads : (ofText? buttonTemplate).toOption.isSome = true := by decide +kernel
  exact ⟨holds, once, loads, ofText?_eq_ofJson? holds once⟩

end EmailTemplate.Document
