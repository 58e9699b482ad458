/-!
# Names compared without case

Simple case folding, as far as a folded character can be an ASCII one: besides the ASCII capitals,
the long s folds to `s` and the Kelvin sign to `k`.
-/

namespace EmailTemplate.Text

/-- The character after simple case folding, for the characters that fold to ASCII. -/
def foldCase (c : Char) : Char :=
  if c == '\u017f' then 's' else if c == '\u212a' then 'k' else c.toLower

/-- What follows `name` in a text that starts with it, case aside; `name` is in lower case. -/
def afterName? : List Char → List Char → Option (List Char)
  | [], cs => some cs
  | _ :: _, [] => none
  | n :: name, c :: cs => if foldCase c == n then afterName? name cs else none

/-- The end of a text that matched a name is a suffix of the text. -/
theorem suffix_of_afterName? {name cs rest : List Char} (h : afterName? name cs = some rest) :
    rest <:+ cs := by
  induction name generalizing cs with
  | nil =>
    obtain rfl : cs = rest := by simpa [afterName?] using h
    exact List.suffix_refl _
  | cons n name ih =>
    cases cs with
    | nil => simp [afterName?] at h
    | cons c cs =>
      simp only [afterName?] at h
      split at h
      · exact (ih h).trans (List.suffix_cons c cs)
      · simp at h

end EmailTemplate.Text
