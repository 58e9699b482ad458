import EmailTemplate.Markup.Sanitize
import EmailTemplate.Proofs.Markup.Pruned
import EmailTemplate.Proofs.Markup.Stripping

/-!
# What a bracket opens in sanitized markup

Stripping leaves no forbidden tag that a `>` ends, and filtering drops what is left open at the end.
Between them nothing is opened in sanitized markup: the main statement, `openings_sanitize`, is that
no `<` stands before the name of a forbidden element, and none that is closed before the name of a
declaration. The names are compared as stripping compares them, so that a long s counts as an `s`;
no start tag begins with one, and filtering leaves it where it stands.
-/

namespace EmailTemplate.Markup
open EmailTemplate.Text

/-- The elements whose tags raw markup must not hold. -/
def elementNames : List String :=
  ["head", "style", "script", "html", "body", "meta", "title"]

/-- The declarations that raw markup must not hold. -/
def declarationNames : List String :=
  ["!doctype", "?xml"]

/-- A `<` in a text, right before one of the names at a word's end; `rest` follows the `<`, and
`after` follows the name. -/
structure Opening (names : List String) (cs rest after : List Char) : Prop where
  suffix : ('<' :: rest) <:+ cs
  name : ∃ name ∈ names, afterName? name.toList rest = some after ∧ atWordEnd after = true

/-- Where a bracket stands, it is found. -/
lemma isSome_afterBracket? {cs : List Char} (h : '>' ∈ cs) : (afterBracket? cs).isSome = true := by
  have ne : cs.dropWhile (· != '>') ≠ [] := fun e => by
    simpa using List.dropWhile_eq_nil_iff.1 e '>' h
  unfold afterBracket?
  split
  case h_1 e => exact absurd e ne
  case h_2 => rfl

/-- A token is found where its name stands at a word's end and a bracket follows. -/
lemma isSome_afterToken? {names : List (List Char)} {name cs u} (mem : name ∈ names)
    (hu : afterName? name cs = some u) (word : atWordEnd u = true) (bracket : '>' ∈ u) :
    (afterToken? names cs).isSome = true := by
  rw [afterToken?, List.findSome?_isSome_iff]
  exact ⟨name, mem, by simp [hu, word, isSome_afterBracket? bracket]⟩

/-- A forbidden name that a bracket follows is the start of a forbidden construct. -/
lemma exists_opens {name rest u} (mem : name ∈ elementNames ++ declarationNames)
    (hu : afterName? name.toList rest = some u) (word : atWordEnd u = true) (bracket : '>' ∈ u) :
    ∃ p ∈ forbidden, p.opens ('<' :: rest) = true := by
  by_cases block : name ∈ ["head", "style", "script"]
  · refine ⟨element name, ?_, ?_⟩
    · simp only [List.mem_cons, List.not_mem_nil, or_false] at block
      rcases block with rfl | rfl | rfl <;> simp [forbidden]
    · have some := isSome_afterToken? (List.mem_singleton_self _) hu word bracket
      simp [Construct.opens, element, some]
  · refine ⟨token ["!doctype", "?xml", "html", "/html", "body", "/body", "meta", "/meta", "title",
      "/title"], by simp [forbidden], ?_⟩
    have mem : name ∈ ["!doctype", "?xml", "html", "/html", "body", "/body", "meta", "/meta",
        "title", "/title"] := by
      simp only [elementNames, declarationNames, List.cons_append, List.nil_append, List.mem_cons,
        List.not_mem_nil, or_false, not_or] at mem block ⊢
      tauto
    have some := isSome_afterToken? (List.mem_map_of_mem mem) hu word bracket
    simp only [Construct.opens, token, some]
    rfl

/-- What follows a name holds the brackets of the text, since the name has none. -/
lemma bracket_mem_afterName? {name cs u} (plain : ∀ n ∈ name, isDelim n = false)
    (hu : afterName? name cs = some u) (mem : '>' ∈ cs) : '>' ∈ u := by
  induction name generalizing cs with
  | nil =>
    cases hu
    exact mem
  | cons n name ih =>
    cases cs with
    | nil => simp [afterName?] at hu
    | cons c cs =>
      rw [afterName?] at hu
      split at hu
      case isFalse => simp at hu
      case isTrue hn =>
        refine ih (fun m hm => plain m (List.mem_cons_of_mem n hm)) hu ?_
        rcases List.mem_cons.1 mem with rfl | mem
        · have e : '>' = n := by simpa [show foldCase '>' = '>' from by decide] using hn
          exact absurd (plain n List.mem_cons_self) (by rw [← e]; decide)
        · exact mem

/-- A letter that is no capital is its own small letter. -/
lemma toLower_of_not_isUpper {c : Char} (h : ¬ c.isUpper = true) : c.toLower = c :=
  dif_neg fun capital => h (decide_eq_true capital)

/-- A character that folds to a small letter is a letter, a long s or the Kelvin sign. -/
lemma isAlpha_of_foldCase {c : Char} (h : (foldCase c).isLower = true) :
    c = '\u017f' ∨ c = '\u212a' ∨ c.isAlpha = true := by
  unfold foldCase at h
  split at h
  case isTrue e => exact .inl (by simpa using e)
  case isFalse =>
    split at h
    case isTrue e => exact .inr (.inl (by simpa using e))
    case isFalse =>
      refine .inr (.inr ?_)
      change (c.isUpper || c.isLower) = true
      by_cases upper : c.isUpper = true
      · rw [upper, Bool.true_or]
      · rw [toLower_of_not_isUpper upper] at h
        rw [h, Bool.or_true]

/-- A forbidden element's name begins with a long s or with a letter. -/
lemma startsWithLetter_of_afterName? {name cs u} (mem : name ∈ elementNames)
    (hu : afterName? name.toList cs = some u) :
    cs.head? = some 'ſ' ∨ startsWithLetter cs = true := by
  -- no name begins with a `k`, which the Kelvin sign is folded to
  have small : ∀ name ∈ elementNames,
      (name.toList.head?.any fun n => n.isLower && n != 'k') := by
    decide
  obtain ⟨n, hn, first⟩ := (Option.any_eq_true _ _).1 (small name mem)
  obtain ⟨ns, e⟩ : ∃ ns, name.toList = n :: ns := List.head?_eq_some_iff.1 hn
  have ⟨lower, ne⟩ : n.isLower = true ∧ n ≠ 'k' := by simpa using first
  cases cs with
  | nil => simp [e, afterName?] at hu
  | cons c cs =>
    rw [e, afterName?] at hu
    split at hu
    case isFalse => simp at hu
    case isTrue fold =>
      have fold : foldCase c = n := by simpa using fold
      rcases isAlpha_of_foldCase (fold ▸ lower) with rfl | kelvin | alpha
      · exact .inl rfl
      · rw [kelvin] at fold
        exact absurd fold.symm ne
      · exact .inr alpha

/-- No forbidden name has a delimiter in it. -/
lemma isDelim_of_mem_names {name} (mem : name ∈ elementNames ++ declarationNames) :
    ∀ n ∈ name.toList, isDelim n = false := by
  have all : ∀ name ∈ elementNames ++ declarationNames,
      ∀ n ∈ name.toList, isDelim n = false := by
    decide
  exact all name mem

/-- An opening in sanitized markup stood in the stripped markup, where no bracket follows it. -/
lemma exists_opening_strip {names cs rest after}
    (mem : ∀ name ∈ names, name ∈ elementNames ++ declarationNames)
    (h : Opening names (filterTags (strip cs)) rest after) :
    ∃ rest', Pruned false rest' rest ∧ startsWithLetter rest' = false ∧ '>' ∉ after := by
  obtain ⟨name, hname, hu, word⟩ := h.name
  have plain := isDelim_of_mem_names (mem name hname)
  obtain ⟨rest', suffix, pruned, open?⟩ := (pruned_filterTags (strip cs)).exists_source h.suffix
  obtain ⟨after', hu', pruned'⟩ := pruned.afterName? plain hu
  -- a bracket behind the name would have made a forbidden construct of it, and none is left
  have none : '>' ∉ after' := fun bracket => by
    obtain ⟨p, hp, opens⟩ := exists_opens (mem name hname) hu' (pruned'.atWordEnd word) bracket
    simp [absent_strip cs p hp _ suffix] at opens
  refine ⟨rest', pruned, ?_, fun bracket => none (pruned'.bracket_mem bracket)⟩
  by_contra letter
  exact none (bracket_mem_afterName? plain hu' (open? (by simpa using letter)))

/-- Pruning makes no letter stand where none stood, unless a delimiter is in front. -/
lemma Pruned.startsWithLetter {source pruned} (h : Pruned false source pruned)
    (letter : Markup.startsWithLetter pruned = true) : Markup.startsWithLetter source = true := by
  cases h with
  | done => simp [Markup.startsWithLetter] at letter
  | keep => exact letter
  | release _ stop _ =>
    cases pruned with
    | nil => simp [Markup.startsWithLetter] at letter
    | cons c pruned =>
      have alpha : c.isAlpha = false := isAlpha_of_isDelim (by simpa using stop)
      simp [Markup.startsWithLetter, alpha] at letter

/-- A forbidden element's name behind a `<` is spelled with a long s in sanitized markup. -/
lemma long_of_opening_sanitize {m rest after}
    (h : Opening elementNames (sanitize m).toList rest after) :
    '>' ∉ after ∧ rest.head? = some 'ſ' := by
  rw [sanitize, String.toList_ofList] at h
  obtain ⟨rest', pruned, letter, none⟩ :=
    exists_opening_strip (fun _ => List.mem_append_left declarationNames) h
  obtain ⟨name, mem, hu, -⟩ := h.name
  refine ⟨none, (startsWithLetter_of_afterName? mem hu).resolve_right fun alpha => ?_⟩
  simp [pruned.startsWithLetter alpha] at letter

/-- In sanitized markup a `<` stands before a forbidden element's name only if the name is spelled
with a long s in front and no bracket follows; where it stands before a declaration's name, no
bracket follows either. -/
theorem openings_sanitize (m : String) (rest after : List Char) :
    (Opening elementNames (sanitize m).toList rest after →
      '>' ∉ after ∧ rest.head? = some 'ſ') ∧
    (Opening declarationNames (sanitize m).toList rest after → '>' ∉ after) := by
  refine ⟨long_of_opening_sanitize, fun h => ?_⟩
  rw [sanitize, String.toList_ofList] at h
  obtain ⟨-, -, -, none⟩ := exists_opening_strip (fun _ => List.mem_append_right elementNames) h
  exact none

/-- A script's name with a long s, and a declaration that is never closed. -/
def unclosedMarkup : String :=
  "<ſcript <!doctype"

/-- Without a bracket in it nothing is stripped, and without a readable tag nothing is filtered. -/
lemma sanitize_unclosedMarkup : sanitize unclosedMarkup = unclosedMarkup := by
  have stripped : strip unclosedMarkup.toList = unclosedMarkup.toList :=
    strip_eq_self_iff.2 (by decide)
  have filtered : filterTags unclosedMarkup.toList = unclosedMarkup.toList := by
    simp [unclosedMarkup, filterTags, pieces, startsWithLetter, Piece.filtered]
  rw [sanitize, sanitizeChars, stripped, filtered, String.ofList_toList]

/-- The long s opens a script, as the names are compared. -/
lemma opening_longScript :
    Opening elementNames (sanitize unclosedMarkup).toList "ſcript <!doctype".toList
      " <!doctype".toList := by
  rw [sanitize_unclosedMarkup]
  exact ⟨⟨[], rfl⟩, "script", by decide, by decide, by decide⟩

/-- An unclosed declaration stays. -/
lemma opening_unclosedDoctype :
    Opening declarationNames (sanitize unclosedMarkup).toList "!doctype".toList [] := by
  rw [sanitize_unclosedMarkup]
  exact ⟨⟨"<ſcript ".toList, rfl⟩, "!doctype", by decide, by decide, by decide⟩

/-- The name with a long s is left where it stands. -/
theorem exists_opening_unclosedMarkup :
    ∃ rest after, Opening elementNames (sanitize unclosedMarkup).toList rest after :=
  ⟨_, _, opening_longScript⟩

/-- Both names are left, and no bracket follows them. -/
theorem openings_unclosedMarkup :
    ('>' ∉ " <!doctype".toList ∧ "ſcript <!doctype".toList.head? = some 'ſ') ∧
    '>' ∉ ([] : List Char) :=
  ⟨(openings_sanitize _ _ _).1 opening_longScript,
    (openings_sanitize _ _ _).2 opening_unclosedDoctype⟩

end EmailTemplate.Markup
