import EmailTemplate.Markup.Filter
import EmailTemplate.Proofs.Html.Resolve
import EmailTemplate.Proofs.Markup.Readable
import EmailTemplate.Proofs.Text.Occurrence

/-!
# Script addresses as a browser sees them

`isScriptUri` looks for a scheme in what `decodeRefs` makes of a value, a browser in what the
`spellings` of the value resolve to. The main statement, `isScriptUri_iff_spelled`, says which of
the values that a browser takes for script addresses are told from others: those whose scheme is
spelled out in front of the first reference that `decodeRefs` misses.

The two readings differ even in front of that reference, in the control characters that a browser
takes for others and in the names of two characters. They differ only where something that is in no
scheme is spelled (`canonical_resolved`), and so not before a scheme is complete.
-/

namespace EmailTemplate.Markup
open EmailTemplate.Text EmailTemplate.Html

/-- The characters of an address that tell its scheme, in small letters. -/
def canonical (cs : List Char) : List Char :=
  (cs.filter fun c => !isBlank c && !isControl c).map Char.toLower

/-- Whether an address begins with a scheme that runs script. -/
def HasScheme (cs : List Char) : Prop :=
  ∃ scheme ∈ scriptSchemes, scheme <+: canonical cs

instance (cs : List Char) : Decidable (HasScheme cs) :=
  inferInstanceAs (Decidable (∃ scheme ∈ scriptSchemes, scheme <+: canonical cs))

/-- What an address shows is told character by character. -/
lemma canonical_append (a b : List Char) : canonical (a ++ b) = canonical a ++ canonical b := by
  simp [canonical]

/-- The filter takes a value for a script address if a scheme begins what it decodes. -/
lemma isScriptUri_iff {value} :
    isScriptUri value = true ↔ HasScheme (decodeRefs (trimWhere isQuote value)) := by
  simp [isScriptUri, HasScheme, address, canonical]

/-- A character that some scheme has. -/
def inScheme (c : Char) : Bool :=
  scriptSchemes.any (·.contains c)

/-- A text that shows something and begins no scheme. -/
def Strays (cs : List Char) : Prop :=
  canonical cs ≠ [] ∧ Stops inScheme (canonical cs)

instance (cs : List Char) : Decidable (Strays cs) :=
  inferInstanceAs (Decidable (_ ∧ _))

/-- No character that a browser takes a control character for is in a scheme. -/
lemma strays_remapped : ∀ entry ∈ remappedNumbers, Strays [Char.ofNat entry.2] := by
  decide +kernel

/-- Of the names of two characters, one stands for blanks; the others begin no scheme. -/
lemma strays_named : ∀ entry ∈ namesOfTwo,
    Strays [Char.ofNat entry.2.1, Char.ofNat entry.2.2] ∨
      canonical [Char.ofNat entry.2.1, Char.ofNat entry.2.2] =
        canonical (namedChar? entry.1.toList).toList := by
  decide +kernel

/-- Both readings of a known spelling show the same, unless a browser sees what begins no scheme. -/
lemma canonical_resolved {s : Spelling} (known : s.isMissed = false) :
    Strays s.resolved ∨ canonical s.resolved = canonical s.decoded := by
  cases s with
  | plain c => exact .inr rfl
  | number n closed =>
    obtain ⟨-, referable⟩ : closed = true ∧ isReferable n = true := by
      simpa [Spelling.isMissed] using known
    have valid : (n == 0 || !decide n.isValidChar) = false := by
      rw [isReferable, Bool.and_eq_true] at referable
      obtain ⟨valid, shown⟩ := referable
      rw [valid]
      cases n with
      | zero => cases shown
      | succ n => rfl
    rw [Spelling.resolved, numberedAs, valid, Spelling.decoded]
    cases remapped : remappedNumbers.lookup n with
    | none => exact .inr rfl
    | some m =>
      obtain ⟨a, b, e, -⟩ := List.lookup_eq_some_iff.1 remapped
      exact .inl (strays_remapped (n, m) (by simp [e]))
  | named name =>
    rw [Spelling.resolved, namedText, Spelling.decoded]
    cases two : namesOfTwo.lookup (String.ofList name) with
    | none => exact .inr rfl
    | some m =>
      obtain ⟨a, b, e, -⟩ := List.lookup_eq_some_iff.1 two
      have := strays_named (String.ofList name, m) (by simp [e])
      rwa [String.toList_ofList] at this

/-- The characters of a scheme are those that some scheme has. -/
lemma inScheme_of_mem {scheme} (h : scheme ∈ scriptSchemes) : ∀ c ∈ scheme, inScheme c = true :=
  fun _ hc => List.any_eq_true.2 ⟨scheme, h, List.contains_iff_mem.2 hc⟩

/-- In front of what strays no part of a scheme is left. -/
lemma Strays.eq_nil {begun cs behind : List Char} (h : Strays cs)
    (inside : ∀ c ∈ begun, inScheme c = true) (begins : begun <+: canonical cs ++ behind) :
    begun = [] := by
  obtain ⟨shown, stop⟩ := h
  cases begun with
  | nil => rfl
  | cons d begun =>
    cases first : canonical cs with
    | nil => exact absurd first shown
    | cons _ rest =>
      rw [first] at begins stop
      obtain ⟨rfl, -⟩ := List.cons_prefix_cons.1 begins
      have foreign := stops_cons.1 stop
      rw [inside d List.mem_cons_self] at foreign
      cases foreign

/-- Where known spellings go on to a scheme for a browser, they do for `decodeRefs`, and they spell
it out for both or for none. -/
lemma spelled_alike {known : List Spelling} (h : ∀ s ∈ known, s.isMissed = false)
    {scheme behind : List Char} (inside : ∀ c ∈ scheme, inScheme c = true)
    (begins : scheme <+: canonical (known.flatMap Spelling.resolved) ++ behind) :
    scheme <+: canonical (known.flatMap Spelling.decoded) ++ behind ∧
      (scheme <+: canonical (known.flatMap Spelling.decoded) ↔
        scheme <+: canonical (known.flatMap Spelling.resolved)) := by
  induction known generalizing scheme with
  | nil => exact ⟨begins, Iff.rfl⟩
  | cons s known ih =>
    obtain ⟨here, rest⟩ := List.forall_mem_cons.1 h
    rw [List.flatMap_cons, canonical_append, List.append_assoc] at begins
    rw [List.flatMap_cons, List.flatMap_cons, canonical_append, canonical_append, List.append_assoc]
    rcases canonical_resolved here with strays | e
    · obtain rfl := strays.eq_nil inside begins
      simp
    · rw [e] at begins ⊢
      -- The scheme ends in what the first spelling stands for, or it goes on behind that.
      rcases List.prefix_or_prefix_of_prefix begins (List.prefix_append _ _) with ends | ⟨more, rfl⟩
      · have ends (cs : List Char) := ends.trans (List.prefix_append _ cs)
        exact ⟨ends _, iff_of_true (ends _) (ends _)⟩
      · rw [List.prefix_append_right_inj] at begins
        simp only [List.prefix_append_right_inj]
        exact ih rest (fun c hc => inside c (List.mem_append_right _ hc)) begins

/-- A scheme does not end in what begins with a character that no scheme has. -/
lemma hasScheme_append {front behind : List Char} (stop : Stops inScheme (canonical behind)) :
    HasScheme (front ++ behind) ↔ HasScheme front := by
  unfold HasScheme
  constructor
  · rintro ⟨scheme, mem, begins⟩
    refine ⟨scheme, mem, ?_⟩
    rw [canonical_append] at begins
    cases e : canonical behind with
    | nil => rwa [e, List.append_nil] at begins
    | cons c cs =>
      rw [e] at begins stop
      apply prefix_of_notMem begins
      intro hc
      have foreign := stops_cons.1 stop
      rw [inScheme_of_mem mem c hc] at foreign
      cases foreign
  · rintro ⟨scheme, mem, begins⟩
    rw [canonical_append]
    exact ⟨scheme, mem, begins.trans (List.prefix_append _ _)⟩

/-- No scheme is empty. -/
lemma ne_nil_of_mem : ∀ scheme ∈ scriptSchemes, scheme ≠ [] := by
  decide

/-- The first character tells a scheme. -/
lemma scheme_unique : ∀ a ∈ scriptSchemes, ∀ b ∈ scriptSchemes, a.head? = b.head? → a = b := by
  decide

/-- A text that begins with a scheme has the first character of it. -/
lemma head?_of_begins {scheme cs : List Char} (mem : scheme ∈ scriptSchemes)
    (begins : scheme <+: cs) : cs.head? = scheme.head? := by
  obtain ⟨rest, rfl⟩ := begins
  exact List.head?_append_of_ne_nil scheme (ne_nil_of_mem scheme mem)

/-- Where a text goes on with `behind` to a scheme, it begins with one if it begins with that. -/
lemma exists_scheme_iff {scheme a behind : List Char} (mem : scheme ∈ scriptSchemes)
    (begins : scheme <+: a ++ behind) : (∃ other ∈ scriptSchemes, other <+: a) ↔ scheme <+: a := by
  constructor
  · rintro ⟨other, mem', begins'⟩
    have first := head?_of_begins mem' (begins'.trans (List.prefix_append a behind))
    rw [head?_of_begins mem begins] at first
    rwa [scheme_unique scheme mem other mem' first]
  · exact fun h => ⟨scheme, mem, h⟩

/-- Where known spellings go on to a scheme that runs script, they spell it in both readings or in
none. -/
lemma hasScheme_decoded_iff {known : List Spelling} (h : ∀ s ∈ known, s.isMissed = false)
    {behind : List Char} (script : HasScheme (known.flatMap Spelling.resolved ++ behind)) :
    HasScheme (known.flatMap Spelling.decoded) ↔ HasScheme (known.flatMap Spelling.resolved) := by
  obtain ⟨scheme, mem, begins⟩ := script
  rw [canonical_append] at begins
  obtain ⟨continued, alike⟩ := spelled_alike h (inScheme_of_mem mem) begins
  rw [HasScheme, HasScheme, exists_scheme_iff mem begins, exists_scheme_iff mem continued, alike]

/-! ### The quotes around a value -/

/-- A raw value without its quotes has no quotes in front, so only those behind it are trimmed. -/
lemma trimWhere_eq {next assign value} (raw : Assigned next assign value)
    (front : Stops isQuote (unquoted value)) :
    trimWhere isQuote value = ((unquoted value).reverse.dropWhile isQuote).reverse := by
  cases raw with
  | nothing => rfl
  | @quoted _ _ body q _ _ quote =>
    have inside : unquoted (q :: body ++ [q]) = body := by
      simp [unquoted, quote]
    rw [inside] at front ⊢
    cases body with
    | nil => simp [trimWhere, quote]
    | cons c body =>
      have first := stops_cons.1 front
      simp [trimWhere, quote, first]
  | @unquoted _ _ value c _ _ quote =>
    have whole : unquoted (c :: value) = c :: value := by
      simp [unquoted, quote]
    rw [whole, trimWhere, List.dropWhile_cons_of_neg (by simp [quote])]
  | empty => rfl

/-- Trimming takes the quotes around a value and those at its end. -/
lemma unquoted_eq_append {next assign value} (raw : Assigned next assign value)
    (front : Stops isQuote (unquoted value)) :
    ∃ quotes, unquoted value = trimWhere isQuote value ++ quotes ∧
      ∀ c ∈ quotes, isQuote c = true := by
  have cut := List.takeWhile_append_dropWhile (p := isQuote) (l := (unquoted value).reverse)
  refine ⟨((unquoted value).reverse.takeWhile isQuote).reverse, ?_, ?_⟩
  · rw [trimWhere_eq raw front, ← List.reverse_append, cut, List.reverse_reverse]
  · intro c hc
    exact List.mem_takeWhile_imp (List.mem_reverse.1 hc)

/-- A quote neither ends a reference nor starts one. -/
lemma isRefBody_of_isQuote {q} (quote : isQuote q = true) : isRefBody q = true := by
  simp only [isQuote, Bool.or_eq_true, beq_iff_eq] at quote
  rcases quote with rfl | rfl <;> rfl

/-- A quote shows itself and begins no scheme. -/
lemma strays_of_isQuote {q} (quote : isQuote q = true) : Strays [q] := by
  simp only [isQuote, Bool.or_eq_true, beq_iff_eq] at quote
  rcases quote with rfl | rfl <;> decide

/-- A scheme that has not begun does not begin with a character that strays. -/
lemma Strays.stops {c} (h : Strays [c]) (cs : List Char) :
    Stops inScheme (canonical (c :: cs)) := by
  rw [← List.singleton_append, canonical_append]
  exact (stops_append_iff h.1 _).2 h.2

/-- Quotes begin no scheme. -/
lemma stops_canonical_quotes {cs : List Char} (quotes : ∀ c ∈ cs, isQuote c = true) :
    Stops inScheme (canonical cs) := by
  cases cs with
  | nil => exact stops_nil
  | cons q cs => exact (strays_of_isQuote (quotes q List.mem_cons_self)).stops cs

/-- An ampersand begins no scheme, and neither does the end of the value. -/
lemma stops_canonical_ampersand {cs : List Char} (stop : Stops (· != '&') cs) :
    Stops inScheme (canonical cs) := by
  cases cs with
  | nil => exact stops_nil
  | cons c cs =>
    obtain rfl : c = '&' := by simpa using stops_cons.1 stop
    exact Strays.stops (by decide) cs

/-- An address that begins with a scheme does not begin with a quote. -/
lemma HasScheme.stops_isQuote {cs : List Char}
    (script : HasScheme ((spellings cs).flatMap Spelling.resolved)) : Stops isQuote cs := by
  cases cs with
  | nil => exact stops_nil
  | cons c cs =>
    rw [stops_cons, Bool.eq_false_iff]
    intro quote
    have plain : c ≠ '&' := by
      rintro rfl
      cases quote
    rw [spellings_cons plain] at script
    have stop := (strays_of_isQuote quote).stops ((spellings cs).flatMap Spelling.resolved)
    have empty : HasScheme [] := (hasScheme_append stop).1 script
    obtain ⟨scheme, mem, begins⟩ := empty
    exact ne_nil_of_mem scheme mem (List.prefix_nil.1 begins)

/-- The spellings of a value in front of the first reference that is missed. -/
def knownSpellings (cs : List Char) : List Spelling :=
  (spellings cs).takeWhile (!·.isMissed)

/-- A value that a browser takes for a script address is told from others exactly if the scheme is
complete before the first reference that is missed. -/
theorem isScriptUri_iff_spelled {next assign value} (raw : Assigned next assign value)
    (script : HasScheme ((spellings (unquoted value)).flatMap Spelling.resolved)) :
    isScriptUri value = true ↔
      HasScheme ((knownSpellings (unquoted value)).flatMap Spelling.resolved) := by
  obtain ⟨quotes, whole, closed⟩ := unquoted_eq_append raw script.stops_isQuote
  obtain ⟨tail, decoded, stop⟩ := decodesTo_spellings (unquoted value)
  have known : ∀ s ∈ knownSpellings (unquoted value), s.isMissed = false := by
    intro s hs
    simpa using List.mem_takeWhile_imp hs
  have split : (spellings (unquoted value)).flatMap Spelling.resolved =
      (knownSpellings (unquoted value)).flatMap Spelling.resolved ++
        ((spellings (unquoted value)).dropWhile (!·.isMissed)).flatMap Spelling.resolved := by
    rw [← List.flatMap_append, knownSpellings, List.takeWhile_append_dropWhile]
  rw [split] at script
  -- quotes at the end and what begins with a missed reference do not complete a scheme
  calc isScriptUri value = true
      ↔ HasScheme (decodeRefs (trimWhere isQuote value)) := isScriptUri_iff
    _ ↔ HasScheme (decodeRefs (trimWhere isQuote value) ++ quotes) :=
        (hasScheme_append (stops_canonical_quotes closed)).symm
    _ ↔ HasScheme (decodeRefs (unquoted value)) := by
        rw [whole, decodeRefs_append fun c hc => isRefBody_of_isQuote (closed c hc)]
    _ ↔ HasScheme ((knownSpellings (unquoted value)).flatMap Spelling.decoded) := by
        rw [decoded]
        exact hasScheme_append (stops_canonical_ampersand stop)
    _ ↔ HasScheme ((knownSpellings (unquoted value)).flatMap Spelling.resolved) :=
        hasScheme_decoded_iff known script

/-- A value whose scheme is spelled with a number, in front of a number without a semicolon. -/
def spelledLink : List Char :=
  '"' :: "&#x6A;avascript:f&#40".toList ++ ['"']

/-- A scheme whose letters are spelled as references is told. -/
theorem isScriptUri_spelledLink :
    Assigned ['>'] ['='] spelledLink ∧
      HasScheme ((spellings (unquoted spelledLink)).flatMap Spelling.resolved) ∧
      isScriptUri spelledLink = true := by
  have raw : Assigned ['>'] ([] ++ '=' :: []) spelledLink :=
    .quoted (List.forall_mem_nil _) (List.forall_mem_nil _) rfl (by decide)
  have spelled : spellings (unquoted spelledLink) =
      .number 0x6A true :: ("avascript:f".toList.map .plain ++ [.number 40 false]) := by
    have first : readRef? "#x6A;avascript:f&#40".toList =
        some (.number 0x6A true, "avascript:f".toList ++ "&#40".toList) := by
      decide +kernel
    have last : spellings "&#40".toList = [.number 40 false] := by decide +kernel
    rw [← last, ← spellings_append (by decide), ← spellings_reference first]
    rfl
  have script : HasScheme ((spellings (unquoted spelledLink)).flatMap Spelling.resolved) := by
    rw [spelled]
    decide +kernel
  have known : HasScheme ((knownSpellings (unquoted spelledLink)).flatMap Spelling.resolved) := by
    rw [knownSpellings, spelled]
    decide +kernel
  exact ⟨raw, script, (isScriptUri_iff_spelled raw script).2 known⟩

/-- A value whose scheme begins with a number without a semicolon. -/
def unclosedLink : List Char :=
  '"' :: "&#106avascript:alert(1)".toList ++ ['"']

/-- A script address for a browser is not always told from others. -/
theorem not_isScriptUri_unclosedLink :
    Assigned ['>'] ['='] unclosedLink ∧
      HasScheme ((spellings (unquoted unclosedLink)).flatMap Spelling.resolved) ∧
      isScriptUri unclosedLink = false := by
  have raw : Assigned ['>'] ([] ++ '=' :: []) unclosedLink :=
    .quoted (List.forall_mem_nil _) (List.forall_mem_nil _) rfl (by decide)
  have spelled : spellings (unquoted unclosedLink) =
      .number 106 false :: ("avascript:alert(1)".toList.map .plain ++ spellings []) := by
    have first : readRef? "#106avascript:alert(1)".toList =
        some (.number 106 false, "avascript:alert(1)".toList ++ []) := by
      decide +kernel
    rw [← spellings_append (by decide), ← spellings_reference first]
    rfl
  have script : HasScheme ((spellings (unquoted unclosedLink)).flatMap Spelling.resolved) := by
    rw [spelled]
    decide +kernel
  exact ⟨raw, script, by decide +kernel⟩

end EmailTemplate.Markup
