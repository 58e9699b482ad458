import EmailTemplate.Proofs.Html.Decode

/-!
# References as a browser resolves them

In an attribute value a browser resolves more references than `decodeRefs` does: a number may stand
without a semicolon, and it may denote any control character. `spellings` cuts a value into the
characters and references that a browser finds in it. The main statement, `decodesTo_spellings`, is
that `decodeRefs` reads the value as a browser does up to the first reference that it misses, which
it leaves as it stands.
-/

namespace EmailTemplate.Html
open EmailTemplate.Text

/-- The numbers of control characters that a browser takes for other characters. -/
def remappedNumbers : List (Nat × Nat) :=
  [(0x80, 0x20AC), (0x82, 0x201A), (0x83, 0x192), (0x84, 0x201E), (0x85, 0x2026), (0x86, 0x2020),
   (0x87, 0x2021), (0x88, 0x2C6), (0x89, 0x2030), (0x8A, 0x160), (0x8B, 0x2039), (0x8C, 0x152),
   (0x8E, 0x17D), (0x91, 0x2018), (0x92, 0x2019), (0x93, 0x201C), (0x94, 0x201D), (0x95, 0x2022),
   (0x96, 0x2013), (0x97, 0x2014), (0x98, 0x2DC), (0x99, 0x2122), (0x9A, 0x161), (0x9B, 0x203A),
   (0x9C, 0x153), (0x9E, 0x17E), (0x9F, 0x178)]

/-- The character that a browser puts in the place of a number; the replacement character stands for
a number that is no character's. -/
def numberedAs (n : Nat) : Char :=
  if n == 0 || !decide n.isValidChar then '\ufffd'
  else Char.ofNat ((remappedNumbers.lookup n).getD n)

/-- The names that stand for two characters, with the numbers of these. -/
def namesOfTwo : List (String × Nat × Nat) :=
  [("NotEqualTilde", 0x2242, 0x338), ("NotGreaterFullEqual", 0x2267, 0x338),
   ("NotGreaterGreater", 0x226B, 0x338), ("NotGreaterSlantEqual", 0x2A7E, 0x338),
   ("NotHumpDownHump", 0x224E, 0x338), ("NotHumpEqual", 0x224F, 0x338),
   ("NotLeftTriangleBar", 0x29CF, 0x338), ("NotLessLess", 0x226A, 0x338),
   ("NotLessSlantEqual", 0x2A7D, 0x338), ("NotNestedGreaterGreater", 0x2AA2, 0x338),
   ("NotNestedLessLess", 0x2AA1, 0x338), ("NotPrecedesEqual", 0x2AAF, 0x338),
   ("NotRightTriangleBar", 0x29D0, 0x338), ("NotSquareSubset", 0x228F, 0x338),
   ("NotSquareSuperset", 0x2290, 0x338), ("NotSubset", 0x2282, 0x20D2),
   ("NotSucceedsEqual", 0x2AB0, 0x338), ("NotSucceedsTilde", 0x227F, 0x338),
   ("NotSuperset", 0x2283, 0x20D2), ("ThickSpace", 0x205F, 0x200A), ("acE", 0x223E, 0x333),
   ("bne", 0x3D, 0x20E5), ("bnequiv", 0x2261, 0x20E5), ("caps", 0x2229, 0xFE00),
   ("cups", 0x222A, 0xFE00), ("fjlig", 0x66, 0x6A), ("gesl", 0x22DB, 0xFE00),
   ("gvertneqq", 0x2269, 0xFE00), ("gvnE", 0x2269, 0xFE00), ("lates", 0x2AAD, 0xFE00),
   ("lesg", 0x22DA, 0xFE00), ("lvertneqq", 0x2268, 0xFE00), ("lvnE", 0x2268, 0xFE00),
   ("nGg", 0x22D9, 0x338), ("nGt", 0x226B, 0x20D2), ("nGtv", 0x226B, 0x338),
   ("nLl", 0x22D8, 0x338), ("nLt", 0x226A, 0x20D2), ("nLtv", 0x226A, 0x338),
   ("nang", 0x2220, 0x20D2), ("napE", 0x2A70, 0x338), ("napid", 0x224B, 0x338),
   ("nbump", 0x224E, 0x338), ("nbumpe", 0x224F, 0x338), ("ncongdot", 0x2A6D, 0x338),
   ("nedot", 0x2250, 0x338), ("nesim", 0x2242, 0x338), ("ngE", 0x2267, 0x338),
   ("ngeqq", 0x2267, 0x338), ("ngeqslant", 0x2A7E, 0x338), ("nges", 0x2A7E, 0x338),
   ("nlE", 0x2266, 0x338), ("nleqq", 0x2266, 0x338), ("nleqslant", 0x2A7D, 0x338),
   ("nles", 0x2A7D, 0x338), ("notinE", 0x22F9, 0x338), ("notindot", 0x22F5, 0x338),
   ("nparsl", 0x2AFD, 0x20E5), ("npart", 0x2202, 0x338), ("npre", 0x2AAF, 0x338),
   ("npreceq", 0x2AAF, 0x338), ("nrarrc", 0x2933, 0x338), ("nrarrw", 0x219D, 0x338),
   ("nsce", 0x2AB0, 0x338), ("nsubE", 0x2AC5, 0x338), ("nsubset", 0x2282, 0x20D2),
   ("nsubseteqq", 0x2AC5, 0x338), ("nsucceq", 0x2AB0, 0x338), ("nsupE", 0x2AC6, 0x338),
   ("nsupset", 0x2283, 0x20D2), ("nsupseteqq", 0x2AC6, 0x338), ("nvap", 0x224D, 0x20D2),
   ("nvge", 0x2265, 0x20D2), ("nvgt", 0x3E, 0x20D2), ("nvle", 0x2264, 0x20D2),
   ("nvlt", 0x3C, 0x20D2), ("nvltrie", 0x22B4, 0x20D2), ("nvrtrie", 0x22B5, 0x20D2),
   ("nvsim", 0x223C, 0x20D2), ("race", 0x223D, 0x331), ("smtes", 0x2AAC, 0xFE00),
   ("sqcaps", 0x2293, 0xFE00), ("sqcups", 0x2294, 0xFE00), ("varsubsetneq", 0x228A, 0xFE00),
   ("varsubsetneqq", 0x2ACB, 0xFE00), ("varsupsetneq", 0x228B, 0xFE00),
   ("varsupsetneqq", 0x2ACC, 0xFE00), ("vnsub", 0x2282, 0x20D2), ("vnsup", 0x2283, 0x20D2),
   ("vsubnE", 0x2ACB, 0xFE00), ("vsubne", 0x228A, 0xFE00), ("vsupnE", 0x2ACC, 0xFE00),
   ("vsupne", 0x228B, 0xFE00)]

/-- The characters that a name stands for. -/
def namedText (name : List Char) : List Char :=
  match namesOfTwo.lookup (String.ofList name) with
  | some (first, second) => [Char.ofNat first, Char.ofNat second]
  | none => (namedChar? name).toList

/-- A part of a value that stands for characters. -/
inductive Spelling where
  /-- A character that stands for itself. -/
  | plain (c : Char)
  /-- The number of a character, with a semicolon behind it or without. -/
  | number (n : Nat) (closed : Bool)
  /-- The name of a character, with a semicolon behind it. -/
  | named (name : List Char)
  deriving DecidableEq, Repr

namespace Spelling

/-- What a browser takes a spelling for. -/
def resolved : Spelling → List Char
  | plain c => [c]
  | number n _ => [numberedAs n]
  | named name => namedText name

/-- Whether a spelling is a reference that `decodeRefs` leaves as it stands. -/
def isMissed : Spelling → Bool
  | number n closed => !closed || !isReferable n
  | _ => false

/-- What `decodeRefs` takes a spelling for, if it does not miss it. -/
def decoded : Spelling → List Char
  | plain c => [c]
  | number n _ => [Char.ofNat n]
  | named name => (namedChar? name).toList

end Spelling

/-- A character that is a digit in a base. -/
def isDigitOf (base : Nat) (c : Char) : Bool :=
  (digitValue? base c).isSome

/-- Reads the number of a character, as many digits as there are, and gives what follows it. -/
def readNumber? (base : Nat) (cs : List Char) : Option (Spelling × List Char) :=
  (number? base (cs.takeWhile (isDigitOf base))).map fun n =>
    match cs.dropWhile (isDigitOf base) with
    | ';' :: rest => (.number n true, rest)
    | rest => (.number n false, rest)

/-- Reads the name of a character up to the semicolon, and gives what follows it. -/
def readName? (cs : List Char) : Option (Spelling × List Char) :=
  match cs.dropWhile isRefBody with
  | ';' :: rest => (namedChar? (cs.takeWhile isRefBody)).map fun _ =>
      (.named (cs.takeWhile isRefBody), rest)
  | _ => none

/-- Reads the reference that an ampersand opens, behind the ampersand, and gives what follows it. -/
def readRef? : List Char → Option (Spelling × List Char)
  | '#' :: 'x' :: cs => readNumber? 16 cs
  | '#' :: 'X' :: cs => readNumber? 16 cs
  | '#' :: cs => readNumber? 10 cs
  | cs => readName? cs

/-- What stands in front of the digits of a number, by the base that they are read in. -/
inductive NumberMark : Nat → List Char → Prop where
  | decimal : NumberMark 10 ['#']
  | small : NumberMark 16 ['#', 'x']
  | capital : NumberMark 16 ['#', 'X']

/-- How `readRef?` reads a reference, by what stands behind the ampersand and what is left. -/
inductive ReadsRef : List Char → Spelling → List Char → Prop where
  | closed {base mark digits n rest} :
    NumberMark base mark →
    number? base digits = some n →
    ReadsRef (mark ++ (digits ++ ';' :: rest)) (.number n true) rest
  | unclosed {base mark digits n rest} :
    NumberMark base mark →
    number? base digits = some n →
    Stops (fun c => isDigitOf base c || c == ';') rest →
    ReadsRef (mark ++ (digits ++ rest)) (.number n false) rest
  | named {name c rest} :
    (∀ c ∈ name, isRefBody c = true) →
    name.head? ≠ some '#' →
    namedChar? name = some c →
    ReadsRef (name ++ ';' :: rest) (.named name) rest

/-- What is read as a number is the number that the digits behind the mark denote. -/
lemma readsRef_of_readNumber? {base mark cs s rest} (form : NumberMark base mark)
    (h : readNumber? base cs = some (s, rest)) : ReadsRef (mark ++ cs) s rest := by
  obtain ⟨n, number, e⟩ := Option.map_eq_some_iff.1 h
  have stop := stops_dropWhile (p := isDigitOf base) cs
  have text := List.takeWhile_append_dropWhile (p := isDigitOf base) (l := cs)
  rw [← text]
  split at e
  case h_1 rest' semicolon =>
    cases e
    rw [semicolon]
    exact .closed form number
  case h_2 other =>
    cases e
    refine .unclosed form number fun c hc => ?_
    change (isDigitOf base c || c == ';') = false
    rw [stop c hc, Bool.false_or, beq_eq_false_iff_ne]
    rintro rfl
    obtain ⟨rest', hr⟩ := List.head?_eq_some_iff.1 hc
    exact other rest' hr

/-- What is read as a name is a name that is known, with its semicolon. -/
lemma readsRef_of_readName? {cs s rest} (plain : cs.head? ≠ some '#')
    (h : readName? cs = some (s, rest)) : ReadsRef cs s rest := by
  unfold readName? at h
  split at h
  case h_1 rest' semicolon =>
    obtain ⟨c, named, e⟩ := Option.map_eq_some_iff.1 h
    cases e
    have name : ∀ c ∈ cs.takeWhile isRefBody, isRefBody c = true :=
      fun c hc => List.mem_takeWhile_imp hc
    have split := List.takeWhile_append_dropWhile (p := isRefBody) (l := cs)
    rw [semicolon] at split
    have first : (cs.takeWhile isRefBody).head? ≠ some '#' := by
      intro e
      apply plain
      rw [← split, List.head?_append, e, Option.some_or]
    have reads : ReadsRef _ _ rest := .named name first named
    rwa [split] at reads
  case h_2 => cases h

/-- What is read as a reference is a number or a name. -/
lemma readsRef_of_readRef? {cs s rest} (h : readRef? cs = some (s, rest)) :
    ReadsRef cs s rest := by
  unfold readRef? at h
  split at h
  case h_1 => exact readsRef_of_readNumber? .small h
  case h_2 => exact readsRef_of_readNumber? .capital h
  case h_3 => exact readsRef_of_readNumber? .decimal h
  case h_4 none =>
    apply readsRef_of_readName? _ h
    intro e
    obtain ⟨rest', rfl⟩ := List.head?_eq_some_iff.1 e
    exact none rest' rfl

/-- A reference takes no characters but its own. -/
lemma ReadsRef.length_le {cs s rest} (h : ReadsRef cs s rest) : rest.length ≤ cs.length := by
  cases h <;> simp only [List.length_append, List.length_cons] <;> omega

/-- The spellings of a value, one after another. -/
def spellings : List Char → List Spelling
  | [] => []
  | c :: cs =>
    if c == '&' then
      match _h : readRef? cs with
      | some (s, rest) => s :: spellings rest
      | none => .plain c :: spellings cs
    else .plain c :: spellings cs
termination_by cs => cs.length
decreasing_by
  all_goals simp only [List.length_cons]
  all_goals try omega
  have := (readsRef_of_readRef? _h).length_le
  omega

/-- A character that opens no reference is spelled by itself. -/
lemma spellings_cons {c} (plain : c ≠ '&') (cs : List Char) :
    spellings (c :: cs) = .plain c :: spellings cs := by
  rw [spellings, if_neg]
  simpa using plain

/-- A text without ampersands is spelled character by character. -/
lemma spellings_append {cs : List Char} (plain : '&' ∉ cs) (rest : List Char) :
    spellings (cs ++ rest) = cs.map .plain ++ spellings rest := by
  induction cs with
  | nil => rfl
  | cons c cs ih =>
    rw [List.mem_cons, not_or] at plain
    obtain ⟨here, behind⟩ := plain
    rw [List.cons_append, spellings_cons (Ne.symm here), ih behind]
    rfl

/-- A reference that is read is one spelling. -/
lemma spellings_reference {cs s rest} (read : readRef? cs = some (s, rest)) :
    spellings ('&' :: cs) = s :: spellings rest := by
  rw [spellings, if_pos (beq_self_eq_true '&')]
  split
  case h_1 s' rest' read' =>
    rw [read] at read'
    cases read'
    rfl
  case h_2 none =>
    rw [read] at none
    cases none

/-! ### Where both readings agree -/

/-- The digits of a number may stand in a reference. -/
lemma isRefBody_of_isDigitOf {base c} (h : isDigitOf base c = true) : isRefBody c = true := by
  rw [isRefBody, Bool.and_eq_true, bne_iff_ne, bne_iff_ne]
  constructor
  all_goals
    rintro rfl
    cases h

/-- One character that is no digit spoils a number. -/
lemma mapM_digitValue?_eq_none {base c} {cs : List Char} (mem : c ∈ cs)
    (other : isDigitOf base c = false) : cs.mapM (digitValue? base) = none := by
  induction cs with
  | nil => cases mem
  | cons d cs ih =>
    rw [List.mapM_cons]
    cases hd : digitValue? base d with
    | none => rfl
    | some v =>
      have behind : c ∈ cs := by
        rcases List.mem_cons.1 mem with rfl | mem
        · rw [isDigitOf, hd] at other
          cases other
        · exact mem
      rw [ih behind]
      rfl

/-- Only digits make up a number. -/
lemma isDigitOf_of_number? {base digits n} (h : number? base digits = some n) :
    ∀ d ∈ digits, isDigitOf base d = true := by
  intro d hd
  cases digit : isDigitOf base d with
  | true => rfl
  | false =>
    unfold number? at h
    split at h
    case h_1 => cases hd
    case h_2 =>
      rw [mapM_digitValue?_eq_none hd digit] at h
      cases h

/-- A number has at least one digit. -/
lemma exists_cons_of_number? {base digits n} (h : number? base digits = some n) :
    ∃ d ds, digits = d :: ds := by
  cases digits with
  | nil => cases h
  | cons d ds => exact ⟨d, ds, rfl⟩

/-- Digits with another character among them are no number. -/
lemma number?_eq_none {base c digits} (mem : c ∈ digits) (other : isDigitOf base c = false) :
    number? base digits = none := by
  cases number : number? base digits with
  | none => rfl
  | some n =>
    rw [isDigitOf_of_number? number c mem] at other
    cases other

/-- The digits of a number and what stands in front of them may stand in a reference. -/
lemma NumberMark.isRefBody_of_mem {base mark digits n} (form : NumberMark base mark)
    (number : number? base digits = some n) : ∀ c ∈ mark ++ digits, isRefBody c = true := by
  have front : ∀ c ∈ mark, isRefBody c = true := by cases form <;> decide
  intro c hc
  rcases List.mem_append.1 hc with hc | hc
  · exact front c hc
  · exact isRefBody_of_isDigitOf (isDigitOf_of_number? number c hc)

/-- What is behind the digits up to the semicolon is taken for digits too. -/
lemma reference?_mark {base mark digits n} (form : NumberMark base mark)
    (number : number? base digits = some n) (more : List Char) :
    reference? (mark ++ (digits ++ more)) = numberedChar? (number? base (digits ++ more)) := by
  obtain ⟨d, ds, rfl⟩ := exists_cons_of_number? number
  have first := isDigitOf_of_number? number d List.mem_cons_self
  cases form with
  | decimal =>
    unfold reference?
    split
    case h_1 e =>
      cases e
      cases first
    case h_2 e =>
      cases e
      cases first
    case h_3 e =>
      cases e
      rfl
    case h_4 none => exact absurd rfl (none _)
  | small => rfl
  | capital => rfl

/-- Digits and nothing else are looked up as a number. -/
lemma reference?_number {base mark digits n} (form : NumberMark base mark)
    (number : number? base digits = some n) :
    reference? (mark ++ digits) = numberedChar? (some n) := by
  have h := reference?_mark form number []
  rwa [List.append_nil, number] at h

/-- A number stands for a character if it may be referred to. -/
lemma exists_number?_of_numberedChar? {m c} (h : numberedChar? m = some c) :
    ∃ n, m = some n ∧ isReferable n = true ∧ c = Char.ofNat n := by
  obtain ⟨n, referable, rfl⟩ := Option.map_eq_some_iff.1 h
  obtain ⟨number, referable⟩ := Option.filter_eq_some_iff.1 referable
  exact ⟨n, number, referable, rfl⟩

/-- Digits with a semicolon behind them are read as a closed number. -/
lemma readNumber?_closed {base digits n} (number : number? base digits = some n)
    (rest : List Char) :
    readNumber? base (digits ++ ';' :: rest) = some (.number n true, rest) := by
  have stop : Stops (isDigitOf base) (';' :: rest) := stops_cons.2 rfl
  have inside := isDigitOf_of_number? number
  rw [readNumber?, takeWhile_append_stops inside stop, number, dropWhile_append_stops inside stop]
  rfl

/-- A name that is known, with a semicolon behind it, is read as that name. -/
lemma readName?_closed {name c} (inside : ∀ d ∈ name, isRefBody d = true)
    (named : namedChar? name = some c) (rest : List Char) :
    readName? (name ++ ';' :: rest) = some (.named name, rest) := by
  have stop : Stops isRefBody (';' :: rest) := stops_cons.2 rfl
  rw [readName?, dropWhile_append_stops inside stop, takeWhile_append_stops inside stop, named]
  rfl

/-- A number or a name stands in a reference. -/
lemma reference?_cases {body c} (denotes : reference? body = some c) :
    (∃ base mark digits n, NumberMark base mark ∧ body = mark ++ digits ∧
      number? base digits = some n) ∨ (body.head? ≠ some '#' ∧ namedChar? body = some c) := by
  unfold reference? at denotes
  split at denotes
  case h_1 digits =>
    obtain ⟨n, number, -, -⟩ := exists_number?_of_numberedChar? denotes
    exact .inl ⟨16, ['#', 'x'], digits, n, .small, rfl, number⟩
  case h_2 digits =>
    obtain ⟨n, number, -, -⟩ := exists_number?_of_numberedChar? denotes
    exact .inl ⟨16, ['#', 'X'], digits, n, .capital, rfl, number⟩
  case h_3 digits _ _ =>
    obtain ⟨n, number, -, -⟩ := exists_number?_of_numberedChar? denotes
    exact .inl ⟨10, ['#'], digits, n, .decimal, rfl, number⟩
  case h_4 none =>
    refine .inr ⟨fun e => ?_, denotes⟩
    obtain ⟨rest, rfl⟩ := List.head?_eq_some_iff.1 e
    exact none rest rfl

/-- Behind a mark, a number is read in the base of the mark. -/
lemma readRef?_mark {base mark digits n} (form : NumberMark base mark)
    (number : number? base digits = some n) (more : List Char) :
    readRef? (mark ++ (digits ++ more)) = readNumber? base (digits ++ more) := by
  obtain ⟨d, ds, rfl⟩ := exists_cons_of_number? number
  have first := isDigitOf_of_number? number d List.mem_cons_self
  cases form with
  | decimal =>
    unfold readRef?
    split
    case h_1 e =>
      cases e
      cases first
    case h_2 e =>
      cases e
      cases first
    case h_3 e =>
      cases e
      rfl
    case h_4 none => exact absurd rfl (none _)
  | small => rfl
  | capital => rfl

/-- What does not begin like a number is read as a name. -/
lemma readRef?_name {cs : List Char} (plain : cs.head? ≠ some '#') :
    readRef? cs = readName? cs := by
  unfold readRef?
  split
  case h_4 => rfl
  all_goals exact absurd rfl plain

/-- What does not begin like a number is looked up as a name. -/
lemma reference?_name {name : List Char} (plain : name.head? ≠ some '#') :
    reference? name = namedChar? name := by
  unfold reference?
  split
  case h_4 => rfl
  all_goals exact absurd rfl plain

/-- What `decodeRefs` takes for a reference is read as one. -/
lemma readRef?_ne_none {body c} (inside : ∀ d ∈ body, isRefBody d = true)
    (denotes : reference? body = some c) (rest : List Char) :
    readRef? (body ++ ';' :: rest) ≠ none := by
  rcases reference?_cases denotes with ⟨base, mark, digits, n, form, rfl, number⟩ | ⟨plain, named⟩
  · rw [List.append_assoc, readRef?_mark form number, readNumber?_closed number rest]
    exact Option.some_ne_none _
  · have front : (body ++ ';' :: rest).head? ≠ some '#' := by
      cases body with
      | nil => cases named
      | cons => exact plain
    simp [readRef?_name front, readName?_closed inside named]

/-- A reference that is not missed is resolved, and the text goes on behind it. -/
lemma decodeRefs_of_readsRef {cs s rest} (h : ReadsRef cs s rest) (known : s.isMissed = false) :
    decodeRefs ('&' :: cs) = s.decoded ++ decodeRefs rest := by
  cases h with
  | @closed base mark digits n _ form number =>
    have referable : isReferable n = true := by simpa [Spelling.isMissed] using known
    have denotes : reference? (mark ++ digits) = some (Char.ofNat n) := by
      rw [reference?_number form number, numberedChar?, Option.filter_some_pos referable]
      rfl
    rw [← List.append_assoc]
    exact decodeRefs_reference _ (form.isRefBody_of_mem number) denotes rest
  | unclosed => cases known
  | @named name c _ inside plain named =>
    rw [Spelling.decoded, named]
    exact decodeRefs_reference name inside ((reference?_name plain).trans named) rest

/-- A missed reference is left as it stands. -/
lemma decodeRefs_of_missed {cs s rest} (h : ReadsRef cs s rest) (missed : s.isMissed = true) :
    decodeRefs ('&' :: cs) = '&' :: decodeRefs cs := by
  cases h with
  | @closed base mark digits n rest form number =>
    have refused : isReferable n = false := by simpa [Spelling.isMissed] using missed
    rw [← List.append_assoc]
    apply decodeRefs_body (form.isRefBody_of_mem number) (stops_cons.2 rfl)
    intro _
    rw [reference?_number form number, numberedChar?, Option.filter_some_neg refused]
    rfl
  | @unclosed base mark digits n rest form number stop =>
    have split := List.takeWhile_append_dropWhile (p := isRefBody) (l := rest)
    have body : ∀ c ∈ mark ++ digits ++ rest.takeWhile isRefBody, isRefBody c = true := by
      intro c hc
      rcases List.mem_append.1 hc with hc | hc
      · exact form.isRefBody_of_mem number c hc
      · exact List.mem_takeWhile_imp hc
    rw [← split, ← List.append_assoc, ← List.append_assoc]
    apply decodeRefs_body body (stops_dropWhile rest)
    intro semicolon
    -- Something that is no digit stands in front of the semicolon.
    cases behind : rest.takeWhile isRefBody with
    | nil =>
      rw [behind, List.nil_append] at split
      rw [split] at semicolon
      have := stop _ semicolon
      simp at this
    | cons e more =>
      have other : isDigitOf base e = false := by
        rw [← split, behind] at stop
        have := stops_cons.1 stop
        simp only [Bool.or_eq_false_iff] at this
        exact this.1
      have mem : e ∈ digits ++ e :: more := List.mem_append_right digits List.mem_cons_self
      rw [List.append_assoc, reference?_mark form number, number?_eq_none mem other]
      rfl
  | named => cases missed

/-- What `decodeRefs` makes of a text that begins with the spellings `ss`: up to the first reference
that it misses they are decoded, and that reference begins with an ampersand. -/
def DecodesTo (cs : List Char) (ss : List Spelling) : Prop :=
  ∃ tail, decodeRefs cs = (ss.takeWhile (!·.isMissed)).flatMap Spelling.decoded ++ tail ∧
    Stops (· != '&') tail

/-- A spelling that is not missed is decoded in front of the others. -/
lemma DecodesTo.cons {cs rest s ss} (known : s.isMissed = false)
    (here : decodeRefs cs = s.decoded ++ decodeRefs rest) (behind : DecodesTo rest ss) :
    DecodesTo cs (s :: ss) := by
  obtain ⟨tail, e, stop⟩ := behind
  refine ⟨tail, ?_, stop⟩
  rw [List.takeWhile_cons_of_pos (by rw [known]; rfl), List.flatMap_cons, List.append_assoc, ← e,
    here]

/-- A value is decoded as a browser reads it up to the first reference that `decodeRefs` misses. -/
theorem decodesTo_spellings (cs : List Char) : DecodesTo cs (spellings cs) := by
  fun_induction spellings cs with
  | case1 => exact ⟨[], by rw [decodeRefs]; rfl, stops_nil⟩
  | case2 c cs amp s rest read ih =>
    obtain rfl := beq_iff_eq.1 amp
    have reads := readsRef_of_readRef? read
    cases missed : s.isMissed with
    | false => exact ih.cons missed (decodeRefs_of_readsRef reads missed)
    | true =>
      refine ⟨'&' :: decodeRefs cs, ?_, stops_cons.2 rfl⟩
      rw [List.takeWhile_cons_of_neg (by simp [missed]), decodeRefs_of_missed reads missed]
      rfl
  | case3 c cs amp none ih =>
    obtain rfl := beq_iff_eq.1 amp
    apply ih.cons rfl
    apply decodeRefs_ampersand
    rintro body rest rfl inside
    cases denotes : reference? body with
    | none => rfl
    | some d => exact absurd none (readRef?_ne_none inside denotes rest)
  | case4 c cs plain ih =>
    exact ih.cons rfl (decodeRefs_cons (by simpa using plain) cs)

end EmailTemplate.Html
