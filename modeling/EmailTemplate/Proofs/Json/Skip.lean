import EmailTemplate.Proofs.Json.Step

/-!
# Skipping what can be read

A value that is skipped is not kept, and it is checked less strictly than one that is read. Where a
value can be read, skipping it stops at the same place (`skipsWithin_readValue`): so for numbers,
whose digits are only passed over, for strings, and from one item or member to the next.
-/

namespace EmailTemplate.Json
open EmailTemplate.Text

/-! ## Numbers -/

section Numbers
variable {negative : Bool} {significand : Nat} {e : Int} {x : Number} {cs rest : List Char}

/-- However many digits are taken onto a number, the same text follows the run of them. -/
lemma dropWhile_takeDigits {limit n m : Nat} (h : takeDigits limit n cs = (m, rest)) :
    rest.dropWhile Char.isDigit = cs.dropWhile Char.isDigit := by
  fun_induction takeDigits limit n cs with
  | case1 n =>
    cases h
    rfl
  | case2 n c cs more ih =>
    have digit : c.isDigit = true := by
      simp only [Bool.and_eq_true] at more
      exact more.1
    rw [ih h, List.dropWhile_cons_of_pos digit]
  | case3 n c cs =>
    cases h
    rfl

/-- Where no digit comes next there are none to pass over. -/
lemma dropWhile_of_stop (stop : startsWithDigit cs = false) :
    cs.dropWhile Char.isDigit = cs := by
  cases cs with
  | nil => rfl
  | cons c cs => exact List.dropWhile_cons_of_neg (by simpa [startsWithDigit] using stop)

/-- Where no digit comes next none is taken. -/
lemma takeDigits_of_stop {limit n : Nat} (stop : startsWithDigit cs = false) :
    takeDigits limit n cs = (n, cs) := by
  cases cs with
  | nil => rfl
  | cons c cs =>
    have other : c.isDigit = false := stop
    rw [takeDigits, other, Bool.false_and, if_neg Bool.false_ne_true]

/-- Scaling a number reads nothing. -/
lemma rest_of_scaled (h : scaled negative significand e cs = .ok (x, rest)) : rest = cs := by
  rw [scaled] at h
  split at h
  · cases h
  · cases h
    rfl

/-- An exponent that is read is skipped up to the same place. -/
lemma skipExponent_of_readExponent
    (h : readExponent negative significand e cs = .ok (x, rest)) :
    skipExponent cs = .ok rest := by
  rw [readExponent] at h
  rw [skipExponent]
  -- both pass over the sign in the same way
  simp only [Bool.or_eq_true, beq_iff_eq] at h ⊢
  generalize (if cs.head? = some '+' ∨ cs.head? = some '-' then cs.drop 1 else cs) = digits at h ⊢
  cases digits with
  | nil => cases h
  | cons c digits =>
    simp only at h
    split at h
    case isFalse => cases h
    case isTrue digit =>
      rw [if_pos (by exact digit), List.dropWhile_cons_of_pos digit]
      rw [Except.ok.injEq]
      generalize read : takeDigits maxExponent (Json.digit c) digits = found at h
      obtain ⟨n, behind⟩ := found
      rw [← dropWhile_takeDigits read]
      split at h
      case isTrue =>
        split at h
        · cases h
        · cases h
          rfl
      case isFalse stop =>
        rw [rest_of_scaled h]
        exact dropWhile_of_stop (by simpa using stop)

/-- A scale that is read is skipped up to the same place. -/
lemma skipScale_of_readScale (h : readScale negative significand e cs = .ok (x, rest)) :
    skipScale cs = .ok rest := by
  unfold readScale at h
  split at h
  case h_1 => exact skipExponent_of_readExponent h
  case h_2 => exact skipExponent_of_readExponent h
  case h_3 small capital =>
    cases rest_of_scaled h
    exact skipScale.eq_3 cs small capital

/-- A fraction has a digit, and is skipped to the end of its digits. -/
lemma skipScale_of_readFraction (h : readFraction negative significand e cs = .ok (x, rest)) :
    startsWithDigit cs = true ∧ skipScale (cs.dropWhile Char.isDigit) = .ok rest := by
  cases first : startsWithDigit cs with
  | false =>
    rw [readFraction, takeDigits_of_stop first] at h
    simp only [first, Bool.false_eq_true, if_false, BEq.rfl, if_true] at h
    split at h <;> cases h
  | true =>
    refine ⟨rfl, ?_⟩
    rw [readFraction] at h
    generalize read : takeDigits maxUnsigned significand cs = found at h
    obtain ⟨n, behind⟩ := found
    rw [← dropWhile_takeDigits read]
    simp only at h
    split at h
    case isTrue => exact skipScale_of_readScale h
    case isFalse stop =>
      rw [dropWhile_of_stop (by simpa using stop)]
      split at h
      · split at h <;> cases h
      · exact skipScale_of_readScale h

/-- Skips what follows the digits of an integer. -/
def skipAfterInteger : List Char → Except Failure (List Char)
  | '.' :: cs =>
    if startsWithDigit cs then skipScale (cs.dropWhile Char.isDigit)
    else failPast .invalidNumber cs
  | cs => skipScale cs

/-- A number is skipped by its digits first, unless it begins with a zero and has more of them. -/
lemma skipNumber_eq (first : startsWithDigit cs = true)
    (zero : (cs.head? == some '0' && startsWithDigit (cs.drop 1)) = false) :
    skipNumber cs = skipAfterInteger (cs.dropWhile Char.isDigit) := by
  rw [skipNumber]
  simp only [first, zero, Bool.not_true, Bool.false_eq_true, if_false]
  rfl

/-- A fraction that is read is skipped up to the same place. -/
lemma skipAfterInteger_of_readFraction
    (h : readFraction negative significand e cs = .ok (x, rest)) :
    skipAfterInteger ('.' :: cs) = .ok rest := by
  obtain ⟨first, skipped⟩ := skipScale_of_readFraction h
  rw [skipAfterInteger, if_pos first, skipped]

/-- A scale right behind the integer is skipped up to the same place. -/
lemma skipAfterInteger_of_readScale (plain : ∀ fraction, cs ≠ '.' :: fraction)
    (h : readScale negative significand e cs = .ok (x, rest)) :
    skipAfterInteger cs = .ok rest := by
  unfold skipAfterInteger
  split
  · exact absurd rfl (plain _)
  · exact skipScale_of_readScale h

/-- What is read behind the integer is skipped up to the same place. -/
lemma skipAfterInteger_of_readAfterInteger
    (h : readAfterInteger negative significand cs = .ok (x, rest)) :
    skipAfterInteger cs = .ok rest := by
  unfold readAfterInteger at h
  split at h
  · exact skipAfterInteger_of_readFraction h
  · exact skipExponent_of_readExponent h
  · exact skipExponent_of_readExponent h
  · rename_i fraction small capital
    cases h
    unfold skipAfterInteger skipScale
    split
    · exact absurd rfl (fraction _)
    · split
      · exact absurd rfl (small _)
      · exact absurd rfl (capital _)
      · rfl

/-- A number that is read is skipped up to the same place. -/
lemma skipNumber_of_readNumber (h : readNumber negative cs = .ok (x, rest)) :
    skipNumber cs = .ok rest := by
  cases cs with
  | nil => cases h
  | cons c cs =>
    rw [readNumber] at h
    split at h
    case isTrue zero =>
      obtain rfl : c = '0' := eq_of_beq zero
      split at h
      case isTrue => cases h
      case isFalse stop =>
        have stop : startsWithDigit cs = false := by simpa using stop
        have leading : (('0' :: cs).head? == some '0' &&
            startsWithDigit (('0' :: cs).drop 1)) = false := by
          rw [List.drop_one, List.tail_cons, stop, Bool.and_false]
        rw [skipNumber_eq rfl leading, List.dropWhile_cons_of_pos rfl, dropWhile_of_stop stop]
        exact skipAfterInteger_of_readAfterInteger h
    case isFalse nonzero =>
      split at h
      case isFalse => cases h
      case isTrue digit =>
        have leading : ((c :: cs).head? == some '0' &&
            startsWithDigit ((c :: cs).drop 1)) = false := by
          simp [List.head?_cons, show c ≠ '0' by simpa using nonzero]
        rw [skipNumber_eq (by exact digit) leading, List.dropWhile_cons_of_pos digit]
        generalize read : takeDigits maxUnsigned (Json.digit c) cs = found at h
        obtain ⟨n, behind⟩ := found
        rw [← dropWhile_takeDigits read]
        simp only at h
        split at h
        -- the digits that did not fit are passed over one by one
        case isTrue =>
          split at h
          · rename_i fraction point
            rw [point]
            exact skipAfterInteger_of_readFraction h
          · rename_i plain
            exact skipAfterInteger_of_readScale plain h
        case isFalse stop =>
          rw [dropWhile_of_stop (by simpa using stop)]
          exact skipAfterInteger_of_readAfterInteger h

/-- Passing over digits makes a text no longer. -/
lemma length_dropWhile_digits_le (cs : List Char) :
    (cs.dropWhile Char.isDigit).length ≤ cs.length :=
  (List.dropWhile_suffix _).length_le

/-- Skipping an exponent makes a text no longer. -/
lemma length_of_skipExponent (h : skipExponent cs = .ok rest) : rest.length ≤ cs.length := by
  have signed : (if cs.head? == some '+' || cs.head? == some '-' then cs.drop 1 else cs).length ≤
      cs.length := by
    split
    · exact (List.drop_suffix 1 cs).length_le
    · exact Nat.le_refl _
  rw [skipExponent] at h
  generalize (if cs.head? == some '+' || cs.head? == some '-' then cs.drop 1 else cs) = digits
    at h signed
  split at h
  · cases h
    exact Nat.le_trans (length_dropWhile_digits_le digits) signed
  · cases h

/-- Skipping a scale makes a text no longer. -/
lemma length_of_skipScale (h : skipScale cs = .ok rest) : rest.length ≤ cs.length := by
  unfold skipScale at h
  split at h
  · exact Nat.le_succ_of_le (length_of_skipExponent h)
  · exact Nat.le_succ_of_le (length_of_skipExponent h)
  · cases h
    exact Nat.le_refl _

/-- Skipping what follows the integer makes a text no longer. -/
lemma length_of_skipAfterInteger (h : skipAfterInteger cs = .ok rest) :
    rest.length ≤ cs.length := by
  unfold skipAfterInteger at h
  split at h
  · split at h
    · have fraction := Nat.le_trans (length_of_skipScale h) (length_dropWhile_digits_le _)
      exact Nat.le_succ_of_le fraction
    · cases h
  · exact length_of_skipScale h

/-- Skipping a number makes a text shorter. -/
lemma length_of_skipNumber (h : skipNumber cs = .ok rest) : rest.length < cs.length := by
  cases first : startsWithDigit cs with
  | false =>
    rw [skipNumber, first] at h
    cases h
  | true =>
    cases zero : (cs.head? == some '0' && startsWithDigit (cs.drop 1)) with
    | true =>
      simp only [skipNumber, first, zero] at h
      cases h
    | false =>
      rw [skipNumber_eq first zero] at h
      have behind := length_of_skipAfterInteger h
      cases cs with
      | nil => cases first
      | cons c cs =>
        rw [List.dropWhile_cons_of_pos (by exact first)] at behind
        exact Nat.lt_succ_of_le (Nat.le_trans behind (length_dropWhile_digits_le cs))

end Numbers

/-! ## Words and strings -/

section Strings
variable {cs rest : List Char}

/-- Reading a word makes a text no longer. -/
lemma length_of_readWord {word : List Char} (h : readWord word cs = .ok rest) :
    rest.length ≤ cs.length := by
  induction word generalizing cs with
  | nil =>
    cases h
    exact Nat.le_refl _
  | cons w word ih =>
    cases cs with
    | nil => cases h
    | cons c cs =>
      rw [readWord] at h
      split at h
      · exact Nat.le_succ_of_le (ih h)
      · cases h

/-- An escape in a string is skipped, and the string goes on behind it. -/
lemma skipString_backslash {mid : List Char} (h : skipEscape cs = .ok mid) :
    skipString ('\\' :: cs) = skipString mid := by
  rw [skipString, if_neg (by decide), if_pos (by decide)]
  split
  · rename_i found eq
    rw [h] at eq
    cases eq
    rfl
  · rename_i failure eq
    rw [h] at eq
    cases eq

/-- An escape by number is skipped like the four digits that it has. -/
lemma skipEscape_of_readHex4 {unit : Nat} (h : readHex4 cs = .ok (unit, rest)) :
    skipEscape ('u' :: cs) = .ok rest := by
  rw [skipEscape, h]
  rfl

/-- An escape of one letter is skipped. -/
lemma skipEscape_of_simpleEscape? {c denoted : Char} (other : c ≠ 'u')
    (h : simpleEscape? c = some denoted) : skipEscape (c :: cs) = .ok cs := by
  unfold skipEscape
  split
  case h_1 eq => cases eq
  case h_2 eq => exact absurd (List.cons.inj eq).1 other
  case h_3 eq =>
    obtain ⟨rfl, rfl⟩ := List.cons.inj eq
    rw [h, Option.isSome_some, if_pos rfl]

/-- The second half of a pair is an escape of its own. -/
lemma skipString_of_readLowUnit {high : Nat} {c : Char}
    (h : readLowUnit high cs = .ok (c, rest)) : skipString cs = skipString rest := by
  unfold readLowUnit at h
  split at h
  case h_3 behind =>
    cases read : readHex4 behind with
    | error failure =>
      rw [read] at h
      cases h
    | ok found =>
      obtain ⟨low, rest'⟩ := found
      rw [read] at h
      change (if isLowUnit low then _ else _) = _ at h
      split at h
      · obtain ⟨-, rfl⟩ : _ ∧ rest' = rest := by simpa using h
        exact skipString_backslash (skipEscape_of_readHex4 read)
      · cases h
  all_goals cases h

/-- An escape that is read is skipped, or two are, if it takes two to write the character. -/
lemma skipString_of_readEscape {c : Char} (h : readEscape cs = .ok (c, rest)) :
    skipString ('\\' :: cs) = skipString rest := by
  unfold readEscape at h
  split at h
  case h_1 => cases h
  case h_2 cs =>
    cases read : readHex4 cs with
    | error failure =>
      rw [read] at h
      cases h
    | ok found =>
      obtain ⟨unit, behind⟩ := found
      rw [skipString_backslash (skipEscape_of_readHex4 read)]
      rw [read] at h
      -- the unit stands for a character, or it is the first half of a pair
      change (if isLowUnit unit then _ else if isHighUnit unit then _ else _) = _ at h
      split at h
      case isTrue => cases h
      case isFalse =>
        split at h
        case isTrue => exact skipString_of_readLowUnit h
        case isFalse =>
          cases h
          rfl
  case h_3 d cs other =>
    split at h
    case h_1 denoted known =>
      cases h
      exact skipString_backslash (skipEscape_of_simpleEscape? other known)
    case h_2 => cases h

/-- A string that is read is skipped up to the same place, and takes its closing quote at least. -/
lemma skipString_of_readStringOnto {read : List Char} {s : String}
    (h : readStringOnto read cs = .ok (s, rest)) :
    skipString cs = .ok rest ∧ rest.length < cs.length := by
  fun_induction readStringOnto read cs with
  | case1 => cases h
  | case2 read c cs quote =>
    cases h
    rw [skipString, if_pos quote]
    exact ⟨rfl, Nat.lt_succ_self _⟩
  | case3 read c cs quote backslash denoted behind escape ih =>
    obtain ⟨skipped, shorter⟩ := ih h
    obtain rfl : c = '\\' := eq_of_beq backslash
    rw [skipString_of_readEscape escape]
    have escaped := length_of_readEscape escape
    exact ⟨skipped, Nat.lt_trans shorter (Nat.lt_succ_of_lt escaped)⟩
  | case4 => cases h
  | case5 => cases h
  | case6 read c cs quote backslash printable ih =>
    obtain ⟨skipped, shorter⟩ := ih h
    rw [skipString, if_neg quote, if_neg backslash, if_neg printable]
    exact ⟨skipped, Nat.lt_succ_of_lt shorter⟩

end Strings

/-! ## Items and members -/

/-- Where a text is short enough, what a reader reads is skipped, and takes up some of the text. -/
def SkipsWithin (n : Nat) (read : Reader Json) (skip : List Char → Except Failure (List Char)) :
    Prop :=
  ∀ {cs value rest}, cs.length < n → read cs = .ok (value, rest) →
    skip cs = .ok rest ∧ rest.length < cs.length

/-- Skips what follows an item of a list. -/
def skipMoreItems (skipItem : List Char → Except Failure (List Char)) (fuel : Nat)
    (cs : List Char) : Except Failure (List Char) :=
  match skipSpace cs with
  | [] => failAt .eofInList []
  | ']' :: rest => .ok rest
  | ',' :: rest => skipItems skipItem fuel false rest
  | rest => failPast .expectedCommaOrBracket rest

/-- Skips what follows a member of an object. -/
def skipMoreMembers (skipItem : List Char → Except Failure (List Char)) (fuel : Nat)
    (cs : List Char) : Except Failure (List Char) :=
  match skipSpace cs with
  | [] => failAt .eofInObject []
  | '\x7d' :: rest => .ok rest
  | ',' :: rest => skipMembers skipItem fuel false rest
  | rest => failPast .expectedCommaOrBrace rest

section Nested
variable {readItem : Reader Json} {skipItem : List Char → Except Failure (List Char)} {n : Nat}
  {cs rest : List Char}

/-- An item is skipped, and the list goes on behind it. -/
lemma skipItems_item {first : Bool} {fuel : Nat} {c : Char} {text behind : List Char}
    (start : skipSpace cs = c :: text) (other : c ≠ ']')
    (item : skipItem (c :: text) = .ok behind) :
    skipItems skipItem (fuel + 1) first cs = skipMoreItems skipItem fuel behind := by
  have nonempty : skipSpace cs = [] → first = true → False := by
    intro eq
    rw [start] at eq
    cases eq
  have more : ∀ rest, skipSpace cs = ']' :: rest → first = true → False := by
    intro rest eq
    rw [start] at eq
    exact absurd (List.cons.inj eq).1 other
  rw [skipItems, start, item]
  · rfl
  · exact nonempty
  · exact more

/-- A member is skipped, and the object goes on behind it. -/
lemma skipMembers_member {first : Bool} {fuel : Nat} {text colon item behind : List Char}
    (start : skipSpace cs = '"' :: text) (key : skipString text = .ok colon)
    (assigned : readColon colon = .ok item) (value : skipItem item = .ok behind) :
    skipMembers skipItem (fuel + 1) first cs = skipMoreMembers skipItem fuel behind := by
  simp only [skipMembers, start, key, assigned, bind, Except.bind, value]
  rfl

/-- Skips the items of a list, the first of them or those behind others. -/
def skipItemsFrom (skipItem : List Char → Except Failure (List Char)) (fuel : Nat) (first : Bool) :
    List Char → Except Failure (List Char) :=
  if first then skipItems skipItem fuel true else skipMoreItems skipItem fuel

/-- What is read as the items of a list is skipped. -/
lemma skipItems_of_readItems (skips : SkipsWithin n readItem skipItem) {fuel : Nat}
    {read items : List Json} (small : cs.length < n)
    (h : readItems readItem fuel read cs = .ok (items, rest)) :
    rest.length < cs.length ∧ ∀ m, cs.length < m →
      skipItemsFrom skipItem m read.isEmpty cs = .ok rest := by
  induction fuel generalizing read cs with
  | zero => cases h
  | succ fuel ih =>
    -- the closing bracket comes next, or an item does and the others behind it
    obtain ⟨-, closing, -⟩ | ⟨c, text, item, behind, -, other, upcoming, value, h⟩ :=
      readItems_cases h
    · have length := length_skipSpace_le cs
      rw [closing] at length
      refine ⟨length, ?_⟩
      intro m large
      obtain ⟨m, rfl⟩ := Nat.exists_eq_add_one_of_ne_zero (Nat.ne_zero_of_lt large)
      rw [skipItemsFrom]
      split
      · simp only [skipItems, closing]
      · simp only [skipMoreItems, closing]
    · have near := upcoming.length_le
      obtain ⟨skipped, shorter⟩ := skips (Nat.lt_of_le_of_lt near small) value
      have further := Nat.lt_of_lt_of_le shorter near
      obtain ⟨last, later⟩ := ih (Nat.lt_trans further small) h
      refine ⟨Nat.lt_trans last further, ?_⟩
      intro m large
      obtain ⟨m, rfl⟩ := Nat.exists_eq_add_one_of_ne_zero (Nat.ne_zero_of_lt large)
      have later : skipMoreItems skipItem m behind = .ok rest :=
        later m (Nat.lt_of_lt_of_le further (Nat.le_of_lt_succ large))
      obtain ⟨first, start⟩ | ⟨first, comma, eq, start⟩ := upcoming
      · rw [first, skipItemsFrom, if_pos rfl, skipItems_item start other skipped, later]
      · rw [first, skipItemsFrom, if_neg Bool.false_ne_true]
        simp only [skipMoreItems, eq]
        rw [skipItems_item start other skipped, later]

/-- Reading the colon behind a key makes a text shorter. -/
lemma length_of_readColon (h : readColon cs = .ok rest) : rest.length < cs.length := by
  have length := length_skipSpace_le cs
  rw [readColon] at h
  generalize skipSpace cs = text at h length
  split at h
  case h_2 =>
    cases h
    exact length
  all_goals cases h

/-- Skips the members of an object, the first of them or those behind others. -/
def skipMembersFrom (skipItem : List Char → Except Failure (List Char)) (fuel : Nat)
    (first : Bool) : List Char → Except Failure (List Char) :=
  if first then skipMembers skipItem fuel true else skipMoreMembers skipItem fuel

/-- What is read as the members of an object is skipped. -/
lemma skipMembers_of_readMembers (skips : SkipsWithin n readItem skipItem) {fuel : Nat}
    {read members : List (String × Json)} (small : cs.length < n)
    (h : readMembers readItem fuel read cs = .ok (members, rest)) :
    rest.length < cs.length ∧ ∀ m, cs.length < m →
      skipMembersFrom skipItem m read.isEmpty cs = .ok rest := by
  induction fuel generalizing read cs with
  | zero => cases h
  | succ fuel ih =>
    -- the closing brace comes next, or a member does and the others behind it
    obtain ⟨-, closing, -⟩ | ⟨text, key, colon, item, value, behind, -, upcoming, named, assigned,
      read, h⟩ := readMembers_cases h
    · have length := length_skipSpace_le cs
      rw [closing] at length
      refine ⟨length, ?_⟩
      intro m large
      obtain ⟨m, rfl⟩ := Nat.exists_eq_add_one_of_ne_zero (Nat.ne_zero_of_lt large)
      rw [skipMembersFrom]
      split
      · simp only [skipMembers, closing]
      · simp only [skipMoreMembers, closing]
    · have near : text.length < cs.length := upcoming.length_le
      obtain ⟨skippedKey, keyLength⟩ := skipString_of_readStringOnto named
      have itemLength := length_of_readColon assigned
      have inside : item.length < cs.length := by omega
      obtain ⟨skipped, shorter⟩ := skips (Nat.lt_trans inside small) read
      have further := Nat.lt_trans shorter inside
      obtain ⟨last, later⟩ := ih (Nat.lt_trans further small) h
      refine ⟨Nat.lt_trans last further, ?_⟩
      intro m large
      obtain ⟨m, rfl⟩ := Nat.exists_eq_add_one_of_ne_zero (Nat.ne_zero_of_lt large)
      have later : skipMoreMembers skipItem m behind = .ok rest :=
        later m (Nat.lt_of_lt_of_le further (Nat.le_of_lt_succ large))
      obtain ⟨first, start⟩ | ⟨first, comma, eq, start⟩ := upcoming
      · rw [first, skipMembersFrom, if_pos rfl,
          skipMembers_member start skippedKey assigned skipped, later]
      · rw [first, skipMembersFrom, if_neg Bool.false_ne_true]
        simp only [skipMoreMembers, eq]
        rw [skipMembers_member start skippedKey assigned skipped, later]

end Nested

/-! ## Values -/

/-- A word that stands for a value is skipped as it is read. -/
lemma skips_word {word cs rest : List Char} {word' value : Json}
    (h : (readWord word cs).map (word', ·) = .ok (value, rest)) :
    readWord word cs = .ok rest ∧ rest.length ≤ cs.length := by
  obtain ⟨rest, read, eq⟩ := map_ok h
  cases eq
  exact ⟨read, length_of_readWord read⟩

/-- A number that is a value is skipped as it is read. -/
lemma skips_number {negative : Bool} {cs rest : List Char} {value : Json}
    (h : ((readNumber negative cs).map fun (x, rest) => (num x, rest)) = .ok (value, rest)) :
    skipNumber cs = .ok rest ∧ rest.length < cs.length := by
  obtain ⟨⟨x, rest⟩, read, eq⟩ := map_ok h
  cases eq
  have skipped := skipNumber_of_readNumber read
  exact ⟨skipped, length_of_skipNumber skipped⟩

/-- A value that is read is skipped. -/
lemma skipsWithin_readValue (fuel depth n : Nat) :
    SkipsWithin n (readValue fuel depth) (skipNested n) := by
  -- on the nesting that is left; the bound on the text goes down with it, by a bracket each time
  induction depth generalizing n with
  | zero =>
    intro cs value rest _ h
    cases h
  | succ depth ih =>
    intro cs value rest small h
    obtain ⟨n, rfl⟩ := Nat.exists_eq_add_one_of_ne_zero (Nat.ne_zero_of_lt small)
    have length := length_skipSpace_le cs
    rw [readValue] at h
    rw [skipNested]
    generalize skipSpace cs = text at h length ⊢
    split at h
    case h_1 => cases h
    case h_2 text =>
      obtain ⟨skipped, behind⟩ := skips_word h
      exact ⟨skipped, Nat.lt_of_le_of_lt behind length⟩
    case h_3 text =>
      obtain ⟨skipped, behind⟩ := skips_word h
      exact ⟨skipped, Nat.lt_of_le_of_lt behind length⟩
    case h_4 text =>
      obtain ⟨skipped, behind⟩ := skips_word h
      exact ⟨skipped, Nat.lt_of_le_of_lt behind length⟩
    case h_5 text =>
      obtain ⟨skipped, shorter⟩ := skips_number h
      exact ⟨skipped, Nat.lt_trans shorter length⟩
    case h_6 text =>
      obtain ⟨⟨s, rest⟩, string, eq⟩ := map_ok h
      cases eq
      obtain ⟨skipped, shorter⟩ := skipString_of_readStringOnto string
      exact ⟨skipped, Nat.lt_trans shorter length⟩
    case h_7 text =>
      split at h
      · cases h
      · obtain ⟨⟨items, rest⟩, list, eq⟩ := map_ok h
        cases eq
        rw [List.length_cons] at length
        have inside : text.length < n := by omega
        obtain ⟨shorter, skipped⟩ := skipItems_of_readItems (ih n) inside list
        exact ⟨skipped (n + 1) (Nat.lt_succ_of_lt inside), Nat.lt_trans shorter length⟩
    case h_8 text =>
      split at h
      · cases h
      · obtain ⟨⟨members, rest⟩, object, eq⟩ := map_ok h
        cases eq
        rw [List.length_cons] at length
        have inside : text.length < n := by omega
        obtain ⟨shorter, skipped⟩ := skipMembers_of_readMembers (ih n) inside object
        exact ⟨skipped (n + 1) (Nat.lt_succ_of_lt inside), Nat.lt_trans shorter length⟩
    case h_9 c text null true' false' minus quote list object =>
      split at h
      case isFalse => cases h
      case isTrue digit =>
        obtain ⟨skipped, shorter⟩ := skips_number h
        simp only [digit, if_true]
        exact ⟨skipped, Nat.lt_of_lt_of_le shorter length⟩

end EmailTemplate.Json
