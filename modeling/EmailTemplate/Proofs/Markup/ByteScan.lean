import EmailTemplate.Markup.Filter
import EmailTemplate.Proofs.Markup.Readable
import EmailTemplate.Proofs.Text.Encoding

/-!
# Start tags by their offsets

A scanner over the bytes of a markup does not cut it up but notes where the parts of a start tag
begin and end. `scanTag?` is that scanner, with a cursor that steps from byte to byte, also into
the middle of a character. It finds a tag exactly where `StartTag.read?` does, and the offsets it
notes are those of the parts that are read (`scanTag?_encoded`).
-/

namespace EmailTemplate.Markup
open EmailTemplate.Text

/-- The bytes from an offset up to another one. -/
structure ByteRange where
  start : Nat
  stop : Nat
  deriving DecidableEq, Repr

/-- Where the parts of an attribute stand. -/
structure AttributeRange where
  /-- The start of the white space and slashes before the name. -/
  start : Nat
  name : ByteRange
  /-- The value with its quotes. -/
  value : Option ByteRange
  stop : Nat
  deriving DecidableEq, Repr

/-- Where the parts of a start tag stand. -/
structure TagRange where
  start : Nat
  nameStop : Nat
  attrs : List AttributeRange
  /-- The offset behind the closing bracket. -/
  stop : Nat
  deriving DecidableEq, Repr

/-- Scans the value that begins at an offset: its range, and where the attribute ends. -/
def scanValue? (bytes : List UInt8) (start : Nat) : Option (Option ByteRange × Nat) :=
  match charAt? bytes start with
  | none => none
  | some q =>
    if isQuote q then
      let close := skip (· != q) bytes (start + 1)
      if close < bytes.length then some (some ⟨start, close + 1⟩, close + 1) else none
    else if q == '>' then some (none, start)
    else
      let stop := skip isValueChar bytes start
      some (some ⟨start, stop⟩, stop)

/-- Scans what is assigned to an attribute whose name ends at `i`. A second cursor looks for the
equals sign, so that the attribute ends with its name if there is none. -/
def scanAssigned? (bytes : List UInt8) (i : Nat) : Option (Option ByteRange × Nat) :=
  let j := skip isTagSpace bytes i
  if charAt? bytes j == some '=' then scanValue? bytes (skip isTagSpace bytes (j + 1))
  else some (none, i)

/-- A value does not end in front of where its scan began. -/
lemma le_of_scanValue? {bytes start value stop} (h : scanValue? bytes start = some (value, stop)) :
    start ≤ stop := by
  simp only [scanValue?] at h
  split at h
  case h_1 => simp at h
  case h_2 q _ =>
    have close := le_skip (· != q) bytes (start + 1)
    have bare := le_skip isValueChar bytes start
    split at h
    case isTrue =>
      split at h
      case isTrue =>
        cases h
        omega
      case isFalse => simp at h
    case isFalse =>
      split at h
      case isTrue =>
        cases h
        exact Nat.le_refl start
      case isFalse =>
        cases h
        exact bare

/-- The cursor never steps back over what is assigned. -/
lemma le_of_scanAssigned? {bytes i value stop} (h : scanAssigned? bytes i = some (value, stop)) :
    i ≤ stop := by
  have gap := le_skip isTagSpace bytes i
  have gap' := le_skip isTagSpace bytes (skip isTagSpace bytes i + 1)
  simp only [scanAssigned?] at h
  split at h
  case isTrue =>
    have := le_of_scanValue? h
    omega
  case isFalse =>
    cases h
    exact Nat.le_refl i

/-- Scans the attributes of a start tag from the end of its name on, up to the offset behind its
closing bracket. -/
def scanAttributes? (bytes : List UInt8) (i : Nat) : Option (List AttributeRange × Nat) :=
  let start := skip isGap bytes i
  match _hstart : charAt? bytes start with
  | none => none
  | some c =>
    if c == '>' then some ([], start + 1)
    else
      let nameStop := skip isNameChar bytes (start + 1)
      match _hstop : scanAssigned? bytes nameStop with
      | none => none
      | some (value, stop) =>
        match scanAttributes? bytes stop with
        | none => none
        | some (attrs, tagStop) => some (⟨i, ⟨start, nameStop⟩, value, stop⟩ :: attrs, tagStop)
termination_by bytes.length - i
decreasing_by
  have inside : start < bytes.length := by
    rw [charAt?, Option.map_eq_some_iff] at _hstart
    obtain ⟨b, hb, -⟩ := _hstart
    exact (List.getElem?_eq_some_iff.1 hb).1
  have gap : i ≤ start := le_skip isGap bytes i
  have name : start + 1 ≤ nameStop := le_skip isNameChar bytes (start + 1)
  have assigned : nameStop ≤ stop := le_of_scanAssigned? _hstop
  omega

/-- The scan of attributes without the equations that its termination needs. -/
lemma scanAttributes?_eq (bytes : List UInt8) (i : Nat) :
    scanAttributes? bytes i =
      (charAt? bytes (skip isGap bytes i)).bind fun c =>
        if c == '>' then some ([], skip isGap bytes i + 1)
        else
          let name := ⟨skip isGap bytes i, skip isNameChar bytes (skip isGap bytes i + 1)⟩
          (scanAssigned? bytes name.stop).bind fun (value, stop) =>
            (scanAttributes? bytes stop).map fun (attrs, tagStop) =>
              (⟨i, name, value, stop⟩ :: attrs, tagStop) := by
  rw [scanAttributes?]
  split
  case h_1 none => rw [none, Option.bind_none]
  case h_2 c hc =>
    rw [hc, Option.bind_some]
    split
    case isTrue => rfl
    case isFalse =>
      dsimp only
      split
      case h_1 none => simp [none]
      case h_2 value stop assigned =>
        rw [assigned, Option.bind_some]
        cases scanAttributes? bytes stop with
        | none => rfl
        | some attrs => rfl

/-- Scans the start tag whose opening bracket stands at an offset. -/
def scanTag? (bytes : List UInt8) (start : Nat) : Option TagRange :=
  let nameStop := skip isTagNameChar bytes (start + 1)
  (scanAttributes? bytes nameStop).map fun (attrs, stop) => ⟨start, nameStop, attrs, stop⟩

/-- Scanned attributes are followed by a bracket, so that the cursor has moved. -/
lemma lt_of_scanAttributes? {bytes i attrs stop}
    (h : scanAttributes? bytes i = some (attrs, stop)) : i < stop := by
  fun_induction scanAttributes? bytes i generalizing attrs stop with
  | case1 => simp at h
  | case2 i start =>
    have gap : i ≤ start := le_skip isGap bytes i
    cases h
    omega
  | case3 => simp at h
  | case4 => simp at h
  | case5 i start c _ _ nameStop value stop assigned attrs tagStop =>
    rename_i rest ih
    have gap : i ≤ start := le_skip isGap bytes i
    have name : start + 1 ≤ nameStop := le_skip isNameChar bytes (start + 1)
    have value := le_of_scanAssigned? assigned
    have behind := ih rest
    cases h
    omega

/-- A scanned tag is not empty. -/
lemma lt_of_scanTag? {bytes start t} (h : scanTag? bytes start = some t) : start < t.stop := by
  have name := le_skip isTagNameChar bytes (start + 1)
  rw [scanTag?, Option.map_eq_some_iff] at h
  obtain ⟨⟨attrs, stop⟩, scanned, rfl⟩ := h
  have := lt_of_scanAttributes? scanned
  dsimp only
  omega

/-- The range of a value that begins at an offset. -/
def valueRange? (value : List Char) (i : Nat) : Option ByteRange :=
  if value.isEmpty then none else some ⟨i, i + byteLength value⟩

/-- The ranges of an attribute that begins at an offset. -/
def Attribute.rangeFrom (a : Attribute) (i : Nat) : AttributeRange :=
  let name := i + byteLength a.gap
  let nameStop := name + byteLength a.name
  ⟨i, ⟨name, nameStop⟩, valueRange? a.value (nameStop + byteLength a.assign),
    i + byteLength a.text⟩

/-- The ranges of attributes that follow each other from an offset on. -/
def rangesFrom (i : Nat) : List Attribute → List AttributeRange
  | [] => []
  | a :: attrs => a.rangeFrom i :: rangesFrom (i + byteLength a.text) attrs

/-- The ranges of a start tag that begins at an offset. -/
def StartTag.rangeFrom (t : StartTag) (i : Nat) : TagRange :=
  let nameStop := i + 1 + byteLength t.name
  ⟨i, nameStop, rangesFrom nameStop t.attrs, i + byteLength t.text⟩

/-- No character beyond ASCII is white space in a tag. -/
lemma beyondAscii_isTagSpace : BeyondAscii isTagSpace false := fun c hc => by
  simp [isTagSpace, ne_of_beyond hc]

/-- No character beyond ASCII belongs to a gap between attributes. -/
lemma beyondAscii_isGap : BeyondAscii isGap false := fun c hc => by
  simp [isGap, beyondAscii_isTagSpace c hc, ne_of_beyond hc]

/-- Every character beyond ASCII belongs to the name of a tag. -/
lemma beyondAscii_isTagNameChar : BeyondAscii isTagNameChar true := fun c hc => by
  simp [isTagNameChar, beyondAscii_isTagSpace c hc, ne_of_beyond hc]

/-- Every character beyond ASCII belongs to the name of an attribute. -/
lemma beyondAscii_isNameChar : BeyondAscii isNameChar true := fun c hc => by
  simp [isNameChar, beyondAscii_isTagSpace c hc, ne_of_beyond hc]

/-- Every character beyond ASCII belongs to a value without quotes. -/
lemma beyondAscii_isValueChar : BeyondAscii isValueChar true := fun c hc => by
  simp [isValueChar, beyondAscii_isTagSpace c hc, ne_of_beyond hc]

/-- No character beyond ASCII is a quote. -/
lemma beyondAscii_isQuote : BeyondAscii isQuote false := fun c hc => by
  simp [isQuote, ne_of_beyond hc]

/-- No character beyond ASCII is a letter that a tag's name could begin with. -/
lemma beyondAscii_isAlpha : BeyondAscii Char.isAlpha false := by
  intro c hc
  rw [Bool.eq_false_iff]
  intro letter
  have letter : (decide (c.val ≥ 'A'.val ∧ c.val ≤ 'Z'.val) ||
      decide (c.val ≥ 'a'.val) && decide (c.val ≤ 'z'.val)) = true := letter
  simp [UInt32.le_iff_toNat_le] at letter
  omega

/-- A quote is a single byte. -/
lemma ascii_of_isQuote {q} (quote : isQuote q = true) : q.toNat < 128 := by
  by_contra beyond
  simp [beyondAscii_isQuote q (Nat.le_of_not_lt beyond)] at quote

section
variable {text front cs body : List Char} {q : Char}

/-- At a character's first byte the cursor sees an ASCII character exactly if it is that character.
-/
lemma charAt?_encoded_eq_iff (ascii : q.toNat < 128) (e : text = front ++ cs) :
    charAt? (encoded text) (byteLength front) = some q ↔ cs.head? = some q := by
  cases cs with
  | nil => simp [e, charAt?_encoded_nil]
  | cons c cs =>
    obtain ⟨d, hd, classes⟩ := charAt?_encoded_cons e
    have same := classes (beyondAscii_beq ascii)
    rw [hd, List.head?_cons, Option.some.injEq, Option.some.injEq, ← beq_iff_eq, same, beq_iff_eq]

/-- A value in quotes is scanned up to the next quote of its kind. -/
lemma scanValue?_of_isQuote (e : text = front ++ q :: body) (quote : isQuote q = true) :
    scanValue? (encoded text) (byteLength front) =
      match body.dropWhile (· != q) with
      | [] => none
      | _ :: _ =>
        let stop := byteLength front + byteLength (q :: body.takeWhile (· != q) ++ [q])
        some (some ⟨byteLength front, stop⟩, stop) := by
  have ascii := ascii_of_isQuote quote
  have size := utf8Size_of_ascii ascii
  have here := (charAt?_encoded_eq_iff ascii e).2 rfl
  have close := skip_encoded_succ (beyondAscii_bne ascii) e
  have cut := byteLength_takeWhile_add_dropWhile (· != q) body
  have whole : byteLength text = byteLength front + 1 + byteLength body := by
    rw [e, byteLength_append, byteLength_cons, size, Nat.add_assoc]
  simp only [scanValue?, here, quote, if_true, close, size, length_encoded, whole]
  cases rest : body.dropWhile (· != q) with
  | nil =>
    rw [rest, byteLength_nil] at cut
    rw [if_neg (by omega)]
  | cons c rest =>
    have := c.utf8Size_pos
    rw [rest, byteLength_cons] at cut
    rw [if_pos (by omega)]
    simp [size, Nat.add_assoc]

/-- A value without quotes is scanned up to white space or the closing bracket. -/
lemma scanValue?_of_not_isQuote (e : text = front ++ q :: body) (quote : isQuote q = false) :
    scanValue? (encoded text) (byteLength front) =
      if q == '>' then some (none, byteLength front)
      else
        let stop := byteLength front + byteLength ((q :: body).takeWhile isValueChar)
        some (some ⟨byteLength front, stop⟩, stop) := by
  obtain ⟨d, hd, classes⟩ := charAt?_encoded_cons e
  have bracket := classes (beyondAscii_beq (d := '>') (by decide))
  simp only [scanValue?, hd, classes beyondAscii_isQuote, quote, bracket,
    skip_encoded beyondAscii_isValueChar e]
  rfl

/-- At the end of the markup no value is scanned. -/
lemma scanValue?_nil : scanValue? (encoded front) (byteLength front) = none := by
  rw [scanValue?, charAt?_encoded_nil]

/-- Past the equals sign and the white space around it a value is scanned. -/
lemma scanAssigned?_equals {before after rest} (hb : ∀ c ∈ before, isTagSpace c = true)
    (ha : ∀ c ∈ after, isTagSpace c = true) (stop : Stops isTagSpace rest)
    (e : text = front ++ before ++ '=' :: after ++ rest) :
    scanAssigned? (encoded text) (byteLength front) =
      scanValue? (encoded text) (byteLength (front ++ before ++ '=' :: after)) := by
  have atFront : text = front ++ (before ++ '=' :: (after ++ rest)) := by simp [e]
  have atEquals : text = front ++ before ++ '=' :: (after ++ rest) := by simp [e]
  have behind : text = front ++ before ++ ['='] ++ (after ++ rest) := by simp [e]
  have gap := skip_encoded beyondAscii_isTagSpace atFront
  rw [takeWhile_append_stops hb (stops_cons.2 rfl), ← byteLength_append] at gap
  have gap' := skip_encoded beyondAscii_isTagSpace behind
  rw [takeWhile_append_stops ha stop, ← byteLength_append, List.append_assoc _ ['='],
    List.singleton_append, byteLength_append _ ['=']] at gap'
  rw [scanAssigned?, gap, (charAt?_encoded_eq_iff (by decide) atEquals).2 rfl,
    if_pos (beq_self_eq_true _)]
  exact congrArg _ gap'

/-- The value that is scanned behind the equals sign is the one that is read. -/
lemma scanValue?_encoded {before after rest} (hb : ∀ c ∈ before, isTagSpace c = true)
    (ha : ∀ c ∈ after, isTagSpace c = true) (stop : Stops isTagSpace rest)
    (e : text = front ++ before ++ '=' :: after ++ rest) :
    scanValue? (encoded text) (byteLength (front ++ before ++ '=' :: after)) =
      (readAssigned? (before ++ '=' :: (after ++ rest))).map fun (assign, value, _) =>
        let start := byteLength front + byteLength assign
        (valueRange? value start, start + byteLength value) := by
  cases rest with
  | nil =>
    have all : after.dropWhile isTagSpace = [] := List.dropWhile_eq_nil_iff.2 ha
    have none : readAssigned? (before ++ '=' :: (after ++ [])) = none := by
      unfold readAssigned?
      rw [dropWhile_append_stops hb (stops_cons.2 rfl)]
      simp [all]
    rw [none, e, List.append_nil, scanValue?_nil]
    rfl
  | cons q body =>
    rw [readAssigned?_equals hb ha (stops_cons.1 stop)]
    cases quote : isQuote q with
    | true =>
      rw [scanValue?_of_isQuote e quote, if_pos rfl]
      cases body.dropWhile (· != q) with
      | nil => rfl
      | cons _ rest => simp [valueRange?, Nat.add_assoc]
    | false =>
      rw [scanValue?_of_not_isQuote e quote, if_neg Bool.false_ne_true]
      cases bracket : q == '>' with
      | true => simp [valueRange?, Nat.add_assoc]
      | false =>
        have first : isValueChar q = true := by
          simpa [isValueChar, stops_cons.1 stop] using bracket
        simp [valueRange?, first, Nat.add_assoc]

/-- What is scanned for assigned is what is read, by its offsets. -/
lemma scanAssigned?_encoded (e : text = front ++ cs) :
    scanAssigned? (encoded text) (byteLength front) =
      (readAssigned? cs).map fun (assign, value, _) =>
        let start := byteLength front + byteLength assign
        (valueRange? value start, start + byteLength value) := by
  obtain ⟨before, rest, rfl, hb, stop⟩ := exists_run isTagSpace cs
  by_cases assigned : rest.head? = some '='
  case pos =>
    obtain ⟨r, rfl⟩ : ∃ r, rest = '=' :: r := List.head?_eq_some_iff.1 assigned
    obtain ⟨after, rest, rfl, ha, stop'⟩ := exists_run isTagSpace r
    have whole : text = front ++ before ++ '=' :: after ++ rest := by simp [e]
    rw [scanAssigned?_equals hb ha stop' whole, scanValue?_encoded hb ha stop' whole]
  case neg =>
    have gap := skip_encoded beyondAscii_isTagSpace e
    rw [takeWhile_append_stops hb stop, ← byteLength_append] at gap
    have behind : text = front ++ before ++ rest := by rw [e, List.append_assoc]
    have none : readAssigned? (before ++ rest) = some ([], [], before ++ rest) := by
      unfold readAssigned?
      rw [dropWhile_append_stops hb stop]
      split
      case h_1 => simp at assigned
      case h_2 => rfl
    rw [scanAssigned?, gap, if_neg, none]
    · rfl
    · rwa [beq_iff_eq, charAt?_encoded_eq_iff (by decide) behind]

/-- Behind a gap an attribute begins, unless the bracket stands there. -/
lemma scanAttributes?_name {gap name body} (hgap : ∀ d ∈ gap, isGap d = true)
    (hname : AttrName name) (stop : Stops isNameChar body)
    (e : text = front ++ gap ++ name ++ body) :
    scanAttributes? (encoded text) (byteLength front) =
      (scanAssigned? (encoded text) (byteLength (front ++ gap ++ name))).bind fun (value, stop) =>
        (scanAttributes? (encoded text) stop).map fun (attrs, tagStop) =>
          (⟨byteLength front, ⟨byteLength (front ++ gap), byteLength (front ++ gap ++ name)⟩,
            value, stop⟩ :: attrs, tagStop) := by
  obtain ⟨c, name, rfl, first, bracket, chars⟩ := hname
  have atFront : text = front ++ (gap ++ c :: (name ++ body)) := by simp [e]
  have atName : text = front ++ gap ++ c :: (name ++ body) := by simp [e]
  have skipped := skip_encoded beyondAscii_isGap atFront
  rw [takeWhile_append_stops hgap (stops_cons.2 first), ← byteLength_append] at skipped
  have named := skip_encoded_succ beyondAscii_isNameChar atName
  rw [takeWhile_append_stops chars stop, Nat.add_assoc, ← byteLength_cons,
    ← byteLength_append] at named
  obtain ⟨d, hd, classes⟩ := charAt?_encoded_cons atName
  have other : (d == '>') = false := by
    rw [classes (beyondAscii_beq (by decide))]
    exact beq_eq_false_iff_ne.2 bracket
  rw [scanAttributes?_eq, skipped, hd, Option.bind_some, other, if_neg Bool.false_ne_true, named]

/-- At the closing bracket the attributes end, and the cursor stops behind it. -/
lemma scanAttributes?_bracket {gap rest} (hgap : ∀ d ∈ gap, isGap d = true)
    (e : text = front ++ gap ++ '>' :: rest) :
    scanAttributes? (encoded text) (byteLength front) =
      some ([], byteLength front + byteLength (gap ++ ['>'])) := by
  have atFront : text = front ++ (gap ++ '>' :: rest) := by simp [e]
  have skipped := skip_encoded beyondAscii_isGap atFront
  rw [takeWhile_append_stops hgap (stops_cons.2 rfl), ← byteLength_append] at skipped
  have here := (charAt?_encoded_eq_iff (q := '>') (by decide) e).2 rfl
  rw [scanAttributes?_eq, skipped, here]
  simp [show Char.utf8Size '>' = 1 from rfl, Nat.add_assoc]

/-- Where only a gap is left, the tag is not closed and no attributes are scanned. -/
lemma scanAttributes?_nil {gap} (hgap : ∀ d ∈ gap, isGap d = true) (e : text = front ++ gap) :
    scanAttributes? (encoded text) (byteLength front) = none := by
  have skipped := skip_encoded beyondAscii_isGap e
  rw [List.takeWhile_eq_self_iff.2 hgap, ← byteLength_append, ← e] at skipped
  rw [scanAttributes?_eq, skipped, charAt?_encoded_nil, Option.bind_none]

/-- Nor are they read there. -/
lemma readAttributes?_gap {gap : List Char} (hgap : ∀ d ∈ gap, isGap d = true) :
    readAttributes? gap = none := by
  have all := List.dropWhile_eq_nil_iff.2 hgap
  rw [readAttributes?]
  split
  case h_1 => rfl
  case h_2 h => simp [all] at h

/-- Attributes are gone through as they are read: a name begins one, and what follows is read from
behind what is assigned to it. -/
@[elab_as_elim]
lemma attributes_induction {motive : List Char → Prop}
    (gap : ∀ gap, (∀ d ∈ gap, isGap d = true) → motive gap)
    (bracket : ∀ gap rest, (∀ d ∈ gap, isGap d = true) → motive (gap ++ '>' :: rest))
    (name : ∀ gap name next, (∀ d ∈ gap, isGap d = true) → AttrName name → Stops isNameChar next →
      (∀ assign value rest, readAssigned? next = some (assign, value, rest) → motive rest) →
      motive (gap ++ name ++ next)) (cs : List Char) : motive cs := by
  induction size : cs.length using Nat.strong_induction_on generalizing cs with
  | _ n ih =>
    obtain ⟨before, rest, rfl, hgap, stop⟩ := exists_run isGap cs
    cases rest with
    | nil =>
      rw [List.append_nil]
      exact gap before hgap
    | cons c body =>
      by_cases hc : c = '>'
      case pos => exact hc ▸ bracket before body hgap
      case neg =>
        obtain ⟨chars, next, rfl, hchars, stop'⟩ := exists_run isNameChar body
        have hname : AttrName (c :: chars) := ⟨c, chars, rfl, stops_cons.1 stop, hc, hchars⟩
        rw [← List.cons_append, ← List.append_assoc]
        refine name before (c :: chars) next hgap hname stop' fun assign value rest assigned => ?_
        have cut := append_of_readAssigned? assigned
        refine ih rest.length ?_ rest rfl
        rw [← size, ← cut]
        simp
        omega

/-- The attributes that are scanned are those that are read, by their offsets. -/
lemma scanAttributes?_encoded (e : text = front ++ cs) :
    scanAttributes? (encoded text) (byteLength front) =
      (readAttributes? cs).map fun (attrs, tail, _) =>
        (rangesFrom (byteLength front) attrs,
          byteLength front + byteLength (attrsText attrs tail)) := by
  induction cs using attributes_induction generalizing front with
  | gap gap hgap =>
    rw [scanAttributes?_nil hgap e, readAttributes?_gap hgap]
    rfl
  | bracket gap rest hgap =>
    rw [scanAttributes?_bracket hgap (by simpa using e), readAttributes?_bracket hgap]
    rfl
  | name gap name next hgap hname stop ih =>
    have whole : text = front ++ gap ++ name ++ next := by simp [e]
    rw [scanAttributes?_name hgap hname stop whole, scanAssigned?_encoded whole,
      readAttributes?_name hgap hname stop]
    cases assigned : readAssigned? next with
    | none => rfl
    | some r =>
      obtain ⟨assign, value, rest⟩ := r
      have behind : text = front ++ gap ++ name ++ assign ++ value ++ rest := by
        rw [whole, ← append_of_readAssigned? assigned]
        simp
      have scanned := ih assign value rest assigned behind
      rw [byteLength_append _ value, byteLength_append _ assign] at scanned
      rw [Option.map_some, Option.bind_some, Option.bind_some]
      dsimp only
      rw [scanned]
      cases readAttributes? rest with
      | none => rfl
      | some r => simp [rangesFrom, Attribute.rangeFrom, Attribute.text, Nat.add_assoc]

/-- The start tag that is scanned at an opening bracket is the one that is read there. -/
theorem scanTag?_encoded (e : text = front ++ '<' :: cs) :
    scanTag? (encoded text) (byteLength front) =
      (StartTag.read? cs).map fun (t, _) => t.rangeFrom (byteLength front) := by
  have named := skip_encoded_succ beyondAscii_isTagNameChar e
  have behind : text = (front ++ '<' :: cs.takeWhile isTagNameChar) ++
      cs.dropWhile isTagNameChar := by
    simp [e, List.takeWhile_append_dropWhile]
  have attrs := scanAttributes?_encoded behind
  rw [byteLength_append, byteLength_cons, ← Nat.add_assoc] at attrs
  rw [scanTag?, named]
  dsimp only
  rw [attrs, StartTag.read?]
  cases readAttributes? (cs.dropWhile isTagNameChar) with
  | none => rfl
  | some r =>
    have bracket : Char.utf8Size '<' = 1 := rfl
    simp [StartTag.rangeFrom, StartTag.text_eq, bracket, Nat.add_assoc]

end

end EmailTemplate.Markup
