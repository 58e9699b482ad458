import EmailTemplate.Proofs.Markup.Readable
import Mathlib.Data.List.ModifyLast

/-!
# The states of a tokenizer inside a start tag

A browser goes through a start tag character by character, in a state that says which part of the
tag it is in (`TagState`). `TagState.move` is its table of rules, and `TagState.run` applies them
until the tag is emitted or the input ends. The main statement, `read?_eq_run`, is that
`StartTag.read?`, which cuts the tag into runs of characters, reads the same tags.
-/

namespace EmailTemplate.Markup
open EmailTemplate.Text

/-- What a tokenizer makes of a start tag: its name, and the names and values of its attributes. -/
structure TagToken where
  name : List Char
  attrs : List (List Char × List Char)
  deriving DecidableEq, Repr

namespace TagToken

/-- Puts a character behind the name of the tag. -/
def extendName (t : TagToken) (c : Char) : TagToken :=
  { t with name := t.name ++ [c] }

/-- Puts an attribute behind the others. -/
def push (t : TagToken) (a : List Char × List Char) : TagToken :=
  { t with attrs := t.attrs ++ [a] }

/-- Puts a character behind the name of the last attribute. -/
def extendAttrName (t : TagToken) (c : Char) : TagToken :=
  { t with attrs := t.attrs.modifyLast fun (name, value) => (name ++ [c], value) }

/-- Puts a character behind the value of the last attribute. -/
def extendValue (t : TagToken) (c : Char) : TagToken :=
  { t with attrs := t.attrs.modifyLast fun (name, value) => (name, value ++ [c]) }

/-- What is put behind the last name is put behind the name that was pushed last. -/
@[simp] lemma extendAttrName_push (t : TagToken) (name value : List Char) (c : Char) :
    (t.push (name, value)).extendAttrName c = t.push (name ++ [c], value) := by
  rw [push, extendAttrName, List.modifyLast_concat]
  rfl

/-- What is put behind the last value is put behind the value that was pushed last. -/
@[simp] lemma extendValue_push (t : TagToken) (name value : List Char) (c : Char) :
    (t.push (name, value)).extendValue c = t.push (name, value ++ [c]) := by
  rw [push, extendValue, List.modifyLast_concat]
  rfl

end TagToken

/-- The part of a start tag that a tokenizer is in. -/
inductive TagState where
  | tagName
  | beforeName
  | inName
  | afterName
  | beforeValue
  | doubleQuoted
  | singleQuoted
  | unquoted
  | afterQuoted
  | selfClosing
  deriving DecidableEq, Repr

/-- What a tokenizer does with a character. -/
inductive Move where
  /-- The character ends the tag. -/
  | emit
  /-- The next character is read in another state. -/
  | goto (s : TagState) (t : TagToken)
  /-- The same character is read again in another state. -/
  | reconsume (s : TagState) (t : TagToken)

namespace TagState

/-- The rules of a tokenizer, state by state. -/
def move (s : TagState) (t : TagToken) (c : Char) : Move :=
  match s with
  | tagName =>
    if isTagSpace c then .goto beforeName t
    else if c == '/' then .goto selfClosing t
    else if c == '>' then .emit
    else .goto tagName (t.extendName c)
  | beforeName =>
    if isTagSpace c then .goto beforeName t
    else if c == '/' || c == '>' then .reconsume afterName t
    else if c == '=' then .goto inName (t.push (['='], []))
    else .reconsume inName (t.push ([], []))
  | inName =>
    if isTagSpace c || c == '/' || c == '>' then .reconsume afterName t
    else if c == '=' then .goto beforeValue t
    else .goto inName (t.extendAttrName c)
  | afterName =>
    if isTagSpace c then .goto afterName t
    else if c == '/' then .goto selfClosing t
    else if c == '=' then .goto beforeValue t
    else if c == '>' then .emit
    else .reconsume inName (t.push ([], []))
  | beforeValue =>
    if isTagSpace c then .goto beforeValue t
    else if c == '"' then .goto doubleQuoted t
    else if c == '\'' then .goto singleQuoted t
    else if c == '>' then .emit
    else .reconsume unquoted t
  | doubleQuoted =>
    if c == '"' then .goto afterQuoted t else .goto doubleQuoted (t.extendValue c)
  | singleQuoted =>
    if c == '\'' then .goto afterQuoted t else .goto singleQuoted (t.extendValue c)
  | unquoted =>
    if isTagSpace c then .goto beforeName t
    else if c == '>' then .emit
    else .goto unquoted (t.extendValue c)
  | afterQuoted =>
    if isTagSpace c then .goto beforeName t
    else if c == '/' then .goto selfClosing t
    else if c == '>' then .emit
    else .reconsume beforeName t
  | selfClosing =>
    if c == '>' then .emit
    else .reconsume beforeName t

/-- How many states a character may still be read in. -/
def rank (s : TagState) (c : Char) : Nat :=
  match s with
  | selfClosing | afterQuoted => 3
  | beforeName => 2
  | afterName => if isGap c || c == '>' then 0 else 1
  | inName => if isGap c || c == '>' then 1 else 0
  | beforeValue => 1
  | tagName | doubleQuoted | singleQuoted | unquoted => 0

/-- A character that is read again is closer to being read for good. -/
lemma rank_lt_of_reconsume {s s' : TagState} {t t' : TagToken} {c : Char}
    (h : s.move t c = .reconsume s' t') : s'.rank c < s.rank c := by
  cases s <;> simp only [move] at h <;> split_ifs at h <;> cases h <;> simp_all [rank, isGap]

/-- Goes through the characters of a start tag from a state on. The result is the tag that is
emitted and what follows it; `none` when the input ends before. -/
def run (s : TagState) (t : TagToken) : List Char → Option (TagToken × List Char)
  | [] => none
  | c :: cs =>
    match _h : s.move t c with
    | .emit => some (t, cs)
    | .goto s' t' => run s' t' cs
    | .reconsume s' t' => run s' t' (c :: cs)
termination_by cs => (cs.length, cs.head?.elim 0 s.rank)
decreasing_by
  · exact Prod.Lex.left _ _ (Nat.lt_succ_self _)
  · exact Prod.Lex.right _ (rank_lt_of_reconsume _h)

variable {s s' : TagState} {t t' : TagToken} {c : Char}

/-- Where the input ends in a tag, no tag is emitted. -/
@[simp] lemma run_nil (s : TagState) (t : TagToken) : s.run t [] = none := by
  rw [run]

/-- At the character that ends the tag it is emitted as it is. -/
lemma run_emit (h : s.move t c = .emit) (cs : List Char) : s.run t (c :: cs) = some (t, cs) := by
  rw [run]
  split
  case h_1 => rfl
  case h_2 h' => simp [h] at h'
  case h_3 h' => simp [h] at h'

/-- A character that is taken in is gone. -/
lemma run_goto (h : s.move t c = .goto s' t') (cs : List Char) :
    s.run t (c :: cs) = s'.run t' cs := by
  rw [run]
  split
  case h_1 h' => simp [h] at h'
  case h_2 h' =>
    rw [h] at h'
    cases h'
    rfl
  case h_3 h' => simp [h] at h'

/-- A character that is read again is still there. -/
lemma run_reconsume (h : s.move t c = .reconsume s' t') (cs : List Char) :
    s.run t (c :: cs) = s'.run t' (c :: cs) := by
  rw [run]
  split
  case h_1 h' => simp [h] at h'
  case h_2 h' => simp [h] at h'
  case h_3 h' =>
    rw [h] at h'
    cases h'
    rfl

/-- A state that passes a class of characters passes all that stand at the start. -/
lemma run_passes {p : Char → Bool} (h : ∀ c cs, p c = true → s.run t (c :: cs) = s.run t cs)
    (cs : List Char) : s.run t cs = s.run t (cs.dropWhile p) := by
  induction cs with
  | nil => rfl
  | cons c cs ih =>
    cases hc : p c with
    | true => rw [List.dropWhile_cons_of_pos hc, h c cs hc, ih]
    | false => rw [List.dropWhile_cons_of_neg (by simp [hc])]

/-- A state that collects a class of characters collects all that stand at the start. -/
lemma run_collects {p : Char → Bool} {f : List Char → TagToken}
    (h : ∀ front c, p c = true → s.move (f front) c = .goto s (f (front ++ [c])))
    (front cs : List Char) :
    s.run (f front) cs = s.run (f (front ++ cs.takeWhile p)) (cs.dropWhile p) := by
  induction cs generalizing front with
  | nil => rw [List.takeWhile_nil, List.append_nil, List.dropWhile_nil]
  | cons c cs ih =>
    cases hc : p c with
    | true =>
      rw [List.takeWhile_cons_of_pos hc, List.dropWhile_cons_of_pos hc, run_goto (h front c hc), ih,
        List.append_assoc, List.singleton_append]
    | false =>
      have stop : ¬p c = true := by simp [hc]
      rw [List.takeWhile_cons_of_neg stop, List.dropWhile_cons_of_neg stop, List.append_nil]

/-! Between attributes -/

/-- The bracket ends the tag where a name could begin. -/
lemma run_bracket_beforeName (t : TagToken) (cs : List Char) :
    beforeName.run t ('>' :: cs) = some (t, cs) := by
  have again : beforeName.move t '>' = .reconsume afterName t := rfl
  have ends : afterName.move t '>' = .emit := rfl
  rw [run_reconsume again, run_emit ends]

/-- A slash that ends no tag is passed. -/
lemma run_selfClosing (t : TagToken) (cs : List Char) :
    selfClosing.run t cs = beforeName.run t cs := by
  cases cs with
  | nil => rw [run_nil, run_nil]
  | cons c cs =>
    by_cases bracket : c = '>'
    · have ends : selfClosing.move t c = .emit := by simp [move, bracket]
      rw [run_emit ends, bracket, run_bracket_beforeName]
    · have again : selfClosing.move t c = .reconsume beforeName t := by simp [move, bracket]
      exact run_reconsume again cs

/-- White space and slashes are passed where a name could begin. -/
lemma run_gap_beforeName (t : TagToken) {c : Char} (gap : isGap c = true) (cs : List Char) :
    beforeName.run t (c :: cs) = beforeName.run t cs := by
  by_cases space : isTagSpace c = true
  · have passes : beforeName.move t c = .goto beforeName t := by simp [move, space]
    exact run_goto passes cs
  · have slash : c = '/' := by simpa [isGap, space] using gap
    have again : beforeName.move t '/' = .reconsume afterName t := rfl
    have opens : afterName.move t '/' = .goto selfClosing t := rfl
    rw [slash, run_reconsume again, run_goto opens, run_selfClosing]

/-- A whole gap is passed. -/
lemma run_gaps_beforeName (t : TagToken) (cs : List Char) :
    beforeName.run t cs = beforeName.run t (cs.dropWhile isGap) :=
  run_passes (fun _ cs h => run_gap_beforeName t h cs) cs

/-- The first character of a name belongs to it even if it is an equals sign. -/
lemma run_name_beforeName (t : TagToken) {c : Char} (first : isGap c = false) (ne : c ≠ '>')
    (cs : List Char) : beforeName.run t (c :: cs) = inName.run (t.push ([c], [])) cs := by
  have ⟨space, slash⟩ : isTagSpace c = false ∧ c ≠ '/' := by simpa [isGap] using first
  by_cases equals : c = '='
  · have opens : beforeName.move t c = .goto inName (t.push ([c], [])) := by
      simp [move, equals, isTagSpace]
    exact run_goto opens cs
  · have again : beforeName.move t c = .reconsume inName (t.push ([], [])) := by
      simp [move, space, slash, ne, equals]
    have begins : inName.move (t.push ([], [])) c = .goto inName (t.push ([c], [])) := by
      simp [move, space, slash, ne, equals]
    rw [run_reconsume again, run_goto begins]

/-- Behind a quoted value a name may follow at once. -/
lemma run_afterQuoted (t : TagToken) (cs : List Char) :
    afterQuoted.run t cs = beforeName.run t cs := by
  cases cs with
  | nil => rw [run_nil, run_nil]
  | cons c cs =>
    by_cases space : isTagSpace c = true
    · have passes : afterQuoted.move t c = .goto beforeName t := by simp [move, space]
      rw [run_goto passes, run_gap_beforeName t (by simp [isGap, space])]
    by_cases slash : c = '/'
    · have opens : afterQuoted.move t '/' = .goto selfClosing t := rfl
      rw [slash, run_goto opens, run_selfClosing, run_gap_beforeName t rfl]
    by_cases bracket : c = '>'
    · have ends : afterQuoted.move t '>' = .emit := rfl
      rw [bracket, run_emit ends, run_bracket_beforeName]
    · have again : afterQuoted.move t c = .reconsume beforeName t := by
        simp [move, space, slash, bracket]
      exact run_reconsume again cs

/-! Behind a name -/

/-- A name ends where nothing goes on with it, and nowhere else. -/
lemma run_inName (t : TagToken) {cs : List Char} (stop : Stops isNameChar cs) :
    inName.run t cs = afterName.run t cs := by
  cases cs with
  | nil => rw [run_nil, run_nil]
  | cons c cs =>
    by_cases equals : c = '='
    · have opens : inName.move t '=' = .goto beforeValue t := rfl
      have opens' : afterName.move t '=' = .goto beforeValue t := rfl
      rw [equals, run_goto opens, run_goto opens']
    · have ends : (isTagSpace c || c == '/' || c == '>') = true := by
        have stop := stops_cons.1 stop
        simp only [isNameChar] at stop
        grind
      have again : inName.move t c = .reconsume afterName t := by rw [move, if_pos ends]
      exact run_reconsume again cs

/-- White space behind a name is passed. -/
lemma run_spaces_afterName (t : TagToken) (cs : List Char) :
    afterName.run t cs = afterName.run t (cs.dropWhile isTagSpace) :=
  run_passes (fun c cs h => run_goto (by simp [move, h]) cs) cs

/-- White space behind an equals sign is passed. -/
lemma run_spaces_beforeValue (t : TagToken) (cs : List Char) :
    beforeValue.run t cs = beforeValue.run t (cs.dropWhile isTagSpace) :=
  run_passes (fun c cs h => run_goto (by simp [move, h]) cs) cs

/-- White space in front of a name is passed. -/
lemma run_spaces_beforeName (t : TagToken) (cs : List Char) :
    beforeName.run t cs = beforeName.run t (cs.dropWhile isTagSpace) :=
  run_passes (fun c cs h => run_goto (by simp [move, h]) cs) cs

/-- Behind a name that nothing is assigned to, the next attribute is looked for. -/
lemma run_afterName (t : TagToken) {cs : List Char}
    (none : Stops (· == '=') (cs.dropWhile isTagSpace)) :
    afterName.run t cs = beforeName.run t cs := by
  rw [run_spaces_afterName, run_spaces_beforeName]
  have stop := stops_dropWhile (p := isTagSpace) cs
  cases h : cs.dropWhile isTagSpace with
  | nil => rw [run_nil, run_nil]
  | cons c rest =>
    rw [h, stops_cons] at stop none
    have equals : c ≠ '=' := by simpa using none
    by_cases slash : c = '/'
    · have opens : afterName.move t '/' = .goto selfClosing t := rfl
      rw [slash, run_goto opens, run_selfClosing, run_gap_beforeName t rfl]
    by_cases bracket : c = '>'
    · have ends : afterName.move t '>' = .emit := rfl
      rw [bracket, run_emit ends, run_bracket_beforeName]
    · have again : afterName.move t c = .reconsume inName (t.push ([], [])) := by
        simp [move, stop, slash, bracket, equals]
      have again' : beforeName.move t c = .reconsume inName (t.push ([], [])) := by
        simp [move, stop, slash, bracket, equals]
      rw [run_reconsume again, run_reconsume again']

/-- The state inside a value between quotes. -/
def quoted (q : Char) : TagState :=
  if q == '"' then doubleQuoted else singleQuoted

/-- A quoted value ends with its own quote, and holds every other character. -/
lemma move_quoted {q : Char} (quote : isQuote q = true) (t : TagToken) (c : Char) :
    (quoted q).move t c =
      if c == q then .goto afterQuoted t else .goto (quoted q) (t.extendValue c) := by
  simp only [isQuote, Bool.or_eq_true, beq_iff_eq] at quote
  rcases quote with rfl | rfl <;> rfl

/-- A value without quotes ends where nothing goes on with it. -/
lemma run_unquoted (t : TagToken) (name cs : List Char) :
    unquoted.run (t.push (name, [])) cs =
      beforeName.run (t.push (name, cs.takeWhile isValueChar)) (cs.dropWhile isValueChar) := by
  have collects (front : List Char) (c : Char) (h : isValueChar c = true) :
      unquoted.move (t.push (name, front)) c = .goto unquoted (t.push (name, front ++ [c])) := by
    obtain ⟨space, bracket⟩ := isValueChar_iff.1 h
    simp [move, space, bracket]
  rw [run_collects collects, List.nil_append]
  have stop := stops_dropWhile (p := isValueChar) cs
  cases h : cs.dropWhile isValueChar with
  | nil => rw [run_nil, run_nil]
  | cons c rest =>
    rw [h, stops_cons] at stop
    by_cases space : isTagSpace c = true
    · have passes (t : TagToken) : unquoted.move t c = .goto beforeName t := by simp [move, space]
      rw [run_goto (passes _), run_gap_beforeName _ (by simp [isGap, space])]
    · have bracket : c = '>' := by simpa [isValueChar, space] using stop
      have ends (t : TagToken) : unquoted.move t '>' = .emit := rfl
      rw [bracket, run_emit (ends _), run_bracket_beforeName]

/-- A value between quotes is read up to the second quote, if there is one. -/
lemma run_quote_beforeValue {q : Char} (quote : isQuote q = true) (t : TagToken)
    (name body : List Char) :
    beforeValue.run (t.push (name, [])) (q :: body) =
      match body.dropWhile (· != q) with
      | [] => none
      | _ :: rest => beforeName.run (t.push (name, body.takeWhile (· != q))) rest := by
  have opens : beforeValue.move (t.push (name, [])) q = .goto (quoted q) (t.push (name, [])) := by
    simp only [isQuote, Bool.or_eq_true, beq_iff_eq] at quote
    rcases quote with rfl | rfl <;> rfl
  have collects (front : List Char) (c : Char) (ne : (c != q) = true) :
      (quoted q).move (t.push (name, front)) c =
        .goto (quoted q) (t.push (name, front ++ [c])) := by
    rw [move_quoted quote, if_neg (by simpa using ne), TagToken.extendValue_push]
  rw [run_goto opens, run_collects collects, List.nil_append]
  have stop := stops_dropWhile (p := (· != q)) body
  cases h : body.dropWhile (· != q) with
  | nil => exact run_nil _ _
  | cons d rest =>
    rw [h, stops_cons] at stop
    have ends (t : TagToken) : (quoted q).move t d = .goto afterQuoted t := by
      rw [move_quoted quote, if_pos (by simpa using stop)]
    rw [run_goto (ends _), run_afterQuoted]

/-- A value without quotes begins with its first character. -/
lemma run_unquoted_beforeValue {c : Char} (first : isValueChar c = true) (quote : isQuote c = false)
    (t : TagToken) (name body : List Char) :
    beforeValue.run (t.push (name, [])) (c :: body) =
      beforeName.run (t.push (name, (c :: body).takeWhile isValueChar))
        ((c :: body).dropWhile isValueChar) := by
  obtain ⟨space, bracket⟩ := isValueChar_iff.1 first
  have ⟨double, single⟩ : c ≠ '"' ∧ c ≠ '\'' := by simpa [isQuote] using quote
  have again : beforeValue.move (t.push (name, [])) c =
      .reconsume unquoted (t.push (name, [])) := by
    simp [move, space, bracket, double, single]
  rw [run_reconsume again, run_unquoted]

/-- What is assigned to a name is read as the value of its attribute. -/
lemma run_assigned (t : TagToken) (name cs : List Char) :
    afterName.run (t.push (name, [])) cs =
      (readAssigned? cs).bind fun r =>
        beforeName.run (t.push (name, Markup.unquoted r.2.1)) r.2.2 := by
  unfold readAssigned?
  split
  case h_1 r hr =>
    have opens : afterName.move (t.push (name, [])) '=' =
        .goto beforeValue (t.push (name, [])) := rfl
    rw [run_spaces_afterName, hr, run_goto opens, run_spaces_beforeValue]
    -- all white space is behind, so the next character decides what kind of value begins
    have first := stops_dropWhile (p := isTagSpace) r
    split
    case h_1 h => rw [h, run_nil, Option.bind_none]
    case h_2 q body h =>
      rw [h, stops_cons] at first
      rw [h]
      split
      case isTrue quote =>
        rw [run_quote_beforeValue quote]
        cases body.dropWhile (· != q) with
        | nil => rfl
        | cons d rest => simp [Markup.unquoted, quote]
      case isFalse quote =>
        split
        case isTrue bracket =>
          have bracket : q = '>' := by simpa using bracket
          have ends : beforeValue.move (t.push (name, [])) '>' = .emit := rfl
          rw [bracket, run_emit ends, Option.bind_some, run_bracket_beforeName, Markup.unquoted]
        case isFalse bracket =>
          have value : isValueChar q = true := isValueChar_iff.2 ⟨first, by simpa using bracket⟩
          have bare : Markup.unquoted ((q :: body).takeWhile isValueChar) =
              (q :: body).takeWhile isValueChar := by
            rw [List.takeWhile_cons_of_pos value, Markup.unquoted, if_neg quote]
          rw [run_unquoted_beforeValue value (by simpa using quote), Option.bind_some, bare]
  case h_2 other =>
    rw [run_afterName]
    · rfl
    · intro c hc
      cases h : cs.dropWhile isTagSpace with
      | nil => simp [h] at hc
      | cons d rest =>
        have ne : d ≠ '=' := fun e => other rest (by rw [h, e])
        rw [h, List.head?_cons, Option.mem_def, Option.some.injEq] at hc
        simpa [← hc] using ne

/-- A name is collected up to where nothing goes on with it, and then its value is read. -/
lemma run_attribute (t : TagToken) {cs body : List Char} {c : Char}
    (h : cs.dropWhile isGap = c :: body) (ne : c ≠ '>') :
    beforeName.run t cs =
      (readAssigned? (body.dropWhile isNameChar)).bind fun r =>
        beforeName.run (t.push (c :: body.takeWhile isNameChar, Markup.unquoted r.2.1)) r.2.2 := by
  have collects (cs : List Char) (d : Char) (h : isNameChar d = true) :
      inName.move (t.push (cs, [])) d = .goto inName (t.push (cs ++ [d], [])) := by
    have h : ((isTagSpace d = false ∧ d ≠ '/') ∧ d ≠ '>') ∧ d ≠ '=' := by
      simpa [isNameChar] using h
    simp [move, h]
  have first := stops_dropWhile (p := isGap) cs
  rw [h, stops_cons] at first
  rw [run_gaps_beforeName, h, run_name_beforeName t first ne, run_collects collects,
    List.singleton_append, run_inName _ (stops_dropWhile body), run_assigned]

end TagState

/-- The name of an attribute and its value without quotes. -/
def Attribute.given (a : Attribute) : List Char × List Char :=
  (a.name, unquoted a.value)

/-- A start tag as a tokenizer emits it. -/
def StartTag.token (t : StartTag) : TagToken :=
  ⟨t.name, t.attrs.map Attribute.given⟩

/-- Attributes are read one by one up to the bracket. -/
lemma TagState.run_beforeName (t : TagToken) (cs : List Char) :
    beforeName.run t cs =
      (readAttributes? cs).map fun (attrs, _, rest) =>
        (⟨t.name, t.attrs ++ attrs.map Attribute.given⟩, rest) := by
  fun_induction readAttributes? cs generalizing t with
  | case1 cs h => rw [run_gaps_beforeName, h, run_nil, Option.map_none]
  | case2 cs c body h bracket =>
    have bracket : c = '>' := by simpa using bracket
    rw [run_gaps_beforeName, h, bracket, run_bracket_beforeName]
    simp
  | case3 cs c body h ne unread =>
    rw [run_attribute t h (by simpa using ne), unread, Option.bind_none, Option.map_none]
  | case4 cs c body h ne assign value rest read unread ih =>
    rw [run_attribute t h (by simpa using ne), read, Option.bind_some, ih, unread,
      Option.map_none, Option.map_none]
  | case5 cs c body h ne assign value rest read attrs tail rest' reads ih =>
    rw [run_attribute t h (by simpa using ne), read, Option.bind_some, ih, reads]
    simp [TagToken.push, Attribute.given]

/-- The name of a tag ends where nothing goes on with it. -/
lemma TagState.run_tagName (t : TagToken) {cs : List Char} (stop : Stops isTagNameChar cs) :
    tagName.run t cs = beforeName.run t cs := by
  cases cs with
  | nil => rw [run_nil, run_nil]
  | cons c cs =>
    rw [stops_cons] at stop
    by_cases space : isTagSpace c = true
    · have passes : tagName.move t c = .goto beforeName t := by simp [move, space]
      rw [run_goto passes, run_gap_beforeName t (by simp [isGap, space])]
    by_cases slash : c = '/'
    · have opens : tagName.move t '/' = .goto selfClosing t := rfl
      rw [slash, run_goto opens, run_selfClosing, run_gap_beforeName t rfl]
    · have bracket : c = '>' := by simpa [isTagNameChar, space, slash] using stop
      have ends : tagName.move t '>' = .emit := rfl
      rw [bracket, run_emit ends, run_bracket_beforeName]

/-- Reading a start tag gives the tag that a tokenizer emits, with its name and the names and values
of its attributes, and what follows it; and nothing where the input ends before the tokenizer comes
to the bracket that ends the tag. -/
theorem read?_eq_run (cs : List Char) :
    (StartTag.read? cs).map (fun (t, rest) => (t.token, rest)) =
      TagState.tagName.run ⟨[], []⟩ cs := by
  have collects (front : List Char) (c : Char) (h : isTagNameChar c = true) :
      TagState.tagName.move ⟨front, []⟩ c = .goto .tagName ⟨front ++ [c], []⟩ := by
    have h : (isTagSpace c = false ∧ c ≠ '/') ∧ c ≠ '>' := by simpa [isTagNameChar] using h
    simp [TagState.move, h, TagToken.extendName]
  rw [TagState.run_collects (f := fun name => ⟨name, []⟩) collects,
    TagState.run_tagName _ (stops_dropWhile cs), TagState.run_beforeName, StartTag.read?,
    Option.map_map]
  rfl

end EmailTemplate.Markup
