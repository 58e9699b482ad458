/-!
# Start tags

A start tag as the pieces that it is written in: its name, its attributes with everything around
them, and what stands before the closing bracket. The pieces keep every character, so a tag is
written back exactly as it was read (`StartTag.text_of_read?`); reading delimits names and values
the way a browser does, and gives nothing when the input ends inside the tag.
-/

namespace EmailTemplate.Markup

/-- White space inside a tag: space, tab, line feed, form feed and carriage return. -/
def isTagSpace (c : Char) : Bool :=
  c == ' ' || c == '\t' || c == '\n' || c == '\x0c' || c == '\r'

/-- A character between attributes: white space or a slash. -/
def isGap (c : Char) : Bool :=
  isTagSpace c || c == '/'

/-- A character that goes on with a tag name. -/
def isTagNameChar (c : Char) : Bool :=
  !isTagSpace c && c != '/' && c != '>'

/-- A character that goes on with an attribute name; the first may be `=` besides. -/
def isNameChar (c : Char) : Bool :=
  !isTagSpace c && c != '/' && c != '>' && c != '='

/-- A character of an unquoted value. -/
def isValueChar (c : Char) : Bool :=
  !isTagSpace c && c != '>'

/-- A character that delimits a quoted value. -/
def isQuote (c : Char) : Bool :=
  c == '"' || c == '\''

/-- An attribute as it is written. -/
structure Attribute where
  /-- The white space and slashes before the name. -/
  gap : List Char
  name : List Char
  /-- The equals sign with the white space around it; empty when there is no equals sign. -/
  assign : List Char
  /-- The value with its quotes; empty when there is none. -/
  value : List Char
  deriving DecidableEq, Repr

/-- The characters of an attribute, its gap first. -/
def Attribute.text (a : Attribute) : List Char :=
  a.gap ++ a.name ++ a.assign ++ a.value

/-- A start tag as it is written. -/
structure StartTag where
  name : List Char
  attrs : List Attribute
  /-- The white space and slashes before the closing bracket. -/
  tail : List Char
  deriving DecidableEq, Repr

/-- The characters of a start tag, brackets included. -/
def StartTag.text (t : StartTag) : List Char :=
  '<' :: t.name ++ t.attrs.flatMap Attribute.text ++ t.tail ++ ['>']

/-- Reads what is assigned to an attribute name just read: the equals sign with the white space
around it, the value, and what follows. Nothing is read where no equals sign stands; `none` when
the input ends before or inside the value. -/
def readAssigned? (cs : List Char) : Option (List Char × List Char × List Char) :=
  match cs.dropWhile isTagSpace with
  | '=' :: r =>
    let assign := cs.takeWhile isTagSpace ++ '=' :: r.takeWhile isTagSpace
    match r.dropWhile isTagSpace with
    | [] => none
    | q :: body =>
      if isQuote q then
        match body.dropWhile (· != q) with
        | [] => none
        | _ :: rest => some (assign, q :: body.takeWhile (· != q) ++ [q], rest)
      else if q == '>' then some (assign, [], q :: body)
      else some (assign, (q :: body).takeWhile isValueChar, (q :: body).dropWhile isValueChar)
  | _ => some ([], [], cs)

/-- Reading what is assigned loses no character. -/
theorem append_of_readAssigned? {cs assign value rest : List Char}
    (h : readAssigned? cs = some (assign, value, rest)) : assign ++ value ++ rest = cs := by
  unfold readAssigned? at h
  split at h
  · rename_i r hr
    have hcs : cs.takeWhile isTagSpace ++ '=' :: r = cs := by
      rw [← hr]; exact List.takeWhile_append_dropWhile
    split at h
    · simp at h
    · rename_i q body hq
      have hr' : r.takeWhile isTagSpace ++ q :: body = r := by
        rw [← hq]; exact List.takeWhile_append_dropWhile
      split at h
      · split at h
        · simp at h
        · rename_i d rest' hd
          have hb : body.takeWhile (· != q) ++ d :: rest' = body := by
            rw [← hd]; exact List.takeWhile_append_dropWhile
          -- what ends the value is the quote that it began with
          have hdq : d = q := by
            have := List.head?_dropWhile_not (· != q) body
            simpa [hd] using this
          subst hdq
          simp only [Option.some.injEq, Prod.mk.injEq] at h
          obtain ⟨rfl, rfl, rfl⟩ := h
          conv => rhs; rw [← hcs, ← hr', ← hb]
          simp
      · split at h
        · simp only [Option.some.injEq, Prod.mk.injEq] at h
          obtain ⟨rfl, rfl, rfl⟩ := h
          conv => rhs; rw [← hcs, ← hr']
          simp
        · simp only [Option.some.injEq, Prod.mk.injEq] at h
          obtain ⟨rfl, rfl, rfl⟩ := h
          conv => rhs; rw [← hcs, ← hr']
          simp [List.takeWhile_append_dropWhile]
  · simp only [Option.some.injEq, Prod.mk.injEq] at h
    obtain ⟨rfl, rfl, rfl⟩ := h
    rfl

/-- Reads the attributes of a start tag up to its closing bracket, and what follows the tag. -/
def readAttributes? (cs : List Char) : Option (List Attribute × List Char × List Char) :=
  match _hgap : cs.dropWhile isGap with
  | [] => none
  | c :: body =>
    if c == '>' then some ([], cs.takeWhile isGap, body)
    else
      match _hassign : readAssigned? (body.dropWhile isNameChar) with
      | none => none
      | some (assign, value, rest) =>
        match readAttributes? rest with
        | none => none
        | some (attrs, tail, rest') =>
          some (⟨cs.takeWhile isGap, c :: body.takeWhile isNameChar, assign, value⟩ :: attrs,
            tail, rest')
termination_by cs.length
decreasing_by
  have h₁ := congrArg List.length (append_of_readAssigned? _hassign)
  have h₂ := (List.dropWhile_suffix isNameChar (l := body)).length_le
  have h₃ := (List.dropWhile_suffix isGap (l := cs)).length_le
  rw [_hgap] at h₃
  simp only [List.length_append, List.length_cons] at h₁ h₃
  omega

/-- Reads the start tag whose name begins with `cs`, after the opening bracket, and gives what
follows it; `none` when the input ends before the tag does. -/
def StartTag.read? (cs : List Char) : Option (StartTag × List Char) :=
  (readAttributes? (cs.dropWhile isTagNameChar)).map fun (attrs, tail, rest) =>
    (⟨cs.takeWhile isTagNameChar, attrs, tail⟩, rest)

/-- Reading attributes loses no character. -/
theorem append_of_readAttributes? {cs : List Char} {attrs : List Attribute}
    {tail rest : List Char} (h : readAttributes? cs = some (attrs, tail, rest)) :
    attrs.flatMap Attribute.text ++ tail ++ '>' :: rest = cs := by
  fun_induction readAttributes? cs generalizing attrs tail rest with
  | case1 => simp at h
  | case2 cs c body hc hgt =>
    simp only [Option.some.injEq, Prod.mk.injEq] at h
    obtain ⟨rfl, rfl, rfl⟩ := h
    have : cs.takeWhile isGap ++ c :: body = cs := by
      rw [← hc]; exact List.takeWhile_append_dropWhile
    simpa [show c = '>' by simpa using hgt] using this
  | case3 => simp at h
  | case4 => simp at h
  | case5 cs c body hc hgt assign value rest₁ ha attrs₁ tail₁ rest₂ hr ih =>
    simp only [Option.some.injEq, Prod.mk.injEq] at h
    obtain ⟨rfl, rfl, rfl⟩ := h
    have h₁ : cs.takeWhile isGap ++ c :: body = cs := by
      rw [← hc]; exact List.takeWhile_append_dropWhile
    have h₂ := append_of_readAssigned? ha
    have h₃ : body.takeWhile isNameChar ++ body.dropWhile isNameChar = body :=
      List.takeWhile_append_dropWhile
    have h₄ := ih hr
    simp only [List.flatMap_cons, Attribute.text, List.append_assoc] at h₂ h₄ ⊢
    rw [h₄, h₂]
    simp [h₃, h₁]

/-- A start tag that was read is written back as it stood in the input. -/
theorem StartTag.text_of_read? {cs rest : List Char} {t : StartTag}
    (h : StartTag.read? cs = some (t, rest)) : t.text ++ rest = '<' :: cs := by
  simp only [StartTag.read?, Option.map_eq_some_iff, Prod.mk.injEq, Prod.exists] at h
  obtain ⟨attrs, tail, rest', h, rfl, rfl⟩ := h
  have h₁ := append_of_readAttributes? h
  simp only [List.append_assoc] at h₁
  simp [StartTag.text, h₁, List.takeWhile_append_dropWhile]

/-- What follows a start tag is shorter than what the tag was read from. -/
theorem StartTag.length_of_read? {cs rest : List Char} {t : StartTag}
    (h : StartTag.read? cs = some (t, rest)) : rest.length < cs.length := by
  have := congrArg List.length (text_of_read? h)
  simp only [StartTag.text, List.length_append, List.length_cons, List.length_nil] at this
  omega

end EmailTemplate.Markup
