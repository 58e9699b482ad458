import EmailTemplate.Proofs.Html.Draft
import EmailTemplate.Proofs.Html.Fragment

/-!
# The skeleton of markup

The skeleton of markup are its tags, with the names of their attributes but without any values and
texts. It is well nested if every start tag that does not close itself is closed by its end tag, the
innermost first (`WellNested`); that is what nested steps write (`wellNested_fragment`). Steps that
differ in values and texts only write the same skeleton (`Alike.skeleton_eq`).
-/

namespace EmailTemplate.Markup

/-- What a tag is to the structure of markup. -/
inductive Bracket where
  | opens (name : List Char) (keys : List (List Char))
  /-- A start tag that closes itself. -/
  | empty (name : List Char) (keys : List (List Char))
  | closes (name : List Char)
  deriving DecidableEq, Repr

/-- Whether a start tag closes itself. -/
def StartTag.closesItself (t : StartTag) : Bool :=
  t.tail.getLast? == some '/'

/-- The structure that a start tag makes. -/
def StartTag.bracket (t : StartTag) : Bracket :=
  if t.closesItself then .empty t.name (t.attrs.map Attribute.name)
  else .opens t.name (t.attrs.map Attribute.name)

/-- The structure that a token makes, if it is a tag. -/
def Token.bracket? : Token → Option Bracket
  | startTag t => some t.bracket
  | endTag t => some (.closes t.name)
  | _ => none

/-- The tags of markup, in order. -/
def skeleton (ts : List Token) : List Bracket :=
  ts.filterMap Token.bracket?

/-- The names of the open elements after a tag, the innermost first; an end tag must be that of the
innermost one. -/
def Bracket.nest (inside : List (List Char)) : Bracket → Option (List (List Char))
  | opens name _ => some (name :: inside)
  | empty _ _ => some inside
  | closes name =>
    match inside with
    | [] => none
    | innermost :: inside => if innermost = name then some inside else none

/-- Every start tag that does not close itself is closed by its end tag, the innermost first. -/
def WellNested (bs : List Bracket) : Prop :=
  bs.foldlM Bracket.nest [] = some []

/-- Tags that leave open what was open before, and nothing else. -/
def Neutral (bs : List Bracket) : Prop :=
  ∀ inside, bs.foldlM Bracket.nest inside = some inside

/-- Nothing has no structure. -/
@[simp] lemma skeleton_nil : skeleton [] = [] := rfl

/-- The structure of tokens is that of the first of them and then that of the others. -/
@[simp] lemma skeleton_append (a b : List Token) : skeleton (a ++ b) = skeleton a ++ skeleton b :=
  List.filterMap_append

/-- A start tag makes a structure of its own. -/
@[simp] lemma skeleton_startTag (t : StartTag) : skeleton [.startTag t] = [t.bracket] := rfl

/-- Declarations and comments make no structure. -/
@[simp] lemma skeleton_declaration (body : List Char) (ts : List Token) :
    skeleton (.declaration body :: ts) = skeleton ts := rfl

/-- Characters make no structure. -/
@[simp] lemma skeleton_char (cs : List Char) : skeleton (cs.map .char) = [] := by
  induction cs with
  | nil => rfl
  | cons c cs ih => exact ih

namespace Neutral

/-- No tags leave everything as it was. -/
lemma nil : Neutral [] :=
  fun _ => rfl

/-- Neutral tags behind neutral ones are neutral. -/
lemma append {a b} (ha : Neutral a) (hb : Neutral b) : Neutral (a ++ b) := fun inside => by
  rw [List.foldlM_append, ha inside]
  exact hb inside

/-- A tag that closes itself leaves nothing open. -/
lemma empty {name keys} : Neutral [.empty name keys] :=
  fun _ => rfl

/-- An element around neutral tags is closed where its contents end. -/
lemma around {name keys bs} (h : Neutral bs) :
    Neutral (.opens name keys :: bs ++ [.closes name]) := fun inside => by
  have inner := h (name :: inside)
  simp [List.foldlM_append, Bracket.nest, inner]

end Neutral

end EmailTemplate.Markup

namespace EmailTemplate.Html
open Html.Step Markup

/-- Steps that add tags to the skeleton of a draft, whatever it is. -/
def Adds (steps : List Step) (bs : List Bracket) : Prop :=
  ∀ d : Draft, skeleton (d.run steps).finished = skeleton d.finished ++ bs

/-- The attributes that steps give to a tag. -/
def quotedAttrs (attrs : List Step) : List Attribute :=
  (attrs.filterMap Step.attr?).map fun (key, value) => quoted key value

/-- The steps for attributes are all taken by the pending tag. -/
lemma run_attrs {attrs : List Step} (isAttr : ∀ s ∈ attrs, s.IsAttr) (ts : List Token)
    (t : StartTag) :
    Draft.run ⟨ts, some t⟩ attrs = ⟨ts, some { t with attrs := t.attrs ++ quotedAttrs attrs }⟩ := by
  induction attrs generalizing t with
  | nil => simp [quotedAttrs]
  | cons s attrs ih =>
    have ih := ih fun u hu => isAttr u (List.mem_cons_of_mem s hu)
    rw [Draft.run_cons]
    cases s with
    | attr key value =>
      rw [Draft.step, Draft.putAttr, Option.map_some, ih]
      simp [quotedAttrs, attr?]
    | style decls =>
      rw [Draft.step]
      split
      case isTrue none =>
        rw [ih]
        simp [quotedAttrs, attr?, none]
      case isFalse some =>
        rw [Draft.putAttr, Option.map_some, ih]
        simp [quotedAttrs, attr?, some]
    | _ => exact (isAttr _ List.mem_cons_self).elim

/-- Tokens that are put behind a draft add their structure to it. -/
lemma skeleton_put (d : Draft) (ts : List Token) :
    skeleton (d.put ts).finished = skeleton d.finished ++ skeleton ts := by
  simp [Draft.put, Draft.finished]

namespace Adds

/-- No steps add nothing. -/
lemma nil : Adds [] [] := fun d => by simp

/-- Steps add what each of them adds, in turn. -/
lemma append {a b x y} (ha : Adds a x) (hb : Adds b y) : Adds (a ++ b) (x ++ y) := fun d => by
  rw [Draft.run_append, hb, ha, List.append_assoc]

/-- A text adds no tags. -/
lemma text {content} : Adds [text content] [] := fun d => by
  rw [← skeleton_char (escape content).toList]
  exact skeleton_put d ((escape content).toList.map .char)

/-- Markup without tags adds none. -/
lemma plain {markup : String} (none : '<' ∉ markup.toList) :
    Adds [verbatim markup] [] := fun d => by
  have chars : skeleton (tokens markup.toList) = [] := by
    rw [tokens_of_notMem none, skeleton_char]
  rw [← chars]
  exact skeleton_put d (tokens markup.toList)

/-- An empty element adds its tag, with the names of the attributes that it is given. -/
lemma empty {name attrs} (isAttr : ∀ s ∈ attrs, s.IsAttr) :
    Adds (startTag name :: attrs ++ [finishSelfClosing])
      [.empty name.toList ((quotedAttrs attrs).map Attribute.name)] := fun d => by
  rw [List.cons_append, Draft.run_cons, Draft.run_append, Draft.step, run_attrs isAttr]
  simp [Draft.step, Draft.finished, skeleton, Token.bracket?, StartTag.bracket,
    StartTag.closesItself]

/-- A start tag adds itself, with the names of the attributes that it is given. -/
lemma opens {name attrs} (isAttr : ∀ s ∈ attrs, s.IsAttr) :
    Adds (startTag name :: attrs ++ [finishTag])
      [.opens name.toList ((quotedAttrs attrs).map Attribute.name)] := fun d => by
  rw [List.cons_append, Draft.run_cons, Draft.run_append, Draft.step, run_attrs isAttr]
  simp [Draft.step, Draft.put, Draft.finished, skeleton, Token.bracket?, StartTag.bracket,
    StartTag.closesItself]

/-- An element adds its tags around those of its contents. -/
lemma around {name attrs inner bs} (isAttr : ∀ s ∈ attrs, s.IsAttr) (h : Adds inner bs) :
    Adds (around name attrs inner)
      (.opens name.toList ((quotedAttrs attrs).map Attribute.name) :: bs ++
        [.closes name.toList]) := by
  have closes : Adds [endTag name] [.closes name.toList] := fun d => skeleton_put d _
  exact ((opens isAttr).append h).append closes

end Adds

/-- Nested steps add tags that leave open what was open before. -/
lemma exists_adds {steps} (h : Fragment False steps) : ∃ bs, Adds steps bs ∧ Neutral bs := by
  -- which tags are added is found along with the induction, one production after another
  induction h with
  | nil => exact ⟨_, .nil, .nil⟩
  | text => exact ⟨_, .text, .nil⟩
  | plain none => exact ⟨_, .plain none, .nil⟩
  | empty _ isAttr => exact ⟨_, .empty isAttr, .empty⟩
  | around _ isAttr _ ih =>
    obtain ⟨bs, adds, neutral⟩ := ih
    exact ⟨_, .around isAttr adds, .around neutral⟩
  | cell markup => exact markup.elim
  | append _ _ iha ihb =>
    obtain ⟨x, addsX, neutralX⟩ := iha
    obtain ⟨y, addsY, neutralY⟩ := ihb
    exact ⟨_, addsX.append addsY, neutralX.append neutralY⟩

/-- What nested steps write is well nested. -/
lemma wellNested_fragment {steps} (h : Fragment False steps) :
    WellNested (skeleton (outline steps)) := by
  obtain ⟨bs, adds, neutral⟩ := exists_adds h
  rw [outline, adds]
  exact neutral []

/-- Nested steps can be read again. -/
lemma lexical_fragment {steps} (h : Fragment False steps) : ∀ s ∈ steps, s.Lexical := by
  have tags : ∀ name ∈ tagNames, TagName name.toList := by decide
  have names : ∀ key ∈ attrNames, AttrName key.toList := by decide
  have attr {s : Step} (isAttr : s.IsAttr) : s.Lexical := by
    cases s with
    | attr key value => exact names key isAttr
    | style => trivial
    | _ => exact isAttr.elim
  have start {name attrs} (known : name ∈ tagNames) (isAttr : ∀ s ∈ attrs, s.IsAttr) :
      ∀ s ∈ startTag name :: attrs, s.Lexical :=
    List.forall_mem_cons.2 ⟨tags name known, fun s hs => attr (isAttr s hs)⟩
  induction h with
  | nil => simp
  | text => simp [Lexical]
  | @plain markup none =>
    have chars : ∀ t ∈ tokens markup.toList, t.Closed := by
      rw [tokens_of_notMem none]
      exact closed_chars none
    simpa [Lexical] using chars
  | empty known isAttr =>
    exact List.forall_mem_append.2 ⟨start known isAttr, List.forall_mem_singleton.2 trivial⟩
  | @around name attrs inner known isAttr _ ih =>
    have opened : ∀ s ∈ startTag name :: attrs ++ [finishTag], s.Lexical :=
      List.forall_mem_append.2 ⟨start known isAttr, List.forall_mem_singleton.2 trivial⟩
    have inside := List.forall_mem_append.2 ⟨opened, ih⟩
    exact List.forall_mem_append.2 ⟨inside, List.forall_mem_singleton.2 (tags name known)⟩
  -- raw markup is ruled out
  | cell markup => exact markup.elim
  | append _ _ iha ihb => exact List.forall_mem_append.2 ⟨iha, ihb⟩

/-- A step without the value or the text that it writes. -/
def Step.bare : Step → Step
  | attr key _ => attr key ""
  | style decls => if decls.isEmpty then style [] else attr "style" ""
  | text _ => text ""
  | verbatim markup => if '<' ∈ markup.toList then verbatim markup else verbatim ""
  | s => s

/-- Drafts that differ in values and texts only. -/
structure Draft.SameShape (d d' : Draft) : Prop where
  tokens : skeleton d.tokens = skeleton d'.tokens
  tag : d.tag.map (fun t => (t.name, t.attrs.map Attribute.name, t.tail)) =
    d'.tag.map fun t => (t.name, t.attrs.map Attribute.name, t.tail)

namespace Draft.SameShape
variable {d d' : Draft}

/-- A draft is of its own shape. -/
lemma refl (d : Draft) : d.SameShape d :=
  ⟨rfl, rfl⟩

/-- The tags that are pending are of one shape, if there are any. -/
lemma tag_cases (h : d.SameShape d') :
    (d.tag = none ∧ d'.tag = none) ∨ ∃ t t', d.tag = some t ∧ d'.tag = some t' ∧
      t.name = t'.name ∧ t.attrs.map Attribute.name = t'.attrs.map Attribute.name ∧
        t.tail = t'.tail := by
  obtain ⟨ts, tag⟩ := d
  obtain ⟨ts', tag'⟩ := d'
  have tags := h.tag
  cases tag <;> cases tag' <;> simp_all

/-- Finishing the pending tags makes the same structure. -/
lemma finished (h : d.SameShape d') : skeleton d.finished = skeleton d'.finished := by
  rcases h.tag_cases with ⟨e, e'⟩ | ⟨t, t', e, e', name, keys, tail⟩
  · simp [Draft.finished, e, e', h.tokens]
  · have bracket : t.bracket = t'.bracket := by
      simp [StartTag.bracket, StartTag.closesItself, name, keys, tail]
    simp [Draft.finished, e, e', h.tokens, bracket]

/-- Tokens of one structure keep drafts alike. -/
lemma put (h : d.SameShape d') {ts ts' : List Token} (same : skeleton ts = skeleton ts') :
    (d.put ts).SameShape (d'.put ts') where
  tokens := by simp [Draft.put, h.finished, same]
  tag := rfl

/-- Attributes of one name keep drafts alike, whatever their values. -/
lemma putAttr (h : d.SameShape d') {key value value' : String} :
    (d.putAttr key value).SameShape (d'.putAttr key value') := by
  refine ⟨h.tokens, ?_⟩
  rcases h.tag_cases with ⟨e, e'⟩ | ⟨t, t', e, e', name, keys, tail⟩
  · simp [Draft.putAttr, e, e']
  · simp [Draft.putAttr, e, e', name, keys, tail, quoted]

/-- A step and its bare form leave drafts alike. -/
lemma step_bare (h : d.SameShape d') (s : Step) : (d.step s).SameShape (d'.step s.bare) := by
  cases s with
  | startTag name => exact ⟨h.finished, rfl⟩
  | attr key value => exact h.putAttr
  | style decls =>
    simp only [bare]
    split
    case isTrue none => simpa [Draft.step, none] using h
    case isFalse some =>
      have e : d.step (style decls) = d.putAttr "style" (Style.css decls) := if_neg some
      rw [e]
      exact h.putAttr
  | finishTag => exact h.put rfl
  | finishSelfClosing =>
    refine ⟨?_, rfl⟩
    rcases h.tag_cases with ⟨e, e'⟩ | ⟨t, t', e, e', name, keys, -⟩
    · simp [Draft.step, bare, e, e', h.tokens]
    · simp [Draft.step, bare, e, e', h.tokens, StartTag.bracket, StartTag.closesItself, name, keys]
  | endTag name => exact h.put rfl
  | text content => exact h.put (by simp only [skeleton_char])
  | verbatim markup =>
    simp only [bare]
    split
    case isTrue => exact h.put rfl
    case isFalse none =>
      -- both are read as characters only, which make no structure
      refine h.put ?_
      rw [tokens_of_notMem none, tokens_of_notMem (by decide), skeleton_char, skeleton_char]

/-- Steps and their bare forms leave drafts alike. -/
lemma run_bare (h : d.SameShape d') (steps : List Step) :
    (d.run steps).SameShape (d'.run (steps.map bare)) := by
  induction steps generalizing d d' with
  | nil => exact h
  | cons s steps ih => exact ih (h.step_bare s)

end Draft.SameShape

/-- Steps that differ in values and texts only. -/
def Alike (a b : List Step) : Prop :=
  a.map bare = b.map bare

namespace Alike
variable {a a' b b' : List Step}

/-- Steps are like themselves. -/
lemma refl (a : List Step) : Alike a a :=
  rfl

/-- Steps that are alike in turn are alike. -/
lemma append (ha : Alike a a') (hb : Alike b b') : Alike (a ++ b) (a' ++ b') := by
  rw [Alike, List.map_append, List.map_append, ha, hb]

/-- Texts without tags are alike. -/
lemma plain {m m' : String} (none : '<' ∉ m.toList) (none' : '<' ∉ m'.toList) :
    Alike [verbatim m] [verbatim m'] := by
  rw [Alike, List.map_singleton, List.map_singleton, bare, bare, if_neg none, if_neg none']

/-- Elements of one name with attributes and contents that are alike are alike. -/
lemma around {name} (attrs : Alike a a') (h : Alike b b') :
    Alike (around name a b) (Html.around name a' b') :=
  append (append (append (append (refl [startTag name]) attrs) (refl [finishTag])) h)
    (refl [endTag name])

/-- Layout tables are alike if their contents are. -/
lemma layoutTable (h : Alike a b) : Alike (layoutTable a) (Html.layoutTable b) :=
  append (append (refl _) (around (refl []) h)) (refl _)

/-- Steps for members that look the same in turn are alike if those for each are. -/
lemma flatMap {α β} {look : α → β} {f g : α → List Step} {xs ys : List α}
    (h : xs.map look = ys.map look) (same : ∀ x ∈ xs, ∀ y, look x = look y → Alike (f x) (g y)) :
    Alike (xs.flatMap f) (ys.flatMap g) := by
  induction xs generalizing ys with
  | nil =>
    rw [List.map_nil, eq_comm, List.map_eq_nil_iff] at h
    rw [h]
    exact refl []
  | cons x xs ih =>
    cases ys with
    | nil => simp at h
    | cons y ys =>
      obtain ⟨head, tail⟩ := List.cons.inj h
      rw [List.flatMap_cons, List.flatMap_cons]
      exact append (same x List.mem_cons_self y head)
        (ih tail fun z hz => same z (List.mem_cons_of_mem x hz))

/-- Steps that are alike write the same skeleton. -/
theorem skeleton_eq (h : Alike a b) : skeleton (outline a) = skeleton (outline b) := by
  have left := ((Draft.SameShape.refl .empty).run_bare a).finished
  have right := ((Draft.SameShape.refl .empty).run_bare b).finished
  rw [← h] at right
  exact left.trans right.symm

end Alike

end EmailTemplate.Html
