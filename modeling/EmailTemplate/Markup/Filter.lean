import EmailTemplate.Html.CharRef
import EmailTemplate.Markup.Tag
import EmailTemplate.Text.Blank
import EmailTemplate.Text.WordChar

/-!
# Filtered start tags

A start tag without the attributes that run script: event handlers are left out, and a link or a
source with a script address points to `#` instead. Case, character references, blanks and control
characters are ignored when a browser resolves the scheme of an address, so they are ignored here
too. Markup is read as `Piece`s, its start tags and
the characters between them, and filtering acts on each piece. A start tag that is still open at
the end of the markup is left out, since it would absorb whatever is written after it.
-/

namespace EmailTemplate.Markup
open EmailTemplate.Text EmailTemplate.Html

/-- The schemes that run script. -/
def scriptSchemes : List (List Char) :=
  ["javascript:".toList, "vbscript:".toList]

/-- The address that an attribute value, given with its quotes, resolves to. -/
def address (value : List Char) : List Char :=
  ((decodeRefs (trimWhere isQuote value)).filter fun c => !isBlank c && !isControl c).map
    Char.toLower

/-- Whether an attribute value, given with its quotes, is an address that runs script. -/
def isScriptUri (value : List Char) : Bool :=
  scriptSchemes.any (·.isPrefixOf (address value))

/-- Whether an attribute name is that of an event handler: `on` and a word, case aside. -/
def isEventHandler : List Char → Bool
  | o :: n :: word => o.toLower == 'o' && n.toLower == 'n' && !word.isEmpty && word.all isWordChar
  | _ => false

/-- Whether an attribute is named `href` or `src`, case aside. -/
def isLinkName (name : List Char) : Bool :=
  name.map Char.toLower == "href".toList || name.map Char.toLower == "src".toList

namespace Attribute

/-- Whether an attribute is an event handler, which is left out. -/
def isHandler (a : Attribute) : Bool :=
  isEventHandler a.name

/-- Whether an attribute is a link or source whose address runs script. -/
def runsScript (a : Attribute) : Bool :=
  isLinkName a.name && isScriptUri a.value

/-- The attribute with an address that runs script replaced by `#`. -/
def disarmed (a : Attribute) : Attribute :=
  if a.runsScript then { a with assign := ['='], value := ['"', '#', '"'] } else a

/-- The attribute with a space before it, if nothing sets it apart from what precedes it. -/
def setApart (a : Attribute) : Attribute :=
  if a.gap.isEmpty then { a with gap := [' '] } else a

end Attribute

/-- The attributes without event handlers and script addresses. `afterDropped` tells whether the
attribute just before was left out: the next one that stays must then be set apart. -/
def filterAttrs : (afterDropped : Bool) → List Attribute → List Attribute
  | _, [] => []
  | afterDropped, a :: attrs =>
    if a.isHandler then filterAttrs true attrs
    else (if afterDropped then a.setApart else a).disarmed :: filterAttrs false attrs

/-- The start tag without event handlers and script addresses. -/
def StartTag.filtered (t : StartTag) : StartTag :=
  { t with attrs := filterAttrs false t.attrs }

/-- A piece of markup, as the filter reads it. -/
inductive Piece where
  /-- A character outside start tags. -/
  | char (c : Char)
  /-- A start tag. -/
  | tag (t : StartTag)
  /-- A start tag that is still open at the end. -/
  | unclosed (cs : List Char)
  deriving DecidableEq, Repr

/-- The characters of a piece, as they were read. -/
def Piece.text : Piece → List Char
  | .char c => [c]
  | .tag t => t.text
  | .unclosed cs => cs

/-- The characters of a piece, as they are written by the filter. -/
def Piece.filtered : Piece → List Char
  | .char c => [c]
  | .tag t => t.filtered.text
  | .unclosed _ => []

/-- Whether a text starts with an ASCII letter. -/
def startsWithLetter : List Char → Bool
  | [] => false
  | c :: _ => c.isAlpha

/-- Reads markup as pieces. A start tag opens wherever a letter follows `<`. -/
def pieces : List Char → List Piece
  | [] => []
  | c :: cs =>
    if c == '<' && startsWithLetter cs then
      match _h : StartTag.read? cs with
      | some (t, rest) => .tag t :: pieces rest
      | none => [.unclosed (c :: cs)]
    else .char c :: pieces cs
termination_by cs => cs.length
decreasing_by
  all_goals simp only [List.length_cons]
  all_goals try omega
  have := StartTag.length_of_read? _h
  omega

/-- Reading as pieces loses no character. -/
theorem flatMap_text_pieces (cs : List Char) : (pieces cs).flatMap Piece.text = cs := by
  fun_induction pieces cs with
  | case1 => rfl
  | case2 c cs hc t rest h ih =>
    have hlt : c = '<' := by
      simp only [Bool.and_eq_true, beq_iff_eq] at hc
      exact hc.1
    simp [Piece.text, ih, StartTag.text_of_read? h, hlt]
  | case3 c cs hc h => simp [Piece.text]
  | case4 c cs hc ih => simp [Piece.text, ih]

/-- The start tags of a markup, in the order in which they are read. -/
def startTags (cs : List Char) : List StartTag :=
  (pieces cs).filterMap fun
    | .tag t => some t
    | _ => none

/-- The markup with its start tags filtered and one left open at the end removed. -/
def filterTags (cs : List Char) : List Char :=
  (pieces cs).flatMap Piece.filtered

/-- The number of bytes before a start tag that is left open at the end, if there is one. -/
def openTagOffset? (cs : List Char) : Option Nat :=
  match (pieces cs).getLast? with
  | some (.unclosed rest) => some (byteLength cs - byteLength rest)
  | _ => none

end EmailTemplate.Markup
