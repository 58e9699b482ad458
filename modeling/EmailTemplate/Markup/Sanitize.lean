import EmailTemplate.Markup.Filter
import EmailTemplate.Markup.Strip
import EmailTemplate.Notice

/-!
# Sanitized markup and its visible text

The filter for markup that an author wrote and that is embedded in an email as it is. It is a deny
list: what runs script or makes no sense inside a document is removed, any other vocabulary stays.
Every markup has a sanitized form; malformed markup comes out filtered, never rejected.

The visible text is what a reader sees of a markup, on one line: comments vanish, tags separate
words, references stand for their characters.
-/

namespace EmailTemplate.Markup
open EmailTemplate.Text EmailTemplate.Html

/-- The sanitized form of a markup: stripped of forbidden constructs, then its start tags
filtered. -/
def sanitizeChars (cs : List Char) : List Char :=
  filterTags (strip cs)

/-- The string form of `sanitizeChars`. -/
def sanitize (markup : String) : String :=
  String.ofList (sanitizeChars markup.toList)

/-- What is reported when a markup is sanitized: a start tag that was left open, and by how much
the markup became shorter. -/
def sanitizeNotices (markup : String) : List Notice :=
  let cs := markup.toList
  let before := byteLength cs
  let after := byteLength (sanitizeChars cs)
  ((openTagOffset? (strip cs)).map Notice.unterminatedTag).toList ++
    if after == before then [] else [.markupRemoved (before - after)]

/-- The words that a reader of a markup sees, joined by single spaces. -/
def visibleText (markup : String) : String :=
  let bare := bracketed.replace [' '] (comment.erase (sanitizeChars markup.toList))
  String.ofList (join [' '] (words (decodeRefs bare)))

end EmailTemplate.Markup
