import EmailTemplate.Markup.Construct

/-!
# Stripped markup

Raw markup is embedded in a document that already has a head, so some constructs make no sense or
do harm in it: `head`, `style` and `script` elements with their contents, stray end tags of these,
document type and XML declarations, and the tags of `html`, `body`, `meta` and `title`. One pass
erases each of them in turn. A removal can splice the text around it into a new construct, so
passes are repeated until one removes nothing.
-/

namespace EmailTemplate.Markup

/-- The constructs that raw markup must not hold, in the order in which a pass erases them. -/
def forbidden : List Construct :=
  [element "head", element "style", element "script",
    token ["/head", "/style", "/script"],
    token ["!doctype", "?xml", "html", "/html", "body", "/body", "meta", "/meta",
      "title", "/title"]]

/-- Erases the forbidden constructs, one kind after another. -/
def stripPass (cs : List Char) : List Char :=
  forbidden.foldl (fun cs p => p.erase cs) cs

/-- Erases the forbidden constructs until none is left. -/
def strip (cs : List Char) : List Char :=
  if (stripPass cs).length < cs.length then strip (stripPass cs) else stripPass cs
termination_by cs.length

/-- Erasing constructs in turn leaves a sublist. -/
theorem foldl_erase_sublist (ps : List Construct) (cs : List Char) :
    (ps.foldl (fun cs p => p.erase cs) cs).Sublist cs := by
  induction ps generalizing cs with
  | nil => exact List.Sublist.refl _
  | cons p ps ih => exact (ih (p.erase cs)).trans (p.erase_sublist cs)

/-- A pass removes characters and changes nothing else. -/
theorem stripPass_sublist (cs : List Char) : (stripPass cs).Sublist cs :=
  foldl_erase_sublist forbidden cs

/-- Stripped markup was not touched by the last pass. -/
theorem stripPass_strip (cs : List Char) : stripPass (strip cs) = strip cs := by
  fun_induction strip cs with
  | case1 cs _ ih => exact ih
  | case2 cs h =>
    have hs := stripPass_sublist cs
    have he : stripPass cs = cs := hs.eq_of_length (by have := hs.length_le; omega)
    rw [he, he]

end EmailTemplate.Markup
