import EmailTemplate.Proofs.Markup.Pieces
import EmailTemplate.Proofs.Markup.Tiling

/-!
# The filter by slices

`filter?` is the filter for start tags as a program over the bytes of a markup: it goes from bracket
to bracket by their offsets, copies what it keeps slice by slice, and gives nothing as soon as one
slice is not there. Since the ranges of a scanned tag tile it, every slice is there, and the result
is that of `filterTags`.
-/

namespace EmailTemplate.Markup
open EmailTemplate.Text

/-- The bytes of a string. -/
def bytesOf (s : String) : List UInt8 :=
  s.toByteArray.data.toList

/-- Whether the value of an attribute is looked at and found to run script. -/
def AttributeRange.runsScript? (s name : String) (a : AttributeRange) : Option Bool :=
  match a.value with
  | some v =>
    if isLinkName name.toList then (slice? s v.start v.stop).map (isScriptUri ·.toList)
    else some false
  | none => some false

/-- What is written for an attribute that stays. -/
def AttributeRange.kept? (s name : String) (a : AttributeRange) : Option String := do
  if ← a.runsScript? s name then (slice? s a.start a.name.stop).map (· ++ "=\"#\"")
  else slice? s a.start a.stop

/-- What is written for attributes. `dropped` tells whether the one just before was left out. -/
def writeAttributes? (s : String) : (dropped : Bool) → List AttributeRange → Option String
  | _, [] => some ""
  | dropped, a :: attrs => do
    let name ← slice? s a.name.start a.name.stop
    if isEventHandler name.toList then writeAttributes? s true attrs
    else
      let apart := if dropped && a.start == a.name.start then " " else ""
      let kept ← a.kept? s name
      let rest ← writeAttributes? s false attrs
      return apart ++ kept ++ rest

/-- What is written for a start tag. -/
def TagRange.write? (s : String) (t : TagRange) : Option String := do
  let name ← slice? s t.start t.nameStop
  let attrs ← writeAttributes? s false t.attrs
  let tail ← slice? s t.tail t.stop
  return name ++ attrs ++ tail

/-- The number of bytes in front of the next opening bracket. -/
def bracketOffset? (cs : List Char) : Option Nat :=
  if '<' ∈ cs then some (byteLength (cs.takeWhile (· != '<'))) else none

/-- Filters the start tags of a string from `pos` on; the text from `copied` up to there is still
to be copied. -/
def filterFrom? (s : String) (copied pos : Nat) : Option String :=
  match _hrest : slice? s pos s.utf8ByteSize with
  | none => none
  | some rest =>
    match _hoffset : bracketOffset? rest.toList with
    | none => slice? s copied s.utf8ByteSize
    | some offset =>
      let start := pos + offset
      if (charAt? (bytesOf s) (start + 1)).any Char.isAlpha then
        match slice? s copied start with
        | none => none
        | some before =>
          match _htag : scanTag? (bytesOf s) start with
          | none => some before
          | some t =>
            match t.write? s, filterFrom? s t.stop t.stop with
            | some tag, some behind => some (before ++ tag ++ behind)
            | _, _ => none
      else filterFrom? s copied (start + 1)
termination_by s.utf8ByteSize - pos
decreasing_by
  all_goals
    have inside : pos < s.utf8ByteSize := by
      refine lt_of_slice? _hrest ?_
      rintro rfl
      simp [bracketOffset?] at _hoffset
  · have := lt_of_scanTag? _htag
    omega
  · omega

/-- Filters the start tags of a string. -/
def filter? (s : String) : Option String :=
  filterFrom? s 0 0

/-- The filter without the equations that its termination needs. -/
lemma filterFrom?_eq (s : String) (copied pos : Nat) :
    filterFrom? s copied pos =
      (slice? s pos s.utf8ByteSize).bind fun rest =>
        match bracketOffset? rest.toList with
        | none => slice? s copied s.utf8ByteSize
        | some offset =>
          if (charAt? (bytesOf s) (pos + offset + 1)).any Char.isAlpha then
            (slice? s copied (pos + offset)).bind fun before =>
              match scanTag? (bytesOf s) (pos + offset) with
              | none => some before
              | some t =>
                (t.write? s).bind fun tag =>
                  (filterFrom? s t.stop t.stop).map fun behind => before ++ tag ++ behind
          else filterFrom? s copied (pos + offset + 1) := by
  rw [filterFrom?]
  split
  case h_1 none => rw [none, Option.bind_none]
  case h_2 rest hrest =>
    rw [hrest, Option.bind_some]
    split
    case h_1 none => rw [none]
    case h_2 offset hoffset =>
      rw [hoffset]
      dsimp only
      split
      case isFalse => rfl
      case isTrue =>
        cases slice? s copied (pos + offset) with
        | none => rfl
        | some before =>
          rw [Option.bind_some]
          dsimp only
          split
          case h_1 none => rw [none]
          case h_2 t ht =>
            rw [ht]
            dsimp only
            cases t.write? s with
            | none => rfl
            | some tag =>
              cases filterFrom? s t.stop t.stop with
              | none => rfl
              | some behind => rfl

section
variable {s : String} {front back : List Char}

/-- The value is there as a slice, and is found to run script if the one that is read does. -/
lemma runsScript?_rangeFrom {a : Attribute} (e : s.toList = front ++ a.text ++ back) :
    (a.rangeFrom (byteLength front)).runsScript? s (String.ofList a.name) = some a.runsScript := by
  rw [AttributeRange.runsScript?, String.toList_ofList, Attribute.runsScript]
  by_cases none : a.value = []
  · simp [Attribute.rangeFrom, valueRange?, none, isScriptUri_nil]
  · have whole : s.toList = front ++ a.gap ++ a.name ++ a.assign ++ a.value ++ back := by
      simp [e, Attribute.text]
    have value : slice? s
        (byteLength front + byteLength a.gap + byteLength a.name + byteLength a.assign)
        (byteLength front + byteLength a.gap + byteLength a.name + byteLength a.assign +
          byteLength a.value) = some (String.ofList a.value) :=
      slice?_of_eq whole (by simp [Nat.add_assoc]) (by simp [Nat.add_assoc])
    cases isLinkName a.name with
    | true => simp [Attribute.rangeFrom, valueRange?, none, value]
    | false => simp [Attribute.rangeFrom, valueRange?, none]

/-- An attribute that stays is written from its slices as it is from its parts. -/
lemma kept?_rangeFrom {a : Attribute} (e : s.toList = front ++ a.text ++ back) :
    (a.rangeFrom (byteLength front)).kept? s (String.ofList a.name) =
      some (String.ofList a.disarmed.text) := by
  rw [AttributeRange.kept?, runsScript?_rangeFrom e, Attribute.disarmed]
  cases a.runsScript with
  | true =>
    have whole : s.toList = front ++ (a.gap ++ a.name) ++ (a.assign ++ a.value ++ back) := by
      simp [e, Attribute.text]
    have name : slice? s (a.rangeFrom (byteLength front)).start
        (a.rangeFrom (byteLength front)).name.stop = some (String.ofList (a.gap ++ a.name)) :=
      slice?_of_eq whole rfl (by simp [Attribute.rangeFrom, Nat.add_assoc])
    simp [name, Attribute.text, String.append_assoc]
  | false => exact slice?_of_eq e rfl rfl

/-- The name is there as a slice. -/
lemma slice?_name_rangeFrom {a : Attribute} (e : s.toList = front ++ a.text ++ back) :
    slice? s (a.rangeFrom (byteLength front)).name.start
      (a.rangeFrom (byteLength front)).name.stop = some (String.ofList a.name) := by
  have whole : s.toList = front ++ a.gap ++ a.name ++ (a.assign ++ a.value ++ back) := by
    simp [e, Attribute.text]
  exact slice?_of_eq whole (byteLength_append _ _).symm (by simp [Attribute.rangeFrom])

/-- A name stands at the start of its attribute exactly if there is no gap. -/
lemma start_rangeFrom_eq_iff (a : Attribute) (i : Nat) :
    (a.rangeFrom i).start = (a.rangeFrom i).name.start ↔ a.gap = [] := by
  simp only [Attribute.rangeFrom]
  constructor
  · intro h
    by_contra ne
    have := byteLength_pos ne
    omega
  · intro none
    rw [none]
    rfl

/-- Attributes are written from their slices as they are from their parts. -/
lemma writeAttributes?_rangesFrom {attrs : List Attribute} (dropped : Bool)
    (e : s.toList = front ++ attrs.flatMap Attribute.text ++ back) :
    writeAttributes? s dropped (rangesFrom (byteLength front) attrs) =
      some (String.ofList ((filterAttrs dropped attrs).flatMap Attribute.text)) := by
  induction attrs generalizing front dropped with
  | nil => rfl
  | cons a attrs ih =>
    have first : s.toList = front ++ a.text ++ (attrs.flatMap Attribute.text ++ back) := by
      simp [e]
    have behind : s.toList = front ++ a.text ++ attrs.flatMap Attribute.text ++ back := by
      simp [e]
    have rest := fun dropped => ih dropped behind
    rw [byteLength_append] at rest
    rw [rangesFrom, writeAttributes?, slice?_name_rangeFrom first]
    cases handler : a.isHandler with
    | true =>
      have drops : isEventHandler a.name = true := handler
      rw [filterAttrs_handler handler, ← rest true]
      simp [drops]
    | false =>
      have stays : isEventHandler a.name = false := handler
      rw [filterAttrs_kept handler, List.flatMap_cons, Attribute.text_kept]
      by_cases apart : dropped = true ∧ a.gap = []
      · simp [stays, kept?_rangeFrom first, rest false, start_rangeFrom_eq_iff, apart,
          String.append_assoc]
      · simp [stays, kept?_rangeFrom first, rest false, start_rangeFrom_eq_iff, apart]

/-- A start tag is written from its slices as it is from its parts. -/
lemma write?_rangeFrom {t : StartTag} (e : s.toList = front ++ t.text ++ back) :
    (t.rangeFrom (byteLength front)).write? s = some (String.ofList t.filtered.text) := by
  have named : s.toList = front ++ '<' :: t.name ++
      (t.attrs.flatMap Attribute.text ++ t.tail ++ ['>'] ++ back) := by
    simp [e, StartTag.text]
  have attrs : s.toList = (front ++ '<' :: t.name) ++ t.attrs.flatMap Attribute.text ++
      (t.tail ++ ['>'] ++ back) := by
    simp [e, StartTag.text]
  have bracket : Char.utf8Size '<' = 1 := rfl
  have name : slice? s (t.rangeFrom (byteLength front)).start
      (t.rangeFrom (byteLength front)).nameStop = some (String.ofList ('<' :: t.name)) :=
    slice?_of_eq named rfl (by simp [StartTag.rangeFrom, bracket, Nat.add_assoc])
  have written := writeAttributes?_rangesFrom false attrs
  rw [byteLength_append, byteLength_cons, bracket, ← Nat.add_assoc] at written
  rw [TagRange.write?, name, StartTag.slice?_tail e]
  simp [StartTag.rangeFrom, StartTag.filtered, StartTag.text, written, String.append_assoc]

/-- Text without an opening bracket is left as it is. -/
lemma filterTags_plain {plain : List Char} (none : ∀ c ∈ plain, (c != '<') = true)
    (cs : List Char) : filterTags (plain ++ cs) = plain ++ filterTags cs := by
  induction plain with
  | nil => rfl
  | cons c plain ih =>
    have other : (c == '<') = false := by simpa using none c List.mem_cons_self
    rw [List.cons_append, filterTags_char (by rw [other, Bool.false_and]),
      ih fun d hd => none d (List.mem_cons_of_mem c hd), List.cons_append]

/-- Without a bracket there is no offset. -/
lemma bracketOffset?_plain {plain : List Char} (none : ∀ c ∈ plain, (c != '<') = true) :
    bracketOffset? plain = Option.none := by
  refine if_neg fun mem => ?_
  simpa using none '<' mem

/-- The offset is that of the first bracket. -/
lemma bracketOffset?_bracket {plain : List Char} (none : ∀ c ∈ plain, (c != '<') = true)
    (behind : List Char) :
    bracketOffset? (plain ++ '<' :: behind) = some (byteLength plain) := by
  rw [bracketOffset?, if_pos (by simp), takeWhile_append_stops none (stops_cons.2 rfl)]

/-- The bytes of a string are those of its characters, one after another. -/
lemma bytesOf_eq (s : String) : bytesOf s = encoded s.toList :=
  (encoded_toList s).symm

/-- Behind an opening bracket the next byte tells whether a letter stands there. -/
lemma any_isAlpha_charAt? {cs : List Char} (e : s.toList = front ++ '<' :: cs) :
    (charAt? (bytesOf s) (byteLength front + 1)).any Char.isAlpha = startsWithLetter cs := by
  have behind : s.toList = (front ++ ['<']) ++ cs := by simp [e]
  have next : byteLength front + 1 = byteLength (front ++ ['<']) :=
    (byteLength_append front ['<']).symm
  rw [bytesOf_eq, next]
  cases cs with
  | nil =>
    rw [behind, List.append_nil, charAt?_encoded_nil]
    rfl
  | cons c cs =>
    obtain ⟨d, hd, classes⟩ := charAt?_encoded_cons behind
    rw [hd, Option.any_some, classes beyondAscii_isAlpha]
    rfl

/-- Without a further bracket the filter copies what is left. -/
lemma filterFrom?_plain {between plain : List Char} (none : ∀ c ∈ plain, (c != '<') = true)
    (e : s.toList = front ++ between ++ plain) :
    filterFrom? s (byteLength front) (byteLength (front ++ between)) =
      some (String.ofList (between ++ plain)) := by
  have size : s.utf8ByteSize = byteLength (front ++ between) + byteLength plain := by
    rw [← byteLength_toList, e, byteLength_append]
  have left : s.toList = front ++ between ++ plain ++ [] := by simp [e]
  have uncopied : s.toList = front ++ (between ++ plain) ++ [] := by simp [e]
  rw [filterFrom?_eq, slice?_of_eq left rfl size, Option.bind_some, String.toList_ofList,
    bracketOffset?_plain none]
  refine slice?_of_eq uncopied rfl ?_
  rw [size, byteLength_append, byteLength_append, Nat.add_assoc]

/-- At the next bracket the filter writes a start tag and goes on behind it, stops if the tag is
open at the end, or passes the bracket if no letter follows. -/
lemma filterFrom?_bracket {between plain behind : List Char}
    (none : ∀ c ∈ plain, (c != '<') = true)
    (e : s.toList = front ++ between ++ plain ++ '<' :: behind) :
    filterFrom? s (byteLength front) (byteLength (front ++ between)) =
      if startsWithLetter behind then
        match StartTag.read? behind with
        | Option.none => some (String.ofList (between ++ plain))
        | some (t, _) =>
          let stop := byteLength (front ++ between ++ plain ++ t.text)
          (filterFrom? s stop stop).map (String.ofList (between ++ plain ++ t.filtered.text) ++ ·)
      else
        filterFrom? s (byteLength front) (byteLength (front ++ (between ++ plain ++ ['<']))) := by
  have size : s.utf8ByteSize =
      byteLength (front ++ between) + byteLength (plain ++ '<' :: behind) := by
    rw [← byteLength_toList, e, List.append_assoc _ plain, byteLength_append]
  have left : s.toList = front ++ between ++ (plain ++ '<' :: behind) ++ [] := by simp [e]
  have uncopied : s.toList = front ++ (between ++ plain) ++ '<' :: behind := by simp [e]
  have next : byteLength (front ++ between ++ plain) + 1 =
      byteLength (front ++ (between ++ plain ++ ['<'])) := by
    rw [← List.append_assoc, ← List.append_assoc, byteLength_append _ ['<']]
    rfl
  -- one step of the filter, with each offset written as the length of what stands before it
  rw [filterFrom?_eq, slice?_of_eq left rfl size, Option.bind_some, String.toList_ofList,
    bracketOffset?_bracket none]
  dsimp only
  rw [← byteLength_append, any_isAlpha_charAt? e, next, bytesOf_eq, scanTag?_encoded e,
    slice?_of_eq uncopied rfl (by simp), Option.bind_some]
  split
  case isFalse => rfl
  case isTrue =>
    cases read : StartTag.read? behind with
    | none => rfl
    | some r =>
      obtain ⟨t, rest⟩ := r
      have text : s.toList = front ++ between ++ plain ++ t.text ++ rest := by
        rw [e, List.append_assoc _ t.text, StartTag.text_of_read? read]
      have stop : (t.rangeFrom (byteLength (front ++ between ++ plain))).stop =
          byteLength (front ++ between ++ plain ++ t.text) := (byteLength_append _ _).symm
      rw [Option.map_some]
      dsimp only
      rw [write?_rangeFrom text, Option.bind_some, stop]
      simp only [String.ofList_append]

/-- The filter goes on as `filterTags` does, behind what it still has to copy. -/
lemma filterFrom?_eq_some {between cs : List Char} (e : s.toList = front ++ between ++ cs) :
    filterFrom? s (byteLength front) (byteLength (front ++ between)) =
      some (String.ofList (between ++ filterTags cs)) := by
  induction size : cs.length using Nat.strong_induction_on generalizing front between cs with
  | _ n ih =>
    -- the induction goes from bracket to bracket; `between` grows where a bracket opens no tag
    obtain ⟨plain, rest, rfl, none, stop⟩ := exists_run (· != '<') cs
    rw [filterTags_plain none]
    rw [List.length_append] at size
    cases rest with
    | nil =>
      rw [List.append_nil] at e
      rw [filterFrom?_plain none e, filterTags_nil, List.append_nil]
    | cons c behind =>
      obtain rfl : c = '<' := by simpa using stop
      rw [List.length_cons] at size
      rw [← List.append_assoc] at e
      rw [filterFrom?_bracket none e]
      cases letter : startsWithLetter behind with
      | false =>
        have next : s.toList = front ++ (between ++ plain ++ ['<']) ++ behind := by simp [e]
        have outside : filterTags ('<' :: behind) = '<' :: filterTags behind :=
          filterTags_char (by simp [letter])
        rw [if_neg Bool.false_ne_true, ih behind.length (by omega) next rfl, outside]
        simp
      | true =>
        rw [if_pos rfl]
        cases read : StartTag.read? behind with
        | none => rw [filterTags_unclosed letter read, List.append_nil]
        | some r =>
          obtain ⟨t, rest⟩ := r
          have next : s.toList = front ++ between ++ plain ++ t.text ++ [] ++ rest := by
            rw [e, List.append_nil, List.append_assoc _ t.text, StartTag.text_of_read? read]
          have shorter := StartTag.length_of_read? read
          have further := ih rest.length (by omega) next rfl
          have tag : filterTags ('<' :: behind) = t.filtered.text ++ filterTags rest := by
            rw [filterTags, pieces_of_read? letter read]
            rfl
          rw [List.append_nil] at further
          dsimp only
          rw [further, tag]
          simp [String.append_assoc]

end

/-- A tag that is scanned at an opening bracket is one that is read there. -/
lemma exists_tag_of_scanTag? {s : String} {start t}
    (bracket : charAt? (bytesOf s) start = some '<') (h : scanTag? (bytesOf s) start = some t) :
    ∃ tag front rest, StartTag.Readable tag ∧ s.toList = front ++ tag.text ++ rest ∧
      byteLength front = start ∧ tag.rangeFrom start = t := by
  rw [bytesOf_eq] at bracket h
  obtain ⟨front, cs, e, rfl⟩ := exists_of_charAt?_encoded (by decide) bracket
  rw [scanTag?_encoded e, Option.map_eq_some_iff] at h
  obtain ⟨⟨tag, rest⟩, read, range⟩ := h
  have text := StartTag.text_of_read? read
  exact ⟨tag, front, rest, StartTag.readable_of_read? read,
    by rw [e, List.append_assoc, text], rfl, range⟩

/-- Wherever a tag is scanned at an opening bracket, with a letter behind it or without, the ranges
tile the tag on the boundaries of characters, so that it is written without a slice that is not
there. The filter as a whole finds every slice it asks for, and gives what `filterTags` does. -/
theorem scanned_tags_tile (s : String) :
    (∀ start t, charAt? (bytesOf s) start = some '<' → scanTag? (bytesOf s) start = some t →
      t.start = start ∧ t.Tiles s ∧ (t.write? s).isSome) ∧
    filter? s = some (String.ofList (filterTags s.toList)) := by
  constructor
  · intro start t bracket scanned
    obtain ⟨tag, front, rest, readable, e, rfl, rfl⟩ := exists_tag_of_scanTag? bracket scanned
    refine ⟨rfl, tiles_rangeFrom readable e, ?_⟩
    rw [write?_rangeFrom e, Option.isSome_some]
  · have begin : s.toList = [] ++ [] ++ s.toList := rfl
    exact filterFrom?_eq_some begin

/-- A tag behind a character of two bytes. It has a name of two bytes, a bracket in a quoted value,
a handler that is glued to the quote, and a script address. -/
def foreignMarkup : String :=
  "é<a ß=\"日>\"onx href=vbscript:1 />"

/-- The range of the tag in `foreignMarkup`. -/
def foreignRange : TagRange where
  start := 2
  nameStop := 4
  attrs := [⟨4, ⟨5, 7⟩, some ⟨8, 14⟩, 14⟩, ⟨14, ⟨14, 17⟩, none, 17⟩,
    ⟨17, ⟨18, 22⟩, some ⟨23, 33⟩, 33⟩]
  stop := 36

/-- The offsets of the tag are counted in bytes, and every slice of it is there. -/
theorem scanned_tags_tile_foreign :
    charAt? (bytesOf foreignMarkup) 2 = some '<' ∧
      scanTag? (bytesOf foreignMarkup) 2 = some foreignRange ∧
      foreignRange.Tiles foreignMarkup ∧
      filter? foreignMarkup = some "é<a ß=\"日>\" href=\"#\" />" := by
  have bracket : charAt? (bytesOf foreignMarkup) 2 = some '<' := by decide +kernel
  have scanned : scanTag? (bytesOf foreignMarkup) 2 = some foreignRange := by decide +kernel
  obtain ⟨tags, filtered⟩ := scanned_tags_tile foreignMarkup
  refine ⟨bracket, scanned, (tags 2 foreignRange bracket scanned).2.1, filtered.trans ?_⟩
  decide +kernel

end EmailTemplate.Markup
