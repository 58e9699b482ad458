import EmailTemplate.Html.RefName

/-!
# Character references

A reference runs from an ampersand to the next semicolon, with no ampersand in between, and names
a character by number or by name. What is not a reference stays as it is written, and the result
is not read a second time.
-/

namespace EmailTemplate.Html

/-- The value of a digit in a base up to sixteen. -/
def digitValue? (base : Nat) (c : Char) : Option Nat :=
  let value :=
    if c.isDigit then some (c.toNat - 48)
    else if 'a' ≤ c && c ≤ 'f' then some (c.toNat - 87)
    else if 'A' ≤ c && c ≤ 'F' then some (c.toNat - 55)
    else none
  value.filter (· < base)

/-- The number that a non-empty run of digits denotes. -/
def number? (base : Nat) : List Char → Option Nat
  | [] => none
  | cs => (cs.mapM (digitValue? base)).map (·.foldl (fun n d => base * n + d) 0)

/-- Whether a number may be given as a reference: a scalar value, and of the controls below the
space only tab, line feed, form feed and carriage return. -/
def isReferable (n : Nat) : Bool :=
  decide n.isValidChar && (0x20 ≤ n || n == 9 || n == 10 || n == 12 || n == 13)

/-- The character with a number that may be given as a reference. -/
def numberedChar? (n : Option Nat) : Option Char :=
  (n.filter isReferable).map Char.ofNat

/-- The character denoted by what stands between an ampersand and a semicolon. -/
def reference? : List Char → Option Char
  | '#' :: 'x' :: digits => numberedChar? (number? 16 digits)
  | '#' :: 'X' :: digits => numberedChar? (number? 16 digits)
  | '#' :: digits => numberedChar? (number? 10 digits)
  | name => namedChar? name

/-- A character that neither ends a reference nor starts one. -/
def isRefBody (c : Char) : Bool :=
  c != ';' && c != '&'

/-- The text with its references replaced by the characters they denote. -/
def decodeRefs : List Char → List Char
  | [] => []
  | c :: cs =>
    if c == '&' then
      match cs.dropWhile isRefBody with
      | ';' :: _ =>
        match reference? (cs.takeWhile isRefBody) with
        | some denoted => denoted :: decodeRefs ((cs.dropWhile isRefBody).drop 1)
        | none => '&' :: decodeRefs cs
      | _ => '&' :: decodeRefs cs
    else c :: decodeRefs cs
termination_by cs => cs.length
decreasing_by
  all_goals simp only [List.length_drop, List.length_cons]
  all_goals try omega
  have := (List.dropWhile_suffix isRefBody (l := cs)).length_le
  omega

end EmailTemplate.Html
