import WikiText.Text.Blank
import WikiText.Text.Digit
import WikiText.Text.Lower

/-! # Start tags in source text -/

namespace WikiText.Markdown

/-- A start tag: its name in lower case, whether it closes itself, and the text after it. -/
structure StartTag where
  name : Text
  closesItself : Bool
  rest : Text

private def endsName (c : Char) : Bool :=
  c = '\x60' || c = '\t' || c = '\n' || c = '\r' || c = '\x0c' || c = ' ' || c = '/' || c = '>' ||
    c.toNat = 0

private def endsAttribute (c : Char) : Bool := Text.isBlank c || c = '/' || c = '=' || c = '>'

private def endsBareValue (c : Char) : Bool := c = '\x60' || c = '>' || Text.isBlank c

/-- The text after commas and the white space before them. -/
private def dropCommas : (fuel : Nat) → Text → Text
  | 0, s => s
  | fuel + 1, s => match Text.trimStart s with
    | ',' :: s => dropCommas fuel s
    | _ => s

/-- Pass over the value of an attribute: whether it ended with a quotation mark, and the text after
it. There may be no value. -/
private def value? (s : Text) : Option (Bool × Text) :=
  match Text.trimStart s with
  | '=' :: t =>
    match Text.trimStart (t.dropWhile (· = '=')) with
    | c :: v =>
      if c = '"' ∨ c = '\x27' then (Text.splitOnce? [c] v).map fun (_, rest) => (true, rest)
      else some (false, (c :: v).dropWhile fun c => !endsBareValue c)
    | [] => some (false, [])
  | _ => some (false, s)

/-- Pass over attributes up to the end of the tag: whether a slash stands there, and the text after
the tag. An attribute follows white space, a slash or a quotation mark. Each step takes a character
at least, so `fuel` is the text's length. -/
private def tagAttributes? : (fuel : Nat) → (separated slash : Bool) → Text → Option (Bool × Text)
  | 0, _, _, _ => none
  | _, _, _, [] => none
  | fuel + 1, separated, slash, c :: s =>
    if c = '>' then some (slash, s)
    else if c = '/' then tagAttributes? fuel true true s
    else if Text.isBlank c then tagAttributes? fuel true false s
    else if c = '\x60' || !separated then none
    else match value? (s.dropWhile fun c => !endsAttribute c) with
      | some (quoted, rest) => tagAttributes? fuel quoted false (dropCommas rest.length rest)
      | none => none

/-- The start tag with which a text begins. -/
def StartTag.read? : Text → Option StartTag
  | '<' :: c :: s =>
    if Text.isAsciiLetter c then
      let name := c :: s.takeWhile fun c => !endsName c
      let attributes? := tagAttributes? (s.length + 1) false false ((c :: s).drop name.length)
      attributes?.map fun (slash, rest) => ⟨Text.lower name, slash, rest⟩
    else none
  | _ => none

/-! ## What is read is taken from the front -/

private theorem suffix_dropCommas (fuel : Nat) (s : Text) : dropCommas fuel s <:+ s := by
  induction fuel generalizing s with
  | zero => exact List.suffix_rfl
  | succ fuel ih =>
    rw [dropCommas]
    split
    · next t ht =>
      have hsuffix : ',' :: t <:+ s := ht ▸ List.dropWhile_suffix Text.isBlank
      exact (ih t).trans ((List.suffix_cons _ t).trans hsuffix)
    · exact List.suffix_rfl

private theorem suffix_of_value? {s rest : Text} {quoted : Bool}
    (h : value? s = some (quoted, rest)) : rest <:+ s := by
  rw [value?] at h
  split at h
  · next t ht =>
    have hsuffix : '=' :: t <:+ s := ht ▸ List.dropWhile_suffix Text.isBlank
    have hequals : t.dropWhile (· = '=') <:+ s :=
      (List.dropWhile_suffix _).trans ((List.suffix_cons _ t).trans hsuffix)
    split at h
    · next c v hv =>
      have hbehind : c :: v <:+ t.dropWhile (· = '=') := hv ▸ List.dropWhile_suffix Text.isBlank
      have hvalue := hbehind.trans hequals
      split at h
      · obtain ⟨⟨inside, after⟩, hafter, he⟩ := Option.map_eq_some_iff.1 h
        cases he
        have hquoted : rest <:+ v :=
          ⟨inside ++ [c], by rw [Text.eq_append_of_splitOnce? hafter]⟩
        exact hquoted.trans ((List.suffix_cons c v).trans hvalue)
      · cases h
        exact (List.dropWhile_suffix _).trans hvalue
    · cases h
      exact List.nil_suffix
  · cases h
    exact List.suffix_rfl

private theorem suffix_of_tagAttributes? {fuel : Nat} {separated slash last : Bool}
    {s rest : Text} (h : tagAttributes? fuel separated slash s = some (last, rest)) :
    rest <:+ s := by
  induction fuel generalizing separated slash s with
  | zero => cases h
  | succ fuel ih =>
    cases s with
    | nil => cases h
    | cons c s =>
      rw [tagAttributes?] at h
      split at h
      · cases h
        exact List.suffix_cons c rest
      split at h
      · exact (ih h).trans (List.suffix_cons c s)
      split at h
      · exact (ih h).trans (List.suffix_cons c s)
      split at h
      · cases h
      split at h
      · next quoted after hvalue =>
        exact (ih h).trans ((suffix_dropCommas _ _).trans
          ((suffix_of_value? hvalue).trans
            ((List.dropWhile_suffix _).trans (List.suffix_cons c s))))
      · cases h

/-- A start tag takes more than what it begins with. -/
theorem StartTag.suffix_of_read? {s : Text} {t : StartTag} (h : read? s = some t) :
    t.rest <:+ s.tail := by
  unfold read? at h
  split at h
  · split at h
    · obtain ⟨⟨slash, rest⟩, hrest, he⟩ := Option.map_eq_some_iff.1 h
      cases he
      exact (suffix_of_tagAttributes? hrest).trans (List.drop_suffix _ _)
    · cases h
  · cases h

end WikiText.Markdown
