import WikiText.Text.Blank

/-! # The parts of an image

An image has a text in brackets, and after it a target in parentheses, which may nest, with a title
in quotation marks.
-/

namespace WikiText.Markdown

/-- The text up to the bracket that closes `depth + 1` open ones, and the text after that. -/
def bracketed? (depth : Nat) : Text → Option (Text × Text)
  | [] => none
  | c :: s =>
    let inside (depth : Nat) := (bracketed? depth s).map fun (t, rest) => (c :: t, rest)
    if c = '[' then inside (depth + 1)
    else if c = ']' then
      match depth with
      | 0 => some ([], s)
      | d + 1 => inside d
    else inside depth

/-- A target and a title, as written. -/
structure LinkPart where
  target : Text
  title : Option Text
  rest : Text

namespace LinkPart

/-- A target in angle brackets, with a title in quotation marks if there is one. -/
private def angled? (s : Text) : Option LinkPart :=
  match s with
  | '<' :: s =>
    let target := s.takeWhile fun c => c ≠ '<' && c ≠ '>'
    match s.drop target.length with
    | '>' :: s =>
      let s := Text.trimStart s
      let titled := match s with
        | c :: t =>
          if c = '"' || c = '\x27' then
            (Text.splitOnce? [c] t).bind fun (title, rest) =>
              match Text.trimStart rest with
              | ')' :: rest => some ⟨Text.trim target, some title, rest⟩
              | _ => none
          else none
        | [] => none
      match titled, s with
      | some p, _ => some p
      | none, ')' :: rest => some ⟨Text.trim target, none, rest⟩
      | none, _ => none
    | _ => none
  | _ => none

/-- A quotation mark that was met: the index after it, and the index after the last one like it. -/
private structure Quote where
  mark : Char
  start : Nat
  stop : Option Nat := none

/-- The search for the parenthesis that closes a target: how many are open; how many would be open
if the first quotation mark opened no title, and where those close; the quotation marks of both
kinds; and the last character that is no space. -/
private structure Search where
  depth : Int := 1
  fallback : Int := 1
  fallbackStop : Nat := 0
  inTitle : Bool := false
  first : Option Quote := none
  second : Option Quote := none
  last : Option Char := none

private def closedBy (q : Option Quote) (last : Option Char) : Bool :=
  q.any fun q => q.stop.isSome && last = some q.mark

/-- Take one character, which ends at index `i`. -/
private def Search.take (st : Search) (c : Char) (i : Nat) : Search :=
  if c = '(' then
    if !st.inTitle then { st with depth := st.depth + 1 }
    else if st.fallback > 0 then { st with fallback := st.fallback - 1 }
    else st
  else if c = ')' then
    if closedBy st.first st.last || closedBy st.second st.last then { st with depth := 0 }
    else if !st.inTitle then { st with depth := st.depth - 1 }
    else if st.fallback > 0 then
      let fallback := st.fallback - 1
      { st with fallback, fallbackStop := if fallback = 0 then i else st.fallbackStop }
    else st
  else if c = '\x27' || c = '"' then
    match st.first, st.second with
    | none, _ =>
      { st with
        inTitle := true
        fallback := st.depth
        depth := 1
        first := some { mark := c, start := i } }
    | some q, second =>
      if c = q.mark then { st with first := some { q with stop := some i } }
      else match second with
        | none => { st with second := some { mark := c, start := i } }
        | some r => { st with second := some { r with stop := some i } }
  else st

/-- A target and a title between indices of a text. -/
private def cut (s : Text) (q : Quote) (rest : Text) : LinkPart :=
  ⟨s.take (q.start - 1), some ((s.drop q.start).take (q.stop.getD 0 - 1 - q.start)), rest⟩

/-- Search on in the text that begins at index `i` of `s`. -/
private def searchFrom (s : Text) (st : Search) (i : Nat) : Text → Option LinkPart
  | [] =>
    if st.depth ≠ 0 ∧ st.fallback = 0 then
      some ⟨s.take (st.fallbackStop - 1), none, s.drop st.fallbackStop⟩
    else none
  | c :: rest =>
    let st' := st.take c (i + 1)
    if st'.depth = 0 then
      match st'.first, st'.second with
      | some q, r =>
        if closedBy (some q) st'.last then some (cut s q rest)
        else if closedBy r st'.last then (r.map fun r => cut s r rest)
        else some ⟨s.take i, none, rest⟩
      | none, _ => some ⟨s.take i, none, rest⟩
    else searchFrom s { st' with last := if c = ' ' then st'.last else some c } (i + 1) rest

/-- The target and title with which a text begins. -/
def read? (s : Text) : Option LinkPart :=
  match s with
  | '(' :: s =>
    let s := Text.trimStart s
    (angled? s).or (searchFrom s {} 0 s)
  | _ => none

end LinkPart

end WikiText.Markdown
