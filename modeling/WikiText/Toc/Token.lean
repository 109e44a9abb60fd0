import WikiText.Stash
import WikiText.Toc.Expand

/-! # Placeholders put aside

The placeholder lines of a document are put aside before its blocks are read, each as a token with
its index. In the rendered markup the tokens give way to the tables.
-/

namespace WikiText.Toc

/-- What begins a token. -/
def tokenOpening : Text := Stash.opening :: "mdextra-toc:".toList

/-- The token of the placeholder with index `k`. -/
def token (k : Nat) : Text := tokenOpening ++ Text.ofNat k ++ [Stash.closing]

/-- A document whose placeholders were put aside. -/
structure Recorded where
  lines : List Text
  placeholders : List Text
  stash : Stash

def recordFrom (k : Nat) (st : Stash) : List Text → Recorded
  | [] => ⟨[], [], st⟩
  | line :: rest =>
    if isPlaceholder line then
      let (marker, st) := st.store (token k)
      let r := recordFrom (k + 1) st rest
      ⟨[] :: marker :: [] :: r.lines, line :: r.placeholders, r.stash⟩
    else
      let r := recordFrom k st rest
      { r with lines := line :: r.lines }

/-- Put each placeholder line aside and leave its marker, with an empty line before and after it. -/
def record (lines : List Text) (st : Stash) : Recorded := recordFrom 0 st lines

/-! ## Tokens in rendered markup -/

/-- A token that was found: the index of its placeholder, and what it is written as. -/
structure Found where
  index : Nat
  written : Text
deriving DecidableEq, Repr

/-- Read a token: its index, and the text after it. -/
def token? (s : Text) : Option (Nat × Text) := do
  let s ← Text.strip? tokenOpening s
  let digits := s.takeWhile Text.isDigit
  let k ← Text.nat? digits
  match s.drop digits.length with
  | c :: s => if c = Stash.closing then some (k, s) else none
  | [] => none

/-- Read a token with the paragraph tags around it. -/
def found? (s : Text) : Option (Found × Text) :=
  (token? (Text.stripOptional "<p>".toList s)).map fun (k, rest) =>
    let rest := Text.stripOptional "</p>".toList rest
    (⟨k, s.take (s.length - rest.length)⟩, rest)

/-- A token is its opening, digits and its end. -/
theorem exists_of_token? {s rest : Text} {k : Nat} (h : token? s = some (k, rest)) :
    ∃ digits, s = tokenOpening ++ (digits ++ Stash.closing :: rest) := by
  simp only [token?, Option.bind_eq_bind, Option.bind_eq_some_iff] at h
  obtain ⟨t, ht, n, -, h⟩ := h
  split at h
  · next hdrop =>
    split at h
    · next hclosing =>
      cases h
      rw [hclosing] at hdrop
      exact ⟨_, by rw [Text.eq_append_of_strip? ht, ← Text.eq_append_of_drop_takeWhile hdrop]⟩
    · cases h
  · cases h

theorem length_lt_of_token? {s rest : Text} {k : Nat} (h : token? s = some (k, rest)) :
    rest.length < s.length := by
  obtain ⟨digits, rfl⟩ := exists_of_token? h
  simp only [List.length_append, List.length_cons]
  omega

/-- Finds tokens. -/
def Found.reader : Text.Reader Found where
  read? _ := found?
  length_lt {_ s _ _} h := by
    simp only [found?, Option.map_eq_some_iff, Prod.exists, Prod.mk.injEq] at h
    obtain ⟨k, r, hk, -, rfl⟩ := h
    have hlt := length_lt_of_token? hk
    have hs := (Text.stripOptional_suffix "<p>".toList s).length_le
    have hr := (Text.stripOptional_suffix "</p>".toList r).length_le
    omega

/-- The table that a token asks for. A token without a placeholder stays. -/
def Found.table (src : Source) (placeholders : List Text) (f : Found) : Text × List Warning :=
  match placeholders[f.index]? with
  | some line => expandLine src line
  | none => (f.written, [])

/-- Replace each token, and a paragraph that holds nothing else, by the table that its placeholder
asks for. -/
def restore (src : Source) (placeholders : List Text) (s : Text) : Text × List Warning :=
  let pieces := Found.reader.pieces true s
  (Text.Piece.fill (fun f => (f.table src placeholders).1) pieces,
    (Text.Piece.parts pieces).flatMap fun f => (f.table src placeholders).2)

end WikiText.Toc
