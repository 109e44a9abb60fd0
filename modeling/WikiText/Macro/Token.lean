import WikiText.Text.Blank
import WikiText.Text.Lower
import WikiText.Text.Word

/-! # Macro tokens

A token is a name in doubled braces, which may have arguments in parentheses. An exclamation mark
before it escapes it.
-/

namespace WikiText.Macro

/-- A token as written: whether it is escaped, its name, and the text between its parentheses if it
has them. -/
structure Token where
  escaped : Bool
  written : Text
  arguments : Option Text
deriving DecidableEq, Repr

namespace Token

/-- The name that the token calls. -/
def name (t : Token) : Text := Text.lower t.written

/-- The text of the arguments. -/
def rawArgs (t : Token) : Text := t.arguments.getD []

/-- The arguments: what stands between the commas, without the white space around it. -/
def args (t : Token) : List Text :=
  if t.rawArgs.isEmpty then [] else (Text.splitOn ',' t.rawArgs).map Text.trim

def parenthesised : Option Text → Text
  | none => []
  | some a => '(' :: a ++ [')']

/-- The token without the mark that escapes it. -/
def source (t : Token) : Text :=
  '\x7b' :: '\x7b' :: t.written ++ parenthesised t.arguments ++ ['\x7d', '\x7d']

/-- The token as it stands in the markup. -/
def markup (t : Token) : Text := if t.escaped then '!' :: t.source else t.source

/-- Read arguments up to the braces that close a token. They hold no closing brace. -/
def arguments? (s : Text) : Option (Text × Text) :=
  match (s.takeWhile (· ≠ '\x7d')).reverse, s.dropWhile (· ≠ '\x7d') with
  | ')' :: args, '\x7d' :: '\x7d' :: rest => some (args.reverse, rest)
  | _, _ => none

/-- Read a token after its opening braces. -/
def body? (escaped : Bool) (s : Text) : Option (Token × Text) :=
  let name := s.takeWhile Text.isWord
  if name = [] then none
  else match s.dropWhile Text.isWord with
    | '\x7d' :: '\x7d' :: rest => some (⟨escaped, name, none⟩, rest)
    | '(' :: s => (arguments? s).map fun (args, rest) => (⟨escaped, name, some args⟩, rest)
    | _ => none

/-- The token with which a text begins, and the text after it. -/
def read? : Text → Option (Token × Text)
  | '!' :: '\x7b' :: '\x7b' :: s => body? true s
  | '\x7b' :: '\x7b' :: s => body? false s
  | _ => none

theorem eq_of_arguments? {s args rest : Text} (h : arguments? s = some (args, rest)) :
    s = args ++ ')' :: '\x7d' :: '\x7d' :: rest := by
  unfold arguments? at h
  split at h
  · next a r ha hr =>
    simp only [Option.some.injEq, Prod.mk.injEq] at h
    obtain ⟨rfl, rfl⟩ := h
    rw [← List.takeWhile_append_dropWhile (p := fun c => decide (c ≠ '\x7d')) (l := s), hr,
      List.reverse_eq_iff.1 ha]
    simp
  · simp at h

theorem eq_of_body? {e : Bool} {s rest : Text} {t : Token}
    (h : body? e s = some (t, rest)) :
    t.escaped = e ∧ '\x7b' :: '\x7b' :: s = t.source ++ rest := by
  have hs := List.takeWhile_append_dropWhile (p := Text.isWord) (l := s)
  unfold body? at h
  simp only at h
  split at h
  · simp at h
  · split at h
    · next r hr =>
      simp only [Option.some.injEq, Prod.mk.injEq] at h
      obtain ⟨rfl, rfl⟩ := h
      rw [hr] at hs
      exact ⟨rfl, by simpa [source, parenthesised] using hs.symm⟩
    · next r hr =>
      simp only [Option.map_eq_some_iff, Prod.exists, Prod.mk.injEq] at h
      obtain ⟨args, r', ha, rfl, rfl⟩ := h
      rw [hr, eq_of_arguments? ha] at hs
      exact ⟨rfl, by simpa [source, parenthesised] using hs.symm⟩
    · simp at h

theorem eq_append_of_read? {s rest : Text} {t : Token} (h : read? s = some (t, rest)) :
    s = t.markup ++ rest := by
  unfold read? at h
  split at h
  · obtain ⟨he, hs⟩ := eq_of_body? h
    simp [markup, he, hs]
  · obtain ⟨he, hs⟩ := eq_of_body? h
    simp [markup, he, hs]
  · simp at h

theorem length_lt_of_read? {s rest : Text} {t : Token} (h : read? s = some (t, rest)) :
    rest.length < s.length := by
  rw [eq_append_of_read? h]
  simp only [markup, source]
  split <;> simp <;> omega

end Token

/-- A part of a markup: a token, or a character outside all tokens. -/
inductive Piece where
  | char (c : Char)
  | token (t : Token)
deriving DecidableEq, Repr

def Piece.markup : Piece → Text
  | .char c => [c]
  | .token t => t.markup

/-- The parts of a markup from left to right. -/
def pieces (s : Text) : List Piece :=
  match h : Token.read? s with
  | some (t, rest) =>
    have := Token.length_lt_of_read? h
    .token t :: pieces rest
  | none => match s with
    | [] => []
    | c :: s => .char c :: pieces s
termination_by s.length

/-- The tokens of a markup from left to right. -/
def tokens (s : Text) : List Token :=
  (pieces s).filterMap fun
    | .token t => some t
    | .char _ => none

end WikiText.Macro
