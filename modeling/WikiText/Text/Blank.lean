import WikiText.Text.Basic

/-!
# White space

One class serves every rule that speaks of white space: the control characters that separate
lines, fields and records, and the space characters of all scripts.
-/

namespace WikiText.Text

/-- Whether a character is white space. -/
def isBlank (c : Char) : Bool :=
  let n := c.toNat
  (9 ≤ n && n ≤ 13) || (28 ≤ n && n ≤ 32) || n == 0x85 || n == 0xA0 || n == 0x1680 ||
    (0x2000 ≤ n && n ≤ 0x200A) || n == 0x2028 || n == 0x2029 || n == 0x202F || n == 0x205F ||
    n == 0x3000

/-- Drop white space from both ends. -/
def trim : Text → Text := trimWhile isBlank

/-- Drop white space from the front. -/
def trimStart : Text → Text := List.dropWhile isBlank

/-- Drop white space from the end. -/
def trimEnd : Text → Text := dropEndWhile isBlank

/-- Whether a text holds nothing but white space. -/
def allBlank (s : Text) : Bool := s.all isBlank

def consWord (c : Char) (ws : List Text × Text) : List Text × Text :=
  if isBlank c then (if ws.2.isEmpty then ws else (ws.2 :: ws.1, [])) else (ws.1, c :: ws.2)

/-- The words of a text: its maximal runs without white space. -/
def words (s : Text) : List Text :=
  let (ws, w) := s.foldr consWord ([], [])
  if w.isEmpty then ws else w :: ws

/-- White space trimmed, and each inner run of it made one space. -/
def collapseBlanks (s : Text) : Text := joinWith [' '] (words s)

end WikiText.Text
