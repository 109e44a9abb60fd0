import WikiText.Text.Basic
import WikiText.Text.DigitTable

/-!
# Decimal digits of all scripts
-/

namespace WikiText.Text

private def digitFrom (n : Nat) : List Nat → Option Nat
  | [] => none
  | z :: zs => if n < z then none else if n < z + 10 then some (n - z) else digitFrom n zs

/-- The value of a decimal digit of any script. -/
def digit? (c : Char) : Option Nat := digitFrom c.toNat noughts

def isDigit (c : Char) : Bool := (digit? c).isSome

/-- The value of a text of decimal digits of any scripts, read in base ten. -/
def digitsValue (s : Text) : Nat := s.foldl (fun n c => 10 * n + (digit? c).getD 0) 0

/-- The number that a non-empty text of decimal digits denotes. -/
def nat? (s : Text) : Option Nat :=
  if s.isEmpty || !s.all isDigit then none else some (digitsValue s)

/-- An ASCII digit. -/
def isAsciiDigit (c : Char) : Bool := '0' ≤ c && c ≤ '9'

theorem isAsciiDigit_iff {c : Char} : isAsciiDigit c = true ↔ 48 ≤ c.toNat ∧ c.toNat ≤ 57 := by
  rw [isAsciiDigit, Bool.and_eq_true, decide_eq_true_eq, decide_eq_true_eq]
  exact Iff.rfl

theorem digit?_of_isAsciiDigit {c : Char} (h : isAsciiDigit c) :
    digit? c = some (c.toNat - 48) := by
  obtain ⟨hlow, hhigh⟩ := isAsciiDigit_iff.1 h
  rw [digit?, noughts, digitFrom, if_neg (by omega), if_pos (by omega)]

theorem isDigit_of_isAsciiDigit {c : Char} (h : isAsciiDigit c) : isDigit c := by
  rw [isDigit, digit?_of_isAsciiDigit h, Option.isSome_some]

theorem digitsValue_eq_natOfDigits {s : Text} (h : s.all isAsciiDigit) :
    digitsValue s = natOfDigits s := by
  refine List.foldl_rel (r := (· = ·)) rfl fun c hc n m hnm => ?_
  rw [hnm, digit?_of_isAsciiDigit (List.all_eq_true.1 h c hc), Option.getD_some]

theorem all_isAsciiDigit_ofNat (n : Nat) : (ofNat n).all isAsciiDigit :=
  List.all_eq_true.2 fun _ => Nat.isDigit_of_mem_toDigits (by decide) (by decide)

theorem not_mem_ofNat {c : Char} (h : isAsciiDigit c = false) (n : Nat) : c ∉ ofNat n := fun hmem =>
  Bool.false_ne_true (h.symm.trans (List.all_eq_true.1 (all_isAsciiDigit_ofNat n) c hmem))

theorem all_isDigit_ofNat (n : Nat) : (ofNat n).all isDigit :=
  List.all_eq_true.2 fun c hc =>
    isDigit_of_isAsciiDigit (List.all_eq_true.1 (all_isAsciiDigit_ofNat n) c hc)

@[simp] theorem nat?_ofNat (n : Nat) : nat? (ofNat n) = some n := by
  have hne : (ofNat n).isEmpty = false := List.isEmpty_eq_false_iff.2 (ofNat_ne_nil n)
  rw [nat?, hne, all_isDigit_ofNat n, digitsValue_eq_natOfDigits (all_isAsciiDigit_ofNat n),
    natOfDigits_ofNat]
  rfl

/-- An ASCII letter. -/
def isAsciiLetter (c : Char) : Bool := ('a' ≤ c && c ≤ 'z') || ('A' ≤ c && c ≤ 'Z')

/-- An ASCII letter or digit. -/
def isAsciiAlnum (c : Char) : Bool := isAsciiDigit c || isAsciiLetter c

/-- The value of a hexadecimal digit. -/
def hexDigit? (c : Char) : Option Nat :=
  if '0' ≤ c && c ≤ '9' then some (c.toNat - 48)
  else if 'a' ≤ c && c ≤ 'f' then some (c.toNat - 87)
  else if 'A' ≤ c && c ≤ 'F' then some (c.toNat - 55)
  else none

def isHexDigit (c : Char) : Bool := (hexDigit? c).isSome

/-- The value of hexadecimal digits. -/
def hexValue (s : Text) : Nat := s.foldl (fun n c => 16 * n + (hexDigit? c).getD 0) 0

/-- `n` in lower-case hexadecimal digits, padded with zeros to a least width. -/
def hex (width n : Nat) : Text :=
  let ds := Nat.toDigits 16 n
  List.replicate (width - ds.length) '0' ++ ds

end WikiText.Text
