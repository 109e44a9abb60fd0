import WikiText.Text.Basic

/-! # Binary floating-point numbers of 64 bits, read from decimals -/

namespace WikiText

/-- A finite number is `mantissa * 2 ^ exponent` with its sign. The mantissa is below `2 ^ 53`, and
at least `2 ^ 52` unless the exponent is the least one. -/
inductive Binary64 where
  | nan
  | infinite (negative : Bool)
  | finite (negative : Bool) (mantissa : Nat) (exponent : Int)
deriving DecidableEq, Repr

namespace Binary64

/-- The least mantissa of 53 bits. -/
def hiddenBit : Nat := Nat.pow 2 52

/-- The exponent of the numbers nearest to zero. -/
def leastExponent : Int := -1074

/-- The exponent of the largest numbers. -/
def greatestExponent : Int := 971

/-- `n / d` rounded to a whole number; a half goes to the even neighbour. -/
def roundDiv (n d : Nat) : Nat :=
  let q := n / d
  let twice := 2 * (n % d)
  if twice < d then q else if twice > d then q + 1 else if q % 2 = 0 then q else q + 1

/-- `n * base ^ e` as a numerator and a denominator. -/
private def scaled (base : Nat) (e : Int) (n d : Nat) : Nat × Nat :=
  match e with
  | .ofNat k => (n * Nat.pow base k, d)
  | .negSucc k => (n, d * Nat.pow base (k + 1))

/-- The exponent under which the positive `n / d` has a mantissa of 53 bits. -/
private def exponentOf (n d : Nat) : Int :=
  let guess : Int := (Nat.log2 n : Int) - (Nat.log2 d : Int) - 53
  let (n₁, d₁) := scaled 2 (-guess - 1) n d
  if n₁ / d₁ < hiddenBit then guess else guess + 1

/-- The number nearest to `± n / d`. -/
def ofRatio (negative : Bool) (n d : Nat) : Binary64 :=
  if n = 0 then .finite negative 0 leastExponent
  else
    let e := max (exponentOf n d) leastExponent
    let (n', d') := scaled 2 (-e) n d
    let m := roundDiv n' d'
    let (m, e) := if m = 2 * hiddenBit then (hiddenBit, e + 1) else (m, e)
    if e > greatestExponent then .infinite negative else .finite negative m e

/-- The number nearest to the decimal `± digits * 10 ^ power`. -/
def ofDecimal (negative : Bool) (digits : Nat) (power : Int) : Binary64 :=
  if digits = 0 then ofRatio negative 0 1
  else if power > 400 then .infinite negative
  else if power < -400 - ((Nat.toDigits 10 digits).length : Int) then ofRatio negative 0 1
  else
    let (n, d) := scaled 10 power digits 1
    ofRatio negative n d

/-- The whole number that a finite number is equal to, if there is one. -/
def toInt? : Binary64 → Option Int
  | .finite negative m e =>
    let (n, d) := scaled 2 e m 1
    if n % d = 0 then some (if negative then -(n / d : Int) else (n / d : Int)) else none
  | _ => none

/-- Whether two numbers are equal as numbers: zeros are, whatever their sign, and a NaN never is. -/
def numEq : Binary64 → Binary64 → Bool
  | .infinite a, .infinite b => a == b
  | .finite a m e, .finite b m' e' => (m == 0 && m' == 0) || (a == b && m == m' && e == e')
  | _, _ => false

/-! ## The fewest digits that read back -/

/-- The reals that round to a number, in units of a quarter of its last place: the number itself,
its lower and its upper bound, and whether the bounds belong to it. -/
private structure Interval where
  middle : Nat
  lower : Nat
  upper : Nat
  closed : Bool
  exponent : Int

private def intervalOf (m : Nat) (e : Int) : Interval :=
  { middle := 4 * m
    lower := if m = hiddenBit ∧ e ≠ leastExponent then 4 * m - 1 else 4 * m - 2
    upper := 4 * m + 2
    closed := m % 2 = 0
    exponent := e - 2 }

/-- Compare `a * 10 ^ g` with `b * 2 ^ e`. -/
private def compareScaled (a : Nat) (g : Int) (b : Nat) (e : Int) : Ordering :=
  let (n₁, d₁) := scaled 10 g a 1
  let (n₂, d₂) := scaled 2 e b 1
  compare (n₁ * d₂) (n₂ * d₁)

/-- Whether `c * 10 ^ g` lies in the interval. -/
private def Interval.holds (i : Interval) (c : Nat) (g : Int) : Bool :=
  let low := compareScaled c g i.lower i.exponent
  let high := compareScaled c g i.upper i.exponent
  (low == .gt || (i.closed && low == .eq)) && (high == .lt || (i.closed && high == .eq))

/-- The nearest point of the grid of step `10 ^ g` that lies in the interval. -/
private def Interval.point? (i : Interval) (g : Int) : Option Nat :=
  let (n₁, d₁) := scaled 2 i.exponent i.middle 1
  let (n, d) := scaled 10 (-g) n₁ d₁
  let floor := n / d
  let nearest := roundDiv n d
  let other := if nearest = floor then floor + 1 else floor
  if i.holds nearest g then some nearest
  else if i.holds other g then some other
  else none

private def digitCount (n : Nat) : Int := ((Nat.toDigits 10 n).length : Int)

/-- The `k` for which the positive `n / d` is below `10 ^ k` and not below `10 ^ (k - 1)`. -/
private def magnitude (n d : Nat) : Int :=
  if n ≥ d then digitCount (n / d) else 1 - digitCount ((d - 1) / n)

private def shortestFrom (i : Interval) (k : Int) : (fuel count : Nat) → Nat × Int
  | 0, _ => (0, 0)
  | fuel + 1, count => match i.point? (k - count) with
    | some c => (c, k - count)
    | none => shortestFrom i k fuel (count + 1)

/-- The fewest digits `c` and the power `g` such that `c * 10 ^ g` rounds to the positive number. -/
def shortest (m : Nat) (e : Int) : Nat × Int :=
  let (n, d) := scaled 2 e m 1
  shortestFrom (intervalOf m e) (magnitude n d) 18 1

/-! ## Writing a number -/

/-- Digits without their trailing noughts, and the power raised by the noughts dropped. -/
private def trimZeros (digits : Text) (power : Int) : Text × Int :=
  let kept := Text.dropEndWhile (· == '0') digits
  (kept, power + ((digits.length - kept.length : Nat) : Int))

/-- Positional between `1e-4` and `1e16`, with at least one digit after the point; else one digit
before the point and an exponent with a sign and at least two digits. -/
private def layout (digits : Text) (power : Int) : Text :=
  let point : Int := power + digits.length
  if -4 < point ∧ point ≤ 16 then
    if point ≤ 0 then "0.".toList ++ List.replicate (-point).toNat '0' ++ digits
    else
      let before := digits.take point.toNat
      let after := digits.drop point.toNat
      before ++ List.replicate (point.toNat - digits.length) '0' ++ ['.'] ++
        (if after.isEmpty then ['0'] else after)
  else
    let exponent := point - 1
    let written := Text.ofNat exponent.natAbs
    digits.take 1 ++ (if digits.length > 1 then '.' :: digits.drop 1 else []) ++
      ['e', if exponent < 0 then '-' else '+'] ++
      List.replicate (2 - written.length) '0' ++ written

/-- The decimal text of a number. -/
def toText : Binary64 → Text
  | .nan => "nan".toList
  | .infinite negative => (if negative then "-inf" else "inf").toList
  | .finite negative m e =>
    let sign := if negative then ['-'] else []
    if m = 0 then sign ++ "0.0".toList
    else
      let (c, g) := shortest m e
      let (digits, power) := trimZeros (Text.ofNat c) g
      sign ++ layout digits power

end Binary64

end WikiText
