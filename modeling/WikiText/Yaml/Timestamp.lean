import WikiText.Config.Value
import WikiText.Text.Digit

/-! # Days and times -/

namespace WikiText.Yaml

/-- A day of the calendar, and a time of that day in seconds and millionths if there is one. -/
structure Timestamp where
  year : Nat
  month : Nat
  day : Nat
  time : Option (Nat × Nat)
deriving DecidableEq, Repr

/-- The part of a timestamp that is out of range. -/
inductive TimestampError where
  | year
  | month
  | day
  | hour
  | minute
  | second
deriving DecidableEq, Repr

def TimestampError.message : TimestampError → Text
  | .year => "year 0 is out of range".toList
  | .month => "month must be in 1..12".toList
  | .day => "day is out of range for month".toList
  | .hour => "hour must be in 0..23".toList
  | .minute => "minute must be in 0..59".toList
  | .second => "second must be in 0..59".toList

namespace Timestamp

private def isLeap (year : Nat) : Bool := year % 4 = 0 && (year % 100 ≠ 0 || year % 400 = 0)

private def daysOf (year month : Nat) : Nat :=
  if month = 2 then (if isLeap year then 29 else 28)
  else if month = 4 ∨ month = 6 ∨ month = 9 ∨ month = 11 then 30
  else 31

/-- A number at the front of a text, and the text after it. -/
private def number (s : Text) : Nat × Text :=
  let digits := s.takeWhile Text.isAsciiDigit
  (Text.natOfDigits digits, s.drop digits.length)

/-- The next number of a text, behind what separates it from the one before. -/
private def next (s : Text) : Nat × Text := number (s.dropWhile fun c => !Text.isAsciiDigit c)

/-- The millionths of a second, rounded at the seventh place. -/
private def millionths (places : Text) : Nat :=
  let digits := places ++ Text.copies (7 - places.length) '0'
  let n := Text.natOfDigits (digits.take 6) + if digits[6]?.any ('4' < ·) then 1 else 0
  if n > 999999 then 0 else n

/-- A day later or earlier. -/
private def move (t : Timestamp) : Int → Timestamp
  | 0 => t
  | .ofNat _ =>
    if t.day < daysOf t.year t.month then { t with day := t.day + 1 }
    else if t.month < 12 then { t with month := t.month + 1, day := 1 }
    else { t with year := t.year + 1, month := 1, day := 1 }
  | .negSucc _ =>
    if 1 < t.day then { t with day := t.day - 1 }
    else if 1 < t.month then { t with month := t.month - 1, day := daysOf t.year (t.month - 1) }
    else { t with year := t.year - 1, month := 12, day := 31 }

/-- The timestamp at universal time, given the seconds by which its zone is ahead. -/
private def toUniversal (t : Timestamp) (seconds fraction : Nat) (ahead : Int) : Timestamp :=
  let s : Int := seconds - ahead
  { t.move (if s < 0 then -1 else if s ≥ 86400 then 1 else 0) with
    time := some ((s % 86400).toNat, fraction) }

/-- The seconds by which a zone is ahead. -/
private def zone (s : Text) : Int :=
  let s := s.dropWhile fun c => c = ' ' || c = '\t'
  match s with
  | c :: t =>
    let (hours, t) := number t
    let seconds : Int := hours * 3600 + (next t).1 * 60
    if c = '-' then -seconds else if c = '+' then seconds else 0
  | [] => 0

/-- The timestamp in a text of its form. -/
def ofText (s : Text) : Except TimestampError Timestamp :=
  let (year, s) := number s
  let (month, s) := next s
  let (day, s) := next s
  if year = 0 then .error .year
  else if month = 0 ∨ 12 < month then .error .month
  else if day = 0 ∨ daysOf year month < day then .error .day
  else
    let t : Timestamp := ⟨year, month, day, none⟩
    if s.isEmpty then .ok t
    else
      let (hour, s) := next s
      let (minute, s) := next s
      let (second, s) := next s
      let (places, s) := match s with
        | '.' :: s => (s.takeWhile Text.isAsciiDigit, s.dropWhile Text.isAsciiDigit)
        | s => ([], s)
      if 23 < hour then .error .hour
      else if 59 < minute then .error .minute
      else if 59 < second then .error .second
      else .ok (t.toUniversal (hour * 3600 + minute * 60 + second) (millionths places) (zone s))

private def padded (width n : Nat) : Text :=
  let digits := Text.ofNat n
  Text.copies (width - digits.length) '0' ++ digits

/-- A timestamp as it is shown. -/
def toText (t : Timestamp) : Text :=
  let day := padded 4 t.year ++ '-' :: padded 2 t.month ++ '-' :: padded 2 t.day
  match t.time with
  | none => day
  | some (s, fraction) =>
    let clock := [s / 3600, s / 60 % 60, s % 60].map (padded 2)
    day ++ ' ' :: Text.joinWith [':'] clock ++ if fraction = 0 then [] else '.' :: padded 6 fraction

/-- A timestamp as it is shown inside another value: its parts, without noughts at the end of a
time. -/
def quoted (t : Timestamp) : Text :=
  let call (name : String) (parts : List Nat) : Text :=
    name.toList ++ '(' :: Text.joinWith ", ".toList (parts.map Text.ofNat) ++ [')']
  match t.time with
  | none => call "datetime.date" [t.year, t.month, t.day]
  | some (s, fraction) =>
    let last := if fraction ≠ 0 then [s % 60, fraction] else if s % 60 ≠ 0 then [s % 60] else []
    call "datetime.datetime" ([t.year, t.month, t.day, s / 3600, s / 60 % 60] ++ last)

/-- A timestamp as a value. -/
def value (t : Timestamp) : Value := .other t.toText t.quoted

end Timestamp

end WikiText.Yaml
