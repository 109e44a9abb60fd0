import Mathlib.Data.List.TakeWhile
import WikiText.Template.Fill

/-!
# Templates as they are written

A template can be written piece by piece: text with its braces doubled, and fields that name an
argument by its number, or all of them together. Filling it in gives the pieces back one by one,
whatever stands in the arguments: see `fill_written`.

A template is read in parts, and a part takes all the text in front of a field or a doubled brace.
So the pieces are followed behind text that is already read but not yet taken: see `Gives`.
-/

namespace WikiText.Template

/-! ## Numbers -/

theorem le_ofDigitChars (s : Text) (m : Nat) : m ≤ Nat.ofDigitChars 10 s m := by
  induction s generalizing m with
  | nil => exact Nat.le_refl m
  | cons c s ih =>
    rw [Nat.ofDigitChars_cons]
    have := ih (10 * m + (c.toNat - '0'.toNat))
    omega

/-- Digits are read until their number gets too great. -/
theorem number?_go_some {s : Text} (hs : ∀ c ∈ s, Text.isAsciiDigit c = true) {m : Nat}
    (hm : m ≤ greatestNumber) :
    number?.go (some m) s =
      if greatestNumber < Nat.ofDigitChars 10 s m then .error .tooManyDigits
      else .ok (some (Nat.ofDigitChars 10 s m), []) := by
  induction s generalizing m with
  | nil => rw [number?.go, Nat.ofDigitChars_nil, if_neg (Nat.not_lt.2 hm)]
  | cons c s ih =>
    obtain ⟨hc, hs⟩ := List.forall_mem_cons.1 hs
    have hvalue : m * 10 + (c.toNat - 48) = 10 * m + (c.toNat - '0'.toNat) := by
      rw [Nat.mul_comm]
      rfl
    simp only [number?.go, Text.digit?_of_isAsciiDigit hc, Option.getD_some, Nat.ofDigitChars_cons,
      hvalue]
    split
    · next hgreat => rw [if_pos (Nat.lt_of_lt_of_le hgreat (le_ofDigitChars s _))]
    · next hgreat => rw [ih hs (Nat.le_of_not_lt hgreat)]

theorem number?_ofNat (i : Nat) :
    number? (Text.ofNat i) =
      if greatestNumber < i then .error .tooManyDigits else .ok (some i, []) := by
  have hstart : number?.go none (Text.ofNat i) = number?.go (some 0) (Text.ofNat i) := by
    cases h : Text.ofNat i with
    | nil => exact absurd h (Text.ofNat_ne_nil i)
    | cons c s =>
      have hc := List.all_eq_true.1 (Text.all_isAsciiDigit_ofNat i) c (h ▸ List.mem_cons_self)
      simp only [number?.go, Text.digit?_of_isAsciiDigit hc, Option.getD_none, Option.getD_some]
  have hvalue : Nat.ofDigitChars 10 (Text.ofNat i) 0 = i := Nat.ofDigitChars_ten_toDigits
  rw [number?, hstart, number?_go_some (List.all_eq_true.1 (Text.all_isAsciiDigit_ofNat i))
    (Nat.zero_le _), hvalue]

theorem index?_ofNat (i : Nat) :
    index? (Text.ofNat i) =
      if greatestNumber < i then .error .tooManyDigits else .ok (some i) := by
  rw [index?, number?_ofNat]
  split <;> rfl

/-! ## Fields -/

/-- A character of a name that is one word. -/
def IsNameChar (c : Char) : Prop :=
  c ≠ '\x7b' ∧ c ≠ '\x7d' ∧ c ≠ ':' ∧ c ≠ '!' ∧ c ≠ '[' ∧ c ≠ '.'

instance (c : Char) : Decidable (IsNameChar c) := inferInstanceAs (Decidable (_ ∧ _))

theorem isNameChar_of_mem_ofNat {i : Nat} {c : Char} (h : c ∈ Text.ofNat i) : IsNameChar c := by
  have hno (d : Char) (hd : Text.isAsciiDigit d = false) : c ≠ d := fun hcd =>
    Text.not_mem_ofNat hd i (hcd ▸ h)
  exact ⟨hno _ rfl, hno _ rfl, hno _ rfl, hno _ rfl, hno _ rfl, hno _ rfl⟩

theorem name?_append {name : Text} (hname : ∀ c ∈ name, IsNameChar c) (s : Text) :
    name? false (name ++ '\x7d' :: s) = .ok (name, '\x7d', s) := by
  induction name with
  | nil => rfl
  | cons c name ih =>
    obtain ⟨⟨hopen, hclose, hcolon, hmark, hitem, -⟩, hname⟩ := List.forall_mem_cons.1 hname
    rw [List.cons_append, name?, if_neg hopen, if_neg (by simp [hclose, hcolon, hmark]),
      decide_eq_false hitem, ih hname]
    rfl

/-- A name that is one word is followed no further than the argument that it stands for. -/
theorem lookup_of_isNameChar {name : Text} (hname : ∀ c ∈ name, IsNameChar c) (args : Arguments)
    (numbering : Numbering) : lookup args numbering name = first args numbering name := by
  have hhead : name.takeWhile (fun c => !endsPart c) = name := by
    refine List.takeWhile_eq_self_iff.2 fun c hc => ?_
    obtain ⟨-, -, -, -, hitem, hdot⟩ := hname c hc
    simp [endsPart, hitem, hdot]
  rw [lookup, hhead, List.drop_length]
  cases first args numbering name with
  | error e => rfl
  | ok found => cases name <;> rfl

/-- Fields are not numbered by their order. -/
def Numbering.IsGiven (numbering : Numbering) : Prop := ∀ n, numbering ≠ .automatic n

theorem lookup_ofNat {numbering : Numbering} (h : numbering.IsGiven) (args : Arguments) (i : Nat) :
    lookup args numbering (Text.ofNat i) =
      if greatestNumber < i then .error .tooManyDigits
      else (argument args i).map (·, .manual) := by
  rw [lookup_of_isNameChar fun c => isNameChar_of_mem_ofNat, first.eq_def, index?_ofNat]
  split
  · rfl
  · cases numbering with
    | automatic n => exact absurd rfl (h n)
    | _ => rfl

/-- A name that is one word, and no number. -/
structure IsWord (name : Text) : Prop where
  ne_nil : name ≠ []
  all : ∀ c ∈ name, IsNameChar c
  index? : index? name = .ok none

theorem isWord_args : IsWord "args".toList := ⟨by decide, by decide, rfl⟩

/-- A word stands for what goes by it, however fields are numbered. -/
theorem IsWord.lookup {name value : Text} (h : IsWord name) {args : Arguments}
    (hvalue : args.named.lookup name = some value) (numbering : Numbering) :
    lookup args numbering name = .ok (value, numbering) := by
  have hempty : name.isEmpty = false := List.isEmpty_eq_false_iff.2 h.ne_nil
  rw [lookup_of_isNameChar h.all, first.eq_def, h.index?]
  simp only [bind, Except.bind, hempty, Bool.false_eq_true, if_false, hvalue]

/-! ## Parts -/

/-- Text that can stand in a template as it is. -/
def IsBare (s : Text) : Prop := ∀ c ∈ s, c ≠ '\x7b' ∧ c ≠ '\x7d'

theorem IsBare.takeWhile {s : Text} (h : IsBare s) :
    s.takeWhile (fun c => c ≠ '\x7b' ∧ c ≠ '\x7d') = s :=
  List.takeWhile_eq_self_iff.2 fun c hc => decide_eq_true (h c hc)

theorem IsBare.takeWhile_append {s : Text} (h : IsBare s) {c : Char}
    (hc : c = '\x7b' ∨ c = '\x7d') (rest : Text) :
    (s ++ c :: rest).takeWhile (fun c => c ≠ '\x7b' ∧ c ≠ '\x7d') = s := by
  have hstop : decide (c ≠ '\x7b' ∧ c ≠ '\x7d') = false := by
    rcases hc with rfl | rfl <;> rfl
  exact Text.takeWhile_append_cons (List.all_eq_true.2 fun c hc => decide_eq_true (h c hc)) hstop
    rest

theorem Part.read_bare {s : Text} (h : IsBare s) : Part.read s = .ok (⟨s, none⟩, []) := by
  simp only [Part.read, h.takeWhile, List.drop_length]

theorem Part.read_doubled {s : Text} (h : IsBare s) {c : Char} (hc : c = '\x7b' ∨ c = '\x7d')
    (rest : Text) : Part.read (s ++ c :: c :: rest) = .ok (⟨s ++ [c], none⟩, rest) := by
  simp only [Part.read, h.takeWhile_append hc, List.drop_left, List.head?_cons, if_true,
    List.tail_cons]

theorem Part.read_field {s name : Text} (h : IsBare s) (hname : ∀ c ∈ name, IsNameChar c)
    (rest : Text) :
    Part.read (s ++ '\x7b' :: (name ++ '\x7d' :: rest)) =
      .ok (⟨s, some ⟨name, none, [], false⟩⟩, rest) := by
  have hsingle : (name ++ '\x7d' :: rest).head? ≠ some '\x7b' := by
    cases name with
    | nil => exact fun h => absurd (Option.some.inj h) (by decide)
    | cons c name => exact fun h => (hname c List.mem_cons_self).1 (Option.some.inj h)
  have hfield : Field.read (name ++ '\x7d' :: rest) = .ok (⟨name, none, [], false⟩, rest) := by
    rw [Field.read, name?_append hname]
    rfl
  simp only [Part.read, h.takeWhile_append (.inl rfl), List.drop_left, if_neg hsingle, hfield]
  rw [if_neg (by decide), if_neg (by simp)]
  rfl

/-! ## Pieces -/

/-- What templates are written with: text, the argument with a number, and all the arguments. -/
inductive Piece where
  | literal (s : Text)
  | positional (i : Nat)
  | all

/-- A brace of the text is doubled. -/
def doubled (c : Char) : Text := if c = '\x7b' ∨ c = '\x7d' then [c, c] else [c]

namespace Piece

def written : Piece → Text
  | literal s => s.flatMap doubled
  | positional i => '\x7b' :: Text.ofNat i ++ ['\x7d']
  | all => "\x7bargs\x7d".toList

variable (args : List Text)

/-- What stands in the place of a piece. -/
def text : Piece → Text
  | literal s => s
  | positional i => args.getD i []
  | all => Text.joinWith ", ".toList args

/-- Why a piece has nothing to stand in its place: there is no such argument, or the number is
greater than any that can be read. -/
def failure? : Piece → Option Error
  | positional i =>
    if greatestNumber < i then some .tooManyDigits
    else if i < args.length then none
    else some (.indexOutOfRange i)
  | _ => none

/-- What pieces give together: the first that has nothing in its place makes them fail. -/
def fill (ps : List Piece) : Except Error Text :=
  match ps.findSome? (failure? args) with
  | some e => .error e
  | none => .ok (ps.flatMap (text args))

end Piece

/-! ## Filling in -/

section Gives

variable {args : Arguments} {inner : Numbering → Text → Except Error (Text × Numbering)}
  {fuel : Nat} {numbering : Numbering} {s rest front name : Text}

theorem fillParts_of_literal (hs : s ≠ []) (h : Part.read s = .ok (⟨front, none⟩, rest)) :
    (fillParts args inner (fuel + 1) numbering s).map Prod.fst =
      ((fillParts args inner fuel numbering rest).map Prod.fst).map (front ++ ·) := by
  obtain ⟨c, s, rfl⟩ := List.exists_cons_of_ne_nil hs
  simp only [fillParts, h, bind, Except.bind]
  cases fillParts args inner fuel numbering rest <;> rfl

theorem fillParts_of_field (hs : s ≠ [])
    (h : Part.read s = .ok (⟨front, some ⟨name, none, [], false⟩⟩, rest)) :
    (fillParts args inner (fuel + 1) numbering s).map Prod.fst =
      (lookup args numbering name).bind fun found =>
        ((fillParts args inner fuel found.2 rest).map Prod.fst).map (front ++ found.1 ++ ·) := by
  obtain ⟨c, s, rfl⟩ := List.exists_cons_of_ne_nil hs
  simp only [fillParts, h, bind, Except.bind]
  cases lookup args numbering name with
  | error e => rfl
  | ok found =>
    simp only [convert, formatText, List.isEmpty_nil, if_true, Bool.false_eq_true, if_false]
    cases fillParts args inner fuel found.2 rest <;> rfl

variable (args inner) in
/-- What is left of a template gives this, behind whatever text was read before it. -/
def Gives (s : Text) (r : Except Error Text) : Prop :=
  ∀ (read : Text) (fuel : Nat) (numbering : Numbering), IsBare read → (read ++ s).length ≤ fuel →
    numbering.IsGiven →
      (fillParts args inner fuel numbering (read ++ s)).map Prod.fst = r.map (read ++ ·)

theorem gives_nil : Gives args inner [] (.ok []) := by
  intro read fuel numbering hread hfuel _
  rw [List.append_nil] at *
  cases read with
  | nil => cases fuel <;> rfl
  | cons c read =>
    obtain ⟨fuel, rfl⟩ : ∃ n, fuel = n + 1 := Nat.exists_eq_add_one.2 (by simp at hfuel; omega)
    rw [fillParts_of_literal (List.cons_ne_nil c read) (Part.read_bare hread)]
    cases fuel <;> rfl

theorem map_append_append (r : Except Error Text) (s t : Text) :
    (r.map (t ++ ·)).map (s ++ ·) = r.map (s ++ t ++ ·) := by
  cases r with
  | error e => rfl
  | ok u => exact congrArg Except.ok (List.append_assoc s t u).symm

/-- A character of the text is given back, and a doubled brace once. -/
theorem Gives.doubled {r : Except Error Text} (h : Gives args inner s r) (c : Char) :
    Gives args inner (doubled c ++ s) (r.map ([c] ++ ·)) := by
  intro read fuel numbering hread hfuel hnumbering
  by_cases hc : c = '\x7b' ∨ c = '\x7d'
  · rw [Template.doubled, if_pos hc] at *
    simp only [List.cons_append, List.nil_append, List.length_append, List.length_cons] at hfuel ⊢
    obtain ⟨fuel, rfl⟩ : ∃ n, fuel = n + 1 := Nat.exists_eq_add_one.2 (by omega)
    have hs := h [] fuel numbering (List.forall_mem_nil _) (by simp; omega) hnumbering
    rw [List.nil_append] at hs
    rw [fillParts_of_literal (by simp) (Part.read_doubled hread hc s), hs]
    cases r <;> simp [Except.map]
  · rw [Template.doubled, if_neg hc] at *
    -- the character joins the text that is read but not taken
    have hbare : IsBare (read ++ [c]) := by
      intro d hd
      rcases List.mem_append.1 hd with hd | hd
      · exact hread d hd
      · rw [List.mem_singleton.1 hd]
        exact not_or.1 hc
    have hs := h (read ++ [c]) fuel numbering hbare (by simpa using hfuel) hnumbering
    rw [map_append_append, ← List.append_assoc]
    exact hs

theorem Gives.literal {r : Except Error Text} (h : Gives args inner s r) (l : Text) :
    Gives args inner (l.flatMap Template.doubled ++ s) (r.map (l ++ ·)) := by
  induction l with
  | nil => cases r <;> exact h
  | cons c l ih =>
    rw [List.flatMap_cons, List.append_assoc]
    have hc := ih.doubled c
    rwa [map_append_append] at hc

/-- A field gives what its name stands for, if it stands for something. -/
theorem Gives.field {r : Except Error Text} (h : Gives args inner s r) (name : Text)
    (hname : ∀ c ∈ name, IsNameChar c) (value? : Except Error Text)
    (hlookup : ∀ numbering : Numbering, numbering.IsGiven → ∃ numbering' : Numbering,
      numbering'.IsGiven ∧ lookup args numbering name = value?.map (·, numbering')) :
    Gives args inner ('\x7b' :: (name ++ '\x7d' :: s))
      (value?.bind fun value => r.map (value ++ ·)) := by
  intro read fuel numbering hread hfuel hnumbering
  simp only [List.length_append, List.length_cons] at hfuel
  obtain ⟨fuel, rfl⟩ : ∃ n, fuel = n + 1 := Nat.exists_eq_add_one.2 (by omega)
  obtain ⟨numbering', hnumbering', hvalue⟩ := hlookup numbering hnumbering
  rw [fillParts_of_field (by simp) (Part.read_field hread hname s), hvalue]
  cases value? with
  | error e => rfl
  | ok value =>
    have hs := h [] fuel numbering' (List.forall_mem_nil _) (by simp; omega) hnumbering'
    rw [List.nil_append] at hs
    simp only [Except.map, Except.bind] at hs ⊢
    rw [hs]
    cases r <;> simp

/-- A field that is a word gives what goes by it. -/
theorem Gives.word {r : Except Error Text} (h : Gives args inner s r) {value : Text}
    (hname : IsWord name) (hvalue : args.named.lookup name = some value) :
    Gives args inner ('\x7b' :: (name ++ '\x7d' :: s)) (r.map (value ++ ·)) :=
  h.field name hname.all (.ok value) fun numbering hn =>
    ⟨numbering, hn, hname.lookup hvalue numbering⟩

/-- What the whole of a template gives is what it is filled in with. -/
theorem fill_of_gives {r : Except Error Text} (h : ∀ inner, Gives args inner s r) :
    Template.fill s args = r := by
  have hs := h (fillDepth args 1) [] s.length .undecided (List.forall_mem_nil _) (Nat.le_refl _)
    nofun
  rw [List.nil_append] at hs
  rw [Template.fill, fillDepth, hs]
  cases r <;> rfl

end Gives

/-! ## The run over the pieces -/

section Pieces

variable (args : List Text)

/-- The arguments of a macro, by number and together. -/
def argumentsOf : Arguments := ⟨args, [("args".toList, Text.joinWith ", ".toList args)]⟩

namespace Piece

/-- What one piece gives. -/
def value? (p : Piece) : Except Error Text :=
  match p.failure? args with
  | some e => .error e
  | none => .ok (p.text args)

theorem fill_cons (p : Piece) (ps : List Piece) :
    fill args (p :: ps) =
      (p.value? args).bind fun value => (fill args ps).map (value ++ ·) := by
  rw [fill, fill, value?, List.findSome?_cons]
  cases p.failure? args with
  | some e => rfl
  | none => cases ps.findSome? (failure? args) <;> rfl

theorem lookup_positional {numbering : Numbering} (h : numbering.IsGiven) (i : Nat) :
    lookup (argumentsOf args) numbering (Text.ofNat i) =
      ((positional i).value? args).map (·, .manual) := by
  rw [lookup_ofNat h, value?, failure?, text, argument]
  split
  · rfl
  · by_cases hi : i < args.length
    · simp [argumentsOf, hi, Except.map]
    · simp [argumentsOf, hi, Except.map]

theorem gives {inner : Numbering → Text → Except Error (Text × Numbering)} {s : Text}
    {r : Except Error Text} (h : Gives (argumentsOf args) inner s r) (p : Piece) :
    Gives (argumentsOf args) inner (p.written ++ s)
      ((p.value? args).bind fun value => r.map (value ++ ·)) := by
  cases p with
  | literal l => exact h.literal l
  | positional i =>
    rw [written, List.cons_append, List.cons_append, List.append_assoc]
    exact h.field (Text.ofNat i) (fun c => isNameChar_of_mem_ofNat) ((positional i).value? args)
      fun numbering hn => ⟨.manual, nofun, lookup_positional args hn i⟩
  | all => exact h.word isWord_args rfl

end Piece

/-- A template of pieces gives what they give together. -/
theorem fill_written (ps : List Piece) :
    Template.fill (ps.flatMap Piece.written) (argumentsOf args) = Piece.fill args ps := by
  refine fill_of_gives fun inner => ?_
  induction ps with
  | nil => exact gives_nil
  | cons p ps ih =>
    rw [List.flatMap_cons, Piece.fill_cons]
    exact Piece.gives args ih p

end Pieces

end WikiText.Template
