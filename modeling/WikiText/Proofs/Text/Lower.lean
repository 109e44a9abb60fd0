import WikiText.Text.Lower

/-!
# Lower case is final

The lower case of a text has no character that lower case would change, so taking it again changes
nothing: see `lower_lower`.  No mark of the markup comes in with it: see `mem_of_mem_lower`.
-/

namespace WikiText.Text

/-- Lower case keeps the character, whatever stands beside it. -/
def IsLowerChar (c : Char) : Prop := c ≠ 'Σ' ∧ lowerChar c = [c]

instance (c : Char) : Decidable (IsLowerChar c) := inferInstanceAs (Decidable (_ ∧ _))

/-! ## The table of letters -/

namespace CodePointRuns

/-- What a run of the table holds, and what it sends this to. -/
structure Sends (r : Nat × Nat × Nat × Nat) (n m : Nat) : Prop where
  first : r.1 ≤ n
  last : n ≤ r.2.1
  step : (n - r.1) % r.2.2.1 = 0
  image : m = r.2.2.2 + (n - r.1)

theorem exists_sends_of_find? {n m : Nat} {runs : CodePointRuns} (h : find? n runs = some m) :
    ∃ r ∈ runs, Sends r n m := by
  induction runs with
  | nil => cases h
  | cons r runs ih =>
    obtain ⟨lo, hi, step, image⟩ := r
    rw [find?] at h
    split at h
    · cases h
    next hlo =>
    split at h
    · next hrun =>
      exact ⟨_, List.mem_cons_self, Nat.le_of_not_lt hlo, hrun.1, hrun.2, (Option.some.inj h).symm⟩
    · obtain ⟨r, hr, hsends⟩ := ih h
      exact ⟨r, List.mem_cons_of_mem _ hr, hsends⟩

/-- No run holds a code point from `first` to `last`, of which only every second one counts if
`twos` is set. The search ends where that for a code point does. -/
def avoids (first last : Nat) (twos : Bool) : CodePointRuns → Bool
  | [] => true
  | (lo, hi, step, _) :: runs =>
    if last.blt lo then true
    else if hi.blt first then avoids first last twos runs
    else step == 2 && twos && (first + lo) % 2 == 1 && avoids first last twos runs

theorem find?_of_avoids {first last n : Nat} {twos : Bool} {runs : CodePointRuns}
    (h : avoids first last twos runs = true) (hfirst : first ≤ n) (hlast : n ≤ last)
    (htwos : twos = true → (n - first) % 2 = 0) : find? n runs = none := by
  induction runs with
  | nil => rfl
  | cons r runs ih =>
    obtain ⟨lo, hi, step, image⟩ := r
    rw [avoids] at h
    rw [find?]
    split at h
    · next hlo =>
      rw [Nat.blt_eq] at hlo
      rw [if_pos (by omega)]
    split at h
    · next hhi =>
      rw [Nat.blt_eq] at hhi
      have hno : ¬ (n ≤ hi ∧ (n - lo) % step = 0) := fun hrun => by omega
      rw [if_neg hno, ih h, ite_self]
    · simp only [Bool.and_eq_true, beq_iff_eq] at h
      obtain ⟨⟨⟨rfl, ht⟩, hodd⟩, hruns⟩ := h
      have := htwos ht
      rw [ih hruns]
      split
      · rfl
      · rw [if_neg fun hrun => by omega]

/-- The images of a run are characters, and none of them is changed by a rule of its own. -/
def lands : Nat × Nat × Nat × Nat → Bool
  | (lo, hi, _, image) =>
    let last := image + (hi - lo)
    (Nat.ble 0x61 image && last.ble 0x7A) ||
      (Nat.ble 128 image && (last.blt 0x130 || Nat.blt 0x130 image) &&
        (last.blt 0xD800 || (Nat.blt 0xDFFF image && last.blt 0x110000)))

theorem of_lands {r : Nat × Nat × Nat × Nat} {n m : Nat} (h : lands r = true)
    (hr : Sends r n m) : m.isValidChar ∧ (0x61 ≤ m ∧ m ≤ 0x7A ∨ 128 ≤ m ∧ m ≠ 0x130) := by
  obtain ⟨lo, hi, step, image⟩ := r
  obtain ⟨hlo, hhi, -, rfl⟩ := hr
  simp only [lands, Bool.or_eq_true, Bool.and_eq_true, Nat.blt_eq, Nat.ble_eq] at h
  dsimp only at *
  rw [Nat.isValidChar]
  omega

end CodePointRuns

theorem lands_lowerRuns : ∀ r ∈ lowerRuns, CodePointRuns.lands r = true := by decide +kernel

theorem avoids_lowerRuns : ∀ r ∈ lowerRuns, CodePointRuns.avoids r.2.2.2 (r.2.2.2 + (r.2.1 - r.1))
    (r.2.2.1 == 2 || r.1 == r.2.1) lowerRuns = true := by decide +kernel

/-- The table does not hold what it sends a letter to. -/
theorem find?_image {r : Nat × Nat × Nat × Nat} {n m : Nat} (hr : r ∈ lowerRuns)
    (h : CodePointRuns.Sends r n m) : CodePointRuns.find? m lowerRuns = none := by
  obtain ⟨hfirst, hlast, hstep, rfl⟩ := h
  refine CodePointRuns.find?_of_avoids (avoids_lowerRuns r hr) (by omega) (by omega) fun htwos => ?_
  rw [Bool.or_eq_true, beq_iff_eq, beq_iff_eq] at htwos
  rcases htwos with htwos | hsingle
  · rw [htwos] at hstep
    omega
  · omega

/-! ## Characters -/

theorem isLowerChar_toLower : ∀ n < 128, IsLowerChar (Char.ofNat n).toLower := by decide

theorem isLowerChar_small : ∀ n < 26, IsLowerChar (Char.ofNat (0x61 + n)) := by decide

/-- What the table sends a letter to is not changed again. -/
theorem isLowerChar_image {n m : Nat} (h : CodePointRuns.find? n lowerRuns = some m) :
    IsLowerChar (Char.ofNat m) := by
  obtain ⟨r, hr, hsends⟩ := CodePointRuns.exists_sends_of_find? h
  obtain ⟨hvalid, hm⟩ := CodePointRuns.of_lands (lands_lowerRuns r hr) hsends
  have hnone := find?_image hr hsends
  have htoNat : (Char.ofNat m).toNat = m := by rw [Char.ofNat, dif_pos hvalid]; rfl
  rcases hm with ⟨hlo, hhi⟩ | ⟨hlo, hne⟩
  · obtain ⟨d, rfl⟩ := Nat.exists_eq_add_of_le hlo
    exact isLowerChar_small d (by omega)
  · refine ⟨fun hsigma => ?_, ?_⟩
    -- The table holds the capital sigma.
    · obtain rfl : m = 'Σ'.toNat := by rw [← htoNat, hsigma]
      exact absurd hnone (by decide)
    · rw [lowerChar, htoNat, if_neg (by omega), if_neg hne, hnone]

theorem isLowerChar_sigma (before after : Text) : IsLowerChar (sigma before after) := by
  rw [sigma]
  split <;> decide

theorem isLowerChar_of_mem_lowerChar {c d : Char} (hc : c ≠ 'Σ') (h : d ∈ lowerChar c) :
    IsLowerChar d := by
  rw [lowerChar] at h
  split at h
  · next hascii =>
    obtain rfl := List.mem_singleton.1 h
    simpa only [Char.ofNat_toNat] using isLowerChar_toLower c.toNat hascii
  next hascii =>
  split at h
  · simp only [List.mem_cons, List.not_mem_nil, or_false] at h
    rcases h with rfl | rfl <;> decide
  next hdotted =>
  split at h
  · next m hm =>
    obtain rfl := List.mem_singleton.1 h
    exact isLowerChar_image hm
  · next hnone =>
    obtain rfl := List.mem_singleton.1 h
    refine ⟨hc, ?_⟩
    rw [lowerChar, if_neg hascii, if_neg hdotted, hnone]

/-! ## Texts -/

/-- A character of the lower case is a sigma, or it comes from one character. -/
theorem sigma_or_of_mem_lowerAfter {before s : Text} {d : Char} (h : d ∈ lowerAfter before s) :
    (∃ before after, d = sigma before after) ∨ ∃ c ∈ s, c ≠ 'Σ' ∧ d ∈ lowerChar c := by
  induction s generalizing before with
  | nil => exact absurd h List.not_mem_nil
  | cons c s ih =>
    rw [lowerAfter, List.mem_append] at h
    rcases h with h | h
    · split at h
      · exact .inl ⟨before, s, List.mem_singleton.1 h⟩
      · next hc => exact .inr ⟨c, List.mem_cons_self, hc, h⟩
    · rcases ih h with hsigma | ⟨c, hc, hd⟩
      · exact .inl hsigma
      · exact .inr ⟨c, List.mem_cons_of_mem _ hc, hd⟩

theorem isLowerChar_of_mem_lowerAfter {before s : Text} {d : Char} (h : d ∈ lowerAfter before s) :
    IsLowerChar d := by
  rcases sigma_or_of_mem_lowerAfter h with ⟨before, after, rfl⟩ | ⟨c, -, hc, hd⟩
  · exact isLowerChar_sigma before after
  · exact isLowerChar_of_mem_lowerChar hc hd

theorem lowerAfter_eq_self {before s : Text} (h : ∀ c ∈ s, IsLowerChar c) :
    lowerAfter before s = s := by
  induction s generalizing before with
  | nil => rfl
  | cons c s ih =>
    rw [List.forall_mem_cons] at h
    rw [lowerAfter, if_neg h.1.1, h.1.2, ih h.2]
    rfl

theorem isLower_toLower_or : ∀ n < 128,
    (Char.ofNat n).toLower.isLower = true ∨ (Char.ofNat n).toLower = Char.ofNat n := by
  decide

theorem isLower_small : ∀ n < 26, (Char.ofNat (0x61 + n)).isLower = true := by decide

/-- Lower case makes no ASCII character but small letters. -/
theorem isLower_or_eq_of_mem_lowerChar {c d : Char} (hd : d.toNat < 128) (h : d ∈ lowerChar c) :
    d.isLower = true ∨ d = c := by
  rw [lowerChar] at h
  split at h
  · next hascii =>
    obtain rfl := List.mem_singleton.1 h
    simpa only [Char.ofNat_toNat] using isLower_toLower_or c.toNat hascii
  split at h
  · simp only [List.mem_cons, List.not_mem_nil, or_false] at h
    rcases h with rfl | rfl
    · exact .inl (by decide)
    · exact absurd hd (by decide)
  split at h
  · next m hm =>
    obtain rfl := List.mem_singleton.1 h
    obtain ⟨r, hr, hsends⟩ := CodePointRuns.exists_sends_of_find? hm
    obtain ⟨hvalid, hm⟩ := CodePointRuns.of_lands (lands_lowerRuns r hr) hsends
    have htoNat : (Char.ofNat m).toNat = m := by rw [Char.ofNat, dif_pos hvalid]; rfl
    obtain ⟨k, rfl⟩ : ∃ k, m = 0x61 + k := Nat.exists_eq_add_of_le (by omega)
    exact .inl (isLower_small k (by omega))
  · exact .inr (List.mem_singleton.1 h)

theorem isLower_or_mem_of_mem_lowerAfter {before s : Text} {d : Char} (hd : d.toNat < 128)
    (h : d ∈ lowerAfter before s) : d.isLower = true ∨ d ∈ s := by
  rcases sigma_or_of_mem_lowerAfter h with ⟨before, after, rfl⟩ | ⟨c, hc, -, hdc⟩
  · rw [sigma] at hd
    split at hd <;> exact absurd hd (by decide)
  · rcases isLower_or_eq_of_mem_lowerChar hd hdc with hsmall | rfl
    · exact .inl hsmall
    · exact .inr hc

/-- An ASCII character that is no small letter stands in a text if it stands in its lower case. -/
theorem mem_of_mem_lower {s : Text} {d : Char} (hd : d.toNat < 128) (hsmall : d.isLower = false)
    (h : d ∈ lower s) : d ∈ s :=
  (isLower_or_mem_of_mem_lowerAfter hd h).resolve_left (by rw [hsmall]; exact Bool.false_ne_true)

/-- Taking the lower case again changes nothing. -/
theorem lower_lower (s : Text) : lower (lower s) = lower s :=
  lowerAfter_eq_self fun _ => isLowerChar_of_mem_lowerAfter

end WikiText.Text
