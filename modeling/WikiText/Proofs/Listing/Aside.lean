import WikiText.Proofs.Listing.Document
import WikiText.Proofs.Prose.Blocks
import WikiText.Toc.Token

/-!
# What is put aside of a document of parts

Fenced code is put aside as markup, and each placeholder as a token; a marker takes the place of
either.  The other lines stay, those of fenced code being gone before placeholders are looked for
(`Spaced.setAside`).
-/

namespace WikiText

namespace Markdown.Fence

theorem closes_marks (f : Fence) : f.closes f.marks = true := by
  have hstrip : Text.strip? f.marks f.marks = some [] := by
    simpa using Text.strip?_append f.marks []
  rw [closes, hstrip]
  rfl

theorem body?_append {f : Fence} {code : List Text} (h : ∀ l ∈ code, f.closes l = false)
    (rest : List Text) : body? f (code ++ f.marks :: rest) = some (code, rest) := by
  induction code with
  | nil => rw [List.nil_append, body?, if_pos f.closes_marks]
  | cons l code ih =>
    rw [List.forall_mem_cons] at h
    rw [List.cons_append, body?, if_neg (by rw [h.1]; exact Bool.false_ne_true), ih h.2]
    rfl

/-- Code up to the first line that closes it is read as a block. -/
theorem read?_append {f : Fence} {opening : Text} (hopening : ofLine? opening = some f)
    {code : List Text} (h : ∀ l ∈ code, f.closes l = false) (rest : List Text) :
    read? opening (code ++ f.marks :: rest) = some (f.markup code, rest) := by
  rw [read?, hopening]
  simp only [Option.bind_eq_bind, Option.bind_some, body?_append h]

end Markdown.Fence

namespace Listing

open Markdown (Fence stashFencesFrom)

/-! ## Lines that stay -/

/-- A line that opens no fenced code and is no placeholder. -/
structure Stays (l : Text) : Prop where
  fence : Fence.ofLine? l = none
  placeholder : Toc.isPlaceholder l = false

theorem stays_nil : Stays [] := ⟨rfl, rfl⟩

theorem forall_stays_nil : ∀ l ∈ ([] : List Text), Stays l := fun _ hl => absurd hl List.not_mem_nil

theorem stays_marker (k : Nat) : Stays (Stash.marker k) := ⟨rfl, rfl⟩

theorem stays_indent (l : Text) : Stays (indent l) := by
  rw [indent]
  split
  · exact stays_nil
  · exact ⟨rfl, rfl⟩

theorem stays_line {words : List Text} (hne : words ≠ []) (h : ∀ w ∈ words, Text.IsPlain w) :
    Stays (Prose.line (words.map .word)) :=
  have hinert := (Prose.Definition.isProseLine_body hne h).isInert
  ⟨hinert.ofLine?, hinert.isPlaceholder⟩

section Stays

variable {ms : List Text}

theorem stashFencesFrom_append (h : ∀ l ∈ ms, Fence.ofLine? l = none) (n : Nat) (ls : List Text)
    (st : Stash) :
    stashFencesFrom (ms.length + n) (ms ++ ls) st =
      (ms ++ (stashFencesFrom n ls st).1, (stashFencesFrom n ls st).2) := by
  induction ms with
  | nil => rw [List.length_nil, Nat.zero_add]; rfl
  | cons l ms ih =>
    rw [List.forall_mem_cons] at h
    have hread : Fence.read? l (ms ++ ls) = none := by
      rw [Fence.read?, h.1]
      rfl
    rw [List.length_cons, Nat.add_right_comm, List.cons_append, stashFencesFrom, hread]
    dsimp only
    rw [ih h.2]
    rfl

theorem recordFrom_append (h : ∀ l ∈ ms, Toc.isPlaceholder l = false) (k : Nat) (st : Stash)
    (ls : List Text) :
    Toc.recordFrom k st (ms ++ ls) =
      { Toc.recordFrom k st ls with lines := ms ++ (Toc.recordFrom k st ls).lines } := by
  induction ms with
  | nil => rfl
  | cons l ms ih =>
    rw [List.forall_mem_cons] at h
    rw [List.cons_append, Toc.recordFrom, if_neg (by rw [h.1]; exact Bool.false_ne_true), ih h.2]
    rfl

end Stays

theorem fence_of_isPlaceholder {l : Text} (h : Toc.isPlaceholder l = true) :
    Fence.ofLine? l = none := by
  refine Markdown.Fence.ofLine?_of_head fun c hc => ?_
  cases l with
  | nil => cases hc
  | cons d l =>
    obtain rfl : d = c := Option.some.inj hc
    constructor
    · rintro rfl
      cases h
    · rintro rfl
      cases h

/-! ## Parts that go -/

namespace Part

/-- The markup of fenced code, which is put aside. -/
def fence? : Part → Option Text
  | .fenced marks language code => some (({ marks, language } : Fence).markup code)
  | _ => none

/-- The line of a placeholder, which is put aside. -/
def placeholder? : Part → Option Text
  | .placeholder line => some line
  | _ => none

end Part

variable {ps : List Part}

/-- What is put aside as markup. -/
def fences (ps : List Part) : List Text := ps.filterMap Part.fence?

def placeholders (ps : List Part) : List Text := ps.filterMap Part.placeholder?

/-- The tokens of the placeholders, numbered from `k` on. -/
def tokens (k : Nat) (ps : List Part) : List Text :=
  (List.range' k (placeholders ps).length).map Toc.token

/-- The parts, those that are put aside with the numbers of their markers: fenced code from `f` on,
placeholders from `t` on. -/
def number (f t : Nat) : List Part → List (Part × Nat)
  | [] => []
  | .fenced marks language code :: ps => (.fenced marks language code, f) :: number (f + 1) t ps
  | .placeholder line :: ps => (.placeholder line, t) :: number f (t + 1) ps
  | p :: ps => (p, 0) :: number f t ps

/-- The lines that stay of a part, or the marker in its place. -/
def kept : Part × Nat → List Text
  | (.fenced _ _ _, k) | (.placeholder _, k) => [Stash.marker k]
  | (p, _) => p.lines

section SetAside

variable {ls ms ns phs : List Text} {n k : Nat} {st st' after after' : Stash}

/-- Lines that stay, and the empty line behind them, stay before what becomes of the others. -/
theorem setAside_append {front : List Text} (h : ∀ l ∈ front, Stays l)
    (hfences : stashFencesFrom (ls.length + n) ls st = (ms, after))
    (hrecord : Toc.recordFrom k st' ms = ⟨ns, phs, after'⟩) :
    stashFencesFrom ((front ++ [] :: ls).length + n) (front ++ [] :: ls) st =
        (front ++ [] :: ms, after) ∧
      Toc.recordFrom k st' (front ++ [] :: ms) = ⟨front ++ [] :: ns, phs, after'⟩ := by
  have hall : ∀ l ∈ front ++ [[]], Stays l :=
    List.forall_mem_append.2 ⟨h, List.forall_mem_singleton.2 stays_nil⟩
  have happend : ∀ rest : List Text, front ++ [] :: rest = (front ++ [[]]) ++ rest :=
    fun rest => (List.append_cons front [] rest)
  constructor
  · rw [happend ls, List.length_append, Nat.add_assoc,
      stashFencesFrom_append fun l hl => (hall l hl).fence, hfences, happend ms]
  · rw [happend ms, recordFrom_append fun l hl => (hall l hl).placeholder, hrecord, happend ns]

/-- Fenced code leaves its marker between empty lines. -/
theorem setAside_fenced {f : Fence} {opening : Text} (hopening : Fence.ofLine? opening = some f)
    {code : List Text} (h : ∀ l ∈ code, f.closes l = false)
    (hfences : stashFencesFrom (ls.length + (code.length + 1 + n)) ls
      ⟨st.blocks ++ [f.markup code]⟩ = (ms, after))
    (hrecord : Toc.recordFrom k st' ms = ⟨ns, phs, after'⟩) :
    let lines := opening :: code ++ [f.marks]
    let left := [] :: Stash.marker st.blocks.length :: [] :: ms
    stashFencesFrom ((lines ++ ls).length + n) (lines ++ ls) st = (left, after) ∧
      Toc.recordFrom k st' left =
        ⟨[] :: Stash.marker st.blocks.length :: [] :: ns, phs, after'⟩ := by
  intro lines left
  have hlines : lines ++ ls = opening :: (code ++ f.marks :: ls) := by simp [lines]
  have hread := Fence.read?_append hopening h ls
  have hfuel : (code ++ f.marks :: ls).length + n = ls.length + (code.length + 1 + n) := by
    simp only [List.length_append, List.length_cons]
    omega
  constructor
  · rw [hlines, List.length_cons, Nat.add_right_comm, stashFencesFrom, hread, hfuel]
    dsimp only [Stash.store]
    rw [hfences]
  · have hfront : ∀ l ∈ ([[], Stash.marker st.blocks.length, []] : List Text),
        Toc.isPlaceholder l = false := by
      simp only [List.forall_mem_cons, stays_nil.placeholder, (stays_marker _).placeholder,
        List.not_mem_nil, false_imp_iff, implies_true, and_self]
    have happend := recordFrom_append hfront k st' ms
    rw [hrecord] at happend
    exact happend

/-- A placeholder leaves its marker between empty lines. -/
theorem setAside_placeholder {line : Text} (h : Toc.isPlaceholder line = true)
    (hfences : stashFencesFrom (ls.length + n) ls st = (ms, after))
    (hrecord : Toc.recordFrom (k + 1) ⟨st'.blocks ++ [Toc.token k]⟩ ms = ⟨ns, phs, after'⟩) :
    stashFencesFrom (([line] ++ [] :: ls).length + n) ([line] ++ [] :: ls) st =
        (line :: [] :: ms, after) ∧
      Toc.recordFrom k st' (line :: [] :: ms) =
        ⟨[] :: Stash.marker st'.blocks.length :: [] :: [] :: ns, line :: phs, after'⟩ := by
  constructor
  · have hlines : [line] ++ [] :: ls = [line, []] ++ ls := rfl
    have hfront : ∀ l ∈ [line, []], Fence.ofLine? l = none := by
      simp only [List.forall_mem_cons, fence_of_isPlaceholder h, stays_nil.fence,
        List.not_mem_nil, false_imp_iff, implies_true, and_self]
    rw [hlines, List.length_append, Nat.add_assoc, stashFencesFrom_append hfront, hfences]
    rfl
  · have hempty : Toc.isPlaceholder ([] : Text) = false := stays_nil.placeholder
    rw [Toc.recordFrom, if_pos h]
    dsimp only [Stash.store]
    rw [Toc.recordFrom, if_neg (by rw [hempty]; exact Bool.false_ne_true), hrecord]

end SetAside

/-- What becomes of the lines of a document before its blocks are read. -/
theorem Spaced.setAside {ls : List Text} (h : Spaced Part.lines ls ps)
    (hsound : ∀ p ∈ ps, p.IsSound) (n k : Nat) (st st' : Stash) :
    ∃ ms ns, stashFencesFrom (ls.length + n) ls st = (ms, ⟨st.blocks ++ fences ps⟩) ∧
      Toc.recordFrom k st' ms = ⟨ns, placeholders ps, ⟨st'.blocks ++ tokens k ps⟩⟩ ∧
      Spaced kept ns (number st.blocks.length st'.blocks.length ps) := by
  induction h generalizing n k st st' with
  | nil =>
    have hblocks : ∀ st : Stash, (⟨st.blocks ++ []⟩ : Stash) = st := fun st => by simp
    have hfences : fences [] = [] := rfl
    have htokens : tokens k [] = [] := rfl
    have hread : Fence.read? [] [] = none := rfl
    have hempty : Toc.isPlaceholder ([] : Text) = false := stays_nil.placeholder
    refine ⟨[[]], [[]], ?_, ?_, .nil⟩
    · rw [hfences, hblocks, List.length_singleton, Nat.add_comm, stashFencesFrom, hread]
      dsimp only
      rw [stashFencesFrom]
    · rw [htokens, hblocks, Toc.recordFrom, if_neg (by rw [hempty]; exact Bool.false_ne_true)]
      rfl
  | gap h ih =>
    obtain ⟨ms, ns, hfences, hrecord, hspaced⟩ := ih hsound n k st st'
    obtain ⟨hfences, hrecord⟩ := setAside_append forall_stays_nil hfences hrecord
    exact ⟨_, _, hfences, hrecord, hspaced.gap⟩
  | @cons p ls ps h ih =>
    rw [List.forall_mem_cons] at hsound
    obtain ⟨hp, hps⟩ := hsound
    cases p with
    | paragraph words =>
      obtain ⟨ms, ns, hfences, hrecord, hspaced⟩ := ih hps n k st st'
      have hnext := hspaced.cons (Part.paragraph words, 0)
      obtain ⟨hfences, hrecord⟩ :=
        setAside_append (List.forall_mem_singleton.2 (stays_line hp.1 hp.2)) hfences hrecord
      exact ⟨_, _, hfences, hrecord, hnext⟩
    | fenced marks language code =>
      obtain ⟨hopening, hcode⟩ := hp
      obtain ⟨ms, ns, hfences, hrecord, hspaced⟩ := ih hps (code.length + 1 + n) k
        ⟨st.blocks ++ [({ marks, language } : Fence).markup code]⟩ st'
      obtain ⟨hfences, hrecord⟩ := setAside_append forall_stays_nil hfences hrecord
      obtain ⟨hafter, hkept⟩ := setAside_fenced hopening hcode hfences hrecord
      have hnext := (hspaced.gap.cons (Part.fenced marks language code, st.blocks.length)).gap
      refine ⟨_, _, hafter.trans ?_, hkept, ?_⟩
      · rw [List.append_assoc]
        rfl
      · rw [List.length_append] at hnext
        exact hnext
    | indented code =>
      obtain ⟨ms, ns, hfences, hrecord, hspaced⟩ := ih hps n k st st'
      have hnext := hspaced.cons (Part.indented code, 0)
      obtain ⟨hfences, hrecord⟩ := setAside_append
        (List.forall_mem_map.2 fun l _ => stays_indent l) hfences hrecord
      exact ⟨_, _, hfences, hrecord, hnext⟩
    | placeholder line =>
      obtain ⟨ms, ns, hfences, hrecord, hspaced⟩ :=
        ih hps n (k + 1) st ⟨st'.blocks ++ [Toc.token k]⟩
      obtain ⟨hafter, hkept⟩ := setAside_placeholder hp hfences hrecord
      have htokens : tokens k (.placeholder line :: ps) = Toc.token k :: tokens (k + 1) ps := by
        exact congrArg (List.map Toc.token) List.range'_succ
      have hnext := (hspaced.gap.cons (Part.placeholder line, st'.blocks.length)).gap
      refine ⟨_, [] :: Stash.marker st'.blocks.length :: [] :: [] :: ns, hafter,
        hkept.trans ?_, ?_⟩
      · rw [htokens, List.append_assoc]
        rfl
      · rw [List.length_append] at hnext
        exact hnext

/-- All that is put aside of the lines is what goes of the parts. -/
def IsSetAside (ls : List Text) (ps : List Part) : Prop :=
  ∀ (n k : Nat) (st st' : Stash), ∃ ms ns,
    stashFencesFrom (ls.length + n) ls st = (ms, ⟨st.blocks ++ fences ps⟩) ∧
      Toc.recordFrom k st' ms = ⟨ns, placeholders ps, ⟨st'.blocks ++ tokens k ps⟩⟩ ∧
      Spaced kept ns (number st.blocks.length st'.blocks.length ps)

/-- The lines hold those of the parts, and nothing else that is put aside. -/
structure Holds (ls : List Text) (ps : List Part) : Prop where
  mem : ∀ p ∈ ps, p.lines ⊆ ls
  setAside : IsSetAside ls ps

theorem Spaced.mem {α : Type} {linesOf : α → List Text} {ls : List Text} {as : List α}
    (h : Spaced linesOf ls as) {a : α} (ha : a ∈ as) : linesOf a ⊆ ls := by
  induction h with
  | nil => cases ha
  | gap _ ih => exact List.subset_cons_of_subset [] (ih ha)
  | cons b _ ih =>
    rcases List.mem_cons.1 ha with rfl | ha
    · exact List.subset_append_left _ _
    · exact List.subset_append_of_subset_right _ (List.subset_cons_of_subset [] (ih ha))

theorem Spaced.holds {ls : List Text} (h : Spaced Part.lines ls ps)
    (hsound : ∀ p ∈ ps, p.IsSound) : Holds ls ps :=
  ⟨fun _ => h.mem, h.setAside hsound⟩

end Listing

end WikiText
