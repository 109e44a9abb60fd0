import Mathlib.Data.List.Chain
import WikiText.Proofs.Html.Escape
import WikiText.Proofs.Listing.Aside
import WikiText.Proofs.Markdown.Lines

/-!
# Parts become elements

Blocks are read into boxes: a paragraph, or code.  Line ends that are left between blocks are added
to the code before them, so that indented code comes together over its empty lines
(`exists_readInto_code`).
-/

namespace WikiText

namespace Listing

open Html (Element)
open Markdown

/-! ## Boxes -/

/-- What a block is read as: a paragraph, or code in escaped form. -/
inductive Box where
  | text (s : Text)
  | code (s : Text)

namespace Box

def element : Box → Element
  | .text s => (Element.ofTag "p").withText s
  | .code s => newCode s

def isCode : Box → Bool
  | .text _ => false
  | .code _ => true

end Box

/-- The root with boxes in it, the last one of which comes first. -/
def rootOf (bs : List Box) : Element :=
  (Element.ofTag "div").withChildren (bs.reverse.map Box.element)

/-- Add a text to the last box if it is code. -/
def extend (s : Text) : List Box → List Box
  | .code t :: bs => .code (t ++ s) :: bs
  | bs => bs

/-- Add a block of code, to the last box if it is code. -/
def place (s : Text) : List Box → List Box
  | .code t :: bs => .code (t ++ '\n' :: s) :: bs
  | bs => .code s :: bs

section RootOf

variable (b : Box) (bs : List Box) (s : Text)

@[simp] theorem children_rootOf : (rootOf bs).children = bs.reverse.map Box.element :=
  Element.children_withChildren _ _

theorem withChildren_rootOf (cs : List Element) :
    (rootOf bs).withChildren cs = (Element.ofTag "div").withChildren cs := rfl

theorem map_reverse_cons :
    (b :: bs).reverse.map Box.element = bs.reverse.map Box.element ++ [b.element] := by
  rw [List.reverse_cons, List.map_append, List.map_singleton]

theorem push_rootOf : (rootOf bs).push b.element = rootOf (b :: bs) := by
  rw [Element.push, children_rootOf, withChildren_rootOf, ← map_reverse_cons]
  rfl

theorem replaceLast_rootOf (b' : Box) :
    replaceLast (rootOf (b :: bs)) b'.element = rootOf (b' :: bs) := by
  rw [replaceLast, children_rootOf, map_reverse_cons, List.dropLast_concat, withChildren_rootOf,
    ← map_reverse_cons]
  rfl

theorem lastChild?_rootOf : lastChild? (rootOf bs) = bs.head?.map Box.element := by
  rw [lastChild?, children_rootOf, List.getLast?_map, List.getLast?_reverse]

theorem extendCode?_text (t : Text) : extendCode? (rootOf (.text t :: bs)) s = none := by
  rw [extendCode?, lastChild?_rootOf]
  rfl

theorem extendCode?_code (t : Text) :
    extendCode? (rootOf (.code t :: bs)) s = some (rootOf (.code (t ++ s) :: bs)) := by
  have hreplace := replaceLast_rootOf (.code t) bs (.code (t ++ s))
  rw [extendCode?, lastChild?_rootOf, ← hreplace]
  rfl

theorem extendCode?_getD : (extendCode? (rootOf bs) s).getD (rootOf bs) = rootOf (extend s bs) := by
  match bs with
  | [] => rfl
  | .text t :: bs =>
    rw [extendCode?_text]
    rfl
  | .code t :: bs =>
    rw [extendCode?_code]
    rfl

theorem extendCode?_getD_push :
    (extendCode? (rootOf bs) ('\n' :: s)).getD ((rootOf bs).push (newCode s)) =
      rootOf (place s bs) := by
  match bs with
  | [] => rfl
  | .text t :: bs =>
    rw [extendCode?_text]
    exact push_rootOf (.code s) (.text t :: bs)
  | .code t :: bs =>
    rw [extendCode?_code]
    rfl

/-- No list goes on. -/
theorem continuesList_rootOf : continuesList .document (rootOf bs) s = false := by
  have hlast : (lastChild? (rootOf bs)).any isListTag = false := by
    rw [lastChild?_rootOf]
    match bs with
    | [] => rfl
    | .text t :: bs => rfl
    | .code t :: bs => rfl
  have hroot : (rootOf bs).hasTag "li" = false := rfl
  rw [continuesList, hlast, hroot, Bool.or_false, Bool.and_false]

end RootOf

/-! ## One block -/

variable (opts : BlockOptions)

/-- Blocks of a text read into a root with boxes. -/
def readInto (fuel : Nat) (bs : List Box) (s : Text) : BlockM Element :=
  parseBlocks opts fuel .document (rootOf bs) (blocksOf s)

theorem readInto_empty (fuel : Nat) (bs : List Box) (s : Text) :
    readInto opts (fuel + 1) bs ('\n' :: '\n' :: s) =
      readInto opts fuel (extend ['\n', '\n'] bs) s := by
  have hblocks : blocksOf ('\n' :: '\n' :: s) = [] :: blocksOf s :=
    Text.splitOnText_append_self s
  rw [readInto, hblocks, parseBlocks]
  simp only [List.isEmpty_nil, Bool.true_or, if_true, List.tail_nil, extendCode?_getD]
  rfl

/-- The first block of a text begins as the text does, but for a line end. -/
theorem exists_blocksOf_cons {c : Char} (hc : c ≠ '\n') (s : Text) :
    ∃ l ps, blocksOf (c :: s) = (c :: l) :: ps := by
  obtain ⟨l, ps, hsplit⟩ :=
    List.exists_cons_of_ne_nil (Text.splitOnText_ne_nil ['\n', '\n'] s)
  exact ⟨l, ps, Text.splitOnText_cons (if_neg (Ne.symm hc)) hsplit⟩

theorem readInto_lineEnd (fuel : Nat) (bs : List Box) {c : Char} (hc : c ≠ '\n') (s : Text) :
    readInto opts (fuel + 1) bs ('\n' :: c :: s) =
      readInto opts fuel (extend ['\n'] bs) (c :: s) := by
  obtain ⟨l, ps, hblocks⟩ := exists_blocksOf_cons hc s
  have hstrip : Text.strip? ['\n', '\n'] ('\n' :: c :: s) = none :=
    (if_pos rfl).trans (if_neg (Ne.symm hc))
  have hmore : blocksOf ('\n' :: c :: s) = ('\n' :: c :: l) :: ps :=
    Text.splitOnText_cons hstrip hblocks
  rw [readInto, readInto, hmore, hblocks, parseBlocks]
  simp only [List.isEmpty_cons, List.head?_cons, decide_true, Bool.or_true, if_true,
    Bool.false_eq_true, if_false, List.tail_cons, extendCode?_getD]

/-! ## Line ends between blocks -/

theorem extend_nil (bs : List Box) : extend [] bs = bs := by
  match bs with
  | [] => rfl
  | .text t :: bs => rfl
  | .code t :: bs => rw [extend, List.append_nil]

theorem extend_extend (s t : Text) (bs : List Box) :
    extend t (extend s bs) = extend (s ++ t) bs := by
  match bs with
  | [] => rfl
  | .text u :: bs => rfl
  | .code u :: bs => rw [extend, extend, extend, List.append_assoc]

theorem copies_add_two (n : Nat) :
    Text.copies (n + 2) '\n' = '\n' :: '\n' :: Text.copies n '\n' := rfl

/-- Line ends before a block are read in pairs, and a single one with the block. -/
theorem exists_readInto_copies (n : Nat) {c : Char} (hc : c ≠ '\n') :
    ∃ m ≤ n, ∀ fuel bs s, readInto opts (m + fuel) bs (Text.copies n '\n' ++ c :: s) =
      readInto opts fuel (extend (Text.copies n '\n') bs) (c :: s) := by
  induction n using Nat.twoStepInduction with
  | zero =>
    refine ⟨0, Nat.le_refl 0, fun fuel bs s => ?_⟩
    have hnone : Text.copies 0 '\n' = [] := rfl
    rw [hnone, extend_nil, Nat.zero_add, List.nil_append]
  | one =>
    refine ⟨1, Nat.le_refl 1, fun fuel bs s => ?_⟩
    rw [Nat.add_comm]
    exact readInto_lineEnd opts fuel bs hc s
  | more n ih _ =>
    obtain ⟨m, hm, hread⟩ := ih
    refine ⟨m + 1, by omega, fun fuel bs s => ?_⟩
    rw [copies_add_two, Nat.add_right_comm, List.cons_append, List.cons_append, readInto_empty,
      hread, extend_extend]
    rfl

theorem exists_readInto_zero (bs : List Box) (s : Text) :
    ∃ m, readInto opts 0 bs s = pure (rootOf (extend (Text.copies m '\n') bs)) :=
  ⟨0, (congrArg (fun bs => (pure (rootOf bs) : BlockM Element)) (extend_nil bs)).symm⟩

/-- Line ends at the end of a text leave no more than line ends. -/
theorem exists_readInto_end (n fuel : Nat) (bs : List Box) :
    ∃ m, readInto opts fuel bs (Text.copies n '\n') =
      pure (rootOf (extend (Text.copies m '\n') bs)) := by
  induction n using Nat.twoStepInduction generalizing fuel bs with
  | zero =>
    cases fuel with
    | zero => exact exists_readInto_zero opts bs _
    | succ fuel =>
      refine ⟨2, ?_⟩
      have hblocks : blocksOf (Text.copies 0 '\n') = [[]] := Text.splitOnText_nil
      rw [readInto, hblocks, parseBlocks]
      simp only [List.isEmpty_nil, Bool.true_or, if_true, List.tail_nil, extendCode?_getD,
        parseBlocks_nil]
      rfl
  | one =>
    cases fuel with
    | zero => exact exists_readInto_zero opts bs _
    | succ fuel =>
      refine ⟨1, ?_⟩
      have hblocks : blocksOf (Text.copies 1 '\n') = [['\n']] :=
        Text.splitOnText_cons rfl Text.splitOnText_nil
      rw [readInto, hblocks, parseBlocks]
      simp only [List.isEmpty_cons, List.head?_cons, decide_true, Bool.or_true, if_true,
        Bool.false_eq_true, if_false, List.tail_cons, List.isEmpty_nil, extendCode?_getD,
        parseBlocks_nil]
      rfl
  | more n ih _ =>
    cases fuel with
    | zero => exact exists_readInto_zero opts bs _
    | succ fuel =>
      obtain ⟨m, hread⟩ := ih fuel (extend ['\n', '\n'] bs)
      refine ⟨m + 2, ?_⟩
      rw [copies_add_two, readInto_empty, hread, extend_extend]
      rfl

/-! ## Paragraphs and code -/

/-- A line that is a paragraph. -/
structure IsParagraph (l : Text) : Prop where
  isLine : IsLine l
  bracket : l.head? ≠ some '['
  isBlank : ∀ c ∈ l.head?, Text.isBlank c = false

theorem blocksOf_append {ls : List Text} (hne : ls ≠ []) (h : ∀ l ∈ ls, l ≠ [] ∧ '\n' ∉ l)
    (s : Text) : blocksOf (Text.unlines ls ++ '\n' :: '\n' :: s) = Text.unlines ls :: blocksOf s :=
  Text.splitOnText_unlines hne h (Text.splitOnText_append_self s)

section Paragraph

variable {l : Text} (h : IsParagraph l)
include h

theorem IsParagraph.dropMargin : Text.dropAtMost Text.isSpace (tabWidth - 1) l = l :=
  dropMargin_of_line h.isLine

theorem IsParagraph.readFootnote? : readFootnote? l = none := by
  rw [Markdown.readFootnote?, h.dropMargin]
  split
  · next t => exact absurd rfl h.bracket
  · rfl

theorem IsParagraph.readReference? : readReference? l = none := by
  rw [Markdown.readReference?, h.dropMargin]
  split
  · next t => exact absurd rfl h.bracket
  · rfl

theorem readInto_paragraph (fuel : Nat) (bs : List Box) (s : Text) :
    readInto opts (fuel + 1) bs (l ++ '\n' :: '\n' :: s) =
      readInto opts fuel (.text l :: bs) s := by
  obtain ⟨c, t, hl, -⟩ := h.isLine.head
  have hblocks : blocksOf (l ++ '\n' :: '\n' :: s) = l :: blocksOf s :=
    blocksOf_append (List.cons_ne_nil l []) (List.forall_mem_singleton.2
      ⟨hl ▸ List.cons_ne_nil c t, h.isLine.not_mem (by decide)⟩) s
  rw [readInto, hblocks, parseBlocks_paragraph h.isLine h.readFootnote? h.readReference? h.isBlank]
  exact congrArg (parseBlocks opts fuel .document · (blocksOf s)) (push_rootOf (.text l) bs)

end Paragraph

/-- Lines of code without an empty one.  No white space stands at their end. -/
structure IsChunk (chunk : List Text) : Prop where
  ne_nil : chunk ≠ []
  lines : ∀ l ∈ chunk, l ≠ [] ∧ '\n' ∉ l
  last : ∀ l ∈ chunk.getLast?, Text.trimEnd l = l

/-- Lines of code in escaped form. -/
def escaped (code : List Text) : Text := Html.escape .plain (Text.unlines code) ++ ['\n']

theorem indent_of_ne_nil {l : Text} (h : l ≠ []) : indent l = indentation 1 ++ l := if_neg h

theorem exists_unlines_indent {l : Text} (h : l ≠ []) (ls : List Text) :
    ∃ t, Text.unlines ((l :: ls).map indent) = indentation 1 ++ t := by
  rw [List.map_cons, Text.unlines_cons, indent_of_ne_nil h, List.append_assoc]
  exact ⟨_, rfl⟩

theorem outdentFront_map_indent {chunk : List Text} (h : ∀ l ∈ chunk, l ≠ []) :
    outdentFront (chunk.map indent) = (chunk, []) := by
  induction chunk with
  | nil => rfl
  | cons l chunk ih =>
    rw [List.forall_mem_cons] at h
    have hstrip := Text.strip?_append (indentation 1) l
    have hindented : isIndented (indentation 1 ++ l) = true := by
      rw [isIndented, Text.startsWith, hstrip]
      rfl
    rw [List.map_cons, indent_of_ne_nil h.1, outdentFront, hindented, ih h.2, dropIndentation,
      hstrip]
    rfl

theorem trimEnd_append {s l : Text} (hne : l ≠ []) (h : Text.trimEnd l = l) :
    Text.trimEnd (s ++ l) = s ++ l := by
  have hlast := List.rdropWhile_eq_self_iff.1 h hne
  refine List.rdropWhile_eq_self_iff.2 fun happend => ?_
  rwa [List.getLast_append_of_ne_nil _ hne]

section Chunk

variable {chunk : List Text} (h : IsChunk chunk)
include h

theorem IsChunk.not_mem_indent : ∀ l ∈ chunk.map indent, l ≠ [] ∧ '\n' ∉ l := by
  refine List.forall_mem_map.2 fun l hl => ?_
  obtain ⟨hne, hline⟩ := h.lines l hl
  rw [indent_of_ne_nil hne]
  exact ⟨List.cons_ne_nil _ _, fun hmem => (List.mem_append.1 hmem).elim (by decide) hline⟩

theorem IsChunk.trimEnd : Text.trimEnd (Text.unlines chunk) = Text.unlines chunk := by
  obtain ⟨front, l, rfl⟩ := (List.eq_nil_or_concat' chunk).resolve_left h.ne_nil
  have hne := (h.lines l (List.mem_append_right _ (List.mem_singleton_self l))).1
  have hlast := h.last l (by rw [List.getLast?_concat]; exact rfl)
  rcases List.eq_nil_or_concat' front with rfl | ⟨front, m, rfl⟩
  · exact hlast
  · rw [Text.unlines_append (by simp) (List.cons_ne_nil l []), List.append_cons]
    exact trimEnd_append hne hlast

theorem IsChunk.addCode (bs : List Box) :
    addCode (rootOf bs) (Text.unlines (chunk.map indent)) =
      (rootOf (place (escaped chunk) bs), []) := by
  have hlines : Text.lines (Text.unlines (chunk.map indent)) = chunk.map indent :=
    Text.lines_unlines (by simpa using h.ne_nil) fun l hl => (h.not_mem_indent l hl).2
  rw [Markdown.addCode, hlines, outdentFront_map_indent fun l hl => (h.lines l hl).1]
  dsimp only
  rw [h.trimEnd, ← escaped, extendCode?_getD_push]
  rfl

theorem readInto_chunk (fuel : Nat) (bs : List Box) (s : Text) :
    readInto opts (fuel + 1) bs (Text.unlines (chunk.map indent) ++ '\n' :: '\n' :: s) =
      readInto opts fuel (place (escaped chunk) bs) s := by
  have hblocks := blocksOf_append (by simpa using h.ne_nil) h.not_mem_indent s
  have hadd := h.addCode bs
  obtain ⟨l, ls, rfl⟩ := List.exists_cons_of_ne_nil h.ne_nil
  obtain ⟨t, hblock⟩ := exists_unlines_indent (h.lines l List.mem_cons_self).1 ls
  have hindented : isIndented (indentation 1 ++ t) = true := by
    rw [isIndented, Text.startsWith, Text.strip?_append]
    rfl
  have hstart : ((indentation 1 ++ t).isEmpty ||
      decide ((indentation 1 ++ t).head? = some '\n')) = false := rfl
  rw [readInto, hblocks, parseBlocks]
  rw [hblock] at hadd ⊢
  simp only [hstart, continuesList_rootOf, hindented, hadd, Bool.false_eq_true, if_false, if_true,
    List.isEmpty_nil]
  rfl

end Chunk

/-! ## Code with empty lines -/

/-- Chunks of code with empty lines between them. -/
inductive IsChunked : List Text → Prop
  | one {chunk : List Text} : IsChunk chunk → IsChunked chunk
  | cons {chunk code : List Text} (n : Nat) :
      IsChunk chunk → IsChunked code → IsChunked (chunk ++ (List.replicate (n + 1) [] ++ code))

theorem IsChunk.cons {l : Text} (hne : l ≠ []) (hline : '\n' ∉ l) {chunk : List Text}
    (h : IsChunk chunk) : IsChunk (l :: chunk) where
  ne_nil := List.cons_ne_nil l chunk
  lines := List.forall_mem_cons.2 ⟨⟨hne, hline⟩, h.lines⟩
  last := by
    rw [List.getLast?_cons_of_ne_nil h.ne_nil]
    exact h.last

theorem IsChunked.cons_line {l : Text} (hne : l ≠ []) (hline : '\n' ∉ l) {code : List Text}
    (h : IsChunked code) : IsChunked (l :: code) := by
  cases h with
  | one h => exact .one (h.cons hne hline)
  | cons n h hcode => exact .cons n (h.cons hne hline) hcode

theorem IsChunked.exists_cons {code : List Text} (h : IsChunked code) :
    ∃ l ls, code = l :: ls ∧ l ≠ [] := by
  have hfirst : ∀ {chunk rest : List Text}, IsChunk chunk →
      ∃ l ls, chunk ++ rest = l :: ls ∧ l ≠ [] := by
    intro chunk rest h
    obtain ⟨l, ls, rfl⟩ := List.exists_cons_of_ne_nil h.ne_nil
    exact ⟨l, ls ++ rest, rfl, (h.lines l List.mem_cons_self).1⟩
  cases h with
  | one h => exact List.append_nil code ▸ hfirst h
  | cons n h _ => exact hfirst h

/-- Lines of which the last one is not empty are chunks of code behind some empty lines. -/
theorem exists_isChunked {code : List Text} (hne : code ≠ []) (hlast : code.getLast? ≠ some [])
    (hends : (code ++ [[]]).IsChain fun l m => m = [] → Text.trimEnd l = l)
    (hlines : ∀ l ∈ code, '\n' ∉ l) :
    ∃ n code', code = List.replicate n [] ++ code' ∧ IsChunked code' := by
  induction code with
  | nil => exact absurd rfl hne
  | cons l code ih =>
    rw [List.forall_mem_cons] at hlines
    have hone : l ≠ [] → Text.trimEnd l = l → IsChunk [l] := fun hl htrim =>
      ⟨List.cons_ne_nil l [], List.forall_mem_singleton.2 ⟨hl, hlines.1⟩,
        by rintro _ ⟨⟩; exact htrim⟩
    cases code with
    | nil =>
      have hl : l ≠ [] := fun he => hlast (he ▸ rfl)
      have htrim : Text.trimEnd l = l := (List.isChain_cons_cons.1 hends).1 rfl
      exact ⟨0, [l], rfl, .one (hone hl htrim)⟩
    | cons m code =>
      rw [List.cons_append, List.cons_append, List.isChain_cons_cons] at hends
      obtain ⟨n, code', hcode, hchunked⟩ := ih (List.cons_ne_nil m code)
        (by rwa [List.getLast?_cons_cons] at hlast) hends.2 hlines.2
      by_cases hl : l = []
      · exact ⟨n + 1, code', by rw [hl, hcode, List.replicate_succ, List.cons_append], hchunked⟩
      · refine ⟨0, l :: m :: code, rfl, ?_⟩
        rw [hcode]
        cases n with
        | zero => exact hchunked.cons_line hl hlines.1
        | succ n =>
          have hm : m = [] := by
            rw [List.replicate_succ, List.cons_append] at hcode
            exact (List.cons.inj hcode).1
          exact .cons n (hone hl (hends.1 hm)) hchunked

theorem IsCode.isChunked {code : List Text} (h : IsCode code) (hlines : ∀ l ∈ code, '\n' ∉ l) :
    IsChunked code := by
  obtain ⟨n, code', rfl, hchunked⟩ := exists_isChunked h.ne_nil h.last h.ends hlines
  cases n with
  | zero => exact hchunked
  | succ n => exact absurd rfl h.first

theorem place_extend_place (s t u : Text) (bs : List Box) :
    place u (extend t (place s bs)) = place (s ++ (t ++ '\n' :: u)) bs := by
  match bs with
  | [] | .text _ :: _ | .code _ :: _ => simp [place, extend]

theorem unlines_replicate_append (n : Nat) {ls : List Text} (h : ls ≠ []) :
    Text.unlines (List.replicate n [] ++ ls) = Text.copies n '\n' ++ Text.unlines ls := by
  induction n with
  | zero => rfl
  | succ n ih =>
    have hsplit : List.replicate (n + 1) [] ++ ls = [[]] ++ (List.replicate n [] ++ ls) := rfl
    rw [hsplit, Text.unlines_append (List.cons_ne_nil _ _) (by simp [h]), ih]
    rfl

theorem unlines_chunk_append (n : Nat) {chunk code : List Text} (hchunk : chunk ≠ [])
    (hcode : code ≠ []) :
    Text.unlines (chunk ++ (List.replicate (n + 1) [] ++ code)) =
      Text.unlines chunk ++ '\n' :: '\n' :: (Text.copies n '\n' ++ Text.unlines code) := by
  rw [Text.unlines_append hchunk (by simp), unlines_replicate_append (n + 1) hcode]
  rfl

theorem escaped_append (n : Nat) {chunk code : List Text} (hchunk : chunk ≠ [])
    (hcode : code ≠ []) :
    escaped (chunk ++ (List.replicate (n + 1) [] ++ code)) =
      escaped chunk ++ (Text.copies n '\n' ++ '\n' :: escaped code) := by
  have hlines : Text.copies (n + 1) '\n' = Text.copies n '\n' ++ ['\n'] := List.replicate_succ'
  have hescape : Html.escape .plain (Text.copies (n + 1) '\n') = Text.copies (n + 1) '\n' :=
    Html.escape_eq_self fun c hc => by rw [List.eq_of_mem_replicate hc]; rfl
  calc escaped (chunk ++ (List.replicate (n + 1) [] ++ code))
    _ = Html.escape .plain (Text.unlines chunk ++
          '\n' :: (Text.copies (n + 1) '\n' ++ Text.unlines code)) ++ ['\n'] := by
        rw [escaped, unlines_chunk_append n hchunk hcode]
        rfl
    _ = Html.escape .plain (Text.unlines chunk) ++
          '\n' :: (Text.copies (n + 1) '\n' ++ escaped code) := by
        rw [Html.escape_append, Html.escape_cons, Html.escape_append, hescape]
        simp only [escaped, List.append_assoc]
        rfl
    _ = escaped chunk ++ (Text.copies n '\n' ++ '\n' :: escaped code) := by
        simp only [escaped, hlines, List.append_assoc, List.singleton_append]

/-- Indented code is read into one box, its empty lines included. -/
theorem exists_readInto_code {code : List Text} (h : IsChunked code) :
    ∃ m ≤ (Text.unlines (code.map indent)).length + 1, ∀ fuel bs s,
      readInto opts (m + fuel) bs (Text.unlines (code.map indent) ++ '\n' :: '\n' :: s) =
        readInto opts fuel (place (escaped code) bs) s := by
  induction h with
  | one h =>
    refine ⟨1, by omega, fun fuel bs s => ?_⟩
    rw [Nat.add_comm]
    exact readInto_chunk opts h fuel bs s
  | @cons chunk code n h hcode ih =>
    obtain ⟨m, hm, hread⟩ := ih
    obtain ⟨l, ls, rfl, hl⟩ := hcode.exists_cons
    obtain ⟨t, hfirst⟩ : ∃ t, Text.unlines ((l :: ls).map indent) = ' ' :: t := by
      obtain ⟨t, ht⟩ := exists_unlines_indent hl ls
      exact ⟨_, ht⟩
    have hlines : Text.unlines ((chunk ++ (List.replicate (n + 1) [] ++ l :: ls)).map indent) =
        Text.unlines (chunk.map indent) ++
          '\n' :: '\n' :: (Text.copies n '\n' ++ Text.unlines ((l :: ls).map indent)) := by
      rw [List.map_append, List.map_append, List.map_replicate]
      exact unlines_chunk_append n (by simpa using h.ne_nil) (by simp)
    obtain ⟨k, hk, hgap⟩ := exists_readInto_copies opts n (c := ' ') (by decide)
    refine ⟨1 + k + m, ?_, fun fuel bs s => ?_⟩
    · rw [hlines]
      simp only [List.length_append, List.length_cons, Text.copies, List.length_replicate]
      omega
    · have hnext := hread fuel (extend (Text.copies n '\n') (place (escaped chunk) bs)) s
      rw [hfirst, List.cons_append] at hnext
      rw [hlines, hfirst, List.append_assoc, List.cons_append, List.cons_append, List.append_assoc,
        List.cons_append, Nat.add_assoc, Nat.add_assoc, Nat.add_comm 1, readInto_chunk opts h, hgap,
        hnext, place_extend_place, escaped_append n h.ne_nil (List.cons_ne_nil l ls)]

/-! ## A whole document -/

/-- The box that a part is read into.  Behind code stand the line ends up to the next part. -/
def boxOf (n : Nat) : Part × Nat → Box
  | (.paragraph words, _) => .text (Prose.line (words.map .word))
  | (.fenced _ _ _, k) | (.placeholder _, k) => .text (Stash.marker k)
  | (.indented code, _) => .code (escaped code ++ Text.copies n '\n')

/-- What is kept of a part can be read. -/
def IsReadable : Part × Nat → Prop
  | (.paragraph words, _) => IsParagraph (Prose.line (words.map .word))
  | (.fenced _ _ _, k) | (.placeholder _, k) => IsParagraph (Stash.marker k)
  | (.indented code, _) => IsChunked code

theorem isCode_boxOf (n : Nat) (x : Part × Nat) : (boxOf n x).isCode = x.1.isIndented := by
  obtain ⟨p, k⟩ := x
  cases p <;> rfl

theorem extend_boxOf (n : Nat) (x : Part × Nat) (bs : List Box) :
    extend (Text.copies n '\n') (boxOf 0 x :: bs) = boxOf n x :: bs := by
  obtain ⟨p, k⟩ := x
  cases p with
  | indented code =>
    have hnone : Text.copies 0 '\n' = [] := rfl
    rw [boxOf, hnone, List.append_nil]
    rfl
  | _ => rfl

theorem head?_extend (s : Text) (bs : List Box) :
    (extend s bs).head?.map Box.isCode = bs.head?.map Box.isCode := by
  match bs with
  | [] | .text _ :: _ | .code _ :: _ => rfl

section Part

variable {x : Part × Nat} (h : IsReadable x)
include h

theorem IsReadable.exists_cons : ∃ c t, c ≠ '\n' ∧ Text.unlines (kept x) = c :: t := by
  have hline : ∀ {l : Text}, IsParagraph l → ∃ c t, c ≠ '\n' ∧ Text.unlines [l] = c :: t := by
    intro l hl
    obtain ⟨c, t, rfl, hc⟩ := hl.isLine.head
    exact ⟨c, t, fun he => hc (he ▸ by decide), rfl⟩
  obtain ⟨p, k⟩ := x
  cases p with
  | paragraph words => exact hline h
  | fenced marks language code => exact hline h
  | placeholder line => exact hline h
  | indented code =>
    obtain ⟨l, ls, rfl, hl⟩ := IsChunked.exists_cons h
    obtain ⟨t, ht⟩ := exists_unlines_indent hl ls
    exact ⟨' ', _, by decide, ht⟩

/-- A part is read into its box.  Two blocks of indented code do not come together. -/
theorem IsReadable.exists_readInto :
    ∃ m ≤ (Text.unlines (kept x)).length + 1, ∀ fuel bs s,
      (x.1.isIndented = true → ∀ b ∈ bs.head?, b.isCode = false) →
      readInto opts (m + fuel) bs (Text.unlines (kept x) ++ '\n' :: '\n' :: s) =
        readInto opts fuel (boxOf 0 x :: bs) s := by
  have hline : ∀ {l : Text}, IsParagraph l → ∃ m ≤ (Text.unlines [l]).length + 1, ∀ fuel bs s,
      readInto opts (m + fuel) bs (Text.unlines [l] ++ '\n' :: '\n' :: s) =
        readInto opts fuel (.text l :: bs) s := by
    intro l hl
    refine ⟨1, by omega, fun fuel bs s => ?_⟩
    rw [Nat.add_comm]
    exact readInto_paragraph opts hl fuel bs s
  obtain ⟨p, k⟩ := x
  cases p with
  | indented code =>
    obtain ⟨m, hm, hread⟩ := exists_readInto_code opts h
    refine ⟨m, hm, fun fuel bs s hbs => ?_⟩
    have hplace : place (escaped code) bs = boxOf 0 (.indented code, k) :: bs := by
      have hnone : escaped code ++ Text.copies 0 '\n' = escaped code := List.append_nil _
      rw [boxOf, hnone]
      match bs with
      | [] | .text _ :: _ => rfl
      | .code _ :: _ => cases hbs rfl _ rfl
    rw [← hplace]
    exact hread fuel bs s
  | _ =>
    obtain ⟨m, hm, hread⟩ := hline h
    exact ⟨m, hm, fun fuel bs s _ => hread fuel bs s⟩

end Part

theorem Spaced.ne_nil {α : Type} {linesOf : α → List Text} {ls : List Text} {as : List α}
    (h : Spaced linesOf ls as) : ls ≠ [] := by
  cases h <;> simp

/-- The parts of a document are read into their boxes one after the other. -/
theorem Spaced.exists_readInto {ns : List Text} {xs : List (Part × Nat)} (h : Spaced kept ns xs)
    (hxs : ∀ x ∈ xs, IsReadable x)
    (hapart : xs.IsChain fun x y => x.1.isIndented = false ∨ y.1.isIndented = false)
    (n fuel : Nat) (bs : List Box)
    (hfirst : ∀ x ∈ xs.head?, x.1.isIndented = true → ∀ b ∈ bs.head?, b.isCode = false)
    (hfuel : n + (Text.unlines ns).length ≤ fuel) :
    ∃ k bs', readInto opts fuel bs (Text.copies n '\n' ++ Text.unlines ns) =
        pure (rootOf (bs'.reverse ++ extend (Text.copies k '\n') bs)) ∧
      List.Forall₂ (fun x b => ∃ m, b = boxOf m x) xs bs' := by
  induction h generalizing n fuel bs with
  | nil =>
    obtain ⟨k, hread⟩ := exists_readInto_end opts n fuel bs
    refine ⟨k, [], ?_, .nil⟩
    rw [List.reverse_nil, List.nil_append, ← hread]
    exact congrArg (readInto opts fuel bs) (List.append_nil _)
  | @gap ls xs h ih =>
    have htext : Text.unlines ([] :: ls) = '\n' :: Text.unlines ls :=
      Text.unlines_append (List.cons_ne_nil [] []) h.ne_nil
    have hcopies : Text.copies n '\n' ++ '\n' :: Text.unlines ls =
        Text.copies (n + 1) '\n' ++ Text.unlines ls := by
      rw [List.append_cons]
      exact congrArg (· ++ Text.unlines ls) List.replicate_succ'.symm
    rw [htext] at hfuel ⊢
    rw [List.length_cons] at hfuel
    rw [hcopies]
    exact ih hxs hapart (n + 1) fuel bs hfirst (by omega)
  | @cons x ls xs h ih =>
    rw [List.forall_mem_cons] at hxs
    obtain ⟨hx, hxs⟩ := hxs
    obtain ⟨c, t, hc, hchar⟩ := hx.exists_cons
    obtain ⟨m, hm, hgap⟩ := exists_readInto_copies opts n hc
    obtain ⟨m', hm', hpart⟩ := hx.exists_readInto opts
    have htext : Text.unlines (kept x ++ [] :: ls) =
        Text.unlines (kept x) ++ '\n' :: '\n' :: Text.unlines ls := by
      have hkept : kept x ≠ [] := fun hnil => by
        rw [hnil] at hchar
        cases hchar
      rw [Text.unlines_append hkept (List.cons_ne_nil [] ls)]
      exact congrArg (Text.unlines (kept x) ++ '\n' :: ·)
        (Text.unlines_append (List.cons_ne_nil [] []) h.ne_nil)
    have hnext : ∀ y ∈ xs.head?, y.1.isIndented = true →
        ∀ b ∈ (boxOf 0 x :: extend (Text.copies n '\n') bs).head?, b.isCode = false := by
      rintro y hy hindented _ ⟨⟩
      rw [isCode_boxOf]
      exact (hapart.rel_head? hy).resolve_right (by rw [hindented]; exact Bool.noConfusion)
    have hlast : x.1.isIndented = true →
        ∀ b ∈ (extend (Text.copies n '\n') bs).head?, b.isCode = false := by
      intro hindented b hb
      have hhead := head?_extend (Text.copies n '\n') bs
      rw [Option.mem_def.1 hb, Option.map_some] at hhead
      obtain ⟨b', hb', hcode⟩ := Option.map_eq_some_iff.1 hhead.symm
      exact hcode ▸ hfirst x rfl hindented b' hb'
    have hlength := congrArg List.length htext
    simp only [List.length_append, List.length_cons] at hlength
    obtain ⟨rest, rfl⟩ : ∃ rest, fuel = m + (m' + rest) := ⟨fuel - m - m', by omega⟩
    obtain ⟨k, bs', hread, hboxes⟩ := ih hxs hapart.tail 0 rest
      (boxOf 0 x :: extend (Text.copies n '\n') bs) hnext (by omega)
    refine ⟨n, boxOf k x :: bs', ?_, .cons ⟨k, rfl⟩ hboxes⟩
    rw [extend_boxOf] at hread
    rw [htext, hchar, List.cons_append, hgap, ← List.cons_append, ← hchar, hpart _ _ _ hlast,
      List.reverse_cons, List.append_assoc]
    exact hread

end Listing

end WikiText
