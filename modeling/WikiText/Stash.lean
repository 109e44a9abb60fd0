import WikiText.Text.Digit

/-! # Blocks put aside

Finished markup is put aside under a marker while the text around it is worked on.
-/

namespace WikiText

/-- The blocks put aside so far. -/
structure Stash where
  blocks : List Text := []
deriving Repr

namespace Stash

instance : Inhabited Stash := ⟨{}⟩

/-- Opens every marker. -/
def opening : Char := '\x02'

/-- Closes every marker. -/
def closing : Char := '\x03'

/-- The marker of the block with index `k`. -/
def marker (k : Nat) : Text := opening :: "wzxhzdk:".toList ++ Text.ofNat k ++ [closing]

theorem marker_inj {k j : Nat} (h : marker k = marker j) : k = j :=
  Text.ofNat_inj (List.append_cancel_left (List.append_cancel_right h))

theorem not_mem_marker {c : Char} (hdigit : Text.isAsciiDigit c = false)
    (h : c ∉ "\x02wzxhzdk:\x03".toList) (k : Nat) : c ∉ marker k := by
  rw [marker, List.mem_append, List.mem_append, not_or, not_or]
  refine ⟨⟨fun hmem => h ?_, Text.not_mem_ofNat hdigit k⟩, fun hmem => h ?_⟩
  · exact List.mem_append_left ['\x03'] hmem
  · exact List.mem_append_right "\x02wzxhzdk:".toList hmem

/-- Put a block aside: its marker, and the stash that holds it. -/
def store (block : Text) (st : Stash) : Text × Stash :=
  (marker st.blocks.length, ⟨st.blocks ++ [block]⟩)

end Stash

end WikiText
