import WikiText.Dictionary
import WikiText.Heading
import WikiText.Warning

/-! # The state of one render -/

namespace WikiText

/-- What the stages of one render share: the headings, the targets and titles of reference links
under their lower-case ids, the footnotes under their ids, the footnote ids in the order of their
first references, and the warnings. -/
structure RenderState where
  headings : List Heading := []
  urls : Dictionary Text := {}
  titles : Dictionary Text := {}
  footnotes : Dictionary Text := {}
  found : List Text := []
  warnings : List Warning := []

namespace RenderState

instance : Inhabited RenderState := ⟨{}⟩

def warn (w : Warning) (st : RenderState) : RenderState :=
  { st with warnings := st.warnings ++ [w] }

/-- Note a reference to a footnote, if it is the first. -/
def register (id : Text) (st : RenderState) : RenderState :=
  if st.found.elem id then st else { st with found := st.found ++ [id] }

/-- The number of a footnote, counted from one in the order of first references, and the state in
which it is registered. -/
def footnoteNumber (id : Text) (st : RenderState) : Nat × RenderState :=
  let st := st.register id
  (st.found.idxOf id + 1, st)

@[simp] theorem footnotes_warn (w : Warning) (st : RenderState) :
    (st.warn w).footnotes = st.footnotes := rfl

@[simp] theorem found_warn (w : Warning) (st : RenderState) : (st.warn w).found = st.found := rfl

@[simp] theorem footnotes_register (id : Text) (st : RenderState) :
    (st.register id).footnotes = st.footnotes := by
  rw [register]
  split <;> rfl

theorem found_register_of_mem {id : Text} {st : RenderState} (h : id ∈ st.found) :
    (st.register id).found = st.found := by
  rw [register, if_pos (by simpa using h)]

theorem found_register_of_not_mem {id : Text} {st : RenderState} (h : id ∉ st.found) :
    (st.register id).found = st.found ++ [id] := by
  rw [register, if_neg (by simpa using h)]

theorem mem_found_register {id id' : Text} {st : RenderState} :
    id' ∈ (st.register id).found ↔ id' = id ∨ id' ∈ st.found := by
  by_cases h : id ∈ st.found
  · rw [found_register_of_mem h]
    exact ⟨.inr, fun h' => h'.elim (fun e => e ▸ h) fun h' => h'⟩
  · rw [found_register_of_not_mem h]
    simp [or_comm]

end RenderState

end WikiText
