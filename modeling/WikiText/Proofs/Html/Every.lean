import WikiText.Html.Traverse
import WikiText.Proofs.Returns

/-!
# What holds of every element of a tree

A property of elements holds throughout a tree if it holds of the root and throughout each child.
A step keeps it throughout a tree if it keeps it where it is applied: see `every_of_mapM`.
-/

namespace WikiText.Html.Element

open Returns (returns)

theorem elementsOf_eq (es : List Element) : elementsOf es = es.flatMap elements := by
  induction es with
  | nil => rfl
  | cons e es ih => rw [elementsOf, ih, List.flatMap_cons]

theorem elements_eq (e : Element) : e.elements = e :: e.children.flatMap elements := by
  cases e
  rw [elements, elementsOf_eq]
  rfl

/-- The property holds of every element of the tree. -/
def Every (P : Element → Prop) (e : Element) : Prop := ∀ x ∈ e.elements, P x

variable {P : Element → Prop}

theorem every_iff {e : Element} : e.Every P ↔ P e ∧ ∀ c ∈ e.children, c.Every P := by
  rw [Every, elements_eq, List.forall_mem_cons]
  refine and_congr_right fun _ => ?_
  simp only [List.mem_flatMap, forall_exists_index, and_imp, Every]
  exact ⟨fun h c hc x hx => h x c hc hx, fun h x c hc hx => h c hc x hx⟩

section MapM

variable {m : Type → Type} [Monad m] [Returns m] {f : Element → m Element}

mutual

/-- What a step keeps throughout the trees to which it is applied, it keeps when it is applied to
every element of a tree. -/
theorem every_of_mapM (hP : ∀ e children, P e → P (withChildren children e))
    (hf : ∀ e e', e.Every P → returns (f e) e' → e'.Every P) :
    ∀ {e e' : Element}, e.Every P → returns (mapM f e) e' → e'.Every P
  | .mk tag attributes data children tail, e', he, h => by
    rw [mapM] at h
    obtain ⟨children', hchildren, h⟩ := Returns.of_bind h
    rw [every_iff] at he
    refine hf _ e' (every_iff.2 ⟨hP _ children' he.1, ?_⟩) h
    exact every_of_mapListM hP hf he.2 hchildren

theorem every_of_mapListM (hP : ∀ e children, P e → P (withChildren children e))
    (hf : ∀ e e', e.Every P → returns (f e) e' → e'.Every P) :
    ∀ {es es' : List Element}, (∀ e ∈ es, e.Every P) → returns (mapListM f es) es' →
      ∀ e ∈ es', e.Every P
  | [], es', _, h => by
    rw [mapListM] at h
    rw [Returns.of_pure h]
    exact fun _ h => absurd h List.not_mem_nil
  | e :: es, es', hes, h => by
    rw [mapListM] at h
    obtain ⟨e', he, h⟩ := Returns.of_bind h
    obtain ⟨es'', hes', h⟩ := Returns.of_bind h
    rw [Returns.of_pure h]
    rw [List.forall_mem_cons] at hes ⊢
    exact ⟨every_of_mapM hP hf hes.1 he, every_of_mapListM hP hf hes.2 hes'⟩

end

end MapM

section Pure

variable {m : Type → Type} [Monad m] [LawfulMonad m] {f : Element → m Element}

mutual

/-- A step that changes no element of a tree changes no tree. -/
theorem mapM_of_every (hf : ∀ e, P e → f e = pure e) :
    ∀ {e : Element}, e.Every P → mapM f e = pure e
  | .mk tag attributes data children tail, h => by
    obtain ⟨he, hchildren⟩ := every_iff.1 h
    have hsame : mapListM f children = pure children := mapListM_of_every hf hchildren
    rw [mapM, hsame, pure_bind, hf _ he]

theorem mapListM_of_every (hf : ∀ e, P e → f e = pure e) :
    ∀ {es : List Element}, (∀ e ∈ es, e.Every P) → mapListM f es = pure es
  | [], _ => rfl
  | e :: es, h => by
    rw [List.forall_mem_cons] at h
    rw [mapListM, mapM_of_every hf h.1, pure_bind, mapListM_of_every hf h.2, pure_bind]

end

end Pure

/-- A function is applied to the children before their parent. -/
theorem map_mk (f : Element → Element) (tag : Text) (attributes : List (Text × Text)) (data : Data)
    (children : List Element) (tail : Data) :
    (mk tag attributes data children tail).map f =
      f (.mk tag attributes data (children.map (·.map f)) tail) := by
  have hchildren : mapListM (m := Id) (fun e => pure (f e)) children = children.map (·.map f) := by
    induction children with
    | nil => rfl
    | cons e es ih =>
      rw [mapListM, ih]
      rfl
  rw [map, mapM, hchildren]
  rfl

end WikiText.Html.Element
