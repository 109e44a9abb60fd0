import Mathlib.Data.List.Forall2
import Mathlib.Order.Defs.Unbundled

/-!
# What computations with a state keep and yield

`Yields R Q m` says that `m` goes from each state to one that `R` allows, and that `Q` holds of its
result.  What holds of a long computation follows from what holds of its steps.
-/

namespace WikiText

variable {σ α β : Type}

/-- From each state a computation goes to one that `R` allows, with a result of which `Q` holds. -/
def Yields (R : σ → σ → Prop) (Q : α → Prop) (m : StateM σ α) : Prop :=
  ∀ st, R st (m st).2 ∧ Q (m st).1

namespace Yields

variable {R : σ → σ → Prop} {P Q : α → Prop} {Q' : β → Prop}

theorem mono {m : StateM σ α} (h : Yields R P m) (hPQ : ∀ a, P a → Q a) : Yields R Q m :=
  fun st => ⟨(h st).1, hPQ _ (h st).2⟩

theorem of_modify {f : σ → σ} (h : ∀ st, R st (f st)) :
    Yields R (fun _ => True) (modify f : StateM σ PUnit) := fun st => ⟨h st, trivial⟩

section Refl

variable [Std.Refl R]

theorem pure {a : α} (h : Q a) : Yields R Q (pure a : StateM σ α) := fun st =>
  ⟨refl_of R st, h⟩

theorem get : Yields R (fun _ => True) (get : StateM σ σ) := fun st => ⟨refl_of R st, trivial⟩

end Refl

theorem map {m : StateM σ α} {f : α → β} (hm : Yields R P m) (hf : ∀ a, P a → Q' (f a)) :
    Yields R Q' (f <$> m) := fun st => ⟨(hm st).1, hf _ (hm st).2⟩

theorem bind [IsTrans σ R] {m : StateM σ α} {f : α → StateM σ β} (hm : Yields R P m)
    (hf : ∀ a, P a → Yields R Q' (f a)) : Yields R Q' (m >>= f) := fun st =>
  ⟨trans_of R (hm st).1 (hf _ (hm st).2 _).1, (hf _ (hm st).2 _).2⟩

variable [Std.Refl R] [IsTrans σ R]

theorem foldlM {f : β → α → StateM σ β} {as : List α}
    (hf : ∀ b, Q' b → ∀ a ∈ as, Yields R Q' (f b a)) {b : β} (hb : Q' b) :
    Yields R Q' (as.foldlM f b) := by
  induction as generalizing b with
  | nil => exact .pure hb
  | cons a as ih =>
    rw [List.foldlM_cons]
    exact (hf b hb a List.mem_cons_self).bind fun b' hb' =>
      ih (fun b hb a ha => hf b hb a (List.mem_cons_of_mem _ ha)) hb'

/-- The results of a computation that is run on each element of a list. -/
theorem mapM {S : α → β → Prop} {f : α → StateM σ β} {as : List α}
    (hf : ∀ a ∈ as, Yields R (S a) (f a)) : Yields R (List.Forall₂ S as) (as.mapM f) := by
  induction as with
  | nil => exact .pure .nil
  | cons a as ih =>
    rw [List.mapM_cons]
    exact (hf a List.mem_cons_self).bind fun b hb =>
      (ih fun a ha => hf a (List.mem_cons_of_mem _ ha)).bind fun bs hbs => .pure (.cons hb hbs)

end Yields

end WikiText
