/-!
# Computations that give a result

What a sequence gives is what its last step gives, so a computation that gave a result can be taken
apart: see `Returns.of_bind`.
-/

namespace WikiText

/-- When a computation gives a result, in monads in which the result of a sequence is that of its
last step. -/
class Returns (m : Type → Type) [Monad m] where
  returns {α : Type} : m α → α → Prop
  of_pure {α : Type} {a b : α} : returns (pure a) b → b = a
  of_bind {α β : Type} {x : m α} {f : α → m β} {b : β} :
    returns (x >>= f) b → ∃ a, returns x a ∧ returns (f a) b

instance : Returns Id where
  returns x a := x = a
  of_pure h := h.symm
  of_bind h := ⟨_, rfl, h⟩

instance {ε : Type} : Returns (Except ε) where
  returns x a := x = .ok a
  of_pure h := (Except.ok.inj h).symm
  of_bind {_ _ x _ _} h := by
    cases x with
    | error e => cases h
    | ok a => exact ⟨a, rfl, h⟩

instance {σ : Type} {m : Type → Type} [Monad m] [Returns m] : Returns (StateT σ m) where
  returns x a := ∃ st st', Returns.returns (x st) (a, st')
  of_pure := by
    rintro _ a b ⟨st, st', h⟩
    exact congrArg Prod.fst (Returns.of_pure h)
  of_bind := by
    rintro _ _ x f b ⟨st, st', h⟩
    obtain ⟨⟨a, st₁⟩, hx, hf⟩ := Returns.of_bind h
    exact ⟨a, ⟨st, st₁, hx⟩, st₁, st', hf⟩

/-- What comes out of a computation that is run on each element of a list came out for one of
them. -/
theorem Returns.exists_of_mem_mapM {m : Type → Type} [Monad m] [LawfulMonad m] [Returns m]
    {α β : Type} {f : α → m β} {as : List α} {bs : List β} (h : returns (as.mapM f) bs) :
    ∀ b ∈ bs, ∃ a ∈ as, returns (f a) b := by
  induction as generalizing bs with
  | nil =>
    rw [List.mapM_nil] at h
    rw [of_pure h]
    exact fun _ hb => absurd hb List.not_mem_nil
  | cons a as ih =>
    rw [List.mapM_cons] at h
    obtain ⟨b, hb, h⟩ := of_bind h
    obtain ⟨bs', hbs, h⟩ := of_bind h
    rw [of_pure h, List.forall_mem_cons]
    refine ⟨⟨a, List.mem_cons_self, hb⟩, fun c hc => ?_⟩
    obtain ⟨a', ha', hc⟩ := ih hbs c hc
    exact ⟨a', List.mem_cons_of_mem _ ha', hc⟩

end WikiText
