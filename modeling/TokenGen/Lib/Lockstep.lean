import TokenGen.Lib.Outcome

/-!
# Two programs in lockstep

`EStateM.Lockstep R A m m'` : from states related by `R`, the programs `m` and `m'` both return,
with values related by `A`, or both fail with the same error, and their states are related
again. Programs in lockstep compose (`Lockstep.bind`, `Lockstep.mapM`), so that two runs of one
program are compared part by part, and what they may not differ in is the relation `R`.
-/

namespace EStateM

universe u

variable {ε σ α α' β β' : Type u} {R : σ → σ → Prop}

/-- Both returned, with related values, or both failed, with one error; in related states. -/
inductive Result.Related (R : σ → σ → Prop) (A : α → α' → Prop) :
    Result ε σ α → Result ε σ α' → Prop
  | ok {a : α} {a' : α'} {s s' : σ} (value : A a a') (state : R s s') :
    Related R A (.ok a s) (.ok a' s')
  | error (e : ε) {s s' : σ} (state : R s s') : Related R A (.error e s) (.error e s')

/-- From related states, two programs end in the same way and in related states. -/
def Lockstep (R : σ → σ → Prop) (A : α → α' → Prop) (m : EStateM ε σ α) (m' : EStateM ε σ α') :
    Prop :=
  ∀ ⦃s s'⦄, R s s' → Result.Related R A (m.run s) (m'.run s')

namespace Lockstep

variable {A : α → α' → Prop} {B : β → β' → Prop} {m : EStateM ε σ α} {m' : EStateM ε σ α'}

theorem pure {a : α} {a' : α'} (h : A a a') :
    Lockstep R A (pure a : EStateM ε σ α) (pure a') :=
  fun _ _ hs => .ok h hs

theorem throw (e : ε) : Lockstep R A (throw e : EStateM ε σ α) (throw e) :=
  fun _ _ hs => .error e hs

theorem bind (h : Lockstep R A m m') {f : α → EStateM ε σ β} {f' : α' → EStateM ε σ β'}
    (hf : ∀ {a a'}, A a a' → Lockstep R B (f a) (f' a')) :
    Lockstep R B (m >>= f) (m' >>= f') := by
  intro s s' hs
  have hresult := h hs
  rw [run_bind, run_bind]
  generalize m.run s = result, m'.run s' = result' at hresult
  cases hresult with
  | ok value state => exact hf value state
  | error e state => exact .error e state

/-- Programs run for each element of a list. -/
theorem mapM {γ : Type} (h : Lockstep R A m m') (l : List γ) :
    Lockstep R (fun as as' => as.length = l.length ∧ List.Forall₂ A as as')
      (l.mapM fun _ => m) (l.mapM fun _ => m') := by
  induction l with
  | nil => exact pure ⟨rfl, .nil⟩
  | cons x l ih =>
    rw [List.mapM_cons, List.mapM_cons]
    exact h.bind fun value => ih.bind fun ⟨hlen, values⟩ =>
      pure ⟨congrArg (· + 1) hlen, .cons value values⟩

/-- A computation without state. -/
theorem orAbort_refl {ε : Type u} (x : Except ε α) :
    Lockstep R Eq (orAbort x : EStateM (Abort ε) σ α) (orAbort x) := by
  cases x with
  | error e => exact throw (Abort.error e)
  | ok a => exact pure rfl

/-- A program keeps in step with itself where its states must not differ. -/
theorem refl (m : EStateM ε σ α) : Lockstep Eq Eq m m := by
  rintro s _ rfl
  cases m.run s with
  | ok a s' => exact .ok rfl rfl
  | error e s' => exact .error e rfl

end Lockstep

end EStateM
