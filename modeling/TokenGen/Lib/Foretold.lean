import Mathlib.Logic.Function.Iterate
import TokenGen.Lib.Batch

/-!
# Errors told beforehand

Whether a program fails may depend on a part of its state only, and so may the state this part is
left in. `EStateM.Foretold part next fault m` : where `fault` finds nothing, `m` returns and moves
the part on by `next`, and where it finds an error, `m` fails with this one. A composite fails with
the first error its parts are told (`Foretold.bind`), and a program run `n` times with that of the
first run that has one, each told from where the runs before it leave the part (`Foretold.mapM`).
-/

/-- The error of a computation, if it fails. -/
def Except.fault {ε α : Type*} : Except ε α → Option ε
  | .ok _ => none
  | .error e => some e

@[simp] theorem Except.fault_ok {ε α : Type*} (a : α) : (Except.ok a : Except ε α).fault = none :=
  rfl

@[simp] theorem Except.fault_error {ε α : Type*} (e : ε) :
    (Except.error e : Except ε α).fault = some e :=
  rfl

theorem Except.fault_mapError {ε ε' α : Type*} (f : ε → ε') (x : Except ε α) :
    (x.mapError f).fault = x.fault.map f := by
  cases x <;> rfl

namespace EStateM

universe u

variable {ε σ α β : Type u} {τ : Type*} {part : σ → τ} {next next' : τ → τ}
  {fault fault' : τ → Option ε}

/-- `fault` tells from `part` of the state whether `m` fails and in which error, and `next` where
`m` leaves the part if it returns. -/
structure Foretold (part : σ → τ) (next : τ → τ) (fault : τ → Option ε) (m : EStateM ε σ α) :
    Prop where
  ok : ∀ s, fault (part s) = none → ∃ a s', m.run s = .ok a s' ∧ part s' = next (part s)
  error : ∀ s e, fault (part s) = some e → ∃ s', m.run s = .error e s'

namespace Foretold

theorem pure (a : α) : Foretold part id (fun _ => none) (pure a : EStateM ε σ α) where
  ok s _ := ⟨a, s, rfl, rfl⟩
  error s e h := by simp at h

theorem throw (e : ε) : Foretold part next (fun _ => some e) (throw e : EStateM ε σ α) where
  ok s h := by simp at h
  error s e' h := by
    obtain rfl := Option.some.inj h
    exact ⟨s, rfl⟩

theorem bind {m : EStateM ε σ α} {f : α → EStateM ε σ β} (hm : Foretold part next fault m)
    (hf : ∀ {s a s'}, m.run s = .ok a s' → Foretold part next' fault' (f a)) :
    Foretold part (next' ∘ next) (fun t => (fault t).or (fault' (next t))) (m >>= f) where
  ok s h := by
    obtain ⟨hfirst, hthen⟩ := Option.or_eq_none_iff.mp h
    obtain ⟨a, s₁, hrun, hpart⟩ := hm.ok s hfirst
    obtain ⟨b, s₂, hrun', hpart'⟩ := (hf hrun).ok s₁ (hpart ▸ hthen)
    exact ⟨b, s₂, by rw [run_bind, hrun]; exact hrun', by rw [hpart', hpart]; rfl⟩
  error s e h := by
    cases hfirst : fault (part s) with
    | some e' =>
      rw [hfirst, Option.some_or, Option.some.injEq] at h
      obtain ⟨s', hrun⟩ := hm.error s e' hfirst
      exact ⟨s', by rw [run_bind, hrun, h]⟩
    | none =>
      rw [hfirst, Option.none_or] at h
      obtain ⟨a, s₁, hrun, hpart⟩ := hm.ok s hfirst
      obtain ⟨s', hrun'⟩ := (hf hrun).error s₁ e (hpart ▸ h)
      exact ⟨s', by rw [run_bind, hrun]; exact hrun'⟩

/-- What comes of a program leaves the part as it is. -/
theorem bind_still {m : EStateM ε σ α} {f : α → EStateM ε σ β} {e : Option ε}
    (hm : Foretold part next fault m)
    (hf : ∀ {s a s'}, m.run s = .ok a s' → Foretold part id (fun _ => e) (f a)) :
    Foretold part next (fun t => (fault t).or e) (m >>= f) :=
  hm.bind hf

/-- What is done with the result of a program does not fail. -/
theorem bind_pure {m : EStateM ε σ α} (hm : Foretold part next fault m) (f : α → β) :
    Foretold part next fault (m >>= fun a => Pure.pure (f a)) := by
  have h := hm.bind_still fun {_ a _} _ => Foretold.pure (f a)
  simpa only [Option.or_none] using h

theorem orAbort_bind {ε : Type u} {fault : τ → Option (Abort ε)} {x : Except ε α}
    {f : α → EStateM (Abort ε) σ β} (hf : ∀ a, x = .ok a → Foretold part next fault (f a)) :
    Foretold part next (fun t => (x.fault.map .error).or (fault t)) (orAbort x >>= f) := by
  cases x with
  | ok a => simpa using hf a rfl
  | error e => exact throw _

/-- A computation without state, whose error ends the program. -/
theorem orAbort {ε : Type u} (x : Except ε α) :
    Foretold part id (fun _ => x.fault.map .error) (orAbort x : EStateM (Abort ε) σ α) := by
  cases x with
  | ok a => exact pure a
  | error e => exact throw _

/-- A program that is run for each element of a list fails as the first run that fails. -/
theorem mapM {gen : EStateM ε σ α} (hgen : Foretold part next fault gen) {γ : Type}
    (l : List γ) : Foretold part next^[l.length]
      (fun t => (List.range l.length).findSome? fun i => fault (next^[i] t))
      (l.mapM fun _ => gen) := by
  induction l with
  | nil =>
    rw [List.mapM_nil]
    exact pure []
  | cons x l ih =>
    have hfirst : (fun t => (List.range (l.length + 1)).findSome? fun i => fault (next^[i] t)) =
        fun t => (fault t).or
          ((List.range l.length).findSome? fun i => fault (next^[i] (next t))) := by
      funext t
      rw [List.range_succ_eq_map, List.findSome?_cons, List.findSome?_map, Function.iterate_zero,
        id_eq]
      cases fault t <;> rfl
    rw [List.mapM_cons, List.length_cons, hfirst]
    exact hgen.bind fun {_ a _} _ => ih.bind_pure fun as => a :: as

end Foretold

end EStateM
