import Mathlib.Data.Stream.Init
import Mathlib.Logic.Function.Iterate
import TokenGen.Lib.Batch

/-!
# Programs that read ahead

A program may read from a part of its state that only ever moves on, as a tape does under its
head. `EStateM.Advances part next n m` : when `m` returns, the part has moved on by `n` steps of
`next`, and by at most `n` when it fails. Programs compose, and their steps add up
(`Advances.bind`). In a batch, the `i`-th run starts `n * i` steps on (`Batch.exists_run`).
-/

/-- The reading under the head after `i` steps is the `i`-th. -/
theorem Stream'.head_iterate_tail {α : Type*} (s : Stream' α) (i : ℕ) :
    (Stream'.tail^[i] s).head = s.get i := by
  induction i generalizing s with
  | zero => rfl
  | succ i ih => exact ih s.tail

namespace EStateM

universe u

variable {ε σ α β : Type u} {τ : Type*} {part : σ → τ} {next : τ → τ}

/-- When `m` returns, `part` of its state has moved on by `n` steps, and by at most `n` when it
fails. -/
structure Advances (part : σ → τ) (next : τ → τ) (n : ℕ) (m : EStateM ε σ α) : Prop where
  ok : ∀ {s a s'}, m.run s = .ok a s' → part s' = next^[n] (part s)
  error : ∀ {s e s'}, m.run s = .error e s' → ∃ k ≤ n, part s' = next^[k] (part s)

namespace Advances

theorem pure (a : α) : Advances part next 0 (pure a : EStateM ε σ α) where
  ok h := by
    obtain ⟨-, rfl⟩ := run_pure_eq_ok_iff.mp h
    rfl
  error h := by simp at h

theorem throw (e : ε) (n : ℕ) : Advances part next n (throw e : EStateM ε σ α) where
  ok h := by simp at h
  error {s _ _} h := by
    rw [run_throw_error] at h
    cases h
    exact ⟨0, n.zero_le, rfl⟩

/-- What comes of a value that is there or not. -/
theorem orAbort_bind {ε : Type u} {n : ℕ} {x : Except ε α} {f : α → EStateM (Abort ε) σ β}
    (hf : ∀ a, Advances part next n (f a)) : Advances part next n (orAbort x >>= f) := by
  cases x with
  | error e => exact throw (Abort.error e) n
  | ok a => exact hf a

theorem orAbort {ε : Type u} (x : Except ε α) :
    Advances part next 0 (orAbort x : EStateM (Abort ε) σ α) := by
  cases x with
  | error e => exact throw (Abort.error e) 0
  | ok a => exact pure a

theorem orPanic {ε : Type u} (x : Option α) :
    Advances part next 0 (orPanic x : EStateM (Abort ε) σ α) := by
  cases x with
  | none => exact throw Abort.panic 0
  | some a => exact pure a

theorem bind {n k : ℕ} {m : EStateM ε σ α} {f : α → EStateM ε σ β}
    (hm : Advances part next n m) (hf : ∀ a, Advances part next k (f a)) :
    Advances part next (n + k) (m >>= f) where
  ok h := by
    obtain ⟨a, s₁, ha, hb⟩ := run_bind_eq_ok_iff.mp h
    rw [(hf a).ok hb, hm.ok ha, ← Function.iterate_add_apply, Nat.add_comm]
  error {s _ _} h := by
    rw [run_bind] at h
    cases hrun : m.run s with
    | ok a s₁ =>
      rw [hrun] at h
      obtain ⟨j, hj, hpart⟩ := (hf a).error h
      refine ⟨j + n, by omega, ?_⟩
      rw [hpart, hm.ok hrun, ← Function.iterate_add_apply]
    | error e s₁ =>
      rw [hrun] at h
      cases h
      obtain ⟨j, hj, hpart⟩ := hm.error hrun
      exact ⟨j, by omega, hpart⟩

/-- What is done with the result of a program does not read on. -/
theorem bind_pure {n : ℕ} {m : EStateM ε σ α} (hm : Advances part next n m) (f : α → β) :
    Advances part next n (m >>= fun a => Pure.pure (f a)) :=
  hm.bind (k := 0) fun a => pure (f a)

end Advances

variable {gen : EStateM ε σ α} {s s' : σ} {as : List α} {n : ℕ}

/-- The `i`-th result of a batch is that of a run `n * i` steps on. -/
theorem Batch.exists_run (hgen : Advances part next n gen) (h : Batch gen s as s') {i : ℕ}
    (hi : i < as.length) :
    ∃ sᵢ sᵢ', part sᵢ = next^[n * i] (part s) ∧ gen.run sᵢ = .ok as[i] sᵢ' := by
  induction h generalizing i with
  | nil s => simp at hi
  | @cons s s₁ s₂ a as head _ ih =>
    cases i with
    | zero => exact ⟨s, s₁, rfl, head⟩
    | succ i =>
      obtain ⟨sᵢ, sᵢ', hpart, hrun⟩ := ih (Nat.lt_of_succ_lt_succ hi)
      refine ⟨sᵢ, sᵢ', ?_, hrun⟩
      rw [hpart, hgen.ok head, ← Function.iterate_add_apply, Nat.mul_succ]

end EStateM
