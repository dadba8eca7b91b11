import TokenGen.Lib.Outcome

/-!
# Running a program again and again

`EStateM.Batch gen s as s'` : from state `s`, running `gen` once for each element of `as`
returns these elements in this order and ends in `s'`. Mapping `gen` over a list is such a batch
or stops at the first error (`run_mapM_of_batch`, `run_mapM_of_error`, `batch_or_error`).
-/

namespace EStateM

universe u

variable {ε σ α : Type u} {β : Type}

/-- Successive runs of `gen` from the first state to the last, and what they return. -/
inductive Batch (gen : EStateM ε σ α) : σ → List α → σ → Prop
  | nil (s : σ) : Batch gen s [] s
  | cons {s s₁ s₂ : σ} {a : α} {as : List α} (head : gen.run s = .ok a s₁)
    (tail : Batch gen s₁ as s₂) : Batch gen s (a :: as) s₂

variable {gen : EStateM ε σ α} {s s' : σ} {as : List α}

/-- What each run preserves, a batch preserves. -/
theorem Batch.preserves {P : σ → Prop} (h : Batch gen s as s')
    (hstep : ∀ s a s', P s → gen.run s = .ok a s' → P s') (hs : P s) : P s' := by
  induction h with
  | nil s => exact hs
  | cons head _ ih => exact ih (hstep _ _ _ hs head)

/-- What each run returns has a property, and so has each result of a batch. -/
theorem Batch.forall_mem {P : α → Prop} (h : Batch gen s as s')
    (hstep : ∀ s a s', gen.run s = .ok a s' → P a) : ∀ a ∈ as, P a := by
  induction h with
  | nil s => simp
  | cons head _ ih => exact List.forall_mem_cons.mpr ⟨hstep _ _ _ head, ih⟩

/-- Two batches, one after the other. -/
theorem batch_append_iff {bs : List α} : Batch gen s (as ++ bs) s' ↔
    ∃ s₁, Batch gen s as s₁ ∧ Batch gen s₁ bs s' := by
  induction as generalizing s with
  | nil =>
    refine ⟨fun h => ⟨s, .nil s, h⟩, ?_⟩
    rintro ⟨_, ⟨⟩, h⟩
    exact h
  | cons a as ih =>
    refine ⟨?_, ?_⟩
    · rintro (_ | ⟨head, tail⟩)
      obtain ⟨s₁, has, hbs⟩ := ih.mp tail
      exact ⟨s₁, .cons head has, hbs⟩
    · rintro ⟨s₁, _ | ⟨head, tail⟩, hbs⟩
      exact .cons head (ih.mpr ⟨s₁, tail, hbs⟩)

theorem run_mapM_cons (x : β) (l : List β) (s : σ) : ((x :: l).mapM fun _ => gen).run s =
    (gen >>= fun a => (l.mapM fun _ => gen) >>= fun as => pure (a :: as)).run s := by
  rw [List.mapM_cons]

/-- A batch of as many results as the list is long is what mapping returns. -/
theorem run_mapM_of_batch {l : List β} (h : Batch gen s as s') (hlen : as.length = l.length) :
    (l.mapM fun _ => gen).run s = .ok as s' := by
  induction h generalizing l with
  | nil s =>
    obtain rfl := List.length_eq_zero_iff.mp hlen.symm
    rfl
  | cons head _ ih =>
    cases l with
    | nil => simp at hlen
    | cons x l =>
      rw [run_mapM_cons, run_bind, head]
      simp only [run_bind, ih (Nat.succ.inj hlen), run_pure]

/-- An error after a batch of fewer results than the list is long is what mapping ends in. -/
theorem run_mapM_of_error {l : List β} {e : ε} {s'' : σ} (h : Batch gen s as s')
    (hlen : as.length < l.length) (he : gen.run s' = .error e s'') :
    (l.mapM fun _ => gen).run s = .error e s'' := by
  induction h generalizing l with
  | nil s =>
    cases l with
    | nil => simp at hlen
    | cons x l => rw [run_mapM_cons, run_bind, he]
  | cons head _ ih =>
    cases l with
    | nil => simp at hlen
    | cons x l =>
      rw [run_mapM_cons, run_bind, head]
      simp only [run_bind, ih (Nat.lt_of_succ_lt_succ hlen) he]

/-- `n` runs all return, or one of them is the first that does not. -/
theorem batch_or_error (gen : EStateM ε σ α) (n : ℕ) (s : σ) :
    (∃ as s', as.length = n ∧ Batch gen s as s') ∨
      ∃ as s' e s'', as.length < n ∧ Batch gen s as s' ∧ gen.run s' = .error e s'' := by
  induction n generalizing s with
  | zero => exact Or.inl ⟨[], s, rfl, .nil s⟩
  | succ n ih =>
    cases hrun : gen.run s with
    | error e s'' => exact Or.inr ⟨[], s, e, s'', Nat.succ_pos n, .nil s, hrun⟩
    | ok a s₁ =>
      rcases ih s₁ with ⟨as, s', hlen, h⟩ | ⟨as, s', e, s'', hlen, h, he⟩
      · exact Or.inl ⟨a :: as, s', congrArg (· + 1) hlen, .cons hrun h⟩
      · exact Or.inr ⟨a :: as, s', e, s'', Nat.succ_lt_succ hlen, .cons hrun h, he⟩

/-- Mapping returns as many results as the list is long. -/
theorem length_of_run_mapM {l : List β} (h : (l.mapM fun _ => gen).run s = .ok as s') :
    as.length = l.length := by
  rcases batch_or_error gen l.length s with
    ⟨results, s₁, hlen, hbatch⟩ | ⟨results, s₁, e, s₂, hlen, hbatch, he⟩
  · rw [run_mapM_of_batch hbatch hlen] at h
    cases h
    exact hlen
  · rw [run_mapM_of_error hbatch hlen he] at h
    cases h

end EStateM
