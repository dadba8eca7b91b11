import Mathlib.Data.List.Forall2
import Mathlib.Tactic.Common

/-!
# Computations that fail

`Except ε` is a computation that returns or fails, `EStateM ε σ` one that also reads and
leaves a state, and `ExceptT ε Option` one that may also break off without a result. A program
that may do either, `EStateM (Abort ε) σ`, ends in an error of its own (`orAbort`) or in a panic
(`orPanic`, `PanicsOnly`). A composite returns exactly when its first part returns and the rest does
on what it returned (`bind_eq_ok_iff`, `run_bind_eq_ok_iff`), so a result is taken apart
step by step without unfolding either monad. A partial function run over a list succeeds
exactly when it does on every element (`mapM_eq_some_iff_forall₂`), and one that breaks off
does so at an element it reaches (`run_mapM_eq_none_iff`).
-/

universe u

namespace List

variable {α β : Type u} {f : α → Option β}

theorem mapM_eq_some_iff_forall₂ :
    ∀ {l : List α} {bs : List β}, l.mapM f = some bs ↔ Forall₂ (fun a b => f a = some b) l bs
  | [], bs => by simp [eq_comm]
  | a :: l, bs => by
    simp only [mapM_cons, Option.bind_eq_bind, Option.bind_eq_some_iff, mapM_eq_some_iff_forall₂,
      forall₂_cons_left_iff]
    refine ⟨?_, ?_⟩
    · rintro ⟨b, hb, cs, hcs, hbs⟩
      exact ⟨b, cs, hb, hcs, (Option.some.inj hbs).symm⟩
    · rintro ⟨b, cs, hb, hcs, rfl⟩
      exact ⟨b, hb, cs, hcs, rfl⟩

theorem mapM_map_of_forall_mem {g : β → α} :
    ∀ {bs : List β}, (∀ b ∈ bs, f (g b) = some b) → (bs.map g).mapM f = some bs := by
  intro bs h
  rw [mapM_eq_some_iff_forall₂, forall₂_map_left_iff, forall₂_same]
  exact h

/-- Where related elements of two lists can be told apart by `f`, the images of the second are
as different as the elements of the first. -/
theorem Forall₂.nodup_map {α β γ : Type*} {R : α → β → Prop} {f : β → γ} {l : List α} {bs : List β}
    (h : Forall₂ R l bs) (hR : ∀ {a b a' b'}, R a b → R a' b' → f b = f b' → a = a')
    (hl : l.Nodup) : (bs.map f).Nodup := by
  induction h with
  | nil => simp
  | @cons a b l bs hab h ih =>
    obtain ⟨ha, hl⟩ := nodup_cons.mp hl
    rw [map_cons, nodup_cons]
    refine ⟨fun hmem => ?_, ih hl⟩
    obtain ⟨b', hb', heq⟩ := mem_map.mp hmem
    obtain ⟨i, hi, rfl⟩ := getElem_of_mem hb'
    obtain ⟨hlen, hget⟩ := forall₂_iff_get.mp h
    have haa := hR hab (hget i (hlen ▸ hi) hi) heq.symm
    exact ha (haa ▸ getElem_mem _)

/-- What the elements of one list make of the elements of the other that they are related to. -/
theorem Forall₂.forall_mem_right {α β : Type*} {R : α → β → Prop} {P : β → Prop} {l : List α}
    {bs : List β} (h : Forall₂ R l bs) (hP : ∀ a ∈ l, ∀ b, R a b → P b) : ∀ b ∈ bs, P b := by
  induction h with
  | nil => simp
  | cons hab _ ih =>
    obtain ⟨ha, hl⟩ := forall_mem_cons.mp hP
    exact forall_mem_cons.mpr ⟨ha _ hab, ih hl⟩

/-- Where the lists two functions make of the elements of a list are related, so are the
concatenations. -/
theorem forall₂_flatMap {α β γ : Type*} {R : β → γ → Prop} {f : α → List β} {g : α → List γ} :
    ∀ {l : List α}, (∀ a ∈ l, Forall₂ R (f a) (g a)) → Forall₂ R (l.flatMap f) (l.flatMap g)
  | [], _ => .nil
  | a :: l, h => by
    obtain ⟨ha, hl⟩ := forall_mem_cons.mp h
    exact rel_append ha (forall₂_flatMap hl)

end List

namespace Option

/-- A verdict that is there is one or the other. -/
theorem eq_some_false_iff {o : Option Bool} (h : o ≠ none) : o = some false ↔ o ≠ some true := by
  rcases o with _ | b
  · exact absurd rfl h
  · cases b <;> simp

end Option

namespace Except

variable {ε ε' : Type*} {α β : Type u}

theorem bind_eq_ok_iff {x : Except ε α} {f : α → Except ε β} {b : β} :
    x >>= f = .ok b ↔ ∃ a, x = .ok a ∧ f a = .ok b := by
  cases x with
  | error e => simp [bind, Except.bind]
  | ok a => simp [bind, Except.bind]

theorem map_eq_ok_iff {f : α → β} {x : Except ε α} {b : β} :
    x.map f = .ok b ↔ ∃ a, x = .ok a ∧ f a = b := by
  cases x <;> simp [Except.map]

theorem mapError_eq_ok_iff {g : ε → ε'} {x : Except ε α} {a : α} :
    x.mapError g = .ok a ↔ x = .ok a := by
  cases x <;> simp [Except.mapError]

@[simp] theorem mapError_ok (g : ε → ε') (a : α) :
    (Except.ok a : Except ε α).mapError g = .ok a :=
  rfl

@[simp] theorem ok_bind (a : α) (f : α → Except ε β) : (Except.ok a >>= f) = f a :=
  rfl

@[simp] theorem error_bind (e : ε) (f : α → Except ε β) : (Except.error e >>= f) = .error e :=
  rfl

@[simp] theorem throw_bind (e : ε) (f : α → Except ε β) :
    ((throw e : Except ε α) >>= f) = .error e :=
  rfl

theorem pure_eq_ok_iff {a b : α} : (pure a : Except ε α) = .ok b ↔ a = b := by
  show Except.ok a = .ok b ↔ a = b
  rw [Except.ok.injEq]

/-- A check that fails with `e` where `c` holds. -/
theorem ite_error_eq_ok_iff {c : Prop} [Decidable c] {e : ε} {x : Except ε α} {a : α} :
    (if c then .error e else x) = .ok a ↔ ¬c ∧ x = .ok a := by
  split_ifs with h <;> simp [h]

@[simp] theorem isOk_ok (a : α) : (Except.ok a : Except ε α).isOk = true :=
  rfl

@[simp] theorem isOk_error (e : ε) : (Except.error e : Except ε α).isOk = false :=
  rfl

theorem toOption_eq_some_iff {x : Except ε α} {a : α} : x.toOption = some a ↔ x = .ok a := by
  cases x <;> simp [Except.toOption]

theorem isOk_iff {x : Except ε α} : x.isOk ↔ ∃ a, x = .ok a := by
  cases x <;> simp

end Except

namespace EStateM

variable {ε σ α β : Type u}

theorem run_bind_eq_ok_iff {x : EStateM ε σ α} {f : α → EStateM ε σ β} {s s'' : σ} {b : β} :
    (x >>= f).run s = .ok b s'' ↔ ∃ a s', x.run s = .ok a s' ∧ (f a).run s' = .ok b s'' := by
  rw [run_bind]
  cases x.run s <;> simp

@[simp] theorem run_throw_error (e : ε) (s : σ) :
    (throw e : EStateM ε σ α).run s = .error e s :=
  rfl

theorem run_pure_eq_ok_iff {a b : α} {s s' : σ} :
    (pure a : EStateM ε σ α).run s = .ok b s' ↔ a = b ∧ s = s' := by
  rw [run_pure, Result.ok.injEq]

theorem run_ofExcept_eq_ok_iff {x : Except ε α} {s s' : σ} {a : α} :
    (ofExcept x : EStateM ε σ α).run s = .ok a s' ↔ x = .ok a ∧ s = s' := by
  cases x with
  | error e =>
    show (Result.error e s : Result ε σ α) = _ ↔ _
    simp
  | ok b =>
    show (Result.ok b s : Result ε σ α) = _ ↔ _
    simp

@[simp] theorem ofExcept_ok (a : α) :
    (ofExcept (.ok a : Except ε α) : EStateM ε σ α) = pure a :=
  rfl

@[simp] theorem ofExcept_error (e : ε) :
    (ofExcept (.error e : Except ε α) : EStateM ε σ α) = throw e :=
  rfl

end EStateM

/-! ## Errors and panics -/

/-- How a program ends other than well. -/
inductive Abort (ε : Type u) where
  | error (e : ε)
  | panic
  deriving DecidableEq

/-- The same end, with the error in another form. -/
def Abort.map {ε ε' : Type*} (f : ε → ε') : Abort ε → Abort ε'
  | .error e => .error (f e)
  | .panic => .panic

section Abort

variable {ε σ α : Type u}

/-- An error ends the program. -/
def orAbort (x : Except ε α) : EStateM (Abort ε) σ α :=
  ofExcept (x.mapError .error)

/-- What is not there ends the program in a panic. -/
def orPanic : Option α → EStateM (Abort ε) σ α
  | some a => pure a
  | none => throw .panic

@[simp] theorem orAbort_ok (a : α) : (orAbort (.ok a : Except ε α) : EStateM (Abort ε) σ α) =
    pure a :=
  rfl

@[simp] theorem orAbort_error (e : ε) :
    (orAbort (.error e : Except ε α) : EStateM (Abort ε) σ α) = throw (.error e) :=
  rfl

@[simp] theorem orPanic_some (a : α) : (orPanic (some a) : EStateM (Abort ε) σ α) = pure a :=
  rfl

@[simp] theorem orPanic_none : (orPanic none : EStateM (Abort ε) σ α) = throw .panic :=
  rfl

/-- A program that panics only where `P` holds. -/
def PanicsOnly (P : Prop) (m : EStateM (Abort ε) σ α) : Prop :=
  ∀ s s', m.run s = .error .panic s' → P

namespace PanicsOnly

variable {P : Prop} {β : Type u}

theorem pure (a : α) : PanicsOnly P (pure a : EStateM (Abort ε) σ α) :=
  fun s s' h => by simp at h

theorem throw_error (e : ε) : PanicsOnly P (throw (.error e) : EStateM (Abort ε) σ α) :=
  fun s s' h => by simp at h

theorem bind {m : EStateM (Abort ε) σ α} {f : α → EStateM (Abort ε) σ β} (hm : PanicsOnly P m)
    (hf : ∀ a, PanicsOnly P (f a)) : PanicsOnly P (m >>= f) := by
  intro s s' h
  rw [EStateM.run_bind] at h
  cases hrun : m.run s with
  | ok a s₁ =>
    rw [hrun] at h
    exact hf a s₁ s' h
  | error e s₁ =>
    rw [hrun] at h
    cases h
    exact hm s s' hrun

theorem orAbort (x : Except ε α) : PanicsOnly P (orAbort x : EStateM (Abort ε) σ α) := by
  cases x with
  | ok a => exact pure a
  | error e => exact throw_error e

end PanicsOnly

theorem run_orAbort_eq_ok_iff {x : Except ε α} {s s' : σ} {a : α} :
    (orAbort x : EStateM (Abort ε) σ α).run s = .ok a s' ↔ x = .ok a ∧ s = s' := by
  rw [orAbort, EStateM.run_ofExcept_eq_ok_iff, Except.mapError_eq_ok_iff]

theorem run_orPanic_eq_ok_iff {x : Option α} {s s' : σ} {a : α} :
    (orPanic x : EStateM (Abort ε) σ α).run s = .ok a s' ↔ x = some a ∧ s = s' := by
  cases x with
  | none => simp
  | some b => rw [orPanic_some, EStateM.run_pure_eq_ok_iff, Option.some.injEq]

end Abort

namespace ExceptT

variable {ε α β : Type u}

theorem run_ofExcept (x : Except ε α) : (ofExcept x : ExceptT ε Option α).run = some x := by
  cases x <;> rfl

theorem run_lift_bind (o : Option α) (f : α → ExceptT ε Option β) :
    ((liftM o : ExceptT ε Option α) >>= f).run = o.bind fun a => (f a).run := by
  cases o <;> rfl

/-- A run over a list stops at the first element that does not return. -/
theorem run_mapM_cons (f : α → ExceptT ε Option β) (x : α) (l : List α) :
    ((x :: l).mapM f).run =
      match (f x).run with
      | none => none
      | some (.error e) => some (.error e)
      | some (.ok b) => (l.mapM f).run.map (Except.map (b :: ·)) := by
  rw [List.mapM_cons, run_bind]
  rcases (f x).run with _ | _ | b
  · rfl
  · rfl
  · show ((l.mapM f) >>= fun bs => pure (b :: bs)).run = _
    rw [run_bind]
    rcases (l.mapM f).run with _ | _ | bs <;> rfl

/-- A run over a list breaks off at an element all before which return. -/
theorem run_mapM_eq_none_iff {f : α → ExceptT ε Option β} {l : List α} :
    (l.mapM f).run = none ↔ ∃ done x rest, l = done ++ x :: rest ∧
      (∀ y ∈ done, ∃ b, (f y).run = some (.ok b)) ∧ (f x).run = none := by
  induction l with
  | nil => simp
  | cons y l ih =>
    rw [run_mapM_cons]
    refine ⟨fun h => ?_, ?_⟩
    · cases hy : (f y).run with
      | none => exact ⟨[], y, l, rfl, by simp, hy⟩
      | some r =>
        rw [hy] at h
        cases r with
        | error e => simp at h
        | ok b =>
          obtain ⟨done, x, rest, rfl, hdone, hx⟩ := ih.mp (Option.map_eq_none_iff.mp h)
          exact ⟨y :: done, x, rest, rfl, List.forall_mem_cons.mpr ⟨⟨b, hy⟩, hdone⟩, hx⟩
    · rintro ⟨done, x, rest, hl, hdone, hx⟩
      cases done with
      | nil =>
        obtain ⟨rfl, rfl⟩ := List.cons.inj hl
        rw [hx]
      | cons z done =>
        obtain ⟨rfl, rfl⟩ := List.cons.inj hl
        obtain ⟨⟨b, hb⟩, hdone⟩ := List.forall_mem_cons.mp hdone
        rw [hb]
        exact Option.map_eq_none_iff.mpr (ih.mpr ⟨done, x, rest, rfl, hdone, hx⟩)

end ExceptT
