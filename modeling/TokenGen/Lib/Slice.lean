import Mathlib.Tactic.Common

/-!
# Slices of a text at byte offsets

`Text.slice s i j` is the part of `s` between two offsets counted in UTF-8 bytes, if it has
both and no character lies across one of them. `slice_eq_some_iff` : it is the text with
`i` bytes in front of it that ends at byte `j`. `slice_append` : a slice that starts where a
known beginning ends depends on what follows only.
-/

namespace Text

/-- The number of bytes of the characters in UTF-8. -/
def byteLength : List Char → ℕ
  | [] => 0
  | c :: cs => c.utf8Size + byteLength cs

/-- The first `n` bytes and the rest, if a character ends there. -/
def splitBytes : List Char → ℕ → Option (List Char × List Char)
  | cs, 0 => some ([], cs)
  | [], _ + 1 => none
  | c :: cs, n + 1 =>
    if c.utf8Size ≤ n + 1 then
      (splitBytes cs (n + 1 - c.utf8Size)).map fun p => (c :: p.1, p.2)
    else none

/-- The part from byte `i` up to byte `j`. -/
def slice (s : String) (i j : ℕ) : Option String :=
  (splitBytes s.toList j).bind fun front =>
    (splitBytes front.1 i).map fun p => String.ofList p.2

@[simp] theorem byteLength_nil : byteLength [] = 0 :=
  rfl

@[simp] theorem byteLength_cons (c : Char) (cs : List Char) :
    byteLength (c :: cs) = c.utf8Size + byteLength cs :=
  rfl

@[simp] theorem byteLength_append (a b : List Char) :
    byteLength (a ++ b) = byteLength a + byteLength b := by
  induction a with
  | nil => simp
  | cons c a ih => simp [ih, Nat.add_assoc]

theorem byteLength_toList (s : String) : byteLength s.toList = s.utf8ByteSize := by
  suffices h : ∀ cs, byteLength cs = (String.ofList cs).utf8ByteSize by
    rw [h, String.ofList_toList]
  intro cs
  induction cs with
  | nil => simp
  | cons c cs ih =>
    have hcons : String.ofList (c :: cs) = String.singleton c ++ String.ofList cs := by
      apply String.toList_injective
      simp
    rw [byteLength_cons, ih, hcons, String.utf8ByteSize_append, String.utf8ByteSize_singleton]

@[simp] theorem byteLength_eq_zero_iff {cs : List Char} : byteLength cs = 0 ↔ cs = [] := by
  cases cs with
  | nil => simp
  | cons c cs =>
    have := c.utf8Size_pos
    simp only [byteLength_cons, reduceCtorEq, iff_false]
    omega

@[simp] theorem splitBytes_zero (cs : List Char) : splitBytes cs 0 = some ([], cs) := by
  rw [splitBytes]

theorem splitBytes_zero_eq_some_iff {cs a b : List Char} :
    splitBytes cs 0 = some (a, b) ↔ cs = a ++ b ∧ byteLength a = 0 := by
  rw [splitBytes_zero, byteLength_eq_zero_iff, Option.some.injEq, Prod.mk.injEq]
  refine ⟨?_, ?_⟩
  · rintro ⟨rfl, rfl⟩
    exact ⟨rfl, rfl⟩
  · rintro ⟨rfl, rfl⟩
    exact ⟨rfl, rfl⟩

theorem splitBytes_eq_some_iff {cs a b : List Char} {n : ℕ} :
    splitBytes cs n = some (a, b) ↔ cs = a ++ b ∧ byteLength a = n := by
  induction cs generalizing a n with
  | nil =>
    cases n with
    | zero => exact splitBytes_zero_eq_some_iff
    | succ n =>
      simp only [splitBytes, reduceCtorEq, List.nil_eq, List.append_eq_nil_iff, false_iff]
      rintro ⟨⟨rfl, rfl⟩, hlen⟩
      simp at hlen
  | cons c cs ih =>
    have hpos := c.utf8Size_pos
    cases n with
    | zero => exact splitBytes_zero_eq_some_iff
    | succ n =>
      simp only [splitBytes, Option.ite_none_right_eq_some, Option.map_eq_some_iff, Prod.exists,
        Prod.mk.injEq]
      refine ⟨?_, ?_⟩
      · rintro ⟨hle, a', b', hsplit, rfl, rfl⟩
        obtain ⟨rfl, hlen⟩ := ih.mp hsplit
        refine ⟨rfl, ?_⟩
        simp only [byteLength_cons, hlen]
        omega
      · rintro ⟨hcs, hlen⟩
        cases a with
        | nil => simp at hlen
        | cons d a =>
          obtain ⟨rfl, rfl⟩ := List.cons.inj hcs
          simp only [byteLength_cons] at hlen
          exact ⟨by omega, a, b, ih.mpr ⟨rfl, by omega⟩, rfl, rfl⟩

/-- A slice is a part with `i` bytes in front of it that ends at byte `j`. -/
theorem slice_eq_some_iff {s t : String} {i j : ℕ} :
    slice s i j = some t ↔
      ∃ a b : String, s = a ++ t ++ b ∧ a.utf8ByteSize = i ∧ i + t.utf8ByteSize = j := by
  simp only [slice, Option.bind_eq_some_iff, Option.map_eq_some_iff, Prod.exists,
    splitBytes_eq_some_iff]
  refine ⟨?_, ?_⟩
  · rintro ⟨front, b, ⟨hs, hj⟩, a, part, ⟨rfl, hi⟩, rfl⟩
    refine ⟨String.ofList a, String.ofList b, ?_, ?_, ?_⟩
    · apply String.toList_injective
      simpa using hs
    · rwa [← byteLength_toList, String.toList_ofList]
    · rw [← byteLength_toList, String.toList_ofList, ← hi, ← byteLength_append, hj]
  · rintro ⟨a, b, rfl, hi, hj⟩
    refine ⟨a.toList ++ t.toList, b.toList, ⟨by simp, ?_⟩, a.toList, t.toList, ⟨rfl, ?_⟩, by simp⟩
    · rw [byteLength_append, byteLength_toList, byteLength_toList, hi, hj]
    · rw [byteLength_toList, hi]

theorem splitBytes_cons_add (c : Char) (cs : List Char) (n : ℕ) :
    splitBytes (c :: cs) (c.utf8Size + n) = (splitBytes cs n).map fun p => (c :: p.1, p.2) := by
  have hpos := c.utf8Size_pos
  obtain ⟨m, hm⟩ : ∃ m, c.utf8Size + n = m + 1 := ⟨c.utf8Size + n - 1, by omega⟩
  have hrest : m + 1 - c.utf8Size = n := by omega
  rw [hm, splitBytes, if_pos (by omega), hrest]

theorem splitBytes_append (pre cs : List Char) (n : ℕ) :
    splitBytes (pre ++ cs) (byteLength pre + n) =
      (splitBytes cs n).map fun p => (pre ++ p.1, p.2) := by
  induction pre with
  | nil => simp
  | cons c pre ih =>
    rw [byteLength_cons, Nat.add_assoc, List.cons_append, splitBytes_cons_add, ih, Option.map_map]
    rfl

/-- A slice that starts after `pre` is the beginning of what follows `pre`. -/
theorem slice_append (pre cs : List Char) (n : ℕ) :
    slice (String.ofList (pre ++ cs)) (byteLength pre) (byteLength pre + n) =
      (splitBytes cs n).map fun p => String.ofList p.1 := by
  rw [slice, String.toList_ofList, splitBytes_append, Option.bind_map]
  cases splitBytes cs n with
  | none => rfl
  | some p =>
    have hsplit : splitBytes (pre ++ p.1) (byteLength pre) = some (pre, p.1) :=
      splitBytes_eq_some_iff.mpr ⟨rfl, rfl⟩
    simp [hsplit]

end Text
