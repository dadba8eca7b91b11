import Mathlib.Tactic.Common
import Mathlib.Data.List.Basic
import Mathlib.Data.Set.Defs

/-!
# Collisions and concatenated messages

A keyed function authenticates a message by its image, so what a tag says about a message
is said up to a `Collision` : two different inputs with one image. A message fed to such a
function piece by piece is the concatenation of the pieces. Two messages of two pieces each
are one byte string exactly when the pieces agree, or a nonempty block of bytes at the
boundary belongs to the first piece on one side and to the second piece on the other
(`Moved`, `Moved.iff_append_eq`).

Whoever holds no key learns the tags of the messages they were given. A `Forgery` is the tag of
any other message : a valid tag is one of those that were given, or a forgery
(`Forgery.mem_or`).
-/

/-- Two different inputs with one image. -/
structure Collision {α β : Type*} (f : α → β) (x y : α) : Prop where
  ne : x ≠ y
  image_eq : f x = f y

namespace Collision

variable {α β : Type*} {f : α → β} {x y : α}

theorem eq_or_of_image_eq (h : f x = f y) : x = y ∨ Collision f x y := by
  by_cases hxy : x = y
  · exact Or.inl hxy
  · exact Or.inr ⟨hxy, h⟩

theorem irrefl (f : α → β) (x : α) : ¬Collision f x x :=
  fun h => h.ne rfl

/-- A check `p` and a comparison of the image of `x` with that of `y` reject `x`, up to a
collision, exactly when `p` does or `x` is not `y`. -/
theorem reject_or_iff {p : Prop} {t : β} (ht : t = f y) :
    ¬(p ∧ t = f x) ∨ Collision f x y ↔ ¬(p ∧ x = y) := by
  subst ht
  refine ⟨?_, fun h => ?_⟩
  · rintro h ⟨hp, rfl⟩
    exact h.elim (fun h => h ⟨hp, rfl⟩) (irrefl f x)
  · by_cases hxy : x = y
    · exact Or.inl fun hpt => h ⟨hpt.1, hxy⟩
    · exact or_iff_not_imp_left.mpr fun hpt => ⟨hxy, (not_not.mp hpt).2.symm⟩

end Collision

/-- The tag of a message that is not among those asked for. -/
structure Forgery {α β : Type*} (mac : α → β) (asked : Set α) (m : α) (tag : β) : Prop where
  not_asked : m ∉ asked
  valid : tag = mac m

theorem Forgery.mem_or {α β : Type*} (mac : α → β) (asked : Set α) {m : α} {tag : β}
    (h : tag = mac m) : m ∈ asked ∨ Forgery mac asked m tag := by
  by_cases hm : m ∈ asked
  · exact Or.inl hm
  · exact Or.inr ⟨hm, h⟩

/-- The pairs `b, c` and `b', c'` differ by a nonempty block moved over the boundary between
the first list and the second. -/
def Moved {α : Type*} (b c b' c' : List α) : Prop :=
  ∃ w, w ≠ [] ∧ (b = b' ++ w ∧ c' = w ++ c ∨ b' = b ++ w ∧ c = w ++ c')

namespace Moved

variable {α : Type*} {b c b' c' : List α}

theorem append_eq (h : Moved b c b' c') : b ++ c = b' ++ c' := by
  obtain ⟨w, -, ⟨rfl, rfl⟩ | ⟨rfl, rfl⟩⟩ := h <;> simp

theorem of_append_eq (h : b ++ c = b' ++ c') (hc : c ≠ c') : Moved b c b' c' := by
  rcases List.append_eq_append_iff.mp h with ⟨w, hb, hc'⟩ | ⟨w, hb, hc'⟩
  · refine ⟨w, ?_, Or.inr ⟨hb, hc'⟩⟩
    rintro rfl
    exact hc (by simpa using hc')
  · refine ⟨w, ?_, Or.inl ⟨hb, hc'⟩⟩
    rintro rfl
    exact hc (by simpa using hc'.symm)

/-- With different second pieces, equal concatenations are exactly a moved block. -/
theorem iff_append_eq (hc : c ≠ c') : b ++ c = b' ++ c' ↔ Moved b c b' c' :=
  ⟨fun h => of_append_eq h hc, append_eq⟩

end Moved
