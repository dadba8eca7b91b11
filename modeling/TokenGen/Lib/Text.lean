import Mathlib.Data.List.Basic
import Mathlib.Tactic.Common

/-!
# Texts, their bytes, and splitting at a separator

`Text.bytes` is the UTF-8 encoding of a text as a byte list. It is injective.

`Text.split` cuts a text at every occurrence of a character and `Text.join` puts one
between consecutive pieces. `join_split` : joining undoes splitting on every text.
`split_join` : splitting undoes joining on pieces free of the separator.
-/

namespace Text

/-! ## Bytes -/

/-- The UTF-8 bytes of a text. -/
def bytes (s : String) : List UInt8 :=
  s.toByteArray.data.toList

theorem bytes_injective : Function.Injective bytes := by
  intro s t h
  exact String.toByteArray_inj.mp (ByteArray.ext (Array.toList_inj.mp h))

@[simp] theorem bytes_inj {s t : String} : bytes s = bytes t ↔ s = t :=
  bytes_injective.eq_iff

/-! ## Splitting and joining -/

/-- The pieces of `s` between the occurrences of `sep`, empty pieces included. -/
def split (sep : Char) (s : String) : List String :=
  (s.toList.splitOn sep).map String.ofList

/-- The pieces with `sep` between consecutive ones. -/
def join (sep : Char) (ps : List String) : String :=
  String.ofList ([sep].intercalate (ps.map String.toList))

theorem join_split (sep : Char) (s : String) : join sep (split sep s) = s := by
  simp [join, split, List.intercalate_splitOn]

theorem split_join {sep : Char} {ps : List String} (hne : ps ≠ [])
    (hsep : ∀ p ∈ ps, sep ∉ p.toList) : split sep (join sep ps) = ps := by
  rw [split, join, String.toList_ofList, List.splitOn_intercalate]
  · simp
  · intro l hl
    obtain ⟨p, hp, rfl⟩ := List.mem_map.mp hl
    exact hsep p hp
  · simpa using hne

theorem split_eq_singleton {sep : Char} {s : String} (h : sep ∉ s.toList) :
    split sep s = [s] := by
  simp [split, List.splitOn_eq_singleton h]

theorem length_splitOn (sep : Char) (l : List Char) :
    (l.splitOn sep).length = l.count sep + 1 := by
  induction l with
  | nil => simp
  | cons c l ih =>
    rw [List.splitOn_cons_eq_if_modifyHead, List.count_cons]
    split_ifs <;> simp [ih]

/-- One more piece than there are separators. -/
theorem length_split (sep : Char) (s : String) :
    (split sep s).length = s.toList.count sep + 1 := by
  rw [split, List.length_map, length_splitOn]

/-- What stands before the first separator is the first piece. -/
theorem split_append {sep : Char} {a : String} (h : sep ∉ a.toList) (t : String) :
    split sep (a ++ sep.toString ++ t) = a :: split sep t := by
  have hlist : (a ++ sep.toString ++ t).toList = a.toList ++ sep :: t.toList := by simp
  rw [split, hlist, List.splitOn_append_cons_self_of_not_mem h, List.map_cons, String.ofList_toList]
  rfl

@[simp] theorem join_singleton (sep : Char) (p : String) : join sep [p] = p := by
  simp [join]

@[simp] theorem join_cons_cons (sep : Char) (p q : String) (ps : List String) :
    join sep (p :: q :: ps) = p ++ sep.toString ++ join sep (q :: ps) := by
  apply String.toList_injective
  simp [join, List.intercalate_cons_cons]

/-- What follows the first `n` occurrences of `sep` in `s`, if there are as many. -/
def after (sep : Char) (n : ℕ) (s : String) : Option String :=
  match (split sep s).drop n with
  | [] => none
  | p :: ps => some (join sep (p :: ps))

@[simp] theorem after_zero (sep : Char) (s : String) : after sep 0 s = some s := by
  unfold after
  split
  · rename_i hs
    have := length_split sep s
    simp_all
  · rename_i p ps hs
    rw [List.drop_zero] at hs
    rw [← hs, join_split]

theorem after_succ_append {sep : Char} {a : String} (h : sep ∉ a.toList) (n : ℕ) (t : String) :
    after sep (n + 1) (a ++ sep.toString ++ t) = after sep n t := by
  rw [after, split_append h, List.drop_succ_cons]
  rfl

/-! ## Prefixes -/

/-- Where two texts start with `a` and with `s`, no shorter than `a`, and are equal, `s`
starts with `a`. -/
theorem exists_of_append_eq_append {a b s rest : String} (h : a ++ b = s ++ rest)
    (hlen : a.length ≤ s.length) : ∃ t, s = a ++ t ∧ b = t ++ rest := by
  have hlist := congrArg String.toList h
  rw [String.toList_append, String.toList_append] at hlist
  have hpre : a.toList <+: s.toList :=
    List.prefix_of_prefix_length_le ⟨b.toList, hlist⟩ (List.prefix_append _ _) hlen
  obtain ⟨l, hl⟩ := hpre
  obtain rfl : s = a ++ String.ofList l := by
    apply String.toList_injective
    rw [← hl, String.toList_append, String.toList_ofList]
  exact ⟨String.ofList l, rfl, by rwa [String.append_assoc, String.append_right_inj] at h⟩

/-- What follows the prefix `pre` in `s`, if `s` starts with it. -/
def stripPrefix (pre s : String) : Option String :=
  (pre.toList.isPrefixOf? s.toList).map String.ofList

theorem stripPrefix_eq_some_iff {pre s t : String} :
    stripPrefix pre s = some t ↔ s = pre ++ t := by
  simp only [stripPrefix, Option.map_eq_some_iff, List.isPrefixOf?_eq_some_iff_append_eq]
  refine ⟨?_, ?_⟩
  · rintro ⟨l, hl, rfl⟩
    apply String.toList_injective
    simp [hl]
  · rintro rfl
    exact ⟨t.toList, by simp, by simp⟩

theorem stripPrefix_eq_none_iff {pre s : String} :
    stripPrefix pre s = none ↔ ∀ t, s ≠ pre ++ t := by
  rw [Option.eq_none_iff_forall_ne_some]
  exact forall_congr' fun t => stripPrefix_eq_some_iff.not

@[simp] theorem stripPrefix_append (pre t : String) : stripPrefix pre (pre ++ t) = some t :=
  stripPrefix_eq_some_iff.mpr rfl

end Text
