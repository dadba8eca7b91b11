import TokenGen.Lib.Text

/-!
# Texts made of lines

`Text.unlines` ends each of its lines with a line feed and `Text.lines` takes a text apart at
them. `Text.splitOnPair` takes a line apart at a separator of two characters. Both undo the
writing on pieces free of the separator (`lines_unlines`, `splitOnPair_append`).
-/

namespace Text

/-! ## Lines -/

/-- The lines, each with a line feed behind it. -/
def unlines : List String → String
  | [] => ""
  | line :: lines => line ++ "\n" ++ unlines lines

/-- The pieces of a text between line feeds, without an empty one at the end. -/
def lines (s : String) : List String :=
  let pieces := split '\n' s
  if pieces.getLast? = some "" then pieces.dropLast else pieces

@[simp] theorem unlines_nil : unlines [] = "" :=
  rfl

@[simp] theorem unlines_cons (line : String) (lines : List String) :
    unlines (line :: lines) = line ++ "\n" ++ unlines lines :=
  rfl

theorem unlines_append (ls ms : List String) : unlines (ls ++ ms) = unlines ls ++ unlines ms := by
  induction ls with
  | nil => simp
  | cons l ls ih => simp only [List.cons_append, unlines_cons, ih, String.append_assoc]

theorem split_unlines {ls : List String} (h : ∀ l ∈ ls, '\n' ∉ l.toList) :
    split '\n' (unlines ls) = ls ++ [""] := by
  induction ls with
  | nil => rfl
  | cons l ls ih =>
    obtain ⟨hl, hls⟩ := List.forall_mem_cons.mp h
    have hsplit := split_append hl (unlines ls)
    rw [ih hls] at hsplit
    exact hsplit

/-- Lines without a line feed inside are read back. -/
theorem lines_unlines {ls : List String} (h : ∀ l ∈ ls, '\n' ∉ l.toList) :
    lines (unlines ls) = ls := by
  rw [lines, split_unlines h, if_pos (by simp), List.dropLast_concat]

/-! ## Occurrences -/

/-- `s` stands somewhere in `t`. -/
def Occurs (s t : String) : Prop :=
  s.toList <:+: t.toList

theorem Occurs.refl (s : String) : Occurs s s :=
  List.infix_rfl

theorem Occurs.trans {s t u : String} (hst : Occurs s t) (htu : Occurs t u) : Occurs s u :=
  List.IsInfix.trans hst htu

theorem occurs_append_left (s t : String) : Occurs s (s ++ t) := by
  rw [Occurs, String.toList_append]
  exact (List.prefix_append _ _).isInfix

theorem occurs_append_right (s t : String) : Occurs t (s ++ t) := by
  rw [Occurs, String.toList_append]
  exact (List.suffix_append _ _).isInfix

theorem occurs_unlines {line : String} {ls : List String} (h : line ∈ ls) :
    Occurs line (unlines ls) := by
  induction ls with
  | nil => simp at h
  | cons l ls ih =>
    rw [unlines_cons]
    rcases List.mem_cons.mp h with rfl | hmem
    · exact (occurs_append_left _ "\n").trans (occurs_append_left _ _)
    · exact (ih hmem).trans (occurs_append_right _ _)

theorem occurs_intercalate (sep : String) {piece : String} {ls : List String} (h : piece ∈ ls) :
    Occurs piece (String.intercalate sep ls) := by
  induction ls with
  | nil => simp at h
  | cons l ls ih =>
    cases ls with
    | nil => simpa [List.mem_singleton.mp h] using Occurs.refl l
    | cons l' ls =>
      rw [String.intercalate_cons_cons]
      rcases List.mem_cons.mp h with rfl | hmem
      · exact (occurs_append_left _ sep).trans (occurs_append_left _ _)
      · exact (ih hmem).trans (occurs_append_right _ _)

/-! ## Separators of two characters -/

/-- The pieces between the occurrences of `a` followed by `b`. -/
def piecesOnPair (a b : Char) : List Char → List (List Char)
  | [] => [[]]
  | [c] => [[c]]
  | c :: d :: cs =>
    if c = a ∧ d = b then [] :: piecesOnPair a b cs
    else (piecesOnPair a b (d :: cs)).modifyHead (c :: ·)

/-- The pieces of `s` between the occurrences of the separator `a`, `b`. -/
def splitOnPair (a b : Char) (s : String) : List String :=
  (piecesOnPair a b s.toList).map String.ofList

theorem piecesOnPair_of_not_mem {a b : Char} {cs : List Char} (h : b ∉ cs) :
    piecesOnPair a b cs = [cs] := by
  induction cs using piecesOnPair.induct a b with
  | case1 => rfl
  | case2 c => rfl
  | case3 c d cs hcd => simp [hcd.2] at h
  | case4 c d cs hcd ih =>
    rw [piecesOnPair, if_neg hcd, ih (List.not_mem_of_not_mem_cons h)]
    rfl

theorem piecesOnPair_append {a b : Char} {cs : List Char} (h : b ∉ cs) (t : List Char) :
    piecesOnPair a b (cs ++ a :: b :: t) = cs :: piecesOnPair a b t := by
  induction cs with
  | nil => simp [piecesOnPair]
  | cons c cs ih =>
    obtain ⟨hc, hcs⟩ := not_or.mp (List.mem_cons.not.mp h)
    have ih := ih hcs
    cases cs with
    | nil =>
      have hpair : ¬(c = a ∧ a = b) := fun hca => hc (hca.1.trans hca.2).symm
      simp only [List.nil_append] at ih
      simp [piecesOnPair, hpair]
    | cons d cs =>
      have hpair : ¬(c = a ∧ d = b) := fun hcd => hcs (by simp [hcd.2])
      simp only [List.cons_append] at ih ⊢
      rw [piecesOnPair, if_neg hpair, ih]
      rfl

/-- A line of a name, the separator, and a value, both without the second character of the
separator, comes apart into the two. -/
theorem splitOnPair_append {a b : Char} {name value : String} (hname : b ∉ name.toList)
    (hvalue : b ∉ value.toList) :
    splitOnPair a b (name ++ a.toString ++ b.toString ++ value) = [name, value] := by
  have hlist : (name ++ a.toString ++ b.toString ++ value).toList =
      name.toList ++ a :: b :: value.toList := by simp
  rw [splitOnPair, hlist, piecesOnPair_append hname, piecesOnPair_of_not_mem hvalue]
  simp

end Text
