import TokenGen.Lib.Hexadecimal
import Mathlib.Tactic.Common

/-!
# JSON text

The values of JSON that are no numbers and not `null`, and their text without spaces. A string
without control characters, quotation marks and backslashes is its own text between quotation
marks (`quote_eq`), and no text has a line feed in it (`newline_not_mem_render`).
-/

/-- JSON values. -/
inductive Json where
  | bool (b : Bool)
  | str (s : String)
  | arr (items : List Json)
  | obj (fields : List (String × Json))

/-- A character inside a JSON string. -/
def Json.escape (c : Char) : String :=
  if c = '"' then "\\\""
  else if c = '\\' then "\\\\"
  else if c = '\x08' then "\\b"
  else if c = '\x0c' then "\\f"
  else if c = '\n' then "\\n"
  else if c = '\r' then "\\r"
  else if c = '\t' then "\\t"
  else if c.toNat < 32 then "\\u00" ++ String.ofList (Hexadecimal.pair (UInt8.ofNat c.toNat))
  else c.toString

/-- A JSON string. -/
def Json.quote (s : String) : String :=
  "\"" ++ String.join (s.toList.map Json.escape) ++ "\""

mutual

/-- The text of a value, without spaces. -/
def Json.render : Json → String
  | .bool b => toString b
  | .str s => Json.quote s
  | .arr items => "[" ++ String.intercalate "," (renderItems items) ++ "]"
  | .obj fields => "\x7b" ++ String.intercalate "," (renderFields fields) ++ "\x7d"

/-- The texts of the elements of an array. -/
def Json.renderItems : List Json → List String
  | [] => []
  | item :: items => item.render :: renderItems items

/-- The texts of the fields of an object. -/
def Json.renderFields : List (String × Json) → List String
  | [] => []
  | (name, value) :: fields => (Json.quote name ++ ":" ++ value.render) :: renderFields fields

end

namespace Json

theorem renderItems_eq (items : List Json) : renderItems items = items.map render := by
  induction items with
  | nil => rfl
  | cons item items ih => rw [renderItems, ih, List.map_cons]

theorem renderFields_eq (fields : List (String × Json)) :
    renderFields fields = fields.map fun field => quote field.1 ++ ":" ++ field.2.render := by
  induction fields with
  | nil => rfl
  | cons field fields ih =>
    obtain ⟨name, v⟩ := field
    rw [renderFields, ih, List.map_cons]

/-- A string in which nothing is escaped. -/
theorem quote_eq {s : String} (h : ∀ c ∈ s.toList, 32 ≤ c.toNat ∧ c ≠ '"' ∧ c ≠ '\\') :
    quote s = "\"" ++ s ++ "\"" := by
  have hescape : ∀ c ∈ s.toList, escape c = c.toString := by
    intro c hc
    obtain ⟨hvisible, hquotation, hbackslash⟩ := h c hc
    have hne : ∀ d : Char, d.toNat < 32 → c ≠ d := by
      rintro d hd rfl
      omega
    rw [escape, if_neg hquotation, if_neg hbackslash, if_neg (hne _ (by decide)),
      if_neg (hne _ (by decide)), if_neg (hne _ (by decide)), if_neg (hne _ (by decide)),
      if_neg (hne _ (by decide)), if_neg (by omega)]
  rw [quote, List.map_congr_left hescape]
  apply String.toList_injective
  simp [List.flatMap_map]

/-! ## Lines -/

/-- A quoted text, character by character. -/
theorem toList_quote (s : String) : (quote s).toList =
    '"' :: (s.toList.flatMap (fun c => (escape c).toList) ++ ['"']) := by
  simp [quote, List.flatMap_map]

/-- The text of the elements of an array. -/
def itemsText (items : List Json) : List Char :=
  (String.intercalate "," (renderItems items)).toList

/-- The text of the fields of an object. -/
def fieldsText (fields : List (String × Json)) : List Char :=
  (String.intercalate "," (renderFields fields)).toList

theorem itemsText_singleton (v : Json) : itemsText [v] = v.render.toList := by
  simp [itemsText, renderItems]

theorem itemsText_cons (v v' : Json) (vs : List Json) :
    itemsText (v :: v' :: vs) = v.render.toList ++ ',' :: itemsText (v' :: vs) := by
  simp [itemsText, renderItems, String.intercalate_cons_cons]

theorem fieldsText_singleton (name : String) (v : Json) :
    fieldsText [(name, v)] = (quote name).toList ++ ':' :: v.render.toList := by
  simp [fieldsText, renderFields]

theorem fieldsText_cons (name : String) (v : Json) (field : String × Json)
    (fields : List (String × Json)) : fieldsText ((name, v) :: field :: fields) =
      (quote name).toList ++ ':' :: (v.render.toList ++ ',' :: fieldsText (field :: fields)) := by
  obtain ⟨name', v'⟩ := field
  simp [fieldsText, renderFields, String.intercalate_cons_cons]

theorem toList_render_arr (items : List Json) :
    (Json.arr items).render.toList = '[' :: (itemsText items ++ [']']) := by
  simp [render, itemsText]

theorem toList_render_obj (fields : List (String × Json)) :
    (Json.obj fields).render.toList = '\x7b' :: (fieldsText fields ++ ['\x7d']) := by
  simp [render, fieldsText]

theorem visible_of_all {l : List Char} (h : (l.all fun d => 32 ≤ d.toNat) = true) :
    ∀ d ∈ l, 32 ≤ d.toNat := by
  simpa using h

/-- No control character is written as it is. -/
theorem visible_escape (c : Char) : ∀ d ∈ (escape c).toList, 32 ≤ d.toNat := by
  have hdigit : ∀ n < 16, 32 ≤ (Hexadecimal.digit n).toNat := fun n hn =>
    visible_of_all (l := Hexadecimal.digits) (by decide) _ (Hexadecimal.digit_mem_digits n hn)
  unfold escape
  split_ifs with h1 h2 h3 h4 h5 h6 h7 hcontrol
  · exact visible_of_all (by decide)
  · exact visible_of_all (by decide)
  · exact visible_of_all (by decide)
  · exact visible_of_all (by decide)
  · exact visible_of_all (by decide)
  · exact visible_of_all (by decide)
  · exact visible_of_all (by decide)
  · have hbyte : (UInt8.ofNat c.toNat).toNat = c.toNat := by simp; omega
    have hhigh := hdigit (c.toNat / 16) (by omega)
    have hlow := hdigit (c.toNat % 16) (by omega)
    simp [Hexadecimal.pair, hbyte, hhigh, hlow]
  · simpa using hcontrol

theorem visible_quote (s : String) : ∀ d ∈ (quote s).toList, 32 ≤ d.toNat := by
  intro d hd
  rw [toList_quote] at hd
  simp only [List.mem_cons, List.mem_append, List.mem_flatMap, List.not_mem_nil, or_false] at hd
  rcases hd with rfl | ⟨c, -, hc⟩ | rfl
  · decide
  · exact visible_escape c d hc
  · decide

mutual

theorem visible_render (v : Json) : ∀ d ∈ v.render.toList, 32 ≤ d.toNat := by
  match v with
  | .bool true => exact visible_of_all (by decide)
  | .bool false => exact visible_of_all (by decide)
  | .str s =>
    rw [render]
    exact visible_quote s
  | .arr items =>
    have hitems := visible_itemsText items
    rw [toList_render_arr]
    simpa [or_imp, forall_and] using hitems
  | .obj fields =>
    have hfields := visible_fieldsText fields
    rw [toList_render_obj]
    simpa [or_imp, forall_and] using hfields
termination_by sizeOf v

theorem visible_itemsText (items : List Json) : ∀ d ∈ itemsText items, 32 ≤ d.toNat := by
  match items with
  | [] => simp [itemsText, renderItems]
  | [v] =>
    rw [itemsText_singleton]
    exact visible_render v
  | v :: v' :: vs =>
    have hv := visible_render v
    have hvs := visible_itemsText (v' :: vs)
    rw [itemsText_cons]
    simpa [or_imp, forall_and] using ⟨hv, hvs⟩
termination_by sizeOf items

theorem visible_fieldsText (fields : List (String × Json)) :
    ∀ d ∈ fieldsText fields, 32 ≤ d.toNat := by
  match fields with
  | [] => simp [fieldsText, renderFields]
  | [(name, v)] =>
    have hname := visible_quote name
    have hv := visible_render v
    rw [fieldsText_singleton]
    simpa [or_imp, forall_and] using ⟨hname, hv⟩
  | (name, v) :: field :: fields =>
    have hname := visible_quote name
    have hv := visible_render v
    have hfields := visible_fieldsText (field :: fields)
    rw [fieldsText_cons]
    simpa [or_imp, forall_and] using ⟨hname, hv, hfields⟩
termination_by sizeOf fields

end

/-- A written value is one line. -/
theorem newline_not_mem_render (v : Json) : '\n' ∉ v.render.toList :=
  fun hmem => absurd (visible_render v '\n' hmem) (by decide)

end Json
