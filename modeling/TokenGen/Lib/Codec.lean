import TokenGen.Lib.Outcome
import TokenGen.Lib.Text

/-!
# Text codecs and delimited fields

A `TextCodec` writes byte strings as texts and reads texts back, with an error text when
it cannot. Three laws are named, and each result asks for the ones it uses :

* `Decodes` : reading undoes writing;
* `Strict` : writing undoes reading, so a byte string has one accepted spelling;
* `Avoids sep` : no written text contains `sep`.

Fields are written one after another with a separator between them (`joinFields`) and read
by splitting at the separator (`splitFields`). `splitFields_joinFields` needs the first and
third law, `joinFields_splitFields` the second.
-/

/-- A way to write byte strings as texts. -/
structure TextCodec where
  encode : List UInt8 → String
  /-- The bytes a text stands for, or why it stands for none. -/
  decode : String → Except String (List UInt8)

namespace TextCodec

variable (C : TextCodec)

/-- Reading undoes writing. -/
def Decodes : Prop :=
  ∀ b, C.decode (C.encode b) = .ok b

/-- Writing undoes reading. -/
def Strict : Prop :=
  ∀ {s b}, C.decode s = .ok b → C.encode b = s

/-- No written text contains `sep`. -/
def Avoids (sep : Char) : Prop :=
  ∀ b, sep ∉ (C.encode b).toList

/-- The bytes a text stands for, if any. -/
def read (s : String) : Option (List UInt8) :=
  (C.decode s).toOption

variable {C}

theorem read_eq_some_iff {s : String} {b : List UInt8} :
    C.read s = some b ↔ C.decode s = .ok b :=
  Except.toOption_eq_some_iff

theorem read_encode (hdec : C.Decodes) (b : List UInt8) : C.read (C.encode b) = some b :=
  read_eq_some_iff.mpr (hdec b)

theorem Decodes.encode_injective (hdec : C.Decodes) : Function.Injective C.encode := by
  intro a b h
  have ha := read_encode hdec a
  rw [h, read_encode hdec b] at ha
  exact (Option.some.inj ha).symm

/-! ## Fields between separators -/

variable (C)

/-- The fields written one after another, `sep` between consecutive ones. -/
def joinFields (sep : Char) (fs : List (List UInt8)) : String :=
  Text.join sep (fs.map C.encode)

/-- The fields of a text, if every piece between separators is a written byte string. -/
def splitFields (sep : Char) (s : String) : Option (List (List UInt8)) :=
  (Text.split sep s).mapM C.read

variable {C}

/-- A text has given fields exactly when its pieces are read as them one by one. -/
theorem splitFields_eq_some_iff {sep : Char} {s : String} {fs : List (List UInt8)} :
    C.splitFields sep s = some fs ↔
      List.Forall₂ (fun p f => C.read p = some f) (Text.split sep s) fs :=
  List.mapM_eq_some_iff_forall₂

theorem map_encode_of_forall₂ (hstrict : C.Strict) {ps : List String} {fs : List (List UInt8)}
    (h : List.Forall₂ (fun p f => C.read p = some f) ps fs) : fs.map C.encode = ps := by
  induction h with
  | nil => rfl
  | cons hf _ ih => rw [List.map_cons, ih, hstrict (read_eq_some_iff.mp hf)]

/-- Fields are read back from where they were written. -/
theorem splitFields_joinFields {sep : Char} (hdec : C.Decodes) (hsep : C.Avoids sep)
    {fs : List (List UInt8)} (hne : fs ≠ []) :
    C.splitFields sep (C.joinFields sep fs) = some fs := by
  rw [splitFields, joinFields, Text.split_join (by simpa using hne)]
  · exact List.mapM_map_of_forall_mem fun f _ => read_encode hdec f
  · intro p hp
    obtain ⟨f, -, rfl⟩ := List.mem_map.mp hp
    exact hsep f

/-- A text with given fields is the one they are written as. -/
theorem joinFields_splitFields {sep : Char} (hstrict : C.Strict) {s : String}
    {fs : List (List UInt8)} (h : C.splitFields sep s = some fs) : C.joinFields sep fs = s := by
  rw [joinFields, map_encode_of_forall₂ hstrict (splitFields_eq_some_iff.mp h), Text.join_split]

end TextCodec
