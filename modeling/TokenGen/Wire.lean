import TokenGen.Crates
import TokenGen.Lib.Mac
import TokenGen.Lib.U64

/-!
# Signed tokens, abstractly

What expiring auth tokens and CSRF tokens have in common, apart from any code : a
timestamp, a nonce and a signature (`Wire`), a text for each such triple (`render`, `parse`),
and the message a signer with a context signs, the eight timestamp bytes followed by the
nonce followed by the context (`message`). Auth tokens sign the empty context, CSRF tokens
the session id.

`parse_render` and `render_parse` : texts and triples correspond. `message_eq_iff` : the
timestamp can be read off a message, the boundary between nonce and context cannot.
`reject_or_collision_iff` : against an issued token, another token with its signature is
rejected, up to a collision of the MAC, exactly when its message differs.
-/

namespace TokenGen

/-- The three fields of a signed token. -/
@[ext]
structure Wire where
  timestamp : UInt64
  nonce : Bytes
  signature : Bytes
  deriving DecidableEq

namespace Wire

/-! ## Texts -/

/-- The fields as byte strings. -/
def fields (w : Wire) : List Bytes :=
  [U64.toBeBytes w.timestamp, w.nonce, w.signature]

/-- Three byte strings as fields, if the first is eight bytes. -/
def ofFields : List Bytes → Option Wire
  | [ts, nonce, sig] => if ts.length = 8 then some ⟨U64.fromBeBytes ts, nonce, sig⟩ else none
  | _ => none

theorem ofFields_eq_some_iff {fs : List Bytes} {w : Wire} :
    ofFields fs = some w ↔ fs = w.fields := by
  refine ⟨fun h => ?_, ?_⟩
  · match fs, h with
    | [ts, nonce, sig], h =>
      simp only [ofFields, Option.ite_none_right_eq_some, Option.some.injEq] at h
      obtain ⟨hlen, rfl⟩ := h
      rw [fields, U64.toBeBytes_fromBeBytes hlen]
  · rintro rfl
    simp [fields, ofFields]

variable (lib : Crates)

/-- The text of a token. -/
def render (w : Wire) : String :=
  lib.base64.joinFields '.' w.fields

/-- The token a text stands for, if any. -/
def parse (s : String) : Option Wire :=
  (lib.base64.splitFields '.' s).bind ofFields

variable {lib}

theorem parse_eq_some_iff {s : String} {w : Wire} :
    parse lib s = some w ↔ lib.base64.splitFields '.' s = some w.fields := by
  simp only [parse, Option.bind_eq_some_iff, ofFields_eq_some_iff, exists_eq_right]

/-- Written out, a token is its three encoded fields with dots between them. -/
theorem render_eq (w : Wire) :
    w.render lib = lib.base64.encode (U64.toBeBytes w.timestamp) ++ "." ++
      lib.base64.encode w.nonce ++ "." ++ lib.base64.encode w.signature := by
  have hdot : ('.' : Char).toString = "." := rfl
  simp only [render, fields, TextCodec.joinFields, List.map_cons, List.map_nil,
    Text.join_cons_cons, Text.join_singleton, hdot, String.append_assoc]

theorem parse_render (hlib : lib.Base64Lawful) (w : Wire) : parse lib (w.render lib) = some w := by
  rw [parse_eq_some_iff, render, TextCodec.splitFields_joinFields hlib.decodes hlib.avoids_dot]
  simp [fields]

/-- A strict decoder accepts one text for each token. -/
theorem render_parse (hlib : lib.Base64Strict) {s : String} {w : Wire}
    (h : parse lib s = some w) : w.render lib = s :=
  TextCodec.joinFields_splitFields hlib (parse_eq_some_iff.mp h)

/-- The parts of a text that parses. -/
theorem parse_eq_some_iff_split {s : String} {w : Wire} :
    parse lib s = some w ↔ ∃ p₀ p₁ p₂, Text.split '.' s = [p₀, p₁, p₂] ∧
      lib.base64.read p₀ = some (U64.toBeBytes w.timestamp) ∧
      lib.base64.read p₁ = some w.nonce ∧ lib.base64.read p₂ = some w.signature := by
  rw [parse_eq_some_iff, TextCodec.splitFields_eq_some_iff]
  simp only [fields, List.forall₂_cons_right_iff, List.forall₂_nil_right_iff]
  refine ⟨?_, ?_⟩
  · rintro ⟨p₀, _, h₀, ⟨p₁, _, h₁, ⟨p₂, _, h₂, rfl, rfl⟩, rfl⟩, hs⟩
    exact ⟨p₀, p₁, p₂, hs, h₀, h₁, h₂⟩
  · rintro ⟨p₀, p₁, p₂, hs, h₀, h₁, h₂⟩
    exact ⟨p₀, _, h₀, ⟨p₁, _, h₁, ⟨p₂, _, h₂, rfl, rfl⟩, rfl⟩, hs⟩

/-- A text parses when it is three encoded parts, the first of eight bytes. -/
theorem isSome_parse_iff {s : String} :
    (parse lib s).isSome ↔ ∃ p₀ p₁ p₂, Text.split '.' s = [p₀, p₁, p₂] ∧
      (∃ ts, lib.base64.read p₀ = some ts ∧ ts.length = 8) ∧
      (lib.base64.read p₁).isSome ∧ (lib.base64.read p₂).isSome := by
  simp only [Option.isSome_iff_exists, parse_eq_some_iff_split]
  refine ⟨?_, ?_⟩
  · rintro ⟨w, p₀, p₁, p₂, hs, h₀, h₁, h₂⟩
    exact ⟨p₀, p₁, p₂, hs, ⟨_, h₀, by simp⟩, ⟨_, h₁⟩, ⟨_, h₂⟩⟩
  · rintro ⟨p₀, p₁, p₂, hs, ⟨ts, h₀, hlen⟩, ⟨nonce, h₁⟩, ⟨sig, h₂⟩⟩
    refine ⟨⟨U64.fromBeBytes ts, nonce, sig⟩, p₀, p₁, p₂, hs, ?_, h₁, h₂⟩
    rwa [U64.toBeBytes_fromBeBytes hlen]

/-- A text without a dot is no token. -/
theorem parse_eq_none_of_not_mem {s : String} (h : '.' ∉ s.toList) : parse lib s = none := by
  refine Option.eq_none_iff_forall_ne_some.mpr fun w hw => ?_
  obtain ⟨p₀, p₁, p₂, hs, -⟩ := parse_eq_some_iff_split.mp hw
  rw [Text.split_eq_singleton h] at hs
  simp at hs

theorem ne_empty_of_parse {s : String} {w : Wire} (h : parse lib s = some w) : s ≠ "" := by
  rintro rfl
  rw [parse_eq_none_of_not_mem (by simp)] at h
  simp at h

/-! ## Signatures -/

/-- The message a signer with context `context` signs. -/
def message (w : Wire) (context : Bytes) : Bytes :=
  U64.toBeBytes w.timestamp ++ w.nonce ++ context

/-- The signature is the MAC of the message. -/
def Signed (mac : Bytes → Vector UInt8 32) (w : Wire) (context : Bytes) : Prop :=
  w.signature = (mac (w.message context)).toList

/-- The token a signer issues around a timestamp and a nonce. -/
def sign (mac : Bytes → Vector UInt8 32) (timestamp : UInt64) (nonce context : Bytes) : Wire :=
  ⟨timestamp, nonce, (mac (U64.toBeBytes timestamp ++ nonce ++ context)).toList⟩

@[simp] theorem timestamp_sign (mac : Bytes → Vector UInt8 32) (timestamp : UInt64)
    (nonce context : Bytes) : (sign mac timestamp nonce context).timestamp = timestamp :=
  rfl

theorem signed_sign (mac : Bytes → Vector UInt8 32) (timestamp : UInt64) (nonce context : Bytes) :
    (sign mac timestamp nonce context).Signed mac context :=
  rfl

instance (mac : Bytes → Vector UInt8 32) (w : Wire) (context : Bytes) :
    Decidable (w.Signed mac context) :=
  inferInstanceAs (Decidable (_ = _))

/-- The timestamp has a fixed width, so it can be read off the message; where the nonce
ends cannot. -/
theorem message_eq_iff {w w' : Wire} {x x' : Bytes} :
    w.message x = w'.message x' ↔ w.timestamp = w'.timestamp ∧ w.nonce ++ x = w'.nonce ++ x' := by
  simp only [message, List.append_assoc]
  refine ⟨fun h => ?_, ?_⟩
  · obtain ⟨hts, hrest⟩ := List.append_inj h (by simp)
    exact ⟨U64.toBeBytes_injective hts, hrest⟩
  · rintro ⟨hts, hrest⟩
    rw [hts, hrest]

/-- Bytes of the context moved to the end of the nonce leave the message as it is. -/
theorem message_move (w : Wire) (moved x : Bytes) :
    (⟨w.timestamp, w.nonce ++ moved, w.signature⟩ : Wire).message x = w.message (moved ++ x) :=
  message_eq_iff.mpr ⟨rfl, List.append_assoc _ _ _⟩

/-- One message, one context : one nonce. -/
theorem nonce_eq_of_message_eq {w w' : Wire} {x : Bytes} (h : w.message x = w'.message x) :
    w.nonce = w'.nonce :=
  List.append_cancel_right (message_eq_iff.mp h).2

variable {mac : Bytes → Vector UInt8 32} {w issued : Wire} {x x' : Bytes}

theorem Signed.move (moved x : Bytes) (h : w.Signed mac (moved ++ x)) :
    (⟨w.timestamp, w.nonce ++ moved, w.signature⟩ : Wire).Signed mac x := by
  rw [Signed, message_move]
  exact h

/-- Let `issued` be signed. A check `p` and the comparison of signatures reject a token with
the issued signature, up to a collision of the MAC on the two messages, exactly when `p`
fails or the messages differ. -/
theorem reject_or_collision_iff {p : Prop} (hi : issued.Signed mac x')
    (hsig : w.signature = issued.signature) :
    ¬(p ∧ w.Signed mac x) ∨ Collision mac (w.message x) (issued.message x') ↔
      ¬(p ∧ w.message x = issued.message x') := by
  have hsigned : w.Signed mac x ↔ mac (issued.message x') = mac (w.message x) := by
    rw [Signed, hsig, hi, Vector.toList_inj]
  rw [hsigned]
  exact Collision.reject_or_iff rfl

/-- Two signed tokens with one signature have one message, up to a collision. -/
theorem message_eq_or_collision (hw : w.Signed mac x) (hi : issued.Signed mac x')
    (hsig : w.signature = issued.signature) :
    w.message x = issued.message x' ∨ Collision mac (w.message x) (issued.message x') := by
  refine Collision.eq_or_of_image_eq (Vector.toList_inj.mp ?_)
  rw [← hw, ← hi, hsig]

/-! ## Texts that carry an issued signature -/

variable {s : String} {window : UInt64 → Prop}

/-- The bytes the second part of a text stands for. -/
def noncePart (lib : Crates) (s : String) : Option Bytes :=
  (Text.split '.' s)[1]?.bind lib.base64.read

theorem noncePart_render (hlib : lib.Base64Lawful) (w : Wire) :
    noncePart lib (w.render lib) = some w.nonce := by
  obtain ⟨p₀, p₁, p₂, hs, -, h₁, -⟩ := parse_eq_some_iff_split.mp (parse_render hlib w)
  simpa [noncePart, hs] using h₁

/-- The bytes the third part of a text stands for. -/
def signaturePart (lib : Crates) (s : String) : Option Bytes :=
  (Text.split '.' s)[2]?.bind lib.base64.read

theorem signaturePart_of_parse (h : parse lib s = some w) :
    signaturePart lib s = some w.signature := by
  obtain ⟨p₀, p₁, p₂, hs, -, -, h₂⟩ := parse_eq_some_iff_split.mp h
  simpa [signaturePart, hs] using h₂

/-- The text of a token inside its time window, signed for `x`. -/
def Accepted (lib : Crates) (mac : Bytes → Vector UInt8 32) (window : UInt64 → Prop)
    (x : Bytes) (s : String) : Prop :=
  ∃ w, parse lib s = some w ∧ window w.timestamp ∧ w.Signed mac x

/-- The text of a token whose message for `x` collides with that of an issued one for
`x'`. -/
def Colliding (lib : Crates) (mac : Bytes → Vector UInt8 32) (x : Bytes) (s : String)
    (issued : Wire) (x' : Bytes) : Prop :=
  ∃ w, parse lib s = some w ∧ Collision mac (w.message x) (issued.message x')

/-- A text with the signature of an issued token is rejected, up to a collision, exactly when
it is not the text of a token inside its window with the issued message. -/
theorem rejected_or_colliding_iff (hi : issued.Signed mac x')
    (hsig : signaturePart lib s = some issued.signature) :
    ¬Accepted lib mac window x s ∨ Colliding lib mac x s issued x' ↔
      ¬∃ w, parse lib s = some w ∧ window w.timestamp ∧ w.message x = issued.message x' := by
  cases hw : parse lib s with
  | none => simp [Accepted, Colliding, hw]
  | some w =>
    rw [signaturePart_of_parse hw, Option.some.injEq] at hsig
    simp only [Accepted, Colliding, hw, Option.some.injEq, exists_eq_left']
    exact reject_or_collision_iff hi hsig

/-- A text with the signature of an issued token, accepted in the context of that token, is
its text, up to a collision. -/
theorem eq_render_or_colliding (hlib : lib.Base64Strict) (hi : issued.Signed mac x)
    (hsig : signaturePart lib s = some issued.signature) (h : Accepted lib mac window x s) :
    s = issued.render lib ∨ Colliding lib mac x s issued x := by
  obtain ⟨w, hw, -, hsigned⟩ := h
  have hws : w.signature = issued.signature :=
    Option.some.inj ((signaturePart_of_parse hw).symm.trans hsig)
  rcases message_eq_or_collision hsigned hi hws with hmsg | hcoll
  · have hts := (message_eq_iff.mp hmsg).1
    obtain rfl : w = issued := Wire.ext hts (nonce_eq_of_message_eq hmsg) hws
    exact Or.inl (render_parse hlib hw).symm
  · exact Or.inr ⟨w, hw, hcoll⟩

end Wire

/-! ## The shape of a signed text, part by part -/

variable {lib : Crates}

/-- `s` is three parts between dots that all decode, the first of them to the eight bytes of
`timestamp`. -/
def ThreeParts (lib : Crates) (s : String) (timestamp : UInt64) : Prop :=
  ∃ p₀ p₁ p₂ ts nonce sig, Text.split '.' s = [p₀, p₁, p₂] ∧ lib.base64.decode p₀ = .ok ts ∧
    lib.base64.decode p₁ = .ok nonce ∧ lib.base64.decode p₂ = .ok sig ∧ ts.length = 8 ∧
    timestamp = U64.fromBeBytes ts

theorem threeParts_iff_parse {s : String} {timestamp : UInt64} : ThreeParts lib s timestamp ↔
    ∃ w, Wire.parse lib s = some w ∧ timestamp = w.timestamp := by
  simp only [ThreeParts, Wire.parse_eq_some_iff_split, TextCodec.read_eq_some_iff]
  refine ⟨?_, ?_⟩
  · rintro ⟨p₀, p₁, p₂, ts, nonce, sig, hs, h₀, h₁, h₂, hlen, rfl⟩
    refine ⟨⟨U64.fromBeBytes ts, nonce, sig⟩, ⟨p₀, p₁, p₂, hs, ?_, h₁, h₂⟩, rfl⟩
    rwa [U64.toBeBytes_fromBeBytes hlen]
  · rintro ⟨w, ⟨p₀, p₁, p₂, hs, h₀, h₁, h₂⟩, rfl⟩
    exact ⟨p₀, p₁, p₂, _, _, _, hs, h₀, h₁, h₂, by simp, by simp⟩

theorem parse_eq_none_of_not_threeParts {s : String}
    (h : ¬∃ timestamp, ThreeParts lib s timestamp) : Wire.parse lib s = none := by
  refine Option.eq_none_iff_forall_ne_some.mpr fun p hp => h ?_
  exact ⟨p.timestamp, threeParts_iff_parse.mpr ⟨p, hp, rfl⟩⟩

end TokenGen
