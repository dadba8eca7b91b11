import TokenGen.Auth

/-!
# Tokens handed out

The program keeps no record of the tokens it issues : verification recomputes a signature. An
account is the record it does not keep, a list of what was handed out, under which key and for
which session. `Genuine` says that a text in it really is a signed token.

`signed_iff` judges verification against an account of genuine tokens : fields pass for a key
and a session exactly if their text was handed out for them, or if they were made from a token
handed out for something else that runs together to the same message (`Spliced`), or if their
signature is a forgery of the MAC (`Forged`). `not_spliced` : the second takes session ids of
different lengths, or both types of token, under one key.
-/

namespace TokenGen

/-- What was handed out : the key and the session it was signed for, `none` for an auth token,
and the text. -/
structure Handout where
  key : SecretKey
  session : Option String
  text : String

/-- The bytes signed after timestamp and nonce. -/
def contextOf : Option String → Bytes
  | none => []
  | some sessionId => Text.bytes sessionId

variable (lib : Crates)

/-- The text is that of a token signed under the key for the session. -/
def Handout.Genuine (h : Handout) : Prop :=
  ∃ w : Wire, h.text = w.render lib ∧ w.Signed (lib.hmacSha256 h.key.bytes) (contextOf h.session)

/-- The messages signed under `key` in an account. -/
def signedMessages (account : List Handout) (key : SecretKey) : Set Bytes :=
  fun m => ∃ h ∈ account, h.key = key ∧
    ∃ w : Wire, Wire.parse lib h.text = some w ∧ w.message (contextOf h.session) = m

/-- The fields carry a signature handed out under the same key for another session or type,
whose message is theirs. -/
def Spliced (account : List Handout) (key : SecretKey) (session : Option String) (w : Wire) :
    Prop :=
  ∃ h ∈ account, h.key = key ∧ h.session ≠ session ∧
    ∃ w', Wire.parse lib h.text = some w' ∧ w.signature = w'.signature ∧
      w.timestamp = w'.timestamp ∧
      w.nonce ++ contextOf session = w'.nonce ++ contextOf h.session

/-- The signature is a forgery : it is right, for a message never signed. -/
def Forged (account : List Handout) (key : SecretKey) (session : Option String) (w : Wire) :
    Prop :=
  Forgery (fun m => (lib.hmacSha256 key.bytes m).toList) (signedMessages lib account key)
    (w.message (contextOf session)) w.signature

variable {lib} {account : List Handout} {key : SecretKey} {session : Option String} {w : Wire}
  {s : String}

theorem Handout.Genuine.parse {h : Handout} (hlib : lib.Base64Lawful) (hgen : h.Genuine lib) :
    ∃ w, Wire.parse lib h.text = some w ∧
      w.Signed (lib.hmacSha256 h.key.bytes) (contextOf h.session) := by
  obtain ⟨w, htext, hsigned⟩ := hgen
  exact ⟨w, by rw [htext, Wire.parse_render hlib], hsigned⟩

/-- Fields that carry the same message as a token handed out under the same key carry its
signature, if they are signed. -/
theorem handed_out_or_spliced (hlib : lib.Base64Lawful) (hstrict : lib.Base64Strict)
    (hgen : ∀ h ∈ account, h.Genuine lib) (hw : Wire.parse lib s = some w)
    (hsigned : w.Signed (lib.hmacSha256 key.bytes) (contextOf session))
    (hmem : w.message (contextOf session) ∈ signedMessages lib account key) :
    ⟨key, session, s⟩ ∈ account ∨ Spliced lib account key session w := by
  obtain ⟨h, hh, rfl, w', hparse, hmsg⟩ := hmem
  obtain ⟨w'', hparse', hsigned'⟩ := (hgen h hh).parse hlib
  obtain rfl := Option.some.inj (hparse.symm.trans hparse')
  have hsig : w.signature = w'.signature := by
    rw [hsigned, hsigned', hmsg]
  obtain ⟨hts, hrest⟩ := Wire.message_eq_iff.mp hmsg.symm
  by_cases hsession : h.session = session
  · subst hsession
    obtain rfl : w = w' := Wire.ext hts (List.append_cancel_right hrest) hsig
    have htext : h.text = s := by
      rw [← Wire.render_parse hstrict hparse, Wire.render_parse hstrict hw]
    exact Or.inl (htext ▸ hh)
  · exact Or.inr ⟨h, hh, rfl, hsession, w', hparse, hsig, hts, hrest⟩

/-- Judged against an account of genuine tokens, the fields of a text are signed exactly if the
text was handed out, or they are spliced from a token that was, or a forgery. -/
theorem signed_iff (hlib : lib.Base64Lawful) (hstrict : lib.Base64Strict)
    (hgen : ∀ h ∈ account, h.Genuine lib) (hw : Wire.parse lib s = some w) :
    w.Signed (lib.hmacSha256 key.bytes) (contextOf session) ↔
      ⟨key, session, s⟩ ∈ account ∨ Spliced lib account key session w ∨
        Forged lib account key session w := by
  refine ⟨fun hsigned => ?_, ?_⟩
  · rcases Forgery.mem_or (fun m => (lib.hmacSha256 key.bytes m).toList)
      (signedMessages lib account key) hsigned with hmem | hforged
    · rw [← or_assoc]
      exact Or.inl (handed_out_or_spliced hlib hstrict hgen hw hsigned hmem)
    · exact Or.inr (Or.inr hforged)
  · rintro (hmem | ⟨h, hh, rfl, -, w', hparse, hsig, hts, hrest⟩ | hforged)
    · obtain ⟨w', hparse, hsigned⟩ := (hgen _ hmem).parse hlib
      obtain rfl := Option.some.inj (hw.symm.trans hparse)
      exact hsigned
    · obtain ⟨w'', hparse', hsigned⟩ := (hgen h hh).parse hlib
      obtain rfl := Option.some.inj (hparse.symm.trans hparse')
      rw [Wire.Signed, hsig, hsigned, Wire.message_eq_iff.mpr ⟨hts, hrest⟩]
    · exact hforged.valid

/-- A text is accepted, inside a window, exactly if the account explains its signature. -/
theorem Wire.accepted_iff_account (hlib : lib.Base64Lawful) (hstrict : lib.Base64Strict)
    (hgen : ∀ h ∈ account, h.Genuine lib) {window : UInt64 → Prop} (session : Option String) :
    Wire.Accepted lib (lib.hmacSha256 key.bytes) window (contextOf session) s ↔
      ∃ w, Wire.parse lib s = some w ∧ window w.timestamp ∧
        (⟨key, session, s⟩ ∈ account ∨ Spliced lib account key session w ∨
          Forged lib account key session w) := by
  refine exists_congr fun w => and_congr_right fun hw => ?_
  rw [signed_iff hlib hstrict hgen hw]

/-- Where nothing is spliced, a text is accepted, inside a window, exactly if it was handed out
or is a forgery. -/
theorem Wire.accepted_iff_handed_out (hlib : lib.Base64Lawful) (hstrict : lib.Base64Strict)
    (hgen : ∀ h ∈ account, h.Genuine lib) {window : UInt64 → Prop} {session : Option String}
    (hno : ∀ w, ¬Spliced lib account key session w) :
    Wire.Accepted lib (lib.hmacSha256 key.bytes) window (contextOf session) s ↔
      ∃ w, Wire.parse lib s = some w ∧ window w.timestamp ∧
        (⟨key, session, s⟩ ∈ account ∨ Forged lib account key session w) := by
  simp only [Wire.accepted_iff_account hlib hstrict hgen session, hno, false_or]

/-- A splice moves bytes between nonce and context : if all that was signed under a key was
signed for sessions of one length, or for none, nothing can be spliced. -/
theorem not_spliced (hone : ∀ h ∈ account, h.key = key →
      h.session.isSome = session.isSome ∧
        (contextOf h.session).length = (contextOf session).length) :
    ¬Spliced lib account key session w := by
  rintro ⟨h, hh, hkey, hne, w', -, -, -, hrest⟩
  obtain ⟨hkind, hlen⟩ := hone h hh hkey
  have hcontext := (List.append_inj' hrest hlen.symm).2
  cases hsession : h.session with
  | none =>
    rw [hsession, Option.isSome_none, Eq.comm, Option.isSome_eq_false_iff,
      Option.isNone_iff_eq_none] at hkind
    exact hne (hsession.trans hkind.symm)
  | some sessionId =>
    rw [hsession, Option.isSome_some, Eq.comm, Option.isSome_iff_exists] at hkind
    obtain ⟨sessionId', rfl⟩ := hkind
    rw [hsession] at hcontext
    exact hne (hsession.trans (congrArg some (Text.bytes_injective hcontext.symm)))

end TokenGen
