import TokenGen.Entropy
import TokenGen.Handout
import TokenGen.Standard

/-!
# Runs of the library

A fleet is any number of processes that generate tokens and keys, each with a random source of
its own. An event is a request to one of them at a clock reading; a run is any sequence of
events, so requests to different processes come in any order, and their clocks need not agree.
What the requests returned is kept as a log. An entry of the log carries the run of the
generator it comes from, so it holds nothing that was not generated.

`accepts_iff_account` : in every state a fleet reaches, a text passes exactly if it was handed
out for the same key and session, or was spliced from a token handed out for another, or is a
forgery. `accepts_iff_handed_out` : where all that is signed under the key are CSRF tokens for
session ids as long as the one that is verified, or all of it are auth tokens and an auth token is
verified, it was handed out or is a forgery.
-/

namespace TokenGen

open Function (update)

/-! ## Requests -/

/-- A request : a configured builder that is asked to generate. -/
inductive Request where
  | auth (b : AuthTokenBuilder)
  | csrf (b : CsrfTokenBuilder)
  | apiKey (b : ApiKeyBuilder)
  | apiKeyWithHash (b : ApiKeyBuilder)

/-- What a request returns. -/
inductive Reply where
  | auth (t : AuthToken)
  | csrf (t : CsrfToken)
  | apiKey (k : ApiKey)
  | apiKeyWithHash (g : GeneratedApiKey)

/-- The text that is handed out. -/
def Reply.text : Reply → String
  | .auth t => t.asStr
  | .csrf t => t.asStr
  | .apiKey k => k.asStr
  | .apiKeyWithHash g => g.key.asStr

namespace Request

/-- Serve a request at the clock reading `now`. -/
def run (lib : Crates) (now : SystemTime) : Request → EStateM (Abort TokenError) SysRng Reply
  | .auth b => do
    let t ← b.generate lib now
    return .auth t
  | .csrf b => do
    let t ← b.generate lib now
    return .csrf t
  | .apiKey b => do
    let k ← b.generate lib
    return .apiKey k
  | .apiKeyWithHash b => do
    let g ← b.generateWithHash lib
    return .apiKeyWithHash g

/-- The key and the session a request signs for, if what it returns is signed. -/
def signer : Request → Option (SecretKey × Option String)
  | .auth ⟨_, _, some _, some key⟩ => some (key, none)
  | .csrf ⟨_, some key, some sessionId⟩ => some (key, some sessionId)
  | _ => none

/-- The number of random bytes a request asks for. -/
def length : Request → ℕ
  | .auth b => b.length
  | .csrf b => b.length
  | .apiKey b => b.length
  | .apiKeyWithHash b => b.length

/-- The random part of the text a request returns. -/
def randomPart (lib : Crates) : Request → String → Option Bytes
  | .auth b => b.randomPart lib
  | .csrf _ => Wire.noncePart lib
  | .apiKey _ => ApiKey.randomPart lib
  | .apiKeyWithHash _ => ApiKey.randomPart lib

variable {lib : Crates}

theorem run_csrf_ok {b : CsrfTokenBuilder} {now : SystemTime} {os os' : SysRng} {c : CsrfToken}
    (h : (b.generate lib now).run os = .ok c os') :
    ((Request.csrf b).run lib now).run os = .ok (.csrf c) os' := by
  rw [run, EStateM.run_bind, h]
  rfl

theorem run_apiKeyWithHash_ok {b : ApiKeyBuilder} {now : SystemTime} {os os' : SysRng}
    {g : GeneratedApiKey} (h : (b.generateWithHash lib).run os = .ok g os') :
    ((Request.apiKeyWithHash b).run lib now).run os = .ok (.apiKeyWithHash g) os' := by
  rw [run, EStateM.run_bind, h]
  rfl

/-- What is returned to a request that signs is the text of a token signed for it. -/
theorem exists_wire_of_run {r : Request} {now : SystemTime} {os os' : SysRng} {reply : Reply}
    {key : SecretKey} {session : Option String} (hsigner : r.signer = some (key, session))
    (h : (r.run lib now).run os = .ok reply os') :
    ∃ w : Wire, reply.text = w.render lib ∧
      w.Signed (lib.hmacSha256 key.bytes) (contextOf session) := by
  unfold signer at hsigner
  split at hsigner
  · obtain ⟨rfl, rfl⟩ := Prod.mk.inj (Option.some.inj hsigner)
    simp only [run, EStateM.run_bind_eq_ok_iff, EStateM.run_pure_eq_ok_iff] at h
    obtain ⟨t, _, ht, rfl, -⟩ := h
    obtain ⟨w, rfl, hw⟩ := AuthTokenBuilder.exists_wire_of_generate ht
    exact ⟨w, rfl, hw⟩
  · obtain ⟨rfl, rfl⟩ := Prod.mk.inj (Option.some.inj hsigner)
    simp only [run, EStateM.run_bind_eq_ok_iff, EStateM.run_pure_eq_ok_iff] at h
    obtain ⟨t, _, ht, rfl, -⟩ := h
    obtain ⟨w, rfl, hw⟩ := CsrfTokenBuilder.exists_wire_of_generate ht
    exact ⟨w, rfl, hw⟩
  · cases hsigner

/-- Every request keeps the entropy of the bytes it draws. -/
theorem run_keepsEntropy (hlib : lib.Base64Lawful) (r : Request) (now : SystemTime) :
    KeepsEntropy r.length (SysRng.produced r.length) (r.run lib now) Reply.text
      (r.randomPart lib) := by
  cases r with
  | auth b =>
    refine (AuthTokenBuilder.generate_keepsEntropy hlib b now).bind fun t os reply os' h => ?_
    obtain ⟨rfl, -⟩ := EStateM.run_pure_eq_ok_iff.mp h
    rfl
  | csrf b =>
    refine (CsrfTokenBuilder.generate_keepsEntropy hlib b now).bind fun t os reply os' h => ?_
    obtain ⟨rfl, -⟩ := EStateM.run_pure_eq_ok_iff.mp h
    rfl
  | apiKey b =>
    refine (ApiKey.generate_keepsEntropy hlib b.keyType b.environment b.length).bind
      fun k os reply os' h => ?_
    obtain ⟨rfl, -⟩ := EStateM.run_pure_eq_ok_iff.mp h
    rfl
  | apiKeyWithHash b =>
    refine (ApiKeyBuilder.generateWithHash_keepsEntropy hlib b).bind fun g os reply os' h => ?_
    obtain ⟨rfl, -⟩ := EStateM.run_pure_eq_ok_iff.mp h
    rfl

end Request

/-! ## Runs -/

/-- A request to one process of a fleet, and the clock reading it meets there. -/
structure Event (ι : Type) where
  node : ι
  now : SystemTime
  request : Request

/-- An event that returned. -/
structure Issue (lib : Crates) (ι : Type) where
  event : Event ι
  /-- The random source of the process before and after. -/
  before : SysRng
  after : SysRng
  reply : Reply
  returned : (event.request.run lib event.now).run before = .ok reply after

/-- Processes with their random sources, and what they have issued. -/
structure Fleet (lib : Crates) (ι : Type) where
  rng : ι → SysRng
  issued : List (Issue lib ι)

/-- What was handed out with an issue, if it is a signed token. -/
def Issue.handout {lib : Crates} {ι : Type} (i : Issue lib ι) : Option Handout :=
  i.event.request.signer.map fun signer => ⟨signer.1, signer.2, i.reply.text⟩

namespace Fleet

variable {lib : Crates} {ι : Type}

/-- A fleet that has issued nothing. -/
def start (rng : ι → SysRng) : Fleet lib ι :=
  ⟨rng, []⟩

/-- The signed tokens a fleet has handed out. -/
def account (s : Fleet lib ι) : List Handout :=
  s.issued.filterMap Issue.handout

variable [DecidableEq ι]

/-- An event : the random source of the process moves on, and what is returned is logged. -/
def step (s : Fleet lib ι) (e : Event ι) : Fleet lib ι :=
  match h : (e.request.run lib e.now).run (s.rng e.node) with
  | .ok reply os => ⟨update s.rng e.node os, s.issued ++ [⟨e, s.rng e.node, os, reply, h⟩]⟩
  | .error _ os => ⟨update s.rng e.node os, s.issued⟩

/-- A run : one event after another. -/
def run (s : Fleet lib ι) (events : List (Event ι)) : Fleet lib ι :=
  events.foldl step s

/-- An event that returns is logged. -/
theorem step_of_run (s : Fleet lib ι) {e : Event ι} {reply : Reply} {os : SysRng}
    (h : (e.request.run lib e.now).run (s.rng e.node) = .ok reply os) :
    s.step e = ⟨update s.rng e.node os, s.issued ++ [⟨e, s.rng e.node, os, reply, h⟩]⟩ := by
  unfold step
  split
  · rename_i reply' os' h'
    obtain ⟨rfl, rfl⟩ := EStateM.Result.ok.inj (h.symm.trans h')
    rfl
  · rename_i err os' h'
    cases h.symm.trans h'

/-- An event returns and is logged, or it fails and nothing is. -/
theorem step_cases (s : Fleet lib ι) (e : Event ι) :
    (∃ i : Issue lib ι, i.event = e ∧ i.before = s.rng e.node ∧
      s.step e = ⟨update s.rng e.node i.after, s.issued ++ [i]⟩) ∨
    ∃ err os, (e.request.run lib e.now).run (s.rng e.node) = .error err os ∧
      s.step e = ⟨update s.rng e.node os, s.issued⟩ := by
  unfold step
  split
  · rename_i reply os h
    exact Or.inl ⟨⟨e, s.rng e.node, os, reply, h⟩, rfl, rfl, rfl⟩
  · rename_i err os h
    exact Or.inr ⟨err, os, h, rfl⟩

/-- What holds at the start and is kept by every event holds after every run. -/
theorem run_induction {P : Fleet lib ι → Prop} {events : List (Event ι)}
    (hstep : ∀ s, ∀ e ∈ events, P s → P (s.step e)) {s : Fleet lib ι} (hs : P s) :
    P (s.run events) :=
  List.foldlRecOn events step hs fun s hs e he => hstep s e he hs

/-- Every issue of a run comes from an event of the run. -/
theorem event_mem_of_issued {rng : ι → SysRng} {events : List (Event ι)} :
    ∀ i ∈ ((start rng : Fleet lib ι).run events).issued, i.event ∈ events := by
  refine run_induction (P := fun s => ∀ i ∈ s.issued, i.event ∈ events) ?_ ?_
  · intro s e he hs
    rcases s.step_cases e with ⟨i, rfl, -, hstep⟩ | ⟨err, os, -, hstep⟩
    · rw [hstep]
      simp only [List.forall_mem_append, List.forall_mem_singleton]
      exact ⟨hs, he⟩
    · rwa [hstep]
  · simp [start]

end Fleet

/-! ## Acceptance -/

variable {lib : Crates} {ι : Type}

theorem Issue.genuine {i : Issue lib ι} {h : Handout} (hi : i.handout = some h) :
    h.Genuine lib := by
  obtain ⟨⟨key, session⟩, hsigner, rfl⟩ := Option.map_eq_some_iff.mp hi
  exact Request.exists_wire_of_run hsigner i.returned

theorem Fleet.genuine (s : Fleet lib ι) : ∀ h ∈ s.account, h.Genuine lib := by
  intro h hh
  obtain ⟨i, -, hi⟩ := List.mem_filterMap.mp hh
  exact i.genuine hi

variable [DecidableEq ι]

/-- In every state a fleet reaches, a text is accepted for a key, and a session or none, inside
its window, exactly if it was handed out for these, or carries the signature and the message of
a token handed out for another session or type, or is a forgery. -/
theorem accepts_iff_account (hlib : lib.Base64Lawful) (hstrict : lib.Base64Strict)
    (rng : ι → SysRng) (events : List (Event ι)) (key : SecretKey) (s : String)
    (now : SystemTime) :
    let account := ((Fleet.start rng : Fleet lib ι).run events).account
    (∀ sessionId maxAgeSecs, CsrfToken.Accepts lib s now key sessionId maxAgeSecs ↔
      ∃ w, Wire.parse lib s = some w ∧ CsrfToken.Fresh now w.timestamp maxAgeSecs ∧
        (⟨key, some sessionId, s⟩ ∈ account ∨ Spliced lib account key (some sessionId) w ∨
          Forged lib account key (some sessionId) w)) ∧
    (AuthToken.Accepts lib s now key ↔
      ∃ w, Wire.parse lib s = some w ∧ AuthToken.Unexpired now w.timestamp ∧
        (⟨key, none, s⟩ ∈ account ∨ Spliced lib account key none w ∨
          Forged lib account key none w)) := by
  intro account
  have hgen : ∀ h ∈ account, h.Genuine lib := Fleet.genuine _
  refine ⟨fun sessionId maxAgeSecs => ?_, ?_⟩
  · rw [CsrfToken.accepts_iff]
    exact Wire.accepted_iff_account hlib hstrict hgen (some sessionId)
  · rw [AuthToken.accepts_iff]
    exact Wire.accepted_iff_account hlib hstrict hgen none

/-- A token for the session `a`, in a fleet of one process. -/
def Event.sessionA : List (Event Unit) :=
  [⟨(), SystemTime.epoch, .csrf ⟨16, some SecretKey.zeros, some "a"⟩⟩]

/-- The fleet that has issued it. -/
def Fleet.afterSessionA : Fleet Crates.standard Unit :=
  (Fleet.start fun _ => SysRng.zeros).run Event.sessionA

theorem Fleet.account_afterSessionA : afterSessionA.account =
    [⟨SecretKey.zeros, some "a", Wire.inSessionA.render Crates.standard⟩] := by
  rw [afterSessionA, Event.sessionA, Fleet.run, List.foldl_cons, List.foldl_nil,
    Fleet.step_of_run _ (Request.run_csrf_ok generate_inSessionA)]
  rfl

theorem fresh_inSessionA :
    CsrfToken.Fresh SystemTime.epoch Wire.inSessionA.timestamp 60 :=
  ⟨_, rfl, by decide⟩

theorem accepts_iff_account_standard :
    CsrfToken.Accepts Crates.standard (Wire.inSessionA.render Crates.standard)
        SystemTime.epoch SecretKey.zeros "a" 60 ∧
      (CsrfToken.Accepts Crates.standard (Wire.inSessionA.render Crates.standard)
          SystemTime.epoch SecretKey.zeros "b" 60 ↔
        ∃ w, Wire.parse Crates.standard (Wire.inSessionA.render Crates.standard) = some w ∧
          CsrfToken.Fresh SystemTime.epoch w.timestamp 60 ∧
          (⟨SecretKey.zeros, some "b", Wire.inSessionA.render Crates.standard⟩ ∈
              Fleet.afterSessionA.account ∨
            Spliced Crates.standard Fleet.afterSessionA.account SecretKey.zeros (some "b") w ∨
            Forged Crates.standard Fleet.afterSessionA.account SecretKey.zeros (some "b") w)) := by
  have h := (accepts_iff_account Crates.standard_base64Lawful Crates.standard_base64Strict
    (fun _ => SysRng.zeros) Event.sessionA SecretKey.zeros
    (Wire.inSessionA.render Crates.standard) SystemTime.epoch).1
  have hmem : ⟨SecretKey.zeros, some "a", Wire.inSessionA.render Crates.standard⟩ ∈
      Fleet.afterSessionA.account := by
    rw [Fleet.account_afterSessionA]
    exact List.mem_cons_self
  exact ⟨(h "a" 60).mpr ⟨_, parse_inSessionA, fresh_inSessionA, Or.inl hmem⟩, h "b" 60⟩

/-- Whatever holds of every request of a run that signs under a key holds of every token handed
out under it. -/
theorem Fleet.forall_handout {rng : ι → SysRng} {events : List (Event ι)} {key : SecretKey}
    {P : Option String → Prop}
    (hP : ∀ e ∈ events, ∀ session, e.request.signer = some (key, session) → P session) :
    ∀ h ∈ ((Fleet.start rng : Fleet lib ι).run events).account, h.key = key → P h.session := by
  intro h hh hkey
  obtain ⟨i, hi, hsome⟩ := List.mem_filterMap.mp hh
  obtain ⟨⟨key', session⟩, hsigner, rfl⟩ := Option.map_eq_some_iff.mp hsome
  obtain rfl : key' = key := hkey
  exact hP i.event (Fleet.event_mem_of_issued i hi) session hsigner

/-- Where nothing but CSRF tokens for session ids of one length is signed under a key, a text
is accepted for a session of that length, while it is fresh, exactly if it was handed out for
this session, or is a forgery; and where nothing but auth tokens is, an auth token is. -/
theorem accepts_iff_handed_out (hlib : lib.Base64Lawful) (hstrict : lib.Base64Strict)
    (rng : ι → SysRng) (events : List (Event ι)) (key : SecretKey) (s : String)
    (now : SystemTime) :
    let account := ((Fleet.start rng : Fleet lib ι).run events).account
    (∀ sessionId maxAgeSecs,
      (∀ e ∈ events, ∀ session, e.request.signer = some (key, session) →
        ∃ sessionId', session = some sessionId' ∧
          (Text.bytes sessionId').length = (Text.bytes sessionId).length) →
      (CsrfToken.Accepts lib s now key sessionId maxAgeSecs ↔
        ∃ w, Wire.parse lib s = some w ∧ CsrfToken.Fresh now w.timestamp maxAgeSecs ∧
          (⟨key, some sessionId, s⟩ ∈ account ∨ Forged lib account key (some sessionId) w))) ∧
    ((∀ e ∈ events, ∀ session, e.request.signer = some (key, session) → session = none) →
      (AuthToken.Accepts lib s now key ↔
        ∃ w, Wire.parse lib s = some w ∧ AuthToken.Unexpired now w.timestamp ∧
          (⟨key, none, s⟩ ∈ account ∨ Forged lib account key none w))) := by
  intro account
  have hgen : ∀ h ∈ account, h.Genuine lib := Fleet.genuine _
  refine ⟨fun sessionId maxAgeSecs hone => ?_, fun hone => ?_⟩
  · have hno : ∀ w, ¬Spliced lib account key (some sessionId) w := fun w => by
      refine not_spliced fun h hh hkey => ?_
      obtain ⟨sessionId', hsession, hlen⟩ := Fleet.forall_handout hone h hh hkey
      rw [hsession]
      exact ⟨rfl, hlen⟩
    rw [CsrfToken.accepts_iff]
    exact Wire.accepted_iff_handed_out hlib hstrict hgen hno
  · have hno : ∀ w, ¬Spliced lib account key none w := fun w => by
      refine not_spliced fun h hh hkey => ?_
      rw [Fleet.forall_handout hone h hh hkey]
      exact ⟨rfl, rfl⟩
    rw [AuthToken.accepts_iff]
    exact Wire.accepted_iff_handed_out hlib hstrict hgen hno

theorem accepts_iff_handed_out_standard :
    CsrfToken.Accepts Crates.standard (Wire.inSessionA.render Crates.standard)
        SystemTime.epoch SecretKey.zeros "a" 60 ∧
      (CsrfToken.Accepts Crates.standard (Wire.inSessionA.render Crates.standard)
          SystemTime.epoch SecretKey.zeros "b" 60 ↔
        ∃ w, Wire.parse Crates.standard (Wire.inSessionA.render Crates.standard) = some w ∧
          CsrfToken.Fresh SystemTime.epoch w.timestamp 60 ∧
          (⟨SecretKey.zeros, some "b", Wire.inSessionA.render Crates.standard⟩ ∈
              Fleet.afterSessionA.account ∨
            Forged Crates.standard Fleet.afterSessionA.account SecretKey.zeros (some "b") w)) := by
  have h := (accepts_iff_handed_out Crates.standard_base64Lawful Crates.standard_base64Strict
    (fun _ => SysRng.zeros) Event.sessionA SecretKey.zeros
    (Wire.inSessionA.render Crates.standard) SystemTime.epoch).1
  have hlength : ∀ sessionId, (Text.bytes "a").length = (Text.bytes sessionId).length →
      ∀ e ∈ Event.sessionA, ∀ session, e.request.signer = some (SecretKey.zeros, session) →
        ∃ sessionId', session = some sessionId' ∧
          (Text.bytes sessionId').length = (Text.bytes sessionId).length := by
    intro sessionId hlen e he session hsigner
    rw [Event.sessionA, List.mem_singleton] at he
    subst he
    cases hsigner
    exact ⟨"a", rfl, hlen⟩
  have hmem : ⟨SecretKey.zeros, some "a", Wire.inSessionA.render Crates.standard⟩ ∈
      Fleet.afterSessionA.account := by
    rw [Fleet.account_afterSessionA]
    exact List.mem_cons_self
  exact ⟨(h "a" 60 (hlength "a" rfl)).mpr ⟨_, parse_inSessionA, fresh_inSessionA, Or.inl hmem⟩,
    h "b" 60 (hlength "b" rfl)⟩

end TokenGen
