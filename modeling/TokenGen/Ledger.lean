import TokenGen.Fleet
import TokenGen.Lib.Advance
import TokenGen.StoredHash

/-!
# Where the random bytes go

Every request takes the random bytes of its text from one answer of the random source of its
process, and a key hashed with scrypt takes its salt from the next one (`Request.advances`,
`Issue.parts_carry`). A `Ledger` of a run assigns to each of these parts the answer its bytes came
from.

`no_answer_used_twice` : every run has a ledger, whatever fails in between, and no answer stands
in it twice. `random_parts_distinct` : so if no two of the answers in it are equal, no two texts or
salts share their random bytes, no signed token is handed out twice, and no two scrypt hashes are
equal.
-/

namespace TokenGen

open EStateM (Advances)
open Function (update)

/-! ## The answers a request takes -/

/-- The number of salts a hash takes. -/
def HashAlgorithm.salts : HashAlgorithm → ℕ
  | .sha256 => 0
  | .scrypt => 1

/-- The number of answers a request takes from the random source. -/
def Request.draws : Request → ℕ
  | .apiKeyWithHash b => 1 + (b.hashAlgorithm.getD .sha256).salts
  | _ => 1

theorem generateBytes_advances (length : ℕ) :
    Advances id SysRng.next 1 (generateBytes length) where
  ok h := by
    obtain ⟨-, -, -, -, rfl⟩ := generateBytes_run_eq_ok_iff.mp h
    rfl
  error {os _ _} h := by
    rw [generateBytes_run] at h
    split_ifs at h
    · cases h
      exact ⟨0, by decide, rfl⟩
    · cases h
      exact ⟨0, by decide, rfl⟩
    · cases hos : os.answer length with
      | ok bytes =>
        rw [hos] at h
        cases h
      | error e =>
        rw [hos] at h
        cases h
        exact ⟨1, by decide, rfl⟩

variable {lib : Crates}

theorem AuthTokenBuilder.generate_advances (b : AuthTokenBuilder) (now : SystemTime) :
    Advances id SysRng.next 1 (b.generate lib now) := by
  refine (generateBytes_advances b.length).bind (k := 0) fun bytes => ?_
  split
  · split
    · exact .throw _ 0
    · refine (Advances.orAbort _).bind (k := 0) fun now => ?_
      split
      · exact .throw _ 0
      · exact (Advances.orAbort _).bind_pure _
  · exact .pure _

theorem CsrfTokenBuilder.generate_advances (b : CsrfTokenBuilder) (now : SystemTime) :
    Advances id SysRng.next 1 (b.generate lib now) := by
  unfold generate
  by_cases hlen : b.length < minNonceLength
  · rw [if_pos hlen]
    exact .throw _ 1
  · rw [if_neg hlen]
    split
    · split
      · refine (Advances.orAbort _).bind (k := 1) fun timestamp => ?_
        refine (generateBytes_advances b.length).bind (k := 0) fun nonce => ?_
        exact (Advances.orAbort _).bind_pure _
      · exact .throw _ 1
    · exact .throw _ 1

theorem ApiKey.generate_advances (keyType : ApiKeyType) (environment : Environment)
    (length : ℕ) : Advances id SysRng.next 1 (ApiKey.generate lib keyType environment length) :=
  (generateBytes_advances length).bind_pure _

theorem ApiKey.hash_advances (k : ApiKey) (algorithm : HashAlgorithm) :
    Advances id SysRng.next algorithm.salts (k.hash lib algorithm) := by
  cases algorithm with
  | sha256 => exact .pure _
  | scrypt =>
    refine (Advances.orPanic _).bind (k := 1) fun params => ?_
    refine (Advances.orAbort _).bind (k := 1) fun params => ?_
    refine (generateBytes_advances 16).bind (k := 0) fun salt => ?_
    split_ifs
    · exact .throw _ 0
    · exact (Advances.orPanic _).bind (k := 0) fun scrypt => (Advances.orAbort _).bind_pure _

theorem ApiKeyBuilder.generateWithHash_advances (b : ApiKeyBuilder) :
    Advances id SysRng.next (1 + (b.hashAlgorithm.getD .sha256).salts)
      (b.generateWithHash lib) := by
  rw [generateWithHash_eq]
  exact (ApiKey.generate_advances _ _ _).bind fun key => (key.hash_advances _).bind_pure _

theorem Request.advances (r : Request) (now : SystemTime) :
    Advances id SysRng.next r.draws (r.run lib now) := by
  cases r with
  | auth b => exact (b.generate_advances now).bind_pure _
  | csrf b => exact (b.generate_advances now).bind_pure _
  | apiKey b => exact (ApiKey.generate_advances _ _ _).bind_pure _
  | apiKeyWithHash b => exact b.generateWithHash_advances.bind_pure _

/-! ## What comes of an answer -/

/-- What is read has all bytes of the next answer, at least 16. -/
def CarriesAnswer (length : ℕ) (rng : SysRng) (part : Option Bytes) : Prop :=
  ∃ bytes, rng.produced length = some bytes ∧ bytes.length = length ∧ 16 ≤ bytes.length ∧
    part = some bytes

theorem KeepsEntropy.carriesAnswer {α β : Type} {length : ℕ}
    {gen : EStateM (Abort TokenError) SysRng α} {text : α → β} {randomPart : β → Option Bytes}
    (h : KeepsEntropy length (SysRng.produced length) gen text randomPart) {rng rng' : SysRng}
    {t : α} (hrun : gen.run rng = .ok t rng') :
    CarriesAnswer length rng (randomPart (text t)) := by
  obtain ⟨bytes, hproduced, hlen, hpart⟩ := h.decodes rng t rng' hrun
  refine ⟨bytes, hproduced, hlen, ?_, hpart⟩
  by_contra hshort
  have hfloor := h.floor (by omega) rng
  rw [hrun] at hfloor
  cases hfloor

/-- A scrypt hash carries its salt. -/
theorem ApiKey.hash_carriesAnswer (hhex : lib.HexLawful) {k : ApiKey} {os os' : SysRng}
    {text : String} (h : (k.hash lib .scrypt).run os = .ok text os') :
    CarriesAnswer 16 os (StoredHash.salt lib text) := by
  obtain ⟨salt, derived, hsalt, -, -, rfl⟩ := HashRecord.hash_run_scrypt_eq_ok_iff.mp h
  refine ⟨salt.toList, ?_, salt.length_toList, salt.length_toList.ge, ?_⟩
  · rw [SysRng.produced, hsalt]
    rfl
  · rw [StoredHash.salt, HashRecord.parse_render hhex]
    rfl

section Ledgers

variable {ι : Type}

/-- Bytes in what was issued that are to be random : the process they come from, how many they are
to be, and what is read of them. -/
structure RandomPart (ι : Type) where
  node : ι
  length : ℕ
  bytes : Option Bytes

/-- The part is what came of the `slot.2`-th answer of the source of process `slot.1`. -/
def RandomPart.DrawnAt (rng : ι → SysRng) (slot : ι × ℕ) (part : RandomPart ι) : Prop :=
  part.node = slot.1 ∧ CarriesAnswer part.length (SysRng.next^[slot.2] (rng slot.1)) part.bytes

/-- The salts in the hash of an issue. -/
def Issue.salts (i : Issue lib ι) : List (RandomPart ι) :=
  match i.event.request, i.reply with
  | .apiKeyWithHash b, .apiKeyWithHash g => List.replicate (b.hashAlgorithm.getD .sha256).salts
      ⟨i.event.node, 16, StoredHash.salt lib g.keyHash⟩
  | _, _ => []

/-- The random parts of an issue : that of its text, and its salts. -/
def Issue.parts (i : Issue lib ι) : List (RandomPart ι) :=
  ⟨i.event.node, i.event.request.length, i.event.request.randomPart lib i.reply.text⟩ :: i.salts

/-- The scrypt hash of an issue. -/
def Issue.scryptHash (i : Issue lib ι) : Option String :=
  match i.event.request, i.reply with
  | .apiKeyWithHash b, .apiKeyWithHash g =>
    if b.hashAlgorithm = some .scrypt then some g.keyHash else none
  | _, _ => none

theorem Issue.node_of_mem_parts (i : Issue lib ι) : ∀ part ∈ i.parts, part.node = i.event.node := by
  unfold parts salts
  split <;> simp

/-- What a request for a key and its hash returns. -/
theorem Issue.exists_generatedApiKey {i : Issue lib ι} {b : ApiKeyBuilder}
    (hrequest : i.event.request = .apiKeyWithHash b) :
    ∃ g os, i.reply = .apiKeyWithHash g ∧
      (g.key.hash lib (b.hashAlgorithm.getD .sha256)).run i.before.next = .ok g.keyHash os := by
  have hreturned := i.returned
  rw [hrequest] at hreturned
  simp only [Request.run, EStateM.run_bind_eq_ok_iff, EStateM.run_pure_eq_ok_iff] at hreturned
  obtain ⟨g, os, hrun, hreply, -⟩ := hreturned
  rw [ApiKeyBuilder.generateWithHash_eq] at hrun
  obtain ⟨os₁, hkey, hhash⟩ := GeneratedApiKey.generateHashed_run_eq_ok_iff.mp hrun
  obtain ⟨-, _, -, rfl, -⟩ := ApiKey.generate_run_eq_ok_iff.mp hkey
  exact ⟨g, os, hreply.symm, hhash⟩

/-- Each random part has an answer of its own. -/
theorem Issue.length_parts (i : Issue lib ι) : i.parts.length = i.event.request.draws := by
  unfold parts salts Request.draws
  cases hrequest : i.event.request with
  | apiKeyWithHash b =>
    obtain ⟨g, os, hreply, -⟩ := i.exists_generatedApiKey hrequest
    rw [hreply]
    simp [Nat.add_comm]
  | _ => rfl

/-- At most one salt, and it carries the answer after the first. -/
theorem Issue.salts_carry (hhex : lib.HexLawful) (i : Issue lib ι) : i.salts.length ≤ 1 ∧
    ∀ part ∈ i.salts, CarriesAnswer part.length i.before.next part.bytes := by
  unfold salts
  cases hrequest : i.event.request with
  | apiKeyWithHash b =>
    obtain ⟨g, os, hreply, hhash⟩ := i.exists_generatedApiKey hrequest
    rw [hreply]
    dsimp only
    generalize b.hashAlgorithm.getD .sha256 = algorithm at hhash ⊢
    cases algorithm with
    | sha256 => simp [HashAlgorithm.salts]
    | scrypt => simpa [HashAlgorithm.salts] using ApiKey.hash_carriesAnswer hhex hhash
  | _ => simp

/-- The random parts of an issue carry the answers from the next one of its process on. -/
theorem Issue.parts_carry (hlib : lib.Base64Lawful) (hhex : lib.HexLawful) (i : Issue lib ι)
    {k : ℕ} (hk : k < i.parts.length) :
    CarriesAnswer i.parts[k].length (SysRng.next^[k] i.before) i.parts[k].bytes := by
  obtain ⟨hone, hsalts⟩ := i.salts_carry hhex
  cases k with
  | zero => exact (i.event.request.run_keepsEntropy hlib i.event.now).carriesAnswer i.returned
  | succ k =>
    have hk' : k < i.salts.length := Nat.lt_of_succ_lt_succ hk
    obtain rfl : k = 0 := by omega
    exact hsalts _ (List.getElem_mem hk')

/-- The random part of a signed token is its nonce. -/
theorem Issue.noncePart_mem {i : Issue lib ι} {h : Handout} (hi : i.handout = some h) :
    Wire.noncePart lib h.text ∈ i.parts.map RandomPart.bytes := by
  obtain ⟨⟨key, session⟩, hsigner, rfl⟩ := Option.map_eq_some_iff.mp hi
  have hpart : i.event.request.randomPart lib i.reply.text =
      Wire.noncePart lib i.reply.text := by
    unfold Request.signer at hsigner
    split at hsigner
    · rename_i length format duration key hrequest
      rw [hrequest]
      rfl
    · rename_i length key sessionId hrequest
      rw [hrequest]
      rfl
    · cases hsigner
  rw [parts, List.map_cons, hpart]
  exact List.mem_cons_self

theorem Issue.salt_mem {i : Issue lib ι} {keyHash : String} (hi : i.scryptHash = some keyHash) :
    StoredHash.salt lib keyHash ∈ i.parts.map RandomPart.bytes := by
  unfold scryptHash at hi
  unfold parts salts
  split at hi
  · rename_i b g hrequest hreply
    split_ifs at hi with halgorithm
    obtain rfl := Option.some.inj hi
    simp [hrequest, hreply, halgorithm, HashAlgorithm.salts]
  · cases hi

/-- What is read of one part of some of the issues is among the random parts of all of them. -/
theorem sublist_parts {γ : Type} {f : Issue lib ι → Option γ} {part : γ → Option Bytes}
    (hf : ∀ {i c}, f i = some c → part c ∈ i.parts.map RandomPart.bytes)
    (issued : List (Issue lib ι)) : List.Sublist ((issued.filterMap f).map part)
      ((issued.flatMap Issue.parts).map RandomPart.bytes) := by
  induction issued with
  | nil => exact .slnil
  | cons i issued ih =>
    rw [List.flatMap_cons, List.map_append]
    cases hi : f i with
    | none =>
      rw [List.filterMap_cons_none hi]
      exact ih.trans (List.sublist_append_right _ _)
    | some c =>
      rw [List.filterMap_cons_some hi, List.map_cons, ← List.singleton_append]
      exact (List.singleton_sublist.mpr (hf hi)).append ih

/-- The answer in a slot, if that many bytes are asked for. -/
def answerAt (rng : ι → SysRng) (slot : ι × ℕ) (length : ℕ) : Option Bytes :=
  (SysRng.next^[slot.2] (rng slot.1)).produced length

/-- The answers in the slots of a ledger, each of as many bytes as its part asks for, are different
from slot to slot. -/
def AnswersDistinct (rng : ι → SysRng) (slots : List (ι × ℕ)) (parts : List (RandomPart ι)) :
    Prop :=
  ∀ a ∈ slots.zip parts, ∀ b ∈ slots.zip parts,
    answerAt rng a.1 a.2.length = answerAt rng b.1 b.2.length → a.1 = b.1

/-- A part is the answer in its slot. -/
theorem RandomPart.DrawnAt.bytes_eq {rng : ι → SysRng} {slot : ι × ℕ} {part : RandomPart ι}
    (h : part.DrawnAt rng slot) : part.bytes = answerAt rng slot part.length := by
  obtain ⟨-, bytes, hproduced, -, -, hpart⟩ := h
  rw [hpart, answerAt, hproduced]

theorem RandomPart.DrawnAt.length_pos {rng : ι → SysRng} {slot : ι × ℕ} {part : RandomPart ι}
    (h : part.DrawnAt rng slot) : 0 < part.length := by
  obtain ⟨-, bytes, -, hlen, hfloor, -⟩ := h
  omega

/-- Parts that come of different answers are different. -/
theorem nodup_parts {rng : ι → SysRng} {slots : List (ι × ℕ)} {parts : List (RandomPart ι)}
    (hnodup : slots.Nodup) (hdrawn : List.Forall₂ (RandomPart.DrawnAt rng) slots parts)
    (hdistinct : AnswersDistinct rng slots parts) : (parts.map RandomPart.bytes).Nodup := by
  obtain ⟨hlen, hzip⟩ := List.forall₂_iff_zip.mp hdrawn
  have hmem : List.Forall₂ (fun slot part => (slot, part) ∈ slots.zip parts ∧
      part.DrawnAt rng slot) slots parts :=
    List.forall₂_iff_zip.mpr ⟨hlen, fun h => ⟨h, hzip h⟩⟩
  refine hmem.nodup_map (fun {slot part slot' part'} h h' heq => ?_) hnodup
  rw [h.2.bytes_eq, h'.2.bytes_eq] at heq
  exact hdistinct _ h.1 _ h'.1 heq

/-- An account of the answers used : of how many each process has used, and of which were used for
the random parts of what it has issued. -/
structure Ledger (rng : ι → SysRng) (s : Fleet lib ι) (used : ι → ℕ) (slots : List (ι × ℕ)) :
    Prop where
  rng_eq : ∀ n, s.rng n = SysRng.next^[used n] (rng n)
  drawn : List.Forall₂ (RandomPart.DrawnAt rng) slots (s.issued.flatMap Issue.parts)
  lt_used : ∀ slot ∈ slots, slot.2 < used slot.1
  nodup : slots.Nodup

theorem Ledger.start (rng : ι → SysRng) :
    Ledger rng (Fleet.start rng : Fleet lib ι) (fun _ => 0) [] where
  rng_eq _ := rfl
  drawn := .nil
  lt_used := by simp
  nodup := .nil

variable [DecidableEq ι]

/-- Where a process has used more answers, the ledger still holds. -/
theorem Ledger.use {rng : ι → SysRng} {s : Fleet lib ι} {used : ι → ℕ} {slots : List (ι × ℕ)}
    (h : Ledger rng s used slots) (n : ι) {k : ℕ} {os : SysRng}
    (hos : os = SysRng.next^[k] (s.rng n)) :
    Ledger rng (⟨update s.rng n os, s.issued⟩ : Fleet lib ι) (update used n (used n + k))
      slots where
  rng_eq m := by
    show update s.rng n os m = _
    by_cases hm : m = n
    · subst hm
      rw [Function.update_self, Function.update_self, hos, h.rng_eq, ← Function.iterate_add_apply,
        Nat.add_comm]
    · rw [Function.update_of_ne hm, Function.update_of_ne hm, h.rng_eq]
  drawn := h.drawn
  lt_used slot hslot := by
    have := h.lt_used slot hslot
    by_cases hm : slot.1 = n
    · rw [hm, Function.update_self]
      rw [hm] at this
      omega
    · rwa [Function.update_of_ne hm]
  nodup := h.nodup

/-- The random parts of an issue take their bytes from the first answers its process has not used
yet. -/
theorem Ledger.log (hlib : lib.Base64Lawful) (hhex : lib.HexLawful) {rng : ι → SysRng}
    {s : Fleet lib ι} {used : ι → ℕ} {slots : List (ι × ℕ)} (h : Ledger rng s used slots)
    (i : Issue lib ι) (hi : i.before = s.rng i.event.node) :
    Ledger rng (⟨update s.rng i.event.node i.after, s.issued ++ [i]⟩ : Fleet lib ι)
      (update used i.event.node (used i.event.node + i.event.request.draws))
      (slots ++ (List.range i.event.request.draws).map
        fun k => (i.event.node, used i.event.node + k)) := by
  have hafter : i.after = SysRng.next^[i.event.request.draws] (s.rng i.event.node) := by
    rw [← hi]
    exact (i.event.request.advances i.event.now).ok i.returned
  have huse := h.use i.event.node hafter
  refine ⟨huse.rng_eq, ?_, ?_, ?_⟩
  · rw [List.flatMap_append, List.flatMap_singleton]
    refine List.rel_append h.drawn (List.forall₂_iff_get.mpr ⟨?_, fun k hk hk' => ?_⟩)
    · rw [List.length_map, List.length_range, i.length_parts]
    · simp only [List.get_eq_getElem, List.getElem_map, List.getElem_range]
      refine ⟨i.node_of_mem_parts _ (List.getElem_mem hk'), ?_⟩
      rw [Nat.add_comm, Function.iterate_add_apply, ← h.rng_eq, ← hi]
      exact i.parts_carry hlib hhex hk'
  · refine List.forall_mem_append.mpr ⟨huse.lt_used, List.forall_mem_map.mpr fun k hk => ?_⟩
    rw [Function.update_self]
    exact Nat.add_lt_add_left (List.mem_range.mp hk) _
  · refine h.nodup.append (List.nodup_range.map fun k k' hkk => ?_) ?_
    · exact Nat.add_left_cancel (Prod.ext_iff.mp hkk).2
    · -- What is in the ledger already are answers used before.
      intro slot hslot hmem
      obtain ⟨k, -, rfl⟩ := List.mem_map.mp hmem
      have hlt : used i.event.node + k < used i.event.node := h.lt_used _ hslot
      omega

/-- The answers the requests of a run to process `n` take, if none of them fails. -/
def answersTaken (events : List (Event ι)) (n : ι) : ℕ :=
  (events.map fun e => if e.node = n then e.request.draws else 0).sum

@[simp] theorem answersTaken_cons (e : Event ι) (events : List (Event ι)) (n : ι) :
    answersTaken (e :: events) n =
      (if e.node = n then e.request.draws else 0) + answersTaken events n := by
  rw [answersTaken, List.map_cons, List.sum_cons, answersTaken]

theorem update_used_le (used : ι → ℕ) (e : Event ι) {k : ℕ} (hk : k ≤ e.request.draws) (n : ι) :
    update used e.node (used e.node + k) n ≤
      used n + if e.node = n then e.request.draws else 0 := by
  by_cases hn : e.node = n
  · subst hn
    rw [Function.update_self, if_pos rfl]
    omega
  · rw [Function.update_of_ne (Ne.symm hn), if_neg hn]
    omega

theorem Ledger.step (hlib : lib.Base64Lawful) (hhex : lib.HexLawful) {rng : ι → SysRng}
    {s : Fleet lib ι} {used : ι → ℕ} {slots : List (ι × ℕ)} (h : Ledger rng s used slots)
    (e : Event ι) :
    ∃ used' slots', Ledger rng (s.step e) used' slots' ∧
      ∀ n, used' n ≤ used n + if e.node = n then e.request.draws else 0 := by
  rcases s.step_cases e with ⟨i, rfl, hi, hstep⟩ | ⟨err, os, herr, hstep⟩
  · rw [hstep]
    exact ⟨_, _, h.log hlib hhex i hi, update_used_le used i.event (Nat.le_refl _)⟩
  · rw [hstep]
    obtain ⟨k, hk, hos⟩ := (e.request.advances e.now).error herr
    exact ⟨_, _, h.use e.node hos, update_used_le used e hk⟩

theorem Ledger.run (hlib : lib.Base64Lawful) (hhex : lib.HexLawful) {rng : ι → SysRng}
    {s : Fleet lib ι} {used : ι → ℕ} {slots : List (ι × ℕ)} (h : Ledger rng s used slots)
    (events : List (Event ι)) :
    ∃ used' slots', Ledger rng (s.run events) used' slots' ∧
      ∀ n, used' n ≤ used n + answersTaken events n := by
  induction events generalizing s used slots with
  | nil => exact ⟨_, _, h, fun n => Nat.le_refl _⟩
  | cons e events ih =>
    obtain ⟨used₁, slots₁, h₁, hle₁⟩ := h.step hlib hhex e
    obtain ⟨used₂, slots₂, h₂, hle₂⟩ := ih h₁
    refine ⟨used₂, slots₂, h₂, fun n => (hle₂ n).trans ?_⟩
    have := hle₁ n
    rw [answersTaken_cons]
    omega

/-- Every run has a ledger. -/
theorem exists_ledger (hlib : lib.Base64Lawful) (hhex : lib.HexLawful) (rng : ι → SysRng)
    (events : List (Event ι)) :
    ∃ used slots, Ledger rng ((Fleet.start rng : Fleet lib ι).run events) used slots ∧
      ∀ n, used n ≤ answersTaken events n := by
  have hstart : Ledger rng (Fleet.start rng : Fleet lib ι) (fun _ => 0) [] := .start rng
  obtain ⟨used, slots, h, hle⟩ := hstart.run hlib hhex events
  exact ⟨used, slots, h, fun n => (hle n).trans (by omega)⟩

/-- Whatever is requested, from whichever process, and whatever fails, each random part of what is
issued, of a text or a salt, carries an answer of its process's random source, all its bytes and at
least 16, and no answer is used for two parts. Each source has moved on behind the answers used, and
no further than its requests take it. -/
theorem no_answer_used_twice (hlib : lib.Base64Lawful) (hhex : lib.HexLawful) (rng : ι → SysRng)
    (events : List (Event ι)) :
    let s := (Fleet.start rng : Fleet lib ι).run events
    ∃ (used : ι → ℕ) (slots : List (ι × ℕ)), slots.Nodup ∧
      (∀ slot ∈ slots, slot.2 < used slot.1) ∧
      (∀ n, used n ≤ answersTaken events n ∧ s.rng n = SysRng.next^[used n] (rng n)) ∧
      List.Forall₂ (RandomPart.DrawnAt rng) slots (s.issued.flatMap Issue.parts) := by
  obtain ⟨used, slots, h, hle⟩ := exists_ledger hlib hhex rng events
  exact ⟨used, slots, h.nodup, h.lt_used, fun n => ⟨hle n, h.rng_eq n⟩, h.drawn⟩

/-- The random source that repeats the byte `i` in its `i`-th answer. -/
def SysRng.counting : SysRng :=
  ⟨fun i n => .ok (Vector.replicate n (UInt8.ofNat i))⟩

theorem SysRng.answer_next_counting (i n : ℕ) :
    (SysRng.next^[i] counting).answer n = .ok (Vector.replicate n (UInt8.ofNat i)) := by
  have hnext : ∀ os : SysRng, SysRng.next^[i] os = ⟨Stream'.tail^[i] os.answers⟩ := by
    induction i with
    | zero => exact fun os => rfl
    | succ i ih => exact fun os => ih os.next
  rw [hnext, SysRng.answer, Stream'.head_iterate_tail]
  rfl

/-- A token for the session `a` and a key with its scrypt hash, in a fleet of one process. -/
def Event.tokenAndKey : List (Event Unit) :=
  [⟨(), SystemTime.epoch, .csrf ⟨16, some SecretKey.zeros, some "a"⟩⟩,
    ⟨(), SystemTime.epoch, .apiKeyWithHash (ApiKeyBuilder.default.withHashAlgorithm .scrypt)⟩]

/-- Both are issued. -/
theorem draws_tokenAndKey :
    ((Fleet.start fun _ => SysRng.counting : Fleet Crates.standard Unit).run
      Event.tokenAndKey).issued.map (fun i => i.event.request.draws) = [1, 2] := by
  have htoken := CsrfTokenBuilder.generate_run_ok Crates.standard SecretKey.zeros "a"
    (Duration.fromSecs 0) drawable_sixteen (SysRng.answer_next_counting 0 16)
  obtain ⟨k, hk⟩ := ApiKey.exists_generate_run Crates.standard .api .live
    (⟨by decide, by decide⟩ : Drawable 32) (SysRng.answer_next_counting 1 32)
  obtain ⟨text, os', htext⟩ := HashRecord.exists_hash_run Crates.standard_scryptAccepts k .scrypt
    (SysRng.answer_next_counting 2 16)
  have hkey : ((ApiKeyBuilder.default.withHashAlgorithm .scrypt).generateWithHash
      Crates.standard).run SysRng.counting.next = .ok ⟨k, text⟩ os' := by
    rw [ApiKeyBuilder.generateWithHash_eq]
    exact GeneratedApiKey.generateHashed_run_eq_ok_iff.mpr ⟨_, hk, htext⟩
  rw [Event.tokenAndKey, Fleet.run, List.foldl_cons, List.foldl_cons, List.foldl_nil,
    Fleet.step_of_run (Fleet.start _) (Request.run_csrf_ok htoken),
    Fleet.step_of_run _ (Request.run_apiKeyWithHash_ok hkey)]
  rfl

theorem no_answer_used_twice_standard :
    ∃ (used : Unit → ℕ) (slots : List (Unit × ℕ)), slots.Nodup ∧ slots.length = 3 ∧
      (∀ n, used n ≤ 3) ∧ List.Forall₂ (RandomPart.DrawnAt fun _ => SysRng.counting) slots
        (((Fleet.start fun _ => SysRng.counting : Fleet Crates.standard Unit).run
          Event.tokenAndKey).issued.flatMap Issue.parts) := by
  obtain ⟨used, slots, hnodup, -, hused, hdrawn⟩ :=
    no_answer_used_twice Crates.standard_base64Lawful Crates.standard_hexLawful
      (fun _ => SysRng.counting) Event.tokenAndKey
  refine ⟨used, slots, hnodup, ?_, fun n => (hused n).1, hdrawn⟩
  rw [hdrawn.length_eq, List.length_flatMap]
  simp only [Issue.length_parts, draws_tokenAndKey]
  rfl

/-- Every run has a ledger, and if no two of the answers in it are equal, the random parts of all
issues are different, salts included, so no signed token is handed out twice and no scrypt hash is
the same as another. -/
theorem random_parts_distinct (hlib : lib.Base64Lawful) (hhex : lib.HexLawful) (rng : ι → SysRng)
    (events : List (Event ι)) :
    let s := (Fleet.start rng : Fleet lib ι).run events
    (∃ used slots, Ledger rng s used slots ∧ ∀ n, used n ≤ answersTaken events n) ∧
    ∀ used slots, Ledger rng s used slots →
      AnswersDistinct rng slots (s.issued.flatMap Issue.parts) →
      ((s.issued.flatMap Issue.parts).map RandomPart.bytes).Nodup ∧
        (s.account.map Handout.text).Nodup ∧ (s.issued.filterMap Issue.scryptHash).Nodup := by
  refine ⟨exists_ledger hlib hhex rng events, fun used slots h hdistinct => ?_⟩
  have hparts := nodup_parts h.nodup h.drawn hdistinct
  generalize (Fleet.start rng : Fleet lib ι).run events = s at hparts ⊢
  have hnonces : ((s.account.map Handout.text).map (Wire.noncePart lib)).Nodup := by
    rw [List.map_map]
    exact hparts.sublist (sublist_parts Issue.noncePart_mem s.issued)
  have hsalts : ((s.issued.filterMap Issue.scryptHash).map (StoredHash.salt lib)).Nodup :=
    hparts.sublist (sublist_parts Issue.salt_mem s.issued)
  exact ⟨hparts, hnonces.of_map, hsalts.of_map⟩

/-- The first 256 answers of the source that repeats the byte `i` in its `i`-th answer are
different. -/
theorem distinct_counting {slots : List (Unit × ℕ)} {parts : List (RandomPart Unit)}
    (hlt : ∀ slot ∈ slots, slot.2 < 256) (hpos : ∀ part ∈ parts, 0 < part.length) :
    AnswersDistinct (fun _ => SysRng.counting) slots parts := by
  intro a ha b hb heq
  simp only [answerAt, SysRng.produced, SysRng.answer_next_counting, Except.toOption,
    Option.map_some, Vector.toList_replicate, Option.some.injEq] at heq
  have hbyte : UInt8.ofNat a.1.2 = UInt8.ofNat b.1.2 :=
    (List.replicate_inj.mp heq).2.resolve_left (hpos _ (List.of_mem_zip ha).2).ne'
  have hposition := congrArg UInt8.toNat hbyte
  rw [UInt8.toNat_ofNat_of_lt' (hlt _ (List.of_mem_zip ha).1),
    UInt8.toNat_ofNat_of_lt' (hlt _ (List.of_mem_zip hb).1)] at hposition
  exact Prod.ext rfl hposition

theorem random_parts_distinct_standard :
    ((((Fleet.start fun _ => SysRng.counting : Fleet Crates.standard Unit).run
      Event.tokenAndKey).issued.flatMap Issue.parts).map RandomPart.bytes).Nodup := by
  obtain ⟨⟨used, slots, hledger, hused⟩, hdistinct⟩ :=
    random_parts_distinct Crates.standard_base64Lawful Crates.standard_hexLawful
      (fun _ => SysRng.counting) Event.tokenAndKey
  have hlt : ∀ slot ∈ slots, slot.2 < 256 := fun slot hslot =>
    (hledger.lt_used slot hslot).trans_le ((hused _).trans (show 3 ≤ 256 by decide))
  exact (hdistinct used slots hledger (distinct_counting hlt
    (hledger.drawn.forall_mem_right fun _ _ _ hdrawn => hdrawn.length_pos))).1

end Ledgers

end TokenGen
