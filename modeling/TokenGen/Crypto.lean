import TokenGen.Crates
import TokenGen.Error
import TokenGen.Lib.Outcome
import Mathlib.Data.Stream.Init

/-!
# Random bytes and constant-time comparison (`src/crypto.rs`)

A random source is a state that `fillBytes` reads and advances (`TokenRng`). The operating
system's source is the stream of its answers, one for each request and each a failure or as
many bytes as asked for (`SysRng`), so a result about every `SysRng` is about every
sequence of random outcomes. The buffer for the bytes is allocated first, and a length no
buffer can have ends in a panic (`zeroedVec`); that memory can run out before is not modelled.
`generateBytes_run` is what `generateBytes` does, in full.
-/

namespace TokenGen

/-- Minimum entropy in bytes (128 bits). -/
def minEntropyBytes : ℕ := 16

/-- Trait for random number generation : fill the destination buffer, or fail. -/
class TokenRng (R : Type) where
  fillBytes {n : ℕ} (dest : Vector UInt8 n) : EStateM TokenError R (Vector UInt8 n)

/-- The operating system's random source (`rand::rngs::SysRng`) : its answers to the
requests still to come. -/
structure SysRng where
  answers : Stream' ((n : ℕ) → Except String (Vector UInt8 n))

namespace SysRng

/-- The answer to a request for `n` bytes. -/
def answer (os : SysRng) (n : ℕ) : Except String (Vector UInt8 n) :=
  os.answers.head n

/-- The source after one request. -/
def next (os : SysRng) : SysRng :=
  ⟨os.answers.tail⟩

/-- `try_fill_bytes`. -/
def tryFillBytes {n : ℕ} (_dest : Vector UInt8 n) : EStateM String SysRng (Vector UInt8 n) :=
  fun os =>
    match os.answer n with
    | .ok bytes => .ok bytes os.next
    | .error e => .error e os.next

end SysRng

/-- System random number generator using `SysRng`. -/
structure SystemRng where
  inner : SysRng

/-- `SystemRng::new` : a handle on the operating system's source. -/
def SystemRng.new (os : SysRng) : SystemRng :=
  ⟨os⟩

instance : TokenRng SystemRng where
  fillBytes dest := fun rng =>
    match (SysRng.tryFillBytes dest).run rng.inner with
    | .ok bytes inner => .ok bytes ⟨inner⟩
    | .error e inner => .error (.cryptoError e) ⟨inner⟩

/-- `isize::MAX`, the most bytes a buffer can have. -/
def isizeMax : ℕ := 0x7fffffffffffffff

/-- `vec![0u8; length]`, a panic (`capacity overflow`) for more bytes than a buffer can have. -/
def zeroedVec {ε σ : Type} (length : ℕ) : EStateM (Abort ε) σ (Vector UInt8 length) :=
  if isizeMax < length then throw .panic else return Vector.replicate length 0

/-- Generate random bytes using a custom RNG. -/
def generateBytesWithRng {R : Type} [TokenRng R] (length : ℕ) :
    EStateM (Abort TokenError) R Bytes := do
  if length < minEntropyBytes then
    throw (.error (.insufficientEntropy length minEntropyBytes))
  let bytes ← zeroedVec length
  let bytes ← (TokenRng.fillBytes bytes).adaptExcept .error
  return bytes.toList

/-- Generate random bytes using the system RNG. -/
def generateBytes (length : ℕ) : EStateM (Abort TokenError) SysRng Bytes := fun os =>
  match (generateBytesWithRng length).run (SystemRng.new os) with
  | .ok bytes rng => .ok bytes rng.inner
  | .error e rng => .error e rng.inner

/-- Compare two byte slices in constant time. -/
def constantTimeCompare (lib : Crates) (a b : Bytes) : Bool :=
  lib.ctEq a b

@[simp] theorem constantTimeCompare_eq_true_iff {lib : Crates} {a b : Bytes} :
    constantTimeCompare lib a b = true ↔ a = b :=
  lib.ctEq_iff

/-- A length random bytes can be generated of. -/
structure Drawable (length : ℕ) : Prop where
  floor : minEntropyBytes ≤ length
  fits : length ≤ isizeMax

theorem drawable_sixteen : Drawable 16 :=
  ⟨by decide, by decide⟩

/-- `generateBytesWithRng` rejects a short length, and panics on one no buffer has, before it
asks for anything. -/
theorem generateBytesWithRng_run {R : Type} [TokenRng R] (length : ℕ) (rng : R) :
    (generateBytesWithRng length).run rng =
      if length < minEntropyBytes then
        .error (.error (.insufficientEntropy length minEntropyBytes)) rng
      else if isizeMax < length then .error .panic rng
      else match (TokenRng.fillBytes (Vector.replicate length 0)).run rng with
        | .ok bytes rng' => .ok bytes.toList rng'
        | .error e rng' => .error (.error e) rng' := by
  unfold generateBytesWithRng zeroedVec
  by_cases hfloor : length < minEntropyBytes
  · rw [if_pos hfloor, if_pos hfloor]
    rfl
  by_cases hfits : isizeMax < length
  · rw [if_neg hfloor, if_neg hfloor, if_pos hfits, if_pos hfits]
    rfl
  · rw [if_neg hfloor, if_neg hfloor, if_neg hfits, if_neg hfits]
    cases hfill : TokenRng.fillBytes (Vector.replicate length 0) rng <;>
      simp [EStateM.run, bind, EStateM.bind, EStateM.adaptExcept, pure, EStateM.pure, hfill]

/-- `generateBytes` makes one request of the operating system and passes its answer on. -/
theorem generateBytes_run (length : ℕ) (os : SysRng) :
    (generateBytes length).run os =
      if length < minEntropyBytes then
        .error (.error (.insufficientEntropy length minEntropyBytes)) os
      else if isizeMax < length then .error .panic os
      else match os.answer length with
        | .ok bytes => .ok bytes.toList os.next
        | .error e => .error (.error (.cryptoError e)) os.next := by
  show (match (generateBytesWithRng length).run (SystemRng.new os) with
    | .ok bytes rng => EStateM.Result.ok bytes rng.inner
    | .error e rng => .error e rng.inner) = _
  rw [generateBytesWithRng_run]
  split_ifs with hfloor hfits
  · rfl
  · rfl
  · cases ha : os.answer length <;>
      simp [EStateM.run, SystemRng.new, TokenRng.fillBytes, SysRng.tryFillBytes, ha]

theorem generateBytes_run_ok {length : ℕ} {os : SysRng} {bytes : Vector UInt8 length}
    (hlen : Drawable length) (hos : os.answer length = .ok bytes) :
    (generateBytes length).run os = .ok bytes.toList os.next := by
  rw [generateBytes_run, if_neg (Nat.not_lt.mpr hlen.floor), if_neg (Nat.not_lt.mpr hlen.fits),
    hos]

theorem minEntropyBytes_le_isizeMax : minEntropyBytes ≤ isizeMax := by
  decide

/-- No buffer has more than `isize::MAX` bytes. -/
theorem generateBytes_run_panic {length : ℕ} (hlen : isizeMax < length) (os : SysRng) :
    (generateBytes length).run os = .error .panic os := by
  have hfloor := minEntropyBytes_le_isizeMax
  rw [generateBytes_run, if_neg (by omega), if_pos hlen]

theorem generateBytesWithRng_panicsOnly {R : Type} [TokenRng R] (length : ℕ) :
    PanicsOnly (isizeMax < length) (generateBytesWithRng (R := R) length) := by
  intro rng rng' h
  rw [generateBytesWithRng_run] at h
  split_ifs at h with hfloor hfits
  · simp at h
  · exact hfits
  · split at h <;> simp at h

theorem generateBytes_panicsOnly (length : ℕ) :
    PanicsOnly (isizeMax < length) (generateBytes length) := by
  intro os os' h
  rw [generateBytes_run] at h
  split_ifs at h with hfloor hfits
  · simp at h
  · exact hfits
  · split at h <;> simp at h

theorem generateBytes_run_eq_ok_iff {length : ℕ} {os os' : SysRng} {bs : Bytes} :
    (generateBytes length).run os = .ok bs os' ↔
      Drawable length ∧ ∃ bytes, os.answer length = .ok bytes ∧ bs = bytes.toList ∧
        os' = os.next := by
  rw [generateBytes_run]
  split_ifs with hfloor hfits
  · simp only [false_iff]
    exact fun ⟨hlen, _⟩ => Nat.not_lt.mpr hlen.floor hfloor
  · simp only [false_iff]
    exact fun ⟨hlen, _⟩ => Nat.not_lt.mpr hlen.fits hfits
  · have hlen : Drawable length := ⟨Nat.not_lt.mp hfloor, Nat.not_lt.mp hfits⟩
    cases os.answer length with
    | error e => simp
    | ok bytes =>
      simp only [EStateM.Result.ok.injEq, Except.ok.injEq, exists_eq_left', hlen, true_and]
      exact ⟨fun ⟨h, h'⟩ => ⟨h.symm, h'.symm⟩, fun ⟨h, h'⟩ => ⟨h.symm, h'.symm⟩⟩

end TokenGen
