import TokenGen.Cli
import TokenGen.Standard

/-!
# Inspecting an expiry

`auth --check-expiry` classifies a text three times : by its dots, by what the parser takes
it for, and by what `is_expired` reads in it. The parser takes every text that is not three
Base64 parts for a simple token, and a simple token never expires, so such a text is
reported as not expired. `check_expiry_fails_closed_iff` : the inspection fails closed on a
dotted text exactly when the text is three parts with a timestamp.
-/

namespace TokenGen

variable {lib : Crates}

/-- Inspecting `s` reports it as not expired only if it is three parts with a timestamp not
before the current second, and fails if it is not three parts with a timestamp. -/
def FailsClosed (lib : Crates) (env : Option String) (args : AuthArgs) (s : String)
    (w : World) : Prop :=
  (∀ w', (runAuth lib env args).run w = .ok () w' →
    w'.stdout = w.stdout ++ expiryReport lib args.output false →
    ∃ timestamp, ThreeParts lib s timestamp ∧ AuthToken.Unexpired w.clock.head timestamp) ∧
  ((¬∃ timestamp, ThreeParts lib s timestamp) →
    ∃ e w', (runAuth lib env args).run w = .error e w')

theorem runAuth_check_of_parse_eq_none {env : Option String} {args : AuthArgs} {s : String}
    (hargs : args.checkExpiry = some s) (hdot : '.' ∈ s.toList)
    (hparse : Wire.parse lib s = none) (w : World) : (runAuth lib env args).run w =
      .ok () { w with
        clock := w.clock.tail, stdout := w.stdout ++ expiryReport lib args.output false } := by
  rw [runAuth_check_dotted hargs hdot, hparse, AuthToken.isExpired_of_simple rfl]

/-- On a text that parses, a report that it is not expired is one of its timestamp. -/
theorem unexpired_of_report (hjson : lib.JsonLawful) {env : Option String} {args : AuthArgs}
    {s : String} {p : Wire} (hargs : args.checkExpiry = some s) (hdot : '.' ∈ s.toList)
    (hparse : Wire.parse lib s = some p) {w w' : World}
    (hrun : (runAuth lib env args).run w = .ok () w')
    (hreport : w'.stdout = w.stdout ++ expiryReport lib args.output false) :
    AuthToken.Unexpired w.clock.head p.timestamp := by
  rw [runAuth_check_dotted hargs hdot, hparse, Option.isSome_some] at hrun
  cases hnow : w.clock.head with
  | beforeEpoch =>
    rw [hnow, AuthToken.isExpired_beforeEpoch (t := ⟨s, true⟩) rfl hparse] at hrun
    simp at hrun
  | sinceEpoch d =>
    rw [hnow, AuthToken.isExpired_sinceEpoch (t := ⟨s, true⟩) rfl hparse] at hrun
    simp only [EStateM.Result.ok.injEq, true_and] at hrun
    subst hrun
    have hfalse := expiryReport_injective hjson args.output
      ((String.append_right_inj _).mp hreport)
    exact ⟨d, rfl, UInt64.not_lt.mp (of_decide_eq_false hfalse)⟩

/-- A dotted text that is not three parts with a timestamp is reported, and as not
expired. -/
theorem not_failsClosed {env : Option String} {args : AuthArgs} {s : String}
    (hargs : args.checkExpiry = some s) (hdot : '.' ∈ s.toList)
    (hparts : ¬∃ timestamp, ThreeParts lib s timestamp) (w : World) :
    ¬FailsClosed lib env args s w := by
  rintro ⟨-, herror⟩
  obtain ⟨e, w', hrun⟩ := herror hparts
  have hparse := parse_eq_none_of_not_threeParts hparts
  rw [runAuth_check_of_parse_eq_none hargs hdot hparse] at hrun
  cases hrun

/-- On a dotted text, the inspection fails closed exactly when the text is three parts with a
timestamp. -/
theorem check_expiry_fails_closed_iff (hjson : lib.JsonLawful) {env : Option String}
    {args : AuthArgs} {s : String} (hargs : args.checkExpiry = some s) (hdot : '.' ∈ s.toList)
    (w : World) : FailsClosed lib env args s w ↔ ∃ timestamp, ThreeParts lib s timestamp := by
  refine ⟨fun hclosed => ?_, ?_⟩
  · by_contra hparts
    exact not_failsClosed hargs hdot hparts w hclosed
  · rintro ⟨timestamp, hparts⟩
    obtain ⟨p, hp, rfl⟩ := threeParts_iff_parse.mp hparts
    refine ⟨fun w' hrun hreport => ⟨p.timestamp, hparts, ?_⟩, fun hnone => ?_⟩
    · exact unexpired_of_report hjson hargs hdot hp hrun hreport
    · exact absurd ⟨p.timestamp, hparts⟩ hnone

/-- A world at the Unix epoch, for closed examples. -/
def World.atEpoch : World :=
  ⟨SysRng.zeros, Stream'.const (.sinceEpoch (Duration.fromSecs 0)), ""⟩

theorem check_expiry_fails_closed_standard :
    FailsClosed Crates.standard none { checkExpiry := some "a.b" } "a.b" World.atEpoch ↔
      ∃ timestamp, ThreeParts Crates.standard "a.b" timestamp :=
  check_expiry_fails_closed_iff Crates.standard_jsonLawful rfl (by decide) World.atEpoch

/-- `a.b` is two parts, and is reported as not expired. -/
theorem check_expiry_two_parts :
    ¬FailsClosed Crates.standard none { checkExpiry := some "a.b" } "a.b" World.atEpoch := by
  have hparts : ¬∃ timestamp, ThreeParts Crates.standard "a.b" timestamp := by
    rintro ⟨timestamp, p₀, p₁, p₂, ts, nonce, sig, hs, -⟩
    have hlen : "a.b".toList.count '.' + 1 = 3 := by
      rw [← Text.length_split, hs]
      rfl
    exact absurd hlen (by decide)
  exact not_failsClosed rfl (by decide) hparts World.atEpoch

end TokenGen
