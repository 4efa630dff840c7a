import BondingPool.Proofs.Rendering
import BondingPool.Proofs.Spelling

/-!
# What an identity identifies

The bytes that an identity is the digest of name the two ratios of a line in lowest terms, and can be
read in one way only. So they are the same for two lines exactly if these have the same prices, and
lines with different prices have one identity only where the digest collides on their bytes.
-/

namespace BondingPool

namespace Bytes

theorem digitChar_inj : ∀ m < 16, ∀ n < 16, Nat.digitChar m = Nat.digitChar n → m = n := by decide

theorem hex_injective {a b : Bytes} (h : hex a = hex b) : a = b := by
  rw [hex, hex, String.ofList_inj] at h
  induction a generalizing b with
  | nil =>
    cases b with
    | nil => rfl
    | cons y b => nomatch h
  | cons x a ih =>
    cases b with
    | nil => nomatch h
    | cons y b =>
      obtain ⟨hhigh, hrest⟩ := List.cons.inj h
      obtain ⟨hlow, hrest⟩ := List.cons.inj hrest
      have hx := x.toNat_lt
      have hy := y.toNat_lt
      have hdiv := digitChar_inj _ (by omega) _ (by omega) hhigh
      have hmod := digitChar_inj _ (by omega) _ (by omega) hlow
      have hxy : x = y := UInt8.toNat_inj.mp (by omega)
      rw [hxy, ih hrest]

end Bytes

theorem Sha256.digest_eq_of_hexDigest {a b : Bytes} (h : hexDigest a = hexDigest b) :
    digest a = digest b := by
  have htext := congrArg String.toList h
  rw [hexDigest, hexDigest, String.toList_append, String.toList_append] at htext
  exact Bytes.hex_injective (String.toList_inj.mp (List.append_cancel_left htext))

namespace Ratio

variable {p q : Ratio}

theorem reduced_mul_gcd (q : Ratio) :
    q.reduced.1 * Nat.gcd q.num.val q.den.val = q.num.val ∧
      q.reduced.2 * Nat.gcd q.num.val q.den.val = q.den.val :=
  ⟨Nat.div_mul_cancel (Nat.gcd_dvd_left ..), Nat.div_mul_cancel (Nat.gcd_dvd_right ..)⟩

theorem same_of_reduced_eq (h : p.reduced = q.reduced) : p.Same q := by
  obtain ⟨hpn, hpd⟩ := p.reduced_mul_gcd
  obtain ⟨hqn, hqd⟩ := q.reduced_mul_gcd
  rw [h] at hpn hpd
  calc p.num.val * q.den.val
      = q.reduced.1 * Nat.gcd p.num.val p.den.val * (q.reduced.2 * Nat.gcd q.num.val q.den.val) := by
        rw [hpn, hqd]
    _ = q.reduced.1 * Nat.gcd q.num.val q.den.val * (q.reduced.2 * Nat.gcd p.num.val p.den.val) := by
        ring
    _ = q.num.val * p.den.val := by rw [hqn, hpd]

theorem reducedJson_inj (h : p.reducedJson = q.reducedJson) : p.reduced = q.reduced := by
  rw [reducedJson, reducedJson, Json.list.injEq] at h
  obtain ⟨hnum, hrest⟩ := List.cons.inj h
  obtain ⟨hden, -⟩ := List.cons.inj hrest
  exact Prod.ext (Int.ofNat.inj (Json.int.inj hnum)) (Int.ofNat.inj (Json.int.inj hden))

end Ratio

namespace PriceLine

variable {p q : PriceLine}

theorem identityJson_eq (tag slope base : Json) :
    Json.object [("curve_tag", tag), ("slope", slope), ("r0", base)] =
      .map [("curve_tag".toList, tag), ("r0".toList, base), ("slope".toList, slope)] := rfl

theorem same_of_identityBytes_eq (h : p.identityBytes = q.identityBytes) : p.Same q := by
  have htext := Bytes.utf8_injective (List.append_cancel_left h)
  have hjson := Json.render_injective rfl htext
  rw [identityJson_eq, identityJson_eq, Json.map.injEq] at hjson
  obtain ⟨-, hrest⟩ := List.cons.inj hjson
  obtain ⟨hbase, hrest⟩ := List.cons.inj hrest
  obtain ⟨hslope, -⟩ := List.cons.inj hrest
  exact ⟨Ratio.same_of_reduced_eq (Ratio.reducedJson_inj (Prod.mk.inj hslope).2),
    Ratio.same_of_reduced_eq (Ratio.reducedJson_inj (Prod.mk.inj hbase).2)⟩

theorem Same.identityBytes_eq (h : p.Same q) : p.identityBytes = q.identityBytes := by
  rw [identityBytes, identityBytes, Ratio.reducedJson, Ratio.reducedJson, Ratio.reducedJson,
    Ratio.reducedJson, h.1.reduced_eq, h.2.reduced_eq]

theorem identityBytes_eq_iff : p.identityBytes = q.identityBytes ↔ p.Same q :=
  ⟨same_of_identityBytes_eq, Same.identityBytes_eq⟩

/-- Two lines have the same bytes, and so one identity, exactly if they are one line, and lines that
are not have two unless the digest collides on their bytes. -/
theorem identity_separates (p q : PriceLine) :
    (p.identityBytes = q.identityBytes ↔ p.Same q) ∧ (p.Same q → p.identity = q.identity) ∧
      ((Sha256.digest p.identityBytes = Sha256.digest q.identityBytes →
          p.identityBytes = q.identityBytes) →
        ¬ p.Same q → p.identity ≠ q.identity) := by
  refine ⟨identityBytes_eq_iff, Same.identity_eq, fun hcollides hdiffer heq => ?_⟩
  have hdigest := Sha256.digest_eq_of_hexDigest heq
  exact hdiffer (same_of_identityBytes_eq (hcollides hdigest))

theorem identity_separates_sample :
    Genesis.sample.line.identity = Genesis.sampleReduced.line.identity ∧
      Genesis.cheapest.line.identity ≠ Genesis.shallow.line.identity := by
  obtain ⟨-, hshared, -⟩ := identity_separates Genesis.sample.line Genesis.sampleReduced.line
  obtain ⟨-, -, hseparate⟩ := identity_separates Genesis.cheapest.line Genesis.shallow.line
  have hdigest : Sha256.digest Genesis.cheapest.line.identityBytes ≠
      Sha256.digest Genesis.shallow.line.identityBytes := by
    decide +kernel
  exact ⟨hshared ⟨rfl, rfl⟩, hseparate (fun h => absurd h hdigest) (by unfold Same Ratio.Same; decide)⟩

end PriceLine

end BondingPool
