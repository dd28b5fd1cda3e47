import Acquisition.Proofs.Grab.Preference
import Mathlib.Tactic.SplitIfs

/-!
# Better offers and their ranks

Every attribute of an offer is taken coarsely before it is compared: counts by their decimal
logarithm, ages by bands, sizes in steps.  Each of these is monotone over its whole range, so that
an offer which is better in one attribute, and the same in all others, is not ranked below.  But it
need not be ranked at all: where nothing else tells the two apart their sizes have to be rounded, and
a size within half a step of the largest number of 64 bits breaks the comparison off.

## Main definitions

* `Standing`: the attributes that count for the rank of an offer.
* `Standing.NoWorse`: a standing that is at least as good in one attribute and the same in others.
* `GrabCandidate.NotBelow`: the second of two offers is ranked, and not below the first.
* `GrabCandidate.Overflows`: two offers that only their sizes can tell apart, and a size too large.

## Main results

* `roundedLogTen_le_iff`: **what the logarithm of a count is rounded to.**
* `usenetAgeScore_anti`: a younger release is worth no less.
* `GrabCandidate.cmp_isLE`: **no attribute counts the wrong way.**
* `GrabCandidate.cmpUpToSize_eq_iff`: when only sizes can tell two offers apart.
* `GrabCandidate.notBelow_iff`: **an offer that is no worse is ranked no lower, unless a size
  overflows.**
-/

namespace Acquisition

/-! ### Counts -/

theorem logTenFrom_le {n k : Nat} (hk : n * n < Nat.pow 10 (2 * k + 1)) (fuel : Nat) :
    ∀ {digits : Nat}, digits ≤ k → logTenFrom n digits fuel ≤ k := by
  induction fuel with
  | zero => intro digits hdigits; exact hdigits
  | succ fuel ih =>
    intro digits hdigits
    show (if n * n < Nat.pow 10 (2 * digits + 1) then digits
      else logTenFrom n (digits + 1) fuel) ≤ k
    split
    · exact hdigits
    · next hlarge =>
      have hne : digits ≠ k := by
        rintro rfl
        exact hlarge hk
      exact ih (by omega)

/-- With fuel enough, the search ends at a power that is large enough. -/
theorem lt_logTenFrom {n : Nat} (fuel : Nat) : ∀ {digits : Nat},
    n * n < Nat.pow 10 (2 * (digits + fuel) + 1) →
      n * n < Nat.pow 10 (2 * logTenFrom n digits fuel + 1) := by
  induction fuel with
  | zero => intro digits h; exact h
  | succ fuel ih =>
    intro digits h
    show n * n < Nat.pow 10 (2 * (if n * n < Nat.pow 10 (2 * digits + 1) then digits
      else logTenFrom n (digits + 1) fuel) + 1)
    split
    · assumption
    · exact ih (by rwa [Nat.add_right_comm, Nat.add_assoc])

/-- **What the logarithm of a count is rounded to**: it is at most `k` exactly if the count is below
`10 ^ (k + 1 / 2)`, and nothing counts as zero. -/
theorem roundedLogTen_le_iff {count : Option Nat} {k : Nat} :
    roundedLogTen count ≤ k ↔ count.getD 0 * count.getD 0 < Nat.pow 10 (2 * k + 1) := by
  cases count with
  | none => exact iff_of_true (Nat.zero_le k) (Nat.pow_pos (by decide))
  | some n =>
    simp only [roundedLogTen, Option.getD_some]
    constructor
    · intro h
      -- as many digits as the count itself are more than enough
      have hfuel : n * n < 10 ^ (2 * (0 + n) + 1) := by
        have hpow : n < 10 ^ n := Nat.lt_pow_self (by decide)
        calc n * n < 10 ^ n * 10 ^ n := Nat.mul_lt_mul'' hpow hpow
          _ = 10 ^ (2 * n) := by rw [← Nat.pow_add, Nat.two_mul]
          _ ≤ 10 ^ (2 * (0 + n) + 1) := Nat.pow_le_pow_right (by decide) (by omega)
      exact Nat.lt_of_lt_of_le (lt_logTenFrom n hfuel)
        (Nat.pow_le_pow_right (by decide) (by omega))
    · intro h
      exact logTenFrom_le h n (Nat.zero_le k)

/-- More is worth no less. -/
theorem roundedLogTen_mono {few many : Option Nat} (h : few.getD 0 ≤ many.getD 0) :
    roundedLogTen few ≤ roundedLogTen many := by
  rw [roundedLogTen_le_iff]
  exact Nat.lt_of_le_of_lt (Nat.mul_le_mul h h) (roundedLogTen_le_iff.mp (Nat.le_refl _))

/-! ### Ages -/

/-- A younger release is worth no less. -/
theorem usenetAgeScore_anti {young old : Span} (h : young ≤ old) :
    usenetAgeScore old ≤ usenetAgeScore young := by
  unfold usenetAgeScore Span.ofHours Span.ofDays
  unfold Span at *
  split_ifs <;> omega

/-! ### Sizes -/

/-- More bytes are no fewer steps. -/
theorem sizeBucket_mono {small large : UInt64} (h : small ≤ large) :
    sizeBucket small ≤ sizeBucket large := by
  rw [UInt64.le_iff_toNat_le] at h
  rw [sizeBucket_eq, sizeBucket_eq]
  exact Nat.div_le_div_right (Nat.add_le_add_right h _)

/-- The size is within half a step of the largest number of 64 bits. -/
def TooLarge (size : UInt64) : Prop :=
  UInt64.size ≤ size.toNat + 100 * 1024 * 1024

instance (size : UInt64) : Decidable (TooLarge size) :=
  inferInstanceAs (Decidable (_ ≤ _))

/-! ### Standings -/

/-- The attributes that count for the rank of an offer. -/
structure Standing where
  quality : QualityModel
  protocol : Protocol
  seeders : Option Nat
  peers : Option Nat
  published : Instant
  size : UInt64

namespace Standing

/-- The second standing is at least as good in one attribute, and the same in all others: a quality
model that the profile does not rank below, the preferred protocol in place of any, no fewer seeders
or peers, no earlier date, or no smaller size. -/
inductive NoWorse (profile : Profile) (preferred : Protocol) (a : Standing) : Standing → Prop
  | quality {model : QualityModel} (h : profile.cmp a.quality model ≠ .gt) :
    NoWorse profile preferred a { a with quality := model }
  | protocol : NoWorse profile preferred a { a with protocol := preferred }
  | seeders {count : Option Nat} (h : a.seeders.getD 0 ≤ count.getD 0) :
    NoWorse profile preferred a { a with seeders := count }
  | peers {count : Option Nat} (h : a.peers.getD 0 ≤ count.getD 0) :
    NoWorse profile preferred a { a with peers := count }
  | published {instant : Instant} (h : a.published ≤ instant) :
    NoWorse profile preferred a { a with published := instant }
  | size {size : UInt64} (h : a.size ≤ size) :
    NoWorse profile preferred a { a with size := size }

variable {profile : Profile} {preferred : Protocol} {a b : Standing}

/-- What is no worse in one attribute is no worse in any. -/
theorem NoWorse.bounds (h : NoWorse profile preferred a b) :
    profile.cmp a.quality b.quality ≠ .gt ∧
      (b.protocol = a.protocol ∨ b.protocol = preferred) ∧
        a.seeders.getD 0 ≤ b.seeders.getD 0 ∧ a.peers.getD 0 ≤ b.peers.getD 0 ∧
          a.published ≤ b.published ∧ a.size ≤ b.size := by
  have hself : profile.cmp a.quality a.quality ≠ .gt := by
    have hequal : profile.cmp a.quality a.quality = .eq := Std.ReflCmp.compare_self
    rw [hequal]
    exact nofun
  have hcount : ∀ {count : Option Nat}, count.getD 0 ≤ count.getD 0 := Nat.le_refl _
  have hdate : a.published ≤ a.published := Int.le_refl _
  have hbytes : a.size ≤ a.size := UInt64.le_refl _
  cases h with
  | quality h => exact ⟨h, Or.inl rfl, hcount, hcount, hdate, hbytes⟩
  | protocol => exact ⟨hself, Or.inr rfl, hcount, hcount, hdate, hbytes⟩
  | seeders h => exact ⟨hself, Or.inl rfl, h, hcount, hdate, hbytes⟩
  | peers h => exact ⟨hself, Or.inl rfl, hcount, h, hdate, hbytes⟩
  | published h => exact ⟨hself, Or.inl rfl, hcount, hcount, h, hbytes⟩
  | size h => exact ⟨hself, Or.inl rfl, hcount, hcount, hdate, h⟩

end Standing

namespace GrabCandidate

/-- The standing of a candidate. -/
def standing (candidate : GrabCandidate) : Standing where
  quality := candidate.quality
  protocol := candidate.release.protocol
  seeders := candidate.release.seeders
  peers := candidate.release.peers
  published := candidate.release.published
  size := candidate.release.size

/-- Two offers for one media item, which share a profile and tags, and of which the second is no
worse in one attribute and the same in all others. -/
structure NoWorse (store : ProfileStore) (first second : GrabCandidate) : Prop where
  profile : second.profile = first.profile
  tags : second.media.tags = first.media.tags
  standing : Standing.NoWorse first.profile (store.delayFor first.media.tags).preferred
    first.standing second.standing

/-- **Availability is monotone in each of its attributes**; between protocols it does not count. -/
theorem cmpAvailability_isLE (now : Instant) {left right : Release}
    (hseeders : left.seeders.getD 0 ≤ right.seeders.getD 0)
    (hpeers : left.peers.getD 0 ≤ right.peers.getD 0)
    (hpublished : left.published ≤ right.published) :
    (cmpAvailability now left right).isLE = true := by
  have hage : right.age now ≤ left.age now := by
    unfold Release.age
    unfold Instant Span at *
    omega
  rw [cmpAvailability]
  split
  · have hfirst := roundedLogTen_mono hseeders
    have hsecond := roundedLogTen_mono hpeers
    rw [Ordering.isLE_then_iff_or, Nat.compare_eq_lt, Nat.compare_eq_eq, Nat.isLE_compare]
    omega
  · rw [Nat.isLE_compare]
    exact usenetAgeScore_anti hage
  · rfl

/-- The preferred protocol scores no less than any. -/
theorem protocolScore_le {preferred : Protocol} {a b : GrabCandidate}
    (h : b.release.protocol = a.release.protocol ∨ b.release.protocol = preferred) :
    a.protocolScore preferred ≤ b.protocolScore preferred := by
  rw [protocolScore, protocolScore]
  rcases h with h | h
  · exact Nat.le_of_eq (by rw [h])
  · rw [h, beq_self_eq_true, if_pos rfl]
    split <;> omega

section

variable {store : ProfileStore} {now : Instant} {first second : GrabCandidate}

/-- **No attribute counts the wrong way**: by the exact sizes an offer that is no worse in one
attribute, and the same in all others, is not ranked below. -/
theorem cmp_isLE (h : NoWorse store first second) (now : Instant) :
    (cmp store now first second).isLE = true := by
  obtain ⟨hquality, hprotocol, hseeders, hpeers, hpublished, hsize⟩ := h.standing.bounds
  have hscore := protocolScore_le hprotocol
  have hsteps := sizeBucket_mono hsize
  rw [cmp, cmpUpToSize, Ordering.isLE_then_iff_and, Ordering.isLE_then_iff_and,
    Ordering.isLE_then_iff_and]
  exact ⟨⟨Ordering.isLE_iff_ne_gt.mpr hquality, Or.inr ⟨Nat.isLE_compare.mpr hscore,
    Or.inr (cmpAvailability_isLE now hseeders hpeers hpublished)⟩⟩,
    Or.inr (Nat.isLE_compare.mpr hsteps)⟩

/-! ### What sizes have to decide -/

/-- Nothing that is compared before the sizes tells two candidates apart: the profile ranks their
quality models the same, and they are of one protocol, which tells the same of both. -/
structure Ties (now : Instant) (first second : GrabCandidate) : Prop where
  quality : first.profile.cmp first.quality second.quality = .eq
  protocol : first.release.protocol = second.release.protocol
  seeders : first.release.protocol = .torrent →
    roundedLogTen first.release.seeders = roundedLogTen second.release.seeders
  peers : first.release.protocol = .torrent →
    roundedLogTen first.release.peers = roundedLogTen second.release.peers
  age : first.release.protocol = .usenet →
    usenetAgeScore (first.release.age now) = usenetAgeScore (second.release.age now)

/-- **When only sizes can tell two offers apart.** -/
theorem cmpUpToSize_eq_iff : cmpUpToSize store now first second = .eq ↔ Ties now first second := by
  rw [cmpUpToSize, Ordering.then_eq_eq, Ordering.then_eq_eq, Nat.compare_eq_eq]
  constructor
  · rintro ⟨hquality, hscore, havailability⟩
    have hprotocol := protocol_eq_of_protocolScore_eq hscore
    rw [cmpAvailability_of_eq hprotocol, Ordering.then_eq_eq, Nat.compare_eq_eq, Nat.compare_eq_eq,
      availability, availability, furtherAvailability, furtherAvailability, ← hprotocol]
      at havailability
    refine ⟨hquality, hprotocol, fun h => ?_, fun h => ?_, fun h => ?_⟩
    · rw [h] at havailability
      exact havailability.1
    · rw [h] at havailability
      exact havailability.2
    · rw [h] at havailability
      exact havailability.1
  · intro h
    refine ⟨h.quality, by rw [protocolScore, protocolScore, h.protocol], ?_⟩
    rw [cmpAvailability_of_eq h.protocol, Ordering.then_eq_eq, Nat.compare_eq_eq,
      Nat.compare_eq_eq, availability, availability, furtherAvailability, furtherAvailability,
      ← h.protocol]
    cases hprotocol : first.release.protocol with
    | torrent => exact ⟨h.seeders hprotocol, h.peers hprotocol⟩
    | usenet => exact ⟨h.age hprotocol, rfl⟩

theorem Ties.symm (h : Ties now second first) (hprofile : second.profile = first.profile) :
    Ties now first second where
  quality := by
    have hswap : first.profile.cmp first.quality second.quality =
        (first.profile.cmp second.quality first.quality).swap := Std.OrientedCmp.eq_swap
    rw [hswap, ← hprofile, h.quality]
    rfl
  protocol := h.protocol.symm
  seeders hprotocol := (h.seeders (h.protocol.trans hprotocol)).symm
  peers hprotocol := (h.peers (h.protocol.trans hprotocol)).symm
  age hprotocol := (h.age (h.protocol.trans hprotocol)).symm

/-- Two offers that only their sizes can tell apart, one of them of a size too large to be
rounded. -/
def Overflows (now : Instant) (first second : GrabCandidate) : Prop :=
  Ties now first second ∧ (TooLarge first.release.size ∨ TooLarge second.release.size)

theorem cmp?_eq_none_iff_overflows :
    cmp? store now first second = none ↔ Overflows now first second := by
  rw [cmp?_eq_none_iff, cmpUpToSize_eq_iff, sizeBucket?_eq_none_iff, sizeBucket?_eq_none_iff]
  rfl

/-! ### Ranks -/

/-- The second of two offers is ranked, and not below the first, whichever way round they are
compared. -/
def NotBelow (store : ProfileStore) (now : Instant) (first second : GrabCandidate) : Prop :=
  (∃ order, cmp? store now first second = some order ∧ order ≠ .gt) ∧
    ∃ order, cmp? store now second first = some order ∧ order ≠ .lt

/-- Compared the other way round, two offers for one media item are told apart the same. -/
theorem NoWorse.cmp_swap (h : NoWorse store first second) (now : Instant) :
    cmp store now second first = (cmp store now first second).swap := by
  have hforth : cmp store now first second = cmpUnder first.profile
      (store.delayFor first.media.tags).preferred now first second :=
    cmp_eq_cmpUnder rfl rfl now second
  have hback : cmp store now second first = cmpUnder first.profile
      (store.delayFor first.media.tags).preferred now second first :=
    cmp_eq_cmpUnder h.profile (by rw [h.tags]) now first
  rw [hforth, hback]
  exact Std.OrientedCmp.eq_swap

/-- **An offer that is no worse is ranked no lower, unless a size overflows.**  Of two offers for one
media item that agree in all attributes but one, the one that is no worse in that is ranked, and not
below, if and only if something but the sizes tells them apart or neither size is too large.  If not,
the program breaks off. -/
theorem notBelow_iff (h : NoWorse store first second) (now : Instant) :
    (NotBelow store now first second ↔ ¬ Overflows now first second) ∧
      (Overflows now first second →
        cmp? store now first second = none ∧ cmp? store now second first = none) := by
  have hforth : cmp? store now first second = none ↔ Overflows now first second :=
    cmp?_eq_none_iff_overflows
  have hback : cmp? store now second first = none ↔ Overflows now first second := by
    rw [cmp?_eq_none_iff_overflows, Overflows, Overflows, or_comm]
    exact and_congr_left' ⟨fun ht => ht.symm h.profile, fun ht => ht.symm h.profile.symm⟩
  refine ⟨⟨?_, fun hfits => ?_⟩, fun hover => ⟨hforth.mpr hover, hback.mpr hover⟩⟩
  · rintro ⟨⟨order, hranked, -⟩, -⟩ hover
    rw [hforth.mpr hover] at hranked
    exact absurd hranked nofun
  · have hle := Ordering.isLE_iff_ne_gt.mp (cmp_isLE h now)
    refine ⟨⟨_, cmp?_eq_some_cmp (mt hforth.mp hfits), hle⟩,
      ⟨_, cmp?_eq_some_cmp (mt hback.mp hfits), ?_⟩⟩
    rwa [h.cmp_swap now, Ne, Ordering.swap_eq_lt]

end

/-- A torrent for a media item, with its seeders and size. -/
def torrentOffer (seeders : Nat) (size : UInt64) : GrabCandidate :=
  (decidedOn 7 .torrent (some seeders) size .accepted).candidate

/-- A torrent with one more seeder, which takes it over an edge of the logarithm, is not ranked
below. -/
theorem seeded_not_below :
    NoWorse default (torrentOffer 31 300000000) (torrentOffer 32 300000000) ∧
      NotBelow default 0 (torrentOffer 31 300000000) (torrentOffer 32 300000000) := by
  have hcount : (some 31 : Option Nat).getD 0 ≤ (some 32).getD 0 := by decide
  have hbetter : NoWorse default (torrentOffer 31 300000000) (torrentOffer 32 300000000) :=
    ⟨rfl, rfl, .seeders hcount⟩
  have hsmall : ¬ TooLarge 300000000 := by decide
  exact ⟨hbetter, (notBelow_iff hbetter 0).1.mpr fun hover => hover.2.elim hsmall hsmall⟩

/-- A torrent of the largest size there is cannot be compared with one of a gigabyte that is the same
in all else. -/
theorem largest_not_ranked :
    NoWorse default (torrentOffer 9 1073741824) (torrentOffer 9 18446744073709551615) ∧
      cmp? default 0 (torrentOffer 9 1073741824) (torrentOffer 9 18446744073709551615) = none ∧
        ¬ NotBelow default 0 (torrentOffer 9 1073741824) (torrentOffer 9 18446744073709551615) := by
  have hlarger : (1073741824 : UInt64) ≤ 18446744073709551615 := by decide
  have hlargest : TooLarge 18446744073709551615 := by decide
  have hties : Ties 0 (torrentOffer 9 1073741824) (torrentOffer 9 18446744073709551615) :=
    ⟨Std.ReflCmp.compare_self, rfl, fun _ => rfl, fun _ => rfl, fun _ => rfl⟩
  have hnone : cmp? default 0 (torrentOffer 9 1073741824) (torrentOffer 9 18446744073709551615) =
      none :=
    cmp?_eq_none_iff_overflows.mpr ⟨hties, Or.inr hlargest⟩
  refine ⟨⟨rfl, rfl, .size hlarger⟩, hnone, ?_⟩
  rintro ⟨⟨order, hranked, -⟩, -⟩
  rw [hnone] at hranked
  exact absurd hranked nofun

end GrabCandidate

end Acquisition
