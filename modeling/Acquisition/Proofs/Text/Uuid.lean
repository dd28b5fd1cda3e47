import Acquisition.Text.Uuid
import Mathlib.Tactic.Ring

/-!
# Written identifiers are read back

The digits of a number are cut into five groups when it is written, and the groups are joined when
it is read.  Both directions count digits from the right, so everything follows from two facts:
the digits of a number are those of its head followed by those of its tail, and reading digits
behind a number that was read already shifts that number past them.

## Main results

* `valueOf?_digits`: digits have the value of the number that they write.
* `read?_write`: a number of 128 bits is read back as it was written.
-/

namespace Acquisition.Text.Uuid

/-! ### Digits -/

@[simp] theorem length_digits (width n : Nat) : (digits width n).length = width := by
  induction width generalizing n with
  | zero => rfl
  | succ width ih => simp [digits, ih]

/-- The digits of a number are those in front of a place followed by those behind it. -/
theorem digits_add (front back n : Nat) :
    digits (front + back) n = digits front (n / 16 ^ back) ++ digits back n := by
  induction back generalizing n with
  | zero => simp [digits]
  | succ back ih =>
    show digits (front + back) (n / 16) ++ [digit (n % 16)] = _
    rw [ih, Nat.div_div_eq_div_mul, ← Nat.pow_succ', List.append_assoc]
    rfl

/-- A digit is read as its value. -/
theorem digitValue?_digit {n : Nat} (small : n < 16) : digitValue? (digit n) = some n := by
  have each : ∀ n < 16, digitValue? (digit n) = some n := by decide
  exact each n small

/-- Reading digits behind a number shifts the number and adds what they write. -/
theorem foldlM_digits (read width n : Nat) :
    (digits width n).foldlM (fun n c => (digitValue? c).map (16 * n + ·)) read =
      some (read * 16 ^ width + n % 16 ^ width) := by
  induction width generalizing n with
  | zero => simp [digits, Nat.mod_one]
  | succ width ih =>
    have last : digitValue? (digit (n % 16)) = some (n % 16) :=
      digitValue?_digit (Nat.mod_lt n (by decide))
    -- the number that is read so far moves up one place for the last digit
    have moved : 16 * (read * 16 ^ width + n / 16 % 16 ^ width) + n % 16 =
        read * 16 ^ (width + 1) + n % 16 ^ (width + 1) := by
      rw [Nat.pow_succ', Nat.mod_mul]
      ring
    simp only [digits, List.foldlM_append, ih, List.foldlM_cons, List.foldlM_nil, last,
      Option.map_some, Option.bind_eq_bind, Option.bind_some, Option.pure_def, moved]

/-- Digits have the value of the number that they write, as far as they reach. -/
theorem valueOf?_digits (width n : Nat) : valueOf? (digits width n) = some (n % 16 ^ width) := by
  simpa [valueOf?] using foldlM_digits 0 width n

/-! ### Groups -/

/-- Groups of the right lengths are joined. -/
theorem ungroup?_groups {a b c d e : List Char} (ha : a.length = 8) (hb : b.length = 4)
    (hc : c.length = 4) (hd : d.length = 4) (he : e.length = 12) :
    ungroup? (a ++ '-' :: b ++ '-' :: c ++ '-' :: d ++ '-' :: e) =
      some (a ++ b ++ c ++ d ++ e) := by
  simp [ungroup?, List.drop_append, List.getElem?_append, List.getElem?_cons,
    List.drop_of_length_le, *]

/-- The groups of a written number hold its digits. -/
theorem ungroup?_write (n : Nat) : ungroup? (write n).toList = some (digits 32 n) := by
  have joined : digits 32 n = digits 8 (n >>> 96) ++ digits 4 (n >>> 80) ++ digits 4 (n >>> 64) ++
      digits 4 (n >>> 48) ++ digits 12 n := by
    simp only [Nat.shiftRight_eq_div_pow]
    rw [digits_add 20 12, digits_add 16 4, digits_add 12 4, digits_add 8 4]
    simp only [Nat.div_div_eq_div_mul]
    rfl
  rw [write, String.toList_ofList, joined]
  exact ungroup?_groups (by simp) (by simp) (by simp) (by simp) (by simp)

/-- A number of 128 bits is read back as it was written. -/
theorem read?_write {n : Nat} (fits : n < UInt64.size * UInt64.size) :
    read? (write n) = some n := by
  have length : (write n).toList.length = 36 := by simp [write]
  have whole : valueOf? (digits 32 n) = some n := by
    rw [valueOf?_digits, Nat.mod_eq_of_lt (show n < 16 ^ 32 from fits)]
  simp [read?, length, ungroup?_write, whole]

end Acquisition.Text.Uuid
