import Acquisition.Proofs.Text.Case
import Acquisition.Text.Decimal
import Mathlib.Data.List.Induction
import Mathlib.Data.List.TakeWhile
import Mathlib.Data.Nat.Digits.Defs

/-!
# Integers in decimal digits

An integer is written as digits with or without a sign, and may stand between blanks.  What is read
from a text is the integer that is written there, and nothing is read from any other text.

## Main definitions

* `IsNumeral`, `valueOf`: decimal digits, and the number that they stand for.
* `Writes`: a text writes an integer.

## Main results

* `trimChars_padded`, `exists_padding`: trimming takes away the outer blanks.
* `readAnyInt?_eq_some_iff`: **an integer is read exactly where it is written.**
-/

namespace Acquisition.Text

/-! ### Outer blanks -/

theorem trimLeft_padded {front core : List Char} (hfront : ∀ c ∈ front, isBlank c = true)
    (hcore : ∀ c ∈ core, isBlank c = false) : trimLeft (front ++ core) = core := by
  rw [trimLeft, List.dropWhile_append_of_pos hfront]
  cases core with
  | nil => rfl
  | cons c core => exact List.dropWhile_cons_of_neg (by simp [hcore c List.mem_cons_self])

/-- What has no blanks in it is trimmed of the blanks around it. -/
theorem trimChars_padded {front core back : List Char} (hfront : ∀ c ∈ front, isBlank c = true)
    (hback : ∀ c ∈ back, isBlank c = true) (hcore : ∀ c ∈ core, isBlank c = false) :
    trimChars (front ++ core ++ back) = core := by
  have hleft : trimLeft (front ++ core ++ back) = trimLeft (core ++ back) := by
    rw [List.append_assoc, trimLeft, List.dropWhile_append_of_pos hfront, trimLeft]
  have hback' : ∀ c ∈ back.reverse, isBlank c = true := fun c hc => hback c (List.mem_reverse.mp hc)
  have hcore' : ∀ c ∈ core.reverse, isBlank c = false := fun c hc =>
    hcore c (List.mem_reverse.mp hc)
  rw [trimChars, hleft, trimRight]
  -- blanks around nothing are all trimmed from the left, whichever side they stand on
  cases core with
  | nil =>
    have hnone : trimLeft back = [] := List.dropWhile_eq_nil_iff.mpr hback
    rw [List.nil_append, hnone]
    rfl
  | cons c core =>
    have hfirst : trimLeft (c :: core ++ back) = c :: core ++ back :=
      List.dropWhile_cons_of_neg (by simp [hcore c List.mem_cons_self])
    rw [hfirst, List.reverse_append, trimLeft_padded hback' hcore', List.reverse_reverse]

/-- What is trimmed off a text are blanks. -/
theorem exists_padding (text : List Char) : ∃ front back, text = front ++ trimChars text ++ back ∧
    (∀ c ∈ front, isBlank c = true) ∧ ∀ c ∈ back, isBlank c = true := by
  have hleft : ∀ cs : List Char, ∃ front, cs = front ++ trimLeft cs ∧ ∀ c ∈ front, isBlank c = true :=
    fun cs => ⟨cs.takeWhile isBlank, List.takeWhile_append_dropWhile.symm, fun c hc =>
      List.mem_takeWhile_imp hc⟩
  obtain ⟨front, hfront, hblank⟩ := hleft text
  obtain ⟨back, hback, hblank'⟩ := hleft (trimLeft text).reverse
  refine ⟨front, back.reverse, ?_, hblank, fun c hc => hblank' c (List.mem_reverse.mp hc)⟩
  have hright : trimLeft text = trimRight (trimLeft text) ++ back.reverse := by
    rw [trimRight, ← List.reverse_append, ← hback, List.reverse_reverse]
  rw [List.append_assoc, trimChars, ← hright]
  exact hfront

/-! ### Digits -/

/-- One digit or more. -/
def IsNumeral (digits : List Char) : Prop :=
  digits ≠ [] ∧ ∀ c ∈ digits, c.isDigit = true

/-- The number that decimal digits stand for. -/
def valueOf (digits : List Char) : Nat :=
  Nat.ofDigits 10 (digits.map fun c => c.toNat - '0'.toNat).reverse

/-- The text writes the integer in decimal digits, with or without a sign. -/
inductive Writes : List Char → Int → Prop
  | plain {digits : List Char} (h : IsNumeral digits) : Writes digits (valueOf digits)
  | plus {digits : List Char} (h : IsNumeral digits) : Writes ('+' :: digits) (valueOf digits)
  | minus {digits : List Char} (h : IsNumeral digits) : Writes ('-' :: digits) (-valueOf digits)

theorem digitsNumber_eq_valueOf (digits : List Char) : digitsNumber digits = valueOf digits := by
  induction digits using List.reverseRecOn with
  | nil => rfl
  | append_singleton digits c ih =>
    have hlast : digitsNumber (digits ++ [c]) = 10 * digitsNumber digits + (c.toNat - 48) := by
      rw [digitsNumber, List.foldl_append]
      rfl
    rw [hlast, ih, valueOf, valueOf, List.map_append, List.map_singleton, List.reverse_concat,
      Nat.ofDigits_cons]
    exact Nat.add_comm _ _

/-! ### Integers -/

/-- A digit is neither a sign nor a blank. -/
theorem ne_sign_of_isDigit {c : Char} (h : c.isDigit = true) :
    c ≠ '-' ∧ c ≠ '+' ∧ isBlank c = false := by
  have hascii : c.toNat < 128 := toNat_lt_of_isAlphanum ((Bool.or_eq_true _ _).mpr (Or.inr h))
  exact of_ascii (p := fun c => c.isDigit = true → c ≠ '-' ∧ c ≠ '+' ∧ isBlank c = false)
    (by decide) hascii h

namespace Writes

variable {text : List Char} {n : Int}

/-- An integer is written in digits and perhaps a sign. -/
theorem eq_sign_or_isDigit (h : Writes text n) {c : Char} (hc : c ∈ text) :
    c = '-' ∨ c = '+' ∨ c.isDigit = true := by
  cases h with
  | plain h => exact Or.inr (Or.inr (h.2 c hc))
  | plus h =>
    rcases List.mem_cons.mp hc with rfl | hc
    · exact Or.inr (Or.inl rfl)
    · exact Or.inr (Or.inr (h.2 c hc))
  | minus h =>
    rcases List.mem_cons.mp hc with rfl | hc
    · exact Or.inl rfl
    · exact Or.inr (Or.inr (h.2 c hc))

theorem isBlank_eq_false (h : Writes text n) : ∀ c ∈ text, isBlank c = false := by
  intro c hc
  rcases h.eq_sign_or_isDigit hc with rfl | rfl | hdigit
  · decide
  · decide
  · exact (ne_sign_of_isDigit hdigit).2.2

end Writes

/-- Behind the sign of an integer stands a numeral, which tells it. -/
theorem writes_iff {text : List Char} {n : Int} : Writes text n ↔ IsNumeral (splitSign text).2 ∧
    n = if (splitSign text).1 then -(valueOf (splitSign text).2 : Int)
      else valueOf (splitSign text).2 := by
  constructor
  · intro h
    cases h with
    | plus h => exact ⟨h, rfl⟩
    | minus h => exact ⟨h, rfl⟩
    | plain h =>
      obtain ⟨c, digits, rfl⟩ := List.exists_cons_of_ne_nil h.1
      -- a numeral begins with a digit, which is not taken for a sign
      have hsplit : splitSign (c :: digits) = (false, c :: digits) := by
        obtain ⟨hminus, hplus, -⟩ := ne_sign_of_isDigit (h.2 c List.mem_cons_self)
        rw [splitSign]
        · rintro rest ⟨rfl, -⟩
          exact hminus rfl
        · rintro rest ⟨rfl, -⟩
          exact hplus rfl
      rw [hsplit]
      exact ⟨h, rfl⟩
  · rintro ⟨hdigits, rfl⟩
    unfold splitSign at hdigits ⊢
    split at hdigits
    · exact .minus hdigits
    · exact .plus hdigits
    · exact .plain hdigits

theorem readAnyInt?_eq (text : String) : readAnyInt? text =
    if (splitSign text.toList).2.isEmpty || !(splitSign text.toList).2.all Char.isDigit then none
    else some (if (splitSign text.toList).1 then -(digitsNumber (splitSign text.toList).2 : Int)
      else digitsNumber (splitSign text.toList).2) := rfl

/-- **An integer is read exactly where it is written.** -/
theorem readAnyInt?_eq_some_iff {text : String} {n : Int} :
    readAnyInt? text = some n ↔ Writes text.toList n := by
  rw [writes_iff, readAnyInt?_eq, digitsNumber_eq_valueOf]
  have hnumeral : IsNumeral (splitSign text.toList).2 ↔ ((splitSign text.toList).2.isEmpty ||
      !(splitSign text.toList).2.all Char.isDigit) = false := by
    simp [IsNumeral]
  by_cases hdigits : IsNumeral (splitSign text.toList).2
  · rw [hnumeral.mp hdigits, if_neg Bool.false_ne_true, Option.some.injEq, and_iff_right hdigits]
    exact eq_comm
  · rw [if_pos (Bool.eq_true_of_not_eq_false (mt hnumeral.mpr hdigits))]
    exact iff_of_false nofun fun h => hdigits h.1

end Acquisition.Text
