/-!
# Texts up to the case of ASCII letters

`equalIgnoringCase` identifies texts that differ only in the case of the letters `a` to `z`.
Characters outside ASCII are compared as they are.
-/

namespace Acquisition.Text

/-- The text with its ASCII letters in lower case. -/
def asciiLower (s : String) : String :=
  String.ofList (s.toList.map Char.toLower)

/-- Equality up to the case of ASCII letters. -/
def equalIgnoringCase (s t : String) : Bool :=
  s.toList.map Char.toLower == t.toList.map Char.toLower

variable {s t u : String}

theorem equalIgnoringCase_iff :
    equalIgnoringCase s t = true ↔ s.toList.map Char.toLower = t.toList.map Char.toLower :=
  beq_iff_eq

theorem equalIgnoringCase_refl (s : String) : equalIgnoringCase s s = true :=
  beq_self_eq_true _

/-- Texts that differ in case only are equal to the same texts up to case. -/
theorem equalIgnoringCase_congr_right (h : equalIgnoringCase t u = true) (s : String) :
    equalIgnoringCase s t = equalIgnoringCase s u := by
  rw [equalIgnoringCase_iff] at h
  rw [equalIgnoringCase, equalIgnoringCase, h]

end Acquisition.Text
