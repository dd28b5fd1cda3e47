import Acquisition.Text.AsciiCase
import Acquisition.Text.Lowercase

/-!
# Two ways to disregard case

Texts are compared up to the case of ASCII letters, and keys are made from the full lower case.  The
keys tell fewer texts apart: `É` and `é` share their lower case, as do `k` and the sign for kelvin.

## Main results

* `lowercase_eq_of_equalIgnoringCase`: what is equal up to the case of ASCII letters has one lower
  case.
* `lowercase_append_eq_iff`: of texts with a common beginning, what is behind it decides.
* `lowercase_eq_iff`: for a word of ASCII without `i` and `k` the two ways come to the same.
-/

namespace Acquisition.Text

/-! ### Single characters -/

/-- Outside ASCII nothing is changed. -/
theorem toLower_of_not_ascii {c : Char} (h : 128 ≤ c.toNat) : c.toLower = c := by
  have hother : ¬ (c.val ≥ 'A'.val ∧ c.val ≤ 'Z'.val) := by
    rintro ⟨-, hle⟩
    have hlt : c.toNat ≤ 90 := UInt32.le_iff_toNat_le.mp hle
    omega
  exact dif_neg hother

/-- What does not tell the letters of ASCII from their lower case does not tell any characters from
theirs. -/
theorem apply_toLower {α : Type} {f : Char → α}
    (hascii : ∀ n < 128, f (Char.ofNat n).toLower = f (Char.ofNat n)) (c : Char) :
    f c.toLower = f c := by
  by_cases hsmall : c.toNat < 128
  · have hc := hascii c.toNat hsmall
    rwa [Char.ofNat_toNat] at hc
  · rw [toLower_of_not_ascii (Nat.le_of_not_lt hsmall)]

/-- What can be said of a character of ASCII is told from the 128 of them. -/
theorem of_ascii {p : Char → Prop} (hascii : ∀ n < 128, p (Char.ofNat n)) {c : Char}
    (hc : c.toNat < 128) : p c := by
  have h := hascii c.toNat hc
  rwa [Char.ofNat_toNat] at h

/-- Letters and digits in the sense of ASCII are characters of ASCII. -/
theorem toNat_lt_of_isAlphanum {c : Char} (h : c.isAlphanum = true) : c.toNat < 128 := by
  -- the last of them is the `z`
  have hlast : c.toNat ≤ 122 := by
    rcases (Bool.or_eq_true _ _).mp h with halpha | hdigit
    · rcases (Bool.or_eq_true _ _).mp halpha with hupper | hlower
      · have hle : c.toNat ≤ 90 := UInt32.le_iff_toNat_le.mp (of_decide_eq_true hupper).2
        omega
      · exact UInt32.le_iff_toNat_le.mp (of_decide_eq_true ((Bool.and_eq_true _ _).mp hlower).2)
    · have hle : c.toNat ≤ 57 :=
        UInt32.le_iff_toNat_le.mp (of_decide_eq_true ((Bool.and_eq_true _ _).mp hdigit).2)
      omega
  omega

/-- A letter in lower case comes from a letter. -/
theorem isAlpha_of_isLower_toLower {c : Char} (h : c.toLower.isLower = true) :
    c.isAlpha = true := by
  have hsmall : c.toNat < 128 := by
    refine Nat.lt_of_not_le fun hlarge => ?_
    rw [toLower_of_not_ascii hlarge] at h
    have halpha : c.isAlpha = true := (Bool.or_eq_true _ _).mpr (Or.inr h)
    have hlt : c.toNat < 128 := toNat_lt_of_isAlphanum ((Bool.or_eq_true _ _).mpr (Or.inl halpha))
    omega
  exact of_ascii (p := fun c => c.toLower.isLower = true → c.isAlpha = true) (by decide) hsmall h

theorem isCased_toLower (c : Char) : isCased c.toLower = isCased c :=
  apply_toLower (by decide) c

theorem isCaseIgnorable_toLower (c : Char) : isCaseIgnorable c.toLower = isCaseIgnorable c :=
  apply_toLower (by decide) c

theorem lowerChar_toLower (c : Char) : lowerChar c.toLower = lowerChar c :=
  apply_toLower (by decide) c

theorem toLower_beq (d c : Char) (hd : ∀ n < 128, ((Char.ofNat n).toLower == d) = (Char.ofNat n == d)) :
    (c.toLower == d) = (c == d) :=
  apply_toLower (f := (· == d)) hd c

/-! ### Texts -/

theorem meetsCased_map_toLower (cs : List Char) :
    meetsCased (cs.map Char.toLower) = meetsCased cs := by
  have hignorable : (fun c => !isCaseIgnorable c) ∘ Char.toLower = fun c => !isCaseIgnorable c := by
    funext c
    rw [Function.comp_apply, isCaseIgnorable_toLower]
  rw [meetsCased, List.find?_map, hignorable, meetsCased]
  cases cs.find? fun c => !isCaseIgnorable c with
  | none => rfl
  | some c => exact isCased_toLower c

/-- The lower case of a text does not depend on the case of its ASCII letters. -/
theorem lowerFrom_map_toLower : ∀ cs before : List Char,
    lowerFrom (before.map Char.toLower) (cs.map Char.toLower) = lowerFrom before cs := by
  intro cs
  induction cs with
  | nil => exact fun _ => rfl
  | cons c cs ih =>
    intro before
    have hrest := ih (c :: before)
    rw [List.map_cons] at hrest
    rw [List.map_cons, lowerFrom, lowerFrom, hrest, meetsCased_map_toLower,
      meetsCased_map_toLower, lowerChar_toLower, toLower_beq 'Σ' c (by decide),
      toLower_beq 'İ' c (by decide)]

/-- **What is equal up to the case of ASCII letters has one lower case.** -/
theorem lowercase_eq_of_equalIgnoringCase {s t : String} (h : equalIgnoringCase s t = true) :
    lowercase s = lowercase t := by
  rw [equalIgnoringCase_iff] at h
  have hs := lowerFrom_map_toLower s.toList []
  have ht := lowerFrom_map_toLower t.toList []
  rw [lowercase, lowercase, ← hs, ← ht, h]

/-! ### Texts with a common beginning -/

/-- Behind a character that is not looked through, what stands in a text does not count. -/
theorem meetsCased_append {y : Char} (hy : isCaseIgnorable y = false) (front rest : List Char) :
    meetsCased (front ++ y :: rest) = meetsCased (front ++ [y]) := by
  have hfound : ∀ rest : List Char, (front ++ y :: rest).find? (fun c => !isCaseIgnorable c) =
      (front.find? fun c => !isCaseIgnorable c).or (some y) := by
    intro rest
    simp [List.find?_append, hy]
  rw [meetsCased, meetsCased, hfound, hfound]

/-- What stands behind such a character does not change the lower case of what stands before. -/
theorem exists_lowerFrom_append {y : Char} (hy : isCaseIgnorable y = false)
    (front before : List Char) : ∃ lower, ∀ rest, lowerFrom before (front ++ y :: rest) =
      lower ++ lowerFrom (front.reverse ++ before) (y :: rest) := by
  induction front generalizing before with
  | nil => exact ⟨[], fun _ => rfl⟩
  | cons c front ih =>
    obtain ⟨lower, hlower⟩ := ih (c :: before)
    have hrest : ∀ rest, lowerFrom (c :: before) (front ++ y :: rest) =
        lower ++ lowerFrom ((c :: front).reverse ++ before) (y :: rest) := by
      intro rest
      rw [hlower, List.reverse_cons, List.append_assoc, List.singleton_append]
    by_cases hsigma : (c == 'Σ') = true
    · refine ⟨(if meetsCased before && !meetsCased (front ++ [y]) then 'ς' else 'σ') :: lower,
        fun rest => ?_⟩
      rw [List.cons_append, lowerFrom, if_pos hsigma, meetsCased_append hy, hrest]
      rfl
    · by_cases hdotted : (c == 'İ') = true
      · refine ⟨'i' :: '\u0307' :: lower, fun rest => ?_⟩
        rw [List.cons_append, lowerFrom, if_neg hsigma, if_pos hdotted, hrest]
        rfl
      · refine ⟨lowerChar c :: lower, fun rest => ?_⟩
        rw [List.cons_append, lowerFrom, if_neg hsigma, if_neg hdotted, hrest]
        rfl

/-- Characters of ASCII are mapped one by one. -/
theorem lowerFrom_ascii {text : List Char} (h : ∀ c ∈ text, c.toNat < 128) (before : List Char) :
    lowerFrom before text = text.map Char.toLower := by
  induction text generalizing before with
  | nil => rfl
  | cons c text ih =>
    obtain ⟨hc, htext⟩ := List.forall_mem_cons.mp h
    have hsigma : (c == 'Σ') = false :=
      of_ascii (p := fun c => (c == 'Σ') = false) (by decide) hc
    have hdotted : (c == 'İ') = false :=
      of_ascii (p := fun c => (c == 'İ') = false) (by decide) hc
    have hlower : lowerChar c = c.toLower :=
      of_ascii (p := fun c => lowerChar c = c.toLower) (by decide) hc
    rw [lowerFrom, hsigma, hdotted, hlower, ih htext]
    rfl

/-- Texts that go on behind a common beginning in ASCII have one lower case if what they go on with
has one. -/
theorem lowercase_append_eq_iff {front token a b : List Char} (hne : token ≠ [])
    (htoken : ∀ c ∈ token, c.isAlphanum = true) (ha : ∀ c ∈ a, c.toNat < 128)
    (hb : ∀ c ∈ b, c.toNat < 128) :
    lowercase (String.ofList (front ++ (token ++ a))) =
        lowercase (String.ofList (front ++ (token ++ b))) ↔
      a.map Char.toLower = b.map Char.toLower := by
  cases token with
  | nil => exact absurd rfl hne
  | cons y token =>
    have hy : isCaseIgnorable y = false := by
      have hsmall := toNat_lt_of_isAlphanum (htoken y List.mem_cons_self)
      exact of_ascii (p := fun c => c.isAlphanum = true → isCaseIgnorable c = false) (by decide)
        hsmall (htoken y List.mem_cons_self)
    have hascii : ∀ c ∈ y :: token, c.toNat < 128 :=
      fun c hc => toNat_lt_of_isAlphanum (htoken c hc)
    obtain ⟨lower, hlower⟩ := exists_lowerFrom_append hy front []
    have hmap : ∀ {d : List Char}, (∀ c ∈ d, c.toNat < 128) →
        lowercase (String.ofList (front ++ (y :: token ++ d))) =
          String.ofList (lower ++ ((y :: token).map Char.toLower ++ d.map Char.toLower)) := by
      intro d hd
      rw [lowercase, String.toList_ofList, List.cons_append, hlower, ← List.cons_append,
        lowerFrom_ascii (List.forall_mem_append.mpr ⟨hascii, hd⟩), List.map_append]
    rw [hmap ha, hmap hb, String.ofList_inj]
    simp

/-! ### Words in ASCII -/

/-- No character outside ASCII has its lower case in ASCII, but for the sign for kelvin. -/
theorem lowerMappings_outside : ∀ entry ∈ lowerMappings.toList,
    entry.1 = 0x212A ∧ entry.2.1 = 0x212A ∨ 128 ≤ (entry.1 : Int) + entry.2.2.2 := by
  decide +kernel

/-- A number gives the character with it, or the one with the number zero. -/
theorem toNat_ofNat_cases (n : Nat) : (Char.ofNat n).toNat = n ∨ (Char.ofNat n).toNat = 0 := by
  by_cases hvalid : n.isValidChar
  · have hchar : Char.ofNat n = Char.ofNatAux n hvalid := dif_pos hvalid
    exact Or.inl (congrArg Char.toNat hchar)
  · have hchar : Char.ofNat n = Char.ofNat 0 := (dif_neg hvalid).trans rfl
    exact Or.inr (congrArg Char.toNat hchar)

/-- A letter or digit of ASCII is the lower case of characters of ASCII only, and of the sign for
kelvin. -/
theorem toNat_lt_of_lowerChar {c : Char} (h : (lowerChar c).isAlphanum = true)
    (hkelvin : c ≠ '\u212A') : c.toNat < 128 := by
  refine Nat.lt_of_not_le fun hlarge => ?_
  have hother : ¬ c.val < 128 :=
    fun hlt => Nat.not_lt.mpr hlarge (UInt32.lt_iff_toNat_lt.mp hlt)
  have hsmall := toNat_lt_of_isAlphanum h
  have hpos : (lowerChar c).toNat ≠ 0 := by
    intro hzero
    have hnul : lowerChar c = Char.ofNat 0 := by rw [← Char.ofNat_toNat (lowerChar c), hzero]
    rw [hnul] at h
    exact absurd h (by decide)
  rw [lowerChar, if_neg hother] at hsmall hpos
  split at hsmall
  next first last step offset hfind =>
    rw [hfind] at hpos
    have hmem : (first, last, step, offset) ∈ lowerMappings.toList :=
      Array.mem_toList_iff.mpr (Array.mem_of_find?_eq_some hfind)
    have hrange := Array.find?_some hfind
    simp only [Bool.and_eq_true, decide_eq_true_eq] at hrange
    rcases lowerMappings_outside _ hmem with ⟨hfirst, hlast⟩ | hoffset
    · have hsign : c.toNat = 0x212A := by
        simp only at hfirst hlast
        omega
      exact hkelvin (by rw [← Char.ofNat_toNat c, hsign])
    · simp only at hoffset
      have hcases := toNat_ofNat_cases ((c.toNat : Int) + offset).toNat
      dsimp only at hsmall hpos
      omega
  next => exact Nat.not_lt.mpr hlarge hsmall

/-- A word of letters in lower case without `i` and `k` is the lower case of its spellings in ASCII
only. -/
theorem map_toLower_of_lowerFrom {word : List Char}
    (hword : ∀ c ∈ word, c.isAlphanum = true ∧ c ≠ 'i' ∧ c ≠ 'k') {cs before : List Char}
    (h : lowerFrom before cs = word) : cs.map Char.toLower = word := by
  induction cs generalizing before word with
  | nil => exact h
  | cons c cs ih =>
    rw [lowerFrom] at h
    split at h
    · -- a sigma is in no such word
      subst h
      have hsigma := (List.forall_mem_cons.mp hword).1.1
      split at hsigma <;> exact absurd hsigma (by decide)
    · split at h
      · subst h
        exact absurd rfl (List.forall_mem_cons.mp hword).1.2.1
      · subst h
        obtain ⟨⟨halphanum, -, hk⟩, hrest⟩ := List.forall_mem_cons.mp hword
        have hkelvin : c ≠ '\u212A' := by
          rintro rfl
          exact hk (by decide +kernel)
        have hlower : lowerChar c = c.toLower :=
          of_ascii (p := fun c => lowerChar c = c.toLower) (by decide)
            (toNat_lt_of_lowerChar halphanum hkelvin)
        rw [List.map_cons, hlower, ih hrest rfl]

/-- **For such a word the two ways come to the same.** -/
theorem lowercase_eq_iff {word s : String}
    (hword : ∀ c ∈ word.toList, c.isAlphanum = true ∧ c ≠ 'i' ∧ c ≠ 'k')
    (hlower : word.toList.map Char.toLower = word.toList) :
    lowercase s = word ↔ equalIgnoringCase s word = true := by
  rw [equalIgnoringCase_iff, hlower]
  constructor
  · rintro rfl
    rw [lowercase, String.toList_ofList] at hword ⊢
    exact map_toLower_of_lowerFrom hword rfl
  · intro h
    have hsame := lowerFrom_map_toLower s.toList []
    rw [h, List.map_nil, lowerFrom_ascii fun c hc => toNat_lt_of_isAlphanum (hword c hc).1,
      hlower] at hsame
    rw [lowercase, ← hsame, String.ofList_toList]

end Acquisition.Text
