import Acquisition.Client.Sabnzbd
import Acquisition.Proofs.Reading
import Acquisition.Proofs.Text.Decimal
import Acquisition.Proofs.Text.Split

/-!
# Times left

The time left of a download is a text that its client makes up: days, hours, minutes and seconds
between colons.  Its numbers are multiplied and summed from the right, in numbers of 64 bits, and the
sum becomes a span, which holds fewer seconds.  A product, a sum or a span that does not fit breaks
the program off; where all of them fit the text is read exactly.

## Main definitions

* `Sabnzbd.Counts`, `Sabnzbd.TellsTime`: a place stands for a number, and a text tells a number of
  seconds.
* `Sabnzbd.EndsIn`, `Sabnzbd.Overflows`: the last pieces of a text stand for numbers; the first of
  these, or all of them, come to too many seconds for 64 bits.
* `Sabnzbd.BreaksOff`: the end of a text overflows, or the time that it tells fits no span.

## Main results

* `Sabnzbd.addPlaces_eq_error_iff`, `Sabnzbd.addPlaces_eq_ok_some_iff`: **what the loop over the
  places comes to.**
* `Sabnzbd.readTimeLeft_cases`: **what is read from a text.**
* `Sabnzbd.readsExactly_iff`: a text is read exactly unless it breaks off.
-/

namespace Acquisition

namespace Sabnzbd

/-! ### Times -/

/-- The number is one of 64 bits. -/
def IsWord (n : Int) : Prop :=
  -9223372036854775808 ≤ n ∧ n ≤ 9223372036854775807

/-- The text stands for the number: an integer of 64 bits, possibly between blanks. -/
def Counts (place : String) (n : Int) : Prop :=
  IsWord n ∧ ∃ front digits back, place.toList = front ++ digits ++ back ∧
    (∀ c ∈ front, Text.isBlank c = true) ∧ (∀ c ∈ back, Text.isBlank c = true) ∧
      Text.Writes digits n

/-- The seconds in up to four numbers: days, hours, minutes and seconds. -/
def secondsIn? : List Int → Option Int
  | [seconds] => some seconds
  | [minutes, seconds] => some (minutes * 60 + seconds)
  | [hours, minutes, seconds] => some (hours * 3600 + minutes * 60 + seconds)
  | [days, hours, minutes, seconds] =>
    some (days * 86400 + hours * 3600 + minutes * 60 + seconds)
  | _ => none

/-- The text tells a time of so many seconds, whatever their number: up to four integers between
colons. -/
def TellsTime (text : String) (seconds : Int) : Prop :=
  ∃ places numbers, text = ":".intercalate places ∧ List.Forall₂ Counts places numbers ∧
    secondsIn? numbers = some seconds

/-- The text is at most four pieces between colons, of which the last ones stand for the numbers. -/
def EndsIn (text : String) (numbers : List Int) : Prop :=
  ∃ front back, text = ":".intercalate (front ++ back) ∧ (∀ piece ∈ front, ':' ∉ piece.toList) ∧
    (front ++ back).length ≤ 4 ∧ List.Forall₂ Counts back numbers

/-- The numbers of a time come to so many seconds that they are no number of 64 bits, or the first
of them alone does. -/
def Overflows : List Int → Prop
  | [] => False
  | n :: numbers => ∃ seconds, (secondsIn? (n :: numbers) = some seconds ∨
      secondsIn? (n :: numbers.map fun _ => 0) = some seconds) ∧ ¬ IsWord seconds

theorem Overflows.ne_nil {numbers : List Int} (h : Overflows numbers) : numbers ≠ [] := by
  rintro rfl
  exact h

/-- A span can hold the seconds. -/
def Held (seconds : Int) : Prop :=
  -9223372036854775 ≤ seconds ∧ seconds ≤ 9223372036854775

/-- The end of the text overflows, or no span can hold the time that it tells. -/
def BreaksOff (text : String) : Prop :=
  (∃ numbers, EndsIn text numbers ∧ Overflows numbers) ∨
    ∃ seconds, TellsTime text seconds ∧ ¬ Held seconds

/-- The text is read as the time that it tells, in nanoseconds, and as no time if it tells none. -/
def ReadsExactly (text : String) : Prop :=
  ∃ timeLeft, readTimeLeft text = .ok timeLeft ∧ ∀ span, timeLeft = some span ↔
    ∃ seconds, TellsTime text seconds ∧ span = seconds * 1000000000

/-- **What a place stands for** is what is read from it. -/
theorem counts_iff {place : String} {n : Int} :
    Counts place n ↔ Text.readInt? (Text.trim place) = some n := by
  have hmin : Int64.minValue.toInt = -9223372036854775808 := by decide
  have hmax : Int64.maxValue.toInt = 9223372036854775807 := by decide
  have hword : (decide (Int64.minValue.toInt ≤ n) && decide (n ≤ Int64.maxValue.toInt)) = true ↔
      IsWord n := by
    rw [hmin, hmax]
    simp [IsWord]
  rw [Text.readInt?, Option.filter_eq_some_iff, hword, Text.readAnyInt?_eq_some_iff, Text.trim,
    String.toList_ofList, Counts, and_comm]
  refine and_congr_left' ⟨?_, fun h => ?_⟩
  · rintro ⟨front, digits, back, hplace, hfront, hback, h⟩
    rwa [hplace, Text.trimChars_padded hfront hback h.isBlank_eq_false]
  · obtain ⟨front, back, hplace, hfront, hback⟩ := Text.exists_padding place.toList
    exact ⟨front, _, back, hplace, hfront, hback, h⟩

/-- A place stands for one number at most. -/
theorem Counts.unique {place : String} {n m : Int} (h : Counts place n) (h' : Counts place m) :
    n = m :=
  Option.some.inj ((counts_iff.mp h).symm.trans (counts_iff.mp h'))

/-- An integer has no colon. -/
theorem Counts.not_mem_colon {place : String} {n : Int} (h : Counts place n) :
    ':' ∉ place.toList := by
  obtain ⟨-, front, digits, back, hplace, hfront, hback, hwrites⟩ := h
  rw [hplace, List.mem_append, List.mem_append, not_or, not_or]
  refine ⟨⟨fun hmem => ?_, fun hmem => ?_⟩, fun hmem => ?_⟩
  · exact absurd (hfront _ hmem) (by decide)
  · rcases hwrites.eq_sign_or_isDigit hmem with h | h | h <;> exact absurd h (by decide)
  · exact absurd (hback _ hmem) (by decide)

/-- The pieces of a text between colons. -/
def placesOf (text : String) : List String :=
  (Text.pieces ':' text.toList).map String.ofList

theorem intercalate_placesOf (text : String) : ":".intercalate (placesOf text) = text := by
  refine String.toList_inj.mp ?_
  have hpieces : (placesOf text).map String.toList = text.toList.splitOn ':' := by
    simp [placesOf, Text.pieces_eq_splitOn]
  rw [String.toList_intercalate, hpieces]
  exact List.intercalate_splitOn ':'

/-- Pieces without colons are the pieces of the text that they are joined to. -/
theorem placesOf_intercalate {places : List String} (hne : places ≠ [])
    (hplain : ∀ piece ∈ places, ':' ∉ piece.toList) :
    placesOf (":".intercalate places) = places := by
  have hpieces := Text.pieces_intercalate (List.forall_mem_map.mpr hplain)
    (mt List.map_eq_nil_iff.mp hne)
  rw [placesOf, String.toList_intercalate]
  exact (congrArg _ hpieces).trans (by simp)

theorem not_mem_colon_of_forall₂ {places : List String} {numbers : List Int}
    (h : List.Forall₂ Counts places numbers) : ∀ piece ∈ places, ':' ∉ piece.toList := by
  intro piece hmem
  obtain ⟨n, hn, -⟩ := exists_mem_of_forall₂ h hmem
  exact hn.not_mem_colon

theorem not_mem_colon_placesOf (text : String) : ∀ piece ∈ placesOf text, ':' ∉ piece.toList := by
  refine List.forall_mem_map.mpr fun piece hmem => ?_
  rw [String.toList_ofList]
  exact Text.not_mem_of_mem_pieces hmem

/-- A text tells a time exactly if its pieces between colons are up to four integers. -/
theorem tellsTime_iff {text : String} {seconds : Int} : TellsTime text seconds ↔
    ∃ numbers, List.Forall₂ Counts (placesOf text) numbers ∧ secondsIn? numbers = some seconds := by
  constructor
  · rintro ⟨places, numbers, rfl, hcounts, hseconds⟩
    have hne : places ≠ [] := by
      rintro rfl
      rw [List.forall₂_nil_left_iff.mp hcounts] at hseconds
      exact absurd hseconds nofun
    rw [placesOf_intercalate hne (not_mem_colon_of_forall₂ hcounts)]
    exact ⟨numbers, hcounts, hseconds⟩
  · rintro ⟨numbers, hcounts, hseconds⟩
    exact ⟨placesOf text, numbers, (intercalate_placesOf text).symm, hcounts, hseconds⟩

/-- A text ends in numbers exactly if the last of its pieces between colons stand for them. -/
theorem endsIn_iff {text : String} {numbers : List Int} (hne : numbers ≠ []) :
    EndsIn text numbers ↔ (placesOf text).length ≤ units.length ∧
      ∃ back, back <:+ placesOf text ∧ List.Forall₂ Counts back numbers := by
  constructor
  · rintro ⟨front, back, rfl, hplain, hlength, hcounts⟩
    have hback : back ≠ [] := by
      rintro rfl
      exact hne (List.forall₂_nil_left_iff.mp hcounts)
    rw [placesOf_intercalate (List.append_ne_nil_of_right_ne_nil front hback)
      (List.forall_mem_append.mpr ⟨hplain, not_mem_colon_of_forall₂ hcounts⟩)]
    exact ⟨hlength, back, List.suffix_append front back, hcounts⟩
  · rintro ⟨hlength, back, ⟨front, hsplit⟩, hcounts⟩
    have hplain : ∀ piece ∈ front, ':' ∉ piece.toList := fun piece hmem =>
      not_mem_colon_placesOf text piece (hsplit ▸ List.mem_append_left back hmem)
    refine ⟨front, back, ?_, hplain, ?_, hcounts⟩
    · rw [hsplit, intercalate_placesOf]
    · rwa [hsplit]

/-! ### Products and sums -/

instance (n : Int) : Decidable (IsWord n) :=
  inferInstanceAs (Decidable (_ ∧ _))

theorem checked_eq (n : Int) : checked n = if IsWord n then .ok n else .error .breakdown := by
  have hmin : Int64.minValue.toInt = -9223372036854775808 := by decide
  have hmax : Int64.maxValue.toInt = 9223372036854775807 := by decide
  rw [checked, hmin, hmax]
  exact if_congr (by simp [IsWord]) rfl rfl

/-- The sum of the numbers, each times its unit. -/
def weigh : List Int → List Int → Int
  | n :: numbers, unit :: units => n * unit + weigh numbers units
  | _, _ => 0

/-- The last of the numbers, each times its unit and added to a sum, makes a product or a sum that
is no number of 64 bits. -/
def Spills : List Int → List Int → Int → Prop
  | [n], unit :: _, sum => ¬ (IsWord (n * unit) ∧ IsWord (sum + n * unit))
  | n :: numbers, unit :: units, sum => Spills numbers units (sum + n * unit)
  | _, _, _ => False

theorem spills_cons {n unit sum : Int} {numbers units : List Int} (hne : numbers ≠ []) :
    Spills (n :: numbers) (unit :: units) sum ↔ Spills numbers units (sum + n * unit) := by
  cases numbers with
  | nil => exact absurd rfl hne
  | cons => rfl

section

variable {places : List String} {units : List Int} {sum : Int}

/-- A place that stands for a number is multiplied and added, if there is room. -/
theorem addPlaces_zip_cons {place : String} {n : Int} (h : Counts place n) (unit : Int) :
    addPlaces ((place :: places).zip (unit :: units)) sum =
      if IsWord (n * unit) ∧ IsWord (sum + n * unit) then
        addPlaces (places.zip units) (sum + n * unit) else .error .breakdown := by
  rw [List.zip_cons_cons, addPlaces, counts_iff.mp h]
  simp only [checked_eq]
  by_cases hproduct : IsWord (n * unit) <;> by_cases hsum : IsWord (sum + n * unit) <;>
    simp [hproduct, hsum, bind, Except.bind]

/-- A place that stands for no number ends the loop. -/
theorem addPlaces_zip_cons_of_not {place : String} (h : ¬ ∃ n, Counts place n) (unit : Int) :
    addPlaces ((place :: places).zip (unit :: units)) sum = .ok none := by
  have hread : Text.readInt? (Text.trim place) = none :=
    Option.eq_none_iff_forall_ne_some.mpr fun n hn => h ⟨n, counts_iff.mpr hn⟩
  rw [List.zip_cons_cons, addPlaces, hread]

/-- Some number of places from the first on are read, and the last of these spills: the first place
is read, and it spills or some number of those behind it do. -/
theorem exists_spills_cons_iff {place : String} {unit : Int} :
    (∃ front numbers, front <+: place :: places ∧ List.Forall₂ Counts front numbers ∧
        Spills numbers (unit :: units) sum) ↔
      ∃ n, Counts place n ∧ (¬ (IsWord (n * unit) ∧ IsWord (sum + n * unit)) ∨
        ∃ front numbers, front <+: places ∧ List.Forall₂ Counts front numbers ∧
          Spills numbers units (sum + n * unit)) := by
  constructor
  · rintro ⟨front, numbers, hfront, hcounts, hspills⟩
    cases hcounts with
    | nil => exact absurd hspills id
    | @cons _ n front numbers hn hcounts =>
      obtain ⟨rfl, hbehind⟩ := List.cons_prefix_cons.mp hfront
      refine ⟨n, hn, ?_⟩
      by_cases hlast : numbers = []
      · subst hlast
        exact Or.inl hspills
      · exact Or.inr ⟨front, numbers, hbehind, hcounts, (spills_cons hlast).mp hspills⟩
  · rintro ⟨n, hn, hspills | ⟨front, numbers, hfront, hcounts, hspills⟩⟩
    · exact ⟨[place], [n], List.prefix_append [place] places, .cons hn .nil, hspills⟩
    · have hne : numbers ≠ [] := by
        rintro rfl
        exact hspills
      exact ⟨place :: front, n :: numbers, List.cons_prefix_cons.mpr ⟨rfl, hfront⟩,
        .cons hn hcounts, (spills_cons hne).mpr hspills⟩

/-- **When the loop over the places breaks off**: some number of places from the first on are read,
and the last of these spills. -/
theorem addPlaces_eq_error_iff {error : ClientError} :
    addPlaces (places.zip units) sum = .error error ↔ error = .breakdown ∧
      ∃ front numbers, front <+: places ∧ List.Forall₂ Counts front numbers ∧
        Spills numbers units sum := by
  induction places generalizing units sum with
  | nil =>
    refine iff_of_false nofun ?_
    rintro ⟨-, front, numbers, hfront, hcounts, hspills⟩
    rw [List.prefix_nil.mp hfront, List.forall₂_nil_left_iff] at hcounts
    rw [hcounts] at hspills
    exact hspills
  | cons place places ih =>
    cases units with
    | nil =>
      refine iff_of_false nofun ?_
      rintro ⟨-, front, numbers, -, -, hspills⟩
      rcases numbers with _ | ⟨n, _ | ⟨m, numbers⟩⟩ <;> exact hspills
    | cons unit units =>
      rw [exists_spills_cons_iff]
      -- behind a place that is read the loop goes on with a new sum, and ends behind any other
      by_cases hplace : ∃ n, Counts place n
      · obtain ⟨n, hn⟩ := hplace
        have hnumber : ∀ m, Counts place m ↔ m = n := fun m => ⟨fun hm => hm.unique hn, (· ▸ hn)⟩
        simp only [addPlaces_zip_cons hn, hnumber, exists_eq_left]
        by_cases hfits : IsWord (n * unit) ∧ IsWord (sum + n * unit)
        · rw [if_pos hfits, ih]
          simp [hfits]
        · rw [if_neg hfits]
          simp [hfits, eq_comm]
      · rw [addPlaces_zip_cons_of_not hplace]
        exact iff_of_false nofun fun ⟨_, n, hn, _⟩ => hplace ⟨n, hn⟩

/-- **What the loop over the places sums up**: if it comes to an end at all, then every place is read
and the sum is right, or there is none. -/
theorem addPlaces_eq_ok_some_iff {answer : Option Int} (hlength : places.length ≤ units.length)
    (h : addPlaces (places.zip units) sum = .ok answer) (total : Int) : answer = some total ↔
      ∃ numbers, List.Forall₂ Counts places numbers ∧ total = sum + weigh numbers units := by
  induction places generalizing units sum with
  | nil =>
    have hanswer : some sum = answer := Except.ok.inj h
    simp only [List.forall₂_nil_left_iff, exists_eq_left, weigh, Int.add_zero, ← hanswer,
      Option.some.injEq]
    exact eq_comm
  | cons place places ih =>
    cases units with
    | nil => exact absurd hlength (Nat.not_succ_le_zero _)
    | cons unit units =>
      simp only [List.forall₂_cons_left_iff]
      by_cases hplace : ∃ n, Counts place n
      · obtain ⟨n, hn⟩ := hplace
        rw [addPlaces_zip_cons hn] at h
        split at h
        · rw [ih (Nat.le_of_succ_le_succ hlength) h]
          constructor
          · rintro ⟨numbers, hcounts, rfl⟩
            exact ⟨n :: numbers, ⟨n, numbers, hn, hcounts, rfl⟩, Int.add_assoc _ _ _⟩
          · rintro ⟨_, ⟨m, numbers, hm, hcounts, rfl⟩, rfl⟩
            obtain rfl := hm.unique hn
            exact ⟨numbers, hcounts, (Int.add_assoc _ _ _).symm⟩
        · exact absurd h nofun
      · rw [addPlaces_zip_cons_of_not hplace] at h
        rw [← Except.ok.inj h]
        refine iff_of_false nofun ?_
        rintro ⟨_, ⟨n, numbers, hn, -, rfl⟩, -⟩
        exact hplace ⟨n, hn⟩

end

/-! ### The ends of a text -/

theorem secondsIn?_eq_some_iff {numbers : List Int} {seconds : Int} :
    secondsIn? numbers = some seconds ↔
      numbers ≠ [] ∧ numbers.length ≤ units.length ∧ seconds = weigh numbers.reverse units := by
  rcases numbers with _ | ⟨a, _ | ⟨b, _ | ⟨c, _ | ⟨d, _ | ⟨e, numbers⟩⟩⟩⟩⟩
  · simp [secondsIn?]
  · simp [secondsIn?, weigh, units, eq_comm]
  · simp [secondsIn?, weigh, units]
    omega
  · simp [secondsIn?, weigh, units]
    omega
  · simp [secondsIn?, weigh, units]
    omega
  · simp [secondsIn?, units]

/-- What spills from the right is a time that overflows. -/
theorem spills_reverse_iff {numbers : List Int} (hlength : numbers.length ≤ units.length) :
    Spills numbers.reverse units 0 ↔ Overflows numbers := by
  rcases numbers with _ | ⟨a, _ | ⟨b, _ | ⟨c, _ | ⟨d, _ | ⟨e, numbers⟩⟩⟩⟩⟩
  · exact Iff.rfl
  · simp [Spills, Overflows, secondsIn?, units, IsWord]
  · simp [Spills, Overflows, secondsIn?, units, IsWord]
    omega
  · simp [Spills, Overflows, secondsIn?, units, IsWord]
    omega
  · simp [Spills, Overflows, secondsIn?, units, IsWord]
    omega
  · simp only [units, List.length_cons, List.length_nil] at hlength
    omega

section

variable {text : String} (hlength : (placesOf text).length ≤ units.length)

include hlength

/-- The loop over the places of a text breaks off exactly if the end of the text overflows. -/
theorem addPlaces_placesOf_eq_error_iff {error : ClientError} :
    addPlaces ((placesOf text).reverse.zip units) 0 = .error error ↔
      error = .breakdown ∧ ∃ numbers, EndsIn text numbers ∧ Overflows numbers := by
  rw [addPlaces_eq_error_iff]
  refine and_congr_right fun _ => ⟨?_, ?_⟩
  · rintro ⟨front, numbers, hfront, hcounts, hspills⟩
    have hfew : numbers.reverse.length ≤ units.length := by
      have hpart := hfront.length_le
      rw [List.length_reverse] at hpart
      rw [List.length_reverse, ← hcounts.length_eq]
      omega
    have hoverflows : Overflows numbers.reverse := by
      rwa [← spills_reverse_iff hfew, List.reverse_reverse]
    refine ⟨numbers.reverse, (endsIn_iff hoverflows.ne_nil).mpr
      ⟨hlength, front.reverse, ?_, ?_⟩, hoverflows⟩
    · rwa [← List.reverse_prefix, List.reverse_reverse]
    · exact List.forall₂_reverse_iff.mpr hcounts
  · rintro ⟨numbers, hends, hoverflows⟩
    obtain ⟨-, back, hback, hcounts⟩ := (endsIn_iff hoverflows.ne_nil).mp hends
    have hfew : numbers.length ≤ units.length := by
      have hpart := hback.length_le
      rw [← hcounts.length_eq]
      omega
    exact ⟨back.reverse, numbers.reverse, List.reverse_prefix.mpr hback,
      List.forall₂_reverse_iff.mpr hcounts, (spills_reverse_iff hfew).mpr hoverflows⟩

/-- If the loop over the places of a text comes to an end, it sums up the time that the text
tells. -/
theorem addPlaces_placesOf_eq_ok_some_iff {answer : Option Int}
    (h : addPlaces ((placesOf text).reverse.zip units) 0 = .ok answer) (total : Int) :
    answer = some total ↔ TellsTime text total := by
  have hplaces : placesOf text ≠ [] := mt List.map_eq_nil_iff.mp (Text.pieces_ne_nil ':' text.toList)
  rw [addPlaces_eq_ok_some_iff (by rwa [List.length_reverse]) h, tellsTime_iff]
  simp only [secondsIn?_eq_some_iff, Int.zero_add]
  constructor
  · rintro ⟨numbers, hcounts, rfl⟩
    have hcounts' : List.Forall₂ Counts (placesOf text) numbers.reverse := by
      rwa [← List.forall₂_reverse_iff, List.reverse_reverse]
    refine ⟨numbers.reverse, hcounts', ?_, ?_, by rw [List.reverse_reverse]⟩
    · intro hnil
      rw [hnil, List.forall₂_nil_right_iff] at hcounts'
      exact hplaces hcounts'
    · rwa [← hcounts'.length_eq]
  · rintro ⟨numbers, hcounts, -, -, rfl⟩
    exact ⟨numbers.reverse, List.forall₂_reverse_iff.mpr hcounts, rfl⟩

end

/-! ### What is read -/

variable {text : String}

instance (seconds : Int) : Decidable (Held seconds) :=
  inferInstanceAs (Decidable (_ ∧ _))

theorem readTimeLeft_eq (text : String) : readTimeLeft text =
    if (placesOf text).length ≤ units.length then
      match addPlaces ((placesOf text).reverse.zip units) 0 with
      | .error error => .error error
      | .ok none => .ok none
      | .ok (some seconds) =>
        if Held seconds then .ok (some (Span.ofSeconds seconds)) else .error .breakdown
    else .ok none := by
  rw [readTimeLeft, ← placesOf]
  by_cases hlength : (placesOf text).length ≤ units.length
  · rw [if_pos hlength, if_neg (Nat.not_lt.mpr hlength)]
    rcases addPlaces ((placesOf text).reverse.zip units) 0 with error | _ | seconds
    · rfl
    · rfl
    · refine if_congr ?_ rfl rfl
      rw [Bool.and_eq_true, decide_eq_true_iff, decide_eq_true_iff]
      exact Iff.rfl
  · rw [if_neg hlength, if_pos (Nat.lt_of_not_le hlength)]

/-- A text of more than four pieces tells no time, and breaks nothing off. -/
theorem length_placesOf_le (h : (∃ seconds, TellsTime text seconds) ∨ BreaksOff text) :
    (placesOf text).length ≤ units.length := by
  have htells : ∀ seconds, TellsTime text seconds → (placesOf text).length ≤ units.length := by
    intro seconds htells
    obtain ⟨numbers, hcounts, hseconds⟩ := tellsTime_iff.mp htells
    rw [hcounts.length_eq]
    exact (secondsIn?_eq_some_iff.mp hseconds).2.1
  rcases h with ⟨seconds, h⟩ | ⟨numbers, hends, hoverflows⟩ | ⟨seconds, h, -⟩
  · exact htells seconds h
  · exact ((endsIn_iff hoverflows.ne_nil).mp hends).1
  · exact htells seconds h

/-- **What is read from a text**: reading breaks off, or it comes to the time that the text tells, or
to none if it tells none. -/
theorem readTimeLeft_cases (text : String) :
    BreaksOff text ∧ readTimeLeft text = .error .breakdown ∨
      ¬ BreaksOff text ∧ ∃ answer : Option Int, readTimeLeft text = .ok (answer.map Span.ofSeconds) ∧
        ∀ seconds, answer = some seconds ↔ TellsTime text seconds := by
  by_cases hlength : (placesOf text).length ≤ units.length
  · rw [readTimeLeft_eq, if_pos hlength]
    cases hsum : addPlaces ((placesOf text).reverse.zip units) 0 with
    | error fault =>
      obtain ⟨rfl, hover⟩ := (addPlaces_placesOf_eq_error_iff hlength).mp hsum
      exact Or.inl ⟨Or.inl hover, rfl⟩
    | ok answer =>
      have htells := addPlaces_placesOf_eq_ok_some_iff hlength hsum
      have hcalm : ¬ ∃ numbers, EndsIn text numbers ∧ Overflows numbers := fun hover =>
        absurd (hsum.symm.trans ((addPlaces_placesOf_eq_error_iff hlength).mpr ⟨rfl, hover⟩)) nofun
      cases answer with
      | none =>
        refine Or.inr ⟨?_, none, rfl, htells⟩
        rintro (hover | ⟨seconds, h, -⟩)
        · exact hcalm hover
        · exact absurd ((htells seconds).mpr h) nofun
      | some seconds =>
        by_cases hheld : Held seconds
        · refine Or.inr ⟨?_, some seconds, if_pos hheld, htells⟩
          rintro (hover | ⟨other, h, hnot⟩)
          · exact hcalm hover
          · exact hnot (Option.some.inj ((htells other).mpr h) ▸ hheld)
        · exact Or.inl ⟨Or.inr ⟨seconds, (htells seconds).mp rfl, hheld⟩, if_neg hheld⟩
  · rw [readTimeLeft_eq, if_neg hlength]
    exact Or.inr ⟨fun h => hlength (length_placesOf_le (Or.inr h)), none, rfl, fun seconds =>
      iff_of_false nofun fun h => hlength (length_placesOf_le (Or.inl ⟨seconds, h⟩))⟩

/-- **When reading a text breaks off**, which is the only way in which it fails. -/
theorem readTimeLeft_eq_error_iff {error : ClientError} :
    readTimeLeft text = .error error ↔ error = .breakdown ∧ BreaksOff text := by
  rcases readTimeLeft_cases text with ⟨hbreaks, hread⟩ | ⟨hfits, answer, hread, -⟩
  · rw [hread]
    simp [hbreaks, eq_comm]
  · rw [hread]
    simp [hfits]

/-- **A text is read exactly unless it breaks off.** -/
theorem readsExactly_iff : ReadsExactly text ↔ ¬ BreaksOff text := by
  rcases readTimeLeft_cases text with ⟨hbreaks, hread⟩ | ⟨hfits, answer, hread, htells⟩
  · refine iff_of_false ?_ (not_not_intro hbreaks)
    rintro ⟨timeLeft, hanswer, -⟩
    exact absurd (hread.symm.trans hanswer) nofun
  · refine iff_of_true ⟨_, hread, fun span => ?_⟩ hfits
    simp only [Option.map_eq_some_iff, htells, Span.ofSeconds, eq_comm]

end Sabnzbd

end Acquisition
