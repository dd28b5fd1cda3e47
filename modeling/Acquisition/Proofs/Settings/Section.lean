import Acquisition.Proofs.Profile
import Acquisition.Proofs.Reading
import Acquisition.Proofs.Text.Case
import Acquisition.ProfileStore

/-!
# Sections of the settings

A section configures a quality profile by the names of qualities, or a delay profile by the name of
a protocol.  It can be used if the names are known and, for a quality profile, make an order.

## Main definitions

* `Denotes`: a text names a quality of the catalogue.
* `ProfileSettings.Usable`, `ProfileSettings.HasFault`: what a section has to be like, and what may
  be wrong with one whose names are known.
* `ProfileSettings.Yields`, `ProfileSettings.Refuses`: the profile that a section configures, and
  the error that it is refused with.
* `DelaySettings.Prefers`: the protocol that a section names.

## Main results

* `ProfileSettings.Reads.mem_faults_iff`: the faults of a profile are those of its section.
* `ProfileStore.resolveProfile_cases`: all that a section can come to.
* `ProfileStore.resolveProfile_eq_ok_iff`, `ProfileStore.refuses_of_resolveProfile`: **a section
  makes a profile exactly if it can be used, and else it is refused for what is wrong with it.**
* `ProfileStore.resolveDelay_eq_ok_iff`: a section makes a delay profile exactly if its protocol is
  known.
-/

namespace Acquisition

/-! ### Names -/

/-- The text names the quality of the catalogue, up to outer blanks and the case of ASCII
letters. -/
def Denotes (name : String) (quality : Quality) : Prop :=
  quality ∈ Quality.catalogue ∧ Text.equalIgnoringCase quality.name (Text.trim name) = true

/-- The qualities of the catalogue differ in their names. -/
theorem Quality.eq_of_equalIgnoringCase : ∀ a ∈ Quality.catalogue, ∀ b ∈ Quality.catalogue,
    Text.equalIgnoringCase a.name b.name = true → a = b := by
  decide

/-- The qualities of the catalogue differ in their numbers. -/
theorem Quality.eq_of_id_eq : ∀ a ∈ Quality.catalogue, ∀ b ∈ Quality.catalogue,
    a.id = b.id → a = b := by
  decide

namespace Denotes

variable {name : String} {a b : Quality}

/-- A text names one quality. -/
theorem unique (ha : Denotes name a) (hb : Denotes name b) : a = b := by
  refine Quality.eq_of_equalIgnoringCase a ha.1 b hb.1 ?_
  rw [← Text.equalIgnoringCase_congr_right (Text.equalIgnoringCase_iff.mpr
    (Text.equalIgnoringCase_iff.mp hb.2).symm)]
  exact ha.2

theorem ofName?_eq_some_iff : Quality.ofName? name = some a ↔ Denotes name a := by
  constructor
  · intro h
    exact ⟨List.mem_of_find?_eq_some h, by simpa using List.find?_some h⟩
  · intro h
    cases hfound : Quality.ofName? name with
    | none =>
      have hnone := List.find?_eq_none.mp hfound a h.1
      exact absurd h.2 hnone
    | some b =>
      have hb : Denotes name b :=
        ⟨List.mem_of_find?_eq_some hfound, by simpa using List.find?_some hfound⟩
      rw [h.unique hb]

end Denotes

theorem denotes_rightUnique : Relator.RightUnique Denotes :=
  fun _ _ _ => Denotes.unique

namespace ProfileStore

variable {name : String} {quality : Quality} {error : ConfigError}

theorem resolveQuality_eq_ok_iff : resolveQuality name = .ok quality ↔ Denotes name quality := by
  rw [← Denotes.ofName?_eq_some_iff, resolveQuality]
  cases Quality.ofName? name <;> simp

theorem resolveQuality_eq_error_iff : resolveQuality name = .error error ↔
    (¬ ∃ quality, Denotes name quality) ∧ error = .unknownQuality name := by
  simp only [← Denotes.ofName?_eq_some_iff, resolveQuality]
  cases Quality.ofName? name <;> simp [eq_comm]

end ProfileStore

/-! ### Quality profiles -/

namespace ProfileSettings

/-- The names of qualities in a section, in the order in which they are looked up. -/
def names (entry : ProfileSettings) : List String :=
  entry.qualities ++ [entry.cutoff]

/-- The section can be used. -/
structure Usable (entry : ProfileSettings) : Prop where
  known : ∀ name ∈ entry.names, ∃ quality, Denotes name quality
  named : Text.isBlankText entry.name = false
  nonempty : entry.qualities ≠ []
  /-- No quality is listed twice, under whatever spellings. -/
  once : entry.qualities.Pairwise fun a b => ∀ quality, Denotes a quality → ¬ Denotes b quality
  cutoff : ∃ name ∈ entry.qualities, ∃ quality, Denotes name quality ∧ Denotes entry.cutoff quality

/-- What may be wrong with a section whose names are known. -/
inductive HasFault (entry : ProfileSettings) : ProfileFault → Prop
  | blankName (h : Text.isBlankText entry.name = true) : HasFault entry .blankName
  | nothingAllowed (h : entry.qualities = []) : HasFault entry .nothingAllowed
  | listedTwice {a b : String} {quality : Quality} (h : [a, b].Sublist entry.qualities)
    (ha : Denotes a quality) (hb : Denotes b quality) : HasFault entry (.listedTwice quality)
  | cutoffNotAllowed {quality : Quality} (hcutoff : Denotes entry.cutoff quality)
    (h : ∀ name ∈ entry.qualities, ¬ Denotes name quality) :
    HasFault entry (.cutoffNotAllowed quality)

/-- The names of the section denote the qualities and the cutoff. -/
structure Reads (entry : ProfileSettings) (qualities : List Quality) (cutoff : Quality) : Prop where
  qualities : List.Forall₂ Denotes entry.qualities qualities
  cutoff : Denotes entry.cutoff cutoff

/-- The profile that wants the qualities in the order in which the section lists them. -/
def profileOf (entry : ProfileSettings) (qualities : List Quality) (cutoff : Quality) :
    Profile where
  id := entry.id
  name := entry.name
  items := qualities.map fun quality => ⟨quality, true⟩
  cutoff
  upgradeAllowed := entry.upgradeAllowed

/-- The profile is the one that the section configures. -/
def Yields (entry : ProfileSettings) (profile : Profile) : Prop :=
  ∃ qualities cutoff, entry.Reads qualities cutoff ∧ profile = entry.profileOf qualities cutoff

theorem Yields.id_eq {entry : ProfileSettings} {profile : Profile} (h : entry.Yields profile) :
    profile.id = entry.id := by
  obtain ⟨qualities, cutoff, -, rfl⟩ := h
  rfl

/-- The error that a section is refused with: the first unknown name, or else all that is
wrong. -/
inductive Refuses (entry : ProfileSettings) : ConfigError → Prop
  | unknownQuality {name : String}
    (h : FirstWithout (fun name => ∃ quality, Denotes name quality) entry.names name) :
    Refuses entry (.unknownQuality name)
  | faulty {faults : List ProfileFault}
    (hknown : ∀ name ∈ entry.names, ∃ quality, Denotes name quality) (hne : faults ≠ [])
    (hfaults : ∀ fault, fault ∈ faults ↔ entry.HasFault fault) :
    Refuses entry (.invalidProfile entry.name faults)

variable {entry : ProfileSettings} {qualities : List Quality} {cutoff : Quality}

theorem usable_iff : entry.Usable ↔
    (∀ name ∈ entry.names, ∃ quality, Denotes name quality) ∧ ∀ fault, ¬ entry.HasFault fault := by
  constructor
  · refine fun h => ⟨h.known, fun fault hfault => ?_⟩
    cases hfault with
    | blankName hblank => exact absurd h.named (by simp [hblank])
    | nothingAllowed hnil => exact h.nonempty hnil
    | listedTwice htwice ha hb =>
      exact List.pairwise_iff_forall_sublist.mp h.once htwice _ ha hb
    | cutoffNotAllowed hcutoff hnot =>
      obtain ⟨name, hname, quality, hquality, hother⟩ := h.cutoff
      exact hnot name hname (hother.unique hcutoff ▸ hquality)
  · rintro ⟨hknown, hnone⟩
    have hcutoff := hknown entry.cutoff (by simp [names])
    refine ⟨hknown, ?_, fun hnil => hnone _ (.nothingAllowed hnil), ?_, ?_⟩
    · exact Bool.eq_false_iff.mpr fun hblank => hnone _ (.blankName hblank)
    · exact List.pairwise_iff_forall_sublist.mpr
        fun htwice quality ha hb => hnone _ (.listedTwice htwice ha hb)
    · obtain ⟨quality, hquality⟩ := hcutoff
      by_contra hnot
      refine hnone _ (.cutoffNotAllowed hquality fun name hname hother => hnot ?_)
      exact ⟨name, hname, quality, hother, hquality⟩

/-- What is refused cannot be used. -/
theorem Refuses.not_usable {error : ConfigError} (h : entry.Refuses error) : ¬ entry.Usable := by
  intro husable
  cases h with
  | unknownQuality hfirst => exact hfirst.not_forall husable.known
  | faulty _ hne hfaults =>
    obtain ⟨fault, hfault⟩ := List.exists_mem_of_ne_nil _ hne
    exact (usable_iff.mp husable).2 fault ((hfaults fault).mp hfault)

/-! #### What the names denote -/

/-- The names denote no other qualities. -/
theorem Reads.unique {others : List Quality} {other : Quality} (h : entry.Reads qualities cutoff)
    (h' : entry.Reads others other) : qualities = others ∧ cutoff = other :=
  ⟨List.right_unique_forall₂' denotes_rightUnique h.qualities h'.qualities,
    h.cutoff.unique h'.cutoff⟩

theorem Reads.mem_iff (h : entry.Reads qualities cutoff) {quality : Quality} :
    quality ∈ qualities ↔ ∃ name ∈ entry.qualities, Denotes name quality := by
  rw [← List.singleton_sublist, sublist_iff_of_forall₂ denotes_rightUnique h.qualities]
  simp only [List.forall₂_cons_right_iff, List.forall₂_nil_right_iff]
  constructor
  · rintro ⟨_, hsub, name, _, hname, rfl, rfl⟩
    exact ⟨name, List.singleton_sublist.mp hsub, hname⟩
  · rintro ⟨name, hmem, hname⟩
    exact ⟨[name], List.singleton_sublist.mpr hmem, name, [], hname, rfl, rfl⟩

theorem Reads.twice_iff (h : entry.Reads qualities cutoff) {quality : Quality} :
    [quality, quality].Sublist qualities ↔
      ∃ a b, [a, b].Sublist entry.qualities ∧ Denotes a quality ∧ Denotes b quality := by
  rw [sublist_iff_of_forall₂ denotes_rightUnique h.qualities]
  simp only [List.forall₂_cons_right_iff, List.forall₂_nil_right_iff]
  constructor
  · rintro ⟨_, hsub, a, _, ha, ⟨b, _, hb, rfl, rfl⟩, rfl⟩
    exact ⟨a, b, hsub, ha, hb⟩
  · rintro ⟨a, b, hsub, ha, hb⟩
    exact ⟨[a, b], hsub, a, [b], ha, ⟨b, [], hb, rfl, rfl⟩, rfl⟩

theorem Reads.mem_catalogue (h : entry.Reads qualities cutoff) :
    ∀ quality ∈ qualities, quality ∈ Quality.catalogue := by
  intro quality hmem
  obtain ⟨name, -, hname⟩ := h.mem_iff.mp hmem
  exact hname.1

theorem Reads.known (h : entry.Reads qualities cutoff) :
    ∀ name ∈ entry.names, ∃ quality, Denotes name quality := by
  intro name hname
  rcases List.mem_append.mp hname with hname | hname
  · obtain ⟨quality, hquality, -⟩ := exists_mem_of_forall₂ h.qualities hname
    exact ⟨quality, hquality⟩
  · exact ⟨cutoff, List.mem_singleton.mp hname ▸ h.cutoff⟩

/-! #### The faults of the profile -/

/-- What repeats a quality is listed twice, or was seen before.  The list is of the catalogue, where
the number tells which quality it is. -/
theorem mem_repeatsAfter_iff {quality : Quality} {qualities : List Quality}
    (hcatalogue : ∀ quality ∈ qualities, quality ∈ Quality.catalogue) : ∀ {seen : List Nat},
    quality ∈ Profile.repeatsAfter seen (qualities.map fun quality => ⟨quality, true⟩) ↔
      (quality.id ∈ seen ∧ quality ∈ qualities) ∨ [quality, quality].Sublist qualities := by
  induction qualities with
  | nil => simp [Profile.repeatsAfter]
  | cons first qualities ih =>
    intro seen
    obtain ⟨hfirst, hrest⟩ := List.forall_mem_cons.mp hcatalogue
    -- the first of the two may be the one at the front
    have htwice : [quality, quality].Sublist (first :: qualities) ↔
        [quality, quality].Sublist qualities ∨ (quality = first ∧ quality ∈ qualities) := by
      rw [List.sublist_cons_iff]
      simp
    have hsame : quality ∈ qualities → (quality.id = first.id ↔ quality = first) := fun hmem =>
      ⟨Quality.eq_of_id_eq quality (hrest quality hmem) first hfirst, congrArg Quality.id⟩
    rw [List.map_cons, Profile.repeatsAfter, htwice, List.mem_cons]
    split
    · next hseen =>
      rw [List.mem_cons, ih hrest]
      rcases eq_or_ne quality first with rfl | hne
      · simp [List.contains_iff_mem.mp hseen]
      · simp [hne]
    · next hseen =>
      have hnew : first.id ∉ seen := mt List.contains_iff_mem.mpr hseen
      rw [ih hrest, List.mem_cons]
      rcases eq_or_ne quality first with rfl | hne
      · simp [hnew, or_comm]
      · have hid : quality ∈ qualities → quality.id ≠ first.id := fun hmem => mt (hsame hmem).mp hne
        simp only [hne, false_or, false_and, or_false]
        refine or_congr_left (and_congr_left fun hmem => ?_)
        exact or_iff_right (hid hmem)

/-- The profile wants everything that it lists. -/
theorem Reads.any_allowed_eq_false_iff (h : entry.Reads qualities cutoff) :
    (entry.profileOf qualities cutoff).items.any (·.allowed) = false ↔ entry.qualities = [] := by
  rw [profileOf, List.any_map, ← List.length_eq_zero_iff, h.qualities.length_eq,
    List.length_eq_zero_iff]
  cases qualities <;> simp

theorem Reads.mem_repeats_iff (h : entry.Reads qualities cutoff) {quality : Quality} :
    quality ∈ Profile.repeatsAfter [] (entry.profileOf qualities cutoff).items ↔
      ∃ a b, [a, b].Sublist entry.qualities ∧ Denotes a quality ∧ Denotes b quality := by
  rw [← h.twice_iff, profileOf, mem_repeatsAfter_iff h.mem_catalogue]
  exact or_iff_right fun hseen => absurd hseen.1 List.not_mem_nil

theorem Reads.any_wants_eq_false_iff (h : entry.Reads qualities cutoff) :
    (entry.profileOf qualities cutoff).items.any (Profile.wants · cutoff) = false ↔
      ∀ name ∈ entry.qualities, ¬ Denotes name cutoff := by
  have hwanted : (∃ quality ∈ qualities, quality.same cutoff = true) ↔ cutoff ∈ qualities := by
    constructor
    · rintro ⟨quality, hmem, hsame⟩
      have hid : quality.id = cutoff.id := Quality.same_iff.mp hsame
      rwa [← Quality.eq_of_id_eq quality (h.mem_catalogue quality hmem) cutoff h.cutoff.1 hid]
    · exact fun hmem => ⟨cutoff, hmem, Quality.same_iff.mpr rfl⟩
  rw [← Bool.not_eq_true, profileOf, List.any_map, List.any_eq_true]
  refine (not_congr (hwanted.trans h.mem_iff)).trans ?_
  simp only [not_exists, not_and]

/-- **The faults of the profile are those of the section.** -/
theorem Reads.mem_faults_iff (h : entry.Reads qualities cutoff) {fault : ProfileFault} :
    fault ∈ (entry.profileOf qualities cutoff).faults ↔ entry.HasFault fault := by
  rw [Profile.mem_faults_iff]
  constructor
  · rintro (⟨rfl, hblank⟩ | ⟨rfl, hnil⟩ | ⟨quality, htwo, rfl⟩ | ⟨rfl, hnot⟩)
    · exact .blankName hblank
    · exact .nothingAllowed (h.any_allowed_eq_false_iff.mp hnil)
    · obtain ⟨a, b, hsub, ha, hb⟩ := h.mem_repeats_iff.mp htwo
      exact .listedTwice hsub ha hb
    · exact .cutoffNotAllowed h.cutoff (h.any_wants_eq_false_iff.mp hnot)
  · intro hfault
    cases hfault with
    | blankName hblank => exact Or.inl ⟨rfl, hblank⟩
    | nothingAllowed hnil => exact Or.inr (Or.inl ⟨rfl, h.any_allowed_eq_false_iff.mpr hnil⟩)
    | listedTwice hsub ha hb =>
      exact Or.inr (Or.inr (Or.inl ⟨_, h.mem_repeats_iff.mpr ⟨_, _, hsub, ha, hb⟩, rfl⟩))
    | cutoffNotAllowed hother hnot =>
      -- the cutoff denotes one quality
      obtain rfl := hother.unique h.cutoff
      exact Or.inr (Or.inr (Or.inr ⟨rfl, h.any_wants_eq_false_iff.mpr hnot⟩))

end ProfileSettings

/-! #### Reading a section -/

namespace ProfileStore

variable {entry : ProfileSettings} {profile : Profile} {error : ConfigError}

/-- The qualities are looked up one after the other, as if nothing else was made of them. -/
theorem mapM_item_eq (names : List String) :
    (names.mapM fun name => do
      let quality ← resolveQuality name
      return { quality, allowed := true : ProfileItem }) =
      (names.mapM resolveQuality).map (·.map fun quality => ⟨quality, true⟩) := by
  induction names with
  | nil => rfl
  | cons name names ih =>
    rw [mapM_cons_eq, mapM_cons_eq, ih]
    cases resolveQuality name with
    | error error => rfl
    | ok quality => cases names.mapM resolveQuality <;> rfl

/-- **All that a section can come to**: an unknown name, or a profile that is accepted if it has no
faults. -/
theorem resolveProfile_cases (entry : ProfileSettings) :
    (∃ name, FirstWithout (fun name => ∃ quality, Denotes name quality) entry.names name ∧
      resolveProfile entry = .error (.unknownQuality name)) ∨
    ∃ qualities cutoff, entry.Reads qualities cutoff ∧
      resolveProfile entry = match (entry.profileOf qualities cutoff).faults with
        | [] => .ok (entry.profileOf qualities cutoff)
        | faults => .error (.invalidProfile entry.name faults) := by
  rw [resolveProfile, mapM_item_eq]
  cases hqualities : entry.qualities.mapM resolveQuality with
  | error error =>
    -- the cutoff is not even looked up
    obtain ⟨name, hfirst, hname⟩ := mapM_eq_error_iff.mp hqualities
    simp only [resolveQuality_eq_ok_iff] at hfirst
    obtain ⟨-, rfl⟩ := resolveQuality_eq_error_iff.mp hname
    exact Or.inl ⟨name, hfirst.append _, rfl⟩
  | ok qualities =>
    have hread := mapM_eq_ok_iff.mp hqualities
    simp only [resolveQuality_eq_ok_iff] at hread
    cases hcutoff : resolveQuality entry.cutoff with
    | error error =>
      obtain ⟨hunknown, rfl⟩ := resolveQuality_eq_error_iff.mp hcutoff
      refine Or.inl ⟨entry.cutoff, ⟨entry.qualities, [], rfl, fun name hmem => ?_, hunknown⟩, rfl⟩
      obtain ⟨quality, hquality, -⟩ := exists_mem_of_forall₂ hread hmem
      exact ⟨quality, hquality⟩
    | ok cutoff =>
      refine Or.inr ⟨qualities, cutoff, ⟨hread, resolveQuality_eq_ok_iff.mp hcutoff⟩, ?_⟩
      change ((Profile.ofItems entry.id entry.name (qualities.map fun quality => ⟨quality, true⟩)
        cutoff).bind fun profile => .ok { profile with upgradeAllowed := entry.upgradeAllowed }) = _
      -- whether upgrades are allowed is no fault
      have hsame : (⟨entry.id, entry.name, qualities.map fun quality => ⟨quality, true⟩, cutoff,
          true⟩ : Profile).faults = (entry.profileOf qualities cutoff).faults := rfl
      rw [Profile.ofItems, hsame]
      cases (entry.profileOf qualities cutoff).faults <;> rfl

/-- **A section makes a profile exactly if it can be used**, and it makes the one that it
configures. -/
theorem resolveProfile_eq_ok_iff :
    resolveProfile entry = .ok profile ↔ entry.Usable ∧ entry.Yields profile := by
  rw [ProfileSettings.usable_iff]
  rcases resolveProfile_cases entry with
    ⟨name, ⟨front, back, hsplit, -, hunknown⟩, hread⟩ | ⟨qualities, cutoff, hreads, hread⟩
  · rw [hread]
    refine iff_of_false nofun fun h => hunknown (h.1.1 name ?_)
    rw [hsplit]
    exact List.mem_append_right _ List.mem_cons_self
  · rw [hread]
    have hfaults : (entry.profileOf qualities cutoff).faults = [] ↔
        ∀ fault, ¬ entry.HasFault fault := by
      simp only [List.eq_nil_iff_forall_not_mem, hreads.mem_faults_iff]
    rw [← hfaults]
    have hyields : entry.Yields profile ↔ entry.profileOf qualities cutoff = profile := by
      constructor
      · rintro ⟨others, other, hothers, rfl⟩
        obtain ⟨rfl, rfl⟩ := hreads.unique hothers
        rfl
      · rintro rfl
        exact ⟨qualities, cutoff, hreads, rfl⟩
    rw [hyields]
    cases (entry.profileOf qualities cutoff).faults with
    | nil => simpa using fun _ => hreads.known
    | cons fault faults => simp

/-- **A section that cannot be used is refused for what is wrong with it.** -/
theorem refuses_of_resolveProfile (h : resolveProfile entry = .error error) :
    entry.Refuses error := by
  rcases resolveProfile_cases entry with ⟨name, hfirst, hread⟩ | ⟨qualities, cutoff, hreads, hread⟩
  · rw [hread] at h
    exact Except.error.inj h ▸ .unknownQuality hfirst
  · rw [hread] at h
    split at h
    · exact absurd h nofun
    · next hne =>
      rw [← Except.error.inj h]
      exact .faulty hreads.known hne fun fault => hreads.mem_faults_iff

theorem exists_resolveProfile_iff :
    (∃ profile, resolveProfile entry = .ok profile) ↔ entry.Usable := by
  constructor
  · rintro ⟨profile, hread⟩
    exact (resolveProfile_eq_ok_iff.mp hread).1
  · intro husable
    cases hread : resolveProfile entry with
    | error error => exact absurd husable (refuses_of_resolveProfile hread).not_usable
    | ok profile => exact ⟨profile, rfl⟩

end ProfileStore

/-! ### Delay profiles -/

namespace DelaySettings

/-- The section names the protocol, up to the case of ASCII letters. -/
def Prefers (entry : DelaySettings) (protocol : Protocol) : Prop :=
  Text.equalIgnoringCase entry.preferredProtocol protocol.name = true

/-- The delay profile that prefers the protocol. -/
def delayOf (entry : DelaySettings) (preferred : Protocol) : DelayProfile where
  id := entry.id
  order := entry.order
  preferred
  usenetMinutes := entry.usenetDelayMinutes
  torrentMinutes := entry.torrentDelayMinutes
  tags := Tags.ofList entry.tags

/-- The delay profile is the one that the section configures. -/
def Yields (entry : DelaySettings) (delay : DelayProfile) : Prop :=
  ∃ protocol, entry.Prefers protocol ∧ delay = entry.delayOf protocol

end DelaySettings

theorem Protocol.ofName?_eq_some_iff {word : String} {protocol : Protocol} :
    Protocol.ofName? word = some protocol ↔ word = protocol.name := by
  constructor
  · intro h
    unfold Protocol.ofName? at h
    split at h
    · exact Option.some.inj h ▸ rfl
    · exact Option.some.inj h ▸ rfl
    · exact absurd h nofun
  · rintro rfl
    cases protocol <;> rfl

theorem Protocol.name_plain (protocol : Protocol) :
    ∀ c ∈ protocol.name.toList, c.isAlphanum = true ∧ c ≠ 'i' ∧ c ≠ 'k' := by
  have hall : protocol.name.toList.all (fun c => c.isAlphanum && c != 'i' && c != 'k') = true := by
    cases protocol <;> rfl
  simpa [List.all_eq_true, and_assoc] using hall

namespace ProfileStore

variable {entry : DelaySettings} {delay : DelayProfile} {error : ConfigError}

/-- The full lower case of the name is looked up, which for these words disregards the case of ASCII
letters only. -/
theorem ofName?_lowercase_eq_some_iff {protocol : Protocol} :
    Protocol.ofName? (Text.lowercase entry.preferredProtocol) = some protocol ↔
      entry.Prefers protocol := by
  rw [Protocol.ofName?_eq_some_iff, DelaySettings.Prefers]
  exact Text.lowercase_eq_iff protocol.name_plain (by cases protocol <;> rfl)

/-- **A section makes a delay profile exactly if its protocol is known.** -/
theorem resolveDelay_eq_ok_iff : resolveDelay entry = .ok delay ↔ entry.Yields delay := by
  simp only [DelaySettings.Yields, ← ofName?_lowercase_eq_some_iff, resolveDelay]
  cases Protocol.ofName? (Text.lowercase entry.preferredProtocol) with
  | none => simp [throw, throwThe, MonadExceptOf.throw]
  | some protocol => simp [pure, Except.pure, DelaySettings.delayOf, eq_comm]

theorem exists_resolveDelay_iff :
    (∃ delay, resolveDelay entry = .ok delay) ↔ ∃ protocol, entry.Prefers protocol := by
  simp only [resolveDelay_eq_ok_iff, DelaySettings.Yields]
  exact ⟨fun ⟨_, protocol, h, _⟩ => ⟨protocol, h⟩, fun ⟨protocol, h⟩ => ⟨_, protocol, h, rfl⟩⟩

theorem resolveDelay_eq_error_iff : resolveDelay entry = .error error ↔
    (¬ ∃ protocol, entry.Prefers protocol) ∧
      error = .unknownProtocol entry.id (Text.lowercase entry.preferredProtocol) := by
  simp only [← ofName?_lowercase_eq_some_iff, resolveDelay]
  cases Protocol.ofName? (Text.lowercase entry.preferredProtocol) with
  | none => simp [throw, throwThe, MonadExceptOf.throw, eq_comm]
  | some protocol => simp [pure, Except.pure]

end ProfileStore

end Acquisition
