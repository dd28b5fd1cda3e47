import Acquisition.Proofs.ProfileStore
import Acquisition.Proofs.Settings.Section

/-!
# Settings that make a store

Whether a program can start is settled by its settings alone.  Sections are read one after the
other, quality profiles first, and then the store is made of what was read; the first thing that is
wrong ends it.  So settings are refused exactly if something is wrong with them, and a store holds
what the settings say.

## Main definitions

* `ProfileStore.UsableSections`: what the sections have to be like.
* `ProfileStore.Refuses`: the error that the sections are refused with.
* `ProfileStore.Serves`: a store finds the profiles that the sections configure.

## Main results

* `ProfileStore.find?_byNumber`: of several profiles with one number the last is found.
* `ProfileStore.build_cases`: all that making a store of profiles can come to.
* `ProfileStore.ofSettings_accepts_usable`: **sections make a store exactly if they can be used; the
  store serves what they configure, and if there is none the first offending section is to blame.**
-/

namespace Acquisition

/-! ### Profiles by number -/

namespace ProfileStore

variable {profile : Profile} {profiles sorted : List Profile} {id : ProfileId}

theorem find?_id_cons (first : Profile) (rest : List Profile) (id : ProfileId) :
    (first :: rest).find? (·.id == id) =
      if first.id = id then some first else rest.find? (·.id == id) := by
  rw [List.find?_cons]
  cases hfirst : first.id == id with
  | false => rw [if_neg (beq_eq_false_iff_ne.mp hfirst)]
  | true => rw [if_pos (beq_iff_eq.mp hfirst)]

/-- A profile that is put in its place is found under its number, and nothing else changes. -/
theorem find?_insertProfile (profile : Profile) (sorted : List Profile) (id : ProfileId) :
    (insertProfile profile sorted).find? (·.id == id) =
      if profile.id = id then some profile else sorted.find? (·.id == id) := by
  induction sorted with
  | nil => exact find?_id_cons profile [] id
  | cons first rest ih =>
    rw [insertProfile]
    split
    · exact find?_id_cons profile (first :: rest) id
    · split
      · next hsame =>
        rw [find?_id_cons, find?_id_cons, beq_iff_eq.mp hsame]
        exact ite_congr rfl (fun _ => rfl) fun hne => (if_neg hne).symm
      · next hne =>
        rw [find?_id_cons, find?_id_cons, ih]
        by_cases hfirst : first.id = id
        · have hother : profile.id ≠ id := fun h => hne (beq_iff_eq.mpr (h.trans hfirst.symm))
          rw [if_pos hfirst, if_neg hother, if_pos hfirst]
        · rw [if_neg hfirst, if_neg hfirst]

theorem mem_of_mem_insertProfile {other : Profile} (h : other ∈ insertProfile profile sorted) :
    other = profile ∨ other ∈ sorted := by
  induction sorted with
  | nil => exact Or.inl (List.mem_singleton.mp h)
  | cons first rest ih =>
    rw [insertProfile] at h
    split at h
    · exact List.mem_cons.mp h
    · split at h
      · exact (List.mem_cons.mp h).imp_right (List.mem_cons_of_mem _)
      · rcases List.mem_cons.mp h with rfl | hrest
        · exact Or.inr List.mem_cons_self
        · exact (ih hrest).imp_right (List.mem_cons_of_mem _)

/-- The numbers go on increasing. -/
theorem pairwise_insertProfile (profile : Profile) (h : sorted.Pairwise (·.id < ·.id)) :
    (insertProfile profile sorted).Pairwise (·.id < ·.id) := by
  induction sorted with
  | nil => exact List.pairwise_singleton _ _
  | cons first rest ih =>
    obtain ⟨hfirst, hrest⟩ := List.pairwise_cons.mp h
    rw [insertProfile]
    split
    · next hlt =>
      refine List.pairwise_cons.mpr ⟨fun other hmem => ?_, h⟩
      rcases List.mem_cons.mp hmem with rfl | hmem
      · exact hlt
      · exact Nat.lt_trans hlt (hfirst other hmem)
    · next hnot =>
      split
      · next hsame =>
        refine List.pairwise_cons.mpr ⟨fun other hmem => ?_, hrest⟩
        rw [beq_iff_eq.mp hsame]
        exact hfirst other hmem
      · next hne =>
        refine List.pairwise_cons.mpr ⟨fun other hmem => ?_, ih hrest⟩
        rcases mem_of_mem_insertProfile hmem with rfl | hmem
        · have hdiffer : other.id ≠ first.id := fun heq => hne (beq_iff_eq.mpr heq)
          exact Nat.lt_of_le_of_ne (Nat.not_lt.mp hnot) hdiffer.symm
        · exact hfirst other hmem

theorem byNumber_concat (profiles : List Profile) (profile : Profile) :
    byNumber (profiles ++ [profile]) = insertProfile profile (byNumber profiles) := by
  rw [byNumber, List.foldl_concat]
  rfl

/-- **Of several profiles with one number the last is found.** -/
theorem find?_byNumber (profiles : List Profile) (id : ProfileId) :
    (byNumber profiles).find? (·.id == id) = profiles.reverse.find? (·.id == id) := by
  induction profiles using List.reverseRecOn with
  | nil => rfl
  | append_singleton profiles profile ih =>
    rw [byNumber_concat, find?_insertProfile, ih, List.reverse_concat, find?_id_cons]

theorem pairwise_byNumber (profiles : List Profile) : (byNumber profiles).Pairwise (·.id < ·.id) :=
  List.foldlRecOn (motive := fun sorted : List Profile => sorted.Pairwise (·.id < ·.id)) profiles
    (fun sorted profile => insertProfile profile sorted) List.Pairwise.nil
    fun _ hsorted profile _ => pairwise_insertProfile profile hsorted

/-- The numbers in a store are those of its profiles. -/
theorem exists_mem_byNumber_iff :
    (∃ profile ∈ byNumber profiles, profile.id = id) ↔ ∃ profile ∈ profiles, profile.id = id := by
  have hsome := congrArg Option.isSome (find?_byNumber profiles id)
  rw [Bool.eq_iff_iff, List.find?_isSome, List.find?_isSome] at hsome
  simpa using hsome

/-- The profile to fall back on has the smallest number. -/
theorem head?_byNumber_least {fallback : Profile} (h : (byNumber profiles).head? = some fallback) :
    (∃ profile ∈ profiles, profile.id = fallback.id) ∧
      ∀ profile ∈ profiles, fallback.id ≤ profile.id := by
  obtain ⟨rest, hsplit⟩ := List.head?_eq_some_iff.mp h
  have hsorted := pairwise_byNumber profiles
  rw [hsplit, List.pairwise_cons] at hsorted
  constructor
  · refine exists_mem_byNumber_iff.mp ⟨fallback, ?_, rfl⟩
    rw [hsplit]
    exact List.mem_cons_self
  · intro profile hmem
    obtain ⟨other, hother, hid⟩ := exists_mem_byNumber_iff.mpr ⟨profile, hmem, rfl⟩
    rw [hsplit, List.mem_cons] at hother
    rcases hother with rfl | hother
    · exact Nat.le_of_eq hid
    · rw [← hid]
      exact Nat.le_of_lt (hsorted.1 other hother)

theorem head?_byNumber_eq_none_iff : (byNumber profiles).head? = none ↔ profiles = [] := by
  rw [List.head?_eq_none_iff]
  constructor
  · intro hnil
    cases profiles with
    | nil => rfl
    | cons profile profiles =>
      obtain ⟨other, hmem, -⟩ := exists_mem_byNumber_iff.mpr ⟨profile, List.mem_cons_self, rfl⟩
      rw [hnil] at hmem
      exact absurd hmem List.not_mem_nil
  · rintro rfl
    rfl

end ProfileStore

/-! ### Making a store -/

theorem Tags.mem_ofList {tag : Nat} {tags : List Nat} : tag ∈ Tags.ofList tags ↔ tag ∈ tags := by
  induction tags using List.reverseRecOn with
  | nil => exact Iff.rfl
  | append_singleton tags last ih =>
    rw [Tags.ofList, List.foldl_concat, Tags.mem_insert, ← Tags.ofList, ih]
    simp [or_comm]

theorem Tags.ofList_eq_nil_iff {tags : List Nat} : Tags.ofList tags = [] ↔ tags = [] := by
  simp only [List.eq_nil_iff_forall_not_mem, Tags.mem_ofList]

theorem DelayProfile.check_eq_ok_iff {delay : DelayProfile} :
    delay.check = .ok () ↔ (delay.tags = [] → delay.order = lastOrder) := by
  rw [check, ← isGlobal_iff]
  cases delay.isGlobal <;> simp

theorem DelayProfile.check_eq_error {delay : DelayProfile} {error : ConfigError}
    (h : delay.check = .error error) : error = .untaggedNotLast delay.id := by
  rw [check] at h
  split at h
  · exact (Except.error.inj h).symm
  · cases h

namespace ProfileStore

variable {profiles : List Profile} {delays : List DelayProfile} {error : ConfigError}

/-- The first delay profile that is not in order decides on the error. -/
theorem forM_check_eq_error (h : delays.forM DelayProfile.check = .error error) :
    ∃ delay, FirstWithout (fun delay => delay.check = .ok ()) delays delay ∧
      error = .untaggedNotLast delay.id := by
  induction delays with
  | nil => cases h
  | cons delay delays ih =>
    have hcons : (delay :: delays).forM DelayProfile.check =
        delay.check >>= fun _ => delays.forM DelayProfile.check := rfl
    rw [hcons] at h
    cases hcheck : delay.check with
    | error fault =>
      rw [hcheck] at h
      obtain rfl : fault = error := Except.error.inj h
      refine ⟨delay, FirstWithout.cons_iff.mpr (Or.inl ⟨?_, rfl⟩),
        DelayProfile.check_eq_error hcheck⟩
      rw [hcheck]
      exact nofun
    | ok _ =>
      rw [hcheck] at h
      obtain ⟨other, hfirst, rfl⟩ := ih h
      exact ⟨other, FirstWithout.cons_iff.mpr (Or.inr ⟨hcheck, hfirst⟩), rfl⟩

/-- **All that making a store of profiles can come to.** -/
theorem build_cases (profiles : List Profile) (delays : List DelayProfile) :
    (profiles = [] ∧ build profiles delays = .error .noProfiles) ∨
    (profiles ≠ [] ∧ ∃ delay, FirstWithout (fun delay => delay.check = .ok ()) delays delay ∧
      build profiles delays = .error (.untaggedNotLast delay.id)) ∨
    (profiles ≠ [] ∧ (∀ delay ∈ delays, delay.check = .ok ()) ∧
      (∀ delay ∈ delays, delay.tags ≠ []) ∧
      build profiles delays = .error .missingGlobalDelayProfile) ∨
    ∃ fallback untagged, (byNumber profiles).head? = some fallback ∧
      (∀ delay ∈ delays, delay.check = .ok ()) ∧ (∃ delay ∈ delays, delay.tags = []) ∧
        build profiles delays = .ok ⟨byNumber profiles, fallback, inOrder delays, untagged⟩ := by
  cases hfallback : (byNumber profiles).head? with
  | none =>
    refine Or.inl ⟨head?_byNumber_eq_none_iff.mp hfallback, ?_⟩
    rw [build, hfallback]
    rfl
  | some fallback =>
    have hne : profiles ≠ [] := fun hnil => by
      rw [head?_byNumber_eq_none_iff.mpr hnil] at hfallback
      cases hfallback
    refine Or.inr ?_
    cases hcheck : delays.forM DelayProfile.check with
    | error fault =>
      obtain ⟨delay, hfirst, rfl⟩ := forM_check_eq_error hcheck
      refine Or.inl ⟨hne, delay, hfirst, ?_⟩
      rw [build, hfallback, hcheck]
      rfl
    | ok _ =>
      have hall := forM_check_eq_ok_iff.mp hcheck
      refine Or.inr ?_
      cases huntagged : delays.find? (·.isGlobal) with
      | none =>
        refine Or.inl ⟨hne, hall, fun delay hmem hnil => ?_, ?_⟩
        · exact List.find?_eq_none.mp huntagged delay hmem (DelayProfile.isGlobal_iff.mpr hnil)
        · rw [build, hfallback, hcheck, huntagged]
          rfl
      | some untagged =>
        refine Or.inr ⟨fallback, untagged, rfl, hall, ⟨untagged, ?_, ?_⟩, ?_⟩
        · exact List.mem_of_find?_eq_some huntagged
        · exact DelayProfile.isGlobal_iff.mp (List.find?_some huntagged)
        · exact build_eq_ok_iff.mpr ⟨fallback, untagged, hfallback, hall, huntagged, rfl⟩

end ProfileStore

/-! ### Sections -/

namespace ProfileStore

/-- The sections can be used. -/
structure UsableSections (profiles : List ProfileSettings) (delays : List DelaySettings) :
    Prop where
  sections : ∀ entry ∈ profiles, entry.Usable
  protocols : ∀ entry ∈ delays, ∃ protocol, entry.Prefers protocol
  nonempty : profiles ≠ []
  /-- What has no tags is ordered last. -/
  last : ∀ entry ∈ delays, entry.tags = [] → entry.order = DelayProfile.lastOrder
  untagged : ∃ entry ∈ delays, entry.tags = []

/-- The error that the sections are refused with.  Everything that is looked at before the
offending section is in order. -/
inductive Refuses (profiles : List ProfileSettings) (delays : List DelaySettings) :
    ConfigError → Prop
  | profile {entry : ProfileSettings} {error : ConfigError}
    (h : FirstWithout ProfileSettings.Usable profiles entry) (herror : entry.Refuses error) :
    Refuses profiles delays error
  | protocol {entry : DelaySettings} (hprofiles : ∀ entry ∈ profiles, entry.Usable)
    (h : FirstWithout (fun entry => ∃ protocol, entry.Prefers protocol) delays entry) :
    Refuses profiles delays (.unknownProtocol entry.id (Text.lowercase entry.preferredProtocol))
  | noProfiles (hprotocols : ∀ entry ∈ delays, ∃ protocol, entry.Prefers protocol)
    (h : profiles = []) : Refuses profiles delays .noProfiles
  | notLast {entry : DelaySettings} (hprofiles : ∀ entry ∈ profiles, entry.Usable)
    (hprotocols : ∀ entry ∈ delays, ∃ protocol, entry.Prefers protocol) (hne : profiles ≠ [])
    (h : FirstWithout (fun entry => entry.tags = [] → entry.order = DelayProfile.lastOrder)
      delays entry) :
    Refuses profiles delays (.untaggedNotLast entry.id)
  | allTagged (hprofiles : ∀ entry ∈ profiles, entry.Usable)
    (hprotocols : ∀ entry ∈ delays, ∃ protocol, entry.Prefers protocol) (hne : profiles ≠ [])
    (h : ∀ entry ∈ delays, entry.tags ≠ []) : Refuses profiles delays .missingGlobalDelayProfile

/-- The store finds the profiles that the sections configure. -/
structure Serves (profiles : List ProfileSettings) (store : ProfileStore) : Prop where
  /-- Under a number the profile of the last section with that number is found. -/
  configured : ∀ front entry back, profiles = front ++ entry :: back →
    (∀ later ∈ back, later.id ≠ entry.id) →
      ∃ profile, entry.Yields profile ∧ store.profile entry.id = .ok profile
  unknown : ∀ id, (∀ entry ∈ profiles, entry.id ≠ id) →
    store.profile id = .error (.unknownProfile id)
  /-- What to fall back on is found under the smallest number of all. -/
  fallback : ∃ entry ∈ profiles, (∀ other ∈ profiles, entry.id ≤ other.id) ∧
    store.profile entry.id = .ok store.fallback

variable {profiles : List ProfileSettings} {delays : List DelaySettings} {store : ProfileStore}
  {error : ConfigError}

theorem Refuses.not_usable (h : Refuses profiles delays error) :
    ¬ UsableSections profiles delays := by
  intro husable
  cases h with
  | profile hfirst _ => exact hfirst.not_forall husable.sections
  | protocol _ hfirst => exact hfirst.not_forall husable.protocols
  | noProfiles _ hnil => exact husable.nonempty hnil
  | notLast _ _ _ hfirst => exact hfirst.not_forall husable.last
  | allTagged _ _ _ htagged =>
    obtain ⟨entry, hmem, hnil⟩ := husable.untagged
    exact htagged entry hmem hnil

/-- **A store serves the sections that its profiles were read from.** -/
theorem serves_of_yields {read : List Profile}
    (hread : List.Forall₂ ProfileSettings.Yields profiles read)
    (hstore : store.profiles = byNumber read)
    (hleast : (byNumber read).head? = some store.fallback) : Serves profiles store := by
  have hfind : ∀ id, store.profiles.find? (·.id == id) = read.reverse.find? (·.id == id) := by
    intro id
    rw [hstore, find?_byNumber]
  constructor
  case configured =>
    rintro front entry back rfl hlast
    obtain ⟨before, profile, after, rfl, -, hyields, hafter⟩ := exists_split_of_forall₂ hread
    refine ⟨profile, hyields, ?_⟩
    -- the profiles of later sections have other numbers
    have hnone : after.reverse.find? (·.id == entry.id) = none := by
      rw [List.find?_eq_none]
      intro later hmem
      obtain ⟨other, hother, hmem'⟩ :=
        exists_mem_left_of_forall₂ hafter (List.mem_reverse.mp hmem)
      simpa [hother.id_eq] using hlast other hmem'
    have hfound : store.profiles.find? (·.id == entry.id) = some profile := by
      rw [hfind, List.reverse_append, List.reverse_cons, List.append_assoc, List.find?_append,
        hnone, Option.none_or, List.singleton_append, find?_id_cons, if_pos hyields.id_eq]
    rw [ProfileStore.profile, hfound]
  case unknown =>
    intro id hunknown
    have hnone : store.profiles.find? (·.id == id) = none := by
      rw [hfind, List.find?_eq_none]
      intro profile hmem
      obtain ⟨entry, hentry, hmem'⟩ :=
        exists_mem_left_of_forall₂ hread (List.mem_reverse.mp hmem)
      simpa [hentry.id_eq] using hunknown entry hmem'
    rw [ProfileStore.profile, hnone]
  case fallback =>
    obtain ⟨⟨profile, hmem, hsame⟩, hall⟩ := head?_byNumber_least hleast
    obtain ⟨entry, hentry, hmem'⟩ := exists_mem_left_of_forall₂ hread hmem
    have hnumber : store.fallback.id = entry.id := hsame.symm.trans hentry.id_eq
    refine ⟨entry, hmem', fun other hother => ?_, ?_⟩
    · obtain ⟨found, hfound, hmem⟩ := exists_mem_of_forall₂ hread hother
      rw [← hnumber, ← hfound.id_eq]
      exact hall found hmem
    · obtain ⟨rest, hsplit⟩ := List.head?_eq_some_iff.mp hleast
      have hfound : store.profiles.find? (·.id == entry.id) = some store.fallback := by
        rw [hstore, hsplit, find?_id_cons, if_pos hnumber]
      rw [ProfileStore.profile, hfound]

/-- A section that was read can be used, and its profile is the one that it configures. -/
theorem usable_of_mapM {read : List Profile} (h : profiles.mapM resolveProfile = .ok read) :
    (∀ entry ∈ profiles, entry.Usable) ∧ List.Forall₂ ProfileSettings.Yields profiles read := by
  have hread := mapM_eq_ok_iff.mp h
  simp only [resolveProfile_eq_ok_iff] at hread
  refine ⟨fun entry hmem => ?_, hread.imp fun _ _ => And.right⟩
  obtain ⟨profile, ⟨husable, -⟩, -⟩ := exists_mem_of_forall₂ hread hmem
  exact husable

theorem tags_eq_nil_iff_of_yields {entry : DelaySettings} {delay : DelayProfile}
    (h : entry.Yields delay) : delay.tags = [] ↔ entry.tags = [] := by
  obtain ⟨protocol, -, rfl⟩ := h
  exact Tags.ofList_eq_nil_iff

/-- Whether a delay profile is in order is told from its section. -/
theorem check_eq_ok_iff_of_yields (entry : DelaySettings) (delay : DelayProfile)
    (h : entry.Yields delay) :
    (entry.tags = [] → entry.order = DelayProfile.lastOrder) ↔ delay.check = .ok () := by
  rw [DelayProfile.check_eq_ok_iff, tags_eq_nil_iff_of_yields h]
  obtain ⟨protocol, -, rfl⟩ := h
  exact Iff.rfl

/-- What was read of sections without unknown names makes a store, or something is missing or out of
order in the delay profiles. -/
theorem build_read_cases {read : List Profile} {readDelays : List DelayProfile}
    (husable : ∀ entry ∈ profiles, entry.Usable)
    (hyields : List.Forall₂ ProfileSettings.Yields profiles read)
    (hdelays : List.Forall₂ DelaySettings.Yields delays readDelays) :
    (∃ error, Refuses profiles delays error ∧ build read readDelays = .error error) ∨
    ∃ store, UsableSections profiles delays ∧ Serves profiles store ∧
      build read readDelays = .ok store := by
  have hprotocols : ∀ entry ∈ delays, ∃ protocol, entry.Prefers protocol := by
    intro entry hmem
    obtain ⟨delay, ⟨protocol, hprefers, -⟩, -⟩ := exists_mem_of_forall₂ hdelays hmem
    exact ⟨protocol, hprefers⟩
  have hnil : profiles = [] ↔ read = [] := by
    rw [← List.length_eq_zero_iff, hyields.length_eq, List.length_eq_zero_iff]
  rcases build_cases read readDelays with ⟨hempty, hbuild⟩ | ⟨hne, delay, hfirst, hbuild⟩ |
    ⟨hne, -, htagged, hbuild⟩ | ⟨fallback, untagged, hleast, hcheck, huntagged, hbuild⟩
  · exact Or.inl ⟨_, .noProfiles hprotocols (hnil.mpr hempty), hbuild⟩
  · obtain ⟨entry, ⟨protocol, -, rfl⟩, hentry⟩ :=
      hfirst.exists_of_forall₂ check_eq_ok_iff_of_yields hdelays
    exact Or.inl ⟨_, .notLast husable hprotocols (mt hnil.mp hne) hentry, hbuild⟩
  · refine Or.inl ⟨_, .allTagged husable hprotocols (mt hnil.mp hne) fun entry hmem => ?_, hbuild⟩
    obtain ⟨delay, hyield, hdelay⟩ := exists_mem_of_forall₂ hdelays hmem
    exact mt (tags_eq_nil_iff_of_yields hyield).mpr (htagged delay hdelay)
  · refine Or.inr ⟨_, ⟨husable, hprotocols, ?_, fun entry hmem => ?_, ?_⟩,
      serves_of_yields hyields rfl hleast, hbuild⟩
    · rw [Ne, hnil]
      rintro rfl
      cases hleast
    · obtain ⟨delay, hyield, hdelay⟩ := exists_mem_of_forall₂ hdelays hmem
      exact (check_eq_ok_iff_of_yields entry delay hyield).mpr (hcheck delay hdelay)
    · obtain ⟨delay, hdelay, htags⟩ := huntagged
      obtain ⟨entry, hyield, hmem⟩ := exists_mem_left_of_forall₂ hdelays hdelay
      exact ⟨entry, hmem, (tags_eq_nil_iff_of_yields hyield).mp htags⟩

/-- **All that reading the sections can come to**: an error that one of them is to blame for, or a
store that serves them. -/
theorem ofSettings_cases (profiles : List ProfileSettings) (delays : List DelaySettings) :
    (∃ error, Refuses profiles delays error ∧ ofSettings profiles delays = .error error) ∨
    ∃ store, UsableSections profiles delays ∧ Serves profiles store ∧
      ofSettings profiles delays = .ok store := by
  rw [ofSettings]
  cases hprofiles : profiles.mapM resolveProfile with
  | error error =>
    obtain ⟨entry, hfirst, herror⟩ := mapM_eq_error_iff.mp hprofiles
    simp only [exists_resolveProfile_iff] at hfirst
    exact Or.inl ⟨error, .profile hfirst (refuses_of_resolveProfile herror), rfl⟩
  | ok read =>
    obtain ⟨husable, hyields⟩ := usable_of_mapM hprofiles
    cases hdelays : delays.mapM resolveDelay with
    | error error =>
      obtain ⟨entry, hfirst, herror⟩ := mapM_eq_error_iff.mp hdelays
      simp only [exists_resolveDelay_iff] at hfirst
      obtain ⟨-, rfl⟩ := resolveDelay_eq_error_iff.mp herror
      exact Or.inl ⟨_, .protocol husable hfirst, rfl⟩
    | ok readDelays =>
      have hread := mapM_eq_ok_iff.mp hdelays
      simp only [resolveDelay_eq_ok_iff] at hread
      exact build_read_cases husable hyields hread

/-- **Sections make a store exactly if they can be used**; the store serves what they configure, and
if there is none the first offending section is to blame, or what is missing in all of them. -/
theorem ofSettings_accepts_usable (profiles : List ProfileSettings) (delays : List DelaySettings) :
    ((∃ store, ofSettings profiles delays = .ok store) ↔ UsableSections profiles delays) ∧
      (∀ store, ofSettings profiles delays = .ok store → Serves profiles store) ∧
      ∀ error, ofSettings profiles delays = .error error → Refuses profiles delays error := by
  rcases ofSettings_cases profiles delays with
    ⟨error, hrefuses, hread⟩ | ⟨store, husable, hserves, hread⟩
  · rw [hread]
    refine ⟨iff_of_false (fun h => ?_) hrefuses.not_usable, fun _ h => ?_, fun _ h => ?_⟩
    · obtain ⟨_, h⟩ := h
      exact absurd h nofun
    · exact absurd h nofun
    · exact Except.error.inj h ▸ hrefuses
  · rw [hread]
    refine ⟨iff_of_true ⟨store, rfl⟩ husable, fun _ h => ?_, fun _ h => ?_⟩
    · exact Except.ok.inj h ▸ hserves
    · exact absurd h nofun

/-- Two sections share a number, and the names are spelled as they come. -/
def renumbered : List ProfileSettings :=
  [⟨4, "HD", ["HDTV-720p", "Bluray-720p"], "Bluray-720p", true⟩,
    ⟨2, "SD", ["SDTV"], " sdtv ", false⟩,
    ⟨4, "UHD", ["webdl-1080P", "BLURAY-2160p"], "bluray-2160P", true⟩]

/-- A delay profile for everything and one for a tag. -/
def staggered : List DelaySettings :=
  [⟨1, 4294967295, "UseNet", 30, 0, []⟩, ⟨2, 1, "TORRENT", 0, 60, [7]⟩]

/-- The store of these sections has the later profile under the shared number; without the section
for everything there is none. -/
theorem renumbered_is_served :
    (∃ store, ofSettings renumbered staggered = .ok store ∧ Serves renumbered store ∧
      (store.profile 4).map (·.name) = .ok "UHD" ∧ store.fallback.name = "SD") ∧
    UsableSections renumbered staggered ∧
      Refuses renumbered (staggered.drop 1) .missingGlobalDelayProfile := by
  have hstore : ∃ store, ofSettings renumbered staggered = .ok store ∧
      (store.profile 4).map (·.name) = .ok "UHD" ∧ store.fallback.name = "SD" :=
    ⟨_, rfl, by decide, by decide⟩
  obtain ⟨store, hread, hprofile, hfallback⟩ := hstore
  obtain ⟨husable, hserves, -⟩ := ofSettings_accepts_usable renumbered staggered
  have hnone : ofSettings renumbered (staggered.drop 1) = .error .missingGlobalDelayProfile := rfl
  refine ⟨⟨store, hread, hserves store hread, hprofile, hfallback⟩, husable.mp ⟨store, hread⟩, ?_⟩
  exact (ofSettings_accepts_usable renumbered (staggered.drop 1)).2.2 _ hnone

end ProfileStore

end Acquisition
