import Acquisition.Proofs.Queue.FirstSight
import Acquisition.Proofs.Queue.Tracking

/-!
# Downloads that are under way

A download is under way for a media item in a quality while it neither failed nor is gone and the
history said so at first sight.  It stays under way as long as its client keeps reporting it alive
and nothing from outside changes or gives it up.  A download that failed or is gone never comes
back.

## Main definitions

* `QueueStatus.Lives`: neither failed nor deleted.
* `InFlight`: the download is under way.
* `Poll.Confirms`: the client reports the download, alive every time.
* `TrackingCall.Spares`: a call that leaves the download under way.

## Main results

* `Poll.exists_lookup?`: what a poll says about a download that it reports, however often.
* `InFlight.run`: through calls that spare it, a download stays under way.
* `Poll.not_lives_lookup?`: what failed or is gone does not come back.
-/

namespace Acquisition

open TrackedDownloads

/-! ### Statuses -/

namespace QueueStatus

/-- Neither failed nor deleted. -/
def Lives (status : QueueStatus) : Prop :=
  status ≠ .failed ∧ status ≠ .deleted

instance : DecidablePred Lives := fun _ => inferInstanceAs (Decidable (_ ∧ _))

/-- A download that failed can only be deleted, and then nothing follows. -/
theorem not_lives_of_canBecome {status next : QueueStatus} (hstatus : ¬ status.Lives)
    (hnext : status.canBecome next = true) : ¬ next.Lives := by
  revert hstatus hnext
  cases status <;> cases next <;> decide

end QueueStatus

namespace TrackedDownload

variable {download : TrackedDownload} {item : DownloadItem}

theorem lives_update (hdownload : download.status.Lives) (hitem : item.status.Lives) :
    (download.update item).status.Lives := by
  rw [update]
  split
  · exact hitem
  · exact hdownload

theorem not_lives_update (hdownload : ¬ download.status.Lives) (item : DownloadItem) :
    ¬ (download.update item).status.Lives := by
  rw [update]
  split
  · next hnext => exact QueueStatus.not_lives_of_canBecome hdownload hnext
  · exact hdownload

theorem not_lives_miss (hdownload : ¬ download.status.Lives) (client : String)
    (seen : List TrackingKey) : ¬ (download.miss client seen).status.Lives := by
  rw [miss]
  split
  · exact fun hlives => hlives.2 rfl
  · exact hdownload

end TrackedDownload

/-! ### Reports of one download -/

theorem TakesIn.item_eq {before : Option TrackedDownload} {item : DownloadItem}
    {after : TrackedDownload} (h : TakesIn before item after) : after.item = item := by
  cases before with
  | none => exact h.1
  | some download => exact congrArg TrackedDownload.item h

namespace TrackedDownloads

variable {client : String} {protocol : Protocol} {now : Instant} {key : TrackingKey}

theorem reports_iff {item : DownloadItem} :
    reports client key item = true ↔ key = .of client item.downloadId :=
  beq_iff_eq.trans eq_comm

/-- What every report of a download keeps, all reports keep. -/
theorem lookup?_applySightings_keeps {q : Option TrackedDownload → Prop}
    {sightings : List Sighting} : ∀ {tracked : TrackedDownloads},
      (∀ sighting ∈ sightings, reports client key sighting.item = true →
        ∀ before after, q before → TakesIn before sighting.item after → q (some after)) →
      q (tracked.lookup? key) →
      q ((applySightings client protocol now sightings tracked).1.lookup? key) := by
  induction sightings with
  | nil => exact fun _ hq => hq
  | cons sighting sightings ih =>
    intro tracked hstep hq
    obtain ⟨hfirst, hrest⟩ := List.forall_mem_cons.mp hstep
    rw [applySightings_cons]
    refine ih hrest ?_
    by_cases hkey : key = .of client sighting.item.downloadId
    · obtain ⟨after, hafter, htakes⟩ := lookup?_applySighting_of_eq hkey
      rw [hafter]
      exact hfirst (reports_iff.mpr hkey) _ _ hq htakes
    · rw [lookup?_applySighting_of_ne hkey]
      exact hq

/-- The last report of a download is what is known of it. -/
theorem lookup?_applySightings_of_reported (protocol : Protocol) (now : Instant)
    {sightings : List Sighting} : ∀ tracked : TrackedDownloads,
      key ∈ reportedKeys client (sightings.map (·.item)) →
      ∃ download, (applySightings client protocol now sightings tracked).1.lookup? key =
          some download ∧
        download.item ∈ sightings.map (·.item) ∧ reports client key download.item = true := by
  induction sightings with
  | nil => exact fun _ hmem => absurd hmem List.not_mem_nil
  | cons sighting sightings ih =>
    intro tracked hmem
    let next := (tracked.applySighting client protocol now sighting).1
    rw [applySightings_cons]
    by_cases hrest : key ∈ reportedKeys client (sightings.map (·.item))
    · obtain ⟨download, hlookup, hitem, hreports⟩ := ih next hrest
      exact ⟨download, hlookup, List.mem_cons_of_mem _ hitem, hreports⟩
    · -- no report follows on the first one
      have hkey : key = .of client sighting.item.downloadId :=
        (List.mem_cons.mp hmem).resolve_right hrest
      obtain ⟨download, hlookup, htakes⟩ := lookup?_applySighting_of_eq hkey
      have hitem : download.item = sighting.item := TakesIn.item_eq htakes
      refine ⟨download, (lookup?_applySightings_of_not_mem hrest).trans hlookup, ?_, ?_⟩
      · rw [hitem]
        exact List.mem_cons_self
      · rw [hitem]
        exact reports_iff.mpr hkey

end TrackedDownloads

/-! ### Polls -/

namespace Poll

variable {σ : Type} {poll : Poll σ} {tracked : TrackedDownloads} {key : TrackingKey}

/-- The client reports the download under the key, and alive every time. -/
structure Confirms (poll : Poll σ) (key : TrackingKey) : Prop where
  reported : key ∈ poll.keys
  lives : ∀ item ∈ poll.items, reports poll.client key item = true → item.status.Lives

theorem lookup?_of_reported (hkey : key ∈ poll.keys) :
    (poll.apply tracked).lookup? key = (poll.reported tracked).lookup? key := by
  rw [apply_eq, lookup?_markGone]
  cases hlookup : (poll.reported tracked).lookup? key with
  | none => rfl
  | some download =>
    rw [Option.map_some, TrackedDownload.miss_of_mem]
    rwa [key_of_lookup? hlookup]

/-- **What a poll says about a download that it reports**, however often it does. -/
theorem exists_lookup? (tracked : TrackedDownloads) (hkey : key ∈ poll.keys) :
    ∃ download, (poll.apply tracked).lookup? key = some download ∧
      download.item ∈ poll.items ∧ reports poll.client key download.item = true := by
  have hreported : key ∈ reportedKeys poll.client ((poll.sightings tracked).map (·.item)) := by
    rw [sightings_items]
    exact hkey
  rw [lookup?_of_reported hkey]
  obtain ⟨download, hlookup, hitem, hreports⟩ :=
    lookup?_applySightings_of_reported poll.protocol poll.now tracked hreported
  rw [sightings_items] at hitem
  exact ⟨download, hlookup, hitem, hreports⟩

theorem mem_items {sighting : Sighting} (hmem : sighting ∈ poll.sightings tracked) :
    sighting.item ∈ poll.items := by
  rw [← poll.sightings_items tracked]
  exact List.mem_map_of_mem hmem

/-- A download that is reported alive every time lives, unless it had failed or was gone before. -/
theorem Confirms.lives_lookup? (hconfirms : poll.Confirms key)
    (hbefore : ∀ download, tracked.lookup? key = some download → download.status.Lives) :
    ∀ download, (poll.apply tracked).lookup? key = some download → download.status.Lives := by
  rw [lookup?_of_reported hconfirms.reported]
  refine lookup?_applySightings_keeps
    (q := fun found => ∀ download, found = some download → download.status.Lives)
    (fun sighting hmem hreports before after hlives htakes download hdownload => ?_) hbefore
  obtain rfl : after = download := Option.some.inj hdownload
  have hitem := hconfirms.lives sighting.item (mem_items hmem) hreports
  cases before with
  | none =>
    rw [htakes.2]
    exact hitem
  | some earlier =>
    rw [htakes]
    exact TrackedDownload.lives_update (hlives earlier rfl) hitem

/-- **What failed or is gone does not come back**, whatever its client reports. -/
theorem not_lives_lookup? (poll : Poll σ) {download : TrackedDownload}
    (hlookup : tracked.lookup? key = some download) (hdownload : ¬ download.status.Lives) :
    ∃ later, (poll.apply tracked).lookup? key = some later ∧ ¬ later.status.Lives := by
  have hreported : ∃ later, (poll.reported tracked).lookup? key = some later ∧
      ¬ later.status.Lives := by
    refine lookup?_applySightings_keeps
      (q := fun found => ∃ later, found = some later ∧ ¬ later.status.Lives)
      (fun sighting _ _ before after hbefore htakes => ?_) ⟨download, hlookup, hdownload⟩
    obtain ⟨earlier, rfl, hearlier⟩ := hbefore
    refine ⟨after, rfl, ?_⟩
    rw [htakes]
    exact TrackedDownload.not_lives_update hearlier sighting.item
  obtain ⟨later, hlater, hstatus⟩ := hreported
  rw [apply_eq, lookup?_markGone, hlater]
  exact ⟨_, rfl, TrackedDownload.not_lives_miss hstatus _ _⟩

end Poll

/-! ### Under way -/

/-- The download is under way for the media item in the quality. -/
structure InFlight (mediaId : MediaId) (quality : QualityModel) (download : TrackedDownload) :
    Prop where
  mediaId : download.mediaId = some mediaId
  quality : download.quality = quality
  state : download.state = .downloading
  lives : download.status.Lives

/-- The origin is that of a download under way. -/
structure Origin.Serves (mediaId : MediaId) (quality : QualityModel) (origin : Origin) : Prop where
  mediaId : origin.mediaId = some mediaId
  quality : origin.quality = quality
  state : origin.state = .downloading

theorem inFlight_iff {mediaId : MediaId} {quality : QualityModel} {download : TrackedDownload} :
    InFlight mediaId quality download ↔
      download.origin.Serves mediaId quality ∧ download.status.Lives :=
  ⟨fun h => ⟨⟨h.mediaId, h.quality, h.state⟩, h.lives⟩,
    fun h => ⟨h.1.mediaId, h.1.quality, h.1.state, h.2⟩⟩

namespace TrackingCall

variable {σ : Type}

/-- The call leaves a download under way, which is tracked under the key and has the identifier: if
it polls its client, then the client reports the download alive, and it does not change or give up
the download from outside. -/
def Spares (key : TrackingKey) (id : QueueItemId) : TrackingCall σ → Prop
  | .poll report => key.1 = Text.lowercase report.client → report.Confirms key
  | setState other _ => other ≠ id
  | stop other => other ≠ id

end TrackingCall

section

variable {σ : Type} {tracked : TrackedDownloads} {key : TrackingKey} {id : QueueItemId}
  {mediaId : MediaId} {quality : QualityModel} {download : TrackedDownload}

/-- What is found under the key after a call that spares the download: it still counts as
downloading, and lives. -/
theorem InFlight.lives_call {call : TrackingCall σ} (hsound : tracked.Sound)
    (hspares : call.Spares key id)
    (hlookup : tracked.lookup? key = some download) (hid : download.id = id)
    (h : InFlight mediaId quality download) {later : TrackedDownload}
    (hlater : (call.apply tracked).lookup? key = some later) :
    later.state = .downloading ∧ later.status.Lives := by
  cases call with
  | poll report =>
    by_cases hclient : key.1 = Text.lowercase report.client
    · have horigin := report.origin_lookup? tracked key
      have hafter : (report.apply tracked).lookup? key = some later := hlater
      rw [hafter, hlookup] at horigin
      have hstate : later.state = download.state :=
        congrArg Origin.state (Option.some.inj horigin)
      refine ⟨hstate.trans h.state, (hspares hclient).lives_lookup? ?_ later hafter⟩
      intro before hbefore
      rw [hlookup] at hbefore
      exact Option.some.inj hbefore ▸ h.lives
    · have hsame : (report.apply tracked).lookup? key = tracked.lookup? key :=
        Poll.lookup?_of_other hclient
      obtain rfl : download = later := Option.some.inj (hlookup.symm.trans (hsame.symm.trans hlater))
      exact ⟨h.state, h.lives⟩
  | setState other state =>
    have hafter : (TrackingCall.apply (.setState other state : TrackingCall σ) tracked).lookup? key =
        (tracked.lookup? key).map fun download =>
          if download.id == other then { download with state } else download :=
      lookup?_map (fun before => (advances_setState other state before).same.key) tracked key
    rw [hlookup, Option.map_some, if_neg] at hafter
    · obtain rfl : later = download := Option.some.inj (hlater.symm.trans hafter)
      exact ⟨h.state, h.lives⟩
    · rw [beq_iff_eq, hid]
      exact Ne.symm hspares
  | stop other =>
    -- what is left was tracked before
    have hmem := (List.mem_filter.mp (mem_of_lookup? hlater)).1
    have hbefore := hsound.lookup?_key hmem
    rw [key_of_lookup? hlater] at hbefore
    obtain rfl : download = later := Option.some.inj (hlookup.symm.trans hbefore)
    exact ⟨h.state, h.lives⟩

/-- **A call that spares a download leaves it under way.** -/
theorem InFlight.call {call : TrackingCall σ} (hsound : tracked.Sound) (hspares : call.Spares key id)
    (hlookup : tracked.lookup? key = some download) (hid : download.id = id)
    (h : InFlight mediaId quality download) :
    ∃ later, (call.apply tracked).lookup? key = some later ∧ later.id = id ∧
      InFlight mediaId quality later := by
  have hstopped : call.stopped? ≠ some download.id := by
    rw [hid]
    cases call with
    | stop other => exact fun hsome => hspares (Option.some.inj hsome)
    | _ => exact nofun
  obtain ⟨later, hmem, hcontinues⟩ := call.apply_continues (mem_of_lookup? hlookup) hstopped
  have hlater := (call.apply_sound hsound).lookup?_key hmem
  rw [hcontinues.same.key, key_of_lookup? hlookup] at hlater
  obtain ⟨hstate, hlives⟩ := h.lives_call hsound hspares hlookup hid hlater
  exact ⟨later, hlater, hcontinues.same.id.trans hid,
    ⟨hcontinues.same.mediaId.trans h.mediaId, hcontinues.same.quality.trans h.quality, hstate,
      hlives⟩⟩

/-- **Through calls that spare it, a download stays under way.** -/
theorem InFlight.run : ∀ (calls : List (TrackingCall σ)) {tracked : TrackedDownloads}
    {download : TrackedDownload}, tracked.Sound → (∀ call ∈ calls, call.Spares key id) →
      tracked.lookup? key = some download → download.id = id → InFlight mediaId quality download →
      ∃ later, (runFrom tracked calls).lookup? key = some later ∧ InFlight mediaId quality later := by
  intro calls
  induction calls with
  | nil => exact fun _ _ hlookup _ h => ⟨_, hlookup, h⟩
  | cons call calls ih =>
    intro tracked download hsound hcalls hlookup hid h
    obtain ⟨hfirst, hrest⟩ := List.forall_mem_cons.mp hcalls
    obtain ⟨middle, hmiddle, hmiddleId, hflight⟩ := h.call hsound hfirst hlookup hid
    exact ih (call.apply_sound hsound) hrest hmiddle hmiddleId hflight

end

/-! ### Answers -/

/-- What the log tells of every report of a download, and what holds of the origin of the download
that was tracked, holds of the origin of the one that is tracked afterwards. -/
theorem Report.origin_of_tells {p : Origin → Prop} {report : Report} {history : History}
    {tracked : TrackedDownloads} {key : TrackingKey}
    (htells : ∀ item ∈ report.items, reports report.client key item = true →
      p (.ofLog history item))
    (hbefore : ∀ download, tracked.lookup? key = some download → p download.origin) :
    ∀ download, ((report.against history).apply tracked).lookup? key = some download →
      p download.origin := by
  intro later hlater
  have horigin := report.origin_lookup? history tracked key
  rw [hlater] at horigin
  cases hlookup : tracked.lookup? key with
  | some download =>
    rw [hlookup] at horigin
    have hsame : later.origin = download.origin := Option.some.inj horigin
    rw [hsame]
    exact hbefore download hlookup
  | none =>
    -- found out from the first report
    rw [hlookup] at horigin
    obtain ⟨item, hfirst, htold⟩ := Option.map_eq_some_iff.mp horigin.symm
    have hreports := List.find?_some hfirst
    have hsame : later.origin = .ofLog history item := htold.symm
    rw [hsame]
    exact htells item (List.mem_of_find?_eq_some hfirst) hreports

/-- What is tracked after answers, one after the other, taken in with the same log. -/
def takeIn (history : History) (answers : List Report) (tracked : TrackedDownloads) :
    TrackedDownloads :=
  runFrom tracked (answers.map fun answer => .poll (answer.against history))

section

variable {key : TrackingKey} {mediaId : MediaId} {quality : QualityModel} {history : History}

theorem origin_takeIn {p : Origin → Prop} : ∀ {answers : List Report} {tracked : TrackedDownloads},
    (∀ answer ∈ answers, ∀ item ∈ answer.items, reports answer.client key item = true →
      p (.ofLog history item)) →
    (∀ download, tracked.lookup? key = some download → p download.origin) →
    ∀ download, (takeIn history answers tracked).lookup? key = some download →
      p download.origin := by
  intro answers
  induction answers with
  | nil => exact fun _ hbefore => hbefore
  | cons answer answers ih =>
    intro tracked htells hbefore
    obtain ⟨hfirst, hrest⟩ := List.forall_mem_cons.mp htells
    exact ih hrest (Report.origin_of_tells hfirst hbefore)

theorem lives_takeIn : ∀ {answers : List Report} {tracked : TrackedDownloads},
    (∀ answer ∈ answers, key.1 = Text.lowercase answer.client →
      (answer.against history).Confirms key) →
    (∀ download, tracked.lookup? key = some download → download.status.Lives) →
    ∀ download, (takeIn history answers tracked).lookup? key = some download →
      download.status.Lives := by
  intro answers
  induction answers with
  | nil => exact fun _ hbefore => hbefore
  | cons answer answers ih =>
    intro tracked hconfirms hbefore
    obtain ⟨hfirst, hrest⟩ := List.forall_mem_cons.mp hconfirms
    refine ih hrest fun download hlookup => ?_
    by_cases hclient : key.1 = Text.lowercase answer.client
    · exact (hfirst hclient).lives_lookup? hbefore download hlookup
    · have hsame : ((answer.against history).apply tracked).lookup? key = tracked.lookup? key :=
        Poll.lookup?_of_other hclient
      exact hbefore download (hsame.symm.trans hlookup)

/-- **Answers that confirm a download and are told that it is under way** leave nothing else under
its key. -/
theorem inFlight_takeIn {answers : List Report} {tracked : TrackedDownloads}
    (hconfirms : ∀ answer ∈ answers, key.1 = Text.lowercase answer.client →
      (answer.against history).Confirms key)
    (htells : ∀ answer ∈ answers, ∀ item ∈ answer.items,
      reports answer.client key item = true → (Origin.ofLog history item).Serves mediaId quality)
    (hbefore : ∀ download, tracked.lookup? key = some download →
      InFlight mediaId quality download) :
    ∀ download, (takeIn history answers tracked).lookup? key = some download →
      InFlight mediaId quality download := by
  intro download hlookup
  refine inFlight_iff.mpr ⟨?_, ?_⟩
  · exact origin_takeIn htells
      (fun before hbefore' => (inFlight_iff.mp (hbefore before hbefore')).1) download hlookup
  · exact lives_takeIn hconfirms (fun before hbefore' => (hbefore before hbefore').lives) download
      hlookup

/-- A download that is tracked stays as it was reported last, by one of the answers if any reports
it. -/
theorem item_takeIn (history : History) : ∀ (answers : List Report) {tracked : TrackedDownloads}
    {download : TrackedDownload}, tracked.lookup? key = some download →
      ∃ later, (takeIn history answers tracked).lookup? key = some later ∧
        (later.item = download.item ∨ ∃ answer ∈ answers, later.item ∈ answer.items ∧
          reports answer.client key later.item = true) := by
  intro answers
  induction answers with
  | nil => exact fun hlookup => ⟨_, hlookup, Or.inl rfl⟩
  | cons answer answers ih =>
    intro tracked download hlookup
    by_cases hkey : key ∈ (answer.against history).keys
    · obtain ⟨middle, hmiddle, hitem, hreports⟩ := Poll.exists_lookup? tracked hkey
      obtain ⟨later, hlater, hsame | ⟨other, hother, hlast⟩⟩ := ih hmiddle
      · refine ⟨later, hlater, Or.inr ⟨answer, List.mem_cons_self, ?_⟩⟩
        rw [hsame]
        exact ⟨hitem, hreports⟩
      · exact ⟨later, hlater, Or.inr ⟨other, List.mem_cons_of_mem _ hother, hlast⟩⟩
    · -- left out, it may be deleted, and stays as it was reported
      have hmiddle := Poll.lookup?_of_not_mem tracked hkey
      rw [hlookup, Option.map_some] at hmiddle
      have hkept : (download.miss answer.client (answer.against history).keys).item =
          download.item := by
        rw [TrackedDownload.miss]
        split <;> rfl
      obtain ⟨later, hlater, hsame | ⟨other, hother, hlast⟩⟩ := ih hmiddle
      · exact ⟨later, hlater, Or.inl (hsame.trans hkept)⟩
      · exact ⟨later, hlater, Or.inr ⟨other, List.mem_cons_of_mem _ hother, hlast⟩⟩

/-- **One answer that reports a download** is enough for it to be tracked, as one of the answers
reports it. -/
theorem exists_lookup?_takeIn : ∀ {answers : List Report} (tracked : TrackedDownloads),
    (∃ answer ∈ answers, key ∈ (answer.against history).keys) →
    ∃ download, (takeIn history answers tracked).lookup? key = some download ∧
      ∃ answer ∈ answers, download.item ∈ answer.items ∧
        reports answer.client key download.item = true := by
  intro answers
  induction answers with
  | nil => exact fun _ ⟨_, hmem, _⟩ => absurd hmem List.not_mem_nil
  | cons answer answers ih =>
    rintro tracked ⟨reporting, hmem, hkey⟩
    rcases List.mem_cons.mp hmem with rfl | hmem
    · obtain ⟨middle, hmiddle, hitem, hreports⟩ := Poll.exists_lookup? tracked hkey
      obtain ⟨later, hlater, hsame | ⟨other, hother, hlast⟩⟩ :=
        item_takeIn history answers hmiddle
      · refine ⟨later, hlater, reporting, List.mem_cons_self, ?_⟩
        rw [hsame]
        exact ⟨hitem, hreports⟩
      · exact ⟨later, hlater, other, List.mem_cons_of_mem _ hother, hlast⟩
    · obtain ⟨later, hlater, other, hother, hlast⟩ :=
        ih ((answer.against history).apply tracked) ⟨reporting, hmem, hkey⟩
      exact ⟨later, hlater, other, List.mem_cons_of_mem _ hother, hlast⟩

/-- What failed or is gone does not come back, whatever the clients answer. -/
theorem not_lives_takeIn (history : History) : ∀ (answers : List Report) {tracked : TrackedDownloads}
    {download : TrackedDownload}, tracked.lookup? key = some download →
      ¬ download.status.Lives →
      ∃ later, (takeIn history answers tracked).lookup? key = some later ∧
        ¬ later.status.Lives := by
  intro answers
  induction answers with
  | nil => exact fun hlookup hdownload => ⟨_, hlookup, hdownload⟩
  | cons answer answers ih =>
    intro tracked download hlookup hdownload
    obtain ⟨middle, hmiddle, hstatus⟩ :=
      (answer.against history).not_lives_lookup? hlookup hdownload
    exact ih hmiddle hstatus

end

end Acquisition
