import Acquisition.Proofs.Desk.Run
import Acquisition.Proofs.Queue.InFlight

/-!
# A grabbed release is seen

Between a grab and the first refresh that finds its download, only the history knows of the grab.
From then on the queue shows the download, and the rule about the queue keeps candidates away that
do not beat it.

The one thing that stands in the way is an earlier life of the download.  A client may give out a
number again, and what is still tracked under the number is not looked up anew: a download that
failed or is gone stays so.

## Main definitions

* `Desk.Finds`, `Desk.Sees`: a refresh in which the client reports the download, and alive.
* `Desk.Shows`: the queue shows the download.
* `Desk.Closed`: no candidate that does not beat the quality is accepted.
* `Desk.Spared`: a run that leaves the download under way.

## Main results

* `GrabRules.not_accepted_of_queued`: the rule about the queue.
* `Desk.grabbed_is_seen`: after a grab and a refresh, the download is shown and holds its place.
-/

namespace Acquisition

open TrackedDownloads

variable {σ : Type}

/-! ### The rule about the queue -/

namespace GrabRules

variable {candidate : GrabCandidate} {context : Option SearchContext} {s : σ}

/-- What is queued and did not fail objects to every candidate that does not rank above it. -/
theorem queueObjection?_isSome (policy : UpgradePolicy) {profile : Profile}
    {quality : QualityModel} {queued : QueuedRelease} (hfailed : queued.failed = false)
    (hbeaten : profile.cmp quality queued.quality ≠ .gt) :
    (queueObjection? policy profile quality queued).isSome = true := by
  have hupgrade : UpgradePolicy.isUpgrade profile queued.quality quality = false := by
    rw [UpgradePolicy.isUpgrade, beq_eq_false_iff_ne]
    exact hbeaten
  rw [queueObjection?, hfailed, hupgrade]
  cases UpgradePolicy.cutoffBlocks profile queued.quality quality <;> rfl

/-- **What is queued keeps candidates away that do not beat it.** -/
theorem not_accepted_of_queued {deps : GrabRules σ} {queued : QueuedRelease}
    (hqueued : queued ∈ deps.queued candidate.media.id) (hfailed : queued.failed = false)
    (hbeaten : candidate.profile.cmp candidate.quality queued.quality ≠ .gt) :
    (deps.engine.decide candidate context s).1 ≠ .accepted := by
  intro haccepted
  have hverdict := decide_accepts_iff.mp haccepted
    (queue (.ofSettings deps.settings) deps.queued) (by simp [rules])
  rw [queue_verdict] at hverdict
  have hobjects := queueObjection?_isSome (.ofSettings deps.settings) hfailed hbeaten
  cases hfind : (deps.queued candidate.media.id).findSome?
      (queueObjection? (.ofSettings deps.settings) candidate.profile candidate.quality) with
  | none =>
    rw [List.findSome?_eq_none_iff.mp hfind queued hqueued] at hobjects
    exact absurd hobjects Bool.false_ne_true
  | some decision =>
    obtain ⟨release, -, hobjection⟩ := List.exists_of_findSome?_eq_some hfind
    rw [hfind] at hverdict
    exact absurd hverdict (Decision.ne_accepted_of_isFinal (queueObjection?_isFinal hobjection))

end GrabRules

/-! ### What is queued -/

namespace InFlight

variable {mediaId : MediaId} {quality : QualityModel} {download : TrackedDownload}

theorem isVisible (h : InFlight mediaId quality download) : download.isVisible = true := by
  simp [TrackedDownload.isVisible, h.lives.2, h.state]

theorem mem_visible {tracked : TrackedDownloads} (hmem : download ∈ tracked.downloads)
    (h : InFlight mediaId quality download) : download ∈ tracked.visible := by
  rw [visible, List.mem_filter, listed, List.mem_mergeSort]
  exact ⟨hmem, h.isVisible⟩

/-- A download under way counts as queued for its media item, in its quality. -/
theorem queued {tracked : TrackedDownloads} (hmem : download ∈ tracked.downloads)
    (h : InFlight mediaId quality download) :
    ∃ release ∈ tracked.queuedFor mediaId, release.quality = quality ∧ release.failed = false := by
  have hfailed : download.hasFailed = false := by
    simp [TrackedDownload.hasFailed, h.lives.1, h.state]
  refine ⟨⟨download.item.title, download.quality, download.hasFailed⟩, ?_, h.quality, hfailed⟩
  refine List.mem_map.mpr ⟨download, List.mem_filter.mpr ⟨h.mem_visible hmem, ?_⟩, rfl⟩
  exact beq_iff_eq.mpr h.mediaId

end InFlight

/-! ### What the log tells of a grab -/

theorem History.forDownload_congr {first second : String}
    (hsame : Text.equalIgnoringCase first second = true) (history : History) :
    history.forDownload first = history.forDownload second := by
  have hconcerns : (fun record : HistoryRecord => record.concerns first) =
      fun record => record.concerns second := by
    funext record
    rw [HistoryRecord.concerns, HistoryRecord.concerns]
    cases record.downloadId with
    | none => rfl
    | some downloadId => exact Text.equalIgnoringCase_congr_right hsame downloadId
  rw [forDownload, forDownload, hconcerns]

/-- While a grab is the latest that the log says of a download, the download is under way for the
media item of the grab. -/
theorem Origin.serves_of_grab {history : History} {candidate : GrabCandidate} {downloadId : String}
    {now : Instant} {item : DownloadItem}
    (hlatest : (history.forDownload downloadId).head? =
      some (Desk.grabRecord candidate downloadId now))
    (hspelled : Text.equalIgnoringCase item.downloadId downloadId = true) :
    (Origin.ofLog history item).Serves candidate.media.id candidate.quality := by
  rw [Origin.ofLog, History.forDownload_congr hspelled]
  obtain ⟨records, hrecords⟩ := List.head?_eq_some_iff.mp hlatest
  rw [hrecords]
  exact ⟨rfl, rfl, rfl⟩

/-! ### One refresh -/

namespace Desk

variable {setup : Setup σ} {now : Instant} {client : DownloadClient σ} {downloadId : String}
  {mediaId : MediaId} {quality : QualityModel} {desk : Desk σ}

/-- The refresh finds the download: the client reports it, under no other number than its own, up
to the case of ASCII letters. -/
structure Finds (setup : Setup σ) (now : Instant) (client : DownloadClient σ) (downloadId : String)
    (desk : Desk σ) : Prop where
  reported : ∃ answer ∈ answers now setup.registry desk.clients,
    TrackingKey.of client.name downloadId ∈ (answer.against desk.history).keys
  spelled : ∀ answer ∈ answers now setup.registry desk.clients, ∀ item ∈ answer.items,
    reports answer.client (.of client.name downloadId) item = true →
      Text.equalIgnoringCase item.downloadId downloadId = true

/-- The refresh finds the download alive, whenever the client answers. -/
structure Sees (setup : Setup σ) (now : Instant) (client : DownloadClient σ) (downloadId : String)
    (desk : Desk σ) : Prop extends Finds setup now client downloadId desk where
  confirms : ∀ answer ∈ answers now setup.registry desk.clients,
    Text.lowercase client.name = Text.lowercase answer.client →
      (answer.against desk.history).Confirms (.of client.name downloadId)

/-- The queue shows the download for the media item, in a spelling of the number that is
reported. -/
def Shows (setup : Setup σ) (now : Instant) (mediaId : MediaId) (downloadId : String)
    (reported : List Report) (desk : Desk σ) : Prop :=
  ∃ shown ∈ desk.queue setup now, shown.mediaId = some mediaId ∧
    ∃ answer ∈ reported, ∃ item ∈ answer.items, shown.downloadId = some item.downloadId ∧
      Text.equalIgnoringCase item.downloadId downloadId = true

/-- No candidate for the media item that does not rank above the quality is accepted, in any context
and at any time. -/
def Closed (setup : Setup σ) (mediaId : MediaId) (quality : QualityModel) (desk : Desk σ) : Prop :=
  ∀ (now : Instant) (context : Option SearchContext) (candidate : GrabCandidate),
    candidate.media.id = mediaId → candidate.profile.cmp candidate.quality quality ≠ .gt →
      ((desk.grabRules setup now).engine.decide candidate context ()).1 ≠ .accepted

/-- The run leaves the download under the key under way: its client reports it alive whenever it
answers, and nobody removes it or changes its state. -/
def Spared (setup : Setup σ) (key : TrackingKey) (later : List (DeskEvent σ)) (desk : Desk σ) :
    Prop :=
  ∀ download, desk.tracked.lookup? key = some download →
    ∀ call ∈ desk.calls setup later, call.Spares key download.id

theorem refresh_tracked (setup : Setup σ) (now : Instant) (desk : Desk σ) :
    (desk.refresh setup now).2.tracked =
      takeIn desk.history (answers now setup.registry desk.clients) desk.tracked :=
  congrArg Desk.tracked (desk.refresh_eq setup now)

theorem Sound.refresh (hsound : desk.Sound) (setup : Setup σ) (now : Instant) :
    (desk.refresh setup now).2.Sound :=
  DeskEvent.apply_sound hsound setup (.refresh now)

/-- A desk on which a download is under way is closed to what does not beat it. -/
theorem closed_of_inFlight {key : TrackingKey} {download : TrackedDownload}
    (hlookup : desk.tracked.lookup? key = some download)
    (hflight : InFlight mediaId quality download) : desk.Closed setup mediaId quality := by
  rintro time context candidate rfl hbeaten
  obtain ⟨release, hmem, hquality, hfailed⟩ := hflight.queued (mem_of_lookup? hlookup)
  rw [← hquality] at hbeaten
  exact GrabRules.not_accepted_of_queued hmem hfailed hbeaten

/-- It stays closed through runs that spare the download. -/
theorem closed_run {key : TrackingKey} {download : TrackedDownload} (hsound : desk.Sound)
    (hlookup : desk.tracked.lookup? key = some download)
    (hflight : InFlight mediaId quality download) {later : List (DeskEvent σ)}
    (hspared : desk.Spared setup key later) :
    (desk.run setup later).Closed setup mediaId quality := by
  obtain ⟨last, hlast, hflight⟩ := InFlight.run (desk.calls setup later) hsound.tracked
    (hspared download hlookup) hlookup rfl hflight
  rw [← run_tracked setup later hsound] at hlast
  exact closed_of_inFlight hlast hflight

/-- **A refresh that finds the download** of the latest grab: the download is under way, as one of
the answers reports it, unless something else was tracked under its key. -/
theorem Sees.inFlight {candidate : GrabCandidate} {grabbed : Instant}
    (hsees : desk.Sees setup now client downloadId)
    (hlatest : (desk.history.forDownload downloadId).head? =
      some (grabRecord candidate downloadId grabbed))
    (hbefore : ∀ download, desk.tracked.lookup? (.of client.name downloadId) = some download →
      InFlight candidate.media.id candidate.quality download) :
    ∃ download, (desk.refresh setup now).2.tracked.lookup? (.of client.name downloadId) =
        some download ∧ InFlight candidate.media.id candidate.quality download ∧
      ∃ answer ∈ answers now setup.registry desk.clients,
        download.item ∈ answer.items ∧
        Text.equalIgnoringCase download.item.downloadId downloadId = true := by
  rw [refresh_tracked]
  obtain ⟨download, hlookup, last, hlast, hitem, hreports⟩ :=
    exists_lookup?_takeIn desk.tracked hsees.reported
  refine ⟨download, hlookup, ?_, last, hlast, hitem, hsees.spelled last hlast _ hitem hreports⟩
  refine inFlight_takeIn hsees.confirms (fun other hother item hmem hitem => ?_) hbefore
    download hlookup
  exact Origin.serves_of_grab hlatest (hsees.spelled other hother item hmem hitem)

/-- The queue shows what is under way. -/
theorem shows_of_inFlight {key : TrackingKey} {download : TrackedDownload} {answer : Report}
    {reported : List Report} (hlookup : desk.tracked.lookup? key = some download)
    (hflight : InFlight mediaId quality download) (hanswer : answer ∈ reported)
    (hitem : download.item ∈ answer.items)
    (hspelled : Text.equalIgnoringCase download.item.downloadId downloadId = true) :
    desk.Shows setup now mediaId downloadId reported := by
  refine ⟨.ofDownload now download, ?_, hflight.mediaId, answer, hanswer, download.item, hitem, rfl,
    hspelled⟩
  refine List.mem_append_left _ (List.mem_map_of_mem ?_)
  exact hflight.mem_visible (mem_of_lookup? hlookup)

/-- What is deleted is not shown. -/
theorem hidden_of_deleted (hsound : desk.Sound) {download : TrackedDownload}
    (hmem : download ∈ desk.tracked.downloads) (hdeleted : download.status = .deleted) :
    ∀ shown ∈ desk.queue setup now, shown.id ≠ download.id := by
  intro shown hshown hid
  rcases List.mem_append.mp hshown with hshown | hshown
  · obtain ⟨other, hother, rfl⟩ := List.mem_map.mp hshown
    obtain ⟨hlisted, hvisible⟩ := List.mem_filter.mp hother
    have hsame : other = download :=
      List.inj_on_of_nodup_map hsound.tracked.ids (List.mem_mergeSort.mp hlisted) hmem hid
    rw [hsame, TrackedDownload.isVisible, hdeleted] at hvisible
    exact absurd hvisible Bool.false_ne_true
  · obtain ⟨release, hrelease, rfl⟩ := List.mem_map.mp hshown
    exact id_ne_id hsound.tracked hsound.pending hrelease hmem hid

/-- **A leftover that failed or is gone** stays so over a refresh. -/
theorem refresh_not_lives (hsound : desk.Sound) {key : TrackingKey} {leftover : TrackedDownload}
    (hlookup : desk.tracked.lookup? key = some leftover) (hstatus : ¬ leftover.status.Lives) :
    ∃ download, (desk.refresh setup now).2.tracked.lookup? key = some download ∧
      ¬ download.status.Lives ∧ Continues leftover download := by
  have hpolls : ∀ call ∈ (answers now setup.registry desk.clients).map fun answer =>
      (.poll (answer.against desk.history) : TrackingCall Unit),
      call.stopped? ≠ some leftover.id := by
    intro call hcall
    obtain ⟨answer, -, rfl⟩ := List.mem_map.mp hcall
    exact nofun
  obtain ⟨download, hmem, hcontinues⟩ := run_continues _ (mem_of_lookup? hlookup) hpolls
  obtain ⟨later, hlater, hlaterStatus⟩ := not_lives_takeIn desk.history
    (answers now setup.registry desk.clients) hlookup hstatus
  have hsame : (desk.refresh setup now).2.tracked.lookup? key = some download := by
    have hseen : download ∈ (desk.refresh setup now).2.tracked.downloads := by
      rw [refresh_tracked]
      exact hmem
    have hfound := (hsound.refresh setup now).tracked.lookup?_key hseen
    rw [hcontinues.same.key, key_of_lookup? hlookup] at hfound
    exact hfound
  rw [← refresh_tracked, hsame] at hlater
  obtain rfl : download = later := Option.some.inj hlater
  exact ⟨download, hsame, hlaterStatus, hcontinues⟩

/-- **A grabbed release is seen, and holds its place.**  After a grab and whatever else, a refresh
finds the download while the grab is the latest that the log says of it.  If nothing was tracked under
its key, or only what is under way for the grab, then the queue shows the download, and while it is
spared no candidate is accepted that does not beat it.  What was tracked and had failed or was gone
stays so, and what was gone stays hidden. -/
theorem grabbed_is_seen {setup : Setup σ} {clients : σ} {earlier : List (DeskEvent σ)}
    {grabbed : Instant} {candidate : GrabCandidate} {downloadId : String}
    (hgrab : (((blank clients).run setup earlier).grab setup grabbed candidate).1 =
      .ok downloadId) :
    ∃ client, setup.registry.forProtocol? candidate.release.protocol = some client ∧
      ∀ (between : List (DeskEvent σ)) (now : Instant),
        let desk := (blank clients).run setup (earlier ++ .grab grabbed candidate :: between)
        let seen := (desk.refresh setup now).2
        let key := TrackingKey.of client.name downloadId
        desk.Sees setup now client downloadId →
        (desk.history.forDownload downloadId).head? =
          some (grabRecord candidate downloadId grabbed) →
        ((∀ leftover, desk.tracked.lookup? key = some leftover →
            InFlight candidate.media.id candidate.quality leftover) →
          seen.Shows setup now candidate.media.id downloadId
              (answers now setup.registry desk.clients) ∧
            ∀ later, seen.Spared setup key later →
              (seen.run setup later).Closed setup candidate.media.id candidate.quality) ∧
        ∀ leftover, desk.tracked.lookup? key = some leftover → ¬ leftover.status.Lives →
          (∃ download, seen.tracked.lookup? key = some download ∧ ¬ download.status.Lives) ∧
            (leftover.status = .deleted →
              ∀ shown ∈ seen.queue setup now, shown.id ≠ leftover.id) := by
  cases hclient : setup.registry.forProtocol? candidate.release.protocol with
  | none =>
    rw [grab, hclient] at hgrab
    cases hgrab
  | some client =>
    refine ⟨client, rfl, ?_⟩
    intro between now desk seen key hsees hlatest
    have hsound : desk.Sound := run_sound setup _ (.blank clients)
    refine ⟨fun hbefore => ?_, fun leftover hlookup hstatus => ?_⟩
    · obtain ⟨download, hlookup, hflight, answer, hanswer, hitem, hspelled⟩ :=
        hsees.inFlight hlatest hbefore
      refine ⟨shows_of_inFlight hlookup hflight hanswer hitem hspelled, fun later hspared => ?_⟩
      exact closed_run (hsound.refresh setup now) hlookup hflight hspared
    · obtain ⟨download, hlater, hlives, hcontinues⟩ := refresh_not_lives hsound hlookup hstatus
      refine ⟨⟨download, hlater, hlives⟩, fun hdeleted => ?_⟩
      have hdeleted := hcontinues.deleted hdeleted
      rw [← hcontinues.same.id]
      exact hidden_of_deleted (hsound.refresh setup now) (mem_of_lookup? hlater) hdeleted

end Desk

/-! ### A number that is given out again -/

/-- The download of the release as its client reports it. -/
def sabItem (status : QueueStatus) : DownloadItem where
  downloadId := "sab-1"
  title := GrabRules.freshRelease.title
  category := none
  size := 0
  left := 0
  timeLeft := none
  status
  outputPath := none
  message := none

/-- What the client answers. -/
def sabAnswer (items : List DownloadItem) (now : Instant) : Report :=
  ⟨"sab", .usenet, items, now⟩

theorem sab_confirms {status : QueueStatus} (hstatus : status.Lives) (now : Instant)
    (history : History) :
    ((sabAnswer [sabItem status] now).against history).Confirms (.of "sab" "sab-1") := by
  refine ⟨List.mem_singleton_self _, fun item hmem _ => ?_⟩
  rw [List.mem_singleton.mp hmem]
  exact hstatus

theorem sab_finds {desk : Desk (List MemoryClient)} {now : Instant} {item : DownloadItem}
    (hanswers : answers now sabSetup.registry desk.clients = [sabAnswer [item] now])
    (hid : item.downloadId = "sab-1") :
    desk.Finds sabSetup now (MemoryClient.client 0 sab) "sab-1" := by
  refine ⟨⟨_, hanswers ▸ List.mem_singleton_self _, ?_⟩, ?_⟩
  · rw [← hid]
    exact List.mem_singleton_self _
  · intro answer hmem other hother _
    rw [hanswers, List.mem_singleton] at hmem
    rw [hmem] at hother
    obtain rfl : other = item := List.mem_singleton.mp hother
    rw [hid]
    exact Text.equalIgnoringCase_refl _

theorem sab_sees {desk : Desk (List MemoryClient)} {now : Instant} {status : QueueStatus}
    (hanswers : answers now sabSetup.registry desk.clients = [sabAnswer [sabItem status] now])
    (hstatus : status.Lives) :
    desk.Sees sabSetup now (MemoryClient.client 0 sab) "sab-1" := by
  refine ⟨sab_finds hanswers rfl, fun answer hmem _ => ?_⟩
  rw [hanswers, List.mem_singleton] at hmem
  rw [hmem]
  exact sab_confirms hstatus now _

/-- The client had reported a download under the number and then left it out. -/
def sabLeftover : List (DeskEvent (List MemoryClient)) :=
  [.poll (sabAnswer [sabItem .downloading] 0), .poll (sabAnswer [] 0)]

open Desk GrabRules

/-- What the history says once the release is grabbed. -/
theorem sab_latest :
    ((History.empty.append (grabRecord freshCandidate "sab-1" 0)).forDownload "sab-1").head? =
      some (grabRecord freshCandidate "sab-1" 0) := by
  rw [History.forDownload, History.newestFirst_append]
  · rfl
  · decide
  · exact fun other hmem => absurd hmem List.not_mem_nil

/-- The leftover is deleted, and is all that is tracked. -/
theorem sab_leftover : ∃ leftover, leftover.id = .download 0 ∧ leftover.status = .deleted ∧
    leftover.key = .of "sab" "sab-1" ∧
    ((blank [sab]).run sabSetup (sabLeftover ++ [.grab 0 freshCandidate])).tracked.downloads =
      [leftover] := by
  have hviews : ((blank [sab]).run sabSetup
      (sabLeftover ++ [.grab 0 freshCandidate])).tracked.downloads.map
        (fun leftover => (leftover.id, leftover.status, leftover.key)) =
      [(.download 0, .deleted, .of "sab" "sab-1")] := rfl
  obtain ⟨leftover, hdownloads, hview⟩ := List.map_eq_singleton_iff.mp hviews
  simp only [Prod.mk.injEq] at hview
  exact ⟨leftover, hview.1, hview.2.1, hview.2.2, hdownloads⟩

/-- On a blank desk the download is shown and holds its place until after the next refresh; where
the number was given out before, it stays hidden. -/
theorem sab_grab_is_seen :
    (let desk := (blank [sab]).run sabSetup [.grab 0 freshCandidate]
      let seen := (desk.refresh sabSetup 0).2
      seen.Shows sabSetup 0 1 "sab-1" [sabAnswer [sabItem .queued] 0] ∧
        (seen.run sabSetup [.refresh 60]).Closed sabSetup 1 ⟨.hdtv1080p, ⟨1, 0⟩⟩) ∧
      (let desk := (blank [sab]).run sabSetup (sabLeftover ++ [.grab 0 freshCandidate])
        ∀ shown ∈ (desk.refresh sabSetup 0).2.queue sabSetup 0, shown.id ≠ .download 0) := by
  refine ⟨?_, ?_⟩
  · have hgrab : (((blank [sab]).run sabSetup []).grab sabSetup 0 freshCandidate).1 =
        .ok "sab-1" := rfl
    obtain ⟨client, hclient, hseen⟩ := grabbed_is_seen hgrab
    obtain rfl : MemoryClient.client 0 sab = client := Option.some.inj hclient
    have hnothing : ∀ leftover, ((blank [sab]).run sabSetup
        [.grab 0 freshCandidate]).tracked.lookup? (.of "sab" "sab-1") = some leftover →
          InFlight 1 ⟨.hdtv1080p, ⟨1, 0⟩⟩ leftover :=
      fun leftover hleftover => absurd hleftover nofun
    obtain ⟨hshows, hclosed⟩ := (hseen [] 0 (sab_sees rfl (by decide)) sab_latest).1 hnothing
    refine ⟨hshows, hclosed [.refresh 60] fun download _ call hcall => ?_⟩
    obtain rfl : call = .poll ((sabAnswer [sabItem .queued] 60).against _) :=
      List.mem_singleton.mp hcall
    exact fun _ => sab_confirms (by decide) 60 _
  · have hgrab : (((blank [sab]).run sabSetup sabLeftover).grab sabSetup 0 freshCandidate).1 =
        .ok "sab-1" := rfl
    obtain ⟨client, hclient, hseen⟩ := grabbed_is_seen hgrab
    obtain rfl : MemoryClient.client 0 sab = client := Option.some.inj hclient
    obtain ⟨leftover, hid, hstatus, hkey, hdownloads⟩ := sab_leftover
    have hlookup : ((blank [sab]).run sabSetup
        (sabLeftover ++ [.grab 0 freshCandidate])).tracked.lookup? (.of "sab" "sab-1") =
          some leftover := by
      rw [lookup?, hdownloads, List.find?_singleton, hkey, beq_self_eq_true, if_pos rfl]
    have hgone : ¬ leftover.status.Lives := by
      rw [hstatus]
      decide
    have hhidden := ((hseen [] 0 (sab_sees rfl (by decide)) sab_latest).2 leftover hlookup hgone).2
      hstatus
    rw [hid] at hhidden
    exact hhidden

/-- A grabbed release need not be seen: where the client gives out a number again whose download
is gone, the new download stays hidden as well. -/
theorem not_grabbed_is_seen : ¬ ∀ (setup : Setup (List MemoryClient)) (clients : List MemoryClient)
    (earlier : List (DeskEvent (List MemoryClient))) (grabbed : Instant)
    (candidate : GrabCandidate) (downloadId : String) (client : DownloadClient (List MemoryClient)),
    (((blank clients).run setup earlier).grab setup grabbed candidate).1 = .ok downloadId →
    setup.registry.forProtocol? candidate.release.protocol = some client →
    ∀ now,
      let desk := (blank clients).run setup (earlier ++ [.grab grabbed candidate])
      let seen := (desk.refresh setup now).2
      desk.Sees setup now client downloadId →
        seen.Shows setup now candidate.media.id downloadId
            (answers now setup.registry desk.clients) ∧
          ∀ later, seen.Spared setup (.of client.name downloadId) later →
            (seen.run setup later).Closed setup candidate.media.id candidate.quality := by
  intro hseen
  obtain ⟨⟨shown, hshown, -, answer, -, item, -, hid, -⟩, -⟩ :=
    hseen sabSetup [sab] sabLeftover 0 freshCandidate "sab-1" (MemoryClient.client 0 sab) rfl rfl 0
      (sab_sees rfl (by decide))
  -- nothing is pending, and all that is tracked is deleted
  have hstatuses : (((blank [sab]).run sabSetup (sabLeftover ++ [.grab 0 freshCandidate])).refresh
      sabSetup 0).2.tracked.downloads.map (·.status) = [.deleted] := rfl
  rcases List.mem_append.mp hshown with hshown | hshown
  · obtain ⟨download, hdownload, -⟩ := List.mem_map.mp hshown
    obtain ⟨hlisted, hvisible⟩ := List.mem_filter.mp hdownload
    have hstatus := List.mem_map_of_mem (f := (·.status)) (List.mem_mergeSort.mp hlisted)
    rw [hstatuses, List.mem_singleton] at hstatus
    rw [TrackedDownload.isVisible, hstatus] at hvisible
    exact absurd hvisible Bool.false_ne_true
  · exact absurd hshown List.not_mem_nil

end Acquisition
