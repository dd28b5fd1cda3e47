import Acquisition.Proofs.Desk.Sighting

/-!
# Blocking a grabbed release

A download that is removed for good leaves an entry on the blocklist, and the blocklist is never
written over.  The entry knows the download as its client does: by the number, which torrents have
for their info hash, and by the title that the client shows.  A release that is known by neither is
not kept away.

## Main definitions

* `Desk.Barred`: the release is never accepted for the media item any more.

## Main results

* `BlockEntry.ofDownload_blocks_iff`: which releases the entry of a download blocks.
* `Desk.barred_iff_blocks`: what is barred is what is blocked.
* `Desk.grabbed_is_barred_iff`: when removing the download of a grab bars the release.
-/

namespace Acquisition

open TrackedDownloads

variable {σ : Type}

/-! ### The blocklist -/

theorem Blocklist.blocks_append (first second : Blocklist) (mediaId : MediaId) (release : Release) :
    Blocklist.blocks (first ++ second) mediaId release =
      (first.blocks mediaId release || second.blocks mediaId release) :=
  List.any_append

/-- What a blocklist blocks, it blocks when more is written behind it. -/
theorem Blocklist.blocks_of_prefix {first second : Blocklist} {mediaId : MediaId}
    {release : Release} (hlonger : first <+: second) (hblocks : first.blocks mediaId release = true) :
    second.blocks mediaId release = true := by
  obtain ⟨more, rfl⟩ := hlonger
  rw [blocks_append, hblocks, Bool.true_or]

/-- The entry names the download by the info hash of the release. -/
theorem BlockEntry.sharesHash_iff {entry : BlockEntry} {downloadId : String} {release : Release}
    (hid : entry.downloadId = some downloadId) :
    entry.sharesHash release = true ↔
      ∃ hash, release.infoHash = some hash ∧ Text.equalIgnoringCase downloadId hash = true := by
  rw [sharesHash, hid]
  cases release.infoHash with
  | none => simp
  | some hash => simp

/-- **Which releases the entry of a download blocks**: those that have the number of the download
for their info hash, and those of its indexer that have the title that its client shows. -/
theorem BlockEntry.ofDownload_blocks_iff {linked mediaId : MediaId} {title : String}
    {indexer : Option String} {protocol : Protocol} {quality : QualityModel}
    {downloadId message : String} {now : Instant} {release : Release} :
    (ofDownload linked title indexer protocol quality downloadId message now).blocks mediaId
        release = true ↔
      linked = mediaId ∧
        ((∃ hash, release.infoHash = some hash ∧ Text.equalIgnoringCase downloadId hash = true) ∨
          Text.equalIgnoringCase title release.title = true ∧ indexer = some release.indexer) := by
  have hhash : (ofDownload linked title indexer protocol quality downloadId message now).sharesHash
      release = true ↔
        ∃ hash, release.infoHash = some hash ∧ Text.equalIgnoringCase downloadId hash = true :=
    sharesHash_iff rfl
  rw [blocks, Bool.and_eq_true, Bool.or_eq_true, Bool.or_eq_true, Bool.and_eq_true, hhash]
  simp [ofDownload]

/-- What blocking a download of a release blocks of it. -/
theorem blockEntries_blocks_iff {download : TrackedDownload} {mediaId : MediaId}
    {release : Release} {now : Instant} (hmediaId : download.mediaId = some mediaId)
    (hindexer : download.indexer = some release.indexer) :
    Blocklist.blocks (blockEntries download now) mediaId release = true ↔
      (∃ hash, release.infoHash = some hash ∧
        Text.equalIgnoringCase download.item.downloadId hash = true) ∨
      Text.equalIgnoringCase download.item.title release.title = true := by
  rw [blockEntries, hmediaId, Option.toList_some, List.map_singleton, Blocklist.blocks,
    List.any_cons, List.any_nil, Bool.or_false]
  refine BlockEntry.ofDownload_blocks_iff.trans ?_
  simp [hindexer]

namespace GrabRules

/-- **What is blocked is not accepted.** -/
theorem not_accepted_of_blocked {deps : GrabRules σ} {candidate : GrabCandidate}
    {context : Option SearchContext} {s : σ}
    (hblocked : deps.blocklist.blocks candidate.media.id candidate.release = true) :
    (deps.engine.decide candidate context s).1 ≠ .accepted := by
  intro haccepted
  have hverdict := decide_accepts_iff.mp haccepted (blocklisted deps.blocklist) (by simp [rules])
  rw [blocklisted_accepts_iff, ← Blocklist.blocks_eq_false, hblocked] at hverdict
  exact absurd hverdict.symm Bool.false_ne_true

/-- A user who searches does not wait. -/
theorem delay_accepts_userInvoked {candidate : GrabCandidate} (policy : UpgradePolicy)
    (store : ProfileStore) (now : Instant) (s : σ) :
    (delay policy store now).verdict candidate (some .userInvoked) s = .accepted := rfl

/-- **What is admissible and old enough is accepted when a user searches.** -/
theorem decide_accepts_userInvoked {deps : GrabRules σ} {candidate : GrabCandidate} {s : σ}
    (hadmissible : Admissible deps candidate s) (hold : ¬ TooYoung deps candidate) :
    (deps.engine.decide candidate (some .userInvoked) s).1 = .accepted := by
  have hlasting := (lasting_accept_iff deps candidate (some .userInvoked) s).mpr hadmissible
  refine decide_accepts_iff.mpr fun rule hmem => ?_
  cases hgate : isTimeGate rule.name with
  | false => exact hlasting rule (mem_lastingRules.mpr ⟨hmem, hgate⟩)
  | true =>
    have hgates : rule ∈ deps.rules.filter fun rule => isTimeGate rule.name :=
      List.mem_filter.mpr ⟨hmem, hgate⟩
    rw [gates_eq] at hgates
    rcases List.mem_pair.mp hgates with rfl | rfl
    · exact minimumAge_accepts _ s hold
    · exact delay_accepts_userInvoked _ _ _ s

end GrabRules

/-! ### A candidate that nothing but the blocklist rejects -/

theorem Release.age_add (release : Release) (span : Span) :
    release.age (release.published + span) = span := by
  rw [age, Int.add_comm, Int.add_sub_cancel]

/-- A profile that wants one quality. -/
def Profile.only (quality : Quality) : Profile where
  id := 1
  name := quality.name
  items := [⟨quality, true⟩]
  cutoff := quality
  upgradeAllowed := true

theorem Profile.only_isAllowed (quality : Quality) : (only quality).isAllowed quality = true := by
  simp [isAllowed, rank, indexOf?, only, wants, Quality.same_iff]

theorem Profile.cmp_self (profile : Profile) (quality : QualityModel) :
    profile.cmp quality quality = .eq := by
  simp [cmp, cmpQuality, Revision.cmp]

/-- The release for a media item without tags and without a file, under a profile that wants its
quality. -/
def GrabCandidate.plain (mediaId : MediaId) (release : Release) (quality : QualityModel) :
    GrabCandidate where
  release
  parsed := { (default : ParsedRelease) with quality }
  media := { (default : Media) with id := mediaId, tags := [], file := none }
  profile := .only quality.quality
  downloadId := none

/-- The quality that the release was grabbed in, if it was. -/
def History.grabbedQuality (history : History) (release : Release) : QualityModel :=
  match release.infoHash.bind fun hash =>
    (history.forDownload hash).find? (·.event == .grabbed) with
  | some record => record.quality
  | none => default

theorem GrabCandidate.plain_agreesWithGrab (mediaId : MediaId) (release : Release)
    (history : History) :
    AgreesWithGrab (.ofHistory history) (plain mediaId release (history.grabbedQuality release))
      () := by
  intro hash hhash
  refine ⟨_, (), rfl, fun record hrecord => ?_⟩
  have hinfoHash : release.infoHash = some hash := hhash
  have hquality : history.grabbedQuality release = record.quality := by
    rw [History.grabbedQuality, hinfoHash, Option.bind_some, hrecord]
  rw [hquality]
  exact Profile.cmp_self _ _

namespace Desk

variable {setup : Setup σ} {mediaId : MediaId} {release : Release} {desk : Desk σ}

/-- Whatever happens, the release is not accepted for the media item any more, in any context and
at any time. -/
def Barred (setup : Setup σ) (mediaId : MediaId) (release : Release) (desk : Desk σ) : Prop :=
  ∀ (later : List (DeskEvent σ)) (now : Instant) (context : Option SearchContext)
    (candidate : GrabCandidate), candidate.media.id = mediaId → candidate.release = release →
      (((desk.run setup later).grabRules setup now).engine.decide candidate context ()).1 ≠
        .accepted

/-- **What is blocked once is barred for good.** -/
theorem barred_of_blocks (hsound : desk.Sound)
    (hblocks : desk.blocklist.blocks mediaId release = true) : desk.Barred setup mediaId release := by
  rintro later now context candidate rfl rfl
  refine GrabRules.not_accepted_of_blocked ?_
  exact Blocklist.blocks_of_prefix (run_extends setup later hsound).blocklist hblocks

/-- Giving up downloads leaves the others, and the blocklist as it is. -/
theorem run_stop (setup : Setup σ) : ∀ (ids : List QueueItemId) (desk : Desk σ),
    (desk.run setup (ids.map .stop)).tracked.downloads =
        desk.tracked.downloads.filter (fun download => !ids.contains download.id) ∧
      (desk.run setup (ids.map .stop)).blocklist = desk.blocklist := by
  intro ids
  induction ids with
  | nil => exact fun desk => ⟨(List.filter_eq_self.mpr fun _ _ => rfl).symm, rfl⟩
  | cons id ids ih =>
    intro desk
    obtain ⟨hdownloads, hblocklist⟩ := ih ((DeskEvent.stop id).apply setup desk)
    rw [List.map_cons, run_cons, hdownloads, hblocklist]
    refine ⟨?_, rfl⟩
    rw [DeskEvent.apply, TrackedDownloads.stopTracking, List.filter_filter]
    refine List.filter_congr fun download _ => ?_
    rw [List.contains_cons, Bool.not_or, Bool.and_comm]
    rfl

/-- **What is not blocked may be accepted yet**: once nothing is tracked any more and the release
is old enough, when a user searches. -/
theorem not_barred_of_not_blocks {setup : Setup σ} {mediaId : MediaId} {release : Release}
    {desk : Desk σ} (hblocks : desk.blocklist.blocks mediaId release = false) :
    ¬ desk.Barred setup mediaId release := by
  intro hbarred
  let later : List (DeskEvent σ) := (desk.tracked.downloads.map (·.id)).map .stop
  let last := desk.run setup later
  obtain ⟨hdownloads, hblocklist⟩ : last.tracked.downloads = _ ∧ last.blocklist = _ :=
    run_stop setup _ desk
  have hnothing : last.tracked.downloads = [] := by
    rw [hdownloads, List.filter_eq_nil_iff]
    intro download hmem
    simp [List.mem_map_of_mem hmem]
  have hqueued : last.tracked.queuedFor mediaId = [] := by
    rw [queuedFor, visible, listed, hnothing, List.mergeSort_nil]
    rfl
  let candidate := GrabCandidate.plain mediaId release (last.history.grabbedQuality release)
  let now := release.published + Span.ofMinutes setup.settings.minimumAgeMinutes
  refine hbarred later now (some .userInvoked) candidate rfl rfl
    (GrabRules.decide_accepts_userInvoked ?_ ?_)
  · exact {
      tags := Or.inr (Or.inl rfl)
      wanted := Profile.only_isAllowed _
      file := fun _ hfile => absurd hfile (Option.some_ne_none _).symm
      unblocked := by
        rw [← Blocklist.blocks_eq_false]
        exact (congrArg (Blocklist.blocks · mediaId release) hblocklist).trans hblocks
      regrab := GrabCandidate.plain_agreesWithGrab mediaId release last.history
      queued := fun queued hmem => absurd (hqueued ▸ hmem : queued ∈ []) List.not_mem_nil }
  · rintro ⟨-, -, hyoung⟩
    exact absurd hyoung (Int.not_lt.mpr (Int.le_of_eq (release.age_add _).symm))

/-- **What is barred is what is blocked.** -/
theorem barred_iff_blocks (hsound : desk.Sound) :
    desk.Barred setup mediaId release ↔ desk.blocklist.blocks mediaId release = true := by
  refine ⟨fun hbarred => ?_, barred_of_blocks hsound⟩
  cases hblocks : desk.blocklist.blocks mediaId release with
  | true => rfl
  | false => exact absurd hbarred (not_barred_of_not_blocks hblocks)

/-! ### The removal of a download -/

/-- A download that is removed and blocked is written down. -/
theorem blocklist_of_remove {now : Instant} {serial : Nat} {fromClient : Bool} {after : Desk σ}
    {registry : ClientRegistry σ} (hsound : desk.Sound)
    (h : Removes registry now (.download serial) ⟨fromClient, true⟩ desk (.ok ()) after) :
    ∃ download ∈ desk.tracked.downloads, download.id = .download serial ∧
      after.blocklist = desk.blocklist ++ blockEntries download now := by
  cases h with
  | pending htracked hsplit hid =>
    -- pending releases have other identifiers
    have hmem := hsplit ▸ List.mem_append_right _ List.mem_cons_self
    obtain ⟨other, -, hother⟩ := hsound.pending.serials _ hmem
    rw [hid] at hother
    exact absurd hother nofun
  | @download front back download clients hpending hsplit hid hlinked hasks =>
    refine ⟨download, ?_, hid, rfl⟩
    rw [hsplit]
    exact List.mem_append_right _ List.mem_cons_self

end Desk

/-- While a grab is the latest grab that the log says of a download, the download is of its media
item and its indexer. -/
theorem Origin.linked_of_grab {history : History} {candidate : GrabCandidate} {downloadId : String}
    {now : Instant} {item : DownloadItem}
    (hlatest : (history.forDownload downloadId).find? (·.event == .grabbed) =
      some (Desk.grabRecord candidate downloadId now))
    (hspelled : Text.equalIgnoringCase item.downloadId downloadId = true) :
    (Origin.ofLog history item).mediaId = some candidate.media.id ∧
      (Origin.ofLog history item).indexer = some candidate.release.indexer := by
  rw [Origin.ofLog, History.forDownload_congr hspelled]
  cases hrecords : history.forDownload downloadId with
  | nil =>
    rw [hrecords] at hlatest
    cases hlatest
  | cons latest records =>
    rw [hrecords] at hlatest
    simp only [Origin.ofRecords, hlatest]
    exact ⟨rfl, rfl⟩

namespace Desk

/-- A refresh that finds a download for the first time links it to the latest grab. -/
theorem Finds.linked {setup : Setup σ} {now grabbed : Instant} {client : DownloadClient σ}
    {downloadId : String} {candidate : GrabCandidate} {desk : Desk σ}
    (hfinds : desk.Finds setup now client downloadId)
    (hlatest : (desk.history.forDownload downloadId).find? (·.event == .grabbed) =
      some (grabRecord candidate downloadId grabbed))
    (hfresh : desk.tracked.lookup? (.of client.name downloadId) = none) :
    ∃ download, (desk.refresh setup now).2.tracked.lookup? (.of client.name downloadId) =
        some download ∧ download.mediaId = some candidate.media.id ∧
      download.indexer = some candidate.release.indexer := by
  rw [refresh_tracked]
  obtain ⟨download, hlookup, -⟩ := exists_lookup?_takeIn desk.tracked hfinds.reported
  refine ⟨download, hlookup, ?_⟩
  refine origin_takeIn (p := fun origin => origin.mediaId = some candidate.media.id ∧
    origin.indexer = some candidate.release.indexer) (fun answer hanswer item hitem hreports => ?_)
    (fun before hbefore => ?_) download hlookup
  · exact Origin.linked_of_grab hlatest (hfinds.spelled answer hanswer item hitem hreports)
  · rw [hfresh] at hbefore
    exact absurd hbefore nofun

/-- What a later removal of a download, which was found for a release, blocks of the release. -/
theorem blocks_iff_of_remove {setup : Setup σ} {seen : Desk σ} (hsound : seen.Sound)
    {sighted : TrackedDownload} {mediaId : MediaId} {release : Release}
    (hsighted : sighted ∈ seen.tracked.downloads) (hmediaId : sighted.mediaId = some mediaId)
    (hindexer : sighted.indexer = some release.indexer) {later : List (DeskEvent σ)}
    {time : Instant} {fromClient : Bool}
    (hremoved : ((seen.run setup later).remove setup time sighted.id ⟨fromClient, true⟩).1 =
      .ok ()) :
    ∃ download ∈ (seen.run setup later).tracked.downloads, download.id = sighted.id ∧
      (((seen.run setup later).remove setup time sighted.id
            ⟨fromClient, true⟩).2.blocklist.blocks mediaId release = true ↔
        (seen.run setup later).blocklist.blocks mediaId release = true ∨
          (∃ hash, release.infoHash = some hash ∧
            Text.equalIgnoringCase download.item.downloadId hash = true) ∨
          Text.equalIgnoringCase download.item.title release.title = true) := by
  have hlast : (seen.run setup later).Sound := run_sound setup later hsound
  have hremoves := remove_removes hlast.tracked hlast.pending setup time sighted.id
    ⟨fromClient, true⟩
  rw [hremoved] at hremoves
  obtain ⟨serial, -, hserial⟩ := hsound.tracked.serials sighted hsighted
  rw [hserial] at hremoves ⊢
  obtain ⟨download, hmem, hid, hblocklist⟩ := blocklist_of_remove hlast hremoves
  -- it is the download that was found, however its client shows it by now
  have hsame : SameDownload sighted download :=
    (run_descends setup later hsound).same hsound.tracked hsighted hmem (hid.trans hserial.symm)
  refine ⟨download, hmem, hid, ?_⟩
  rw [hblocklist, Blocklist.blocks_append, Bool.or_eq_true, blockEntries_blocks_iff
    (hsame.mediaId.trans hmediaId) (hsame.indexer.trans hindexer)]

/-- **When removing the download of a grab bars the release.**  A release is grabbed, a refresh
finds its download for the first time while the grab is the latest one of it, and later, whatever
happens in between, the download is removed and blocked.  Then the release is barred exactly if it
was blocked before, has the number of the download for its info hash, or has the title that the
client shows. -/
theorem grabbed_is_barred_iff {setup : Setup σ} {clients : σ} {earlier : List (DeskEvent σ)}
    {grabbed : Instant} {candidate : GrabCandidate} {downloadId : String}
    (hgrab : (((blank clients).run setup earlier).grab setup grabbed candidate).1 =
      .ok downloadId) :
    ∃ client, setup.registry.forProtocol? candidate.release.protocol = some client ∧
      ∀ (between : List (DeskEvent σ)) (now : Instant),
        let desk := (blank clients).run setup (earlier ++ .grab grabbed candidate :: between)
        let seen := (desk.refresh setup now).2
        let key := TrackingKey.of client.name downloadId
        desk.Finds setup now client downloadId → desk.tracked.lookup? key = none →
        (desk.history.forDownload downloadId).find? (·.event == .grabbed) =
          some (grabRecord candidate downloadId grabbed) →
        ∃ sighted, seen.tracked.lookup? key = some sighted ∧
          ∀ (later : List (DeskEvent σ)) (time : Instant) (fromClient : Bool),
            let last := seen.run setup later
            let removed := last.remove setup time sighted.id ⟨fromClient, true⟩
            removed.1 = .ok () →
            ∃ download ∈ last.tracked.downloads, download.id = sighted.id ∧
              (removed.2.Barred setup candidate.media.id candidate.release ↔
                last.blocklist.blocks candidate.media.id candidate.release = true ∨
                  (∃ hash, candidate.release.infoHash = some hash ∧
                    Text.equalIgnoringCase download.item.downloadId hash = true) ∨
                  Text.equalIgnoringCase download.item.title candidate.release.title = true) := by
  cases hclient : setup.registry.forProtocol? candidate.release.protocol with
  | none =>
    rw [grab, hclient] at hgrab
    cases hgrab
  | some client =>
    refine ⟨client, rfl, ?_⟩
    intro between now desk seen key hfinds hfresh hlatest
    obtain ⟨sighted, hsighted, hmediaId, hindexer⟩ := hfinds.linked hlatest hfresh
    refine ⟨sighted, hsighted, ?_⟩
    intro later time fromClient last removed hremoved
    have hsound : seen.Sound := (run_sound setup _ (.blank clients)).refresh setup now
    obtain ⟨download, hmem, hid, hiff⟩ :=
      blocks_iff_of_remove hsound (mem_of_lookup? hsighted) hmediaId hindexer hremoved
    have hafter : removed.2.Sound := DeskEvent.apply_sound (run_sound setup later hsound) setup
      (.remove time sighted.id ⟨fromClient, true⟩)
    exact ⟨download, hmem, hid, (barred_iff_blocks hafter).trans hiff⟩

end Desk

/-! ### A title that the client makes up -/

open Desk GrabRules

/-- The client shows its downloads under a title of its own. -/
def sabRename : DeskEvent (List MemoryClient) :=
  .elsewhere (List.map fun client =>
    { client with items := client.items.map ({ · with title := "a1b2c3d4" }) }) id id

theorem sab_latestGrab :
    ((History.empty.append (grabRecord freshCandidate "sab-1" 0)).forDownload "sab-1").find?
      (·.event == .grabbed) = some (grabRecord freshCandidate "sab-1" 0) := by
  obtain ⟨records, hrecords⟩ := List.head?_eq_some_iff.mp sab_latest
  rw [hrecords]
  rfl

/-- Where the client shows the title of the release, removing the download bars the release. -/
theorem sab_grab_is_barred :
    (((blank [sab]).run sabSetup sabGrab).remove sabSetup 1 (.download 0) ⟨true, true⟩).2.Barred
      sabSetup 1 freshRelease := by
  have hgrab : (((blank [sab]).run sabSetup []).grab sabSetup 0 freshCandidate).1 =
      .ok "sab-1" := rfl
  obtain ⟨client, hclient, hfound⟩ := grabbed_is_barred_iff hgrab
  obtain rfl : MemoryClient.client 0 sab = client := Option.some.inj hclient
  obtain ⟨sighted, hsighted, hremoved⟩ := hfound [] 0 (sab_finds rfl rfl) rfl sab_latestGrab
  have hid : (((blank [sab]).run sabSetup sabGrab).tracked.lookup? (.of "sab" "sab-1")).map (·.id) =
      some (.download 0) := rfl
  obtain ⟨other, hother, hid⟩ := Option.map_eq_some_iff.mp hid
  obtain rfl : sighted = other := Option.some.inj (hsighted.symm.trans hother)
  rw [hid] at hremoved
  obtain ⟨download, hmem, -, hiff⟩ := hremoved [] 1 true rfl
  have htitles : ((blank [sab]).run sabSetup sabGrab).tracked.downloads.map (·.item.title) =
      [freshRelease.title] := rfl
  have htitle : download.item.title = freshRelease.title := by
    have hmem := List.mem_map_of_mem (f := (·.item.title)) hmem
    exact List.mem_singleton.mp (htitles ▸ hmem)
  refine hiff.mpr (Or.inr (Or.inr ?_))
  rw [htitle]
  exact Text.equalIgnoringCase_refl _

/-- The release is grabbed, and the client reports its download under a title of its own. -/
def sabRenamed : Desk (List MemoryClient) :=
  (((blank [sab]).run sabSetup [.grab 0 freshCandidate, sabRename]).refresh sabSetup 0).2

/-- A removed release need not be barred: where the client shows the download under another title,
the release is accepted again. -/
theorem not_grabbed_is_barred : ¬ ∀ (setup : Setup (List MemoryClient))
    (clients : List MemoryClient) (grabbed : Instant) (candidate : GrabCandidate)
    (downloadId : String) (client : DownloadClient (List MemoryClient)),
    ((blank clients).grab setup grabbed candidate).1 = .ok downloadId →
    setup.registry.forProtocol? candidate.release.protocol = some client →
    ∀ (between : List (DeskEvent (List MemoryClient))) (now : Instant),
      let desk := (blank clients).run setup (.grab grabbed candidate :: between)
      let seen := (desk.refresh setup now).2
      desk.Finds setup now client downloadId →
      ∀ sighted, seen.tracked.lookup? (.of client.name downloadId) = some sighted →
        ∀ (time : Instant) (fromClient : Bool),
          (seen.remove setup time sighted.id ⟨fromClient, true⟩).1 = .ok () →
          (seen.remove setup time sighted.id ⟨fromClient, true⟩).2.Barred setup
            candidate.media.id candidate.release := by
  intro hbarred
  have hfinds : ((blank [sab]).run sabSetup [.grab 0 freshCandidate, sabRename]).Finds sabSetup 0
      (MemoryClient.client 0 sab) "sab-1" := sab_finds rfl rfl
  obtain ⟨sighted, hsighted, hmediaId, hindexer⟩ := hfinds.linked sab_latestGrab rfl
  have hid : (sabRenamed.tracked.lookup? (.of "sab" "sab-1")).map (·.id) =
      some (.download 0) := rfl
  obtain ⟨other, hother, hid⟩ := Option.map_eq_some_iff.mp hid
  obtain rfl : sighted = other := Option.some.inj (hsighted.symm.trans hother)
  have hremoved : ((sabRenamed.run sabSetup []).remove sabSetup 1 (.download 0) ⟨true, true⟩).1 =
      .ok () := rfl
  rw [← hid] at hremoved
  have hsound : sabRenamed.Sound := (Desk.run_sound sabSetup _ (.blank [sab])).refresh sabSetup 0
  have hafter : (sabRenamed.remove sabSetup 1 sighted.id ⟨true, true⟩).2.Sound :=
    DeskEvent.apply_sound hsound sabSetup (.remove 1 sighted.id ⟨true, true⟩)
  have hblocks := (barred_iff_blocks hafter).mp <|
    hbarred sabSetup [sab] 0 freshCandidate "sab-1" (MemoryClient.client 0 sab) rfl rfl [sabRename]
      0 hfinds sighted hsighted 1 true hremoved
  obtain ⟨download, hmem, -, hiff⟩ := blocks_iff_of_remove hsound
    (mem_of_lookup? hsighted) hmediaId hindexer hremoved
  have htitles : sabRenamed.tracked.downloads.map (·.item.title) = ["a1b2c3d4"] := rfl
  have htitle : download.item.title = "a1b2c3d4" := by
    have hmem := List.mem_map_of_mem (f := (·.item.title)) hmem
    exact List.mem_singleton.mp (htitles ▸ hmem)
  rcases hiff.mp hblocks with hbefore | ⟨hash, hhash, -⟩ | hshown
  · exact absurd hbefore Bool.false_ne_true
  · exact absurd hhash nofun
  · rw [htitle] at hshown
    exact absurd hshown (by decide)

end Acquisition
