import Acquisition.Proofs.Queue.Lookup
import Acquisition.Proofs.Queue.Pending
import Acquisition.Queue.Service

/-!
# What a removal does

Removing an item from the queue either does all that it should or leaves every record as it was.
Four things may stand in its way, and each of them comes before the first record is written: no item
has the identifier, the download belongs to no media item and so cannot be ignored, no client has
the name of the client of the download, or that client does not delete it.

## Main definitions

* `ClientRegistry.Distinct`: the clients are told apart by name.
* `Asks`: what a removal asks of the clients.
* `removalRecords`, `blockEntries`, `pendingEntry`, `removalEvent`: what a removal writes to the
  history and to the blocklist, and what is announced of it.
* `Removes`: what a removal comes to, and what it leaves.

## Main results

* `Desk.remove_removes`: removing an item comes to one of these.
* `Removes.eq_of_error`: where a removal fails, every record is as it was.
-/

namespace Acquisition

variable {σ : Type}

/-! ### The owner of a download -/

namespace ClientRegistry

variable {registry : ClientRegistry σ} {client : DownloadClient σ} {name : String}

/-- No two clients have the same name, up to the case of ASCII letters. -/
def Distinct (registry : ClientRegistry σ) : Prop :=
  registry.Pairwise fun first second => Text.equalIgnoringCase first.name second.name = false

/-- Among clients with distinct names, look-up finds the only one with the name. -/
theorem Distinct.byName?_eq_some_iff (hdistinct : registry.Distinct) :
    registry.byName? name = some client ↔
      client ∈ registry ∧ Text.equalIgnoringCase client.name name = true := by
  constructor
  · intro hfound
    have hname := List.find?_some hfound
    exact ⟨List.mem_of_find?_eq_some hfound, hname⟩
  · rintro ⟨hmem, hname⟩
    obtain ⟨front, back, rfl⟩ := List.append_of_mem hmem
    refine List.find?_eq_some_iff_append.mpr ⟨hname, front, back, rfl, fun other hother => ?_⟩
    -- one before it would have the same name as it
    have hearlier := (List.pairwise_append.mp hdistinct).2.2 other hother client List.mem_cons_self
    rw [Text.equalIgnoringCase_congr_right hname] at hearlier
    rw [hearlier]
    rfl

end ClientRegistry

/-- What a removal asks of the clients: the client of the download is asked once to delete it with
its data, if that is wanted, and nobody is asked anything otherwise. -/
inductive Asks (registry : ClientRegistry σ) (download : TrackedDownload) (s : σ) :
    Bool → Except ClientError Unit → σ → Prop
  | nobody : Asks registry download s false (.ok ()) s
  | owner {client : DownloadClient σ} {result : Except ClientError Unit} {t : σ}
      (howner : registry.byName? download.client = some client)
      (hcall : client.remove download.item true s = (result, t)) :
    Asks registry download s true result t

/-! ### What is written -/

/-- What the history says about a download that is removed, if anything. -/
def Removal.event? (removal : Removal) : Option (HistoryEvent × String) :=
  if removal.blocklist then some (.downloadFailed, "Manually marked as failed")
  else if removal.fromClient then none
  else some (.downloadIgnored, "Manually ignored")

/-- The records about a download that is removed: a failure if it is blocked, that it is ignored
if nothing is asked for, and nothing about a download of no known media item. -/
def removalRecords (download : TrackedDownload) (removal : Removal) (now : Instant) :
    List HistoryRecord :=
  match download.mediaId, removal.event? with
  | some mediaId, some (event, message) =>
    [{ mediaId
       event
       downloadId := some download.item.downloadId
       quality := download.quality
       languages := download.languages
       sourceTitle := download.item.title
       indexer := download.indexer
       protocol := some download.protocol
       date := now
       message := some message }]
  | _, _ => []

/-- The entries that block a download, if it is of a known media item. -/
def blockEntries (download : TrackedDownload) (now : Instant) : List BlockEntry :=
  download.mediaId.toList.map fun mediaId =>
    { mediaId
      sourceTitle := download.item.title
      indexer := download.indexer
      protocol := some download.protocol
      quality := download.quality
      guid := none
      downloadId := some download.item.downloadId
      date := now
      message := "Manually marked as failed" }

/-- The entry that blocks a pending release. -/
def pendingEntry (release : PendingRelease) (now : Instant) : BlockEntry where
  mediaId := release.candidate.media.id
  sourceTitle := release.candidate.release.title
  indexer := some release.candidate.release.indexer
  protocol := some release.candidate.release.protocol
  quality := release.candidate.parsed.quality
  guid := some release.candidate.release.guid
  downloadId := release.candidate.release.infoHash
  date := now
  message := "Pending release manually blocklisted"

/-- What is announced of a removal: which download of which client, and what was asked for. -/
def removalEvent (download : TrackedDownload) (removal : Removal) (now : Instant) : Event Json where
  topic := .downloadRemoved
  occurredAt := now
  payload := .obj [
    ("download_id", .str download.item.downloadId),
    ("download_client", .str download.client),
    ("removed_from_client", .bool removal.fromClient),
    ("blocklisted", .bool removal.blocklist)]

/-! ### What a removal comes to -/

/-- Removing the item with the identifier: what comes of it, and the desk afterwards. -/
inductive Removes (registry : ClientRegistry σ) (now : Instant) (id : QueueItemId)
    (removal : Removal) (before : Desk σ) : Except QueueError Unit → Desk σ → Prop
  /-- No item has the identifier. -/
  | unknown (hpending : ∀ release ∈ before.pending.releases, release.id ≠ id)
      (htracked : ∀ download ∈ before.tracked.downloads, download.id ≠ id) :
    Removes registry now id removal before (.error (.notFound id)) before
  /-- The download is to be ignored and belongs to no known media item. -/
  | unlinked {download : TrackedDownload}
      (hpending : ∀ release ∈ before.pending.releases, release.id ≠ id)
      (hmem : download ∈ before.tracked.downloads) (hid : download.id = id)
      (hignored : removal = ⟨false, false⟩) (hmedia : download.mediaId = none) :
    Removes registry now id removal before (.error (.unknownMedia download.item.downloadId)) before
  /-- The download is to be deleted and no client has the name of its client. -/
  | unowned {download : TrackedDownload}
      (hpending : ∀ release ∈ before.pending.releases, release.id ≠ id)
      (hmem : download ∈ before.tracked.downloads) (hid : download.id = id)
      (hdeleted : removal.fromClient = true)
      (hnone : registry.byName? download.client = none) :
    Removes registry now id removal before (.error (.unknownClient download.client)) before
  /-- The client does not delete the download: only its own state may have changed. -/
  | refused {download : TrackedDownload} {error : ClientError} {clients : σ}
      (hpending : ∀ release ∈ before.pending.releases, release.id ≠ id)
      (hmem : download ∈ before.tracked.downloads) (hid : download.id = id)
      (hasks : Asks registry download before.clients removal.fromClient (.error error) clients) :
    Removes registry now id removal before (.error (.client error)) { before with clients }
  /-- A pending release leaves, and is blocked if that is asked for. -/
  | pending {front back : List PendingRelease} {release : PendingRelease}
      (htracked : ∀ download ∈ before.tracked.downloads, download.id ≠ id)
      (hsplit : before.pending.releases = front ++ release :: back) (hid : release.id = id) :
    Removes registry now id removal before (.ok ())
      { before with
        pending := { before.pending with releases := front ++ back }
        blocklist := before.blocklist ++
          if removal.blocklist then [pendingEntry release now] else []
        notices := before.notices + 1 }
  /-- A download leaves, and what was asked for is done and written down. -/
  | download {front back : List TrackedDownload} {download : TrackedDownload} {clients : σ}
      (hpending : ∀ release ∈ before.pending.releases, release.id ≠ id)
      (hsplit : before.tracked.downloads = front ++ download :: back) (hid : download.id = id)
      (hlinked : removal = ⟨false, false⟩ → download.mediaId ≠ none)
      (hasks : Asks registry download before.clients removal.fromClient (.ok ()) clients) :
    Removes registry now id removal before (.ok ())
      { before with
        clients
        tracked := { before.tracked with downloads := front ++ back }
        history := ⟨before.history.records ++ removalRecords download removal now⟩
        blocklist := before.blocklist ++
          if removal.blocklist then blockEntries download now else []
        events := before.events ++ [removalEvent download removal now]
        notices := before.notices + 1 }

/-! ### The parts of a removal -/

/-- Taking out what bears the image of one element takes out that element only, where no two
elements bear the same. -/
theorem filter_ne_eq_append {α β : Type} [BEq β] [LawfulBEq β] {f : α → β} {front back : List α}
    {x : α} (hdistinct : ((front ++ x :: back).map f).Nodup) :
    (front ++ x :: back).filter (f · != f x) = front ++ back := by
  rw [List.map_append, List.map_cons, List.nodup_append] at hdistinct
  obtain ⟨-, hback, hfront⟩ := hdistinct
  have hkeep : ∀ other ∈ front ++ back, (f other != f x) = true := by
    intro other hmem
    rw [bne_iff_ne]
    rcases List.mem_append.mp hmem with hmem | hmem
    · exact hfront (f other) (List.mem_map_of_mem hmem) (f x) List.mem_cons_self
    · intro hsame
      exact (List.nodup_cons.mp hback).1 (hsame ▸ List.mem_map_of_mem hmem)
  rw [List.filter_append, List.filter_cons, bne_self_eq_false, if_neg Bool.false_ne_true,
    ← List.filter_append, List.filter_eq_self.mpr hkeep]

namespace Desk

variable {registry : ClientRegistry σ} {before : Desk σ} {removal : Removal} {now : Instant}
  {front back : List TrackedDownload} {download : TrackedDownload}

/-- What is left to do once nothing stands in the way any more. -/
theorem dismiss_eq (desk : Desk σ) (hsound : desk.tracked.Sound)
    (hsplit : desk.tracked.downloads = front ++ download :: back) (removal : Removal)
    (now : Instant) :
    desk.dismiss download removal now =
      { desk with
        tracked := { desk.tracked with downloads := front ++ back }
        events := desk.events ++ [removalEvent download removal now]
        notices := desk.notices + 1 } := by
  have hfilter : desk.tracked.downloads.filter (·.id != download.id) = front ++ back := by
    have hids := hsound.ids
    rw [hsplit] at hids ⊢
    exact filter_ne_eq_append hids
  rw [dismiss, TrackedDownloads.stopTracking, hfilter]
  rfl

theorem ignoreDownload_of_some {mediaId : MediaId} (hmedia : download.mediaId = some mediaId) :
    before.ignoreDownload download now =
      (.ok (), { before with
        history := ⟨before.history.records ++ removalRecords download ⟨false, false⟩ now⟩ }) := by
  rw [ignoreDownload, hmedia, removalRecords, hmedia]
  rfl

theorem blockDownload_eq (download : TrackedDownload) (now : Instant) (fromClient : Bool)
    (before : Desk σ) :
    before.blockDownload download now =
      { before with
        history := ⟨before.history.records ++ removalRecords download ⟨fromClient, true⟩ now⟩
        blocklist := before.blocklist ++ blockEntries download now } := by
  rw [blockDownload, removalRecords, blockEntries]
  cases download.mediaId with
  | none => simp only [Option.toList_none, List.map_nil, List.append_nil]
  | some mediaId => rfl

theorem deleteDownload_asks (registry : ClientRegistry σ) (download : TrackedDownload)
    (before : Desk σ) :
    (before.deleteDownload registry download = (.error (.unknownClient download.client), before) ∧
        registry.byName? download.client = none) ∨
      ∃ result clients, before.deleteDownload registry download =
          (result.mapError .client, { before with clients }) ∧
        Asks registry download before.clients true result clients := by
  cases howner : registry.byName? download.client with
  | none => exact Or.inl ⟨by rw [deleteDownload, howner], rfl⟩
  | some client =>
    rcases hcall : client.remove download.item true before.clients with ⟨result, clients⟩
    refine Or.inr ⟨result, clients, ?_, .owner howner hcall⟩
    rw [deleteDownload, howner]
    simp only [hcall]

/-- A download that is blocked or deleted is taken out, after it was blocked if that is wanted. -/
theorem dismiss_of_not_ignored (hsound : before.tracked.Sound)
    (hsplit : before.tracked.downloads = front ++ download :: back) (clients : σ)
    (hnot : removal.fromClient = true ∨ removal.blocklist = true) :
    (if removal.blocklist then { before with clients }.blockDownload download now
      else { before with clients }).dismiss download removal now =
      { before with
        clients
        tracked := { before.tracked with downloads := front ++ back }
        history := ⟨before.history.records ++ removalRecords download removal now⟩
        blocklist := before.blocklist ++
          if removal.blocklist then blockEntries download now else []
        events := before.events ++ [removalEvent download removal now]
        notices := before.notices + 1 } := by
  rcases removal with ⟨fromClient, _ | _⟩
  · -- deleted, and nothing is written down
    obtain rfl : fromClient = true := hnot.resolve_right Bool.false_ne_true
    have hnone : removalRecords download ⟨true, false⟩ now = [] := by
      rw [removalRecords]
      cases download.mediaId <;> rfl
    rw [hnone, if_neg Bool.false_ne_true, if_neg Bool.false_ne_true, List.append_nil,
      List.append_nil]
    exact dismiss_eq { before with clients } hsound hsplit _ now
  · rw [if_pos rfl, if_pos rfl, blockDownload_eq download now fromClient]
    refine dismiss_eq _ ?_ ?_ _ now
    · exact hsound
    · exact hsplit

/-- **Removing a download** ends in one of four ways. -/
theorem removeDownload_removes {id : QueueItemId} (hsound : before.tracked.Sound)
    (hpending : ∀ release ∈ before.pending.releases, release.id ≠ id)
    (hsplit : before.tracked.downloads = front ++ download :: back) (hid : download.id = id)
    (registry : ClientRegistry σ) (removal : Removal) (now : Instant) :
    Removes registry now id removal before
      (before.removeDownload registry download removal now).1
      (before.removeDownload registry download removal now).2 := by
  have hmem : download ∈ before.tracked.downloads := by
    rw [hsplit]
    exact List.mem_append_right _ List.mem_cons_self
  rcases removal with ⟨_ | _, blocklist⟩
  · cases blocklist with
    | false =>
      -- neither deleted nor blocked: the download is ignored
      cases hmedia : download.mediaId with
      | none =>
        have hrefused : before.removeDownload registry download ⟨false, false⟩ now =
            (.error (.unknownMedia download.item.downloadId), before) := by
          simp only [removeDownload, ignoreDownload, hmedia]
          rfl
        rw [hrefused]
        exact .unlinked hpending hmem hid rfl hmedia
      | some mediaId =>
        have hlinked : (⟨false, false⟩ : Removal) = ⟨false, false⟩ → download.mediaId ≠ none := by
          intro _
          rw [hmedia]
          exact Option.some_ne_none mediaId
        let ignored : Desk σ :=
          { before with
            history := ⟨before.history.records ++ removalRecords download ⟨false, false⟩ now⟩ }
        have hdone : before.removeDownload registry download ⟨false, false⟩ now =
            (.ok (), ignored.dismiss download ⟨false, false⟩ now) := by
          simp only [removeDownload, ignoreDownload_of_some hmedia]
          rfl
        have hstate : Removes registry now id ⟨false, false⟩ before (.ok ()) _ :=
          .download hpending hsplit hid hlinked .nobody
        rw [if_neg Bool.false_ne_true, List.append_nil] at hstate
        rw [hdone, dismiss_eq ignored hsound hsplit]
        exact hstate
    | true =>
      have hdone : before.removeDownload registry download ⟨false, true⟩ now = (.ok (), _) :=
        congrArg (Prod.mk (Except.ok ()))
          (dismiss_of_not_ignored hsound hsplit before.clients (Or.inr rfl))
      rw [hdone]
      exact .download hpending hsplit hid nofun .nobody
  · rcases deleteDownload_asks registry download before with
      ⟨hdelete, hnone⟩ | ⟨error | _, clients, hdelete, hasks⟩
    · have hrefused : before.removeDownload registry download ⟨true, blocklist⟩ now =
          (.error (.unknownClient download.client), before) := by
        simp only [removeDownload, Bool.not_true, Bool.false_and, Bool.false_eq_true, if_false,
          if_true, hdelete]
      rw [hrefused]
      exact .unowned hpending hmem hid rfl hnone
    · have hrefused : before.removeDownload registry download ⟨true, blocklist⟩ now =
          (.error (.client error), { before with clients }) := by
        simp only [removeDownload, Bool.not_true, Bool.false_and, Bool.false_eq_true, if_false,
          if_true, hdelete, Except.mapError]
      rw [hrefused]
      exact .refused hpending hmem hid hasks
    · have hdone : before.removeDownload registry download ⟨true, blocklist⟩ now = (.ok (),
          (if blocklist then { before with clients }.blockDownload download now
            else { before with clients }).dismiss download ⟨true, blocklist⟩ now) := by
        simp only [removeDownload, Bool.not_true, Bool.false_and, Bool.false_eq_true, if_false,
          if_true, hdelete, Except.mapError]
      rw [hdone, dismiss_of_not_ignored hsound hsplit clients (Or.inl rfl)]
      exact .download hpending hsplit hid nofun hasks

/-- Taking out a pending release. -/
theorem removePending_eq {front back : List PendingRelease} {release : PendingRelease}
    (hsound : before.pending.Sound) (hsplit : before.pending.releases = front ++ release :: back)
    (blocklist : Bool) (now : Instant) :
    before.removePending release blocklist now =
      { before with
        pending := { before.pending with releases := front ++ back }
        blocklist := before.blocklist ++ if blocklist then [pendingEntry release now] else []
        notices := before.notices + 1 } := by
  have hfilter : before.pending.releases.filter (·.id != release.id) = front ++ back := by
    have hids := hsound.ids
    rw [hsplit] at hids ⊢
    exact filter_ne_eq_append hids
  cases blocklist with
  | false =>
    rw [if_neg Bool.false_ne_true, List.append_nil, removePending, if_neg Bool.false_ne_true,
      PendingReleases.remove, hfilter]
    rfl
  | true =>
    rw [if_pos rfl, removePending, if_pos rfl, PendingReleases.remove, hfilter]
    rfl

/-- A pending release and a download never have the same identifier. -/
theorem id_ne_id (htracked : before.tracked.Sound) (hpending : before.pending.Sound)
    {release : PendingRelease} (hrelease : release ∈ before.pending.releases)
    (hdownload : download ∈ before.tracked.downloads) : release.id ≠ download.id := by
  obtain ⟨first, -, hfirst⟩ := hpending.serials release hrelease
  obtain ⟨second, -, hsecond⟩ := htracked.serials download hdownload
  rw [hfirst, hsecond]
  exact nofun

/-- **Removing an item** from a sound desk either leaves every record as it was or does all that
it should. -/
theorem remove_removes (htracked : before.tracked.Sound) (hpending : before.pending.Sound)
    (setup : Setup σ) (now : Instant) (id : QueueItemId) (removal : Removal) :
    Removes setup.registry now id removal before (before.remove setup now id removal).1
      (before.remove setup now id removal).2 := by
  rw [remove]
  cases hrelease : before.pending.find? id with
  | some release =>
    obtain ⟨hid, front, back, hsplit, -⟩ := List.find?_eq_some_iff_append.mp hrelease
    obtain rfl : release.id = id := beq_iff_eq.mp hid
    have hmem : release ∈ before.pending.releases := List.mem_of_find?_eq_some hrelease
    simp only [removePending_eq hpending hsplit]
    exact .pending (fun download hdownload => (id_ne_id htracked hpending hmem hdownload).symm)
      hsplit rfl
  | none =>
    have hother : ∀ release ∈ before.pending.releases, release.id ≠ id := by
      intro release hmem hid
      exact List.find?_eq_none.mp hrelease release hmem (beq_iff_eq.mpr hid)
    cases hdownload : before.tracked.find? id with
    | some download =>
      obtain ⟨hid, front, back, hsplit, -⟩ := List.find?_eq_some_iff_append.mp hdownload
      exact removeDownload_removes htracked hother hsplit (beq_iff_eq.mp hid) setup.registry removal
        now
    | none =>
      refine .unknown hother fun download hmem hid => ?_
      exact List.find?_eq_none.mp hdownload download hmem (beq_iff_eq.mpr hid)

end Desk

/-! ### What follows -/

namespace Removes

variable {registry : ClientRegistry σ} {now : Instant} {id : QueueItemId} {removal : Removal}
  {before after : Desk σ} {result : Except QueueError Unit}

/-- What is tracked changes if the removal succeeds, and then no download has the identifier. -/
theorem tracked_eq (h : Removes registry now id removal before result after)
    (hsound : before.tracked.Sound) :
    after.tracked =
      if result.toBool then (before.tracked.stopTracking id).2 else before.tracked := by
  cases h with
  | unknown => rfl
  | unlinked => rfl
  | unowned => rfl
  | refused => rfl
  | pending htracked hsplit hid =>
    have hkept : before.tracked.downloads.filter (·.id != id) = before.tracked.downloads := by
      refine List.filter_eq_self.mpr fun download hmem => ?_
      rw [bne_iff_ne]
      exact htracked download hmem
    rw [Except.toBool, if_pos rfl, TrackedDownloads.stopTracking, hkept]
  | @download front back download clients hpending hsplit hid hlinked hasks =>
    subst hid
    have hids := hsound.ids
    rw [hsplit] at hids
    rw [Except.toBool, if_pos rfl, TrackedDownloads.stopTracking, hsplit,
      filter_ne_eq_append hids]

theorem pending_sound (h : Removes registry now id removal before result after)
    (hsound : before.pending.Sound) : after.pending.Sound := by
  cases h with
  | unknown => exact hsound
  | unlinked => exact hsound
  | unowned => exact hsound
  | refused => exact hsound
  | @pending front back release htracked hsplit =>
    refine hsound.sublist ?_
    rw [hsplit]
    exact (List.Sublist.refl front).append (List.sublist_cons_self release back)
  | download => exact hsound

/-- History and blocklist are only written at the end. -/
theorem prefixes (h : Removes registry now id removal before result after) :
    before.history.records <+: after.history.records ∧ before.blocklist <+: after.blocklist := by
  cases h with
  | unknown => exact ⟨List.prefix_rfl, List.prefix_rfl⟩
  | unlinked => exact ⟨List.prefix_rfl, List.prefix_rfl⟩
  | unowned => exact ⟨List.prefix_rfl, List.prefix_rfl⟩
  | refused => exact ⟨List.prefix_rfl, List.prefix_rfl⟩
  | pending => exact ⟨List.prefix_rfl, List.prefix_append _ _⟩
  | download => exact ⟨List.prefix_append _ _, List.prefix_append _ _⟩

/-- Where a removal fails, every record is as it was. -/
theorem eq_of_error {error : QueueError}
    (h : Removes registry now id removal before (.error error) after) :
    after = { before with clients := after.clients } := by
  cases h with
  | unknown => rfl
  | unlinked => rfl
  | unowned => rfl
  | refused => rfl

end Removes

end Acquisition
