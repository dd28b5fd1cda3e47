import Acquisition.Proofs.Desk.Run

/-!
# Telling the observers of the queue

The queue is put together from what is tracked and what is pending.  A poll says whether it changed
anything that is tracked, and a refresh tells the observers if one of its polls did; a removal that
succeeds always tells them.  Grabbing changes what is pending, and tells nobody.

Two queues are compared as they show at the same instant, so that the times left of an item do not
count as a change.

## Main definitions

* `SameItems`: two queues hold the same items, paths compared as paths.
* `Operation`: what the program does with the queue and with releases.
* `Desk.Announces`: if the queue shows something else after the operation, the observers were told.

## Main results

* `Poll.unchanged_of_changes_eq_false`: a poll that says that nothing changed changed nothing.
* `Desk.refresh_announces`, `Desk.remove_announces`: these tell of every change.
* `Desk.reachable_announces_iff`: **the observers are told of all that refreshes and removals change
  in the queue, and of nothing that grabbing changes.**
-/

namespace Acquisition

open TrackedDownloads

variable {σ : Type}

/-! ### Reports that say the same -/

theorem DownloadItem.same_iff {a b : DownloadItem} : a.same b = true ↔
    { a with outputPath := none } = { b with outputPath := none } ∧
      a.outputPath.map Path.components = b.outputPath.map Path.components := by
  rw [DownloadItem.same, Bool.and_eq_true, beq_iff_eq]
  refine and_congr_right fun _ => ?_
  rcases a.outputPath with _ | p <;> rcases b.outputPath with _ | q <;> simp [Path.same]

theorem DownloadItem.same_trans {a b c : DownloadItem} (h : a.same b = true)
    (h' : b.same c = true) : a.same c = true := by
  rw [DownloadItem.same_iff] at h h' ⊢
  exact ⟨h.1.trans h'.1, h.2.trans h'.2⟩

theorem DownloadItem.same_symm {a b : DownloadItem} (h : a.same b = true) : b.same a = true := by
  rw [DownloadItem.same_iff] at h ⊢
  exact ⟨h.1.symm, h.2.symm⟩

theorem TrackedDownload.Same.symm {before after : TrackedDownload}
    (h : TrackedDownload.Same before after) : TrackedDownload.Same after before := by
  refine ⟨?_, DownloadItem.same_symm h.item⟩
  rw [h.eq]

theorem TrackedDownload.Same.trans {first second third : TrackedDownload}
    (h : TrackedDownload.Same first second) (h' : TrackedDownload.Same second third) :
    TrackedDownload.Same first third := by
  refine ⟨?_, DownloadItem.same_trans h.item h'.item⟩
  rw [h'.eq, h.eq]

namespace Unchanged

variable {tracked before after : TrackedDownloads}

theorem refl (tracked : TrackedDownloads) : Unchanged tracked tracked := by
  intro key
  cases tracked.lookup? key with
  | none => exact .none
  | some download => exact .some (.refl download)

theorem symm (h : Unchanged before after) : Unchanged after before := by
  intro key
  have hrel := h key
  generalize before.lookup? key = a at hrel
  generalize after.lookup? key = b at hrel
  cases hrel with
  | none => exact .none
  | some hsame => exact .some hsame.symm

theorem trans {first second third : TrackedDownloads} (h : Unchanged first second)
    (h' : Unchanged second third) : Unchanged first third := by
  intro key
  have hfirst := h key
  have hsecond := h' key
  generalize first.lookup? key = a at hfirst
  generalize second.lookup? key = b at hfirst hsecond
  generalize third.lookup? key = c at hsecond
  cases hfirst with
  | none =>
    cases hsecond
    exact .none
  | some hab =>
    cases hsecond with
    | some hbc => exact .some (hab.trans hbc)

/-- What was tracked under a key is still tracked, and the same. -/
theorem exists_mem (h : Unchanged before after) (hsound : before.Sound)
    {download : TrackedDownload} (hmem : download ∈ before.downloads) :
    ∃ same ∈ after.downloads, TrackedDownload.Same download same := by
  have hrel := h download.key
  rw [hsound.lookup?_key hmem] at hrel
  cases hlookup : after.lookup? download.key with
  | none =>
    rw [hlookup] at hrel
    cases hrel
  | some same =>
    rw [hlookup] at hrel
    cases hrel with
    | some hsame => exact ⟨same, mem_of_lookup? hlookup, hsame⟩

end Unchanged

/-! ### Polls that say that nothing changed -/

namespace TrackedDownloads

variable {tracked : TrackedDownloads} {client : String} {protocol : Protocol} {now : Instant}

theorem unchanged_applySighting {sighting : Sighting}
    (h : (tracked.applySighting client protocol now sighting).2 = false) :
    Unchanged tracked (tracked.applySighting client protocol now sighting).1 := by
  obtain ⟨download, hlookup, hdiffers⟩ := applySighting_changed_iff.mp h
  intro key
  by_cases hkey : key = .of client sighting.item.downloadId
  · obtain ⟨after, hafter, htakes⟩ := lookup?_applySighting_of_eq hkey
    rw [← hkey] at hlookup
    rw [hlookup] at htakes ⊢
    rw [hafter, htakes]
    exact .some (TrackedDownload.same_update_iff.mpr hdiffers)
  · rw [lookup?_applySighting_of_ne hkey]
    exact Unchanged.refl tracked key

/-- The reports may be of one download several times: each is compared with what the ones before it
left. -/
theorem unchanged_applySightings {sightings : List Sighting} :
    ∀ {tracked : TrackedDownloads},
      (applySightings client protocol now sightings tracked).2 = false →
        Unchanged tracked (applySightings client protocol now sightings tracked).1 := by
  induction sightings with
  | nil => exact fun _ => Unchanged.refl _
  | cons sighting sightings ih =>
    intro tracked h
    rw [applySightings_cons, Bool.or_eq_false_iff] at h
    exact (unchanged_applySighting h.1).trans (ih h.2)

theorem markGone_eq_self {seen : List TrackingKey} (h : (tracked.markGone client seen).2 = false) :
    (tracked.markGone client seen).1 = tracked := by
  have hnone : ∀ download ∈ tracked.downloads, isGone client seen download = false := by
    simpa [markGone] using h
  have hkept : tracked.downloads.map (·.miss client seen) = tracked.downloads := by
    refine (List.map_congr_left fun download hmem => ?_).trans (List.map_id _)
    rw [TrackedDownload.miss, hnone download hmem]
    rfl
  have hmap : (tracked.markGone client seen).1 =
      { tracked with downloads := tracked.downloads.map (·.miss client seen) } := rfl
  rw [hmap, hkept]

end TrackedDownloads

/-- **A poll that says that nothing changed changed nothing**, even if the client reports a download
more than once. -/
theorem Poll.unchanged_of_changes_eq_false {poll : Poll σ} {tracked : TrackedDownloads}
    (h : poll.changes tracked = false) : Unchanged tracked (poll.apply tracked) := by
  rw [changes_eq, Bool.or_eq_false_iff] at h
  have hreported : Unchanged tracked (poll.reported tracked) := unchanged_applySightings h.1
  rw [apply_eq, markGone_eq_self h.2]
  exact hreported

/-! ### Refreshes that say that nothing changed -/

namespace Desk

/-- A refresh that ends without a change began without one, and every poll of it changed nothing. -/
theorem unchanged_pollAll (now : Instant) : ∀ {registry : ClientRegistry σ}
    {report : RefreshReport} {desk : Desk σ},
      (desk.pollAll now registry report).1.changed = false →
        report.changed = false ∧ Unchanged desk.tracked (desk.pollAll now registry report).2.tracked
    := by
  intro registry
  induction registry with
  | nil => exact fun h => ⟨h, Unchanged.refl _⟩
  | cons client registry ih =>
    intro report desk h
    rw [pollAll, poll] at h ⊢
    rcases hitems : client.items desk.clients with ⟨error | items, clients⟩
    · simp only [hitems] at h ⊢
      exact ih h
    · simp only [hitems] at h ⊢
      obtain ⟨hreport, hrest⟩ := ih h
      let answer := Report.against ⟨client.name, client.protocol, items, now⟩ desk.history
      have hpoll : (report.changed || answer.changes desk.tracked) = false := hreport
      rw [Bool.or_eq_false_iff] at hpoll
      have hfirst : Unchanged desk.tracked (answer.apply desk.tracked) :=
        Poll.unchanged_of_changes_eq_false hpoll.2
      exact ⟨hpoll.1, hfirst.trans hrest⟩

/-- A refresh tells the observers, or leaves what is tracked as it was. -/
theorem refresh_tells (setup : Setup σ) (now : Instant) (desk : Desk σ) :
    desk.notices < (desk.refresh setup now).2.notices ∨
      Unchanged desk.tracked (desk.refresh setup now).2.tracked := by
  have hnotices : (desk.pollAll now setup.registry {}).2.notices = desk.notices := by
    rw [pollAll_eq]
  cases hchanged : (desk.pollAll now setup.registry {}).1.changed with
  | true =>
    refine Or.inl ?_
    rw [refresh]
    simp only [hchanged, if_true, notify, hnotices]
    exact Nat.lt_succ_self _
  | false =>
    refine Or.inr ?_
    rw [refresh]
    simp only [hchanged, Bool.false_eq_true, if_false]
    exact (unchanged_pollAll now hchanged).2

end Desk

/-! ### Comparing queues -/

/-- Up to the way in which a path is written, the two items are equal. -/
structure QueueItem.Same (before after : QueueItem) : Prop where
  eq : { before with outputPath := none } = { after with outputPath := none }
  path : before.outputPath.map Path.components = after.outputPath.map Path.components

theorem QueueItem.Same.refl (item : QueueItem) : QueueItem.Same item item :=
  ⟨rfl, rfl⟩

theorem QueueItem.Same.symm {before after : QueueItem} (h : QueueItem.Same before after) :
    QueueItem.Same after before :=
  ⟨h.eq.symm, h.path.symm⟩

/-- Each of the two queues holds what the other one holds. -/
structure SameItems (before after : List QueueItem) : Prop where
  kept : ∀ item ∈ before, ∃ same ∈ after, item.Same same
  found : ∀ item ∈ after, ∃ same ∈ before, same.Same item

namespace SameItems

variable {first second third fourth : List QueueItem}

/-- Two queues are the same if each of them keeps what the other one holds. -/
theorem of_kept (h : ∀ item ∈ first, ∃ same ∈ second, item.Same same)
    (h' : ∀ item ∈ second, ∃ same ∈ first, item.Same same) : SameItems first second where
  kept := h
  found := by
    intro item hmem
    obtain ⟨same, hin, hsame⟩ := h' item hmem
    exact ⟨same, hin, hsame.symm⟩

theorem refl (items : List QueueItem) : SameItems items items :=
  of_kept (fun item hmem => ⟨item, hmem, .refl item⟩) fun item hmem => ⟨item, hmem, .refl item⟩

theorem symm (h : SameItems first second) : SameItems second first where
  kept := by
    intro item hmem
    obtain ⟨same, hin, hsame⟩ := h.found item hmem
    exact ⟨same, hin, hsame.symm⟩
  found := by
    intro item hmem
    obtain ⟨same, hin, hsame⟩ := h.kept item hmem
    exact ⟨same, hin, hsame.symm⟩

theorem kept_append (h : SameItems first second) (h' : SameItems third fourth) :
    ∀ item ∈ first ++ third, ∃ same ∈ second ++ fourth, item.Same same := by
  intro item hmem
  rcases List.mem_append.mp hmem with hmem | hmem
  · obtain ⟨same, hin, hsame⟩ := h.kept item hmem
    exact ⟨same, List.mem_append_left _ hin, hsame⟩
  · obtain ⟨same, hin, hsame⟩ := h'.kept item hmem
    exact ⟨same, List.mem_append_right _ hin, hsame⟩

theorem append (h : SameItems first second) (h' : SameItems third fourth) :
    SameItems (first ++ third) (second ++ fourth) :=
  of_kept (h.kept_append h') (h.symm.kept_append h'.symm)

theorem kept_filter (h : SameItems first second) {p : QueueItem → Bool}
    (hp : ∀ {a b : QueueItem}, a.Same b → p a = p b) :
    ∀ item ∈ first.filter p, ∃ same ∈ second.filter p, item.Same same := by
  intro item hmem
  obtain ⟨hmem, hitem⟩ := List.mem_filter.mp hmem
  obtain ⟨same, hin, hsame⟩ := h.kept item hmem
  exact ⟨same, List.mem_filter.mpr ⟨hin, hp hsame ▸ hitem⟩, hsame⟩

/-- What a test tells apart in the same way on same items can be compared by itself. -/
theorem filter (h : SameItems first second) {p : QueueItem → Bool}
    (hp : ∀ {a b : QueueItem}, a.Same b → p a = p b) :
    SameItems (first.filter p) (second.filter p) :=
  of_kept (h.kept_filter hp) (h.symm.kept_filter hp)

end SameItems

theorem QueueItem.same_ofDownload {before after : TrackedDownload}
    (h : TrackedDownload.Same before after) (now : Instant) :
    QueueItem.Same (ofDownload now before) (ofDownload now after) := by
  obtain ⟨heq, hitem⟩ := h
  obtain ⟨hrest, hpath⟩ := DownloadItem.same_iff.mp hitem
  simp only [DownloadItem.mk.injEq] at hrest
  obtain ⟨hid, htitle, -, hsize, hleft, htime, -, -, hmessage⟩ := hrest
  refine ⟨?_, hpath⟩
  rw [heq]
  simp only [ofDownload, hid, htitle, hsize, hleft, htime, hmessage]

theorem TrackedDownload.Same.isVisible_eq {before after : TrackedDownload}
    (h : TrackedDownload.Same before after) : before.isVisible = after.isVisible := by
  rw [h.eq]
  rfl

theorem TrackedDownloads.mem_visible_iff {tracked : TrackedDownloads}
    {download : TrackedDownload} : download ∈ tracked.visible ↔
      download ∈ tracked.downloads ∧ download.isVisible = true := by
  rw [visible, List.mem_filter, listed, List.mem_mergeSort]

/-- The downloads that a queue shows. -/
def TrackedDownloads.shown (tracked : TrackedDownloads) (now : Instant) : List QueueItem :=
  tracked.visible.map (QueueItem.ofDownload now)

/-- The pending releases that a queue shows. -/
def PendingReleases.shown (pending : PendingReleases) (store : ProfileStore) (now : Instant) :
    List QueueItem :=
  pending.releases.map (QueueItem.ofPending store now)

/-- Where nothing tracked changed, the queue still shows the downloads that it showed. -/
theorem Unchanged.kept_shown {before after : TrackedDownloads} (h : Unchanged before after)
    (hsound : before.Sound) (now : Instant) :
    ∀ item ∈ before.shown now, ∃ same ∈ after.shown now, item.Same same := by
  refine List.forall_mem_map.mpr fun download hmem => ?_
  obtain ⟨hmem, hvisible⟩ := mem_visible_iff.mp hmem
  obtain ⟨same, hin, hsame⟩ := h.exists_mem hsound hmem
  have hshown : same ∈ after.visible := mem_visible_iff.mpr ⟨hin, hsame.isVisible_eq ▸ hvisible⟩
  exact ⟨_, List.mem_map_of_mem hshown, QueueItem.same_ofDownload hsame now⟩

/-- Where nothing tracked changed, the queue shows the same downloads. -/
theorem Unchanged.sameItems {before after : TrackedDownloads} (h : Unchanged before after)
    (hbefore : before.Sound) (hafter : after.Sound) (now : Instant) :
    SameItems (before.shown now) (after.shown now) :=
  .of_kept (h.kept_shown hbefore now) (h.symm.kept_shown hafter now)

/-! ### Operations -/

/-- What the program does with the queue and with releases. -/
inductive Operation
  | refresh
  | remove (id : QueueItemId) (removal : Removal)
  | search (candidates : List GrabCandidate) (context : Option SearchContext)
  | process (decisions : List GrabDecision)
  | retry

namespace Operation

/-- The operation as an event at a desk. -/
def event (now : Instant) : Operation → DeskEvent σ
  | refresh => .refresh now
  | remove id removal => .remove now id removal
  | search candidates context => .search now candidates context
  | process decisions => .process now decisions
  | retry => .retry now

/-- The operation grabs releases or sets them aside. -/
def grabs : Operation → Bool
  | refresh | remove _ _ => false
  | search _ _ | process _ | retry => true

end Operation

namespace Desk

variable {setup : Setup σ} {desk after : Desk σ}

theorem queue_eq (setup : Setup σ) (now : Instant) (desk : Desk σ) :
    desk.queue setup now = desk.tracked.shown now ++ desk.pending.shown setup.store now := rfl

/-- Looked at at the same time, the queues of the two desks show the same. -/
def LooksAlike (setup : Setup σ) (desk after : Desk σ) : Prop :=
  ∀ now, SameItems (desk.queue setup now) (after.queue setup now)

/-- If the queue shows something else afterwards, the observers were told meanwhile. -/
def Announces (setup : Setup σ) (event : DeskEvent σ) (desk : Desk σ) : Prop :=
  ¬ LooksAlike setup desk (event.apply setup desk) →
    desk.notices < (event.apply setup desk).notices

/-- The pending releases show the same in the queues of the two desks. -/
def PendingAlike (setup : Setup σ) (desk after : Desk σ) : Prop :=
  ∀ now, SameItems (desk.pending.shown setup.store now) (after.pending.shown setup.store now)

/-- A pending release has no client, and every download has one. -/
theorem filter_queue (setup : Setup σ) (now : Instant) (desk : Desk σ) :
    (desk.queue setup now).filter (·.client.isNone) = desk.pending.shown setup.store now := by
  have hdownloads : (desk.tracked.shown now).filter (·.client.isNone) = [] := by
    refine List.filter_eq_nil_iff.mpr (List.forall_mem_map.mpr fun download _ => ?_)
    exact Bool.false_ne_true
  have hreleases : (desk.pending.shown setup.store now).filter (·.client.isNone) =
      desk.pending.shown setup.store now :=
    List.filter_eq_self.mpr (List.forall_mem_map.mpr fun release _ => rfl)
  rw [queue_eq, List.filter_append, hdownloads, hreleases, List.nil_append]

/-- Where the same is tracked, the queues show the same exactly if the pending releases do. -/
theorem looksAlike_iff_pendingAlike (htracked : after.tracked = desk.tracked) :
    LooksAlike setup desk after ↔ PendingAlike setup desk after := by
  constructor
  · intro h now
    rw [← filter_queue, ← filter_queue]
    refine (h now).filter fun {a b} hsame => ?_
    have hclient := congrArg QueueItem.client hsame.eq
    exact congrArg Option.isNone hclient
  · intro h now
    rw [queue_eq, queue_eq, htracked]
    exact (SameItems.refl _).append (h now)

/-- **A refresh tells of every change.** -/
theorem refresh_announces (hsound : desk.Sound) (setup : Setup σ) (now : Instant) :
    desk.Announces setup (.refresh now) := by
  intro hdiffers
  rcases desk.refresh_tells setup now with htold | hunchanged
  · exact htold
  · have hafter : (desk.refresh setup now).2.Sound :=
      DeskEvent.apply_sound hsound setup (.refresh now)
    have hpending : (desk.refresh setup now).2.pending = desk.pending := by
      rw [refresh_eq]
    refine absurd (fun later => ?_) hdiffers
    rw [DeskEvent.apply, queue_eq, queue_eq, hpending]
    exact (hunchanged.sameItems hsound.tracked hafter.tracked later).append (SameItems.refl _)

/-- **A removal tells of every change**: if it fails, there is none. -/
theorem remove_announces (hsound : desk.Sound) (setup : Setup σ) (now : Instant)
    (id : QueueItemId) (removal : Removal) : desk.Announces setup (.remove now id removal) := by
  have hremoves := remove_removes hsound.tracked hsound.pending setup now id removal
  rw [Announces, DeskEvent.apply]
  generalize (desk.remove setup now id removal).1 = result at hremoves
  generalize (desk.remove setup now id removal).2 = after at hremoves
  intro hdiffers
  cases hremoves with
  | pending => exact Nat.lt_succ_self _
  | download => exact Nat.lt_succ_self _
  | _ => exact absurd (fun _ => SameItems.refl _) hdiffers

/-- What is grabbed, held or dropped changes nothing that is tracked, and nobody is told. -/
theorem processDecisions_frame (setup : Setup σ) (now : Instant) (decisions : List GrabDecision)
    (desk : Desk σ) :
    (desk.processDecisions setup now decisions).2.tracked = desk.tracked ∧
      (desk.processDecisions setup now decisions).2.notices = desk.notices := by
  obtain ⟨trail, -, htrail⟩ := desk.exists_trail setup now (prioritize setup.store now decisions) {}
  exact htrail.frame.2

theorem processPending_frame (setup : Setup σ) (now : Instant) (desk : Desk σ) :
    (desk.processPending setup now).2.tracked = desk.tracked ∧
      (desk.processPending setup now).2.notices = desk.notices := by
  rw [processPending]
  split
  · exact ⟨rfl, rfl⟩
  · exact processDecisions_frame setup now _ { desk with pending := dropRejected _ desk.pending }

/-- **Grabbing tells nobody**, and changes nothing that is tracked. -/
theorem grabs_frame {operation : Operation} (hgrabs : operation.grabs = true) (setup : Setup σ)
    (now : Instant) (desk : Desk σ) :
    ((operation.event now).apply setup desk).tracked = desk.tracked ∧
      ((operation.event now).apply setup desk).notices = desk.notices := by
  cases operation with
  | refresh => exact absurd hgrabs Bool.false_ne_true
  | remove => exact absurd hgrabs Bool.false_ne_true
  | search candidates context => exact processDecisions_frame setup now _ desk
  | process decisions => exact processDecisions_frame setup now decisions desk
  | retry => exact processPending_frame setup now desk

/-- **What the observers of the queue are told of.**  At every desk that can be reached, an
operation tells the observers whenever it changes what the queue shows, exactly if it is a refresh
or a removal, or leaves the pending releases showing as they did. -/
theorem reachable_announces_iff (setup : Setup σ) (clients : σ) (events : List (DeskEvent σ))
    (now : Instant) (operation : Operation) :
    let desk := (blank clients).run setup events
    desk.Announces setup (operation.event now) ↔
      (operation.grabs = true →
        PendingAlike setup desk ((operation.event now).apply setup desk)) := by
  intro desk
  have hsound : desk.Sound := run_sound setup events (.blank clients)
  cases hgrabs : operation.grabs with
  | false =>
    refine iff_of_true ?_ nofun
    cases operation with
    | refresh => exact refresh_announces hsound setup now
    | remove id removal => exact remove_announces hsound setup now id removal
    | search => exact absurd hgrabs Bool.true_eq_false.mp
    | process => exact absurd hgrabs Bool.true_eq_false.mp
    | retry => exact absurd hgrabs Bool.true_eq_false.mp
  | true =>
    obtain ⟨htracked, hnotices⟩ := grabs_frame hgrabs setup now desk
    rw [Announces, hnotices, looksAlike_iff_pendingAlike htracked]
    simp only [Nat.lt_irrefl, imp_false, not_not, forall_const]

end Desk

/-! ### A release that is set aside -/

open Desk GrabRules

/-- Releases have to be out for an hour. -/
def hourSetup : Setup Unit where
  store := blockingRules.store
  settings := { minimumAgeMinutes := 60 }
  registry := []

/-- The observers need not be told: a release that is too young is set aside and shows in the queue
from then on, and no observer hears of it. -/
theorem not_announces : ¬ ∀ (setup : Setup Unit) (events : List (DeskEvent Unit)) (now : Instant)
    (operation : Operation),
    ((blank ()).run setup events).Announces setup (operation.event now) := by
  intro htold
  have hsearch := htold hourSetup [] 0 (.search [freshCandidate] none)
  let after := (Operation.event 0 (.search [freshCandidate] none)).apply hourSetup (blank ())
  have hframe : after.tracked = (blank ()).tracked ∧ after.notices = (blank ()).notices :=
    grabs_frame rfl hourSetup 0 (blank ())
  have hshown : (after.pending.shown hourSetup.store 0).map (·.title) = [freshRelease.title] := rfl
  have hdiffers : ¬ LooksAlike hourSetup (blank ()) after := by
    rw [looksAlike_iff_pendingAlike hframe.1]
    intro halike
    obtain ⟨item, hitems, -⟩ := List.map_eq_singleton_iff.mp hshown
    obtain ⟨same, hmem, -⟩ := (halike 0).found item (hitems ▸ List.mem_singleton_self item)
    exact absurd hmem List.not_mem_nil
  have hnotices : (blank ()).notices < after.notices := hsearch hdiffers
  rw [hframe.2] at hnotices
  exact absurd hnotices (Nat.lt_irrefl _)

end Acquisition
