import Acquisition.Proofs.Queue.InFlight

/-!
# When a finished download is shown as finished

A client is asked now and then, so any status may be reported right before the download is
finished.  What is shown of a download follows its reports one after the other, and a report that
cannot follow on what is shown is passed over.  Completion follows on every status that a live
download is shown in but one: a download that is shown paused stays paused until it is reported as
queued or under way again.

## Main definitions

* `QueueStatus.shownAfter`: what is shown after reports, one after the other.
* `reportedStatuses`: what polls report of a download.
* `HeldPaused`: a download was shown paused, and not reported as queued or under way since.

## Main results

* `Poll.status_lookup?`, `status_runFrom`: what is shown of a download, told by its reports alone.
* `QueueStatus.shownAfter_eq_paused_iff`: what is shown paused is held so.
* `TrackedDownloads.shows_finished_iff`: **a finished download is shown as finished unless it is
  held paused**, and then it is shown as paused.
-/

namespace Acquisition

open TrackedDownloads

/-! ### Reports one after the other -/

namespace QueueStatus

/-- What is shown of a download after a report: what is reported, unless it cannot follow. -/
def shownNext (shown : Option QueueStatus) (reported : QueueStatus) : QueueStatus :=
  match shown with
  | none => reported
  | some status => if status.canBecome reported then reported else status

/-- What is shown of a download after reports, one after the other. -/
def shownAfter (shown : Option QueueStatus) (reported : List QueueStatus) : Option QueueStatus :=
  reported.foldl (fun shown status => some (shownNext shown status)) shown

@[simp] theorem shownAfter_nil (shown : Option QueueStatus) : shownAfter shown [] = shown := rfl

theorem shownAfter_cons (shown : Option QueueStatus) (status : QueueStatus)
    (reported : List QueueStatus) :
    shownAfter shown (status :: reported) = shownAfter (some (shownNext shown status)) reported :=
  rfl

theorem shownAfter_append (shown : Option QueueStatus) (front back : List QueueStatus) :
    shownAfter shown (front ++ back) = shownAfter (shownAfter shown front) back :=
  List.foldl_append

theorem shownAfter_concat (shown : Option QueueStatus) (reported : List QueueStatus)
    (status : QueueStatus) : shownAfter shown (reported ++ [status]) =
      some (shownNext (shownAfter shown reported) status) :=
  shownAfter_append shown reported [status]

/-- Nothing is shown that was not reported. -/
theorem mem_of_shownAfter {status : QueueStatus} {reported : List QueueStatus}
    (h : shownAfter none reported = some status) : status ∈ reported := by
  induction reported using List.reverseRecOn generalizing status with
  | nil => exact absurd h nofun
  | append_singleton reported last ih =>
    rw [shownAfter_concat, Option.some.injEq] at h
    rw [List.mem_append, List.mem_singleton]
    cases hshown : shownAfter none reported with
    | none =>
      rw [hshown] at h
      exact .inr h.symm
    | some earlier =>
      rw [hshown, shownNext] at h
      split at h
      · exact .inr h.symm
      · exact .inl (h ▸ ih hshown)

/-! ### Paused downloads -/

/-- The download was shown paused at a report that it is, and no later report says that it is
queued or under way. -/
def HeldPaused (reported : List QueueStatus) : Prop :=
  ∃ front back, reported = front ++ paused :: back ∧
    shownAfter none (front ++ [paused]) = some paused ∧
      ∀ later ∈ back, later ≠ queued ∧ later ≠ downloading

/-- What is shown paused was reported so now, or was shown so before and is not resumed. -/
theorem eq_paused_or_of_shownNext {shown : Option QueueStatus} {status : QueueStatus}
    (h : shownNext shown status = paused) :
    status = paused ∨ shown = some paused ∧ status ≠ queued ∧ status ≠ downloading := by
  cases shown with
  | none => exact .inl h
  | some earlier =>
    revert h
    cases earlier <;> cases status <;> decide

/-- Neither a warning nor completion follows on a pause. -/
theorem shownNext_paused {status : QueueStatus} (hlives : status.Lives)
    (hresumes : status ≠ queued ∧ status ≠ downloading) : shownNext (some paused) status = paused := by
  revert hlives hresumes
  cases status <;> decide

/-- Completion follows on whatever else is shown of a live download. -/
theorem shownNext_completed {shown : Option QueueStatus}
    (hlives : ∀ status, shown = some status → status.Lives ∧ status ≠ delay)
    (hpaused : shown ≠ some paused) : shownNext shown completed = completed := by
  cases shown with
  | none => rfl
  | some status =>
    have hstatus := hlives status rfl
    revert hstatus hpaused
    cases status <;> decide

theorem shownAfter_paused {reported : List QueueStatus} (hlives : ∀ status ∈ reported, status.Lives)
    (hresumes : ∀ status ∈ reported, status ≠ queued ∧ status ≠ downloading) :
    shownAfter (some paused) reported = some paused := by
  induction reported with
  | nil => rfl
  | cons status reported ih =>
    obtain ⟨hfirst, hrest⟩ := List.forall_mem_cons.mp hlives
    obtain ⟨hfirst', hrest'⟩ := List.forall_mem_cons.mp hresumes
    rw [shownAfter_cons, shownNext_paused hfirst hfirst', ih hrest hrest']

theorem heldPaused_of_shownAfter {reported : List QueueStatus}
    (h : shownAfter none reported = some paused) : HeldPaused reported := by
  induction reported using List.reverseRecOn with
  | nil => exact absurd h nofun
  | append_singleton reported last ih =>
    have hnext := h
    rw [shownAfter_concat, Option.some.injEq] at hnext
    rcases eq_paused_or_of_shownNext hnext with rfl | ⟨hshown, hresumes⟩
    · -- the pause is the last report
      exact ⟨reported, [], rfl, h, fun _ hmem => absurd hmem List.not_mem_nil⟩
    · -- the last report leaves an earlier pause as it was
      obtain ⟨front, back, rfl, hpaused, hback⟩ := ih hshown
      refine ⟨front, back ++ [last], by rw [List.append_assoc, List.cons_append], hpaused,
        fun later hmem => ?_⟩
      rcases List.mem_append.mp hmem with hmem | hmem
      · exact hback later hmem
      · rw [List.mem_singleton.mp hmem]
        exact hresumes

/-- **What is shown paused is held so**, and what is held paused is shown so. -/
theorem shownAfter_eq_paused_iff {reported : List QueueStatus}
    (hlives : ∀ status ∈ reported, status.Lives) :
    shownAfter none reported = some paused ↔ HeldPaused reported := by
  refine ⟨heldPaused_of_shownAfter, ?_⟩
  rintro ⟨front, back, rfl, hpaused, hback⟩
  rw [List.append_cons, shownAfter_append, hpaused]
  exact shownAfter_paused
    (fun status hmem => hlives status (List.mem_append_right _ (List.mem_cons_of_mem _ hmem))) hback

/-- A download that is reported finished last is shown finished or paused. -/
theorem shownAfter_completed_or {reported : List QueueStatus}
    (hlives : ∀ status ∈ reported, status.Lives ∧ status ≠ delay)
    (hlast : reported.getLast? = some completed) :
    shownAfter none reported = some completed ∨ shownAfter none reported = some paused := by
  obtain ⟨front, rfl⟩ := List.getLast?_eq_some_iff.mp hlast
  rw [shownAfter_concat]
  by_cases hpaused : shownAfter none front = some paused
  · rw [hpaused]
    exact .inr rfl
  · have hshown : ∀ status, shownAfter none front = some status → status.Lives ∧ status ≠ delay :=
      fun status h => hlives status (List.mem_append_left _ (mem_of_shownAfter h))
    rw [shownNext_completed hshown hpaused]
    exact .inl rfl

end QueueStatus

open QueueStatus

/-! ### Polls -/

/-- What is shown of a download after a report of it. -/
theorem TakesIn.status_eq {before : Option TrackedDownload} {item : DownloadItem}
    {after : TrackedDownload} (h : TakesIn before item after) :
    after.status = shownNext (before.map (·.status)) item.status := by
  cases before with
  | none => exact h.2
  | some download => exact congrArg TrackedDownload.status h

/-- The statuses that items report of a download. -/
def itemStatuses (client : String) (key : TrackingKey) (items : List DownloadItem) :
    List QueueStatus :=
  (items.filter (reports client key)).map (·.status)

namespace TrackedDownloads

variable {client : String} {protocol : Protocol} {now : Instant} {key : TrackingKey}

/-- What is shown of a download after one report. -/
theorem status_applySighting (tracked : TrackedDownloads) (sighting : Sighting) :
    ((tracked.applySighting client protocol now sighting).1.lookup? key).map (·.status) =
      shownAfter ((tracked.lookup? key).map (·.status))
        (itemStatuses client key [sighting.item]) := by
  by_cases hkey : key = .of client sighting.item.downloadId
  · obtain ⟨after, hafter, htakes⟩ := lookup?_applySighting_of_eq hkey
    rw [hafter, itemStatuses, List.filter_cons_of_pos (reports_iff.mpr hkey), Option.map_some,
      htakes.status_eq]
    rfl
  · rw [lookup?_applySighting_of_ne hkey, itemStatuses,
      List.filter_cons_of_neg fun h => hkey (reports_iff.mp h)]
    rfl

/-- What is shown of a download after reports, one after the other. -/
theorem status_applySightings {sightings : List Sighting} : ∀ tracked : TrackedDownloads,
    ((applySightings client protocol now sightings tracked).1.lookup? key).map (·.status) =
      shownAfter ((tracked.lookup? key).map (·.status))
        (itemStatuses client key (sightings.map (·.item))) := by
  induction sightings with
  | nil => exact fun _ => rfl
  | cons sighting sightings ih =>
    intro tracked
    have hsplit : itemStatuses client key ((sighting :: sightings).map (·.item)) =
        itemStatuses client key [sighting.item] ++
          itemStatuses client key (sightings.map (·.item)) := by
      rw [itemStatuses, itemStatuses, itemStatuses, ← List.map_append, ← List.filter_append]
      rfl
    rw [applySightings_cons, ih, status_applySighting, hsplit, shownAfter_append]

end TrackedDownloads

namespace Poll

variable {σ : Type} {poll : Poll σ} {key : TrackingKey}

/-- The statuses that a poll reports of a download. -/
def statuses (poll : Poll σ) (key : TrackingKey) : List QueueStatus :=
  itemStatuses poll.client key poll.items

theorem statuses_of_other (hclient : key.1 ≠ Text.lowercase poll.client) :
    poll.statuses key = [] := by
  rw [statuses, itemStatuses, List.map_eq_nil_iff, List.filter_eq_nil_iff]
  intro item _ hreports
  exact hclient (congrArg Prod.fst (reports_iff.mp hreports))

/-- **What is shown of a download after a poll** follows from what the poll reports of it, unless
the poll leaves it out. -/
theorem status_lookup? (tracked : TrackedDownloads)
    (hreported : key.1 = Text.lowercase poll.client → key ∈ poll.keys) :
    ((poll.apply tracked).lookup? key).map (·.status) =
      shownAfter ((tracked.lookup? key).map (·.status)) (poll.statuses key) := by
  by_cases hclient : key.1 = Text.lowercase poll.client
  · rw [lookup?_of_reported (hreported hclient), reported, status_applySightings,
      sightings_items, statuses]
  · rw [lookup?_of_other hclient, statuses_of_other hclient, shownAfter_nil]

end Poll

/-! ### Runs -/

/-- The statuses that polls report of a download, one after the other. -/
def reportedStatuses {σ : Type} (key : TrackingKey) (polls : List (Poll σ)) : List QueueStatus :=
  polls.flatMap (·.statuses key)

namespace TrackedDownloads

variable {σ : Type} {key : TrackingKey}

/-- **What is shown of a download after polls** follows from what they report of it. -/
theorem status_runFrom {polls : List (Poll σ)} : ∀ tracked : TrackedDownloads,
    (∀ poll ∈ polls, key.1 = Text.lowercase poll.client → key ∈ poll.keys) →
      ((runFrom tracked (polls.map .poll)).lookup? key).map (·.status) =
        shownAfter ((tracked.lookup? key).map (·.status)) (reportedStatuses key polls) := by
  induction polls with
  | nil => exact fun _ _ => rfl
  | cons poll polls ih =>
    intro tracked hreported
    obtain ⟨hfirst, hrest⟩ := List.forall_mem_cons.mp hreported
    have hnext : runFrom tracked ((poll :: polls).map .poll) =
        runFrom (poll.apply tracked) (polls.map .poll) := rfl
    have hsplit : reportedStatuses key (poll :: polls) =
        poll.statuses key ++ reportedStatuses key polls := List.flatMap_cons
    rw [hnext, ih _ hrest, Poll.status_lookup? tracked hfirst, hsplit, shownAfter_append]

/-- A download that is not tracked yet is seen through by polls of its client: none leaves it out or
reports it as failed, deleted or held back, and the last report says that it is finished. -/
structure Finishes (tracked : TrackedDownloads) (key : TrackingKey) (polls : List (Poll σ)) :
    Prop where
  new : tracked.lookup? key = none
  reported : ∀ poll ∈ polls, key.1 = Text.lowercase poll.client → key ∈ poll.keys
  lives : ∀ status ∈ reportedStatuses key polls, status.Lives ∧ status ≠ .delay
  finished : (reportedStatuses key polls).getLast? = some .completed

/-- **A finished download is shown as finished unless it is held paused**, and is shown as paused if
it is. -/
theorem shows_finished_iff {tracked : TrackedDownloads} {polls : List (Poll σ)}
    (h : Finishes tracked key polls) :
    let shown := ((runFrom tracked (polls.map .poll)).lookup? key).map (·.status)
    (shown = some .completed ↔ ¬ HeldPaused (reportedStatuses key polls)) ∧
      (shown = some .paused ↔ HeldPaused (reportedStatuses key polls)) := by
  intro shown
  have hshown : shown = shownAfter none (reportedStatuses key polls) := by
    have hrun := status_runFrom tracked h.reported
    rw [h.new, Option.map_none] at hrun
    exact hrun
  have hpaused := shownAfter_eq_paused_iff fun status hmem => (h.lives status hmem).1
  rw [hshown, ← hpaused]
  refine ⟨?_, Iff.rfl⟩
  rcases shownAfter_completed_or h.lives h.finished with hcase | hcase
  · simp [hcase]
  · simp [hcase]

/-- A poll of a client that reports one download in a status. -/
def told (status : QueueStatus) : Poll Unit :=
  let item := { (default : DownloadItem) with downloadId := "HASH1", status }
  Report.against ⟨"qbit", .torrent, [item], 0⟩ .empty

/-- A download that is paused, resumed and interrupted by a warning is shown as finished in the
end, although the pause behind the warning was passed over. -/
theorem resumed_shows_finished :
    let key := TrackingKey.of "qbit" "HASH1"
    let polls := [.queued, .paused, .downloading, .warning, .paused, .completed].map told
    Finishes .empty key polls ∧
      ((runFrom .empty (polls.map .poll)).lookup? key).map (·.status) = some .completed := by
  intro key polls
  have hfinishes : Finishes .empty key polls :=
    ⟨rfl, by decide +kernel, by decide +kernel, by decide +kernel⟩
  refine ⟨hfinishes, (shows_finished_iff hfinishes).1.mpr fun hheld => ?_⟩
  have hpaused := (shownAfter_eq_paused_iff fun status hmem =>
    (hfinishes.lives status hmem).1).mpr hheld
  revert hpaused
  decide +kernel

/-- A download that is seen paused and then finished stays paused. -/
theorem not_shows_finished :
    let key := TrackingKey.of "qbit" "HASH1"
    let polls := [.paused, .completed].map told
    Finishes .empty key polls ∧
      ((runFrom .empty (polls.map .poll)).lookup? key).map (·.status) ≠ some .completed := by
  intro key polls
  exact ⟨⟨rfl, by decide +kernel, by decide +kernel, by decide +kernel⟩, by decide +kernel⟩

end TrackedDownloads

end Acquisition
