import Acquisition.Proofs.Client.Http
import Acquisition.Proofs.Client.TimeLeft

/-!
# Polls of a usenet client

A poll asks for the queue and for the history, and reports the downloads of both.  It fails as one of
these calls does.  Beyond that it can only break off, and does so if the time left of a download at
work does.

## Main definitions

* `Sabnzbd.Reports`: a download in the queue is reported with the time left that it tells.
* `Sabnzbd.QueueSlot.BreaksOff`: a download at work whose time left breaks off.
* `Sabnzbd.Answers`: both calls of a poll are answered.

## Main results

* `Sabnzbd.items_cases`: **all that a poll can come to.**
* `Sabnzbd.poll_contained_iff`: **texts are read exactly and polls are contained unless a time left
  breaks off.**
-/

namespace Acquisition

namespace Sabnzbd

/-! ### Downloads -/

/-- The download with the time left. -/
def QueueSlot.itemWith (slot : QueueSlot) (timeLeft : Option Span) : DownloadItem where
  downloadId := slot.id
  title := slot.fileName
  category := namedCategory slot.category
  size := Sabnzbd.megabytes slot.megabytes
  left := Sabnzbd.megabytes slot.megabytesLeft
  timeLeft
  status := queueStatus slot.status
  outputPath := none
  message := none

/-- The download is reported with the time left that its text tells, or with none if it tells none or
the download is paused. -/
def Reports (slot : QueueSlot) (item : DownloadItem) : Prop :=
  ∃ timeLeft, item = slot.itemWith timeLeft ∧ ∀ span, timeLeft = some span ↔
    queueStatus slot.status ≠ .paused ∧
      ∃ seconds, TellsTime slot.timeLeft seconds ∧ span = seconds * 1000000000

/-- The download is at work and breaks the program off. -/
def QueueSlot.BreaksOff (slot : QueueSlot) : Prop :=
  queueStatus slot.status ≠ .paused ∧ Sabnzbd.BreaksOff slot.timeLeft

theorem QueueSlot.item_eq (slot : QueueSlot) : slot.item =
    (if queueStatus slot.status = .paused then .ok none else readTimeLeft slot.timeLeft).map
      slot.itemWith := by
  rw [item]
  by_cases hpaused : queueStatus slot.status = .paused
  · rw [if_pos hpaused, if_pos (beq_iff_eq.mpr hpaused)]
    rfl
  · rw [if_neg hpaused, if_neg (mt beq_iff_eq.mp hpaused)]
    cases readTimeLeft slot.timeLeft <;> rfl

/-- A download fails to be reported exactly if it breaks the program off. -/
theorem QueueSlot.item_eq_error_iff {slot : QueueSlot} {error : ClientError} :
    slot.item = .error error ↔ error = .breakdown ∧ slot.BreaksOff := by
  rw [item_eq, QueueSlot.BreaksOff]
  split
  · next hpaused => exact iff_of_false nofun fun h => h.2.1 hpaused
  · next hwork =>
    rw [and_iff_right hwork, ← readTimeLeft_eq_error_iff]
    cases readTimeLeft slot.timeLeft <;> simp [Except.map]

/-- What does not break the program off is reported. -/
theorem QueueSlot.exists_reports {slot : QueueSlot} (h : ¬ slot.BreaksOff) :
    ∃ item, slot.item = .ok item ∧ Reports slot item := by
  rw [item_eq]
  split
  · next hpaused => exact ⟨slot.itemWith none, rfl, none, rfl, by simp [hpaused]⟩
  · next hwork =>
    obtain ⟨timeLeft, hread, hexact⟩ := readsExactly_iff.mpr fun hbreaks => h ⟨hwork, hbreaks⟩
    exact ⟨slot.itemWith timeLeft, by rw [hread]; rfl, timeLeft, rfl, fun span => by
      rw [hexact, and_iff_right hwork]⟩

/-! ### Polls -/

variable {σ α : Type}

/-- **A call fails for what it asks or is answered, and never breaks the program off.** -/
theorem spares_call (config : Sabnzbd) (transport : Transport σ) (read : Json → Option α)
    (mode : String) (parameters : List (String × String)) :
    ClientCall.Spares .breakdown (config.call transport read mode parameters) := by
  refine ClientCall.Spares.andThen (ClientCall.spares_done ?_) fun url =>
    ClientCall.Spares.andThen (ClientCall.spares_fetch _ _ (by simp) (by simp)) fun body =>
      ClientCall.spares_done ?_
  · rw [checkAddress]
    split <;> exact nofun
  · rw [readAnswer]
    split
    · exact nofun
    · split
      · rw [errorOf]
        split <;> exact nofun
      · split <;> exact nofun

/-- The queue is asked for. -/
def askQueue (config : Sabnzbd) (transport : Transport σ) : ClientCall σ (List QueueSlot) :=
  config.call transport (slotsIn? "queue") "queue" (config.categoryField "category")

/-- The history is asked for. -/
def askHistory (config : Sabnzbd) (transport : Transport σ) : ClientCall σ (List HistorySlot) :=
  config.call transport (slotsIn? "history") "history" (config.categoryField "category")

/-- Both calls of a poll are answered, one after the other. -/
def Answers (config : Sabnzbd) (transport : Transport σ) (s : σ) (queued : List QueueSlot)
    (finished : List HistorySlot) : Prop :=
  ∃ s', config.askQueue transport s = (.ok queued, s') ∧
    (config.askHistory transport s').1 = .ok finished

/-- **All that a poll can come to**: a call fails, or the downloads are reported one by one. -/
theorem items_cases (config : Sabnzbd) (transport : Transport σ) (s : σ) :
    ((∀ queued finished, ¬ Answers config transport s queued finished) ∧
      ∃ error, error ≠ .breakdown ∧ (config.items transport s).1 = .error error) ∨
    ∃ queued finished, Answers config transport s queued finished ∧
      (config.items transport s).1 =
        (queued.mapM QueueSlot.item).map (· ++ finished.map HistorySlot.item) := by
  have hitems : config.items transport = ClientCall.andThen (config.askQueue transport)
      fun queued => ClientCall.andThen (config.askHistory transport) fun finished =>
        .done ((queued.mapM QueueSlot.item).map (· ++ finished.map HistorySlot.item)) := rfl
  rw [hitems, ClientCall.andThen]
  have hqueue : (config.askQueue transport s).1 ≠ _ := spares_call config transport _ _ _ s
  have hhistory : ∀ t, (config.askHistory transport t).1 ≠ _ := spares_call config transport _ _ _
  rcases hqueued : config.askQueue transport s with ⟨error | queued, s'⟩
  · refine Or.inl ⟨?_, error, fun h => ?_, rfl⟩
    · rintro queued finished ⟨t, hanswer, -⟩
      cases hqueued.symm.trans hanswer
    · exact hqueue (by rw [hqueued, h])
  · rcases hfinished : config.askHistory transport s' with ⟨error | finished, s''⟩
    · refine Or.inl ⟨?_, error, fun h => ?_, by simp [ClientCall.andThen, hfinished]⟩
      · rintro others finished ⟨t, hanswer, hlast⟩
        obtain ⟨-, rfl⟩ := Prod.mk.inj (hqueued.symm.trans hanswer)
        rw [hfinished] at hlast
        cases hlast
      · exact hhistory s' (by rw [hfinished, h])
    · refine Or.inr ⟨queued, finished, ⟨s', hqueued, by rw [hfinished]⟩, ?_⟩
      simp [ClientCall.andThen, hfinished, ClientCall.done]

theorem Answers.unique {config : Sabnzbd} {transport : Transport σ} {s : σ}
    {queued queued' : List QueueSlot} {finished finished' : List HistorySlot}
    (h : Answers config transport s queued finished)
    (h' : Answers config transport s queued' finished') :
    queued = queued' ∧ finished = finished' := by
  obtain ⟨t, hqueue, hhistory⟩ := h
  obtain ⟨t', hqueue', hhistory'⟩ := h'
  obtain ⟨hsame, rfl⟩ := Prod.mk.inj (hqueue.symm.trans hqueue')
  exact ⟨Except.ok.inj hsame, Except.ok.inj (hhistory.symm.trans hhistory')⟩

/-- Downloads break the program off exactly if one of them does. -/
theorem mapM_item_eq_breakdown_iff {queued : List QueueSlot} :
    queued.mapM QueueSlot.item = .error .breakdown ↔ ∃ slot ∈ queued, slot.BreaksOff := by
  constructor
  · intro hread
    obtain ⟨slot, ⟨front, back, rfl, -, -⟩, herror⟩ := mapM_eq_error_iff.mp hread
    exact ⟨slot, List.mem_append_right _ List.mem_cons_self,
      (QueueSlot.item_eq_error_iff.mp herror).2⟩
  · rintro ⟨slot, hmem, hbreaks⟩
    cases hread : queued.mapM QueueSlot.item with
    | ok items =>
      obtain ⟨item, hitem, -⟩ := exists_mem_of_forall₂ (mapM_eq_ok_iff.mp hread) hmem
      exact absurd ((QueueSlot.item_eq_error_iff.mpr ⟨rfl, hbreaks⟩).symm.trans hitem) nofun
    | error fault =>
      obtain ⟨first, -, hfirst⟩ := mapM_eq_error_iff.mp hread
      rw [(QueueSlot.item_eq_error_iff.mp hfirst).1]

/-- Where no download breaks the program off, each of them is reported. -/
theorem exists_forall₂_reports {queued : List QueueSlot} (h : ∀ slot ∈ queued, ¬ slot.BreaksOff) :
    ∃ items, queued.mapM QueueSlot.item = .ok items ∧ List.Forall₂ Reports queued items := by
  induction queued with
  | nil => exact ⟨[], rfl, .nil⟩
  | cons slot queued ih =>
    obtain ⟨hslot, hrest⟩ := List.forall_mem_cons.mp h
    obtain ⟨item, hitem, hreports⟩ := QueueSlot.exists_reports hslot
    obtain ⟨items, hitems, hall⟩ := ih hrest
    refine ⟨item :: items, ?_, .cons hreports hall⟩
    rw [mapM_cons_eq, hitem, hitems]

/-- **Texts are read exactly and polls are contained unless a time left breaks off.**  A text is read
as the time that it tells, and as none if it tells none, if and only if its end does not overflow and
a span can hold the time.  A poll breaks the program off if and only if it is answered with a download
at work whose text is not read so; where it is answered with none, every download is reported. -/
theorem poll_contained_iff (text : String) (config : Sabnzbd) (transport : Transport σ) (s : σ) :
    (ReadsExactly text ↔ ¬ BreaksOff text) ∧
      (readTimeLeft text = .error .breakdown ↔ BreaksOff text) ∧
      ((config.items transport s).1 = .error .breakdown ↔
        ∃ queued finished, Answers config transport s queued finished ∧
          ∃ slot ∈ queued, slot.BreaksOff) ∧
      ∀ queued finished, Answers config transport s queued finished →
        (∀ slot ∈ queued, ¬ slot.BreaksOff) →
          ∃ items, (config.items transport s).1 = .ok (items ++ finished.map HistorySlot.item) ∧
            List.Forall₂ Reports queued items := by
  refine ⟨readsExactly_iff, readTimeLeft_eq_error_iff.trans (and_iff_right rfl), ?_⟩
  rcases items_cases config transport s with
    ⟨hunanswered, error, hnever, hitems⟩ | ⟨queued, finished, hanswers, hitems⟩
  · rw [hitems]
    refine ⟨iff_of_false ?_ ?_, fun queued finished h => absurd h (hunanswered queued finished)⟩
    · exact fun h => hnever (Except.error.inj h)
    · rintro ⟨queued, finished, h, -⟩
      exact hunanswered queued finished h
  · rw [hitems]
    constructor
    · have hbreaks : (queued.mapM QueueSlot.item).map (· ++ finished.map HistorySlot.item) =
          .error .breakdown ↔ ∃ slot ∈ queued, slot.BreaksOff := by
        rw [← mapM_item_eq_breakdown_iff]
        cases queued.mapM QueueSlot.item <;> simp [Except.map]
      rw [hbreaks]
      constructor
      · exact fun h => ⟨queued, finished, hanswers, h⟩
      · rintro ⟨others, _, h, hslot⟩
        rwa [(hanswers.unique h).1]
    · intro others finished' h hfits
      obtain ⟨rfl, rfl⟩ := hanswers.unique h
      obtain ⟨items, hread, hreports⟩ := exists_forall₂_reports hfits
      exact ⟨items, by rw [hread]; rfl, hreports⟩

/-- A client at an address. -/
def loopback : Sabnzbd where
  name := "sab"
  base := "http://[::1]:8080"
  apiKey := none
  category := none

/-- A queue with one download at work, and an empty history. -/
def reporting (timeLeft : String) : Transport Unit := fun request s =>
  let name := "\"nzo_id\":\"SAB-1\",\"filename\":\"Movie\""
  let slot := "\x7b" ++ name ++ ",\"timeleft\":\"" ++ timeLeft ++ "\"\x7d"
  let queue := "\x7b\"queue\":\x7b\"slots\":[" ++ slot ++ "]\x7d\x7d"
  let history := "\x7b\"history\":\x7b\x7d\x7d"
  (.ok ⟨200, if request.query.contains ("mode", "queue") then queue else history⟩, s)

/-- Where both calls are seen to be answered, the times left in the queue are known. -/
theorem exists_answers {config : Sabnzbd} {transport : Transport Unit} {times : List String}
    (hqueue : (config.askQueue transport ()).1.toOption.map (·.map (·.timeLeft)) = some times)
    (hhistory : (config.askHistory transport ()).1.toOption.isSome = true) :
    ∃ queued finished, Answers config transport () queued finished ∧
      queued.map (·.timeLeft) = times := by
  match hqueued : config.askQueue transport (), hfinished : config.askHistory transport () with
  | (.ok queued, ()), (.ok finished, ()) =>
    rw [hqueued] at hqueue
    exact ⟨queued, finished, ⟨(), hqueued, by rw [hfinished]⟩, Option.some.inj hqueue⟩
  | (.error error, ()), _ =>
    rw [hqueued] at hqueue
    exact absurd hqueue nofun
  | (.ok _, ()), (.error error, ()) =>
    rw [hfinished] at hhistory
    exact absurd hhistory nofun

/-- The days of a time left are read and reported. -/
theorem days_are_reported :
    ReadsExactly "1:02:03:04" ∧ ∃ queued finished items,
      Answers loopback (reporting "1:02:03:04") () queued finished ∧
        (loopback.items (reporting "1:02:03:04") ()).1 =
          .ok (items ++ finished.map HistorySlot.item) ∧
        List.Forall₂ Reports queued items ∧ queued.map (·.timeLeft) = ["1:02:03:04"] := by
  obtain ⟨hexact, hbreaks, -, hpoll⟩ :=
    poll_contained_iff "1:02:03:04" loopback (reporting "1:02:03:04") ()
  have hread : readTimeLeft "1:02:03:04" = .ok (some (Span.ofSeconds 93784)) := by decide
  have hfits : ¬ BreaksOff "1:02:03:04" := fun h => absurd (hread.symm.trans (hbreaks.mpr h)) nofun
  have hqueue : (loopback.askQueue (reporting "1:02:03:04") ()).1.toOption.map
      (·.map (·.timeLeft)) = some ["1:02:03:04"] := by decide +kernel
  have hhistory : (loopback.askHistory (reporting "1:02:03:04") ()).1.toOption.isSome = true := by
    decide +kernel
  obtain ⟨queued, finished, hanswers, htimes⟩ := exists_answers hqueue hhistory
  have hall : ∀ slot ∈ queued, ¬ slot.BreaksOff := by
    rintro slot hmem ⟨-, hslot⟩
    have htime := List.mem_map_of_mem (f := (·.timeLeft)) hmem
    rw [htimes, List.mem_singleton] at htime
    exact hfits (htime ▸ hslot)
  obtain ⟨items, hitems, hreports⟩ := hpoll queued finished hanswers hall
  exact ⟨hexact.mpr hfits, queued, finished, items, hanswers, hitems, hreports, htimes⟩

/-- One second more than a span holds breaks the poll off; and a text may break off although a span
can hold the time that it tells, because its hours alone overflow. -/
theorem not_poll_contained :
    (loopback.items (reporting "9223372036854776") ()).1 = .error .breakdown ∧
      TellsTime "-106751991167301:2562047788015216:00:00" (-28800) ∧
        readTimeLeft "-106751991167301:2562047788015216:00:00" = .error .breakdown ∧
          ¬ ReadsExactly "-106751991167301:2562047788015216:00:00" := by
  have hbroken : (match (loopback.items (reporting "9223372036854776") ()).1 with
      | .error .breakdown => true
      | _ => false) = true := by decide +kernel
  have htells : TellsTime "-106751991167301:2562047788015216:00:00" (-28800) :=
    ⟨["-106751991167301", "2562047788015216", "00", "00"],
      [-106751991167301, 2562047788015216, 0, 0], by decide,
      .cons (counts_iff.mpr rfl) (.cons (counts_iff.mpr rfl) (.cons (counts_iff.mpr rfl)
        (.cons (counts_iff.mpr rfl) .nil))), rfl⟩
  have hread : readTimeLeft "-106751991167301:2562047788015216:00:00" = .error .breakdown := by
    decide
  refine ⟨?_, htells, hread, fun hexact => ?_⟩
  · split at hbroken
    · next hitems => exact hitems
    · exact absurd hbroken nofun
  · exact readsExactly_iff.mp hexact (readTimeLeft_eq_error_iff.mp hread).2

end Sabnzbd

end Acquisition
