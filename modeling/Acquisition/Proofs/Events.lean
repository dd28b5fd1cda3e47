import Acquisition.Events
import Acquisition.Proofs.Stored
import Mathlib.Data.List.Forall2

/-!
# The log of events loses nothing

Events of three types share one log.  Each is stored under its topic, and reading the events of one
type picks those of its topic and reads them back, passing over what cannot be read.  Nothing is
passed over: a type owns its topic, and whatever the program can announce is read back, up to the
name of a quality that is not the one of the catalogue.

## Main definitions

* `Topic.Payload`: the type of what is announced under a topic.
* `Publication`: something to announce, and when.
* `Publication.Storable`: its identifiers and numbers have the sizes of the program and its quality
  is one of the catalogue.
* `Topic.Same`: equality of payloads, where qualities with the same number are the same.
* `EventLog.LosesNothing`: all that was published can be read, counted and drained.

## Main results

* `EventLog.publishAll_eq`: what a log holds after any number of publications.
* `Topic.exists_decode?`: the stored form of a payload is read as the same one.
* `EventLog.publishAll_losesNothing`: **a log that started out empty has lost nothing.**
-/

namespace Acquisition

open Stored

/-! ### Payloads of a topic -/

namespace Topic

/-- What is announced under a topic. -/
def Payload : Topic → Type
  | releaseGrabbed => ReleaseGrabbed
  | mediaFileImported => MediaFileImported
  | downloadRemoved => DownloadRemoved

instance : (topic : Topic) → Announcement topic.Payload
  | releaseGrabbed => inferInstanceAs (Announcement ReleaseGrabbed)
  | mediaFileImported => inferInstanceAs (Announcement MediaFileImported)
  | downloadRemoved => inferInstanceAs (Announcement DownloadRemoved)

/-- A payload is announced under the topic that it belongs to. -/
@[simp] theorem announced (topic : Topic) : Announcement.topic topic.Payload = topic := by
  cases topic <;> rfl

/-- The identifiers in a payload. -/
def ids : (topic : Topic) → topic.Payload → List Nat
  | releaseGrabbed, (event : ReleaseGrabbed) => [event.mediaId]
  | mediaFileImported, (event : MediaFileImported) => [event.mediaId, event.fileId]
  | downloadRemoved, _ => []

/-- The quality in a payload. -/
def quality? : (topic : Topic) → topic.Payload → Option QualityModel
  | releaseGrabbed, (event : ReleaseGrabbed) => some event.quality
  | mediaFileImported, _ | downloadRemoved, _ => none

/-- The payloads differ at most in what their quality is called. -/
def Same : (topic : Topic) → topic.Payload → topic.Payload → Prop
  | releaseGrabbed, (a : ReleaseGrabbed), (b : ReleaseGrabbed) =>
    b = { a with quality := b.quality } ∧ a.quality.same b.quality = true
  | mediaFileImported, (a : MediaFileImported), (b : MediaFileImported) => a = b
  | downloadRemoved, (a : DownloadRemoved), (b : DownloadRemoved) => a = b

end Topic

/-! ### Reading payloads back -/

theorem ReleaseGrabbed.decode?_encode {event : ReleaseGrabbed} {tier : Quality}
    (hid : Identifier event.mediaId) (hquality : event.quality.Storable)
    (htier : tier ∈ Quality.catalogue) (hsame : tier.id = event.quality.quality.id) :
    decode? (encode event) = some { event with quality.quality := tier } := by
  simp only [encode, decode?, Record.ofJson?]
  rw [Option.bind_eq_bind, Option.bind_some,
    Record.field?_bind_decodeId? (by simp [Record.field?]) hid,
    Record.required_eq (by simp [Record.field?, encode]) (decode?_text event.releaseTitle),
    Record.required_eq (by simp [Record.field?, encode]) (decode?_text event.indexer),
    Record.required_eq (by simp [Record.field?, encode]) (decode?_text event.client),
    Record.required_eq (by simp [Record.field?, encode]) (decode?_text event.downloadId),
    Record.required_eq (by simp [Record.field?, encode])
      (QualityModel.decode?_encode hquality htier hsame)]
  rfl

theorem MediaFileImported.decode?_encode {event : MediaFileImported}
    (hmedia : Identifier event.mediaId) (hfile : Identifier event.fileId) :
    decode? (encode event) = some event := by
  simp only [encode, decode?, Record.ofJson?]
  rw [Option.bind_eq_bind, Option.bind_some,
    Record.field?_bind_decodeId? (by simp [Record.field?]) hmedia,
    Record.field?_bind_decodeId? (by simp [Record.field?]) hfile,
    Record.required_eq (by simp [Record.field?, encode]) (decode?_text event.path),
    Record.optional_text event.group (by simp [Record.field?, encode]),
    Record.optional_text event.downloadId (by simp [Record.field?, encode])]
  rfl

theorem DownloadRemoved.decode?_encode (event : DownloadRemoved) :
    decode? (encode event) = some event := by
  simp only [encode, decode?, Record.ofJson?]
  rw [Option.bind_eq_bind, Option.bind_some,
    Record.required_eq (by simp [Record.field?, encode]) (decode?_text event.downloadId),
    Record.required_eq (by simp [Record.field?, encode]) (decode?_text event.client),
    Record.required_eq (by simp [Record.field?, encode]) (decode?_bool event.removedFromClient),
    Record.required_eq (by simp [Record.field?, encode]) (decode?_bool event.blocklisted)]
  rfl

/-- The identifiers of a payload have 128 bits, and its quality is one of the catalogue in a
revision of numbers of 32 bits. -/
structure Topic.Storable (topic : Topic) (payload : topic.Payload) : Prop where
  ids : ∀ id ∈ topic.ids payload, Identifier id
  quality : ∀ model ∈ topic.quality? payload, model.Storable

/-- The stored form of a payload is read as the same one. -/
theorem Topic.exists_decode? {topic : Topic} {payload : topic.Payload}
    (h : topic.Storable payload) :
    ∃ read, decode? (encode payload) = some read ∧ topic.Same payload read := by
  obtain ⟨hids, hquality⟩ := h
  match topic, payload with
  | .releaseGrabbed, (event : ReleaseGrabbed) =>
    have hstorable : event.quality.Storable := hquality _ rfl
    obtain ⟨tier, htier, hid⟩ := hstorable.quality
    refine ⟨_, ReleaseGrabbed.decode?_encode (hids _ List.mem_cons_self) hstorable htier hid,
      rfl, ?_⟩
    simp [QualityModel.same, Quality.same, hid]
  | .mediaFileImported, (event : MediaFileImported) =>
    have hfile : event.fileId ∈ [event.mediaId, event.fileId] := by simp
    exact ⟨event, MediaFileImported.decode?_encode (hids _ List.mem_cons_self) (hids _ hfile), rfl⟩
  | .downloadRemoved, (event : DownloadRemoved) =>
    exact ⟨event, event.decode?_encode, rfl⟩

/-- A payload whose quality is called as in the catalogue is read as it was. -/
theorem Topic.decode?_encode {topic : Topic} {payload : topic.Payload}
    (h : topic.Storable payload)
    (hnamed : ∀ model ∈ topic.quality? payload, model.quality ∈ Quality.catalogue) :
    decode? (encode payload) = some payload := by
  obtain ⟨hids, hquality⟩ := h
  match topic, payload with
  | .releaseGrabbed, (event : ReleaseGrabbed) =>
    exact ReleaseGrabbed.decode?_encode (hids _ List.mem_cons_self) (hquality _ rfl)
      (hnamed _ rfl) rfl
  | .mediaFileImported, (event : MediaFileImported) =>
    have hfile : event.fileId ∈ [event.mediaId, event.fileId] := by simp
    exact MediaFileImported.decode?_encode (hids _ List.mem_cons_self) (hids _ hfile)
  | .downloadRemoved, (event : DownloadRemoved) => exact event.decode?_encode

/-! ### Publishing -/

/-- Something that is announced under its topic. -/
structure Publication where
  topic : Topic
  payload : topic.Payload
  time : Instant

namespace Publication

/-- The event that the log holds. -/
def recorded (p : Publication) : Event Json := ⟨p.topic, p.time, encode p.payload⟩

/-- What was announced, if it was under the topic. -/
def payload? (topic : Topic) (p : Publication) : Option topic.Payload :=
  if h : p.topic = topic then some (h ▸ p.payload) else none

/-- What was announced under a topic, in order. -/
def payloadsOf (ps : List Publication) (topic : Topic) : List topic.Payload :=
  ps.filterMap (payload? topic)

variable (p : Publication) (ps : List Publication)

theorem payloadsOf_cons_self :
    payloadsOf (p :: ps) p.topic = p.payload :: payloadsOf ps p.topic := by
  simp [payloadsOf, payload?]

theorem payloadsOf_cons_of_ne {topic : Topic} (h : p.topic ≠ topic) :
    payloadsOf (p :: ps) topic = payloadsOf ps topic := by
  simp [payloadsOf, payload?, h]

end Publication

namespace EventLog

open Publication

/-- The log after more was published. -/
def publishAll (log : EventLog) (ps : List Publication) : EventLog :=
  ps.foldl (fun log p => log.publish p.payload p.time) log

/-- **A log holds what it held, and then what was published.** -/
theorem publishAll_eq (log : EventLog) (ps : List Publication) :
    log.publishAll ps = log ++ ps.map recorded := by
  induction ps generalizing log with
  | nil => simp [publishAll]
  | cons p ps ih =>
    show (log.publish p.payload p.time).publishAll ps = _
    rw [ih]
    simp [publish, recorded]

section Reading

variable (log : EventLog) (p : Publication)

/-- An event is read under the type of its topic. -/
theorem payloads_cons_self {read : p.topic.Payload} (h : decode? (encode p.payload) = some read) :
    EventLog.payloads (p.recorded :: log) p.topic.Payload =
      read :: log.payloads p.topic.Payload := by
  simp [payloads, recorded, h]

/-- An event is passed over under the types of other topics. -/
theorem payloads_cons_of_ne {topic : Topic} (h : p.topic ≠ topic) :
    EventLog.payloads (p.recorded :: log) topic.Payload = log.payloads topic.Payload := by
  simp [payloads, recorded, h]

theorem count_cons (topic : Topic) :
    EventLog.count (p.recorded :: log) topic =
      log.count topic + if p.topic = topic then 1 else 0 := by
  simp [count, recorded, List.countP_cons]

end Reading

/-- The payloads of a topic are read one by one, as each of them is. -/
theorem forall₂_payloads {R : (topic : Topic) → topic.Payload → topic.Payload → Prop}
    {ps : List Publication} (h : ∀ p ∈ ps,
      ∃ read, decode? (encode p.payload) = some read ∧ R p.topic p.payload read) (topic : Topic) :
    List.Forall₂ (R topic) (payloadsOf ps topic)
      (EventLog.payloads (ps.map recorded) topic.Payload) := by
  -- an event of the topic is read and one of another is passed over, on both sides alike
  induction ps with
  | nil => exact .nil
  | cons p ps ih =>
    obtain ⟨⟨read, hread, hR⟩, hps⟩ := List.forall_mem_cons.mp h
    rw [List.map_cons]
    by_cases htopic : p.topic = topic
    · subst htopic
      rw [payloadsOf_cons_self, payloads_cons_self _ p hread]
      exact .cons hR (ih hps)
    · rw [payloadsOf_cons_of_ne p ps htopic, payloads_cons_of_ne _ p htopic]
      exact ih hps

theorem count_recorded (ps : List Publication) (topic : Topic) :
    EventLog.count (ps.map recorded) topic = (payloadsOf ps topic).length := by
  induction ps with
  | nil => rfl
  | cons p ps ih =>
    rw [List.map_cons, count_cons, ih]
    by_cases htopic : p.topic = topic
    · subst htopic
      simp [payloadsOf_cons_self]
    · simp [payloadsOf_cons_of_ne p ps htopic, htopic]

/-- All that was published can be read, counted and drained. -/
structure LosesNothing (log : EventLog) (ps : List Publication) : Prop where
  /-- The payloads of a type are those that were published, in order. -/
  payloads : ∀ topic, List.Forall₂ topic.Same (payloadsOf ps topic) (log.payloads topic.Payload)
  /-- They are the very same ones if their qualities are called as in the catalogue. -/
  exact : (∀ p ∈ ps, ∀ model ∈ p.topic.quality? p.payload, model.quality ∈ Quality.catalogue) →
    ∀ topic, log.payloads topic.Payload = payloadsOf ps topic
  /-- The number of events of a topic is the number of publications. -/
  count : ∀ topic, log.count topic = (payloadsOf ps topic).length
  /-- The events are drained in order, with their times, and none is left. -/
  drain : log.drain = (ps.map recorded, [])

/-- **A log that started out empty has lost nothing** of what can be stored. -/
theorem publishAll_losesNothing {ps : List Publication}
    (h : ∀ p ∈ ps, p.topic.Storable p.payload) :
    (EventLog.publishAll [] ps).LosesNothing ps := by
  have hlog : EventLog.publishAll [] ps = ps.map recorded := publishAll_eq [] ps
  rw [hlog]
  refine ⟨forall₂_payloads fun p hp => Topic.exists_decode? (h p hp), fun hnamed topic => ?_,
    count_recorded ps, rfl⟩
  have hsame := forall₂_payloads (R := fun topic a b => a = b)
    (fun p hp => ⟨_, Topic.decode?_encode (h p hp) (hnamed p hp), rfl⟩) topic
  rw [List.forall₂_eq_eq_eq] at hsame
  exact hsame.symm

example (log : EventLog) :
    log.payloads (Topic.Payload .releaseGrabbed) = log.payloads ReleaseGrabbed := rfl

/-- A release that was grabbed, under a name of its quality that is not the one of the catalogue. -/
def grabbedFilm : ReleaseGrabbed where
  mediaId := 7
  releaseTitle := "Movie.2020.1080p.BluRay"
  indexer := "indexer"
  client := "qbit"
  downloadId := "ABCDEF"
  quality := ⟨⟨7, "Blu-ray"⟩, ⟨2, 0⟩⟩

/-- The file of the film. -/
def importedFilm : MediaFileImported where
  mediaId := 7
  fileId := 12
  path := "/movies/Movie (2020)/Movie.mkv"
  group := none
  downloadId := some "ABCDEF"

/-- The download of the film. -/
def removedDownload : DownloadRemoved where
  downloadId := "ABCDEF"
  client := "qbit"
  removedFromClient := true
  blocklisted := false

/-- The film is grabbed, imported and removed, and then grabbed again. -/
def filmEvents : List Publication :=
  [⟨.releaseGrabbed, grabbedFilm, 1000⟩, ⟨.mediaFileImported, importedFilm, 5000⟩,
    ⟨.downloadRemoved, removedDownload, 5000⟩, ⟨.releaseGrabbed, grabbedFilm, 9000⟩]

theorem filmEvents_lost_nothing :
    (∀ p ∈ filmEvents, p.topic.Storable p.payload) ∧
      (EventLog.publishAll [] filmEvents).LosesNothing filmEvents := by
  have identifiers : Identifier 7 ∧ Identifier 12 := by
    unfold Identifier
    decide
  have grabbed : Topic.Storable .releaseGrabbed grabbedFilm := by
    refine ⟨by simp [Topic.ids, grabbedFilm, identifiers], ?_⟩
    rintro model ⟨rfl⟩
    exact ⟨⟨Quality.bluray1080p, by decide, rfl⟩, ⟨by decide, by decide⟩⟩
  have storable : ∀ p ∈ filmEvents, p.topic.Storable p.payload := by
    simp only [filmEvents, List.forall_mem_cons]
    exact ⟨grabbed, ⟨by simp [Topic.ids, importedFilm, identifiers], nofun⟩, ⟨nofun, nofun⟩,
      grabbed, nofun⟩
  exact ⟨storable, publishAll_losesNothing storable⟩

end EventLog

end Acquisition
