import Acquisition.Import.Rules
import Acquisition.Proofs.Engine
import Acquisition.Proofs.Queue.FirstSight
import Acquisition.Proofs.Sorting

/-!
# Importing a download twice

A download that was imported into a media item is not to be imported into it once more, unless the
item was grabbed again.  The rule looks at the latest import of the item only, so it keeps to this
as long as that import was of the same download.  Two downloads that take turns are imported again
and again.

## Main definitions

* `History.IsLatest`: the latest record of a media item of one kind.
* `History.Imported`: a download was imported, and the media item was not grabbed since.
* `ImportRules.Refuses`: the rule rejects a file, whatever state its collaborators are in.

## Main results

* `History.latest?_eq_some_iff`: the reader answers with the latest record.
* `ImportRules.refuses_iff_latest_concerns`: **a download that was imported is refused exactly if
  the latest import of the media item was of that download.**
-/

namespace Acquisition

/-! ### The latest record -/

/-- The record is one of the media item and of the kind. -/
def HistoryRecord.isFor (record : HistoryRecord) (mediaId : MediaId) (event : HistoryEvent) :
    Bool :=
  record.mediaId == mediaId && record.event == event

namespace History

/-- The record is the latest one of the media item and of the kind: none is dated after it, and
none of the same date was written after it. -/
def IsLatest (history : History) (mediaId : MediaId) (event : HistoryEvent)
    (record : HistoryRecord) : Prop :=
  ∃ earlier later, history.records.filter (·.isFor mediaId event) = earlier ++ record :: later ∧
    (∀ other ∈ earlier, other.date ≤ record.date) ∧ ∀ other ∈ later, other.date < record.date

variable {history : History} {mediaId : MediaId} {event : HistoryEvent} {record : HistoryRecord}

namespace IsLatest

theorem mem (h : history.IsLatest mediaId event record) :
    record ∈ history.records ∧ record.isFor mediaId event = true := by
  obtain ⟨earlier, later, hrecords, -, -⟩ := h
  have hmem : record ∈ history.records.filter (·.isFor mediaId event) := by
    rw [hrecords]
    exact List.mem_append_right _ List.mem_cons_self
  exact List.mem_filter.mp hmem

/-- No record of the media item and of the kind is dated after the latest. -/
theorem date_le (h : history.IsLatest mediaId event record) {other : HistoryRecord}
    (hmem : other ∈ history.records) (hother : other.isFor mediaId event = true) :
    other.date ≤ record.date := by
  obtain ⟨earlier, later, hrecords, hearlier, hlater⟩ := h
  have hin : other ∈ history.records.filter (·.isFor mediaId event) :=
    List.mem_filter.mpr ⟨hmem, hother⟩
  rw [hrecords] at hin
  rcases List.mem_append.mp hin with hin | hin
  · exact hearlier other hin
  · rcases List.mem_cons.mp hin with rfl | hin
    · exact Int.le_refl _
    · exact Int.le_of_lt (hlater other hin)

/-- A record that is written last and dated before no other is the latest. -/
theorem append (hfor : record.isFor mediaId event = true)
    (hdate : ∀ other ∈ history.records, other.isFor mediaId event = true →
      other.date ≤ record.date) : (history.append record).IsLatest mediaId event record := by
  refine ⟨history.records.filter (·.isFor mediaId event), [], ?_, fun other hmem => ?_,
    List.forall_mem_nil _⟩
  · have hlast : [record].filter (·.isFor mediaId event) = [record] :=
      List.filter_eq_self.mpr (List.forall_mem_singleton.mpr hfor)
    rw [History.append, List.filter_append, hlast]
  · obtain ⟨hmem, hother⟩ := List.mem_filter.mp hmem
    exact hdate other hmem hother

/-- Of two splits of the same records, the one that comes first names the same latest record: the
other one would have to be later than it and not later than it at once. -/
theorem eq_of_split {later between rest : List HistoryRecord} {other : HistoryRecord}
    (hlater : ∀ third ∈ later, third.date < record.date)
    (hbetween : ∀ third ∈ between, third.date ≤ other.date)
    (hsplit : record :: later = between ++ other :: rest) : record = other := by
  cases between with
  | nil => exact (List.cons.inj hsplit).1
  | cons first between =>
    obtain ⟨rfl, rfl⟩ := List.cons.inj hsplit
    have hlt : other.date < record.date :=
      hlater other (List.mem_append_right _ List.mem_cons_self)
    have hle : record.date ≤ other.date := hbetween record List.mem_cons_self
    exact absurd hlt (Int.not_lt.mpr hle)

/-- There is one latest record at most. -/
theorem unique {other : HistoryRecord} (h : history.IsLatest mediaId event record)
    (h' : history.IsLatest mediaId event other) : record = other := by
  obtain ⟨earlier, later, hrecords, hearlier, hlater⟩ := h
  obtain ⟨earlier', later', hrecords', hearlier', hlater'⟩ := h'
  have hsame : earlier ++ record :: later = earlier' ++ other :: later' :=
    hrecords.symm.trans hrecords'
  rcases List.append_eq_append_iff.mp hsame with ⟨between, rfl, hsplit⟩ | ⟨between, rfl, hsplit⟩
  · exact eq_of_split hlater (fun third hmem => hearlier' third (List.mem_append_right _ hmem))
      hsplit
  · exact (eq_of_split hlater'
      (fun third hmem => hearlier third (List.mem_append_right _ hmem)) hsplit).symm

end IsLatest

/-- The answer of the reader: the first record of the kind among those of the media item, newest
first. -/
def latest? (history : History) (mediaId : MediaId) (event : HistoryEvent) :
    Option HistoryRecord :=
  (history.forMedia mediaId).find? (·.event == event)

/-- What the reader finds first is the latest record.  The records are sorted from the last
written to the first, so the records behind the one found were written before it. -/
theorem isLatest_of_latest? (hfind : history.latest? mediaId event = some record) :
    history.IsLatest mediaId event record := by
  obtain ⟨front, back, hsplit, hfront, hback⟩ :=
    find?_mergeSort_some HistoryRecord.notBefore_trans HistoryRecord.notBefore_total hfind
  rw [latest?] at hfind
  have hevent := List.find?_some hfind
  have hwritten : history.records.filter (·.mediaId == mediaId) =
      back.reverse ++ record :: front.reverse := by
    have hreverse := congrArg List.reverse hsplit
    simpa using hreverse
  refine ⟨back.reverse.filter (·.event == event), front.reverse.filter (·.event == event),
    ?_, ?_, ?_⟩
  · have hboth : history.records.filter (·.isFor mediaId event) =
        (history.records.filter (·.mediaId == mediaId)).filter (·.event == event) := by
      rw [List.filter_filter]
      refine List.filter_congr fun other _ => ?_
      exact Bool.and_comm _ _
    rw [hboth, hwritten, List.filter_append, List.filter_cons, if_pos hevent]
  · intro other hmem
    obtain ⟨hmem, hother⟩ := List.mem_filter.mp hmem
    have hbefore := hback other (List.mem_reverse.mp hmem) hother
    exact HistoryRecord.notBefore_iff.mp hbefore
  · intro other hmem
    obtain ⟨hmem, hother⟩ := List.mem_filter.mp hmem
    have hafter := hfront other (List.mem_reverse.mp hmem) hother
    exact Int.not_le.mp (of_decide_eq_false hafter)

/-- The reader finds nothing exactly if there is nothing. -/
theorem latest?_eq_none_iff : history.latest? mediaId event = none ↔
    ∀ other ∈ history.records, other.isFor mediaId event = false := by
  rw [latest?, List.find?_eq_none]
  constructor
  · intro hnone other hother
    by_cases hmedia : (other.mediaId == mediaId) = true
    · have hevent := hnone other (mem_newestFirst_iff.mpr ⟨hother, hmedia⟩)
      simp [HistoryRecord.isFor, hevent]
    · simp [HistoryRecord.isFor, hmedia]
  · intro hnone other hother hevent
    obtain ⟨hother, hmedia⟩ := mem_newestFirst_iff.mp hother
    have hfor := hnone other hother
    rw [HistoryRecord.isFor, hmedia, hevent] at hfor
    exact Bool.noConfusion hfor

/-- Where there is a record, the reader finds one that is not dated before it. -/
theorem exists_latest? (hmem : record ∈ history.records)
    (hfor : record.isFor mediaId event = true) :
    ∃ latest, history.latest? mediaId event = some latest ∧ record.date ≤ latest.date := by
  cases hfind : history.latest? mediaId event with
  | none =>
    have hnot := latest?_eq_none_iff.mp hfind record hmem
    rw [hfor] at hnot
    exact Bool.noConfusion hnot
  | some latest => exact ⟨latest, rfl, (isLatest_of_latest? hfind).date_le hmem hfor⟩

/-- **The reader answers with the latest record.** -/
theorem latest?_eq_some_iff : history.latest? mediaId event = some record ↔
    history.IsLatest mediaId event record := by
  refine ⟨isLatest_of_latest?, fun h => ?_⟩
  obtain ⟨found, hfind, -⟩ := exists_latest? h.mem.1 h.mem.2
  rw [hfind, (isLatest_of_latest? hfind).unique h]

/-- A download was imported into the media item, and no grab of the item is dated after that. -/
def Imported (history : History) (mediaId : MediaId) (downloadId : String) : Prop :=
  ∃ imported ∈ history.records, imported.isFor mediaId .downloadFolderImported = true ∧
    imported.concerns downloadId = true ∧
      ∀ grab ∈ history.records, grab.isFor mediaId .grabbed = true → grab.date ≤ imported.date

/-- Where a download was imported, there is a latest import, and no grab is dated after it. -/
theorem Imported.latest? {downloadId : String} (h : history.Imported mediaId downloadId) :
    ∃ latest, history.latest? mediaId .downloadFolderImported = some latest ∧
      ∀ grab ∈ history.latest? mediaId .grabbed, ¬ latest.date < grab.date := by
  obtain ⟨imported, hmem, hfor, -, hgrabs⟩ := h
  obtain ⟨latest, hfind, hdate⟩ := exists_latest? hmem hfor
  refine ⟨latest, hfind, fun grab hgrab => ?_⟩
  have hgrabMem := (isLatest_of_latest? hgrab).mem
  have hgrabDate : grab.date ≤ imported.date := hgrabs grab hgrabMem.1 hgrabMem.2
  exact Int.not_lt.mpr (Int.le_trans hgrabDate hdate)

end History

/-! ### The rule -/

namespace ImportRules

/-- What the rule says of a file that was imported before. -/
def imported : Decision :=
  .reject .alreadyImported "Already imported from this download"

/-- With completed downloads handled, the rule rejects the file as imported before, whatever state
the collaborators are in. -/
def Refuses (history : History) (candidate : LocalCandidate) : Prop :=
  ∀ (σ : Type) (context : Option SearchContext) (s : σ),
    (alreadyImported (.ofHistory history) true).verdict candidate context s = imported

variable {history : History} {candidate : LocalCandidate}

/-- For a media item with a file, the latest import and the latest grab decide. -/
theorem alreadyImported_verdict (hfile : candidate.media.file.isSome = true) {σ : Type}
    (context : Option SearchContext) (s : σ) :
    (alreadyImported (.ofHistory history) true).verdict candidate context s =
      match history.latest? candidate.media.id .downloadFolderImported with
      | none => .accepted
      | some latest =>
        importedVerdict candidate latest (history.latest? candidate.media.id .grabbed) := by
  have hnone : candidate.media.file.isNone = false := by
    rw [← Option.not_isSome, hfile]
    rfl
  have hanswer : ∀ event, (HistoryReader.ofHistory history).latestForMedia
      candidate.media.id event s = (.ok (history.latest? candidate.media.id event), s) :=
    fun _ => rfl
  simp only [Rule.verdict, alreadyImported, hnone, hanswer, Bool.not_true, Bool.or_self]
  cases history.latest? candidate.media.id .downloadFolderImported <;> rfl

/-- The downloads are the same if the record concerns that of the file. -/
theorem sameDownload_eq_concerns {record : HistoryRecord} {downloadId : String} :
    sameDownload record.downloadId (some downloadId) = record.concerns downloadId := by
  rw [HistoryRecord.concerns]
  cases record.downloadId <;> rfl

/-- Unless the media item was grabbed since, the latest import alone decides. -/
theorem importedVerdict_of_not_grabbed {latest : HistoryRecord} {grabbed : Option HistoryRecord}
    {downloadId : String} (hid : candidate.downloadId = some downloadId)
    (hgrabbed : ∀ grab ∈ grabbed, ¬ latest.date < grab.date) :
    importedVerdict candidate latest grabbed =
      if latest.concerns downloadId then imported else .accepted := by
  have hany : (grabbed.any fun grab => decide (latest.date < grab.date)) = false := by
    rw [Option.any_eq_false]
    intro grab hgrab
    simpa using hgrabbed grab hgrab
  rw [importedVerdict, hany, hid, sameDownload_eq_concerns, if_neg Bool.false_ne_true]
  rfl

/-- **A download that was imported is refused exactly if the latest import of the media item was of
that download.**  The law asks for more: such a download is to be refused however many other
imports there were since. -/
theorem refuses_iff_latest_concerns {downloadId : String}
    (hfile : candidate.media.file.isSome = true) (hid : candidate.downloadId = some downloadId)
    (himported : history.Imported candidate.media.id downloadId) :
    Refuses history candidate ↔
      ∃ latest, history.IsLatest candidate.media.id .downloadFolderImported latest ∧
        latest.concerns downloadId = true := by
  obtain ⟨latest, hlatest, hgrabs⟩ := himported.latest?
  have hverdict : ∀ (σ : Type) (context : Option SearchContext) (s : σ),
      (alreadyImported (.ofHistory history) true).verdict candidate context s =
        if latest.concerns downloadId then imported else .accepted := by
    intro σ context s
    rw [alreadyImported_verdict hfile, hlatest]
    exact importedVerdict_of_not_grabbed hid hgrabs
  constructor
  · intro hrefuses
    refine ⟨latest, History.latest?_eq_some_iff.mp hlatest, ?_⟩
    by_contra hconcerns
    have haccepted := hverdict Unit none ()
    rw [if_neg hconcerns, hrefuses] at haccepted
    exact absurd haccepted nofun
  · rintro ⟨other, hother, hconcerns⟩ σ context s
    -- there is only one latest import
    have heq : other = latest := hother.unique (History.latest?_eq_some_iff.mp hlatest)
    rw [hverdict, ← heq, if_pos hconcerns]

/-! ### Two downloads that take turns -/

/-- An import into the first media item. -/
def movieImportOf (downloadId : String) (date : Instant) : HistoryRecord :=
  { (default : HistoryRecord) with
    mediaId := 1, event := .downloadFolderImported, downloadId := some downloadId, date }

theorem movieImportOf_isFor (downloadId : String) (date : Instant) :
    (movieImportOf downloadId date).isFor 1 .downloadFolderImported = true := rfl

/-- A file of a download for the media item, which has a file already. -/
def movieFile (downloadId : String) : LocalCandidate :=
  { (default : LocalCandidate) with
    downloadId := some downloadId
    media := { (default : Media) with id := 1, file := some default } }

/-- The first download is refused right after it was imported. -/
theorem movie_refused : Refuses ⟨[movieImportOf "DL-1" 0]⟩ (movieFile "dl-1") := by
  have hconcerns : (movieImportOf "DL-1" 0).concerns "dl-1" = true := by decide +kernel
  have himported : History.Imported ⟨[movieImportOf "DL-1" 0]⟩ 1 "dl-1" := by
    refine ⟨movieImportOf "DL-1" 0, List.mem_singleton_self _, movieImportOf_isFor _ _, hconcerns,
      ?_⟩
    intro grab hmem hgrab
    rw [List.mem_singleton.mp hmem] at hgrab
    exact absurd hgrab (by decide)
  have hlatest : (History.empty.append (movieImportOf "DL-1" 0)).IsLatest 1
      .downloadFolderImported (movieImportOf "DL-1" 0) :=
    .append (movieImportOf_isFor _ _) (List.forall_mem_nil _)
  exact (refuses_iff_latest_concerns rfl rfl himported).mpr
    ⟨movieImportOf "DL-1" 0, hlatest, hconcerns⟩

/-- Two downloads that were imported one after the other. -/
def turns : History := ⟨[movieImportOf "DL-1" 0, movieImportOf "DL-2" 1]⟩

/-- Downloads that were imported need not be refused: once the second of two was imported, the
first one is accepted again. -/
theorem not_refuses_imported : ¬ ∀ (history : History) (candidate : LocalCandidate)
    (downloadId : String), candidate.media.file.isSome = true →
      candidate.downloadId = some downloadId →
        history.Imported candidate.media.id downloadId → Refuses history candidate := by
  intro hlaw
  have himported : turns.Imported 1 "DL-1" := by
    refine ⟨movieImportOf "DL-1" 0, List.mem_cons_self, movieImportOf_isFor _ _, rfl, ?_⟩
    intro grab hmem hgrab
    have hkind : ∀ record ∈ turns.records, record.event = .downloadFolderImported := by
      decide
    rw [HistoryRecord.isFor, hkind grab hmem] at hgrab
    exact absurd hgrab (by simp)
  have hlatest : (History.append ⟨[movieImportOf "DL-1" 0]⟩ (movieImportOf "DL-2" 1)).IsLatest 1
      .downloadFolderImported (movieImportOf "DL-2" 1) := by
    refine .append (movieImportOf_isFor _ _) fun other hmem _ => ?_
    rw [List.mem_singleton.mp hmem]
    decide
  have hrefused := hlaw turns (movieFile "DL-1") "DL-1" rfl rfl himported Unit none ()
  rw [alreadyImported_verdict rfl] at hrefused
  have hfind : turns.latest? (movieFile "DL-1").media.id .downloadFolderImported =
      some (movieImportOf "DL-2" 1) := History.latest?_eq_some_iff.mpr hlatest
  have hnone : turns.latest? (movieFile "DL-1").media.id .grabbed = none := by
    rw [History.latest?_eq_none_iff]
    decide
  rw [hfind, hnone] at hrefused
  exact absurd hrefused (by decide)

end ImportRules

end Acquisition
