import Acquisition.History
import Acquisition.Proofs.Sorting
import Mathlib.Data.List.Nodup

/-!
# Questions about the history

The log is asked for the records of a download or of a media item, and for the latest one of a
kind.  Dates need not follow the order in which records were appended, and records may share a
date or be equal altogether.  So the answers are described by the places that their records have
in the log: the later date is told first, and of equal dates the later place.

## Main definitions

* `ToldBefore`: which of two records at their places is told first.
* `TellsNewestFirst`: the records that are asked for, each once and newest first.
* `TellsLatest`: the last record that is asked for, by date and place, or none.
* `HistoryReader.TellsAll`: every question about a log is answered in this way.

## Main results

* `History.newestFirst_append`: a record that is appended last and not dated back is told first.
* `History.tellsNewestFirst`: a query tells the records that it asks for, newest first.
* `TellsNewestFirst.latest`: what is found first among them is the latest.
* `History.reader_tellsAll`: **every question about a log that was written by appending is
  answered exactly.**
-/

namespace Acquisition

/-! ### The order of telling -/

/-- The first record may be told before the second: it does not bear the earlier date. -/
def HistoryRecord.notBefore (first second : HistoryRecord) : Bool :=
  decide (second.date ≤ first.date)

namespace HistoryRecord

theorem notBefore_iff {first second : HistoryRecord} :
    first.notBefore second = true ↔ second.date ≤ first.date :=
  decide_eq_true_iff

theorem notBefore_trans (first second third : HistoryRecord)
    (h : first.notBefore second = true) (h' : second.notBefore third = true) :
    first.notBefore third = true := by
  rw [notBefore_iff] at h h' ⊢
  exact Int.le_trans h' h

theorem notBefore_total (first second : HistoryRecord) :
    (first.notBefore second || second.notBefore first) = true := by
  rw [Bool.or_eq_true, notBefore_iff, notBefore_iff]
  exact Int.le_total second.date first.date

end HistoryRecord

namespace History

variable {history : History} {record : HistoryRecord} {downloadId : String}

theorem newestFirst_empty (keep : HistoryRecord → Bool) : History.empty.newestFirst keep = [] := by
  rw [newestFirst, empty, List.filter_nil, List.reverse_nil, List.mergeSort_nil]

theorem mem_newestFirst_iff {keep : HistoryRecord → Bool} : record ∈ history.newestFirst keep ↔
    record ∈ history.records ∧ keep record = true := by
  rw [newestFirst, List.mem_mergeSort, List.mem_reverse, List.mem_filter]

theorem mem_forDownload_iff : record ∈ history.forDownload downloadId ↔
    record ∈ history.records ∧ record.concerns downloadId = true :=
  mem_newestFirst_iff

/-- A record that is written last and is not before any other is told first. -/
theorem newestFirst_append {keep : HistoryRecord → Bool} (hkeep : keep record = true)
    (hlatest : ∀ other ∈ history.records, keep other = true → record.notBefore other = true) :
    (history.append record).newestFirst keep = record :: history.newestFirst keep := by
  have hwritten : ((history.append record).records.filter keep).reverse =
      record :: (history.records.filter keep).reverse := by
    rw [append, List.filter_append, List.filter_singleton, hkeep, cond_true, List.reverse_append]
    rfl
  -- sorting moves the record behind those that are later, and there are none
  obtain ⟨later, rest, hsorted, hrest, hlater⟩ :=
    List.mergeSort_cons HistoryRecord.notBefore_trans HistoryRecord.notBefore_total record
      (history.records.filter keep).reverse
  have hnone : later = [] := by
    refine List.eq_nil_iff_forall_not_mem.mpr fun other hmem => ?_
    have hother : other ∈
        (history.records.filter keep).reverse.mergeSort HistoryRecord.notBefore := by
      rw [hrest]
      exact List.mem_append_left _ hmem
    have hkept := List.mem_filter.mp (List.mem_reverse.mp (List.mem_mergeSort.mp hother))
    have hnot := hlater other hmem
    rw [hlatest other hkept.1 hkept.2] at hnot
    exact absurd hnot Bool.false_ne_true
  rw [hnone, List.nil_append] at hsorted hrest
  rw [newestFirst, hwritten]
  exact hsorted.trans (congrArg _ hrest.symm)

end History

/-! ### What is asked for, at its places -/

/-- The record at the first place is told before the record at the second: it bears the later date,
or the same date and was appended later. -/
def ToldBefore (first second : HistoryRecord × Nat) : Prop :=
  second.1.date < first.1.date ∨ second.1.date = first.1.date ∧ second.2 < first.2

theorem ToldBefore.ne {first second : HistoryRecord × Nat} (h : ToldBefore first second) :
    first ≠ second := by
  rintro rfl
  rcases h with hdate | ⟨-, hplace⟩
  · exact Int.lt_irrefl _ hdate
  · exact Nat.lt_irrefl _ hplace

/-- The answer tells the records of the log that are asked for: there is one place for each of them,
and the places are told newest first. -/
structure TellsNewestFirst (log : List HistoryRecord) (asked : HistoryRecord → Prop)
    (answer : List (HistoryRecord × Nat)) : Prop where
  /-- The record at a place is told exactly if it is asked for. -/
  mem_iff : ∀ record place, (record, place) ∈ answer ↔ log[place]? = some record ∧ asked record
  /-- No place is told twice. -/
  nodup : answer.Nodup
  ordered : answer.Pairwise ToldBefore

/-- The answer is the last of the records that are asked for, by date and then by place, or there is
none to be told. -/
inductive TellsLatest (log : List HistoryRecord) (asked : HistoryRecord → Prop) :
    Option HistoryRecord → Prop
  | none (hnone : ∀ record ∈ log, ¬ asked record) : TellsLatest log asked none
  | some {record : HistoryRecord} {place : Nat} (hplace : log[place]? = some record)
    (hasked : asked record)
    (hlast : ∀ other elsewhere, log[elsewhere]? = some other → asked other → elsewhere ≠ place →
      ToldBefore (record, place) (other, elsewhere)) :
    TellsLatest log asked (some record)

namespace History

/-- The records that a query tells, with the places that they have in the log. -/
def newestPlaces (history : History) (keep : HistoryRecord → Bool) : List (HistoryRecord × Nat) :=
  (history.records.zipIdx.filter fun entry => keep entry.1).reverse.mergeSort fun a b =>
    a.1.notBefore b.1

theorem map_fst_newestPlaces (history : History) (keep : HistoryRecord → Bool) :
    (history.newestPlaces keep).map Prod.fst = history.newestFirst keep := by
  rw [newestPlaces, map_fst_mergeSort, List.map_reverse, map_fst_filter, List.zipIdx_map_fst]
  rfl

theorem mem_newestPlaces_iff {history : History} {keep : HistoryRecord → Bool}
    {record : HistoryRecord} {place : Nat} : (record, place) ∈ history.newestPlaces keep ↔
      history.records[place]? = some record ∧ keep record = true := by
  rw [newestPlaces, List.mem_mergeSort, List.mem_reverse, List.mem_filter,
    List.mem_zipIdx_iff_getElem?]

/-- **Places are told newest first.**  Before the sort they descend, since the log is reversed; the
sort is stable, so they still do where dates are equal. -/
theorem newestPlaces_pairwise (history : History) (keep : HistoryRecord → Bool) :
    (history.newestPlaces keep).Pairwise ToldBefore := by
  have hdescend : (history.records.zipIdx.filter fun entry => keep entry.1).reverse.Pairwise
      fun a b => b.2 < a.2 :=
    List.pairwise_reverse.mpr ((pairwise_zipIdx history.records).filter _)
  have hsorted := pairwise_mergeSort_of_pairwise
    (fun a b c => HistoryRecord.notBefore_trans a.1 b.1 c.1)
    (fun a b => HistoryRecord.notBefore_total a.1 b.1) hdescend
  refine hsorted.imp fun {a b} ⟨hle, htie⟩ => ?_
  rw [HistoryRecord.notBefore_iff] at hle htie
  rcases Int.lt_or_eq_of_le hle with hlater | hequal
  · exact Or.inl hlater
  · exact Or.inr ⟨hequal, htie (Int.le_of_eq hequal.symm)⟩

/-- **A query tells the records that it asks for, newest first.** -/
theorem tellsNewestFirst (history : History) {keep : HistoryRecord → Bool}
    {asked : HistoryRecord → Prop} (hasked : ∀ record, keep record = true ↔ asked record) :
    TellsNewestFirst history.records asked (history.newestPlaces keep) where
  mem_iff record place := by rw [mem_newestPlaces_iff, hasked]
  nodup := (history.newestPlaces_pairwise keep).imp ToldBefore.ne
  ordered := history.newestPlaces_pairwise keep

/-- The log holds what was appended to it, in order. -/
theorem records_foldl_append (records : List HistoryRecord) (history : History) :
    (records.foldl append history).records = history.records ++ records := by
  induction records generalizing history with
  | nil => simp
  | cons record records ih => simp [ih, append]

end History

/-- **What is found first is the latest.**  Of the places that are asked for, those behind the one
that is found are told after it, and none that is looked for stands ahead of it. -/
theorem TellsNewestFirst.latest {log : List HistoryRecord} {asked : HistoryRecord → Prop}
    {answer : List (HistoryRecord × Nat)} (h : TellsNewestFirst log asked answer)
    (select : HistoryRecord → Bool) :
    TellsLatest log (fun record => asked record ∧ select record = true)
      ((answer.map Prod.fst).find? select) := by
  rw [List.find?_map]
  cases hfind : answer.find? (select ∘ Prod.fst) with
  | none =>
    refine .none fun record hrecord ⟨hasked, hselect⟩ => ?_
    obtain ⟨place, hplace⟩ := List.mem_iff_getElem?.mp hrecord
    have hmem : (record, place) ∈ answer := (h.mem_iff record place).mpr ⟨hplace, hasked⟩
    exact List.find?_eq_none.mp hfind _ hmem hselect
  | some entry =>
    obtain ⟨record, place⟩ := entry
    obtain ⟨hselect, ahead, behind, hsplit, hahead⟩ := List.find?_eq_some_iff_append.mp hfind
    have hmem : (record, place) ∈ answer := List.mem_of_find?_eq_some hfind
    obtain ⟨hplace, hasked⟩ := (h.mem_iff record place).mp hmem
    refine .some hplace ⟨hasked, hselect⟩ fun other elsewhere hother ⟨hasked', hselect'⟩ hne => ?_
    have hin : (other, elsewhere) ∈ answer := (h.mem_iff other elsewhere).mpr ⟨hother, hasked'⟩
    rw [hsplit, List.mem_append, List.mem_cons] at hin
    rcases hin with hin | hin | hin
    · -- what stands ahead is not looked for
      have hnot := hahead _ hin
      simp [hselect'] at hnot
    · exact absurd (congrArg Prod.snd hin) hne
    · have hordered := h.ordered
      rw [hsplit] at hordered
      exact (List.pairwise_cons.mp (List.pairwise_append.mp hordered).2.1).1 _ hin

/-! ### Reading the log -/

/-- The record bears the number of the download, up to the case of ASCII letters. -/
def HistoryRecord.BelongsTo (downloadId : String) (record : HistoryRecord) : Prop :=
  ∃ own, record.downloadId = some own ∧ Text.asciiLower own = Text.asciiLower downloadId

theorem HistoryRecord.concerns_iff {record : HistoryRecord} {downloadId : String} :
    record.concerns downloadId = true ↔ record.BelongsTo downloadId := by
  rw [concerns, BelongsTo]
  cases record.downloadId with
  | none => simp
  | some own => simp [Text.equalIgnoringCase_iff, Text.asciiLower, String.ofList_inj]

/-- Every question to the reader is answered from the log, exactly and without a trace. -/
structure HistoryReader.TellsAll {σ : Type} (reader : HistoryReader σ)
    (log : List HistoryRecord) : Prop where
  forDownload : ∀ downloadId s, ∃ answer,
    reader.forDownload downloadId s = (.ok (answer.map Prod.fst), s) ∧
      TellsNewestFirst log (·.BelongsTo downloadId) answer
  forMedia : ∀ mediaId s, ∃ answer,
    reader.forMedia mediaId s = (.ok (answer.map Prod.fst), s) ∧
      TellsNewestFirst log (·.mediaId = mediaId) answer
  latestForDownload : ∀ downloadId event s, ∃ latest,
    reader.latestForDownload downloadId event s = (.ok latest, s) ∧
      TellsLatest log (fun record => record.BelongsTo downloadId ∧ record.event = event) latest
  latestForMedia : ∀ mediaId event s, ∃ latest,
    reader.latestForMedia mediaId event s = (.ok latest, s) ∧
      TellsLatest log (fun record => record.mediaId = mediaId ∧ record.event = event) latest

/-- **Every question about a log that was written by appending is answered exactly**, whatever dates
its records bear. -/
theorem History.reader_tellsAll {σ : Type} (records : List HistoryRecord) :
    (HistoryReader.ofHistory (records.foldl append empty) : HistoryReader σ).TellsAll records := by
  have hlog : (records.foldl append empty).records = records := by
    rw [records_foldl_append, empty, List.nil_append]
  have htells : ∀ {keep : HistoryRecord → Bool} {asked : HistoryRecord → Prop},
      (∀ record, keep record = true ↔ asked record) →
        TellsNewestFirst records asked ((records.foldl append empty).newestPlaces keep) := by
    intro keep asked hasked
    have hplaces := (records.foldl append empty).tellsNewestFirst hasked
    rwa [hlog] at hplaces
  have hdownload : ∀ downloadId, TellsNewestFirst records (·.BelongsTo downloadId)
      ((records.foldl append empty).newestPlaces (·.concerns downloadId)) :=
    fun downloadId => htells fun record => record.concerns_iff
  have hmedia : ∀ mediaId, TellsNewestFirst records (·.mediaId = mediaId)
      ((records.foldl append empty).newestPlaces (·.mediaId == mediaId)) :=
    fun mediaId => htells fun record => beq_iff_eq
  constructor
  · intro downloadId s
    refine ⟨_, ?_, hdownload downloadId⟩
    rw [map_fst_newestPlaces]
    rfl
  · intro mediaId s
    refine ⟨_, ?_, hmedia mediaId⟩
    rw [map_fst_newestPlaces]
    rfl
  · intro downloadId event s
    have hlatest := (hdownload downloadId).latest (·.event == event)
    rw [map_fst_newestPlaces] at hlatest
    simp only [beq_iff_eq] at hlatest
    exact ⟨_, rfl, hlatest⟩
  · intro mediaId event s
    have hlatest := (hmedia mediaId).latest (·.event == event)
    rw [map_fst_newestPlaces] at hlatest
    simp only [beq_iff_eq] at hlatest
    exact ⟨_, rfl, hlatest⟩

end Acquisition
