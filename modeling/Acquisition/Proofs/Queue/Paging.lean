import Acquisition.Proofs.Desk.Run
import Acquisition.Proofs.Profile
import Acquisition.Proofs.Sorting

/-!
# Paging through the queue

The queue is filtered, sorted and cut into pages of equal size.  Put together, the pages show every
item that passes the filter once, in the order of the sort key; what is equal there stands with
the more complete item first, and in the order of the queue behind that.

The number of a page and the size of pages are machine words.  The bounds of a page are computed in
words as well, and no step of that leaves their range, since no bound is larger than the number of
items or the size of a page.

## Main definitions

* `SortKey.lacks`: an item has no value for a key.
* `ShownBefore`: which of two items at their places in the queue is shown first.
* `lastPage`: the number of the last page.
* `pageBounds?`: the bounds of a page, computed in words.
* `Desk.shown`: all pages, one after the other.
* `Desk.ShowsInPages`: what is asked of the pages.

## Main results

* `SortKey.cmp_trans`: the order of items by a key is a total preorder.
* `sortQueue_arranged`: the queue is sorted stably.
* `flatMap_paginate`: the pages of a list make up the list.
* `exists_pageBounds?`: the bounds of a page are computed without overflow.
* `Desk.shows_in_pages`: **the pages show every matching item once, in order.**
-/

namespace Acquisition

/-! ### Total preorders -/

section Orders

variable {α β : Type} (cmp : α → α → Ordering) [Std.TransCmp cmp]

/-- Things are ordered soundly by a value that is read off them. -/
theorem transCmp_comap (f : β → α) : Std.TransCmp fun a b => cmp (f a) (f b) where
  eq_swap := Std.OrientedCmp.eq_swap
  isLE_trans := Std.TransCmp.isLE_trans

/-- Values that may be unknown are ordered soundly if the known ones are. -/
instance cmpKnown_trans : Std.TransCmp (cmpKnown cmp) where
  eq_swap {a b} := by
    match a, b with
    | some a, some b =>
      have hswap : cmp a b = (cmp b a).swap := Std.OrientedCmp.eq_swap
      exact hswap
    | some _, none | none, some _ | none, none => rfl
  isLE_trans {a b c} hab hbc := by
    match a, b, c with
    | some a, some b, some c =>
      have htrans : (cmp a b).isLE = true → (cmp b c).isLE = true → (cmp a c).isLE = true :=
        Std.TransCmp.isLE_trans
      exact htrans hab hbc
    | some _, _, none | none, _, none => rfl
    | none, some _, some _ => exact absurd hab nofun
    | _, none, some _ => exact absurd hbc nofun

end Orders

instance cmpText_trans : Std.TransCmp cmpText :=
  transCmp_comap (cmpKnown compare) (Option.map Text.lowercase)

instance cmpLanguages_trans : Std.TransCmp cmpLanguages :=
  inferInstanceAs (Std.TransCmp (compareLex
    (compareOn fun languages : List Language => (languages.head?.map Language.name).getD "")
    (compareOn List.length)))

instance cmpProgress_trans : Std.TransCmp cmpProgress :=
  transCmp_comap compare fun item : QueueItem => floatPlace item.progress

/-- **The order of items by a key is a total preorder**, for each of the keys. -/
instance SortKey.cmp_trans (key : SortKey) (profile : Profile) :
    Std.TransCmp (key.cmp profile) := by
  cases key with
  | timeLeft => exact transCmp_comap (@cmpKnown Span compare) knownTimeLeft
  | expected => exact transCmp_comap (@cmpKnown Instant compare) QueueItem.expected
  | quality => exact transCmp_comap profile.cmp QueueItem.quality
  | languages => exact transCmp_comap cmpLanguages QueueItem.languages
  | title => exact transCmp_comap cmpText fun item : QueueItem => some item.title
  | status => exact transCmp_comap compare fun item : QueueItem => item.status.name
  | protocol => exact transCmp_comap compare fun item : QueueItem => item.protocol.name
  | indexer => exact transCmp_comap cmpText QueueItem.indexer
  | client => exact transCmp_comap cmpText QueueItem.client
  | size => exact transCmp_comap compare QueueItem.size
  | progress => exact cmpProgress_trans
  | added => exact transCmp_comap (@cmpKnown Instant compare) QueueItem.added

/-- Turning the key around and deciding between equals by progress keeps the order sound. -/
instance cmpQueue_trans (key : SortKey) (direction : SortDirection) (profile : Profile) :
    Std.TransCmp (cmpQueue key direction profile) := by
  have hprogress : Std.TransCmp fun a b : QueueItem => cmpProgress b a := inferInstance
  cases direction with
  | ascending =>
    exact inferInstanceAs (Std.TransCmp (compareLex (key.cmp profile) fun a b => cmpProgress b a))
  | descending =>
    have hswap : (fun a b => (key.cmp profile a b).swap) = fun a b => key.cmp profile b a := by
      funext a b
      exact Std.OrientedCmp.eq_swap.symm
    have hkey : Std.TransCmp fun a b => (key.cmp profile a b).swap := by
      rw [hswap]
      infer_instance
    exact inferInstanceAs (Std.TransCmp (compareLex (fun a b => (key.cmp profile a b).swap)
      fun a b => cmpProgress b a))

/-! ### Unknown values -/

/-- The item has no value for the key. -/
def SortKey.lacks (key : SortKey) (item : QueueItem) : Bool :=
  match key with
  | timeLeft => item.size == 0 || item.timeLeft.isNone
  | expected => item.expected.isNone
  | indexer => item.indexer.isNone
  | client => item.client.isNone
  | added => item.added.isNone
  | quality | languages | title | status | protocol | size | progress => false

/-- A known value comes before an unknown one. -/
theorem cmpKnown_of_isNone {α : Type} (cmp : α → α → Ordering) {a b : Option α}
    (ha : a.isNone = true) (hb : b.isNone = false) : cmpKnown cmp a b = .gt := by
  cases a with
  | some a => exact absurd ha nofun
  | none =>
    cases b with
    | none => exact absurd hb nofun
    | some b => rfl

theorem knownTimeLeft_isNone (item : QueueItem) :
    (knownTimeLeft item).isNone = SortKey.timeLeft.lacks item := by
  rw [knownTimeLeft, SortKey.lacks]
  cases item.size == 0 <;> rfl

/-- **An item without a value for the key comes behind one that has a value.** -/
theorem SortKey.cmp_of_lacks {key : SortKey} {profile : Profile} {a b : QueueItem}
    (ha : key.lacks a = true) (hb : key.lacks b = false) : key.cmp profile a b = .gt := by
  cases key with
  | timeLeft =>
    rw [← knownTimeLeft_isNone] at ha hb
    exact cmpKnown_of_isNone compare ha hb
  | expected | added => exact cmpKnown_of_isNone compare ha hb
  | indexer | client =>
    refine cmpKnown_of_isNone compare ?_ ?_ <;> rw [Option.isNone_map]
    · exact ha
    · exact hb
  | quality | languages | title | status | protocol | size | progress => exact absurd ha nofun

/-! ### The order in which items are shown -/

/-- How what is shown first compares by the key with what is shown behind it. -/
def SortDirection.leading : SortDirection → Ordering
  | ascending => .lt
  | descending => .gt

/-- Which of two items, each with its place in the queue, is shown first. -/
inductive ShownBefore (key : SortKey) (direction : SortDirection) (profile : Profile)
    (a b : QueueItem × Nat) : Prop
  /-- The key decides. -/
  | key (hkey : key.cmp profile a.1 b.1 = direction.leading)
  /-- What is equal by the key is shown with the more complete item first, in either direction. -/
  | progress (hkey : key.cmp profile a.1 b.1 = .eq) (hprogress : cmpProgress a.1 b.1 = .gt)
  /-- What is as complete stays as it stands in the queue. -/
  | place (hkey : key.cmp profile a.1 b.1 = .eq) (hprogress : cmpProgress a.1 b.1 = .eq)
      (hplace : a.2 < b.2)

section Sorting

variable {key : SortKey} {direction : SortDirection} {profile : Profile}

/-- The key is turned around for the descending direction, progress for both. -/
theorem cmpQueue_eq (a b : QueueItem) : cmpQueue key direction profile a b =
    (match direction with
      | .ascending => key.cmp profile a b
      | .descending => (key.cmp profile a b).swap).then (cmpProgress b a) :=
  rfl

theorem cmpQueue_eq_lt_iff {a b : QueueItem} : cmpQueue key direction profile a b = .lt ↔
    key.cmp profile a b = direction.leading ∨
      key.cmp profile a b = .eq ∧ cmpProgress a b = .gt := by
  have hprogress : cmpProgress b a = .lt ↔ cmpProgress a b = .gt :=
    Std.OrientedCmp.gt_iff_lt.symm
  rw [← hprogress, cmpQueue_eq]
  cases direction <;> cases key.cmp profile a b <;> simp [SortDirection.leading]

theorem cmpQueue_eq_eq_iff {a b : QueueItem} : cmpQueue key direction profile a b = .eq ↔
    key.cmp profile a b = .eq ∧ cmpProgress a b = .eq := by
  have hprogress : cmpProgress b a = .eq ↔ cmpProgress a b = .eq := Std.OrientedCmp.eq_comm
  rw [← hprogress, cmpQueue_eq]
  cases direction <;> cases key.cmp profile a b <;> simp

/-- **The queue is sorted stably.**  What is left of the queue after a filter comes out in an order
of places in which each item has a reason to be ahead of those behind it. -/
theorem sortQueue_arranged (key : SortKey) (direction : SortDirection) (profile : Profile)
    (keep : QueueItem → Bool) (items : List QueueItem) :
    ∃ order : List (QueueItem × Nat), order.Perm (items.zipIdx.filter fun a => keep a.1) ∧
      sortQueue key direction profile (items.filter keep) = order.map Prod.fst ∧
        order.Pairwise (ShownBefore key direction profile) := by
  let le := fun a b : QueueItem => cmpQueue key direction profile a b != .gt
  let kept := items.zipIdx.filter fun a => keep a.1
  have hle : ∀ a b, le a b = true ↔ (cmpQueue key direction profile a b).isLE = true := by
    intro a b
    rw [Ordering.isLE_eq_not_beq_gt]
    rfl
  have htrans : ∀ a b c : QueueItem × Nat,
      le a.1 b.1 = true → le b.1 c.1 = true → le a.1 c.1 = true := by
    intro a b c
    rw [hle, hle, hle]
    exact Std.TransCmp.isLE_trans
  have htotal : ∀ a b : QueueItem × Nat, (le a.1 b.1 || le b.1 a.1) = true := by
    intro a b
    rw [Bool.or_eq_true, hle, hle, ← Bool.or_eq_true]
    exact isLE_or_isLE a.1 b.1
  have hplaces : kept.Pairwise fun a b => a.2 < b.2 := (pairwise_zipIdx items).filter _
  have hsorted := pairwise_mergeSort_of_pairwise htrans htotal hplaces
  refine ⟨kept.mergeSort fun a b => le a.1 b.1, List.mergeSort_perm _ _, ?_,
    hsorted.imp fun {a b} hab => ?_⟩
  · rw [map_fst_mergeSort, map_fst_filter, List.zipIdx_map_fst, sortQueue]
  · obtain ⟨hab, htie⟩ := hab
    rw [hle] at hab
    rcases Ordering.isLE_iff_eq_lt_or_eq_eq.mp hab with hlt | heq
    · rcases cmpQueue_eq_lt_iff.mp hlt with hkey | ⟨hkey, hprogress⟩
      · exact .key hkey
      · exact .progress hkey hprogress
    · -- neither comes first by the order, so the sort has left them as they stood
      have hba : le b.1 a.1 = true := by
        rw [hle, Std.OrientedCmp.eq_comm.mp heq]
        rfl
      obtain ⟨hkey, hprogress⟩ := cmpQueue_eq_eq_iff.mp heq
      exact .place hkey hprogress (htie hba)

end Sorting

/-- In ascending order what has no value for the key is shown behind all that has one. -/
theorem ShownBefore.lacks {key : SortKey} {profile : Profile} {a b : QueueItem × Nat}
    (h : ShownBefore key .ascending profile a b) (ha : key.lacks a.1 = true) :
    key.lacks b.1 = true := by
  by_contra hb
  have hgt : key.cmp profile a.1 b.1 = .gt :=
    SortKey.cmp_of_lacks ha (Bool.not_eq_true _ ▸ hb)
  cases h with
  | key hkey => simp [hgt, SortDirection.leading] at hkey
  | progress hkey _ | place hkey _ _ => simp [hgt] at hkey

/-! ### The pages of a list -/

/-- The number of the last page of so many records; there is always a page. -/
def lastPage (total size : Nat) : Nat :=
  max ((total + max size 1 - 1) / max size 1) 1

section Pages

variable {α : Type}

/-- Stretches of one length, as many as are needed, make up the list. -/
theorem flatMap_stretches (items : List α) (size : Nat) : ∀ count : Nat,
    (List.range count).flatMap (fun i => (items.drop (i * size)).take size) =
      items.take (count * size) := by
  intro count
  induction count with
  | zero => simp
  | succ count ih =>
    rw [List.range_succ, List.flatMap_append, ih, List.flatMap_singleton, Nat.add_one_mul,
      List.take_add]

theorem length_le_lastPage_mul (total size : Nat) :
    total ≤ lastPage total size * max size 1 := by
  have hsize : 0 < max size 1 := by omega
  have hround := Nat.lt_div_mul_add (a := total + max size 1 - 1) hsize
  have hlast : (total + max size 1 - 1) / max size 1 ≤ lastPage total size :=
    Nat.le_max_left _ _
  have hmul := Nat.mul_le_mul_right (max size 1) hlast
  omega

/-- A page in terms of the number that it gets. -/
theorem paginate_eq (items : List α) (page size : Nat) : paginate items page size =
    { page := min (max page 1) (lastPage items.length size)
      size := max size 1
      total := items.length
      records := (items.drop ((min (max page 1) (lastPage items.length size) - 1) *
        max size 1)).take (max size 1) } :=
  rfl

/-- **The pages of a list, one after the other, make up the list.** -/
theorem flatMap_paginate (items : List α) (size : Nat) :
    (List.range (lastPage items.length size)).flatMap
      (fun i => (paginate items (i + 1) size).records) = items := by
  have hpage : ∀ i ∈ List.range (lastPage items.length size),
      (paginate items (i + 1) size).records = (items.drop (i * max size 1)).take (max size 1) := by
    intro i hi
    have hlt : i < lastPage items.length size := List.mem_range.mp hi
    have hnumber : min (max (i + 1) 1) (lastPage items.length size) - 1 = i := by omega
    rw [paginate_eq, hnumber]
  rw [List.flatMap_congr hpage, flatMap_stretches]
  exact List.take_of_length_le (length_le_lastPage_mul _ _)

/-- Behind the last page there is the last page. -/
theorem paginate_of_lastPage_le {items : List α} {page size : Nat}
    (hpage : lastPage items.length size ≤ page) :
    paginate items page size = paginate items (lastPage items.length size) size := by
  have hone : 1 ≤ lastPage items.length size := Nat.le_max_right _ _
  have hnumber : min (max page 1) (lastPage items.length size) =
      min (max (lastPage items.length size) 1) (lastPage items.length size) := by omega
  rw [paginate_eq, hnumber, paginate_eq]

/-- There are no more pages than records, but for the one page of an empty list. -/
theorem lastPage_le (total size : Nat) : lastPage total size ≤ max total 1 := by
  have hsize : 1 ≤ max size 1 := by omega
  have hround : (total + max size 1 - 1) / max size 1 ≤ total := by
    have hmul := Nat.mul_le_mul_left total hsize
    have hlt : total + max size 1 - 1 < total * max size 1 + max size 1 := by omega
    rw [← Nat.add_one_mul] at hlt
    exact Nat.le_of_lt_succ ((Nat.div_lt_iff_lt_mul hsize).mpr hlt)
  unfold lastPage
  omega

/-- The records on the pages before a page are not more than all records. -/
theorem skipped_le {total size page : Nat} (hpage : page ≤ lastPage total size) :
    (page - 1) * max size 1 ≤ total := by
  by_cases hfirst : page ≤ 1
  · have hnone : page - 1 = 0 := by omega
    rw [hnone, Nat.zero_mul]
    exact Nat.zero_le _
  · have hround : page ≤ (total + max size 1 - 1) / max size 1 := by
      unfold lastPage at hpage
      omega
    have hmul := (Nat.le_div_iff_mul_le (by omega)).mp hround
    rw [Nat.sub_one_mul]
    omega

end Pages

/-! ### The bounds of a page in words -/

/-- A number as a word, if it is not too large. -/
def word? (n : Nat) : Option UInt64 :=
  if n < UInt64.size then some (UInt64.ofNat n) else none

/-- A quotient of words, to which one is added if a rest is left. -/
def divideUp? (a b : UInt64) : Option UInt64 :=
  if a % b == 0 then some (a / b) else word? ((a / b).toNat + 1)

/-- A difference of words, if it is not negative. -/
def subtract? (a b : UInt64) : Option UInt64 :=
  if a < b then none else some (a - b)

/-- What of a list is shown on a page, in words. -/
structure PageBounds where
  /-- The number of the page. -/
  page : UInt64
  /-- The number of records on a full page. -/
  size : UInt64
  /-- The number of records on the pages before. -/
  skipped : UInt64

/-- The bounds of a page of so many records, computed in words: the number of the page is brought
between the first and the last, and the size is multiplied by the number of pages before.  Nothing
comes out if a step leaves the range of words. -/
def pageBounds? (total page size : UInt64) : Option PageBounds := do
  let size := max size 1
  let last ← divideUp? total size
  let page := min (max page 1) (max last 1)
  let before ← subtract? page 1
  let skipped ← word? (before.toNat * size.toNat)
  return ⟨page, size, skipped⟩

theorem word?_of_lt {n : Nat} (h : n < UInt64.size) :
    ∃ w, word? n = some w ∧ w.toNat = n :=
  ⟨UInt64.ofNat n, if_pos h, UInt64.toNat_ofNat_of_lt' h⟩

/-- Rounding up adds one to what is rounded down, unless nothing is left over. -/
theorem roundUp_eq (total : Nat) {size : Nat} (hsize : 0 < size) :
    (total + size - 1) / size = if total % size = 0 then total / size else total / size + 1 := by
  have hsplit := Nat.div_add_mod total size
  have hlt := Nat.mod_lt total hsize
  by_cases hnone : total % size = 0
  · rw [if_pos hnone]
    refine Nat.div_eq_of_lt_le ?_ ?_
    · rw [Nat.mul_comm]
      omega
    · rw [Nat.add_one_mul, Nat.mul_comm]
      omega
  · rw [if_neg hnone]
    refine Nat.div_eq_of_lt_le ?_ ?_
    · rw [Nat.add_one_mul, Nat.mul_comm]
      omega
    · rw [Nat.add_one_mul, Nat.add_one_mul, Nat.mul_comm]
      omega

/-- The number of the last page is computed without overflow. -/
theorem exists_divideUp? (total size : UInt64) :
    ∃ last, divideUp? total (max size 1) = some last ∧
      (max last 1).toNat = lastPage total.toNat size.toNat := by
  have hsize : (max size 1).toNat = max size.toNat 1 := UInt64.toNat_max size 1
  have hlast : lastPage total.toNat size.toNat =
      max (if (total % max size 1).toNat = 0 then (total / max size 1).toNat
        else (total / max size 1).toNat + 1) 1 := by
    rw [lastPage, roundUp_eq _ (by omega), ← hsize, ← UInt64.toNat_mod, ← UInt64.toNat_div]
  by_cases hnone : total % max size 1 = 0
  · refine ⟨total / max size 1, by simp [divideUp?, hnone], ?_⟩
    rw [UInt64.toNat_max, hlast, hnone]
    rfl
  · have hnoneNat : (total % max size 1).toNat ≠ 0 := fun h => hnone (UInt64.toNat_inj.mp h)
    rw [if_neg hnoneNat] at hlast
    -- what is rounded up is the number of a page, so it is not larger than the number of records
    have hlt : (total / max size 1).toNat + 1 < UInt64.size := by
      have hle := lastPage_le total.toNat size.toNat
      have htotal := total.toNat_lt_size
      have hone : 1 < UInt64.size := by decide
      omega
    obtain ⟨last, hword, hnat⟩ := word?_of_lt hlt
    refine ⟨last, by simpa [divideUp?, hnone] using hword, ?_⟩
    rw [UInt64.toNat_max, hnat, hlast]
    rfl

/-- **The bounds of a page are computed without overflow**, and they are those of the page. -/
theorem exists_pageBounds? {α : Type} {items : List α} {total : UInt64}
    (htotal : total.toNat = items.length) (page size : UInt64) :
    ∃ bounds, pageBounds? total page size = some bounds ∧
      paginate items page.toNat size.toNat =
        { page := bounds.page.toNat
          size := bounds.size.toNat
          total := total.toNat
          records := (items.drop bounds.skipped.toNat).take bounds.size.toNat } := by
  obtain ⟨last, hlast, hlastNat⟩ := exists_divideUp? total size
  have hsize : (max size 1).toNat = max size.toNat 1 := UInt64.toNat_max size 1
  let number := min (max page 1) (max last 1)
  have hnumber : number.toNat = min (max page.toNat 1) (lastPage total.toNat size.toNat) := by
    rw [UInt64.toNat_min, UInt64.toNat_max, hlastNat]
    rfl
  have hfirst : ¬ number < 1 := by
    have hone : 1 ≤ lastPage total.toNat size.toNat := Nat.le_max_right _ _
    rw [UInt64.lt_iff_toNat_lt, hnumber, UInt64.toNat_one]
    omega
  have hbefore : (number - 1).toNat = number.toNat - 1 :=
    UInt64.toNat_sub_of_le _ _ (UInt64.not_lt.mp hfirst)
  have hskipped : (number - 1).toNat * (max size 1).toNat < UInt64.size := by
    rw [hbefore, hsize]
    refine Nat.lt_of_le_of_lt (skipped_le ?_) total.toNat_lt_size
    rw [hnumber]
    exact Nat.min_le_right _ _
  obtain ⟨skipped, hword, hskippedNat⟩ := word?_of_lt hskipped
  refine ⟨⟨number, max size 1, skipped⟩, ?_, ?_⟩
  · have hsubtract : subtract? (min (max page 1) (max last 1)) 1 = some (number - 1) :=
      if_neg hfirst
    simp only [pageBounds?, hlast, hsubtract, hword, Option.bind_eq_bind, Option.bind_some]
    rfl
  · rw [hskippedNat, hbefore, hnumber, hsize, htotal]
    rfl

/-! ### The pages of the queue -/

namespace Desk

variable {σ : Type} (setup : Setup σ) (now : Instant)

/-- The items of the queue that pass the filter. -/
def matching (filter : QueueFilter) (desk : Desk σ) : List QueueItem :=
  (desk.queue setup now).filter filter.accepts

/-- All pages, one after the other. -/
def shown (request : PageRequest) (filter : QueueFilter) (desk : Desk σ) : List QueueItem :=
  (List.range (lastPage (desk.matching setup now filter).length request.size.toNat)).flatMap fun i =>
    (desk.queuePage setup now { request with page := UInt64.ofNat (i + 1) } filter).records

/-- What is asked of the pages of the queue. -/
structure ShowsInPages (request : PageRequest) (filter : QueueFilter) (desk : Desk σ) : Prop where
  /-- Every item that passes the filter is shown once. -/
  once : (desk.shown setup now request filter).Perm (desk.matching setup now filter)
  /-- The items, each with its place in the queue, stand in an order in which each has a reason to be
  ahead of those behind it. -/
  ordered : ∃ order : List (QueueItem × Nat),
    order.Perm ((desk.queue setup now).zipIdx.filter fun a => filter.accepts a.1) ∧
      desk.shown setup now request filter = order.map Prod.fst ∧
        order.Pairwise (ShownBefore request.key request.direction setup.store.fallback)
  /-- The order by a key is a total preorder. -/
  preorder : ∀ key : SortKey, Std.TransCmp (key.cmp setup.store.fallback)
  /-- In ascending order the items without a value come last. -/
  lacking_last : request.direction = .ascending → (desk.shown setup now request filter).Pairwise
    fun a b => request.key.lacks a = true → request.key.lacks b = true
  /-- A page has no more records than it has places. -/
  atMost : (desk.queuePage setup now request filter).records.length ≤ max request.size.toNat 1
  /-- A page tells the number of all records. -/
  total : (desk.queuePage setup now request filter).total = (desk.matching setup now filter).length
  /-- Behind the last page there is the last page. -/
  behind : lastPage (desk.matching setup now filter).length request.size.toNat ≤ request.page.toNat →
    desk.queuePage setup now request filter = desk.queuePage setup now
      { request with
        page := UInt64.ofNat
          (lastPage (desk.matching setup now filter).length request.size.toNat) } filter
  /-- Before the first page there is the first page. -/
  before : request.page = 0 → desk.queuePage setup now request filter =
    desk.queuePage setup now { request with page := 1 } filter
  /-- The bounds of the page are computed in words, and no step leaves their range. -/
  inWords : ∃ total bounds, total.toNat = (desk.matching setup now filter).length ∧
    pageBounds? total request.page request.size = some bounds ∧
      (desk.queuePage setup now request filter).page = bounds.page.toNat ∧
      (desk.queuePage setup now request filter).size = bounds.size.toNat ∧
      (desk.queuePage setup now request filter).records =
        ((sortQueue request.key request.direction setup.store.fallback
          (desk.matching setup now filter)).drop bounds.skipped.toNat).take bounds.size.toNat

/-- A page in terms of the items that pass the filter. -/
theorem queuePage_eq (request : PageRequest) (filter : QueueFilter) (desk : Desk σ) :
    desk.queuePage setup now request filter =
      paginate (sortQueue request.key request.direction setup.store.fallback
        (desk.matching setup now filter)) request.page.toNat request.size.toNat :=
  rfl

theorem length_sortQueue (key : SortKey) (direction : SortDirection) (profile : Profile)
    (items : List QueueItem) : (sortQueue key direction profile items).length = items.length := by
  unfold sortQueue
  exact List.length_mergeSort items

/-- The pages, one after the other, are the sorted queue. -/
theorem shown_eq (request : PageRequest) {filter : QueueFilter} {desk : Desk σ}
    (hfits : (desk.matching setup now filter).length < UInt64.size) :
    desk.shown setup now request filter = sortQueue request.key request.direction
      setup.store.fallback (desk.matching setup now filter) := by
  have hlength := length_sortQueue request.key request.direction setup.store.fallback
    (desk.matching setup now filter)
  have hpages := flatMap_paginate (sortQueue request.key request.direction setup.store.fallback
    (desk.matching setup now filter)) request.size.toNat
  rw [hlength] at hpages
  rw [← hpages, shown]
  refine List.flatMap_congr fun i hi => ?_
  -- the number of each of the pages is a word
  have hpage : (UInt64.ofNat (i + 1)).toNat = i + 1 := by
    have hlt := List.mem_range.mp hi
    have hle := lastPage_le (desk.matching setup now filter).length request.size.toNat
    have hone : 1 < UInt64.size := by decide
    exact UInt64.toNat_ofNat_of_lt' (by omega)
  rw [queuePage_eq, hpage]

/-- **The pages show every matching item once, in order.** -/
theorem shows_in_pages (request : PageRequest) (filter : QueueFilter) (desk : Desk σ)
    (hfits : (desk.matching setup now filter).length < UInt64.size) :
    desk.ShowsInPages setup now request filter := by
  let items := sortQueue request.key request.direction setup.store.fallback
    (desk.matching setup now filter)
  have hlength : items.length = (desk.matching setup now filter).length :=
    length_sortQueue request.key request.direction setup.store.fallback _
  have hshown := shown_eq setup now request hfits
  obtain ⟨order, hperm, hitems, horder⟩ := sortQueue_arranged request.key request.direction
    setup.store.fallback filter.accepts (desk.queue setup now)
  have hone : 1 < UInt64.size := by decide
  refine ⟨?_, ⟨order, hperm, hshown.trans hitems, horder⟩, fun key => inferInstance, ?_, ?_, ?_, ?_,
    ?_, ?_⟩
  · rw [hshown]
    exact List.mergeSort_perm _ _
  · intro hascending
    rw [hshown.trans hitems, List.pairwise_map]
    rw [hascending] at horder
    exact horder.imp fun hbefore => hbefore.lacks
  · rw [queuePage_eq, paginate_eq]
    exact List.length_take_le _ _
  · rw [queuePage_eq, paginate_eq]
    exact hlength
  · intro hbehind
    have hlast : (UInt64.ofNat (lastPage (desk.matching setup now filter).length
        request.size.toNat)).toNat = lastPage items.length request.size.toNat := by
      have hle := lastPage_le (desk.matching setup now filter).length request.size.toNat
      rw [hlength]
      exact UInt64.toNat_ofNat_of_lt' (by omega)
    rw [← hlength] at hbehind
    rw [queuePage_eq, queuePage_eq, hlast]
    exact paginate_of_lastPage_le hbehind
  · intro hzero
    rw [queuePage_eq, queuePage_eq, hzero]
    rfl
  · have hword : (UInt64.ofNat items.length).toNat = items.length :=
      UInt64.toNat_ofNat_of_lt' (by omega)
    obtain ⟨bounds, hbounds, hpage⟩ := exists_pageBounds? hword request.page request.size
    refine ⟨UInt64.ofNat items.length, bounds, hword.trans hlength, hbounds, ?_, ?_, ?_⟩
    all_goals
      rw [queuePage_eq]
      rw [hpage]

/-- Four releases wait, two of them larger than the others. -/
def fourWaiting : Desk (List MemoryClient) :=
  { Desk.blank [sab] with
    pending := ⟨(List.range 4).map fun serial =>
      { id := .pending serial
        candidate :=
          { GrabRules.freshCandidate with
            release := { GrabRules.freshRelease with size := UInt64.ofNat (serial % 2) } }
        rejection := ⟨.minimumAge, "Only 0 minutes old, minimum age is 60 minutes", .temporary⟩
        added := 0 }, 4⟩ }

/-- Asked for is a page behind the two that there are, with the larger releases first. -/
theorem fourWaiting_shows_in_pages :
    (fourWaiting.matching sabSetup 0 {}).length < UInt64.size ∧
      fourWaiting.ShowsInPages sabSetup 0 ⟨7, 3, .size, .descending⟩ {} := by
  have hlength : (fourWaiting.matching sabSetup 0 {}).length = 4 := by decide +kernel
  have hfits : (fourWaiting.matching sabSetup 0 {}).length < UInt64.size := by
    rw [hlength]
    decide
  exact ⟨hfits, shows_in_pages sabSetup 0 ⟨7, 3, .size, .descending⟩ {} fourWaiting hfits⟩

end Desk

end Acquisition
