import Acquisition.Queue.Item
import Acquisition.Stored.Media

/-!
# Views of the queue

The queue is shown filtered, sorted and in pages.

## Main definitions

* `QueueFilter.accepts`: which items are shown.
* `SortKey`, `sortQueue`: the order in which they are shown.
* `Page`, `paginate`: the pages.
-/

namespace Acquisition

open Stored

/-! ### Filtering -/

/-- Which items of the queue are shown. -/
structure QueueFilter where
  /-- Only items of these media, if any are given. -/
  mediaIds : List MediaId := []
  protocol : Option Protocol := none
  /-- Only items in one of these languages, if any are given. -/
  languages : List Language := []
  /-- Only items of these qualities, if any are given. -/
  qualities : List Quality := []
  /-- Also items that belong to no known media item. -/
  includeUnknownMedia : Bool := false
  deriving DecidableEq, Repr, Inhabited

namespace QueueFilter

/-- The media item of an item passes. -/
def acceptsMedia (filter : QueueFilter) : Option MediaId → Bool
  | none => filter.includeUnknownMedia && filter.mediaIds.isEmpty
  | some mediaId => filter.mediaIds.isEmpty || filter.mediaIds.contains mediaId

/-- The item is shown. -/
def accepts (filter : QueueFilter) (item : QueueItem) : Bool :=
  filter.acceptsMedia item.mediaId &&
    filter.protocol.all (· == item.protocol) &&
    (filter.languages.isEmpty || item.languages.any (filter.languages.contains ·)) &&
    (filter.qualities.isEmpty || filter.qualities.any (·.same item.quality.quality))

end QueueFilter

instance : Stored QueueFilter where
  encode filter := .obj [("media_ids", .list encodeId filter.mediaIds),
    ("protocol", encode filter.protocol), ("languages", encode filter.languages),
    ("qualities", encode filter.qualities),
    ("include_unknown_media", encode filter.includeUnknownMedia)]
  decode? j := do
    let record ← Record.ofJson? 5 j
    return {
      mediaIds := ← ((record.field? 0 "media_ids").getD (.arr [])) |> Json.listOf? decodeId?
      protocol := ← record.defaulted 1 "protocol" none
      languages := ← record.defaulted 2 "languages" []
      qualities := ← record.defaulted 3 "qualities" []
      includeUnknownMedia := ← record.defaulted 4 "include_unknown_media" false }

/-! ### Sorting -/

/-- What the queue is sorted by. -/
inductive SortKey
  | timeLeft
  | expected
  | quality
  | languages
  | title
  | status
  | protocol
  | indexer
  | client
  | size
  | progress
  | added
  deriving DecidableEq, Repr, Inhabited

namespace SortKey

/-- All keys. -/
def all : List SortKey :=
  [timeLeft, expected, quality, languages, title, status, protocol, indexer, client, size, progress,
    added]

/-- The word for a key. -/
def name : SortKey → String
  | timeLeft => "timeleft"
  | expected => "estimated_completion_time"
  | quality => "quality"
  | languages => "languages"
  | title => "title"
  | status => "status"
  | protocol => "protocol"
  | indexer => "indexer"
  | client => "download_client"
  | size => "size"
  | progress => "progress"
  | added => "added"

/-- The key that a word stands for. -/
def ofName? (name : String) : Option SortKey :=
  all.find? (·.name == name)

end SortKey

instance : Stored SortKey :=
  ⟨fun key => .str key.name, fun j => (readWord? j).bind SortKey.ofName?⟩

/-- Which end comes first. -/
inductive SortDirection
  | ascending
  | descending
  deriving DecidableEq, Repr, Inhabited

/-- The word for a direction. -/
def SortDirection.name : SortDirection → String
  | ascending => "ascending"
  | descending => "descending"

/-- The direction that a word stands for. -/
def SortDirection.ofName? : String → Option SortDirection
  | "ascending" => some ascending
  | "descending" => some descending
  | _ => none

instance : Stored SortDirection :=
  ⟨fun direction => .str direction.name, fun j => (readWord? j).bind SortDirection.ofName?⟩

/-- The order of values that may be unknown: the unknown ones come last. -/
def cmpKnown {α : Type} (cmp : α → α → Ordering) : Option α → Option α → Ordering
  | some a, some b => cmp a b
  | some _, none => .lt
  | none, some _ => .gt
  | none, none => .eq

/-- The order of texts regardless of case, unknown ones last. -/
def cmpText (a b : Option String) : Ordering :=
  cmpKnown compare (a.map Text.lowercase) (b.map Text.lowercase)

/-- The place of a floating-point number in their total order: by sign, then by magnitude. -/
def floatPlace (x : Float) : Int :=
  let bits := x.toBits.toNat
  if bits < 0x8000000000000000 then bits else -1 - ((bits - 0x8000000000000000 : Nat) : Int)

/-- The order of progress values. -/
def cmpProgress (a b : QueueItem) : Ordering :=
  compare (floatPlace a.progress) (floatPlace b.progress)

/-- The time left, which is not known of an item without a size. -/
def knownTimeLeft (item : QueueItem) : Option Span :=
  if item.size == 0 then none else item.timeLeft

/-- The order of language lists: by the name of the first language, then by their number. -/
def cmpLanguages (a b : List Language) : Ordering :=
  let first (languages : List Language) := (languages.head?.map Language.name).getD ""
  (compare (first a) (first b)).then (compare a.length b.length)

/-- The order of items by a key. -/
def SortKey.cmp (key : SortKey) (profile : Profile) (a b : QueueItem) : Ordering :=
  match key with
  | timeLeft => cmpKnown compare (knownTimeLeft a) (knownTimeLeft b)
  | expected => cmpKnown compare a.expected b.expected
  | quality => profile.cmp a.quality b.quality
  | languages => cmpLanguages a.languages b.languages
  | title => cmpText (some a.title) (some b.title)
  | status => compare a.status.name b.status.name
  | protocol => compare a.protocol.name b.protocol.name
  | indexer => cmpText a.indexer b.indexer
  | client => cmpText a.client b.client
  | size => compare a.size b.size
  | progress => cmpProgress a b
  | added => cmpKnown compare a.added b.added

/-- The order of items by a key in a direction; among equals, what is nearer to its end comes
first in either direction. -/
def cmpQueue (key : SortKey) (direction : SortDirection) (profile : Profile) (a b : QueueItem) :
    Ordering :=
  let primary := key.cmp profile a b
  let primary :=
    match direction with
    | .ascending => primary
    | .descending => primary.swap
  primary.then (cmpProgress b a)

/-- The items in order; equal ones stay as they were. -/
def sortQueue (key : SortKey) (direction : SortDirection) (profile : Profile)
    (items : List QueueItem) : List QueueItem :=
  items.mergeSort fun a b => cmpQueue key direction profile a b != .gt

/-! ### Pages -/

/-- Which page is asked for. -/
structure PageRequest where
  page : UInt64
  size : UInt64
  key : SortKey
  direction : SortDirection
  deriving DecidableEq, Repr, Inhabited

instance : Stored PageRequest where
  encode request := .obj [("page", encode request.page), ("page_size", encode request.size),
    ("sort_key", encode request.key), ("sort_direction", encode request.direction)]
  decode? j := do
    let record ← Record.ofJson? 4 j
    return {
      page := ← record.required 0 "page"
      size := ← record.required 1 "page_size"
      key := ← record.required 2 "sort_key"
      direction := ← record.required 3 "sort_direction" }

/-- A page of a list. -/
structure Page (α : Type) where
  /-- The number of the page, from one. -/
  page : Nat
  /-- The number of records on a full page. -/
  size : Nat
  /-- The number of records on all pages. -/
  total : Nat
  records : List α
  deriving DecidableEq, Repr, Inhabited

/-- The page of a list.  A page has at least one place; a page before the first or behind the
last is taken as the first or the last. -/
def paginate {α : Type} (items : List α) (page size : Nat) : Page α :=
  let size := max size 1
  let total := items.length
  let last := max ((total + size - 1) / size) 1
  let page := min (max page 1) last
  { page, size, total, records := (items.drop ((page - 1) * size)).take size }

end Acquisition
