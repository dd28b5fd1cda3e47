import Acquisition.Import.Locks
import Acquisition.Proofs.Import.Paths
import Mathlib.Logic.Function.Basic

/-!
# Requests that compete for paths

Imports and evaluations run side by side over one table of locked paths.  An import takes the paths
of its request one after the other, holds them all while it works, and gives them back; an
evaluation takes one path at a time.  A request that comes to a path which is locked has to wait.

Nobody waits in vain.  Imports take their paths in order, so that the holder of the last path that
is locked waits for nothing: what it may still want comes later, and none of that is locked.

## Main definitions

* `PathRequest`, `PathRequest.step?`: how far a request has got, and its next step.
* `Contention`, `Contention.run`: requests over one table, and what comes of a schedule.
* `Contention.Sound`: the table says who holds what, and no path is held twice.

## Main results

* `PathRequest.step?_cases`: what a step can do.
* `PathRequest.step?_isSome_iff`: a request waits only for a path that is locked.
* `Contention.Sound.run`: every schedule leaves the table sound.
* `Contention.excludes_and_progresses`: **no path is held twice, and while a request is unfinished
  some request can take a step.**
-/

namespace Acquisition

/-! ### The table of locked paths -/

namespace PathLocks

variable {locks after : PathLocks} {path other : Path}

theorem isLocked_iff :
    locks.isLocked path = true ↔ ∃ held ∈ locks.held, held.same path = true := by
  rw [isLocked, List.any_eq_true]

theorem lock?_eq_some (h : locks.lock? path = some after) :
    locks.isLocked path = false ∧ after.held = path :: locks.held := by
  rw [lock?] at h
  split at h
  · exact absurd h nofun
  next hfree =>
    obtain rfl := Option.some.inj h
    exact ⟨Bool.eq_false_iff.mpr hfree, rfl⟩

theorem isSome_lock? : (locks.lock? path).isSome = !locks.isLocked path := by
  rw [lock?]
  cases locks.isLocked path <;> rfl

theorem isLocked_of_held_eq_nil (h : locks.held = []) (path : Path) :
    locks.isLocked path = false := by
  rw [isLocked, h, List.any_nil]

theorem mem_unlock_iff :
    other ∈ (locks.unlock path).held ↔ other ∈ locks.held ∧ other.same path = false := by
  rw [unlock, List.mem_filter, Bool.not_eq_true']

end PathLocks

theorem Path.same_comm (a b : Path) : a.same b = b.same a :=
  Bool.beq_comm

theorem Path.not_same_of_cmp_lt {a b : Path} (h : a.cmp b = .lt) : a.same b = false := by
  refine Bool.eq_false_iff.mpr fun hsame => ?_
  rw [Path.cmp_eq_eq_iff.mpr hsame] at h
  exact absurd h nofun

/-- Of several paths one is the last. -/
theorem Path.exists_last {paths : List Path} (h : paths ≠ []) :
    ∃ last ∈ paths, ∀ path ∈ paths, (path.cmp last).isLE = true := by
  induction paths with
  | nil => exact absurd rfl h
  | cons first rest ih =>
    have heq : first.cmp first = .eq := Std.ReflCmp.compare_self
    have hself : (first.cmp first).isLE = true := Ordering.isLE_of_eq_eq heq
    by_cases hrest : rest = []
    · subst hrest
      exact ⟨first, List.mem_cons_self, List.forall_mem_singleton.mpr hself⟩
    · obtain ⟨last, hmem, hlast⟩ := ih hrest
      have htotal : ((first.cmp last).isLE || (last.cmp first).isLE) = true :=
        isLE_or_isLE first last
      rcases Bool.or_eq_true_iff.mp htotal with hle | hle
      · exact ⟨last, List.mem_cons_of_mem first hmem, List.forall_mem_cons.mpr ⟨hle, hlast⟩⟩
      · -- the first one is behind all others
        have hothers : ∀ path ∈ rest, (path.cmp first).isLE = true := fun path hpath =>
          Std.TransCmp.isLE_trans (hlast path hpath) hle
        exact ⟨first, List.mem_cons_self, List.forall_mem_cons.mpr ⟨hself, hothers⟩⟩

/-! ### One request -/

/-- What a request is for. -/
inductive PathDemand
  | importing (paths : List Path)
  | evaluating (paths : List Path)
  deriving DecidableEq, Repr

/-- How far a request has got. -/
inductive PathRequest
  /-- An import holds some of its paths and takes the others. -/
  | gathering (held waiting : List Path)
  /-- An import has done its work and gives back what it holds. -/
  | returning (held : List Path)
  /-- An evaluation looks at a path, or is about to take the next one. -/
  | visiting (held : Option Path) (waiting : List Path)
  deriving DecidableEq, Repr

/-- A request begins.  An import takes its paths in order, each once; an evaluation takes them as
they are given. -/
def PathDemand.begin : PathDemand → PathRequest
  | importing paths => .gathering [] (orderedPaths paths)
  | evaluating paths => .visiting none paths

namespace PathRequest

/-- The paths that the request holds. -/
def held : PathRequest → List Path
  | gathering held _ => held
  | returning held => held
  | visiting held _ => held.toList

/-- The request holds nothing and wants nothing. -/
def isFinished : PathRequest → Bool
  | returning [] => true
  | visiting none [] => true
  | _ => false

/-- The path that the request takes next. -/
def wanted? : PathRequest → Option Path
  | gathering _ waiting => waiting.head?
  | returning _ => none
  | visiting none waiting => waiting.head?
  | visiting (some _) _ => none

/-- The next step of the request, if there is one and no path is in its way: the table and the
request afterwards. -/
def step? (locks : PathLocks) : PathRequest → Option (PathLocks × PathRequest)
  | gathering held (path :: waiting) =>
    (locks.lock? path).map fun locks => (locks, gathering (held ++ [path]) waiting)
  | gathering held [] => some (locks, returning held)
  | returning (path :: held) => some (locks.unlock path, returning held)
  | visiting none (path :: waiting) =>
    (locks.lock? path).map fun locks => (locks, visiting (some path) waiting)
  | visiting (some path) waiting => some (locks.unlock path, visiting none waiting)
  | returning [] | visiting none [] => none

/-- What the request holds and waits for is what is left of its demand. -/
def Serves : PathRequest → PathDemand → Prop
  | gathering held waiting, .importing paths => held ++ waiting = orderedPaths paths
  | returning held, .importing paths => held <:+ orderedPaths paths
  | visiting _ waiting, .evaluating paths => waiting <:+ paths
  | gathering _ _, .evaluating _ | returning _, .evaluating _ | visiting _ _, .importing _ => False

/-- An import takes its paths in order, and gives them back in order. -/
def Orderly : PathRequest → Prop
  | gathering held waiting => (held ++ waiting).Pairwise fun a b => a.cmp b = .lt
  | returning held => held.Pairwise fun a b => a.cmp b = .lt
  | visiting _ _ => True

variable {locks after : PathLocks} {demand : PathDemand} {request next : PathRequest} {path : Path}

theorem serves_begin (demand : PathDemand) : demand.begin.Serves demand := by
  cases demand with
  | importing paths => exact List.nil_append _
  | evaluating paths => exact List.suffix_rfl

/-- A request that does what it is for goes by the order of its paths. -/
theorem Serves.orderly (h : request.Serves demand) : request.Orderly := by
  cases demand with
  | importing paths =>
    have hincreasing := (orderedPaths_lists paths).increasing
    cases request with
    | gathering held waiting =>
      rw [Serves] at h
      rwa [Orderly, h]
    | returning held => exact hincreasing.sublist (List.IsSuffix.sublist h)
    | visiting held waiting => trivial
  | evaluating paths =>
    cases request with
    | gathering held waiting => exact h.elim
    | returning held => exact h.elim
    | visiting held waiting => trivial

theorem held_begin (demand : PathDemand) : demand.begin.held = [] := by
  cases demand <;> rfl

theorem Orderly.held (h : request.Orderly) : request.held.Pairwise fun a b => a.cmp b = .lt := by
  cases request with
  | gathering held waiting => exact h.sublist (List.sublist_append_left held waiting)
  | returning held => exact h
  | visiting held waiting =>
    cases held with
    | none => exact .nil
    | some path => exact List.pairwise_singleton _ path

/-- **What a step can do**: take a path that is not locked, give back the first path that is held,
or leave the table as it is. -/
theorem step?_cases (h : request.step? locks = some (after, next)) :
    (∃ path, locks.lock? path = some after ∧ next.held = request.held ++ [path]) ∨
      (∃ path, after = locks.unlock path ∧ request.held = path :: next.held) ∨
      (after = locks ∧ next.held = request.held) := by
  rcases request with ⟨held, _ | ⟨path, waiting⟩⟩ | (_ | ⟨path, held⟩) | ⟨_ | path, waiting⟩
  · -- an import holds all its paths
    cases h
    exact Or.inr (Or.inr ⟨rfl, rfl⟩)
  · obtain ⟨locked, hlock, heq⟩ := Option.map_eq_some_iff.mp h
    cases heq
    exact Or.inl ⟨path, hlock, rfl⟩
  · cases h
  · cases h
    exact Or.inr (Or.inl ⟨path, rfl, rfl⟩)
  · cases waiting with
    | nil => cases h
    | cons path waiting =>
      obtain ⟨locked, hlock, heq⟩ := Option.map_eq_some_iff.mp h
      cases heq
      exact Or.inl ⟨path, hlock, rfl⟩
  · cases h
    exact Or.inr (Or.inl ⟨path, rfl, rfl⟩)

theorem Serves.step (hserves : request.Serves demand)
    (h : request.step? locks = some (after, next)) : next.Serves demand := by
  cases demand with
  | importing paths =>
    rcases request with ⟨held, _ | ⟨path, waiting⟩⟩ | (_ | ⟨path, held⟩) | ⟨held, waiting⟩
    · cases h
      exact List.append_nil held ▸ hserves ▸ List.suffix_rfl
    · obtain ⟨locked, -, heq⟩ := Option.map_eq_some_iff.mp h
      cases heq
      rwa [Serves, List.append_assoc, List.singleton_append]
    · cases h
    · cases h
      exact (List.suffix_cons path held).trans hserves
    · exact hserves.elim
  | evaluating paths =>
    rcases request with ⟨held, waiting⟩ | held | ⟨_ | path, _ | ⟨wanted, waiting⟩⟩
    · exact hserves.elim
    · exact hserves.elim
    · cases h
    · obtain ⟨locked, -, heq⟩ := Option.map_eq_some_iff.mp h
      cases heq
      exact (List.suffix_cons wanted waiting).trans hserves
    · cases h
      exact hserves
    · cases h
      exact hserves

/-- A request never holds the path that it gives back a second time. -/
theorem Orderly.not_same_of_cons {rest : List Path} (horderly : request.Orderly)
    (h : request.held = path :: rest) : ∀ other ∈ rest, other.same path = false := by
  intro other hother
  have hheld := horderly.held
  rw [h] at hheld
  rw [Path.same_comm]
  exact Path.not_same_of_cmp_lt ((List.pairwise_cons.mp hheld).1 other hother)

/-- **A request waits only for a path that is locked.** -/
theorem step?_isSome_iff : (request.step? locks).isSome = true ↔
    request.isFinished = false ∧
      ∀ path, request.wanted? = some path → locks.isLocked path = false := by
  rcases request with ⟨held, _ | ⟨path, waiting⟩⟩ | (_ | ⟨path, held⟩) | ⟨_ | path, waiting⟩
  · exact iff_of_true rfl ⟨rfl, nofun⟩
  · rw [step?, Option.isSome_map, PathLocks.isSome_lock?, Bool.not_eq_true']
    refine ⟨fun hfree => ⟨rfl, fun wanted hwanted => ?_⟩, fun h => h.2 path rfl⟩
    exact Option.some.inj hwanted ▸ hfree
  · exact iff_of_false Bool.false_ne_true fun h => Bool.true_eq_false.mp h.1
  · exact iff_of_true rfl ⟨rfl, nofun⟩
  · cases waiting with
    | nil => exact iff_of_false Bool.false_ne_true fun h => Bool.true_eq_false.mp h.1
    | cons path waiting =>
      rw [step?, Option.isSome_map, PathLocks.isSome_lock?, Bool.not_eq_true']
      refine ⟨fun hfree => ⟨rfl, fun wanted hwanted => ?_⟩, fun h => h.2 path rfl⟩
      exact Option.some.inj hwanted ▸ hfree
  · exact iff_of_true rfl ⟨rfl, nofun⟩

theorem isFinished_of_mem_held (hheld : path ∈ request.held) : request.isFinished = false := by
  rcases request with ⟨held, waiting⟩ | (_ | ⟨first, held⟩) | ⟨_ | first, waiting⟩
  · rfl
  · exact absurd hheld List.not_mem_nil
  · rfl
  · exact absurd hheld List.not_mem_nil
  · rfl

/-- A request that holds a path takes only later ones. -/
theorem Orderly.held_lt_wanted {wanted : Path} (horderly : request.Orderly)
    (hheld : path ∈ request.held) (hwanted : request.wanted? = some wanted) :
    path.cmp wanted = .lt := by
  rcases request with ⟨held, waiting⟩ | held | ⟨_ | first, waiting⟩
  · exact (List.pairwise_append.mp horderly).2.2 path hheld wanted (List.mem_of_head? hwanted)
  · cases hwanted
  · exact absurd hheld List.not_mem_nil
  · cases hwanted

/-- **The holder of the last path that is locked can go on**: what it may still want comes later. -/
theorem Orderly.step?_isSome (horderly : request.Orderly) (hheld : path ∈ request.held)
    (hlast : ∀ other ∈ locks.held, (other.cmp path).isLE = true) :
    (request.step? locks).isSome = true := by
  refine step?_isSome_iff.mpr ⟨isFinished_of_mem_held hheld, fun wanted hwanted => ?_⟩
  refine Bool.eq_false_iff.mpr fun hlocked => ?_
  obtain ⟨other, hmem, hsame⟩ := PathLocks.isLocked_iff.mp hlocked
  -- the wanted path would have to be locked, and at most the last one
  have hlater := horderly.held_lt_wanted hheld hwanted
  have hlt : other.cmp wanted = .lt := Std.TransCmp.lt_of_isLE_of_lt (hlast other hmem) hlater
  rw [Path.not_same_of_cmp_lt hlt] at hsame
  exact absurd hsame Bool.false_ne_true

end PathRequest

/-! ### Many requests -/

/-- Requests over one table. -/
structure Contention (ι : Type*) where
  locks : PathLocks
  requests : ι → PathRequest

namespace Contention

variable {ι : Type*} [DecidableEq ι] {demands : ι → PathDemand} {state : Contention ι}
  {after : PathLocks} {next : PathRequest} {i j : ι} {path other : Path}

/-- All requests begin. -/
def begin (demands : ι → PathDemand) : Contention ι :=
  ⟨.empty, fun i => (demands i).begin⟩

/-- The paths that a request holds. -/
def heldBy (state : Contention ι) (i : ι) : List Path :=
  (state.requests i).held

/-- The request can take its next step. -/
def canAct (state : Contention ι) (i : ι) : Bool :=
  ((state.requests i).step? state.locks).isSome

/-- One request has moved on. -/
def replace (state : Contention ι) (i : ι) (locks : PathLocks) (request : PathRequest) :
    Contention ι :=
  ⟨locks, Function.update state.requests i request⟩

/-- The turn of a request: it takes its next step, or waits. -/
def act (state : Contention ι) (i : ι) : Contention ι :=
  match (state.requests i).step? state.locks with
  | some (locks, request) => state.replace i locks request
  | none => state

/-- The turns of a schedule, one after the other. -/
def run (state : Contention ι) (schedule : List ι) : Contention ι :=
  schedule.foldl act state

theorem requests_replace_self : (state.replace i after next).requests i = next := by
  dsimp only [replace]
  rw [Function.update_self]

theorem requests_replace_of_ne (h : j ≠ i) :
    (state.replace i after next).requests j = state.requests j := by
  dsimp only [replace]
  rw [Function.update_of_ne h]

theorem heldBy_replace_self : (state.replace i after next).heldBy i = next.held := by
  rw [heldBy, requests_replace_self]

theorem heldBy_replace_of_ne (h : j ≠ i) :
    (state.replace i after next).heldBy j = state.heldBy j := by
  rw [heldBy, requests_replace_of_ne h, heldBy]

/-- A request that takes a path holds it besides what it held. -/
theorem mem_heldBy_take (h : next.held = state.heldBy i ++ [path]) :
    other ∈ (state.replace i after next).heldBy j ↔
      other ∈ state.heldBy j ∨ j = i ∧ other = path := by
  rcases eq_or_ne j i with rfl | hne
  · rw [heldBy_replace_self, h, List.mem_append, List.mem_singleton]
    exact or_congr_right (and_iff_right rfl).symm
  · rw [heldBy_replace_of_ne hne]
    exact (or_iff_left fun hi => hne hi.1).symm

/-- The table holds what the requests hold, no path is held twice, and every request does what it is
for. -/
structure Sound (demands : ι → PathDemand) (state : Contention ι) : Prop where
  table : ∀ path, path ∈ state.locks.held ↔ ∃ i, path ∈ state.heldBy i
  apart : ∀ i j, i ≠ j → ∀ first ∈ state.heldBy i, ∀ second ∈ state.heldBy j,
    first.same second = false
  serves : ∀ i, (state.requests i).Serves (demands i)

omit [DecidableEq ι] in
theorem begin_sound (demands : ι → PathDemand) : (begin demands).Sound demands := by
  have hnone : ∀ i path, path ∉ (begin demands).heldBy i := by
    intro i path
    rw [heldBy, begin, PathRequest.held_begin]
    exact List.not_mem_nil
  refine ⟨fun path => iff_of_false List.not_mem_nil fun ⟨i, hi⟩ => hnone i path hi,
    fun i _ _ first hfirst => absurd hfirst (hnone i first),
    fun i => PathRequest.serves_begin (demands i)⟩

namespace Sound

/-- A request that gives back a path holds no more what is the same path; neither did the others. -/
theorem mem_heldBy_give (h : state.Sound demands) (hheld : state.heldBy i = path :: next.held) :
    other ∈ (state.replace i after next).heldBy j ↔
      other ∈ state.heldBy j ∧ other.same path = false := by
  have hpath : path ∈ state.heldBy i := hheld ▸ List.mem_cons_self
  rcases eq_or_ne j i with rfl | hne
  · rw [heldBy_replace_self, hheld]
    have hrest := (h.serves j).orderly.not_same_of_cons hheld
    refine ⟨fun hmem => ⟨List.mem_cons_of_mem path hmem, hrest other hmem⟩, ?_⟩
    rintro ⟨hmem, hother⟩
    refine (List.mem_cons.mp hmem).resolve_left ?_
    rintro rfl
    exact absurd (Path.same_iff.mpr rfl) (Bool.eq_false_iff.mp hother)
  · rw [heldBy_replace_of_ne hne]
    exact ⟨fun hmem => ⟨hmem, h.apart j i hne other hmem path hpath⟩, And.left⟩

theorem serves_replace (h : state.Sound demands) (hnext : next.Serves (demands i)) (j : ι) :
    ((state.replace i after next).requests j).Serves (demands j) := by
  rcases eq_or_ne j i with rfl | hne
  · rwa [requests_replace_self]
  · rw [requests_replace_of_ne hne]
    exact h.serves j

/-- A path is taken that is not locked. -/
theorem take (h : state.Sound demands) (hlock : state.locks.lock? path = some after)
    (hheld : next.held = state.heldBy i ++ [path]) (hnext : next.Serves (demands i)) :
    (state.replace i after next).Sound demands := by
  obtain ⟨hfree, hafter⟩ := PathLocks.lock?_eq_some hlock
  have hother : ∀ j, ∀ other ∈ state.heldBy j, other.same path = false := by
    intro j other hmem
    refine Bool.eq_false_iff.mpr fun hsame => ?_
    exact Bool.eq_false_iff.mp hfree
      (PathLocks.isLocked_iff.mpr ⟨other, (h.table other).mpr ⟨j, hmem⟩, hsame⟩)
  refine ⟨fun other => ?_, fun j k hne first hfirst second hsecond => ?_, h.serves_replace hnext⟩
  · simp only [mem_heldBy_take hheld, exists_or, exists_eq_left, ← h.table]
    rw [or_comm, ← List.mem_cons, ← hafter, replace]
  · rcases (mem_heldBy_take hheld).mp hfirst with hfirst | ⟨rfl, rfl⟩
    · rcases (mem_heldBy_take hheld).mp hsecond with hsecond | ⟨-, rfl⟩
      · exact h.apart j k hne first hfirst second hsecond
      · exact hother j first hfirst
    · rcases (mem_heldBy_take hheld).mp hsecond with hsecond | ⟨rfl, -⟩
      · rw [Path.same_comm]
        exact hother k second hsecond
      · exact absurd rfl hne

/-- A path is given back. -/
theorem give (h : state.Sound demands) (hheld : state.heldBy i = path :: next.held)
    (hnext : next.Serves (demands i)) :
    (state.replace i (state.locks.unlock path) next).Sound demands := by
  refine ⟨fun other => ?_, fun j k hne first hfirst second hsecond => ?_, h.serves_replace hnext⟩
  · simp only [h.mem_heldBy_give hheld, exists_and_right, ← h.table]
    exact PathLocks.mem_unlock_iff
  · exact h.apart j k hne first ((h.mem_heldBy_give hheld).mp hfirst).1 second
      ((h.mem_heldBy_give hheld).mp hsecond).1

/-- Nothing is taken or given back. -/
theorem stay (h : state.Sound demands) (hheld : next.held = state.heldBy i)
    (hnext : next.Serves (demands i)) :
    (state.replace i state.locks next).Sound demands := by
  have hsame : (state.replace i state.locks next).heldBy = state.heldBy := by
    funext j
    rcases eq_or_ne j i with rfl | hne
    · rw [heldBy_replace_self, hheld]
    · exact heldBy_replace_of_ne hne
  refine ⟨?_, ?_, h.serves_replace hnext⟩
  · rw [hsame]
    exact h.table
  · rw [hsame]
    exact h.apart

/-- One turn leaves the table sound. -/
theorem act (h : state.Sound demands) (i : ι) : (state.act i).Sound demands := by
  rw [Contention.act]
  split
  next after next hstep =>
    have hnext := (h.serves i).step hstep
    rcases PathRequest.step?_cases hstep with
      ⟨path, hlock, hheld⟩ | ⟨path, rfl, hheld⟩ | ⟨rfl, hheld⟩
    · exact h.take hlock hheld hnext
    · exact h.give hheld hnext
    · exact h.stay hheld hnext
  · exact h

/-- **Every schedule leaves the table sound.** -/
theorem run (h : state.Sound demands) (schedule : List ι) :
    (state.run schedule).Sound demands := by
  induction schedule generalizing state with
  | nil => exact h
  | cons i schedule ih => exact ih (h.act i)

omit [DecidableEq ι] in
/-- **A request that is not finished does not wait in vain**: some request can go on, the one that
holds the last path that is locked, or any if none is. -/
theorem exists_canAct (h : state.Sound demands) (hi : (state.requests i).isFinished = false) :
    ∃ j, state.canAct j = true := by
  by_cases hfree : state.locks.held = []
  · exact ⟨i, PathRequest.step?_isSome_iff.mpr
      ⟨hi, fun path _ => PathLocks.isLocked_of_held_eq_nil hfree path⟩⟩
  · obtain ⟨last, hmem, hlast⟩ := Path.exists_last hfree
    obtain ⟨j, hj⟩ := (h.table last).mp hmem
    exact ⟨j, (h.serves j).orderly.step?_isSome hj hlast⟩

omit [DecidableEq ι] in
/-- An import that is at work holds all its paths. -/
theorem held_eq_orderedPaths {paths held : List Path} (h : state.Sound demands)
    (hdemand : demands i = .importing paths) (hwork : state.requests i = .gathering held []) :
    held = orderedPaths paths := by
  have hserves := h.serves i
  rwa [hdemand, hwork, PathRequest.Serves, List.append_nil] at hserves

omit [DecidableEq ι] in
theorem isLocked_iff (h : state.Sound demands) :
    state.locks.isLocked path = true ↔ ∃ i, ∃ held ∈ state.heldBy i, held.same path = true := by
  simp only [PathLocks.isLocked_iff, h.table]
  exact ⟨fun ⟨held, ⟨i, hmem⟩, hsame⟩ => ⟨i, held, hmem, hsame⟩,
    fun ⟨i, held, hmem, hsame⟩ => ⟨held, ⟨i, hmem⟩, hsame⟩⟩

end Sound

/-- **Locked paths exclude, and nobody waits in vain.**  However many requests compete and whatever
the schedule, no two requests hold the same path, and a path is locked as long as a request holds
it; imports that have nothing left to take hold all their paths; and while a request is unfinished
some request can take a step. -/
theorem excludes_and_progresses (demands : ι → PathDemand) (schedule : List ι) :
    let state := (begin demands).run schedule
    (∀ i j, i ≠ j → ∀ first ∈ state.heldBy i, ∀ second ∈ state.heldBy j,
        first.same second = false) ∧
      (∀ path, state.locks.isLocked path = true ↔
        ∃ i, ∃ held ∈ state.heldBy i, held.same path = true) ∧
      (∀ i paths held, demands i = .importing paths → state.requests i = .gathering held [] →
        held = orderedPaths paths) ∧
      ((∃ i, (state.requests i).isFinished = false) → ∃ i, state.canAct i = true) := by
  intro state
  have hsound : state.Sound demands := (begin_sound demands).run schedule
  exact ⟨hsound.apart, fun _ => hsound.isLocked_iff, fun _ _ _ => hsound.held_eq_orderedPaths,
    fun ⟨_, hi⟩ => hsound.exists_canAct hi⟩

end Contention

end Acquisition
