import Acquisition.Client.Memory
import Acquisition.Proofs.Grab.HeldBack
import Acquisition.Proofs.Grab.Pipeline
import Acquisition.Proofs.Queue.Ancestry
import Acquisition.Proofs.Queue.FirstSight
import Acquisition.Proofs.Queue.Removal

/-!
# Runs of the desk

Whatever happens to a desk is one event after the other.  What is tracked changes by a list of calls
that can be read off the events, so that what holds of runs of such calls holds of the desk, and the
history and the blocklist are only ever written at the end.

## Main definitions

* `DeskEvent`, `DeskEvent.apply`, `Desk.run`: what may happen, and runs of it.
* `DeskEvent.calls`, `Desk.calls`: what an event, and a run, does to what is tracked.
* `Desk.Sound`: every identifier occurs once.
* `Desk.Extends`: history and blocklist of the one desk start with those of the other.

## Main results

* `Desk.run_tracked`: what is tracked after a run.
* `Desk.run_sound`, `Desk.run_extends`, `Desk.run_descends`: what every run keeps.
* `Desk.reachable_remove_removes`: removing an item, at any time, is all or nothing.
-/

namespace Acquisition

open TrackedDownloads

variable {σ : Type}

/-! ### Events -/

/-- What may happen to a desk. -/
inductive DeskEvent (σ : Type)
  /-- The clients go on by themselves, the event log is written or drained, observers are told. -/
  | elsewhere (clients : σ → σ) (events : EventLog → EventLog) (notices : Nat → Nat)
  | refresh (now : Instant)
  | poll (report : Report)
  | grab (now : Instant) (candidate : GrabCandidate)
  | process (now : Instant) (decisions : List GrabDecision)
  | search (now : Instant) (candidates : List GrabCandidate) (context : Option SearchContext)
  | retry (now : Instant)
  | remove (now : Instant) (id : QueueItemId) (removal : Removal)
  | record (entry : HistoryRecord)
  | block (entry : BlockEntry)
  | setAside (candidate : GrabCandidate) (rejection : Rejection) (now : Instant)
  | letGo (keep : PendingRelease → Bool)
  | setState (id : QueueItemId) (state : TrackedState)
  | stop (id : QueueItemId)

namespace DeskEvent

/-- The desk after the event. -/
def apply (setup : Setup σ) : DeskEvent σ → Desk σ → Desk σ
  | elsewhere clients events notices, desk =>
    { desk with
      clients := clients desk.clients
      events := events desk.events
      notices := notices desk.notices }
  | refresh now, desk => (desk.refresh setup now).2
  | .poll report, desk =>
    { desk with tracked := (report.against desk.history).apply desk.tracked }
  | grab now candidate, desk => (desk.grab setup now candidate).2
  | process now decisions, desk => (desk.processDecisions setup now decisions).2
  | search now candidates context, desk => (desk.evaluateAndGrab setup now candidates context).2
  | retry now, desk => (desk.processPending setup now).2
  | remove now id removal, desk => (desk.remove setup now id removal).2
  | record entry, desk => desk.record entry
  | block entry, desk => { desk with blocklist := desk.blocklist ++ [entry] }
  | setAside candidate rejection now, desk =>
    { desk with pending := (desk.pending.add candidate rejection now).2 }
  | letGo keep, desk =>
    { desk with pending := { desk.pending with releases := desk.pending.releases.filter keep } }
  | setState id state, desk => { desk with tracked := (desk.tracked.setState id state).2 }
  | stop id, desk => { desk with tracked := (desk.tracked.stopTracking id).2 }

end DeskEvent

/-- The desk after events, one after the other. -/
def Desk.run (setup : Setup σ) (events : List (DeskEvent σ)) (desk : Desk σ) : Desk σ :=
  events.foldl (fun desk event => event.apply setup desk) desk

theorem Desk.run_cons (setup : Setup σ) (event : DeskEvent σ) (events : List (DeskEvent σ))
    (desk : Desk σ) : desk.run setup (event :: events) = (event.apply setup desk).run setup events :=
  rfl

/-! ### What is tracked -/

/-- The reports of the clients that answer, each asked in the state that the ones before left. -/
def answers (now : Instant) : ClientRegistry σ → σ → List Report
  | [], _ => []
  | client :: clients, s =>
    match client.items s with
    | (.error _, s) => answers now clients s
    | (.ok items, s) => ⟨client.name, client.protocol, items, now⟩ :: answers now clients s

/-- A refresh takes in the answers with the log as it is, and changes nothing else but the
clients. -/
theorem Desk.pollAll_eq (now : Instant) : ∀ (registry : ClientRegistry σ) (report : RefreshReport)
    (desk : Desk σ), (desk.pollAll now registry report).2 =
      { desk with
        clients := (desk.pollAll now registry report).2.clients
        tracked := runFrom desk.tracked
          ((answers now registry desk.clients).map fun answer =>
            .poll (answer.against desk.history)) } := by
  intro registry
  induction registry with
  | nil => exact fun report desk => rfl
  | cons client registry ih =>
    intro report desk
    rw [pollAll, answers, poll]
    rcases hitems : client.items desk.clients with ⟨error | items, clients⟩
    · exact ih _ { desk with clients }
    · exact ih _ { desk with
        clients
        tracked := (Report.against ⟨client.name, client.protocol, items, now⟩
          desk.history).apply desk.tracked }

namespace Desk

variable {setup : Setup σ} {now : Instant}

/-- **A refresh** changes nothing but the clients, what is tracked and the notices. -/
theorem refresh_eq (setup : Setup σ) (now : Instant) (desk : Desk σ) :
    (desk.refresh setup now).2 =
      { desk with
        clients := (desk.refresh setup now).2.clients
        tracked := runFrom desk.tracked
          ((answers now setup.registry desk.clients).map fun answer =>
            .poll (answer.against desk.history))
        notices := (desk.refresh setup now).2.notices } := by
  have hpoll := pollAll_eq now setup.registry {} desk
  rcases hall : desk.pollAll now setup.registry {} with ⟨report, after⟩
  rw [hall] at hpoll
  rcases after with ⟨clients, history, blocklist, tracked, pending, events, notices⟩
  simp only [Desk.mk.injEq] at hpoll
  obtain ⟨-, rfl, rfl, rfl, rfl, rfl, rfl⟩ := hpoll
  simp only [refresh, hall]
  cases report.changed <;> rfl

/-- Every identifier occurs once. -/
structure Sound (desk : Desk σ) : Prop where
  tracked : desk.tracked.Sound
  pending : desk.pending.Sound

theorem Sound.blank (clients : σ) : (Desk.blank clients).Sound :=
  ⟨.empty, .empty⟩

end Desk

namespace DeskEvent

/-- What the event does to what is tracked: a refresh takes in the answers of the clients, and an
item that is removed is given up. -/
def calls (setup : Setup σ) : DeskEvent σ → Desk σ → List (TrackingCall Unit)
  | refresh now, desk =>
    (answers now setup.registry desk.clients).map fun answer => .poll (answer.against desk.history)
  | .poll report, desk => [.poll (report.against desk.history)]
  | remove now id removal, desk =>
    if (desk.remove setup now id removal).1.toBool then [.stop id] else []
  | setState id state, _ => [.setState id state]
  | stop id, _ => [.stop id]
  | elsewhere _ _ _, _ | grab _ _, _ | process _ _, _ | search _ _ _, _ | retry _, _ | record _, _
  | block _, _ | setAside _ _ _, _ | letGo _, _ => []

end DeskEvent

/-! ### Grabbing -/

/-- What every grab leaves: nothing happens to what is tracked and to the blocklist, and the history
is written at the end. -/
structure Grabbing (before after : Desk σ) : Prop where
  tracked : after.tracked = before.tracked
  blocklist : after.blocklist = before.blocklist
  history : before.history.records <+: after.history.records
  pending : before.pending.Sound → after.pending.Sound

namespace Grabbing

variable {setup : Setup σ} {now : Instant}

theorem refl (desk : Desk σ) : Grabbing desk desk :=
  ⟨rfl, rfl, List.prefix_rfl, id⟩

theorem trans {first second third : Desk σ} (h : Grabbing first second)
    (h' : Grabbing second third) : Grabbing first third where
  tracked := h'.tracked.trans h.tracked
  blocklist := h'.blocklist.trans h.blocklist
  history := h.history.trans h'.history
  pending := h'.pending ∘ h.pending

theorem settle (grab : Grab) (now : Instant) (clients : σ) (desk : Desk σ) :
    Grabbing desk (grab.settle now clients desk) where
  tracked := rfl
  blocklist := rfl
  history := List.prefix_append _ _
  pending := fun h => h.sublist List.filter_sublist

theorem grab (setup : Setup σ) (now : Instant) (candidate : GrabCandidate) (desk : Desk σ) :
    Grabbing desk (desk.grab setup now candidate).2 := by
  rcases desk.grab_sends setup now candidate with ⟨_, clients, hgrab, -⟩ | ⟨_, _, _, hgrab, -⟩
  · rw [hgrab]
    exact ⟨rfl, rfl, List.prefix_rfl, id⟩
  · rw [hgrab]
    exact settle _ _ _ _

theorem acts {decision : GrabDecision} {fate : Fate} {report report' : GrabReport}
    {desk desk' : Desk σ} (h : Acts setup now decision report desk fate report' desk') :
    Grabbing desk desk' := by
  cases h with
  | grabbed => exact settle _ _ _ _
  | failed => exact ⟨rfl, rfl, List.prefix_rfl, id⟩
  | passed => exact refl desk
  | held => exact ⟨rfl, rfl, List.prefix_rfl, fun h => h.add _ _ _⟩
  | rejected => exact refl desk

theorem trail {trail : List (GrabDecision × Fate)} {report report' : GrabReport}
    {desk desk' : Desk σ} (h : Trail setup now report desk trail report' desk') :
    Grabbing desk desk' := by
  induction h with
  | nil => exact refl _
  | cons step _ ih => exact (acts step).trans ih

theorem processDecisions (setup : Setup σ) (now : Instant) (decisions : List GrabDecision)
    (desk : Desk σ) : Grabbing desk (desk.processDecisions setup now decisions).2 := by
  obtain ⟨_, -, htrail⟩ := desk.exists_trail setup now (prioritize setup.store now decisions) {}
  exact trail htrail

theorem dropRejected_sound (decisions : List GrabDecision) :
    ∀ {pending : PendingReleases}, pending.Sound → (Desk.dropRejected decisions pending).Sound := by
  induction decisions with
  | nil => exact id
  | cons decision decisions ih =>
    intro pending h
    refine ih ?_
    dsimp only
    split
    · exact h
    · exact h.sublist List.filter_sublist

theorem processPending (setup : Setup σ) (now : Instant) (desk : Desk σ) :
    Grabbing desk (desk.processPending setup now).2 := by
  rw [Desk.processPending]
  split
  · exact refl desk
  · let decisions :=
      desk.evaluate setup now (desk.pending.releases.map (·.candidate)) (some .rss)
    have hdropped :
        Grabbing desk { desk with pending := Desk.dropRejected decisions desk.pending } :=
      ⟨rfl, rfl, List.prefix_rfl, dropRejected_sound decisions⟩
    exact hdropped.trans (processDecisions setup now decisions _)

end Grabbing

/-! ### What every event keeps -/

/-- **What an event does to what is tracked** are its calls. -/
theorem DeskEvent.apply_tracked {desk : Desk σ} (hsound : desk.Sound) (setup : Setup σ)
    (event : DeskEvent σ) :
    (event.apply setup desk).tracked = runFrom desk.tracked (event.calls setup desk) := by
  cases event with
  | refresh now => exact congrArg Desk.tracked (desk.refresh_eq setup now)
  | remove now id removal =>
    have hremoves := Desk.remove_removes hsound.tracked hsound.pending setup now id removal
    rw [apply, calls, hremoves.tracked_eq hsound.tracked]
    split
    · rfl
    · rfl
  | grab now candidate => exact (Grabbing.grab setup now candidate desk).tracked
  | process now decisions => exact (Grabbing.processDecisions setup now decisions desk).tracked
  | search now candidates context =>
    exact (Grabbing.processDecisions setup now (desk.evaluate setup now candidates context)
      desk).tracked
  | retry now => exact (Grabbing.processPending setup now desk).tracked
  | _ => rfl

/-- History and blocklist of the one desk start with those of the other. -/
structure Desk.Extends (before after : Desk σ) : Prop where
  history : before.history.records <+: after.history.records
  blocklist : before.blocklist <+: after.blocklist

theorem Desk.Extends.refl (desk : Desk σ) : desk.Extends desk :=
  ⟨List.prefix_rfl, List.prefix_rfl⟩

theorem Desk.Extends.trans {first second third : Desk σ} (h : first.Extends second)
    (h' : second.Extends third) : first.Extends third :=
  ⟨h.history.trans h'.history, h.blocklist.trans h'.blocklist⟩

theorem Grabbing.extends {before after : Desk σ} (h : Grabbing before after) :
    before.Extends after :=
  ⟨h.history, h.blocklist ▸ List.prefix_rfl⟩

namespace DeskEvent

variable {desk : Desk σ}

theorem apply_pending_sound (hsound : desk.Sound) (setup : Setup σ) (event : DeskEvent σ) :
    (event.apply setup desk).pending.Sound := by
  have hpending := hsound.pending
  cases event with
  | refresh now =>
    rw [apply, desk.refresh_eq]
    exact hpending
  | remove now id removal =>
    exact (Desk.remove_removes hsound.tracked hpending setup now id removal).pending_sound hpending
  | grab now candidate => exact (Grabbing.grab setup now candidate desk).pending hpending
  | process now decisions =>
    exact (Grabbing.processDecisions setup now decisions desk).pending hpending
  | search now candidates context =>
    exact (Grabbing.processDecisions setup now _ desk).pending hpending
  | retry now => exact (Grabbing.processPending setup now desk).pending hpending
  | setAside candidate rejection now => exact hpending.add candidate rejection now
  | letGo keep => exact hpending.sublist List.filter_sublist
  | _ => exact hpending

/-- **Every event leaves the desk sound.** -/
theorem apply_sound (hsound : desk.Sound) (setup : Setup σ) (event : DeskEvent σ) :
    (event.apply setup desk).Sound := by
  refine ⟨?_, apply_pending_sound hsound setup event⟩
  rw [apply_tracked hsound]
  exact Acquisition.run_sound _ hsound.tracked

/-- **No event takes anything back** that the history or the blocklist says. -/
theorem apply_extends (hsound : desk.Sound) (setup : Setup σ) (event : DeskEvent σ) :
    desk.Extends (event.apply setup desk) := by
  cases event with
  | refresh now =>
    rw [apply, desk.refresh_eq]
    exact ⟨List.prefix_rfl, List.prefix_rfl⟩
  | remove now id removal =>
    obtain ⟨hhistory, hblocklist⟩ :=
      (Desk.remove_removes hsound.tracked hsound.pending setup now id removal).prefixes
    exact ⟨hhistory, hblocklist⟩
  | grab now candidate => exact (Grabbing.grab setup now candidate desk).extends
  | process now decisions => exact (Grabbing.processDecisions setup now decisions desk).extends
  | search now candidates context => exact (Grabbing.processDecisions setup now _ desk).extends
  | retry now => exact (Grabbing.processPending setup now desk).extends
  | record entry => exact ⟨List.prefix_append _ _, List.prefix_rfl⟩
  | block entry => exact ⟨List.prefix_rfl, List.prefix_append _ _⟩
  | _ => exact ⟨List.prefix_rfl, List.prefix_rfl⟩

end DeskEvent

/-! ### Runs -/

namespace Desk

/-- What a run does to what is tracked. -/
def calls (setup : Setup σ) : List (DeskEvent σ) → Desk σ → List (TrackingCall Unit)
  | [], _ => []
  | event :: events, desk => event.calls setup desk ++ calls setup events (event.apply setup desk)

/-- **Every run leaves the desk sound.** -/
theorem run_sound (setup : Setup σ) : ∀ (events : List (DeskEvent σ)) {desk : Desk σ},
    desk.Sound → (desk.run setup events).Sound := by
  intro events
  induction events with
  | nil => exact id
  | cons event events ih => exact fun hsound => ih (event.apply_sound hsound setup)

/-- **What a run does to what is tracked** are its calls. -/
theorem run_tracked (setup : Setup σ) : ∀ (events : List (DeskEvent σ)) {desk : Desk σ},
    desk.Sound → (desk.run setup events).tracked = runFrom desk.tracked (desk.calls setup events) := by
  intro events
  induction events with
  | nil => exact fun _ => rfl
  | cons event events ih =>
    intro desk hsound
    rw [run_cons, ih (event.apply_sound hsound setup), event.apply_tracked hsound, calls]
    exact List.foldl_append.symm

/-- **No run takes anything back** that the history or the blocklist says. -/
theorem run_extends (setup : Setup σ) : ∀ (events : List (DeskEvent σ)) {desk : Desk σ},
    desk.Sound → desk.Extends (desk.run setup events) := by
  intro events
  induction events with
  | nil => exact fun _ => .refl _
  | cons event events ih =>
    intro desk hsound
    exact (event.apply_extends hsound setup).trans (ih (event.apply_sound hsound setup))

/-- **Identifiers stand for the same download for good.** -/
theorem run_descends (setup : Setup σ) (events : List (DeskEvent σ)) {desk : Desk σ}
    (hsound : desk.Sound) : Descends desk.tracked (desk.run setup events).tracked := by
  rw [run_tracked setup events hsound]
  exact Acquisition.run_descends _ _

/-- **Removing an item is all or nothing**, whatever happened before, and the client that is asked
is the only one with the name of the client of the download. -/
theorem reachable_remove_removes {setup : Setup σ} (hdistinct : setup.registry.Distinct)
    (clients : σ) (events : List (DeskEvent σ)) (now : Instant) (id : QueueItemId)
    (removal : Removal) :
    let before := (blank clients).run setup events
    Removes setup.registry now id removal before (before.remove setup now id removal).1
        (before.remove setup now id removal).2 ∧
      ∀ name client, setup.registry.byName? name = some client ↔
        client ∈ setup.registry ∧ Text.equalIgnoringCase client.name name = true := by
  intro before
  have hsound := run_sound setup events (.blank clients)
  refine ⟨?_, fun name client => hdistinct.byName?_eq_some_iff⟩
  exact remove_removes hsound.tracked hsound.pending setup now id removal

end Desk

/-! ### A desk with one client -/

/-- A client on usenet. -/
def sab : MemoryClient :=
  { name := "sab", protocol := .usenet }

/-- A setup with one client, and a profile that wants one quality. -/
def sabSetup : Setup (List MemoryClient) where
  store :=
    { profiles := [GrabRules.hdtvProfile], fallback := GrabRules.hdtvProfile, tagged := [],
      untagged := ⟨1, DelayProfile.lastOrder, .usenet, 0, 0, []⟩ }
  settings := {}
  registry := MemoryClient.registry [sab]

/-- The release is grabbed, and the client reports its download. -/
def sabGrab : List (DeskEvent (List MemoryClient)) :=
  [.grab 0 GrabRules.freshCandidate, .refresh 0]

/-- The download is deleted. -/
theorem sab_remove_removes :
    let before := (Desk.blank [sab]).run sabSetup sabGrab
    let removed := before.remove sabSetup 1 (.download 0) ⟨true, true⟩
    removed.1 = .ok () ∧
      Removes sabSetup.registry 1 (.download 0) ⟨true, true⟩ before removed.1 removed.2 := by
  refine ⟨?_, (Desk.reachable_remove_removes ?_ [sab] sabGrab 1 (.download 0) ⟨true, true⟩).1⟩
  · rfl
  · exact List.pairwise_singleton _ _

end Acquisition
