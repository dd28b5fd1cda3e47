import Acquisition.Proofs.Desk.Announcing
import Acquisition.Proofs.Desk.Sighting
import Acquisition.Proofs.Queue.UnderKey

/-!
# A refresh, client by client

All clients are polled one after the other, and what they report goes into one place.  If their names
differ whatever their case, and what one answers does not depend on whether another was asked before,
then each poll has its own part of what is tracked: a client that fails keeps it as it was, any other
one makes of it what it would make of it alone, and the order does not matter.

## Main definitions

* `ClientRegistry.Apart`, `ClientRegistry.Independent`: the clients keep out of each other's way.
* `DownloadClient.answer?`: the report of a client, if it answers.
* `Desk.ClientByClient`: what a refresh of such clients comes to.

## Main results

* `MemoryClient.independent_registry`: clients in memory are independent.
* `Desk.changed_refresh_iff`: a refresh says that something changed exactly if something did.
* `Desk.refresh_clientByClient`: **a refresh is a poll of each client alone**, in any order.
-/

namespace Acquisition

open TrackedDownloads

variable {σ : Type}

/-! ### Clients that keep apart -/

namespace DownloadClient

/-- The report of the client, if it answers. -/
def answer? (client : DownloadClient σ) (now : Instant) (s : σ) : Option Report :=
  (client.items s).1.toOption.map fun items => ⟨client.name, client.protocol, items, now⟩

theorem answer?_eq_none_iff {client : DownloadClient σ} {now : Instant} {s : σ} :
    client.answer? now s = none ↔ ∃ error, (client.items s).1 = .error error := by
  rw [answer?]
  cases (client.items s).1 <;> simp [Except.toOption]

theorem client_of_answer? {client : DownloadClient σ} {now : Instant} {s : σ} {answer : Report}
    (h : client.answer? now s = some answer) : answer.client = client.name := by
  obtain ⟨items, -, rfl⟩ := Option.map_eq_some_iff.mp h
  rfl

end DownloadClient

namespace ClientRegistry

/-- The names of the clients differ, whatever their case. -/
def Apart (clients : ClientRegistry σ) : Prop :=
  clients.Pairwise fun a b => Text.lowercase a.name ≠ Text.lowercase b.name

/-- What a client answers does not depend on whether another one was asked before. -/
def Independent (clients : ClientRegistry σ) : Prop :=
  ∀ client ∈ clients, ∀ other ∈ clients, Text.lowercase client.name ≠ Text.lowercase other.name →
    ∀ s, (client.items (other.items s).2).1 = (client.items s).1

variable {registry reordered : ClientRegistry σ} {now : Instant} {s : σ}

theorem Apart.perm (h : registry.Apart) (hperm : registry.Perm reordered) : reordered.Apart :=
  hperm.pairwise h fun {_ _} hne => hne.symm

theorem Independent.perm (h : registry.Independent) (hperm : registry.Perm reordered) :
    reordered.Independent :=
  fun client hclient other hother =>
    h client (hperm.mem_iff.mpr hclient) other (hperm.mem_iff.mpr hother)

theorem Independent.of_cons {client : DownloadClient σ} (h : Independent (client :: registry)) :
    registry.Independent :=
  fun first hfirst other hother =>
    h first (List.mem_cons_of_mem _ hfirst) other (List.mem_cons_of_mem _ hother)

/-- **Clients that keep apart** answer in a refresh what each would answer alone. -/
theorem answers_eq_filterMap : ∀ {registry : ClientRegistry σ} {s : σ}, registry.Apart →
    registry.Independent → answers now registry s = registry.filterMap (·.answer? now s) := by
  intro registry
  induction registry with
  | nil => exact fun _ _ => rfl
  | cons client registry ih =>
    intro s hapart hindependent
    obtain ⟨hfirst, hrest⟩ := List.pairwise_cons.mp hapart
    -- those that are still to be asked answer as if the first was not
    have hsame : registry.filterMap (·.answer? now (client.items s).2) =
        registry.filterMap (·.answer? now s) := by
      refine List.filterMap_congr fun other hother => ?_
      rw [DownloadClient.answer?, DownloadClient.answer?,
        hindependent other (List.mem_cons_of_mem _ hother) client List.mem_cons_self
          (hfirst other hother).symm]
    rw [List.filterMap_cons, ← hsame, ← ih hrest hindependent.of_cons, answers,
      DownloadClient.answer?]
    rcases client.items s with ⟨error | items, after⟩ <;> rfl

theorem answers_pairwise (hapart : registry.Apart) :
    (registry.filterMap (·.answer? now s)).Pairwise
      fun a b => Text.lowercase a.client ≠ Text.lowercase b.client := by
  refine List.pairwise_filterMap.mpr (hapart.imp fun hne a ha b hb => ?_)
  rw [DownloadClient.client_of_answer? ha, DownloadClient.client_of_answer? hb]
  exact hne

end ClientRegistry

/-! ### Clients in memory -/

namespace MemoryClient

/-- What is answered depends on the client at the place alone. -/
theorem at_fst {α : Type} (place : Nat)
    (call : MemoryClient → Except ClientError α × MemoryClient) (clients : List MemoryClient) :
    (at_ place call clients).1 =
      (clients[place]?.map (call · |>.1)).getD (.error (.request "no such client")) := by
  rw [at_]
  cases clients[place]? <;> rfl

/-- Asking the client at one place leaves those at others as they are. -/
theorem getElem?_at_of_ne {α : Type} {i j : Nat} (hne : j ≠ i)
    (call : MemoryClient → Except ClientError α × MemoryClient) (clients : List MemoryClient) :
    (at_ j call clients).2[i]? = clients[i]? := by
  rw [at_]
  cases clients[j]? with
  | none => rfl
  | some client => exact List.getElem?_set_ne hne

/-- **Clients in memory are independent.** -/
theorem independent_registry (clients : List MemoryClient) :
    (registry clients).Independent := by
  intro first hfirst second hsecond hne s
  obtain ⟨i, hi, rfl⟩ := List.mem_mapIdx.mp hfirst
  obtain ⟨j, hj, rfl⟩ := List.mem_mapIdx.mp hsecond
  have hplaces : j ≠ i := by
    rintro rfl
    exact hne rfl
  have hkept : (at_ j poll s).2[i]? = s[i]? := getElem?_at_of_ne hplaces poll s
  have hasked : (at_ i poll (at_ j poll s).2).1 = (at_ i poll s).1 := by
    rw [at_fst, at_fst, hkept]
  exact hasked

end MemoryClient

/-! ### Whether anything changed -/

/-- Whether one of the answers, taken in one after the other, says that it changed anything. -/
def anyChanges (history : History) : List Report → TrackedDownloads → Bool
  | [], _ => false
  | answer :: answers, tracked =>
    (answer.against history).changes tracked ||
      anyChanges history answers ((answer.against history).apply tracked)

/-- What a later answer of another client leaves unchanged was unchanged before. -/
theorem unchanged_of_takeIn {history : History} {answer : Report} {answers : List Report}
    {tracked : TrackedDownloads}
    (hothers : ∀ other ∈ answers, Text.lowercase answer.client ≠ Text.lowercase other.client)
    (h : Unchanged tracked
      (takeIn history answers ((answer.against history).apply tracked))) :
    Unchanged tracked ((answer.against history).apply tracked) := by
  intro key
  by_cases hclient : key.1 = Text.lowercase answer.client
  · -- the later answers are of other clients
    have hlater : ∀ other ∈ answers, key.1 ≠ Text.lowercase other.client :=
      fun other hother => hclient ▸ hothers other hother
    have hagree := h key
    rwa [lookup?_takeIn_of_other hlater] at hagree
  · have hkept : ((answer.against history).apply tracked).lookup? key = tracked.lookup? key :=
      Poll.lookup?_of_other hclient
    rw [hkept]
    exact Unchanged.refl tracked key

/-- **Answers under different names say that something changed exactly if something did**: no answer
takes back what another one changed.  The induction is on the answers. -/
theorem anyChanges_eq_false_iff (history : History) : ∀ {answers : List Report}
    {tracked : TrackedDownloads}, tracked.Sound →
      answers.Pairwise (fun a b => Text.lowercase a.client ≠ Text.lowercase b.client) →
      (∀ answer ∈ answers, (answer.against history).keys.Nodup) →
      (anyChanges history answers tracked = false ↔
        Unchanged tracked (takeIn history answers tracked)) := by
  intro answers
  induction answers with
  | nil => exact fun _ _ _ => iff_of_true rfl (Unchanged.refl _)
  | cons answer answers ih =>
    intro tracked hsound hapart hdistinct
    obtain ⟨hothers, hapart⟩ := List.pairwise_cons.mp hapart
    obtain ⟨hfirst, hrest⟩ := List.forall_mem_cons.mp hdistinct
    have hpoll := Poll.changes_eq_false_iff_unchanged hsound hfirst
    rw [anyChanges, Bool.or_eq_false_iff, hpoll,
      ih ((answer.against history).apply_sound hsound) hapart hrest]
    constructor
    · rintro ⟨hchanged, hlater⟩
      exact hchanged.trans hlater
    · intro h
      have hchanged := unchanged_of_takeIn hothers h
      exact ⟨hchanged, hchanged.symm.trans h⟩

namespace Desk

variable {setup : Setup σ} {now : Instant} {desk : Desk σ} {key : TrackingKey}

/-! ### The report -/

theorem polled_pollAll (now : Instant) : ∀ (registry : ClientRegistry σ) (report : RefreshReport)
    (desk : Desk σ),
    (desk.pollAll now registry report).1.polled = report.polled + registry.length := by
  intro registry
  induction registry with
  | nil => exact fun report desk => rfl
  | cons client registry ih =>
    intro report desk
    rw [pollAll, poll, List.length_cons, Nat.add_comm registry.length, ← Nat.add_assoc]
    rcases client.items desk.clients with ⟨error | items, clients⟩
    · exact ih _ _
    · exact ih _ _

/-- Every client either fails or answers. -/
theorem failed_pollAll (now : Instant) : ∀ (registry : ClientRegistry σ) (report : RefreshReport)
    (desk : Desk σ),
    (desk.pollAll now registry report).1.failed + (answers now registry desk.clients).length =
      report.failed + registry.length := by
  intro registry
  induction registry with
  | nil => exact fun report desk => rfl
  | cons client registry ih =>
    intro report desk
    rw [pollAll, answers, poll, List.length_cons]
    rcases client.items desk.clients with ⟨error | items, clients⟩
    · have hrest := ih { report with polled := report.polled + 1, failed := report.failed + 1 }
        { desk with clients }
      exact hrest.trans (Nat.add_right_comm _ _ _)
    · exact congrArg (· + 1) (ih
        { report with
          polled := report.polled + 1
          changed := report.changed ||
            (Report.against ⟨client.name, client.protocol, items, now⟩ desk.history).changes
              desk.tracked }
        { desk with
          clients
          tracked := (Report.against ⟨client.name, client.protocol, items, now⟩
            desk.history).apply desk.tracked })

theorem changed_pollAll (now : Instant) : ∀ (registry : ClientRegistry σ) (report : RefreshReport)
    (desk : Desk σ), (desk.pollAll now registry report).1.changed =
      (report.changed ||
        anyChanges desk.history (answers now registry desk.clients) desk.tracked) := by
  intro registry
  induction registry with
  | nil => exact fun report desk => (Bool.or_false _).symm
  | cons client registry ih =>
    intro report desk
    rw [pollAll, answers, poll]
    rcases client.items desk.clients with ⟨error | items, clients⟩
    · exact ih _ { desk with clients }
    · refine (ih _ _).trans ?_
      exact Bool.or_assoc _ _ _

/-! ### Client by client -/

/-- The report of a refresh tells what it says itself, and the observers are told accordingly. -/
theorem notices_refresh (setup : Setup σ) (now : Instant) (desk : Desk σ) :
    (desk.refresh setup now).2.notices =
      desk.notices + if (desk.refresh setup now).1.changed then 1 else 0 := by
  have hnotices : (desk.pollAll now setup.registry {}).2.notices = desk.notices := by
    rw [pollAll_eq]
  rw [refresh]
  simp only
  split
  · exact congrArg (· + 1) hnotices
  · exact hnotices

/-- A client that answers makes of its downloads what its answer leaves of them. -/
theorem exists_lookup?_refresh (hapart : setup.registry.Apart)
    (hindependent : setup.registry.Independent) {client : DownloadClient σ}
    (hclient : client ∈ setup.registry) {answer : Report}
    (hanswer : client.answer? now desk.clients = some answer)
    (hkey : key.1 = Text.lowercase client.name) :
    ∃ id, (desk.refresh setup now).2.tracked.lookup? key =
      answer.leaves desk.history key id (desk.tracked.lookup? key) := by
  rw [refresh_tracked, ClientRegistry.answers_eq_filterMap hapart hindependent]
  refine exists_lookup?_takeIn_eq_leaves (ClientRegistry.answers_pairwise hapart) answer ?_ ?_
  · exact List.mem_filterMap.mpr ⟨client, hclient, hanswer⟩
  · rw [DownloadClient.client_of_answer? hanswer]
    exact hkey

/-- A download whose client does not answer, or is not asked, stays as it was. -/
theorem lookup?_refresh_of_silent (hapart : setup.registry.Apart)
    (hindependent : setup.registry.Independent)
    (hsilent : ∀ client ∈ setup.registry, key.1 = Text.lowercase client.name →
      client.answer? now desk.clients = none) :
    (desk.refresh setup now).2.tracked.lookup? key = desk.tracked.lookup? key := by
  rw [refresh_tracked, ClientRegistry.answers_eq_filterMap hapart hindependent]
  refine lookup?_takeIn_of_other fun answer hmem hkey => ?_
  obtain ⟨client, hclient, hanswer⟩ := List.mem_filterMap.mp hmem
  rw [DownloadClient.client_of_answer? hanswer] at hkey
  rw [hsilent client hclient hkey] at hanswer
  exact absurd hanswer (Option.some_ne_none answer).symm

end Desk

namespace ClientRegistry

variable {registry : ClientRegistry σ}

/-- A name, whatever its case, is of one client at most. -/
theorem Apart.eq_of_name (h : registry.Apart) {first second : DownloadClient σ}
    (hfirst : first ∈ registry) (hsecond : second ∈ registry)
    (hname : Text.lowercase first.name = Text.lowercase second.name) : first = second := by
  by_contra hne
  have hsymmetric : Std.Symm fun a b : DownloadClient σ =>
      Text.lowercase a.name ≠ Text.lowercase b.name := ⟨fun _ _ hne => hne.symm⟩
  exact h.forall hfirst hsecond hne hname

theorem apart_singleton (client : DownloadClient σ) : Apart [client] :=
  List.pairwise_singleton _ _

theorem independent_singleton (client : DownloadClient σ) : Independent [client] := by
  intro first hfirst second hsecond hne
  rw [List.mem_singleton.mp hfirst, List.mem_singleton.mp hsecond] at hne
  exact absurd rfl hne

end ClientRegistry

namespace Desk

variable {setup : Setup σ} {now : Instant} {desk : Desk σ} {key : TrackingKey}

open ClientRegistry

/-- A client that fails keeps its downloads as they were. -/
theorem lookup?_refresh_of_error (hapart : setup.registry.Apart)
    (hindependent : setup.registry.Independent) {client : DownloadClient σ}
    (hclient : client ∈ setup.registry) (hfails : client.answer? now desk.clients = none)
    (hkey : key.1 = Text.lowercase client.name) :
    (desk.refresh setup now).2.tracked.lookup? key = desk.tracked.lookup? key := by
  refine lookup?_refresh_of_silent hapart hindependent fun other hother hname => ?_
  rw [hapart.eq_of_name hother hclient (hname.symm.trans hkey)]
  exact hfails

/-- **The downloads of a client are as if it alone had been polled.** -/
theorem agreeSince_refresh_alone (hapart : setup.registry.Apart)
    (hindependent : setup.registry.Independent) {client : DownloadClient σ}
    (hclient : client ∈ setup.registry) (hkey : key.1 = Text.lowercase client.name) :
    AgreeSince desk.tracked key (desk.refresh setup now).2.tracked
      (desk.refresh { setup with registry := [client] } now).2.tracked := by
  let alone : Setup σ := { setup with registry := [client] }
  have hapart' : alone.registry.Apart := apart_singleton client
  have hindependent' : alone.registry.Independent := independent_singleton client
  have hmem : client ∈ alone.registry := List.mem_singleton_self client
  cases hanswer : client.answer? now desk.clients with
  | none =>
    have hall := lookup?_refresh_of_error hapart hindependent hclient hanswer hkey
    have halone := lookup?_refresh_of_error hapart' hindependent' hmem hanswer hkey
    exact .of_eq (hall.trans halone.symm)
  | some answer =>
    obtain ⟨id, hall⟩ := exists_lookup?_refresh hapart hindependent hclient hanswer hkey
    obtain ⟨id', halone⟩ := exists_lookup?_refresh hapart' hindependent' hmem hanswer hkey
    exact Report.agreeSince_of_leaves hall halone

/-- **The order in which the clients are registered does not matter.** -/
theorem agreeSince_refresh_perm (hapart : setup.registry.Apart)
    (hindependent : setup.registry.Independent) {registry : ClientRegistry σ}
    (hperm : setup.registry.Perm registry) (key : TrackingKey) :
    AgreeSince desk.tracked key (desk.refresh setup now).2.tracked
      (desk.refresh { setup with registry } now).2.tracked := by
  let other : Setup σ := { setup with registry }
  have hapart' : other.registry.Apart := hapart.perm hperm
  have hindependent' : other.registry.Independent := hindependent.perm hperm
  by_cases hknown : ∃ client ∈ setup.registry, key.1 = Text.lowercase client.name
  · -- in both orders the client might as well be alone
    obtain ⟨client, hclient, hkey⟩ := hknown
    have hclient' : client ∈ other.registry := hperm.mem_iff.mp hclient
    have hfirst : AgreeSince desk.tracked key (desk.refresh setup now).2.tracked
        (desk.refresh { setup with registry := [client] } now).2.tracked :=
      agreeSince_refresh_alone hapart hindependent hclient hkey
    have hsecond : AgreeSince desk.tracked key (desk.refresh other now).2.tracked
        (desk.refresh { setup with registry := [client] } now).2.tracked :=
      agreeSince_refresh_alone hapart' hindependent' hclient' hkey
    exact hfirst.trans hsecond.symm
  · -- no client has a part in it, in either order
    have hnone : ∀ client ∈ setup.registry, key.1 = Text.lowercase client.name →
        client.answer? now desk.clients = none :=
      fun client hclient hkey => absurd ⟨client, hclient, hkey⟩ hknown
    have hnone' : ∀ client ∈ other.registry, key.1 = Text.lowercase client.name →
        client.answer? now desk.clients = none :=
      fun client hclient => hnone client (hperm.mem_iff.mpr hclient)
    have hfirst := lookup?_refresh_of_silent hapart hindependent hnone
    have hsecond := lookup?_refresh_of_silent hapart' hindependent' hnone'
    exact .of_eq (hfirst.trans hsecond.symm)

/-- Every client that answers reports every download once. -/
def ReportsOnce (setup : Setup σ) (desk : Desk σ) : Prop :=
  ∀ client ∈ setup.registry, ∀ items, (client.items desk.clients).1 = .ok items →
    (reportedKeys client.name items).Nodup

/-- A refresh of clients that report every download once says that something changed exactly if
something did. -/
theorem changed_refresh_iff (hsound : desk.tracked.Sound) (hapart : setup.registry.Apart)
    (hindependent : setup.registry.Independent) (honce : desk.ReportsOnce setup) :
    (desk.refresh setup now).1.changed = false ↔
      Unchanged desk.tracked (desk.refresh setup now).2.tracked := by
  have hchanged : (desk.refresh setup now).1.changed =
      anyChanges desk.history (answers now setup.registry desk.clients) desk.tracked :=
    changed_pollAll now setup.registry {} desk
  rw [hchanged, refresh_tracked, answers_eq_filterMap hapart hindependent]
  refine anyChanges_eq_false_iff _ hsound (answers_pairwise hapart) fun answer hmem => ?_
  obtain ⟨client, hclient, hanswer⟩ := List.mem_filterMap.mp hmem
  obtain ⟨items, hitems, rfl⟩ := Option.map_eq_some_iff.mp hanswer
  refine honce client hclient items ?_
  cases hresult : (client.items desk.clients).1 with
  | error error =>
    rw [hresult] at hitems
    exact absurd hitems (Option.some_ne_none items).symm
  | ok found =>
    rw [hresult] at hitems
    rw [Option.some.inj hitems]

/-- What a refresh comes to, client by client. -/
structure ClientByClient (setup : Setup σ) (now : Instant) (before : Desk σ)
    (report : RefreshReport) (after : Desk σ) : Prop where
  /-- What is tracked of a client that fails stays exactly as it was. -/
  failing : ∀ client ∈ setup.registry, ∀ error, (client.items before.clients).1 = .error error →
    ∀ key, key.1 = Text.lowercase client.name →
      after.tracked.lookup? key = before.tracked.lookup? key
  /-- What is tracked of any client is as if it alone had been polled. -/
  alone : ∀ client ∈ setup.registry, ∀ key, key.1 = Text.lowercase client.name →
    AgreeSince before.tracked key after.tracked
      (before.refresh { setup with registry := [client] } now).2.tracked
  /-- What is tracked of no client stays as it was. -/
  unknown : ∀ key, (∀ client ∈ setup.registry, key.1 ≠ Text.lowercase client.name) →
    after.tracked.lookup? key = before.tracked.lookup? key
  polled : report.polled = setup.registry.length
  failed : report.failed =
    setup.registry.countP fun client => !(client.items before.clients).1.toBool
  /-- The observers are told once if anything was added or changed, and not at all otherwise. -/
  told : before.ReportsOnce setup → ¬ Unchanged before.tracked after.tracked →
    after.notices = before.notices + 1
  quiet : before.ReportsOnce setup → Unchanged before.tracked after.tracked →
    after.notices = before.notices
  /-- The clients may be registered in any order. -/
  reordered : ∀ registry, setup.registry.Perm registry → ∀ key,
    AgreeSince before.tracked key after.tracked
      (before.refresh { setup with registry } now).2.tracked

/-- As many clients fail as give an error. -/
theorem failed_refresh (hapart : setup.registry.Apart) (hindependent : setup.registry.Independent) :
    (desk.refresh setup now).1.failed =
      setup.registry.countP fun client => !(client.items desk.clients).1.toBool := by
  have hcounts := failed_pollAll now setup.registry {} desk
  have hanswers : (answers now setup.registry desk.clients).length =
      setup.registry.countP fun client => (client.items desk.clients).1.toBool := by
    rw [answers_eq_filterMap hapart hindependent, List.length_filterMap_eq_countP]
    refine List.countP_congr fun client _ => ?_
    rw [DownloadClient.answer?]
    cases (client.items desk.clients).1 <;> simp [Except.toOption, Except.toBool]
  have hsplit := List.length_eq_countP_add_countP
    (fun client : DownloadClient σ => (client.items desk.clients).1.toBool) (l := setup.registry)
  simp only [Bool.not_eq_true, Bool.decide_eq_false] at hsplit
  have hboth : (desk.pollAll now setup.registry {}).1.failed +
        setup.registry.countP (fun client => (client.items desk.clients).1.toBool) =
      setup.registry.countP (fun client => !(client.items desk.clients).1.toBool) +
        setup.registry.countP fun client => (client.items desk.clients).1.toBool := by
    rw [← hanswers, hcounts, hsplit, hanswers, Nat.zero_add, Nat.add_comm]
  exact Nat.add_right_cancel hboth

/-- **A refresh is a poll of each client alone**, in any order, if the clients keep apart. -/
theorem refresh_clientByClient (hsound : desk.tracked.Sound) (hapart : setup.registry.Apart)
    (hindependent : setup.registry.Independent) :
    ClientByClient setup now desk (desk.refresh setup now).1 (desk.refresh setup now).2 where
  failing := by
    intro client hclient error herror key hkey
    have hfails : client.answer? now desk.clients = none :=
      DownloadClient.answer?_eq_none_iff.mpr ⟨error, herror⟩
    exact lookup?_refresh_of_error hapart hindependent hclient hfails hkey
  alone := fun client hclient key hkey =>
    agreeSince_refresh_alone hapart hindependent hclient hkey
  unknown := fun key hunknown =>
    lookup?_refresh_of_silent hapart hindependent fun client hclient hkey =>
      absurd hkey (hunknown client hclient)
  polled := (polled_pollAll now setup.registry {} desk).trans (Nat.zero_add _)
  failed := failed_refresh hapart hindependent
  told := by
    intro honce hdiffers
    rw [← changed_refresh_iff hsound hapart hindependent honce, Bool.not_eq_false] at hdiffers
    rw [notices_refresh, hdiffers, if_pos rfl]
  quiet := by
    intro honce hunchanged
    rw [← changed_refresh_iff hsound hapart hindependent honce] at hunchanged
    rw [notices_refresh, hunchanged, if_neg Bool.false_ne_true, Nat.add_zero]
  reordered := fun registry hperm key => agreeSince_refresh_perm hapart hindependent hperm key

/-! ### Two clients, one of them down -/

/-- A client for torrents that does not answer. -/
def downed : MemoryClient :=
  { name := "deluge", protocol := .torrent, offline := true }

/-- A setup with a client that answers and one that does not. -/
def pairSetup : Setup (List MemoryClient) :=
  { sabSetup with registry := MemoryClient.registry [sab, downed] }

/-- Before the client went down it reported a download, under a number that the other one also
gives out. -/
def pairEarlier : List (DeskEvent (List MemoryClient)) :=
  [.poll ⟨"deluge", .torrent, [sabItem .downloading], 0⟩]

/-- The one client is polled, and the other one counts as failed. -/
theorem pair_clientByClient :
    let clients := [{ sab with items := [sabItem .downloading] }, downed]
    let before := (blank clients).run pairSetup pairEarlier
    let refreshed := before.refresh pairSetup 60
    refreshed.1 = ⟨2, 1, true⟩ ∧
      ClientByClient pairSetup 60 before refreshed.1 refreshed.2 := by
  refine ⟨rfl, refresh_clientByClient ?_ ?_ ?_⟩
  · exact (run_sound pairSetup pairEarlier (.blank _)).tracked
  · have hnames : ∀ client ∈ [MemoryClient.client 1 downed],
        Text.lowercase "sab" ≠ Text.lowercase client.name := by decide
    exact List.pairwise_cons.mpr ⟨hnames, List.pairwise_singleton _ _⟩
  · exact MemoryClient.independent_registry [sab, downed]

end Desk

end Acquisition
