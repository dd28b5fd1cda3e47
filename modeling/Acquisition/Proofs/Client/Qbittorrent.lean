import Acquisition.Client.Qbittorrent
import Acquisition.Proofs.Client.Http
import Acquisition.Proofs.Text.Split

/-!
# Torrents known by their magnet link

A magnet link is a list of parameters.  Those with the key `xt` are its topics, and a topic may be
the hash of a torrent or a name of another kind; a link to a torrent of two generations has both.
Only the first topic is looked at.  So a link is known by the first hash among its parameters
exactly if no topic of another kind stands ahead of it, and else the release has to bring a hash of
its own.

## Main definitions

* `MagnetLink`: the parameters of a link.
* `MagnetLink.IsTopic`, `MagnetLink.hashTopic`: topics, and those that are a hash.
* `Qbittorrent.Accepts`: the client takes a torrent that it is sent.

## Main results

* `MagnetLink.isTopicOf_iff`: what is taken for a topic.
* `MagnetLink.magnetHash?_text`: **a link is known by its first topic, if that is a hash.**
* `Qbittorrent.tracks_magnet_iff`: which links identify a torrent, and by what it is known.
-/

namespace Acquisition

/-- A magnet link: its parameters, which stand apart. -/
structure MagnetLink where
  parameters : List String
  apart : ∀ parameter ∈ parameters, '&' ∉ parameter.toList

namespace MagnetLink

/-- The link as it is written. -/
def text (link : MagnetLink) : String :=
  "magnet:?" ++ "&".intercalate link.parameters

/-- The parameter names a topic of any kind. -/
def IsTopic (parameter : String) : Prop :=
  ∃ value, parameter = "xt=" ++ value

/-- The parameter that names the hash of a torrent. -/
def hashTopic (hash : String) : String :=
  "xt=urn:btih:" ++ hash

theorem hashTopic_eq (hash : String) : hashTopic hash = "xt=" ++ ("urn:btih:" ++ hash) := by
  rw [hashTopic, ← String.append_assoc]
  rfl

theorem isTopic_hashTopic (hash : String) : IsTopic (hashTopic hash) :=
  ⟨_, hashTopic_eq hash⟩

/-! ### Reading parameters -/

/-- The reader takes the parameter for a topic. -/
def isTopicOf (parameter : String) : Bool :=
  (Text.splitFirst? '=' parameter.toList).any (·.1 == "xt".toList)

/-- A topic is cut behind its key. -/
theorem splitFirst?_topic (value : String) :
    Text.splitFirst? '=' ("xt=" ++ value).toList = some ("xt".toList, value.toList) := by
  rw [Text.splitFirst?_eq_some_iff]
  exact ⟨by simp, by decide⟩

/-- **What is taken for a topic is one.** -/
theorem isTopicOf_iff {parameter : String} : isTopicOf parameter = true ↔ IsTopic parameter := by
  rw [isTopicOf, Option.any_eq_true]
  constructor
  · rintro ⟨⟨key, value⟩, hsplit, hkey⟩
    obtain ⟨htext, -⟩ := Text.splitFirst?_eq_some_iff.mp hsplit
    refine ⟨String.ofList value, String.toList_inj.mp ?_⟩
    have hkey : key = "xt".toList := eq_of_beq hkey
    rw [htext, hkey]
    simp
  · rintro ⟨value, rfl⟩
    exact ⟨_, splitFirst?_topic value, beq_self_eq_true _⟩

/-- The hash in the value of a topic. -/
theorem dropBeginning?_hash {value hash : String} :
    (Text.dropBeginning? "urn:btih:" value.toList).map String.ofList = some hash ↔
      value = "urn:btih:" ++ hash := by
  rw [Option.map_eq_some_iff]
  constructor
  · rintro ⟨rest, hrest, rfl⟩
    refine String.toList_inj.mp ?_
    rw [Text.dropBeginning?_eq_some_iff.mp hrest]
    simp
  · rintro rfl
    exact ⟨hash.toList, Text.dropBeginning?_eq_some_iff.mpr (by simp), String.ofList_toList⟩

/-! ### Reading links -/

/-- A link is read parameter by parameter. -/
theorem pieces_text (link : MagnetLink) (hne : link.parameters ≠ []) :
    Text.pieces '&' ("&".intercalate link.parameters).toList =
      link.parameters.map String.toList := by
  have hplain : ∀ part ∈ link.parameters.map String.toList, '&' ∉ part :=
    List.forall_mem_map.mpr link.apart
  rw [String.toList_intercalate]
  exact Text.pieces_intercalate hplain (by simpa using hne)

/-- Only the first topic is looked at. -/
theorem magnetHash?_eq (link : MagnetLink) : magnetHash? link.text =
    (link.parameters.find? isTopicOf).bind fun topic =>
      (Text.splitFirst? '=' topic.toList).bind fun pair =>
        (Text.dropBeginning? "urn:btih:" pair.2).map String.ofList := by
  have hquery : Text.dropBeginning? "magnet:?" link.text.toList =
      some ("&".intercalate link.parameters).toList :=
    Text.dropBeginning?_eq_some_iff.mpr (by simp [text])
  have hpairs : (Text.pieces '&' ("&".intercalate link.parameters).toList).filterMap
      (Text.splitFirst? '=') = link.parameters.filterMap fun p =>
        Text.splitFirst? '=' p.toList := by
    by_cases hne : link.parameters = []
    · rw [hne]
      rfl
    · rw [pieces_text link hne, List.filterMap_map]
      rfl
  have hread : magnetHash? link.text =
      ((link.parameters.filterMap fun p => Text.splitFirst? '=' p.toList).find?
        (·.1 == "xt".toList)).bind fun pair =>
          (Text.dropBeginning? "urn:btih:" pair.2).map String.ofList := by
    rw [← hpairs, magnetHash?, hquery]
    simp only [Option.bind_eq_bind, Option.bind_some, Option.map_eq_bind, Option.pure_def]
    rfl
  rw [hread, List.find?_filterMap, Option.bind_assoc]
  rfl

/-- **A link is known by its first topic, if that is a hash.** -/
theorem magnetHash?_text {link : MagnetLink} {hash : String} :
    magnetHash? link.text = some hash ↔ ∃ front back,
      link.parameters = front ++ hashTopic hash :: back ∧ ∀ p ∈ front, ¬ IsTopic p := by
  rw [magnetHash?_eq, Option.bind_eq_some_iff]
  have hnone : ∀ {front : List String}, (∀ p ∈ front, (!isTopicOf p) = true) ↔
      ∀ p ∈ front, ¬ IsTopic p := by
    intro front
    simp [← isTopicOf_iff]
  constructor
  · rintro ⟨topic, hfind, hread⟩
    obtain ⟨htopic, front, back, hparameters, hfront⟩ := List.find?_eq_some_iff_append.mp hfind
    obtain ⟨value, rfl⟩ := isTopicOf_iff.mp htopic
    rw [splitFirst?_topic, Option.bind_some, dropBeginning?_hash] at hread
    rw [hread, ← hashTopic_eq] at hparameters
    exact ⟨front, back, hparameters, hnone.mp hfront⟩
  · rintro ⟨front, back, hparameters, hfront⟩
    refine ⟨hashTopic hash, ?_, ?_⟩
    · exact List.find?_eq_some_iff_append.mpr ⟨isTopicOf_iff.mpr (isTopic_hashTopic hash), front,
        back, hparameters, hnone.mpr hfront⟩
    · rw [hashTopic_eq, splitFirst?_topic, Option.bind_some, dropBeginning?_hash]

/-- The first hash of a link is what it is known by, unless a topic of another kind stands ahead
of it: then it is known by nothing. -/
theorem magnetHash?_of_first {link : MagnetLink} {front back : List String} {hash : String}
    (hparameters : link.parameters = front ++ hashTopic hash :: back)
    (hfirst : ∀ p ∈ front, ∀ other, p ≠ hashTopic other) :
    (magnetHash? link.text = some hash ∧ ∀ p ∈ front, ¬ IsTopic p) ∨
      (magnetHash? link.text = none ∧ ∃ p ∈ front, IsTopic p) := by
  by_cases hfront : ∀ p ∈ front, ¬ IsTopic p
  · exact Or.inl ⟨magnetHash?_text.mpr ⟨front, back, hparameters, hfront⟩, hfront⟩
  · refine Or.inr ⟨Option.eq_none_iff_forall_ne_some.mpr ?_, by simpa using hfront⟩
    intro other hother
    obtain ⟨front', back', hparameters', hfront'⟩ := magnetHash?_text.mp hother
    rw [hparameters, List.append_eq_append_iff] at hparameters'
    -- the topic that is looked at stands behind the first hash, ahead of it, or is that hash
    rcases hparameters' with ⟨between, rfl, hrest⟩ | ⟨between, rfl, hrest⟩
    · refine hfront fun p hp => hfront' p (List.mem_append_left _ hp)
    · cases between with
      | nil => exact hfront fun p hp => hfront' p (by simpa using hp)
      | cons p between =>
        obtain ⟨rfl, -⟩ := List.cons.inj hrest
        exact hfirst _ (by simp) other rfl

end MagnetLink

/-! ### Adding torrents -/

namespace Qbittorrent

open MagnetLink

variable {σ : Type} {config : Qbittorrent} {transport : Transport σ} {s : σ} {release : Release}
  {hash : String}

/-- A torrent is sent to the client. -/
def send (config : Qbittorrent) (transport : Transport σ) (release : Release) :
    ClientCall σ String :=
  config.call transport "/api/v2/torrents/add" []
    (some (("urls", release.downloadUrl) :: config.categoryField))

/-- The client takes a torrent that it is sent. -/
def Accepts (config : Qbittorrent) (transport : Transport σ) (release : Release) (s : σ) : Prop :=
  ∃ body, (config.send transport release s).1 = .ok body ∧ Text.trim body ≠ "Fails."

/-- Sending a torrent fails for many reasons, but not for want of a hash. -/
theorem spares_send (config : Qbittorrent) (transport : Transport σ) (release : Release)
    (title : String) :
    ClientCall.Spares (.missingInfoHash title) (config.send transport release) := by
  have hfetch : ∀ request, ClientCall.Spares (.missingInfoHash title)
      (ClientCall.fetch transport request) :=
    fun request => ClientCall.spares_fetch transport request (by simp) (by simp)
  have haddress : ∀ text, ClientCall.Spares (.missingInfoHash title)
      (ClientCall.done (checkAddress text) : ClientCall σ String) := by
    intro text
    refine ClientCall.spares_done ?_
    rw [checkAddress]
    split <;> exact nofun
  have hlogin : ClientCall.Spares (.missingInfoHash title) (config.login transport) := by
    rw [login]
    split
    · refine (haddress _).andThen fun url => (hfetch _).andThen fun body => ?_
      refine ClientCall.spares_done ?_
      split <;> exact nofun
    · exact ClientCall.spares_done nofun
  exact hlogin.andThen fun _ => (haddress _).andThen fun url => hfetch _

theorem add_eq (config : Qbittorrent) (transport : Transport σ) (release : Release) :
    config.add transport release = ClientCall.andThen (.done (hashOf release)) fun hash =>
      ClientCall.andThen (config.send transport release) fun body =>
        .done (if Text.trim body == "Fails." then .error (.rejected release.title)
          else .ok (Text.lowercase hash)) :=
  rfl

/-- A release that nothing identifies is not added. -/
theorem add_of_none (hlink : magnetHash? release.downloadUrl = none)
    (hown : release.infoHash = none) (transport : Transport σ) (s : σ) :
    (config.add transport release s).1 = .error (.missingInfoHash release.title) := by
  have hhash : hashOf release = .error (.missingInfoHash release.title) := by
    rw [hashOf, hlink, hown]
    rfl
  rw [add_eq, ClientCall.andThen, ClientCall.done, hhash]

/-- A release that is identified is never said not to be. -/
theorem spares_add (h : hashOf release = .ok hash) (transport : Transport σ) (title : String) :
    ClientCall.Spares (.missingInfoHash title) (config.add transport release) := by
  rw [add_eq]
  refine ClientCall.Spares.andThen (ClientCall.spares_done ?_) fun hash =>
    (spares_send config transport release title).andThen fun body => ClientCall.spares_done ?_
  · rw [h]
    exact nofun
  · split <;> exact nofun

/-- **What the client takes is known by its hash in lower case.** -/
theorem add_of_accepts (h : hashOf release = .ok hash)
    (haccepts : Accepts config transport release s) :
    (config.add transport release s).1 = .ok (Text.lowercase hash) := by
  obtain ⟨body, hsend, hbody⟩ := haccepts
  rw [add_eq, ClientCall.andThen, ClientCall.done, h]
  show (ClientCall.andThen (config.send transport release) _ s).1 = _
  rw [ClientCall.andThen]
  rcases hanswer : config.send transport release s with ⟨_ | answer, s'⟩
  · rw [hanswer] at hsend
    cases hsend
  · rw [hanswer] at hsend
    obtain rfl : answer = body := Except.ok.inj hsend
    simp [ClientCall.done, hbody]

theorem hashOf_eq_ok_iff : hashOf release = .ok hash ↔
    (magnetHash? release.downloadUrl <|> release.infoHash) = some hash := by
  rw [hashOf]
  cases magnetHash? release.downloadUrl <|> release.infoHash <;> simp

/-- **A torrent is tracked by the first hash of its magnet link**, wherever it stands, exactly if no
topic of another kind stands ahead of it.  Behind such a topic the hash is overlooked: a release
without a hash of its own is not added, and one that has one is known by that. -/
theorem tracks_magnet_iff (config : Qbittorrent) (transport : Transport σ) (s : σ)
    {release : Release} {link : MagnetLink} {front back : List String} {hash : String}
    (hurl : release.downloadUrl = link.text)
    (hparameters : link.parameters = front ++ hashTopic hash :: back)
    (hfirst : ∀ p ∈ front, ∀ other, p ≠ hashTopic other) :
    ((∀ title, (config.add transport release s).1 ≠ .error (.missingInfoHash title)) ↔
      (∀ p ∈ front, ¬ IsTopic p) ∨ release.infoHash ≠ none) ∧
    (Accepts config transport release s →
      ((config.add transport release s).1 = .ok (Text.lowercase hash) ↔
        (∀ p ∈ front, ¬ IsTopic p) ∨
          release.infoHash.map Text.lowercase = some (Text.lowercase hash))) := by
  rcases magnetHash?_of_first hparameters hfirst with ⟨hlink, hfront⟩ | ⟨hlink, p, hp, htopic⟩
  · -- the hash of the link is found
    have hhash : hashOf release = .ok hash := by
      rw [hashOf_eq_ok_iff, hurl, hlink]
      rfl
    exact ⟨iff_of_true (fun title => spares_add hhash transport title s) (Or.inl hfront),
      fun haccepts => iff_of_true (add_of_accepts hhash haccepts) (Or.inl hfront)⟩
  · -- it is overlooked, so that the release has to bring its own
    have hahead : ¬ ∀ p ∈ front, ¬ IsTopic p := fun h => h p hp htopic
    rw [← hurl] at hlink
    cases hown : release.infoHash with
    | none =>
      have hadd : (config.add transport release s).1 = .error (.missingInfoHash release.title) :=
        add_of_none hlink hown transport s
      refine ⟨iff_of_false (fun h => h _ hadd) (by simpa using hahead), fun _ => ?_⟩
      rw [hadd]
      exact iff_of_false nofun (by simpa using hahead)
    | some own =>
      have hhash : hashOf release = .ok own := by
        rw [hashOf_eq_ok_iff, hlink, hown]
        rfl
      refine ⟨iff_of_true (fun title => spares_add hhash transport title s) (by simp),
        fun haccepts => ?_⟩
      rw [add_of_accepts hhash haccepts]
      simp [hahead]

/-- A client at an address. -/
def seedbox : Qbittorrent where
  name := "qbit"
  base := "http://[::1]:8080"
  username := none
  password := none
  category := some "movies"

/-- The server there takes everything. -/
def accepting : Transport Unit := fun _ s => (.ok ⟨200, "Ok."⟩, s)

/-- A release that is fetched by a magnet link and has no hash of its own. -/
def linkedRelease (link : MagnetLink) : Release :=
  { (default : Release) with title := "Movie.2020", downloadUrl := link.text }

/-- A link with the hash of the first generation between its name and the one of the second. -/
def hybridLink : MagnetLink where
  parameters := ["dn=Movie", "xt=urn:btih:ABCDEF", "xt=urn:btmh:1220CAFE"]
  apart := by decide

/-- Where the hash comes first, the torrent is known by it. -/
theorem hybridLink_tracked :
    (linkedRelease hybridLink).downloadUrl = hybridLink.text ∧
      hybridLink.parameters = ["dn=Movie"] ++ hashTopic "ABCDEF" :: ["xt=urn:btmh:1220CAFE"] ∧
      (∀ p ∈ ["dn=Movie"], ∀ other, p ≠ hashTopic other) ∧
      Accepts seedbox accepting (linkedRelease hybridLink) () ∧
      (seedbox.add accepting (linkedRelease hybridLink) ()).1 = .ok "abcdef" := by
  have hparameters :
      hybridLink.parameters = ["dn=Movie"] ++ hashTopic "ABCDEF" :: ["xt=urn:btmh:1220CAFE"] := by
    decide
  have hplain : ∀ p ∈ ["dn=Movie"], ¬ IsTopic p := by
    simp only [List.mem_singleton, forall_eq, ← isTopicOf_iff]
    decide
  have hfirst : ∀ p ∈ ["dn=Movie"], ∀ other, p ≠ hashTopic other := by
    rintro p hp other rfl
    exact hplain _ hp (isTopic_hashTopic other)
  have haccepts : Accepts seedbox accepting (linkedRelease hybridLink) () := by
    have hsend :
        (seedbox.send accepting (linkedRelease hybridLink) ()).1.toOption = some "Ok." := by
      decide +kernel
    cases hanswer : (seedbox.send accepting (linkedRelease hybridLink) ()).1 with
    | ok body =>
      rw [hanswer] at hsend
      obtain rfl : body = "Ok." := Option.some.inj hsend
      exact ⟨_, hanswer, by decide⟩
    | error error =>
      rw [hanswer] at hsend
      exact absurd hsend nofun
  have hlower : Text.lowercase "ABCDEF" = "abcdef" := by decide +kernel
  refine ⟨rfl, hparameters, hfirst, haccepts, ?_⟩
  rw [← hlower]
  exact ((tracks_magnet_iff seedbox accepting () rfl hparameters hfirst).2 haccepts).mpr
    (Or.inl hplain)

/-- A link that names the second generation first. -/
def reversedLink : MagnetLink where
  parameters := ["xt=urn:btmh:1220CAFE", "xt=urn:btih:ABCDEF"]
  apart := by decide

/-- Where the hash comes behind another topic, the torrent is not added. -/
theorem not_tracks_reversedLink :
    reversedLink.parameters = ["xt=urn:btmh:1220CAFE"] ++ hashTopic "ABCDEF" :: [] ∧
      (seedbox.add accepting (linkedRelease reversedLink) ()).1 =
        .error (.missingInfoHash "Movie.2020") := by
  refine ⟨by decide, add_of_none ?_ rfl accepting ()⟩
  decide

end Qbittorrent

end Acquisition
