import BlockApp.Proofs.Disk.Files
import BlockApp.Proofs.Store.Listing

/-!
# A store over time

A store is asked one thing after the other: to store bytes or texts, to give them back, to erase them, to
list its keys. What it answers depends on what was asked before, but only through what was last done at each
location: so a store is a map from locations to contents, although what it keeps are folders and files.

* `Store.run` — the disk and the answers after some requests
* `Store.latest` — what should be at a location, read off the requests and answers alone
* `Store.Holds` — the files below the folder are those that should be there; `Store.Holds.perform` says that
  each request keeps it so, `Store.Holds.run` that all together do
* `Store.answersAs_of_run` — the answers after any requests
-/

namespace BlockApp

namespace Store

variable {store : Store} {disk disk' : Disk} {key start : String} {content : Bytes}
  {location place : Location}

/-! ## Requests and answers -/

/-- What a store can be asked. -/
inductive Request where
  | put (key : String) (content : Bytes)
  | putText (key text : String)
  | get (key : String)
  | contains (key : String)
  | erase (key : String)
  | keys (start : String)
  deriving Repr, DecidableEq

/-- The key that a request is about. -/
def Request.key? : Request → Option String
  | .put key _ | .putText key _ | .get key | .contains key | .erase key => some key
  | .keys _ => none

/-- What a store answers. -/
inductive Reply where
  | stored
  | content (found : Bytes)
  | told (answer : Bool)
  | listed (keys : List String)
  deriving Repr, DecidableEq

/-- What a store does when it is asked something, and what it answers. -/
def perform (store : Store) (disk : Disk) : Request → Disk × Except Failure Reply
  | .put key content =>
    let (disk, result) := store.put disk key content
    (disk, result.map fun _ => .stored)
  | .putText key text =>
    let (disk, result) := store.putText disk key text
    (disk, result.map fun _ => .stored)
  | .get key => (disk, (store.get disk key).map .content)
  | .contains key => (disk, (store.contains disk key).map .told)
  | .erase key =>
    match store.erase disk key with
    | .ok (disk, told) => (disk, .ok (.told told))
    | .error failure => (disk, .error failure)
  | .keys start => (disk, .ok (.listed (store.keys disk start)))

/-- A request and what was answered to it. -/
structure Event where
  request : Request
  outcome : Except Failure Reply

/-- What a store does when it is asked one thing after the other, and what it answers. -/
def run (store : Store) : Disk → List Request → Disk × List Event
  | disk, [] => (disk, [])
  | disk, request :: requests =>
    let (disk, outcome) := store.perform disk request
    let (disk, events) := run store disk requests
    (disk, ⟨request, outcome⟩ :: events)

/-! ## What should be there -/

/-- Whether a key leads to a location. -/
def leadsTo (store : Store) (key : String) (location : Location) : Bool :=
  match store.locate key with
  | .ok place => place == location
  | .error _ => false

theorem leadsTo_iff : store.leadsTo key location = true ↔ store.locate key = .ok location := by
  unfold leadsTo
  split
  · next hlocate => simp [hlocate]
  · next hlocate => simp [hlocate]

/-- What an event leaves at a location: a content that was stored there, or nothing when what was there has
been erased. Most events do not touch it. -/
def Event.left? (store : Store) (location : Location) (event : Event) : Option (Option Bytes) :=
  match event.request, event.outcome with
  | .put key content, .ok _ => if store.leadsTo key location then some (some content) else none
  | .putText key text, .ok _ =>
    if store.leadsTo key location then some (some (Utf8.encode text.toList)) else none
  | .erase key, .ok (.told true) => if store.leadsTo key location then some none else none
  | _, _ => none

/-- What should be at a location after some events: what the last one to touch it has left. -/
def latest (store : Store) (history : List Event) (location : Location) : Option Bytes :=
  (history.filterMap (Event.left? store location)).getLastD none

theorem latest_concat (history : List Event) (event : Event) (location : Location) :
    store.latest (history ++ [event]) location =
      (event.left? store location).getD (store.latest history location) := by
  unfold latest
  rw [List.filterMap_append]
  cases hleft : event.left? store location with
  | none => simp [hleft]
  | some left => simp [hleft]

/-! ## What is there -/

/-- Whether the files where keys can lead to are those that should be there, and can be reached and
listed. -/
structure Holds (store : Store) (disk : Disk) (live : Location → Option Bytes) : Prop where
  files : ∀ location, store.base <+: location → ∀ content,
    disk.node? location = some (.file content) ↔ live location = some content
  reached : ∀ location, store.base <+: location → ∀ content,
    disk.node? location = some (.file content) → disk.locate (.ofLocation location) = .ok location
  plain : store.PlainBelow disk
  single : disk.Single store.Below

/-- Whether the folder of a store is empty, or not there. -/
structure IsEmpty (store : Store) (disk : Disk) : Prop where
  base : ∀ content, disk.node? store.base ≠ some (.file content)
  below : ∀ location, store.Below location → disk.node? location = none

theorem Below.ne_nil (h : store.Below location) : location ≠ [] := by
  obtain ⟨names, hnames, rfl⟩ := h
  simp [hnames]

/-- There is no file where a key of an empty store can lead to. -/
theorem IsEmpty.node?_ne (h : store.IsEmpty disk) (hbegins : store.base <+: location) :
    disk.node? location ≠ some (.file content) := by
  obtain ⟨names, rfl⟩ := hbegins
  by_cases hnames : names = []
  · rw [hnames, List.append_nil]
    exact h.base content
  · simp [h.below _ ⟨names, hnames, rfl⟩]

theorem IsEmpty.holds (h : store.IsEmpty disk) : store.Holds disk (store.latest []) where
  files location hbegins content := iff_of_false (h.node?_ne hbegins) (by simp [latest])
  reached location hbegins content hnode := absurd hnode (h.node?_ne hbegins)
  plain names content hnames hnode := absurd hnode (h.node?_ne (List.prefix_append _ _))
  single := Disk.single_of_node?_eq_none fun place hbelow => ⟨hbelow.ne_nil, h.below place hbelow⟩

variable {live live' : Location → Option Bytes}

/-- What has to be said of a step: no folder is lost, and a file that is new is at a place that a key and a
way lead to. -/
theorem Holds.of_step (h : store.Holds disk live) (hhere : disk'.here = disk.here)
    (hfolders : ∀ place, disk.node? place = some .folder → disk'.node? place = some .folder)
    (hsingle : disk'.Single store.Below)
    (hlive : ∀ place, store.base <+: place → ∀ content,
      disk'.node? place = some (.file content) ↔ live' place = some content)
    (hnew : ∀ place content, disk'.node? place = some (.file content) →
      disk.node? place = some (.file content) ∨
        disk'.locate (.ofLocation place) = .ok place ∧ ∃ key, store.locate key = .ok place) :
    store.Holds disk' live' where
  files := hlive
  reached location hbegins content hnode := by
    rcases hnew location content hnode with hold | ⟨hway, -⟩
    · exact Disk.locate_mono (h.reached location hbegins content hold) hhere hfolders
    · exact hway
  plain names content hnames hnode := by
    rcases hnew _ content hnode with hold | ⟨-, key, hlocate⟩
    · exact h.plain names content hnames hold
    · exact names_of_locate hlocate
  single := hsingle

/-! ## Storing -/

theorem here_makeFolders (disk : Disk) (path : Path) : (disk.makeFolders path).1.here = disk.here := by
  refine Disk.makeFolders_induct (fun made path disk' (hhere : made.here = disk.here) hmade => ?_) path rfl
  obtain ⟨place, -, -, rfl⟩ := Disk.makeFolder_eq_ok_iff.1 hmade
  exact hhere

/-- Folders that are made change nothing. -/
theorem Holds.makeFolders (h : store.Holds disk live) (path : Path) :
    store.Holds (disk.makeFolders path).1 live := by
  have hgrows := Disk.makeFolders_grows disk path
  refine h.of_step (here_makeFolders disk path) (fun place => hgrows.node?_folder)
    (h.single.makeFolders path) (fun place hbegins content => ?_) (fun place content hnode => ?_)
  · rw [hgrows.sameFiles place content]
    exact h.files place hbegins content
  · exact .inl ((hgrows.sameFiles place content).1 hnode)

theorem Holds.put_error {failure : Failure} (h : store.Holds disk live)
    (hput : store.put disk key content = (disk', .error failure)) : store.Holds disk' live := by
  rcases makeFolders_of_put_error hput with rfl | ⟨path, rfl⟩
  · exact h
  · exact h.makeFolders path

/-- Stored bytes take the place of what was at their location. -/
theorem Holds.put_ok (hbase : ".." ∉ store.base) (h : store.Holds disk live)
    (hput : store.put disk key content = (disk', .ok ())) :
    store.Holds disk' fun place => if store.leadsTo key place then some content else live place := by
  obtain ⟨location, made, hlocate, hfolders, hreplaced⟩ := put_eq_ok_iff.1 hput
  obtain ⟨hup, hnul⟩ := of_locate hbase hlocate
  obtain ⟨-, hfind⟩ := find_of_replaceFile hup hnul hfolders hreplaced
  obtain ⟨-, -, hfolder, rfl⟩ := replaceFile_eq_ok_iff.1 hreplaced
  have hway : (made.put location (.file content)).locate (.ofLocation location) = .ok location := by
    obtain ⟨⟨place, hplace⟩, -⟩ := (Disk.find_ofLocation_eq_ok_iff hup).1 hfind
    obtain ⟨-, -, rfl, -⟩ := (Disk.locate_ofLocation_eq_ok_iff hup).1 hplace
    exact hplace
  have hmade : store.Holds made live := by
    have hall := h.makeFolders (Path.ofLocation location).parent
    rwa [hfolders] at hall
  have hleads : ∀ place, store.leadsTo key place = true ↔ place = location := fun place => by
    rw [leadsTo_iff, hlocate, Except.ok.injEq, eq_comm]
  refine hmade.of_step rfl (fun place hplace => ?_) (hmade.single.put location _)
    (fun place hbegins found => ?_) (fun place found hnode => ?_)
  · rw [Disk.node?_put_file hfolder, if_neg, hplace]
    rintro rfl
    exact hfolder hplace
  · simp only [Disk.node?_put_file hfolder, hleads]
    split
    · simp
    · exact hmade.files place hbegins found
  · rw [Disk.node?_put_file hfolder] at hnode
    split at hnode
    · next hplace =>
      subst hplace
      exact .inr ⟨hway, key, hlocate⟩
    · exact .inl hnode

/-! ## Erasing -/

/-- The root is not found as a file. -/
theorem ne_nil_of_find_file (h : disk.find (.ofLocation location) = .ok (.file content)) :
    location ≠ [] := by
  rintro rfl
  obtain ⟨-, hnode⟩ := (Disk.find_ofLocation_eq_ok_iff (by simp)).1 h
  simp [Disk.node?_nil] at hnode

theorem look_eq_ok_iff {node? : Option Node} :
    store.look disk key = .ok node? ↔
      ∃ location, store.locate key = .ok location ∧ disk.look (.ofLocation location) = .ok node? := by
  simp only [look, Except.bind_eq_ok_iff, Except.mapError_eq_ok_iff]

/-- A file that is found is erased. -/
theorem erase_eq_ok_true_iff :
    store.erase disk key = .ok (disk', true) ↔
      ∃ location content, store.locate key = .ok location ∧
        disk.find (.ofLocation location) = .ok (.file content) ∧ disk' = disk.remove location := by
  simp only [erase, Except.bind_eq_ok_iff, look_eq_ok_iff]
  constructor
  · rintro ⟨node?, ⟨location, hlocate, hlook⟩, hresult⟩
    cases node? with
    | none => simp at hresult
    | some node =>
      cases node with
      | folder => simp at hresult
      | file content =>
        simp only [hlocate, Except.bind_eq_ok_iff, Except.ok.injEq, Except.pure_eq_ok_iff, Prod.mk.injEq,
          exists_eq_left', and_true] at hresult
        exact ⟨location, content, hlocate, Disk.look_eq_ok_some_iff.1 hlook, hresult.symm⟩
  · rintro ⟨location, content, hlocate, hfind, rfl⟩
    refine ⟨some (.file content), ⟨location, hlocate, Disk.look_eq_ok_some_iff.2 hfind⟩, ?_⟩
    simp [hlocate]

/-- Where nothing is erased, nothing changes. -/
theorem eq_of_erase_false (h : store.erase disk key = .ok (disk', false)) : disk' = disk := by
  simp only [erase, Except.bind_eq_ok_iff] at h
  obtain ⟨node?, -, hresult⟩ := h
  cases node? with
  | none =>
    rw [Except.pure_eq_ok_iff, Prod.mk.injEq] at hresult
    exact hresult.1.symm
  | some node =>
    cases node with
    | folder =>
      rw [Except.pure_eq_ok_iff, Prod.mk.injEq] at hresult
      exact hresult.1.symm
    | file content => simp at hresult

/-- A key leads to a file that is found exactly if one should be there. -/
theorem Holds.find_iff (h : store.Holds disk live) (hbase : ".." ∉ store.base)
    (hlocate : store.locate key = .ok location) :
    disk.find (.ofLocation location) = .ok (.file content) ↔ live location = some content := by
  obtain ⟨-, -, hbegins⟩ := locate_eq_ok_iff.1 hlocate
  rw [List.isPrefixOf_iff_prefix] at hbegins
  obtain ⟨hup, -⟩ := of_locate hbase hlocate
  rw [Disk.find_ofLocation_eq_ok_iff hup, ← h.files location hbegins content]
  constructor
  · rintro ⟨-, hnode⟩
    exact hnode
  · intro hnode
    exact ⟨⟨location, h.reached location hbegins content hnode⟩, hnode⟩

/-- What was at the location of a key that is erased is gone. -/
theorem Holds.erase_true (hbase : ".." ∉ store.base) (h : store.Holds disk live)
    (herase : store.erase disk key = .ok (disk', true)) :
    store.Holds disk' fun place => if store.leadsTo key place then none else live place := by
  obtain ⟨location, content, hlocate, hfind, rfl⟩ := erase_eq_ok_true_iff.1 herase
  obtain ⟨hup, -⟩ := of_locate hbase hlocate
  obtain ⟨-, hfile⟩ := (Disk.find_ofLocation_eq_ok_iff hup).1 hfind
  have hroot := ne_nil_of_find_file hfind
  have hleads : ∀ place, store.leadsTo key place = true ↔ place = location := fun place => by
    rw [leadsTo_iff, hlocate, Except.ok.injEq, eq_comm]
  refine h.of_step rfl (fun place hplace => ?_) (h.single.remove location)
    (fun place hbegins found => ?_) (fun place found hnode => ?_)
  · rw [Disk.node?_remove _ _ _ hroot, if_neg, hplace]
    rintro rfl
    simp [hfile] at hplace
  · simp only [Disk.node?_remove _ _ _ hroot, hleads]
    split
    · simp
    · exact h.files place hbegins found
  · rw [Disk.node?_remove _ _ _ hroot] at hnode
    split at hnode
    · simp at hnode
    · exact .inl hnode

/-! ## One request after the other -/

variable {history : List Event} {request : Request} {requests : List Request}

/-- An event that touches no location changes nothing of what should be there. -/
theorem latest_concat_of_left? {event : Event} (h : ∀ location, event.left? store location = none) :
    store.latest (history ++ [event]) = store.latest history := by
  funext location
  rw [latest_concat, h location, Option.getD_none]

/-- An event that leaves something at the location of a key changes what should be there, and nothing
else. -/
theorem latest_concat_of_key {event : Event} {left : Option Bytes}
    (h : ∀ location, event.left? store location = if store.leadsTo key location then some left else none) :
    store.latest (history ++ [event]) = fun location =>
      if store.leadsTo key location then left else store.latest history location := by
  funext location
  rw [latest_concat, h location]
  split <;> rfl

/-- **Each request keeps what is there and what should be there the same.** -/
theorem Holds.perform (hbase : ".." ∉ store.base) (h : store.Holds disk (store.latest history))
    (request : Request) :
    store.Holds (store.perform disk request).1
      (store.latest (history ++ [⟨request, (store.perform disk request).2⟩])) := by
  cases request with
  | put key content =>
    simp only [Store.perform]
    rcases hput : store.put disk key content with ⟨disk', failure | ⟨⟨⟩⟩⟩
    · rw [latest_concat_of_left? fun location => rfl]
      exact h.put_error hput
    · rw [latest_concat_of_key fun location => rfl]
      exact h.put_ok hbase hput
  | putText key text =>
    simp only [Store.perform]
    rcases hput : store.putText disk key text with ⟨disk', failure | ⟨⟨⟩⟩⟩
    · rw [latest_concat_of_left? fun location => rfl]
      exact h.put_error hput
    · rw [latest_concat_of_key fun location => rfl]
      exact h.put_ok hbase hput
  | get key =>
    rw [latest_concat_of_left? fun location => rfl]
    exact h
  | contains key =>
    rw [latest_concat_of_left? fun location => rfl]
    exact h
  | keys start =>
    rw [latest_concat_of_left? fun location => rfl]
    exact h
  | erase key =>
    simp only [Store.perform]
    cases herase : store.erase disk key with
    | error failure =>
      rw [latest_concat_of_left? fun location => rfl]
      exact h
    | ok erased =>
      obtain ⟨disk', told⟩ := erased
      cases told with
      | true =>
        rw [latest_concat_of_key fun location => rfl]
        exact h.erase_true hbase herase
      | false =>
        rw [latest_concat_of_left? fun location => rfl, eq_of_erase_false herase]
        exact h

/-- **All requests together keep what is there and what should be there the same.** -/
theorem Holds.run (hbase : ".." ∉ store.base) (h : store.Holds disk (store.latest history))
    (requests : List Request) :
    store.Holds (store.run disk requests).1 (store.latest (history ++ (store.run disk requests).2)) := by
  induction requests generalizing disk history with
  | nil =>
    rw [Store.run, List.append_nil]
    exact h
  | cons request requests ih =>
    have hrest := ih (h.perform hbase request)
    rwa [List.append_assoc] at hrest

/-! ## What is answered -/

/-- Whether a store answers as a map from locations to contents would: `live` says what is at a location. -/
structure AnswersAs (store : Store) (disk : Disk) (live : Location → Option Bytes) : Prop where
  /-- What is got under a key is the content at its location. -/
  get : ∀ key content, store.get disk key = .ok content ↔
    ∃ location, store.locate key = .ok location ∧ live location = some content
  /-- There is something at a key that leads to a content. -/
  contains : ∀ key location content, store.locate key = .ok location → live location = some content →
    store.contains disk key = .ok true
  /-- A key is erased exactly if it leads to a content. -/
  erase : ∀ key, (∃ disk', store.erase disk key = .ok (disk', true)) ↔
    ∃ location content, store.locate key = .ok location ∧ live location = some content
  /-- Then its location is empty, and all others are as they were. -/
  erased : ∀ key disk', store.erase disk key = .ok (disk', true) → ∃ location,
    store.locate key = .ok location ∧
      ∀ place, disk'.node? place = if place = location then none else disk.node? place
  /-- When nothing is erased, all is as it was. -/
  kept : ∀ key disk', store.erase disk key = .ok (disk', false) → disk' = disk
  /-- Keys are listed in their order, each once. -/
  ordered : ∀ start, (store.keys disk start).Pairwise (· < ·)
  /-- The keys that are listed are the ways from the folder of the store to contents, but for names of files
  that are being written. -/
  listed : ∀ start key, key ∈ store.keys disk start ↔ ∃ names content, names ≠ [] ∧
    live (store.base ++ names) = some content ∧ isTemporary names = false ∧
    key = "/".intercalate names ∧ start.toList <+: key.toList
  /-- A request that fails changes no file. -/
  refused : ∀ request disk' failure, store.perform disk request = (disk', .error failure) →
    disk.SameFiles disk'

/-- A request that fails changes no file. -/
theorem sameFiles_of_perform_error {failure : Failure}
    (h : store.perform disk request = (disk', .error failure)) : disk.SameFiles disk' := by
  cases request with
  | put key content =>
    simp only [perform] at h
    rcases hput : store.put disk key content with ⟨stored, fault | ⟨⟨⟩⟩⟩ <;> rw [hput] at h
    · obtain ⟨rfl, -⟩ := Prod.mk.inj h
      exact sameFiles_of_put_error hput
    · simp [Except.map] at h
  | putText key text =>
    simp only [perform] at h
    rcases hput : store.putText disk key text with ⟨stored, fault | ⟨⟨⟩⟩⟩ <;> rw [hput] at h
    · obtain ⟨rfl, -⟩ := Prod.mk.inj h
      exact sameFiles_of_put_error hput
    · simp [Except.map] at h
  | get key | contains key | keys start =>
    obtain ⟨rfl, -⟩ := Prod.mk.inj h
    exact .refl _
  | erase key =>
    simp only [perform] at h
    split at h
    · simp at h
    · obtain ⟨rfl, -⟩ := Prod.mk.inj h
      exact .refl _

theorem Holds.answersAs (hbase : ".." ∉ store.base) (h : store.Holds disk live) :
    store.AnswersAs disk live where
  get key content := by
    rw [get_eq_ok_iff]
    exact exists_congr fun location => and_congr_right fun hlocate => h.find_iff hbase hlocate
  contains key location content hlocate hlive := by
    have hfind := (h.find_iff hbase hlocate).2 hlive
    have hlook : store.look disk key = .ok (some (.file content)) :=
      look_eq_ok_iff.2 ⟨location, hlocate, Disk.look_eq_ok_some_iff.2 hfind⟩
    rw [Store.contains, hlook]
    rfl
  erase key := by
    simp only [erase_eq_ok_true_iff]
    constructor
    · rintro ⟨disk', location, content, hlocate, hfind, -⟩
      exact ⟨location, content, hlocate, (h.find_iff hbase hlocate).1 hfind⟩
    · rintro ⟨location, content, hlocate, hlive⟩
      exact ⟨_, location, content, hlocate, (h.find_iff hbase hlocate).2 hlive, rfl⟩
  erased key disk' herase := by
    obtain ⟨location, content, hlocate, hfind, rfl⟩ := erase_eq_ok_true_iff.1 herase
    exact ⟨location, hlocate, fun place => Disk.node?_remove _ _ _ (ne_nil_of_find_file hfind)⟩
  kept key disk' := eq_of_erase_false
  ordered start := pairwise_keys h.single h.plain
  listed start key := by
    simp only [mem_keys_iff h.single, h.files _ (List.prefix_append _ _)]
  refused request disk' failure := sameFiles_of_perform_error

/-- **A store whose folder is empty at first answers as a map from locations to contents, whatever it is
asked**: after any requests, and so after each of them, at a location is what was last stored there under
any key that leads to it, if it was not erased since. -/
theorem answersAs_of_run (hbase : ".." ∉ store.base) (hempty : store.IsEmpty disk)
    (requests : List Request) :
    store.AnswersAs (store.run disk requests).1 (store.latest (store.run disk requests).2) :=
  (hempty.holds.run hbase requests).answersAs hbase

/-- A file is stored under one key, replaced under another that leads to it, and erased under a third; a
second file stays, and a key that leads out of the folder is refused. -/
theorem answersAs_of_run_aliases :
    let store : Store := ⟨["out"]⟩
    let ended := store.run ⟨[(["out"], .folder)], []⟩ [.put "a/b" [1], .putText "/a//./b" "x",
      .put "../d" [3], .put "a/c" [4], .erase "a/../a/b"]
    store.latest ended.2 ["out", "a", "b"] = none ∧ store.latest ended.2 ["out", "a", "c"] = some [4] ∧
      store.AnswersAs ended.1 (store.latest ended.2) := by
  refine ⟨by decide +kernel, by decide +kernel, answersAs_of_run (by decide) ⟨?_, ?_⟩ _⟩
  · simp [Disk.node?]
  · rintro _ ⟨names, hnames, rfl⟩
    simp [Disk.node?, hnames]

end Store

end BlockApp
