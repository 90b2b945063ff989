import BlockApp.Proofs.Disk.Walk
import BlockApp.Store.Basic

/-!
# What is stored

Storing bytes under a key changes the file at the location of the key, and no other. Folders above it may
be new. So of texts that are stored one after the other each is there in the end, if their keys lead to
different locations.

* `Store.Stores` — the difference between a disk and one with a file stored
* `Store.stores_of_put` — storing bytes makes that difference, and the bytes can be got
* `Store.get_of_mem_putTexts`, `Store.others_of_putTexts` — storing texts one after the other
-/

namespace BlockApp

/-! ## Locations of keys -/

namespace Path

theorem resolveNames_append (folder : Location) (names more : List String) :
    resolveNames folder (names ++ more) = resolveNames (resolveNames folder names) more := by
  induction names generalizing folder with
  | nil => rfl
  | cons name names ih => rw [List.cons_append, resolveNames, ih, resolveNames]

theorem resolveNames_concat (folder : Location) (names : List String) {name : String}
    (h : name ≠ "..") : resolveNames folder (names ++ [name]) = resolveNames folder names ++ [name] := by
  rw [resolveNames_append, resolveNames, resolveNames, if_neg h]

/-- A location that is reached has no names but those of the folder and of the way, and no `..` that is
not in the folder. -/
theorem mem_of_mem_resolveNames {folder : Location} {names : List String} {name : String}
    (h : name ∈ resolveNames folder names) : name ∈ folder ∨ name ∈ names ∧ name ≠ ".." := by
  induction names generalizing folder with
  | nil => exact .inl h
  | cons first names ih =>
    rw [resolveNames] at h
    rcases ih h with hfolder | ⟨hnames, hup⟩
    · split at hfolder
      · exact .inl (List.dropLast_subset _ hfolder)
      · next hfirst =>
        rcases List.mem_append.1 hfolder with hfolder | hname
        · exact .inl hfolder
        · obtain rfl := List.mem_singleton.1 hname
          exact .inr ⟨List.mem_cons_self, hfirst⟩
    · exact .inr ⟨List.mem_cons_of_mem _ hnames, hup⟩

end Path

namespace Store

variable {store : Store} {disk disk' disk'' : Disk} {key : String} {content : Bytes}
  {location : Location}

/-- The store in the folder at a path is at a location without `..`. -/
theorem up_notMem_base_of_ofPath {path : Path} (hhere : ".." ∉ disk.here)
    (h : ofPath disk path = .ok store) : ".." ∉ store.base := by
  unfold ofPath at h
  split at h
  · simp at h
  · cases h
    intro hup
    rcases Path.mem_of_mem_resolveNames hup with hfolder | ⟨-, hne⟩
    · split at hfolder
      · exact hhere hfolder
      · simp at hfolder
    · exact hne rfl

theorem locate_eq_ok_iff :
    store.locate key = .ok location ↔
      (⟨.root, store.base ++ keyNames key⟩ : Path).hasNul = false ∧
        location = Path.resolveNames store.base (keyNames key) ∧
        store.base.isPrefixOf location = true := by
  simp only [locate]
  split
  · next hnul => simp [hnul]
  · next hnul =>
    rw [Bool.not_eq_true] at hnul
    simp only [hnul, true_and]
    split
    · next hbegins =>
      simp only [Except.ok.injEq]
      constructor
      · rintro rfl
        exact ⟨rfl, hbegins⟩
      · rintro ⟨rfl, -⟩
        rfl
    · next hbegins =>
      refine iff_of_false (by simp) ?_
      rintro ⟨rfl, hbase⟩
      exact hbegins hbase

/-- The location of a key is a way that can be walked. -/
theorem of_locate (hbase : ".." ∉ store.base) (h : store.locate key = .ok location) :
    ".." ∉ location ∧ (Path.ofLocation location).hasNul = false := by
  obtain ⟨hnul, rfl, -⟩ := locate_eq_ok_iff.1 h
  refine ⟨fun hup => ?_, ?_⟩
  · rcases Path.mem_of_mem_resolveNames hup with hfolder | ⟨-, hne⟩
    · exact hbase hfolder
    · exact hne rfl
  · rw [Path.hasNul, List.any_eq_false] at hnul ⊢
    intro name hname
    refine hnul name (List.mem_append.2 ?_)
    rcases Path.mem_of_mem_resolveNames hname with hfolder | ⟨hnames, -⟩
    · exact .inl hfolder
    · exact .inr hnames

/-- The bytes that can be got are those of the file at the location of the key. -/
theorem get_eq_ok_iff :
    store.get disk key = .ok content ↔
      ∃ location, store.locate key = .ok location ∧
        disk.find (.ofLocation location) = .ok (.file content) := by
  simp only [get, look, Except.bind_eq_ok_iff]
  constructor
  · rintro ⟨node?, ⟨location, hlocate, hlook⟩, hcontent⟩
    rw [Except.mapError_eq_ok_iff] at hlook
    refine ⟨location, hlocate, ?_⟩
    cases node? with
    | none => simp at hcontent
    | some node =>
      cases node with
      | folder => simp [hlocate, bind, Except.bind, throw, throwThe, MonadExceptOf.throw] at hcontent
      | file found =>
        rw [Except.pure_eq_ok_iff] at hcontent
        rw [← hcontent]
        exact Disk.look_eq_ok_some_iff.1 hlook
  · rintro ⟨location, hlocate, hfind⟩
    refine ⟨some (.file content), ⟨location, hlocate, ?_⟩, rfl⟩
    rw [Except.mapError_eq_ok_iff]
    exact Disk.look_eq_ok_some_iff.2 hfind

/-! ## One file -/

/-- The difference between a disk and one with a file stored: the file is there, in the place of nothing
or of another file, and all else that is new are folders. -/
structure Stores (disk disk' : Disk) (location : Location) (content : Bytes) : Prop where
  stored : disk'.node? location = some (.file content)
  noFolder : disk.node? location ≠ some .folder
  others : ∀ place, place ≠ location → disk'.node? place = disk.node? place ∨
    disk.node? place = none ∧ disk'.node? place = some .folder

theorem Stores.folder (h : Stores disk disk' location content) {place : Location}
    (hplace : disk.node? place = some .folder) : disk'.node? place = some .folder := by
  have hne : place ≠ location := by
    rintro rfl
    exact h.noFolder hplace
  rcases h.others place hne with hsame | ⟨-, hfolder⟩
  · rw [hsame, hplace]
  · exact hfolder

/-- Folders may be made before a file is stored. -/
theorem Stores.of_grows (h : Stores disk' disk'' location content) (hgrows : disk.Grows disk') :
    Stores disk disk'' location content := by
  refine ⟨h.stored, fun hold => h.noFolder (hgrows.node?_folder hold), fun place hplace => ?_⟩
  rcases hgrows place with hsame | ⟨hnone, hfolder⟩
  · rw [← hsame]
    exact h.others place hplace
  · exact .inr ⟨hnone, h.folder hfolder⟩

theorem replaceFile_eq_ok_iff :
    replaceFile disk location content = .ok disk' ↔
      (location.getLastD "").utf8ByteSize + temporaryExtra ≤ Disk.nameBound ∧
        (Path.ofLocation location).shown.utf8ByteSize + temporaryExtra ≤ Disk.pathBound ∧
        disk.node? location ≠ some .folder ∧ disk' = disk.put location (.file content) := by
  simp only [replaceFile]
  split
  · next hlong =>
    refine iff_of_false (by simp) ?_
    rintro ⟨hname, hpath, -⟩
    omega
  · next hshort =>
    obtain ⟨hname, hpath⟩ := not_or.1 hshort
    simp only [Nat.le_of_not_lt hname, Nat.le_of_not_lt hpath, true_and]
    cases hnode : disk.node? location with
    | none => simp [eq_comm]
    | some node => cases node <;> simp [eq_comm]

/-- Where the folder of a location is made and a file put, the way leads to that file. -/
theorem find_of_replaceFile {middle : Disk} (hup : ".." ∉ location)
    (hnul : (Path.ofLocation location).hasNul = false)
    (hfolders : disk.makeFolders (Path.ofLocation location).parent = (middle, .ok ()))
    (hmade : replaceFile middle location content = .ok disk') :
    Stores middle disk' location content ∧ disk'.find (.ofLocation location) = .ok (.file content) := by
  obtain ⟨hname, hpath, hfolder, rfl⟩ := replaceFile_eq_ok_iff.1 hmade
  have hroot : location ≠ [] := by
    rintro rfl
    exact hfolder middle.node?_nil
  have hput : ∀ place, (middle.put location (.file content)).node? place =
      if place = location then some (.file content) else middle.node? place :=
    fun place => Disk.node?_put middle location place (.file content) hroot
  have hstores : Stores middle (middle.put location (.file content)) location content :=
    ⟨by rw [hput, if_pos rfl], hfolder, fun place hplace => .inl (by rw [hput, if_neg hplace])⟩
  refine ⟨hstores, (Disk.find_ofLocation_eq_ok_iff hup).2 ⟨⟨location, ?_⟩, hstores.stored⟩⟩
  -- the way leads to the folder that was made, and from there to the file
  obtain ⟨parent, name, rfl⟩ : ∃ parent name, location = parent ++ [name] := by
    rcases List.eq_nil_or_concat location with hnil | ⟨parent, name, hconcat⟩
    · exact absurd hnil hroot
    · exact ⟨parent, name, by rw [hconcat, List.concat_eq_append]⟩
  have hparent : disk.makeFolders (.ofLocation parent) = (middle, .ok ()) := by
    rw [← hfolders, Path.ofLocation, Path.parent, Path.ofLocation, List.dropLast_concat]
  obtain ⟨hleads, hnode⟩ :=
    Disk.leads_of_makeFolders (fun hmem => hup (List.mem_append_left _ hmem)) hparent
  have hshort : name.utf8ByteSize ≤ Disk.nameBound := by
    simp only [List.getLastD_concat] at hname
    omega
  rw [Disk.locate_ofLocation_eq_ok_iff hup]
  exact ⟨hnul, by omega, rfl, (hleads.concat hnode hshort).mono fun place => hstores.folder⟩

theorem put_eq_ok_iff :
    store.put disk key content = (disk', .ok ()) ↔
      ∃ location middle, store.locate key = .ok location ∧
        disk.makeFolders (Path.ofLocation location).parent = (middle, .ok ()) ∧
        replaceFile middle location content = .ok disk' := by
  unfold put
  cases hlocate : store.locate key with
  | error failure => simp
  | ok location =>
    rcases hfolders : disk.makeFolders (Path.ofLocation location).parent with ⟨middle, fault | ⟨⟨⟩⟩⟩
    · simp [hfolders]
    · cases hmade : replaceFile middle location content <;> simp [hfolders, hmade]

/-- **Stored bytes are at the location of their key, and can be got from there.** -/
theorem stores_of_put (hbase : ".." ∉ store.base)
    (h : store.put disk key content = (disk', .ok ())) :
    ∃ location, store.locate key = .ok location ∧ Stores disk disk' location content ∧
      disk'.find (.ofLocation location) = .ok (.file content) := by
  obtain ⟨location, middle, hlocate, hfolders, hmade⟩ := put_eq_ok_iff.1 h
  obtain ⟨hup, hnul⟩ := of_locate hbase hlocate
  obtain ⟨hstores, hfind⟩ := find_of_replaceFile hup hnul hfolders hmade
  have hgrows : disk.Grows middle := by
    have hall := Disk.makeFolders_grows disk (Path.ofLocation location).parent
    rwa [hfolders] at hall
  exact ⟨location, hlocate, hstores.of_grows hgrows, hfind⟩

/-- What can be got under a key of another location is still got when a file is stored. -/
theorem Stores.get (h : Stores disk disk' location content) (hbase : ".." ∉ store.base)
    {other : String} {found : Bytes} (hother : store.locate other ≠ .ok location)
    (hget : store.get disk other = .ok found) : store.get disk' other = .ok found := by
  obtain ⟨place, hlocate, hfind⟩ := get_eq_ok_iff.1 hget
  obtain ⟨hup, -⟩ := of_locate hbase hlocate
  obtain ⟨⟨way, hway⟩, hnode⟩ := (Disk.find_ofLocation_eq_ok_iff hup).1 hfind
  obtain ⟨hnul, hpath, rfl, hleads⟩ := (Disk.locate_ofLocation_eq_ok_iff hup).1 hway
  refine get_eq_ok_iff.2 ⟨way, hlocate, (Disk.find_ofLocation_eq_ok_iff hup).2 ⟨⟨way, ?_⟩, ?_⟩⟩
  · rw [Disk.locate_ofLocation_eq_ok_iff hup]
    exact ⟨hnul, hpath, rfl, hleads.mono fun place => h.folder⟩
  · rcases h.others way (by rintro rfl; exact hother hlocate) with hsame | ⟨hnone, -⟩
    · rw [hsame, hnode]
    · rw [hnode] at hnone
      exact absurd hnone (by simp)

/-! ## Texts one after the other -/

variable {entries : List (String × String)}

theorem putTexts_cons_eq_ok_iff {entry : String × String} :
    store.putTexts disk (entry :: entries) = (disk', .ok ()) ↔
      ∃ middle, store.putText disk entry.1 entry.2 = (middle, .ok ()) ∧
        store.putTexts middle entries = (disk', .ok ()) := by
  rw [putTexts]
  split
  · next hput => simp [hput]
  · next middle hput => simp [hput]

/-- Texts that are stored leave alone all that is at other locations, folders above them apart. -/
theorem others_of_putTexts (hbase : ".." ∉ store.base)
    (h : store.putTexts disk entries = (disk', .ok ())) {place : Location}
    (hplace : ∀ entry ∈ entries, store.locate entry.1 ≠ .ok place) :
    disk'.node? place = disk.node? place ∨
      disk.node? place = none ∧ disk'.node? place = some .folder := by
  induction entries generalizing disk with
  | nil =>
    cases h
    exact .inl rfl
  | cons entry entries ih =>
    obtain ⟨middle, hput, hrest⟩ := putTexts_cons_eq_ok_iff.1 h
    obtain ⟨location, hlocate, hstores, -⟩ := stores_of_put hbase hput
    have hne : place ≠ location := by
      rintro rfl
      exact hplace entry List.mem_cons_self hlocate
    -- the location may be a folder's that the first text or one of the others has needed
    rcases ih hrest fun other hother => hplace other (List.mem_cons_of_mem _ hother) with
      hsame | ⟨hnone, hfolder⟩
    · rw [hsame]
      exact hstores.others place hne
    · rcases hstores.others place hne with hsame | ⟨-, hmade⟩
      · exact .inr ⟨hsame ▸ hnone, hfolder⟩
      · rw [hmade] at hnone
        exact absurd hnone (by simp)

/-- What can be got under keys of other locations is still got when texts are stored. -/
theorem get_of_putTexts (hbase : ".." ∉ store.base)
    (h : store.putTexts disk entries = (disk', .ok ())) {other : String} {found : Bytes}
    (hother : ∀ entry ∈ entries, store.locate entry.1 ≠ store.locate other)
    (hget : store.get disk other = .ok found) : store.get disk' other = .ok found := by
  induction entries generalizing disk with
  | nil =>
    cases h
    exact hget
  | cons entry entries ih =>
    obtain ⟨middle, hput, hrest⟩ := putTexts_cons_eq_ok_iff.1 h
    obtain ⟨location, hlocate, hstores, -⟩ := stores_of_put hbase hput
    refine ih hrest (fun next hnext => hother next (List.mem_cons_of_mem _ hnext))
      (hstores.get hbase ?_ hget)
    rw [← hlocate]
    exact Ne.symm (hother entry List.mem_cons_self)

/-- **Texts that are stored under keys of different locations are all there in the end.** -/
theorem get_of_mem_putTexts (hbase : ".." ∉ store.base)
    (hdistinct : entries.Pairwise fun entry next =>
      ∀ location, store.locate entry.1 = .ok location → store.locate next.1 ≠ .ok location)
    (h : store.putTexts disk entries = (disk', .ok ())) :
    ∀ entry ∈ entries, store.get disk' entry.1 = .ok (Utf8.encode entry.2.toList) := by
  induction entries generalizing disk with
  | nil => simp
  | cons first entries ih =>
    obtain ⟨hfirst, hrest⟩ := List.pairwise_cons.1 hdistinct
    obtain ⟨middle, hput, hputs⟩ := putTexts_cons_eq_ok_iff.1 h
    obtain ⟨location, hlocate, -, hfind⟩ := stores_of_put hbase hput
    intro entry hentry
    rcases List.mem_cons.1 hentry with rfl | hentry
    -- the first text is still there after all others, as their keys lead elsewhere
    · refine get_of_putTexts hbase hputs (fun next hnext => ?_)
        (get_eq_ok_iff.2 ⟨location, hlocate, hfind⟩)
      rw [hlocate]
      exact hfirst next hnext location hlocate
    · exact ih hrest hputs entry hentry

/-- The difference between a disk and one with texts stored: each text can be got under its key, and at
all other locations the files are those from before, which can be got as before. -/
structure Receives (store : Store) (disk disk' : Disk) (entries : List (String × String)) : Prop where
  stored : ∀ entry ∈ entries, store.get disk' entry.1 = .ok (Utf8.encode entry.2.toList)
  files : ∀ location, (∀ entry ∈ entries, store.locate entry.1 ≠ .ok location) → ∀ content,
    disk'.node? location = some (.file content) ↔ disk.node? location = some (.file content)
  others : ∀ key, (∀ entry ∈ entries, store.locate entry.1 ≠ store.locate key) → ∀ content,
    store.get disk key = .ok content → store.get disk' key = .ok content
  noOthers : disk.IsTree → ∀ key, (∀ entry ∈ entries, store.locate entry.1 ≠ store.locate key) →
    ∀ content, store.get disk' key = .ok content → store.get disk key = .ok content

/-- **Texts stored under keys of different locations are received**, and nothing else is. -/
theorem receives_of_putTexts (hbase : ".." ∉ store.base)
    (hdistinct : entries.Pairwise fun entry next =>
      ∀ location, store.locate entry.1 = .ok location → store.locate next.1 ≠ .ok location)
    (h : store.putTexts disk entries = (disk', .ok ())) : store.Receives disk disk' entries := by
  have hfiles : ∀ location, (∀ entry ∈ entries, store.locate entry.1 ≠ .ok location) → ∀ content,
      disk'.node? location = some (.file content) ↔ disk.node? location = some (.file content) := by
    intro location hlocation content
    rcases others_of_putTexts hbase h hlocation with hsame | ⟨hnone, hfolder⟩
    · rw [hsame]
    · simp [hnone, hfolder]
  refine ⟨get_of_mem_putTexts hbase hdistinct h, hfiles,
    fun key hkey content => get_of_putTexts hbase h hkey, fun htree key hkey content hget => ?_⟩
  obtain ⟨location, hlocate, hfind⟩ := get_eq_ok_iff.1 hget
  obtain ⟨hup, -⟩ := of_locate hbase hlocate
  obtain ⟨⟨place, hplace⟩, hnode⟩ := (Disk.find_ofLocation_eq_ok_iff hup).1 hfind
  obtain ⟨hnul, hpath, rfl, hleads⟩ := (Disk.locate_ofLocation_eq_ok_iff hup).1 hplace
  rw [hlocate] at hkey
  have hold := (hfiles place hkey content).1 hnode
  refine get_eq_ok_iff.2 ⟨place, hlocate, (Disk.find_ofLocation_eq_ok_iff hup).2 ⟨⟨place, ?_⟩, hold⟩⟩
  rw [Disk.locate_ofLocation_eq_ok_iff hup]
  exact ⟨hnul, hpath, rfl, hleads.of_isTree htree hold⟩

/-- Texts fail to be stored with one of them, when those before it are stored. -/
theorem putTexts_eq_error_iff {failure : Failure} :
    store.putTexts disk entries = (disk', .error failure) ↔
      ∃ written entry rest middle, entries = written ++ entry :: rest ∧
        store.putTexts disk written = (middle, .ok ()) ∧
        store.putText middle entry.1 entry.2 = (disk', .error failure) := by
  constructor
  · intro h
    induction entries generalizing disk with
    | nil => cases h
    | cons first entries ih =>
      rw [putTexts] at h
      split at h
      · next hput =>
        cases h
        exact ⟨[], first, entries, disk, rfl, rfl, hput⟩
      · next middle hput =>
        obtain ⟨written, entry, rest, last, rfl, hwritten, hentry⟩ := ih h
        exact ⟨first :: written, entry, rest, last, rfl,
          putTexts_cons_eq_ok_iff.2 ⟨middle, hput, hwritten⟩, hentry⟩
  · rintro ⟨written, entry, rest, middle, rfl, hwritten, hentry⟩
    induction written generalizing disk with
    | nil =>
      cases hwritten
      rw [List.nil_append, putTexts, hentry]
    | cons first written ih =>
      obtain ⟨next, hput, hrest⟩ := putTexts_cons_eq_ok_iff.1 hwritten
      rw [List.cons_append, putTexts, hput]
      exact ih hrest

end Store

end BlockApp
