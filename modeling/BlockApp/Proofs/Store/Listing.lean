import BlockApp.Proofs.Store.Confined
import BlockApp.Proofs.Store.Key

/-!
# What a store lists

A store lists the files below its folder, each once and in the order of their keys. That each is there once
needs two things: the disk holds one entry for a location, and the names below the folder hold no slash, so
that a key stands for one location only.

* `Disk.Single` — every location of a kind has at most one entry; what is put and removed keeps it
* `Store.names_of_locate` — the names that lead from the folder of a store to the file of a key
* `Store.pairwise_keys`, `Store.mem_keys_iff` — the order of the keys that are listed, and which they are
-/

namespace BlockApp

/-! ## Keys of names -/

namespace Text

theorem toList_intercalate_slash (names : List String) :
    ("/".intercalate names).toList = joinWith '/' (names.map String.toList) := by
  induction names with
  | nil => rfl
  | cons name names ih =>
    cases names with
    | nil => simp [joinWith]
    | cons next names =>
      rw [String.intercalate_cons_cons, String.toList_append, String.toList_append, ih]
      simp [joinWith]

/-- Names without slashes can be read off the key that they make up. -/
theorem intercalate_slash_inj {names others : List String} (hne : names ≠ []) (hne' : others ≠ [])
    (hnames : ∀ name ∈ names, '/' ∉ name.toList) (hothers : ∀ name ∈ others, '/' ∉ name.toList)
    (h : "/".intercalate names = "/".intercalate others) : names = others := by
  have hlists := congrArg String.toList h
  rw [toList_intercalate_slash, toList_intercalate_slash] at hlists
  have hsplit := congrArg (splitAt '/') hlists
  rw [splitAt_joinWith (by simpa using hne) (by simpa using hnames),
    splitAt_joinWith (by simpa using hne') (by simpa using hothers)] at hsplit
  exact (List.map_inj_right fun _ _ => String.toList_inj.1).1 hsplit

end Text

/-! ## Entries -/

namespace Disk

variable {disk disk' : Disk} {p : Location → Prop} {location place : Location} {node : Node}
  {content : Bytes} {names : List String}

/-- Whether a disk has at most one entry for each location of a kind. -/
def Single (disk : Disk) (p : Location → Prop) : Prop :=
  disk.entries.Pairwise fun entry other => p entry.1 → entry.1 ≠ other.1

theorem single_of_node?_eq_none (h : ∀ place, p place → place ≠ [] ∧ disk.node? place = none) :
    disk.Single p := by
  refine List.pairwise_of_forall_mem_list fun entry hentry other _ hp => ?_
  obtain ⟨hroot, hnone⟩ := h entry.1 hp
  rw [node?, if_neg hroot] at hnone
  simpa using List.lookup_eq_none_iff.1 hnone entry hentry

theorem Single.remove (h : disk.Single p) (location : Location) : (disk.remove location).Single p :=
  h.filter _

theorem Single.put (h : disk.Single p) (location : Location) (node : Node) :
    (disk.put location node).Single p := by
  refine List.pairwise_cons.2 ⟨fun entry hentry _ => ?_, h.filter _⟩
  have hne : entry.1 ≠ location := by simpa using (List.mem_filter.1 hentry).2
  exact hne.symm

/-- What holds of a disk and stays when a folder is made still holds when all that are missing are made. -/
theorem makeFolders_induct {holds : Disk → Prop}
    (hmake : ∀ disk path disk', holds disk → makeFolder disk path = .ok disk' → holds disk')
    (path : Path) (h : holds disk) : holds (disk.makeFolders path).1 := by
  fun_induction makeFolders disk path with
  | case1 path disk' hmade => exact hmake _ _ _ h hmade
  | case2 | case7 => exact h
  | case3 path shown _ hnames disk' fault hparent ih
  | case5 path shown _ hnames disk' hparent shown' hagain ih
  | case6 path shown _ hnames disk' hparent fault hfault hagain ih => rwa [hparent] at ih
  | case4 path shown _ hnames disk' hparent disk'' hagain ih =>
    rw [hparent] at ih
    exact hmake _ _ _ ih hagain

theorem Single.makeFolders (h : disk.Single p) (path : Path) : (disk.makeFolders path).1.Single p := by
  refine makeFolders_induct (fun disk path disk' (hsingle : disk.Single p) hmade => ?_) path h
  obtain ⟨place, -, -, rfl⟩ := makeFolder_eq_ok_iff.1 hmade
  exact hsingle.put place .folder

/-- An entry is what is at its location, if that has no other. -/
theorem Single.mem_entries_iff (h : disk.Single p) (hp : p place) (hroot : place ≠ []) :
    (place, node) ∈ disk.entries ↔ disk.node? place = some node := by
  rw [node?, if_neg hroot]
  obtain ⟨entries, here⟩ := disk
  change entries.Pairwise _ at h
  induction entries with
  | nil => simp
  | cons entry entries ih =>
    obtain ⟨hentry, hrest⟩ := List.pairwise_cons.1 h
    obtain ⟨other, found⟩ := entry
    rw [List.mem_cons, ih hrest, List.lookup_cons]
    by_cases hplace : place = other
    · subst hplace
      have hnone : entries.lookup place = none :=
        List.lookup_eq_none_iff.2 fun next hnext => by simpa using hentry next hnext hp
      simp [hnone, eq_comm]
    · have hne : (place == other) = false := by simpa using hplace
      simp [hne, hplace]

/-- The file of an entry, if it is one below a location. -/
def fileBelow? (location : Location) (entry : Location × Node) : Option (List String × Bytes) :=
  match entry.2 with
  | .file content =>
    if location.isPrefixOf entry.1 ∧ entry.1 ≠ location then
      some (entry.1.drop location.length, content)
    else none
  | .folder => none

theorem filesBelow_eq (disk : Disk) (location : Location) :
    disk.filesBelow location = disk.entries.filterMap (fileBelow? location) := rfl

theorem fileBelow?_eq_some_iff {entry : Location × Node} :
    fileBelow? location entry = some (names, content) ↔
      names ≠ [] ∧ entry = (location ++ names, .file content) := by
  obtain ⟨place, node⟩ := entry
  cases node with
  | folder => simp [fileBelow?]
  | file found =>
    simp only [fileBelow?]
    split
    · next hbegins =>
      obtain ⟨hbegins, hne⟩ := hbegins
      obtain ⟨rest, rfl⟩ := List.isPrefixOf_iff_prefix.1 hbegins
      have hrest : rest ≠ [] := fun hnil => hne (by rw [hnil, List.append_nil])
      simp only [List.drop_left, Option.some.injEq, Prod.mk.injEq, List.append_cancel_left_eq,
        Node.file.injEq]
      constructor
      · rintro ⟨rfl, rfl⟩
        exact ⟨hrest, rfl, rfl⟩
      · rintro ⟨-, rfl, rfl⟩
        exact ⟨rfl, rfl⟩
    · next hbegins =>
      refine iff_of_false (by simp) ?_
      rintro ⟨hnames, hentry⟩
      obtain ⟨rfl, -⟩ := Prod.mk.inj hentry
      exact hbegins (by simp [hnames])

theorem Single.mem_filesBelow_iff (h : disk.Single p)
    (hp : ∀ names, names ≠ [] → p (location ++ names)) :
    (names, content) ∈ disk.filesBelow location ↔
      names ≠ [] ∧ disk.node? (location ++ names) = some (.file content) := by
  simp only [filesBelow_eq, List.mem_filterMap, fileBelow?_eq_some_iff]
  constructor
  · rintro ⟨_, hentry, hnames, rfl⟩
    exact ⟨hnames, (h.mem_entries_iff (hp names hnames) (by simp [hnames])).1 hentry⟩
  · rintro ⟨hnames, hnode⟩
    exact ⟨_, (h.mem_entries_iff (hp names hnames) (by simp [hnames])).2 hnode, hnames, rfl⟩

/-- Files below a location are counted once, if every location there has at most one entry. -/
theorem Single.pairwise_filesBelow (h : disk.Single p)
    (hp : ∀ names, names ≠ [] → p (location ++ names)) :
    (disk.filesBelow location).Pairwise fun file other => file.1 ≠ other.1 := by
  refine List.Pairwise.filterMap (fileBelow? location) ?_ h
  rintro entry other hne ⟨names, content⟩ hfile ⟨names', content'⟩ hother rfl
  obtain ⟨hnames, rfl⟩ := fileBelow?_eq_some_iff.1 hfile
  obtain ⟨-, rfl⟩ := fileBelow?_eq_some_iff.1 hother
  exact hne (hp names hnames) rfl

end Disk

/-! ## Names below the folder of a store -/

/-- A name of a location that is reached is one of the way, if it is behind those of the folder. -/
theorem Path.mem_drop_resolveNames {folder : Location} {names : List String} {name : String} {n : Nat}
    (h : name ∈ (resolveNames folder names).drop n) : name ∈ folder.drop n ∨ name ∈ names := by
  induction names generalizing folder with
  | nil => exact .inl h
  | cons first names ih =>
    rw [resolveNames] at h
    rcases ih h with hfolder | hnames
    · split at hfolder
      · rw [List.dropLast_eq_take, List.drop_take] at hfolder
        exact .inl (List.mem_of_mem_take hfolder)
      · rw [List.drop_append] at hfolder
        rcases List.mem_append.1 hfolder with hfolder | hname
        · exact .inl hfolder
        · obtain rfl := List.mem_singleton.1 (List.mem_of_mem_drop hname)
          exact .inr List.mem_cons_self
    · exact .inr (List.mem_cons_of_mem _ hnames)

namespace Store

variable {store : Store} {disk : Disk} {key start : String} {names : List String}

theorem slash_notMem_of_mem_keyNames {name : String} (h : name ∈ keyNames key) : '/' ∉ name.toList := by
  obtain ⟨part, hpart, rfl⟩ := List.mem_map.1 (List.mem_filter.1 h).1
  rw [String.toList_ofList]
  exact Text.sep_notMem_of_mem_splitAt hpart

/-- The names that lead from the folder of a store to the file of a key hold no slash. -/
theorem names_of_locate (h : store.locate key = .ok (store.base ++ names)) :
    ∀ name ∈ names, '/' ∉ name.toList := by
  intro name hname
  obtain ⟨-, hlocation, -⟩ := locate_eq_ok_iff.1 h
  have hdrop : name ∈ (Path.resolveNames store.base (keyNames key)).drop store.base.length := by
    rwa [← hlocation, List.drop_left]
  rcases Path.mem_drop_resolveNames hdrop with hbase | hkey
  · simp at hbase
  · exact slash_notMem_of_mem_keyNames hkey

/-! ## The list -/

/-- Whether the names of all files below the folder of a store hold no slash. -/
def PlainBelow (store : Store) (disk : Disk) : Prop :=
  ∀ names content, names ≠ [] → disk.node? (store.base ++ names) = some (.file content) →
    ∀ name ∈ names, '/' ∉ name.toList

/-- The key under which names are listed, if they are. -/
def listed? (names : List String) : Option String :=
  if isTemporary names then none else some ("/".intercalate names)

theorem listed?_eq_some_iff : listed? names = some key ↔
    isTemporary names = false ∧ key = "/".intercalate names := by
  unfold listed?
  split
  · next htemporary => simp [htemporary]
  · next htemporary => simp [htemporary, eq_comm]

theorem keys_eq (store : Store) (disk : Disk) (start : String) :
    store.keys disk start =
      (((disk.filesBelow store.base).filterMap fun file => listed? file.1).filter
        (start.toList.isPrefixOf ·.toList)).mergeSort (· ≤ ·) := rfl

/-- The keys that are listed are those of the files below the folder, but for files that are being
written. -/
theorem mem_keys_iff (h : disk.Single store.Below) :
    key ∈ store.keys disk start ↔
      ∃ names content, names ≠ [] ∧ disk.node? (store.base ++ names) = some (.file content) ∧
        isTemporary names = false ∧ key = "/".intercalate names ∧ start.toList <+: key.toList := by
  have hbelow : ∀ names, names ≠ [] → store.Below (store.base ++ names) :=
    fun names hnames => ⟨names, hnames, rfl⟩
  simp only [keys_eq, List.mem_mergeSort, List.mem_filter, List.mem_filterMap, Prod.exists,
    h.mem_filesBelow_iff hbelow, listed?_eq_some_iff, List.isPrefixOf_iff_prefix]
  constructor
  · rintro ⟨⟨names, content, ⟨hnames, hnode⟩, htemporary, hkey⟩, hstart⟩
    exact ⟨names, content, hnames, hnode, htemporary, hkey, hstart⟩
  · rintro ⟨names, content, hnames, hnode, htemporary, hkey, hstart⟩
    exact ⟨⟨names, content, ⟨hnames, hnode⟩, htemporary, hkey⟩, hstart⟩

/-- The keys that are listed are in order, and each is there once. -/
theorem pairwise_keys (h : disk.Single store.Below) (hplain : store.PlainBelow disk) :
    (store.keys disk start).Pairwise (· < ·) := by
  have hbelow : ∀ names, names ≠ [] → store.Below (store.base ++ names) :=
    fun names hnames => ⟨names, hnames, rfl⟩
  -- keys of different files are different
  have hkeys : ((disk.filesBelow store.base).filterMap fun file => listed? file.1).Pairwise (· ≠ ·) := by
    have hfiles := (h.pairwise_filesBelow hbelow).imp_of_mem (S := fun file other =>
      ∀ key, listed? file.1 = some key → listed? other.1 ≠ some key) ?_
    · refine List.pairwise_filterMap.2 (hfiles.imp fun {file other} hne key hkey key' hkey' heq => ?_)
      exact hne key hkey (heq ▸ hkey')
    · rintro ⟨names, content⟩ ⟨others, content'⟩ hfile hother hne key hkey hkey'
      obtain ⟨hnames, hnode⟩ := (h.mem_filesBelow_iff hbelow).1 hfile
      obtain ⟨hothers, hnode'⟩ := (h.mem_filesBelow_iff hbelow).1 hother
      obtain ⟨-, rfl⟩ := listed?_eq_some_iff.1 hkey
      obtain ⟨-, hsame⟩ := listed?_eq_some_iff.1 hkey'
      exact hne (Text.intercalate_slash_inj hnames hothers (hplain _ _ hnames hnode)
        (hplain _ _ hothers hnode') hsame)
  have hdistinct : (store.keys disk start).Pairwise (· ≠ ·) := by
    rw [keys_eq]
    exact ((List.mergeSort_perm _ _).pairwise_iff Ne.symm).2 (hkeys.filter _)
  have hordered : (store.keys disk start).Pairwise fun key key' => decide (key ≤ key') = true := by
    rw [keys_eq]
    refine List.pairwise_mergeSort (fun a b c hab hbc => ?_) (fun a b => ?_) _
    · exact decide_eq_true (String.le_trans (of_decide_eq_true hab) (of_decide_eq_true hbc))
    · simpa using String.le_total a b
  refine (hordered.and hdistinct).imp fun {key key'} hboth => ?_
  exact Std.lt_of_le_of_ne (of_decide_eq_true hboth.1) hboth.2

end Store

end BlockApp
