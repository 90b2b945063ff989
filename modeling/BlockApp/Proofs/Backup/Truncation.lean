import BlockApp.Proofs.Backup.Unpack

/-!
# Backups that are cut off

A frame tells its own length. So the first bytes of a backup can be read only if they end where a frame
ends, and what is read of them then are the first of its frames. The sections in the frames behind are
missing: what is cut off a backup makes it malformed or changes nothing, but never makes another backup
of it.

* `Frame.eq_of_bytes_append` — where a frame ends does not hang on what follows it
* `frames_prefix` — first bytes that are frames are the first frames
* `exists_later_of_readFramed` — what first bytes yield, and what is behind them
* `readFramed_cutOff` — which first bytes of a backup are read, and as what
-/

namespace BlockApp.Backup

variable {frame other : Frame} {frames others more : List Frame} {rest rest' part data : Bytes}
  {found found' : List (SectionName × Bytes)} {name : SectionName}

/-! ## Frames end where they say -/

/-- **A frame ends where its own lengths say**, whatever follows it. -/
theorem Frame.eq_of_bytes_append (hframe : frame.Fits) (hother : other.Fits)
    (h : frame.bytes ++ rest = other.bytes ++ rest') : frame = other ∧ rest = rest' := by
  obtain ⟨nameLength, body, hbody⟩ : ∃ nameLength body, nameLength :: body = frame.bytes ++ rest :=
    ⟨_, _, rfl⟩
  -- both are what the reader finds there
  obtain ⟨hle, hread⟩ : ∃ hle, readFrame 0 nameLength body = .ok (frame, ⟨rest, hle⟩) :=
    readFrame_eq_ok_iff.2 ⟨hframe, hbody⟩
  obtain ⟨hle', hread'⟩ : ∃ hle, readFrame 0 nameLength body = .ok (other, ⟨rest', hle⟩) :=
    readFrame_eq_ok_iff.2 ⟨hother, hbody.trans h⟩
  have hsame := Except.ok.inj (hread.symm.trans hread')
  rw [Prod.mk.injEq, Subtype.mk.injEq] at hsame
  exact hsame

/-- **First bytes of frames that are frames themselves are the first frames.** -/
theorem frames_prefix (hframes : ∀ frame ∈ frames, frame.Fits) (hothers : ∀ frame ∈ others, frame.Fits)
    (h : others.flatMap Frame.bytes <+: frames.flatMap Frame.bytes) : others <+: frames := by
  induction others generalizing frames with
  | nil => exact List.nil_prefix
  | cons other others ih =>
    obtain ⟨hother, hothers⟩ := List.forall_mem_cons.1 hothers
    obtain ⟨tail, htail⟩ := h
    rw [List.flatMap_cons, List.append_assoc] at htail
    cases frames with
    | nil => cases htail
    | cons frame frames =>
      obtain ⟨hframe, hlater⟩ := List.forall_mem_cons.1 hframes
      rw [List.flatMap_cons] at htail
      obtain ⟨rfl, hrest⟩ := Frame.eq_of_bytes_append hother hframe htail
      have hprefix : others <+: frames := ih hlater hothers ⟨tail, hrest⟩
      exact List.cons_prefix_cons.2 ⟨rfl, hprefix⟩

/-! ## What frames yield -/

/-- The section that a frame is of. -/
theorem Frame.section_unique {name' : SectionName} (h : frame.name = name.bytes)
    (h' : frame.name = name'.bytes) : name = name' := by
  have hsection : frame.section? = some name := Frame.section?_eq_some_iff.2 h
  have hsection' : frame.section? = some name' := Frame.section?_eq_some_iff.2 h'
  exact Option.some.inj (hsection.symm.trans hsection')

/-- Frames yield one thing only. -/
theorem Yields.unique (h : Yields frames found) (h' : Yields frames found') : found = found' := by
  induction h generalizing found' with
  | nil =>
    cases h'
    rfl
  | skip hname _ ih =>
    cases h' with
    | skip _ hrest => exact ih hrest
    | take hsection _ _ => exact absurd hsection (hname _)
  | take hname holds _ ih =>
    cases h' with
    | skip hnone _ => exact absurd hname (hnone _)
    | take hsection holds' hrest =>
      obtain rfl := Frame.section_unique hname hsection
      have hcontent := Frame.content_eq_ok_iff.2 holds
      have hcontent' := Frame.content_eq_ok_iff.2 holds'
      obtain rfl := Except.ok.inj (hcontent.symm.trans hcontent')
      rw [ih hrest]

/-- Frames in two parts yield what the parts do. -/
theorem Yields.of_append (h : Yields (frames ++ more) found) :
    ∃ first later, Yields frames first ∧ Yields more later ∧ found = first ++ later := by
  induction frames generalizing found with
  | nil => exact ⟨[], found, .nil, h, rfl⟩
  | cons frame frames ih =>
    cases h with
    | skip hname hrest =>
      obtain ⟨first, later, hfirst, hlater, rfl⟩ := ih hrest
      exact ⟨first, later, .skip hname hfirst, hlater, rfl⟩
    | take hname holds hrest =>
      obtain ⟨first, later, hfirst, hlater, rfl⟩ := ih hrest
      exact ⟨_ :: first, later, .take hname holds hfirst, hlater, rfl⟩

/-- What is in a frame of a section is among what the frames yield. -/
theorem Yields.mem_of_mem (h : Yields frames found) (hframe : frame ∈ frames)
    (hname : frame.name = name.bytes) : name ∈ found.map (·.1) := by
  induction h with
  | nil => exact absurd hframe List.not_mem_nil
  | skip hnone _ ih =>
    rcases List.mem_cons.1 hframe with rfl | hframe
    · exact absurd hname (hnone name)
    · exact ih hframe
  | take hsection _ _ ih =>
    rw [List.map_cons]
    rcases List.mem_cons.1 hframe with rfl | hframe
    · obtain rfl := Frame.section_unique hname hsection
      exact List.mem_cons_self
    · exact List.mem_cons_of_mem _ (ih hframe)

/-! ## First bytes of a backup -/

/-- First bytes of a backup that can be read are its first frames, and those behind yield what is missing. -/
theorem exists_later_of_readFramed (hframes : ∀ frame ∈ frames, frame.Fits)
    (hpart : part <+: magic ++ version :: frames.flatMap Frame.bytes) (hyields : Yields frames found)
    (hread : readFramed part = .ok found') :
    ∃ first more later, frames = first ++ more ∧
      part = magic ++ version :: first.flatMap Frame.bytes ∧ Yields more later ∧
      found = found' ++ later := by
  obtain ⟨first, hfirst, rfl, hfound', -⟩ := readFramed_eq_ok_iff.1 hread
  rw [List.prefix_append_right_inj, List.cons_prefix_cons] at hpart
  obtain ⟨more, rfl⟩ := frames_prefix hframes hfirst hpart.2
  obtain ⟨found₁, later, hfound₁, hlater, rfl⟩ := hyields.of_append
  exact ⟨first, more, later, rfl, rfl, hlater, by rw [hfound'.unique hfound₁]⟩

/-- Whether the last frame of a backup is of a section. -/
def EndsInSection (data : Bytes) : Prop :=
  ∃ (frames : List Frame) (last : Frame) (name : SectionName), (∀ frame ∈ frames, frame.Fits) ∧
    data = magic ++ version :: frames.flatMap Frame.bytes ∧ frames.getLast? = some last ∧
    last.name = name.bytes

/-- **First bytes that hold all sections hold what the whole does.** -/
theorem eq_of_readFramed_of_complete {sections : Sections Bytes} (hpart : part <+: data)
    (hread : readFramed data = .ok found) (hread' : readFramed part = .ok found')
    (hcomplete : complete found' = .ok sections) : found' = found := by
  obtain ⟨frames, hframes, rfl, hyields, hnodup⟩ := readFramed_eq_ok_iff.1 hread
  obtain ⟨-, -, later, -, -, -, rfl⟩ := exists_later_of_readFramed hframes hpart hyields hread'
  -- a section behind would come twice
  cases later with
  | nil => rw [List.append_nil]
  | cons entry later =>
    have hfirst : entry.1 ∈ found'.map (·.1) := exists_complete_iff.1 ⟨sections, hcomplete⟩ entry.1
    rw [List.map_append, List.map_cons] at hnodup
    have hdisjoint := (List.nodup_append.1 hnodup).2.2
    exact absurd rfl (hdisjoint _ hfirst _ List.mem_cons_self)

/-- **First bytes of a backup that ends in a section lack this section**, if they can be read at all. -/
theorem exists_missing_of_readFramed (hpart : part <+: data) (hread : readFramed data = .ok found)
    (hends : EndsInSection data) (hcut : part ≠ data) (hread' : readFramed part = .ok found') :
    ∃ name : SectionName, complete found' = .error (.container name.name .missing) := by
  obtain ⟨frames, last, name, hframes, rfl, hlast, hname⟩ := hends
  obtain ⟨frames', hframes', hbytes, hyields, hnodup⟩ := readFramed_eq_ok_iff.1 hread
  rw [List.append_cancel_left_eq, List.cons.injEq] at hbytes
  obtain rfl : frames = frames' := by
    have hprefix : frames <+: frames' := frames_prefix hframes' hframes (hbytes.2 ▸ List.prefix_rfl)
    have hprefix' : frames' <+: frames := frames_prefix hframes hframes' (hbytes.2 ▸ List.prefix_rfl)
    exact hprefix.eq_of_length_le hprefix'.length_le
  obtain ⟨first, more, later, rfl, rfl, hlater, rfl⟩ :=
    exists_later_of_readFramed hframes hpart hyields hread'
  have hmore : more ≠ [] := by
    rintro rfl
    rw [List.append_nil] at hcut
    exact hcut rfl
  have hmem : last ∈ more := by
    rw [List.getLast?_append_of_ne_nil _ hmore] at hlast
    exact List.mem_of_getLast? hlast
  have hbehind : name ∈ later.map (·.1) := hlater.mem_of_mem hmem hname
  have hmissing : name ∉ found'.map (·.1) := by
    intro hfirst
    rw [List.map_append] at hnodup
    exact (List.nodup_append.1 hnodup).2.2 name hfirst name hbehind rfl
  cases hcomplete : complete found' with
  | ok sections => exact absurd (exists_complete_iff.1 ⟨sections, hcomplete⟩ name) hmissing
  | error failure =>
    obtain ⟨lacking, -, rfl⟩ := exists_missing_of_complete hcomplete
    exact ⟨lacking, rfl⟩

/-- **What is cut off a backup never makes another backup of it.** First bytes of a backup that hold all
six sections hold the same as the whole. If the last frame is of a section, no first bytes but all of them
do: either they are malformed, or a section is missing from what is read. -/
theorem readFramed_cutOff (hpart : part <+: data) (hread : readFramed data = .ok found) :
    (∀ found' sections, readFramed part = .ok found' → complete found' = .ok sections →
      found' = found ∧ complete found = .ok sections) ∧
    (EndsInSection data → part ≠ data →
      (∃ failure : Failure, readFramed part = .error failure ∧ failure.IsContainer) ∨
      ∃ (found' : List (SectionName × Bytes)) (name : SectionName), readFramed part = .ok found' ∧
        complete found' = .error (.container name.name .missing)) := by
  constructor
  · intro found' sections hread' hcomplete
    obtain rfl := eq_of_readFramed_of_complete hpart hread hread' hcomplete
    exact ⟨rfl, hcomplete⟩
  · intro hends hcut
    cases hread' : readFramed part with
    | error failure => exact .inl ⟨failure, rfl, isContainer_of_readFramed hread'⟩
    | ok found' =>
      obtain ⟨name, hmissing⟩ := exists_missing_of_readFramed hpart hread hends hcut hread'
      exact .inr ⟨found', name, rfl, hmissing⟩

theorem endsInSection_emptyBackup : EndsInSection emptyBackup := by
  refine ⟨SectionName.all.map fun name => ⟨name.bytes, 0, []⟩, ⟨SectionName.project.bytes, 0, []⟩,
    .project, fun frame hframe => ?_, rfl, rfl, rfl⟩
  obtain ⟨name, -, rfl⟩ := List.mem_map.1 hframe
  cases name <;> exact ⟨by decide, by decide⟩

/-- A backup that is cut off in front of a frame of no section, and one that is cut off in its last frame. -/
theorem readFramed_cutOff_empty :
    (readFramed emptyBackup = .ok (SectionName.all.map fun name => (name, [])) ∧
      complete (SectionName.all.map fun name => (name, [])) = .ok ⟨[], [], [], [], [], []⟩) ∧
    EndsInSection emptyBackup ∧ emptyBackup.dropLast ≠ emptyBackup ∧
      ((∃ failure : Failure, readFramed emptyBackup.dropLast = .error failure ∧ failure.IsContainer) ∨
        ∃ (found' : List (SectionName × Bytes)) (name : SectionName),
          readFramed emptyBackup.dropLast = .ok found' ∧
            complete found' = .error (.container name.name .missing)) := by
  have hwhole : readFramed (emptyBackup ++ archiveFrame.bytes) =
      .ok (SectionName.all.map fun name => (name, [])) := by cbv
  have hpart : readFramed emptyBackup = .ok (SectionName.all.map fun name => (name, [])) := by cbv
  have hcut : emptyBackup.dropLast ≠ emptyBackup := by decide
  obtain ⟨hsame, -⟩ := readFramed_cutOff (List.prefix_append emptyBackup archiveFrame.bytes) hwhole
  obtain ⟨-, hrefused⟩ := readFramed_cutOff (List.dropLast_prefix emptyBackup) hpart
  exact ⟨⟨hpart, (hsame _ _ hpart rfl).2⟩, endsInSection_emptyBackup, hcut,
    hrefused endsInSection_emptyBackup hcut⟩

end BlockApp.Backup
