import BlockApp.Proofs.Project.Colors
import BlockApp.Proofs.Section.PackedColor
import BlockApp.Proofs.Section.Tokens
import BlockApp.Proofs.View.Fields

/-!
# Tokens of a project

The names, flags, numbers and colours in what is read from the sections of a project. Each of them has been
taken for a token, so what more it may hold is a line feed at its end, or digits of another script if it is a
number. The names that stand in a text without escapes, those of attributes and of the parameters of more
blocks, are complete.

* `Expr.tokensOf`, `LogicSection.tokens`, `ViewSection.tokens` and the like — the tokens of what is read
* `LogicSection.accepted_of_ofText`, `ViewSection.accepted_of_ofText` and the like — they are accepted
* `LogicSection.complete_parameter`, `ViewSection.complete_attribute` — names without escapes
-/

namespace BlockApp

/-! ## What is read -/

/-- What the value of a literal is a token of, if it is one. -/
def LiteralType.tokenKind? : LiteralType → Option TokenKind
  | .number => some .number
  | .color => some .color
  | .enum => some .flags
  | .resource => some .name
  | .string | .boolean => none

/-- What the value of an attribute is a token of, if it is one. -/
def AttributeKind.tokenKind? : AttributeKind → Option TokenKind
  | .dimension | .number => some .number
  | .color => some .color
  | .enum => some .flags
  | .resource => some .name
  | .text | .boolean => none

/-- The token that an expression is, if it is one. -/
def Expr.token? : Expr → Option Token
  | .literal type value => type.tokenKind?.map (⟨·, value⟩)
  | .reference _ name => some ⟨.name, name⟩
  | .call .. => none

/-- The tokens in expressions, at whatever depth. -/
def Expr.tokensOf (es : List Expr) : List Token := (partsOf es).filterMap token?

/-- The tokens in what a group holds. -/
def GroupContent.tokens : GroupContent → List Token
  | .vars declared => declared.map fun d => ⟨.name, d.name⟩
  | .components declared => declared.flatMap fun d => [⟨.name, d.type⟩, ⟨.name, d.name⟩]
  | .moreBlocks declared =>
    declared.flatMap fun d => ⟨.name, d.name⟩ :: d.parameters.map fun p => ⟨.name, p.name⟩
  | .handler records => records.flatMap fun record => Expr.tokensOf record.params

/-- The tokens of the logic section. -/
def LogicSection.tokens (logic : LogicSection) : List Token := logic.groups.flatMap (·.content.tokens)

/-- The tokens of an attribute. -/
def ViewAttribute.tokens (attr : ViewAttribute) : List Token :=
  ⟨.name, attr.name⟩ :: (attr.kind.tokenKind?.map (⟨·, attr.value⟩)).toList

/-- The tokens of a view. -/
def ViewRecord.tokens (record : ViewRecord) : List Token :=
  [⟨.name, record.id⟩, ⟨.name, record.type⟩] ++ record.parent.toList.map (⟨.name, ·⟩) ++
    record.attributes.flatMap (·.tokens)

/-- The tokens of the view section. -/
def ViewSection.tokens (view : ViewSection) : List Token :=
  view.screens.flatMap fun screen => screen.records.flatMap (·.tokens)

/-- The tokens of the resource section. -/
def ResourceSection.tokens (resources : ResourceSection) : List Token :=
  resources.records.map fun record => ⟨.name, record.name⟩

/-- The tokens of the file section. -/
def FileSection.tokens (files : FileSection) : List Token :=
  files.activities.map (fun activity => ⟨.name, activity.name⟩) ++ files.customViews.map (⟨.name, ·⟩)

/-- The tokens of the library section. -/
def LibrarySection.tokens (libraries : LibrarySection) : List Token :=
  libraries.records.map fun record => ⟨.name, record.name⟩

/-! ## Accepted tokens -/

namespace Token

theorem accepted_name {name : String} (h : Text.isIdentifier name.toList = true) :
    (⟨.name, name⟩ : Token).Accepted := Text.isIdentifier_iff.1 h

/-- A dimension is a number, too. -/
theorem accepted_of_spells {s : String} {number : Int} (h : Text.Numeral.Spells s.toList number) :
    (⟨.number, s⟩ : Token).Accepted := by
  have hrun {s : List Char} {n : Nat} (h : Text.Numeral.Figures s n) : Text.IsRun Text.isDigit s := by
    obtain ⟨hne, -, digits, hdigits, -⟩ := h
    refine ⟨hne, fun c hc => ?_⟩
    obtain ⟨value, hvalue⟩ := Text.exists_of_mem_of_mapM hdigits hc
    rw [Text.isDigit, hvalue]
    rfl
  generalize htext : s.toList = text at h
  have hending {ending : List Char} (h : ending ∈ [[], ['\n']]) (t : List Char) :
      t ++ ending = t ∨ t ++ ending = t ++ ['\n'] := by
    rcases List.mem_pair.1 h with rfl | rfl
    · exact .inl (List.append_nil t)
    · exact .inr rfl
  cases h with
  | plain figures h => exact ⟨_, .plain (.whole (hrun figures)), htext ▸ hending h _⟩
  | minus figures h => exact ⟨_, .minus (.whole (hrun figures)), htext ▸ hending h _⟩

theorem accepted_of_isKept {value : String} (h : Color.IsKept value.toList) :
    (⟨.color, value⟩ : Token).Accepted := by
  rcases h with ⟨hlength, hdigits⟩ | ⟨digits, -, hdigits, hvalue⟩
  · refine ⟨_, ⟨fun hempty => ?_, hdigits⟩, .inl rfl⟩
    rw [hempty] at hlength
    cases hlength
  · have hrun : Text.IsRun Text.isUpperHex ('F' :: 'F' :: digits) := by
      refine ⟨List.cons_ne_nil _ _, ?_⟩
      rintro c (_ | ⟨_, _ | ⟨_, hc⟩⟩)
      · decide
      · decide
      · exact hdigits c hc
    exact ⟨_, hrun, .inr hvalue⟩

/-- What a literal holds is a token that is accepted, if it is one. -/
theorem accepted_of_holds {type : LiteralType} {value : String} (h : type.Holds value.toList)
    {kind : TokenKind} (hkind : type.tokenKind? = some kind) : (⟨kind, value⟩ : Token).Accepted := by
  cases type with
  | string | boolean => cases hkind
  | number =>
    cases hkind
    exact Text.isNumber_iff.1 h
  | color =>
    cases hkind
    exact accepted_of_isKept h
  | enum =>
    cases hkind
    exact Text.isFlagList_iff.1 h
  | resource =>
    cases hkind
    exact accepted_name h

/-- So is what an attribute stores. -/
theorem accepted_of_stores {attr : AttributeKind} {text : List Char} {value : String}
    (h : attr.Stores text value.toList) {kind : TokenKind} (hkind : attr.tokenKind? = some kind) :
    (⟨kind, value⟩ : Token).Accepted := by
  have hliteral (type : LiteralType) (h : Cell.Stored type text value.toList)
      (hkind : type.tokenKind? = some kind) : (⟨kind, value⟩ : Token).Accepted :=
    accepted_of_holds (Cell.holds_of_stored h) hkind
  cases attr with
  | text | boolean => cases hkind
  | dimension =>
    cases hkind
    obtain ⟨⟨number, hnumber, -⟩, htext⟩ := h
    exact accepted_of_spells (htext ▸ Text.Numeral.spells_iff_denotes.2 hnumber)
  | color => exact hliteral .color h hkind
  | resource => exact hliteral .resource h hkind
  | number => exact hliteral .number h hkind
  | enum => exact hliteral .enum h hkind

end Token

theorem Expr.accepted_of_mem_tokensOf {es : List Expr} (hwell : ∀ e ∈ es, e.WellFormed) {t : Token}
    (ht : t ∈ tokensOf es) : t.Accepted := by
  obtain ⟨part, hpart, htoken⟩ := List.mem_filterMap.1 ht
  obtain ⟨e, he, hpart⟩ := mem_partsOf_iff.1 hpart
  have hwell := (hwell e he).of_mem_parts hpart
  cases hwell with
  | literal hholds =>
    obtain ⟨kind, hkind, rfl⟩ := Option.map_eq_some_iff.1 htoken
    exact Token.accepted_of_holds hholds hkind
  | reference hname =>
    cases htoken
    exact Token.accepted_name hname
  | call => cases htoken

/-! ## Sections -/

namespace LogicSection

variable {text : String} {logic : LogicSection} {t : Token}

theorem accepted_of_wellFormed {content : GroupContent} (h : content.WellFormed) (ht : t ∈ content.tokens) :
    t.Accepted := by
  cases content with
  | vars declared =>
    obtain ⟨d, hd, rfl⟩ := List.mem_map.1 ht
    exact Token.accepted_name (h d hd)
  | components declared =>
    obtain ⟨d, hd, ht⟩ := List.mem_flatMap.1 ht
    rcases List.mem_pair.1 ht with rfl | rfl
    · exact Token.accepted_name (h d hd).1
    · exact Token.accepted_name (h d hd).2
  | moreBlocks declared =>
    obtain ⟨d, hd, ht⟩ := List.mem_flatMap.1 ht
    rcases List.mem_cons.1 ht with rfl | ht
    · exact Token.accepted_name (h d hd).1
    · obtain ⟨p, hp, rfl⟩ := List.mem_map.1 ht
      exact Token.accepted_name ((h d hd).2 p hp)
  | handler records =>
    obtain ⟨record, hrecord, ht⟩ := List.mem_flatMap.1 ht
    exact Expr.accepted_of_mem_tokensOf (h record hrecord) ht

/-- **The tokens of a logic section are accepted ones.** -/
theorem accepted_of_ofText (h : ofText text = .ok logic) (ht : t ∈ logic.tokens) : t.Accepted := by
  obtain ⟨group, hgroup, ht⟩ := List.mem_flatMap.1 ht
  exact accepted_of_wellFormed (wellFormed_of_ofText h group hgroup) ht

/-- A group of more blocks is read record by record. -/
theorem exists_record_of_moreBlocks {key : String} {records : List Record} {declared : List MoreBlock}
    (h : readContent key records = .ok (.moreBlocks declared)) {d : MoreBlock} (hd : d ∈ declared) :
    ∃ record ∈ records, readMoreBlock record = .ok d := by
  cases readsAs_of_readContent h with
  | moreBlocks hread => exact Except.exists_source_of_mapM hread hd

/-- The name of a parameter stands in a word as it is. -/
theorem mem_of_readMoreBlockParameter? {word : List Char} {p : MoreBlockParameter}
    (h : readMoreBlockParameter? word = some p) {c : Char} (hc : c ∈ p.name.toList) : c ∈ word := by
  unfold readMoreBlockParameter? at h
  split at h
  · split at h
    · obtain ⟨type, -, rfl⟩ := Option.map_eq_some_iff.1 h
      rw [String.toList_ofList] at hc
      exact List.mem_cons_of_mem _ (List.mem_cons_of_mem _ (List.mem_cons_of_mem _ hc))
    · cases h
  · cases h

/-- **The names of parameters are complete**: a word holds no blank, and so no line feed. -/
theorem complete_parameter (h : ofText text = .ok logic) {group : LogicGroup} (hgroup : group ∈ logic.groups)
    {declared : List MoreBlock} (hcontent : group.content = .moreBlocks declared) {d : MoreBlock}
    (hd : d ∈ declared) {p : MoreBlockParameter} (hp : p ∈ d.parameters) :
    (⟨.name, p.name⟩ : Token).Complete := by
  obtain ⟨groups, -, hread⟩ := ofText_eq_ok_iff.1 h
  obtain ⟨source, -, hsource⟩ := Except.exists_source_of_mapM (mapM_readGroup_of_readGroups hread) hgroup
  have hmade := (readGroup_eq_ok_iff.1 hsource).2
  rw [hcontent] at hmade
  obtain ⟨record, -, hrecord⟩ := exists_record_of_moreBlocks hmade hd
  obtain ⟨_, _, -, -, -, hwords⟩ := declaresMoreBlock_of_readMoreBlock hrecord
  have hmem := List.mem_map_of_mem (f := some) hp
  rw [← hwords] at hmem
  obtain ⟨word, hword, hparameter⟩ := List.mem_map.1 hmem
  refine Token.complete_name (isIdentifier_of_readMoreBlockParameter? hparameter) fun hline => ?_
  have hblank := Text.isBlank_eq_false_of_mem_words hword (mem_of_readMoreBlockParameter? hparameter hline)
  exact absurd hblank (by decide)

end LogicSection

namespace ViewSection

variable {text : String} {skipped : List String} {view : ViewSection} {screen : ViewScreen}
  {record : ViewRecord} {t : Token}

/-- **The names of attributes are complete**: they stand in a field as they are, and a field holds no line
feed. -/
theorem complete_attribute (h : ofText text skipped = .ok view) (hscreen : screen ∈ view.screens)
    (hrecord : record ∈ screen.records) {attr : ViewAttribute} (hattr : attr ∈ record.attributes) :
    (⟨.name, attr.name⟩ : Token).Complete := by
  obtain ⟨idField, typeField, parentField, cell, hfields, hview⟩ :=
    exists_fields_of_ofText h hscreen hrecord
  obtain ⟨w, hw, hcell⟩ := Section.exists_isAttribute_of_attributes hview.attributes hattr
  obtain ⟨_, _, _, hname, hidentifier, -⟩ := hw
  refine Token.complete_name hidentifier fun hline => ?_
  have hmem : cell ∈ [idField, typeField, parentField, cell] := by simp
  refine Section.lineFeed_notMem_of_fieldsAt? hfields hmem (hcell _ ?_)
  rw [hname]
  exact List.mem_append_left _ hline

/-- **The tokens of a view section are accepted ones.** -/
theorem accepted_of_ofText (h : ofText text skipped = .ok view) (ht : t ∈ view.tokens) : t.Accepted := by
  obtain ⟨screen, hscreen, ht⟩ := List.mem_flatMap.1 ht
  obtain ⟨record, hrecord, ht⟩ := List.mem_flatMap.1 ht
  obtain ⟨_, _, _, _, -, hview⟩ := exists_fields_of_ofText h hscreen hrecord
  rw [ViewRecord.tokens, List.mem_append, List.mem_append] at ht
  rcases ht with (ht | ht) | ht
  · rcases List.mem_pair.1 ht with rfl | rfl
    · exact Token.accepted_name hview.id.2
    · exact Token.accepted_name hview.type.2
  · obtain ⟨parent, hparent, rfl⟩ := List.mem_map.1 ht
    exact Token.accepted_name (hview.isIdentifier_parent parent (Option.mem_toList.1 hparent))
  · obtain ⟨attr, hattr, ht⟩ := List.mem_flatMap.1 ht
    rcases List.mem_cons.1 ht with rfl | ht
    · exact (complete_attribute h hscreen hrecord hattr).accepted
    · obtain ⟨kind, hkind, rfl⟩ := Option.map_eq_some_iff.1 (Option.mem_toList.1 ht)
      obtain ⟨_, hstores⟩ := stores_of_ofText h hscreen hrecord hattr
      exact Token.accepted_of_stores hstores hkind

end ViewSection

/-- **The tokens of a resource section are accepted ones.** -/
theorem ResourceSection.accepted_of_ofText {text : String} {resources : ResourceSection}
    (h : ofText text = .ok resources) {t : Token} (ht : t ∈ resources.tokens) : t.Accepted := by
  simp only [ofText, Except.bind_eq_ok_iff, Except.pure_eq_ok_iff] at h
  obtain ⟨groups, -, parts, hparts, rfl⟩ := h
  obtain ⟨record, hrecord, rfl⟩ := List.mem_map.1 ht
  obtain ⟨part, hpart, hrecord⟩ := List.mem_flatten.1 hrecord
  obtain ⟨group, -, hgroup⟩ := Except.exists_source_of_mapM hparts hpart
  unfold readGroup at hgroup
  split at hgroup
  · exact absurd hgroup Section.failAt_ne_ok
  · obtain ⟨line, -, hline⟩ := Except.exists_source_of_mapM hgroup hrecord
    unfold readResource at hline
    split at hline
    · simp only [Except.bind_eq_ok_iff, Except.pure_eq_ok_iff, Section.identifierField_eq_ok_iff] at hline
      obtain ⟨name, ⟨-, hname⟩, rfl⟩ := hline
      exact Token.accepted_name hname
    · exact absurd hline Section.wrongCount_ne_ok

/-- **The tokens of a file section are accepted ones.** -/
theorem FileSection.accepted_of_ofText {text : String} {files : FileSection} (h : ofText text = .ok files)
    {t : Token} (ht : t ∈ files.tokens) : t.Accepted := by
  simp only [ofText, Except.bind_eq_ok_iff, Except.pure_eq_ok_iff] at h
  obtain ⟨groups, -, parts, hparts, rfl⟩ := h
  -- what is in a part has been read from a record of its group
  have hpart : ∀ part ∈ parts, ∀ t ∈ part.tokens, t.Accepted := by
    intro part hpart t ht
    obtain ⟨group, -, hgroup⟩ := Except.exists_source_of_mapM hparts hpart
    unfold readGroup at hgroup
    split at hgroup
    · simp only [Except.bind_eq_ok_iff, Except.pure_eq_ok_iff] at hgroup
      obtain ⟨activities, hread, rfl⟩ := hgroup
      obtain ⟨activity, hactivity, rfl⟩ := List.mem_map.1 (by simpa [tokens] using ht)
      obtain ⟨record, -, hrecord⟩ := Except.exists_source_of_mapM hread hactivity
      unfold readActivity at hrecord
      split at hrecord
      · simp only [Except.bind_eq_ok_iff, Except.pure_eq_ok_iff, Section.identifierField_eq_ok_iff] at hrecord
        obtain ⟨name, ⟨-, hname⟩, _, -, _, -, rfl⟩ := hrecord
        exact Token.accepted_name hname
      · exact absurd hrecord Section.wrongCount_ne_ok
    split at hgroup
    · simp only [Except.bind_eq_ok_iff, Except.pure_eq_ok_iff] at hgroup
      obtain ⟨views, hread, rfl⟩ := hgroup
      obtain ⟨name, hname, rfl⟩ := List.mem_map.1 (by simpa [tokens] using ht)
      obtain ⟨record, -, hrecord⟩ := Except.exists_source_of_mapM hread hname
      unfold readCustomView at hrecord
      split at hrecord
      · exact Token.accepted_name (Section.identifierField_eq_ok_iff.1 hrecord).2
      · exact absurd hrecord Section.wrongCount_ne_ok
    · exact absurd hgroup Section.failAt_ne_ok
  rw [tokens, List.mem_append] at ht
  rcases ht with ht | ht
  · obtain ⟨activity, hactivity, rfl⟩ := List.mem_map.1 ht
    obtain ⟨part, hmem, hactivity⟩ := List.mem_flatMap.1 hactivity
    exact hpart part hmem _ (List.mem_append_left _ (List.mem_map_of_mem hactivity))
  · obtain ⟨name, hname, rfl⟩ := List.mem_map.1 ht
    obtain ⟨part, hmem, hname⟩ := List.mem_flatMap.1 hname
    exact hpart part hmem _ (List.mem_append_right _ (List.mem_map_of_mem hname))

/-- **The tokens of a library section are accepted ones.** -/
theorem LibrarySection.accepted_of_ofText {text : String} {libraries : LibrarySection}
    (h : ofText text = .ok libraries) {t : Token} (ht : t ∈ libraries.tokens) : t.Accepted := by
  simp only [ofText, Except.bind_eq_ok_iff, Except.pure_eq_ok_iff] at h
  obtain ⟨groups, -, parts, hparts, rfl⟩ := h
  obtain ⟨record, hrecord, rfl⟩ := List.mem_map.1 ht
  obtain ⟨part, hpart, hrecord⟩ := List.mem_flatten.1 hrecord
  obtain ⟨group, -, hgroup⟩ := Except.exists_source_of_mapM hparts hpart
  unfold readGroup at hgroup
  split at hgroup
  · obtain ⟨line, -, hline⟩ := Except.exists_source_of_mapM hgroup hrecord
    unfold readLibrary at hline
    split at hline
    · split at hline
      · simp only [Except.bind_eq_ok_iff, Except.pure_eq_ok_iff, Section.identifierField_eq_ok_iff] at hline
        obtain ⟨name, ⟨-, hname⟩, rfl⟩ := hline
        exact Token.accepted_name hname
      · exact absurd hline Section.failAt_ne_ok
    · exact absurd hline Section.wrongCount_ne_ok
  · exact absurd hgroup Section.failAt_ne_ok

end BlockApp
