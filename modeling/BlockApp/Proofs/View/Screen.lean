import BlockApp.Project.Basic
import BlockApp.Proofs.View.Names
import BlockApp.View.Tree

/-!
# Names of screens

The screens of a view section have distinct names, each of them an identifier. The class of a screen has
its name with the first letter in upper case, so that letter is all in which the screens of one class can
differ.

* `ViewSection.screenNames_of_ofText` — the names of screens
* `activityClassName_eq_iff` — the screens of one class
-/

namespace BlockApp

/-! ## Characters -/

namespace Text

theorem toNat_lt_of_isNameStart {c : Char} (h : isNameStart c = true) : c.toNat < 128 := by
  rw [isNameStart, Bool.or_eq_true] at h
  rcases h with halpha | hunderscore
  · rcases (Bool.or_eq_true c.isUpper c.isLower).mp halpha with hupper | hlower
    · have hle : c.val ≤ 'Z'.val := (of_decide_eq_true hupper).2
      exact Nat.lt_of_le_of_lt (UInt32.le_iff_toNat_le.1 hle) (by decide)
    · have hle : c.val ≤ 'z'.val := of_decide_eq_true ((Bool.and_eq_true _ _).mp hlower).2
      exact Nat.lt_of_le_of_lt (UInt32.le_iff_toNat_le.1 hle) (by decide)
  · rw [eq_of_beq hunderscore]
    decide

/-- The upper case of a character that begins an identifier is the one of ASCII, and begins one too. -/
theorem upperCase_of_isNameStart {c : Char} (h : isNameStart c = true) :
    upperCase c = [c.toUpper] ∧ isNameStart c.toUpper = true := by
  -- there are few enough of these characters to look at each
  have hall : ∀ n : Fin 128, isNameStart (Char.ofNat n) = true →
      upperCase (Char.ofNat n) = [(Char.ofNat n).toUpper] ∧
        isNameStart (Char.ofNat n).toUpper = true := by decide +kernel
  have hc := hall ⟨c.toNat, toNat_lt_of_isNameStart h⟩
  rw [Char.ofNat_toNat] at hc
  exact hc h

theorem capitalize_of_isNameStart {c : Char} (h : isNameStart c = true) (rest : List Char) :
    capitalize (c :: rest) = c.toUpper :: rest := by
  rw [capitalize, (upperCase_of_isNameStart h).1, List.singleton_append]

/-- A slash is in no identifier. -/
theorem slash_notMem_of_isBareIdentifier {s : List Char} (h : isBareIdentifier s = true) : '/' ∉ s := by
  cases s with
  | nil => exact List.not_mem_nil
  | cons c rest =>
    rw [isBareIdentifier, Bool.and_eq_true, List.all_eq_true] at h
    obtain ⟨hstart, hrest⟩ := h
    intro hslash
    rcases List.mem_cons.1 hslash with rfl | hslash
    · exact absurd hstart (by decide)
    · exact absurd (hrest '/' hslash) (by decide)

end Text

/-! ## Screens -/

namespace ViewSection

theorem isBareIdentifier_of_readHeader? {header screen ending : String}
    (h : readHeader? header = some (screen, ending)) : Text.isBareIdentifier screen.toList = true := by
  simp only [readHeader?] at h
  split at h
  · rw [Option.ite_none_right_eq_some, Bool.and_eq_true, Option.some.injEq, Prod.mk.injEq] at h
    obtain ⟨⟨hscreen, -⟩, rfl, -⟩ := h
    rw [String.toList_ofList]
    exact hscreen
  · simp at h

theorem readGroups_names {skipped seen : List String} {groups : List Group} {screens : List ViewScreen}
    (h : readGroups skipped seen groups = .ok screens) :
    (screens.map (·.name)).Nodup ∧
      ∀ screen ∈ screens, screen.name ∉ seen ∧ Text.isBareIdentifier screen.name.toList = true := by
  induction groups generalizing seen screens with
  | nil =>
    cases h
    simp
  | cons group groups ih =>
    obtain ⟨name, ending, hheader, ⟨-, hread⟩ | ⟨-, -, hnew, records, others, -, hothers, rfl⟩⟩ :=
      readGroups_cons_eq_ok_iff.1 h
    · exact ih hread
    · obtain ⟨hnodup, hall⟩ := ih hothers
      refine ⟨List.nodup_cons.2 ⟨fun hmem => ?_, hnodup⟩, fun other hother => ?_⟩
      · obtain ⟨other, hother, hname⟩ := List.mem_map.1 hmem
        exact (hall other hother).1 (hname ▸ List.mem_cons_self)
      · rcases List.mem_cons.1 hother with rfl | hother
        · exact ⟨hnew, isBareIdentifier_of_readHeader? hheader⟩
        · obtain ⟨hnew, hname⟩ := hall other hother
          exact ⟨fun hmem => hnew (List.mem_cons_of_mem _ hmem), hname⟩

/-- **The screens of a view section have distinct names, each of them an identifier.** -/
theorem screenNames_of_ofText {text : String} {skipped : List String} {view : ViewSection}
    (h : ofText text skipped = .ok view) :
    view.screenNames.Nodup ∧
      ∀ name ∈ view.screenNames, Text.isBareIdentifier name.toList = true := by
  simp only [ofText, Except.bind_eq_ok_iff, Except.pure_eq_ok_iff] at h
  obtain ⟨groups, -, screens, hscreens, rfl⟩ := h
  obtain ⟨hnodup, hall⟩ := readGroups_names hscreens
  refine ⟨hnodup, fun name hname => ?_⟩
  obtain ⟨screen, hscreen, rfl⟩ := List.mem_map.1 hname
  exact (hall screen hscreen).2

end ViewSection

/-! ## Trees -/

theorem ViewTree.screen_of_ofRoot {screen : String} {records : List ViewRecord} {root : ViewRecord}
    {tree : ViewTree} (h : ofRoot screen records root = .ok tree) : tree.screen = screen := by
  simp only [ofRoot] at h
  split at h
  · simp at h
  · split at h
    · simp at h
    · split at h
      · simp at h
      · cases h
        rfl

theorem ViewTree.screen_of_ofScreen {screen : ViewScreen} {tree : ViewTree}
    (h : ofScreen screen = .ok tree) : tree.screen = screen.name := by
  unfold ofScreen at h
  split at h
  · simp at h
  · split at h
    · exact screen_of_ofRoot h
    · simp at h

/-- There is one tree for each screen, in their order. -/
theorem ViewSection.screens_of_trees {view : ViewSection} {trees : List ViewTree}
    (h : view.trees = .ok trees) : trees.map (·.screen) = view.screenNames :=
  Except.map_eq_of_mapM h fun _ _ => ViewTree.screen_of_ofScreen

/-! ## Classes -/

/-- Whether two names differ in the case of their first letters at most. -/
def SameButCase (name other : String) : Prop :=
  ∃ c d rest, name.toList = c :: rest ∧ other.toList = d :: rest ∧ c.toUpper = d.toUpper

theorem toList_activityClassName {screen : String} {c : Char} {rest : List Char}
    (hscreen : screen.toList = c :: rest) (hname : Text.isBareIdentifier screen.toList = true) :
    (activityClassName screen).toList = c.toUpper :: (rest ++ "Activity".toList) := by
  rw [hscreen, Text.isBareIdentifier, Bool.and_eq_true] at hname
  rw [activityClassName, String.toList_ofList, hscreen, Text.capitalize_of_isNameStart hname.1]
  rfl

theorem exists_cons_of_isBareIdentifier {s : List Char} (h : Text.isBareIdentifier s = true) :
    ∃ c rest, s = c :: rest := by
  cases s with
  | nil => simp [Text.isBareIdentifier] at h
  | cons c rest => exact ⟨c, rest, rfl⟩

/-- The name of a class is an identifier, as the name of its screen is. -/
theorem isBareIdentifier_activityClassName {screen : String}
    (h : Text.isBareIdentifier screen.toList = true) :
    Text.isBareIdentifier (activityClassName screen).toList = true := by
  obtain ⟨c, rest, hscreen⟩ := exists_cons_of_isBareIdentifier h
  rw [toList_activityClassName hscreen h]
  rw [hscreen, Text.isBareIdentifier, Bool.and_eq_true] at h
  rw [Text.isBareIdentifier, Bool.and_eq_true, List.all_append, Bool.and_eq_true]
  exact ⟨(Text.upperCase_of_isNameStart h.1).2, h.2, by decide⟩

/-- **Screens have one class if their names differ in the case of the first letter at most.** -/
theorem activityClassName_eq_iff {screen other : String}
    (hscreen : Text.isBareIdentifier screen.toList = true)
    (hother : Text.isBareIdentifier other.toList = true) :
    activityClassName screen = activityClassName other ↔ SameButCase screen other := by
  obtain ⟨c, rest, hc⟩ := exists_cons_of_isBareIdentifier hscreen
  obtain ⟨d, more, hd⟩ := exists_cons_of_isBareIdentifier hother
  have hlists : activityClassName screen = activityClassName other ↔
      c.toUpper = d.toUpper ∧ rest = more := by
    rw [← String.toList_inj, toList_activityClassName hc hscreen, toList_activityClassName hd hother,
      List.cons.injEq, List.append_cancel_right_eq]
  rw [hlists]
  constructor
  · rintro ⟨hcase, rfl⟩
    exact ⟨c, d, rest, hc, hd, hcase⟩
  · rintro ⟨c', d', rest', hc', hd', hcase⟩
    cases hc.symm.trans hc'
    cases hd.symm.trans hd'
    exact ⟨hcase, rfl⟩

end BlockApp
