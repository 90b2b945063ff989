import BlockApp.Logic.Event
import Mathlib.Data.List.Basic

/-!
# Keys of handlers

A key that means something is recovered from what it means. So different keys of one kind have methods of
different names, and only the method of a view's event and that of a more block can have the same.

* `Binding.key_of_ofKey?` — the key of what a key means is that key
* `Binding.ofKey?_moreBlockKey` — the key of a more block's handler is read as one
* `Binding.methodName_eq_iff` — which different keys have methods of one name
-/

namespace BlockApp

theorem ActivityEvent.name_of_ofName? {s : String} {event : ActivityEvent} (h : ofName? s = some event) :
    event.name = s := by
  simpa using List.find?_some h

namespace Binding

variable {name k k' : String} {binding binding' : Binding}

/-! ## Reading keys -/

theorem toList_moreBlockKey (name : String) :
    (moreBlockKey name).toList = name.toList ++ moreBlockEnding.toList :=
  String.toList_append

theorem moreBlockOfKey?_moreBlockKey (h : name ≠ "") :
    moreBlockOfKey? (moreBlockKey name) = some name := by
  have hname : 0 < name.toList.length := List.length_pos_iff.2 (by simpa using h)
  have hlength : moreBlockEnding.toList.length < (moreBlockKey name).toList.length := by
    rw [toList_moreBlockKey, List.length_append]
    omega
  have hending : moreBlockEnding.toList.isSuffixOf (moreBlockKey name).toList = true :=
    List.isSuffixOf_iff_suffix.2 ⟨name.toList, (toList_moreBlockKey name).symm⟩
  simp only [moreBlockOfKey?]
  rw [if_pos ⟨hending, hlength⟩, toList_moreBlockKey, List.length_append, Nat.add_sub_cancel,
    List.take_left, String.ofList_toList]

theorem moreBlockKey_ne_startUpKey : moreBlockKey name ≠ startUpKey := by
  intro h
  have hlast := congrArg (fun s : String => s.toList.getLast?) h
  rw [moreBlockKey] at hlast
  simp only [String.toList_append] at hlast
  rw [List.getLast?_append_of_ne_nil _ (by decide)] at hlast
  exact absurd hlast (by decide)

/-- The key of a more block's handler is read as one. -/
theorem ofKey?_moreBlockKey (h : name ≠ "") : ofKey? (moreBlockKey name) = some (.moreBlock name) := by
  rw [ofKey?, if_neg moreBlockKey_ne_startUpKey, moreBlockOfKey?_moreBlockKey h]

theorem eq_of_moreBlockOfKey? (h : moreBlockOfKey? k = some name) : k = moreBlockKey name := by
  simp only [moreBlockOfKey?] at h
  split at h
  · next hending =>
    cases h
    obtain ⟨front, hfront⟩ := List.isSuffixOf_iff_suffix.1 hending.1
    rw [← String.toList_inj, toList_moreBlockKey, ← hfront, List.length_append, Nat.add_sub_cancel,
      List.take_left, String.toList_ofList]
  · cases h

theorem eq_of_viewEventOfKey? {view : String} {event : ViewEvent}
    (h : viewEventOfKey? k = some (view, event)) : k = view ++ "_" ++ event.name := by
  unfold viewEventOfKey? at h
  split at h
  · next c front last hsplit =>
    obtain ⟨found, hfound, hpair⟩ := Option.map_eq_some_iff.1 h
    cases hpair
    obtain ⟨hkey, -⟩ := Text.eq_of_splitLast? hsplit
    rw [← String.toList_inj, hkey, ViewEvent.name_of_ofName? hfound]
    simp only [String.toList_append, String.toList_ofList]
    exact List.append_cons _ _ _
  · cases h

/-- The key that means something. -/
def key : Binding → String
  | .startUp => startUpKey
  | .activityEvent event => event.name
  | .viewEvent view event => view ++ "_" ++ event.name
  | .moreBlock name => moreBlockKey name

/-- **A key is recovered from what it means.** -/
theorem key_of_ofKey? (h : ofKey? k = some binding) : binding.key = k := by
  unfold ofKey? at h
  split at h
  · next hstart =>
    cases h
    exact hstart.symm
  split at h
  · next name hmore =>
    cases h
    exact (eq_of_moreBlockOfKey? hmore).symm
  split at h
  · next event hevent =>
    cases h
    exact ActivityEvent.name_of_ofName? hevent
  · obtain ⟨⟨view, event⟩, hview, hpair⟩ := Option.map_eq_some_iff.1 h
    cases hpair
    exact (eq_of_viewEventOfKey? hview).symm

/-! ## Names of methods -/

theorem methodName_viewEvent (view : String) (event : ViewEvent) :
    (Binding.viewEvent view event).methodName = "_" ++ (Binding.viewEvent view event).key := by
  simp [methodName, Binding.key, toString, String.append_assoc]

theorem methodName_moreBlock (name : String) : (Binding.moreBlock name).methodName = "_" ++ name := rfl

/-- Whether the method of a binding is named after a view or a more block. -/
def isOwn : Binding → Bool
  | .startUp | .activityEvent _ => false
  | .viewEvent .. | .moreBlock _ => true

/-- Only such a name begins with an underscore. -/
theorem head?_methodName (binding : Binding) :
    binding.methodName.toList.head? = some '_' ↔ binding.isOwn = true := by
  cases binding with
  | startUp => decide
  | activityEvent event => cases event <;> decide
  | viewEvent view event =>
    rw [methodName_viewEvent, String.toList_append]
    exact iff_of_true rfl rfl
  | moreBlock name =>
    rw [methodName_moreBlock, String.toList_append]
    exact iff_of_true rfl rfl

/-- The other names are apart. -/
theorem eq_of_methodName (h : binding.methodName = binding'.methodName) (hown : binding.isOwn = false)
    (hown' : binding'.isOwn = false) : binding = binding' := by
  cases binding with
  | viewEvent | moreBlock => cases hown
  | startUp =>
    cases binding' with
    | viewEvent | moreBlock => cases hown'
    | startUp => rfl
    | activityEvent event => cases event <;> exact absurd h (by decide)
  | activityEvent event =>
    cases binding' with
    | viewEvent | moreBlock => cases hown'
    | startUp => cases event <;> exact absurd h (by decide)
    | activityEvent event' =>
      have hevent := congrArg ActivityEvent.ofName? h
      rw [methodName, methodName, ActivityEvent.ofName?_name, ActivityEvent.ofName?_name] at hevent
      rw [Option.some.inj hevent]

theorem methodName_eq_startUp_iff : binding.methodName = "initializeLogic" ↔ binding = .startUp := by
  constructor
  · intro h
    have hown : binding.isOwn = false := by
      rw [← Bool.not_eq_true, ← head?_methodName, h]
      decide
    have hnames : binding.methodName = Binding.startUp.methodName := h
    exact eq_of_methodName hnames hown rfl
  · rintro rfl
    rfl

theorem rank_lt (binding : Binding) : binding.rank < 4 := by
  cases binding <;> simp [rank]

theorem rank_eq_zero_iff : binding.rank = 0 ↔ binding = .startUp := by
  cases binding <;> simp [rank]

theorem methodName_beq_start (binding : Binding) :
    (binding.methodName == "initializeLogic") = (binding.rank == 0) := by
  rw [Bool.eq_iff_iff, beq_iff_eq, beq_iff_eq, rank_eq_zero_iff, methodName_eq_startUp_iff]

/-- The method of a more block that is named like the key of a view's event is named like that of the
event. -/
theorem methodName_eq_of_moreBlockKey {view : String} {event : ViewEvent}
    (h : ofKey? k = some (.viewEvent view event)) (h' : ofKey? (moreBlockKey k) = some binding') :
    (Binding.viewEvent view event).methodName = binding'.methodName := by
  have hne : k ≠ "" := by
    rintro rfl
    cases h
  rw [ofKey?_moreBlockKey hne] at h'
  cases h'
  rw [methodName_viewEvent, key_of_ofKey? h, methodName_moreBlock]

/-- **Different keys have methods of one name** exactly if one of them is of a view's event, and the other
of a more block with that key as its name. -/
theorem methodName_eq_iff (h : ofKey? k = some binding) (h' : ofKey? k' = some binding') (hne : k ≠ k') :
    binding.methodName = binding'.methodName ↔
      (∃ view event, binding = .viewEvent view event ∧ k' = moreBlockKey k) ∨
      ∃ view event, binding' = .viewEvent view event ∧ k = moreBlockKey k' := by
  have hkey := key_of_ofKey? h
  have hkey' := key_of_ofKey? h'
  constructor
  · intro hnames
    have hsame : binding.isOwn = binding'.isOwn := by
      rw [Bool.eq_iff_iff, ← head?_methodName, ← head?_methodName, hnames]
    cases hown : binding.isOwn with
    | false =>
      have hbinding := eq_of_methodName hnames hown (hsame ▸ hown)
      exact absurd (hkey.symm.trans ((congrArg key hbinding).trans hkey')) hne
    | true =>
      have hown' := hsame ▸ hown
      cases binding with
      | startUp | activityEvent => cases hown
      | viewEvent view event =>
        rw [methodName_viewEvent, hkey] at hnames
        cases binding' with
        | startUp | activityEvent => cases hown'
        | viewEvent view' event' =>
          rw [methodName_viewEvent, hkey', String.append_right_inj] at hnames
          exact absurd hnames hne
        | moreBlock name =>
          rw [methodName_moreBlock, String.append_right_inj] at hnames
          subst hnames
          exact .inl ⟨view, event, rfl, hkey'.symm⟩
      | moreBlock name =>
        rw [methodName_moreBlock] at hnames
        cases binding' with
        | startUp | activityEvent => cases hown'
        | viewEvent view' event' =>
          rw [methodName_viewEvent, hkey', String.append_right_inj] at hnames
          subst hnames
          exact .inr ⟨view', event', rfl, hkey.symm⟩
        | moreBlock name' =>
          rw [methodName_moreBlock, String.append_right_inj] at hnames
          subst hnames
          exact absurd (hkey.symm.trans hkey') hne
  · rintro (⟨view, event, rfl, rfl⟩ | ⟨view, event, rfl, rfl⟩)
    · exact methodName_eq_of_moreBlockKey h h'
    · exact (methodName_eq_of_moreBlockKey h' h).symm

end Binding

end BlockApp
