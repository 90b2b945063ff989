import BlockApp.Proofs.Layout.Roundtrip
import Mathlib.Data.List.Forall2

/-!
# Attributes that are translated

Which attributes of a view can be translated, and what its element has then: each name once, where the view
first has an attribute of that name, and with the value that it has last. Two attributes of a view can have
the same name in an element.

* `Translatable` — an attribute that has a rule of its kind, and what it refers to is there
* `keptOf` — the attributes of a view that are in its element, with their rules
* `Conveys` — the attributes of an element are those of a view
* `exists_attributesOf_iff`, `conveys_attributesOf` — when a view has attributes in a layout, and which
-/

namespace BlockApp.Layout

variable {assets : Assets} {screen : String} {inside : Option Component} {type : Component}
  {record : ViewRecord} {attr : ViewAttribute} {attributes settings : List (AttributeName × String)}
  {name : AttributeName} {value : String}

/-! ## Setting one after the other -/

theorem mem_setAttribute_self (attributes : List (AttributeName × String)) (name : AttributeName)
    (value : String) : (name, value) ∈ setAttribute attributes name value := by
  induction attributes with
  | nil => exact List.mem_singleton_self _
  | cons first attributes ih =>
    rw [setAttribute]
    split
    · exact List.mem_cons_self
    · exact List.mem_cons_of_mem _ ih

theorem mem_setAttribute_of_ne {entry : AttributeName × String} (h : entry ∈ attributes)
    (hne : entry.1 ≠ name) : entry ∈ setAttribute attributes name value := by
  induction attributes with
  | nil => exact absurd h List.not_mem_nil
  | cons first attributes ih =>
    rw [setAttribute]
    rcases List.mem_cons.1 h with rfl | h
    · rw [if_neg hne]
      exact List.mem_cons_self
    · split
      · exact List.mem_cons_of_mem _ h
      · exact List.mem_cons_of_mem _ (ih h)

/-- What is set stays until its name is set again. -/
theorem mem_setAll_of_ne {entry : AttributeName × String} (h : entry ∈ attributes)
    (hne : ∀ setting ∈ settings, setting.1 ≠ entry.1) : entry ∈ setAll attributes settings := by
  induction settings generalizing attributes with
  | nil => exact h
  | cons setting settings ih =>
    obtain ⟨hsetting, hsettings⟩ := List.forall_mem_cons.1 hne
    exact ih (mem_setAttribute_of_ne h hsetting.symm) hsettings

/-- The last value that is set for a name is the one it has. -/
theorem mem_setAll_of_last {before after : List (AttributeName × String)}
    (h : ∀ setting ∈ after, setting.1 ≠ name) :
    (name, value) ∈ setAll attributes (before ++ (name, value) :: after) := by
  rw [setAll, List.foldl_append, List.foldl_cons]
  exact mem_setAll_of_ne (mem_setAttribute_self _ name value) h

/-- A value that is there twice counts where it is first. -/
theorem eraseDups_append_cons {α : Type} [BEq α] [LawfulBEq α] {x : α} {xs : List α} (h : x ∈ xs)
    (ys : List α) : (xs ++ x :: ys).eraseDups = (xs ++ ys).eraseDups := by
  rw [List.eraseDups_append, List.eraseDups_append, List.cons_removeAll]
  simp [h]

/-- Names are in the order in which they are first set. -/
theorem names_setAll (h : (attributes.map (·.1)).eraseDups = attributes.map (·.1)) :
    (setAll attributes settings).map (·.1) = (attributes.map (·.1) ++ settings.map (·.1)).eraseDups := by
  induction settings generalizing attributes with
  | nil => simpa [setAll] using h.symm
  | cons setting settings ih =>
    have hnames := names_setAttribute attributes setting.1 setting.2
    have hset : ((setAttribute attributes setting.1 setting.2).map (·.1)).eraseDups =
        (setAttribute attributes setting.1 setting.2).map (·.1) := by
      rw [hnames]
      split
      · exact h
      · next hnew =>
        rw [List.eraseDups_append, h, List.cons_removeAll]
        simp [hnew, List.eraseDups_cons]
    have hrest := ih hset
    rw [show setAll attributes (setting :: settings) =
      setAll (setAttribute attributes setting.1 setting.2) settings from rfl, hrest, hnames]
    split
    · next hold => rw [List.map_cons, eraseDups_append_cons hold]
    · rw [List.append_assoc, List.singleton_append, List.map_cons]

/-! ## Rules -/

theorem mem_attributeRules {name : String} {rule : AttributeRule}
    (h : attributeRules.lookup name = some rule) : (name, rule) ∈ attributeRules := by
  obtain ⟨before, after, hrules, -⟩ := List.lookup_eq_some_iff.1 h
  rw [hrules]
  exact List.mem_append_right _ List.mem_cons_self

theorem target_eq_orientationName_iff {name : String} {rule : AttributeRule}
    (h : attributeRules.lookup name = some rule) :
    rule.target = orientationName ↔ name = "orientation" := by
  have hall : ∀ entry ∈ attributeRules, entry.2.target = orientationName ↔ entry.1 = "orientation" := by
    decide
  exact hall _ (mem_attributeRules h)

theorem target_ne_contextName {name : String} {rule : AttributeRule}
    (h : attributeRules.lookup name = some rule) : rule.target ≠ contextName := by
  have hall : ∀ entry ∈ attributeRules, entry.2.target ≠ contextName := by decide
  exact hall _ (mem_attributeRules h)

/-! ## Values -/

/-- Whether what a value refers to is there. Only images, fonts and custom views are referred to. -/
def Declared (assets : Assets) (form : ValueForm) (value : String) : Prop :=
  match form with
  | .drawable => assets.resources.has .image value = true
  | .font => assets.resources.has .font value = true
  | .layout => assets.files.isCustomView value = true
  | .size | .dp | .sp | .text | .color | .verbatim => True

theorem exists_reference_iff {there : Bool} {what folder : String} :
    (∃ text, reference there what folder value = .ok text) ↔ there = true := by
  unfold reference
  split
  · next h => simp [h]
  · next h => simp [h]

theorem exists_valueText_iff {form : ValueForm} :
    (∃ text, valueText assets form value = .ok text) ↔ Declared assets form value := by
  cases form with
  | drawable | font | layout => exact exists_reference_iff
  | size | dp | sp | text | color | verbatim => exact iff_of_true ⟨_, rfl⟩ trivial

/-! ## Attributes of a view -/

/-- Whether an attribute is dropped: a weight counts only inside of a linear layout. -/
def isDropped (inside : Option Component) (attr : ViewAttribute) : Bool :=
  attr.name == "layout_weight" && inside != some .linearLayout

/-- The attributes of a view that are in its element, with their rules. -/
def keptOf (inside : Option Component) (attributes : List ViewAttribute) :
    List (AttributeRule × ViewAttribute) :=
  attributes.filterMap fun attr =>
    if isDropped inside attr then none else (attributeRules.lookup attr.name).map (·, attr)

/-- Whether an attribute of a view of a type can be translated. What a dropped one refers to would not
matter, but a weight refers to nothing. -/
structure Translatable (assets : Assets) (type : String) (attr : ViewAttribute) : Prop where
  known : ∃ rule, attributeRules.lookup attr.name = some rule ∧ rule.kind = attr.kind ∧
    Declared assets rule.form attr.value
  oriented : attr.name = "orientation" → type = Component.linearLayout.name

theorem ruleFor?_eq_some_iff {rule : AttributeRule} :
    ruleFor? attr = some rule ↔ attributeRules.lookup attr.name = some rule ∧ rule.kind = attr.kind := by
  rw [ruleFor?, Option.filter_eq_some_iff, beq_iff_eq]

/-- What an attribute sets. -/
theorem attributeOf_eq_ok_iff {setting? : Option (AttributeName × String)} :
    attributeOf assets screen inside record attr = .ok setting? ↔
      ∃ rule, attributeRules.lookup attr.name = some rule ∧ rule.kind = attr.kind ∧
        (attr.name = "orientation" → record.type = Component.linearLayout.name) ∧
        if isDropped inside attr then setting? = none
        else ∃ value, valueText assets rule.form attr.value = .ok value ∧
          setting? = some (rule.target, value) := by
  unfold attributeOf
  cases hrule : ruleFor? attr with
  | none =>
    refine iff_of_false nofun ?_
    rintro ⟨rule, hlookup, hkind, -⟩
    rw [ruleFor?_eq_some_iff.2 ⟨hlookup, hkind⟩] at hrule
    exact absurd hrule nofun
  | some rule =>
    obtain ⟨hlookup, hkind⟩ := ruleFor?_eq_some_iff.1 hrule
    simp only [hlookup, Option.some.injEq, exists_eq_left', hkind, true_and]
    by_cases horiented : attr.name = "orientation" ∧ record.type ≠ Component.linearLayout.name
    · rw [if_pos horiented]
      exact iff_of_false nofun fun h => horiented.2 (h.1 horiented.1)
    · have himp : attr.name = "orientation" → record.type = Component.linearLayout.name :=
        fun hname => Classical.not_not.1 fun htype => horiented ⟨hname, htype⟩
      rw [if_neg horiented, and_iff_right himp]
      by_cases hdropped : attr.name = "layout_weight" ∧ inside ≠ some .linearLayout
      · have hdrop : isDropped inside attr = true := by simpa [isDropped] using hdropped
        simp [hdropped, hdrop, eq_comm]
      · have hkeep : isDropped inside attr = false := by simpa [isDropped] using hdropped
        rw [if_neg hdropped, hkeep, if_neg Bool.false_ne_true]
        simp only [Except.bind_eq_ok_iff, Except.mapError_eq_ok_iff, Except.pure_eq_ok_iff]
        exact exists_congr fun value => and_congr_right fun _ => eq_comm

/-- An attribute sets something, or nothing, exactly if it can be translated. -/
theorem exists_attributeOf_iff (screen : String) (inside : Option Component) (record : ViewRecord) :
    (∃ setting?, attributeOf assets screen inside record attr = .ok setting?) ↔
      Translatable assets record.type attr := by
  simp only [attributeOf_eq_ok_iff]
  constructor
  · rintro ⟨setting?, rule, hlookup, hkind, horiented, hset⟩
    refine ⟨⟨rule, hlookup, hkind, ?_⟩, horiented⟩
    split at hset
    · next hdrop =>
      -- a weight is written as it is
      have hname : attr.name = "layout_weight" := by simp_all [isDropped]
      rw [hname] at hlookup
      have hform : rule.form = .verbatim := by
        have hall : ∀ entry ∈ attributeRules, entry.1 = "layout_weight" → entry.2.form = .verbatim := by
          decide
        exact hall _ (mem_attributeRules hlookup) rfl
      rw [hform]
      trivial
    · obtain ⟨value, hvalue, -⟩ := hset
      exact exists_valueText_iff.1 ⟨value, hvalue⟩
  · rintro ⟨⟨rule, hlookup, hkind, hdeclared⟩, horiented⟩
    obtain ⟨value, hvalue⟩ := exists_valueText_iff.2 hdeclared
    cases hdrop : isDropped inside attr with
    | true => exact ⟨none, rule, hlookup, hkind, horiented, by simp⟩
    | false => exact ⟨some (rule.target, value), rule, hlookup, hkind, horiented, by simp [hvalue]⟩

/-- Whether a setting is what an attribute of a view with its rule sets. -/
def Sets (assets : Assets) (kept : AttributeRule × ViewAttribute) (setting : AttributeName × String) :
    Prop :=
  setting.1 = kept.1.target ∧ valueText assets kept.1.form kept.2.value = .ok setting.2

/-- What the attributes of a view set, one after the other, comes from those that are kept. -/
theorem forall₂_sets_of_mapM {views : List ViewAttribute} {results : List (Option (AttributeName × String))}
    (h : views.mapM (attributeOf assets screen inside record) = .ok results) :
    List.Forall₂ (Sets assets) (keptOf inside views) (results.filterMap id) := by
  induction views generalizing results with
  | nil =>
    cases h
    exact .nil
  | cons view views ih =>
    obtain ⟨setting?, rest, hsetting, hrest, rfl⟩ := Except.mapM_cons_eq_ok_iff.1 h
    obtain ⟨rule, hlookup, -, -, hset⟩ := attributeOf_eq_ok_iff.1 hsetting
    cases hdrop : isDropped inside view with
    | true =>
      rw [hdrop, if_pos rfl] at hset
      simpa [keptOf, hdrop, hset] using ih hrest
    | false =>
      rw [hdrop, if_neg Bool.false_ne_true] at hset
      obtain ⟨value, hvalue, rfl⟩ := hset
      simpa [keptOf, hdrop, hlookup] using List.Forall₂.cons ⟨rfl, hvalue⟩ (ih hrest)

section Sets

variable {kept before after : List (AttributeRule × ViewAttribute)} {entry : AttributeRule × ViewAttribute}

theorem names_of_sets (h : List.Forall₂ (Sets assets) kept settings) :
    settings.map (·.1) = kept.map (·.1.target) := by
  induction h with
  | nil => rfl
  | cons hset _ ih => rw [List.map_cons, List.map_cons, hset.1, ih]

theorem exists_split_of_sets (h : List.Forall₂ (Sets assets) (before ++ entry :: after) settings) :
    ∃ earlier setting later, settings = earlier ++ setting :: later ∧ Sets assets entry setting ∧
      List.Forall₂ (Sets assets) after later := by
  induction before generalizing settings with
  | nil =>
    cases h with
    | cons hset hrest => exact ⟨[], _, _, rfl, hset, hrest⟩
  | cons first before ih =>
    cases h with
    | cons _ hrest =>
      obtain ⟨earlier, setting, later, rfl, hset, hlater⟩ := ih hrest
      exact ⟨_ :: earlier, setting, later, rfl, hset, hlater⟩

end Sets

/-! ## The attributes of an element -/

/-- Whether a view is a linear layout that does not say which way it runs. -/
def IsUndirected (type : Component) (record : ViewRecord) : Prop :=
  type = .linearLayout ∧ record.attribute? "orientation" = none

instance (type : Component) (record : ViewRecord) : Decidable (IsUndirected type record) :=
  inferInstanceAs (Decidable (_ ∧ _))

/-- Whether attributes of an element are those of a view that stands inside of one of a type. `context?` is
the class that the element names, if it does. -/
structure Conveys (assets : Assets) (inside : Option Component) (type : Component) (record : ViewRecord)
    (context? : Option String) (attributes : List (AttributeName × String)) : Prop where
  /-- The identifier is first. -/
  first : attributes.head? = some (idName, "@+id/" ++ record.id)
  /-- The other names are those of the attributes that are kept, where they are first; then there is the
  direction, if the view does not say it, and the class. -/
  names : attributes.map (·.1) = idName ::
    (((keptOf inside record.attributes).map (·.1.target)).eraseDups ++
      (if IsUndirected type record then [orientationName] else []) ++
      (context?.map fun _ => contextName).toList)
  /-- No name is there twice. -/
  nodup : (attributes.map (·.1)).Nodup
  /-- The value of a name is that of the last attribute that is kept and has it. -/
  last : ∀ before rule attr after, keptOf inside record.attributes = before ++ (rule, attr) :: after →
    (∀ later ∈ after, later.1.target ≠ rule.target) →
      ∃ value, valueText assets rule.form attr.value = .ok value ∧ (rule.target, value) ∈ attributes
  /-- A linear layout that does not say it runs from top to bottom. -/
  vertical : IsUndirected type record → (orientationName, "vertical") ∈ attributes
  /-- Linear layouts say which way they run, and nothing else does. -/
  oriented : orientationName ∈ attributes.map (·.1) ↔ type = .linearLayout
  /-- The class is named if there is one. -/
  context : ∀ value, (contextName, value) ∈ attributes ↔ context? = some value

/-- The direction that is set for a view that does not say it. -/
def directionOf (type : Component) (record : ViewRecord) : List (AttributeName × String) :=
  if IsUndirected type record then [(orientationName, "vertical")] else []

theorem names_directionOf (type : Component) (record : ViewRecord) :
    (directionOf type record).map (·.1) = if IsUndirected type record then [orientationName] else [] := by
  unfold directionOf
  split <;> rfl

theorem attributesOf_eq_ok_iff :
    attributesOf assets screen inside type record = .ok attributes ↔ ∃ results,
      record.attributes.mapM (attributeOf assets screen inside record) = .ok results ∧
        attributes = setAll [(idName, "@+id/" ++ record.id)]
          (results.filterMap id ++ directionOf type record) := by
  simp only [attributesOf, Except.bind_eq_ok_iff, Except.pure_eq_ok_iff]
  exact exists_congr fun results => and_congr_right fun _ => eq_comm

/-- **A view has attributes in a layout exactly if each of its own can be translated.** -/
theorem exists_attributesOf_iff :
    (∃ attributes, attributesOf assets screen inside type record = .ok attributes) ↔
      ∀ attr ∈ record.attributes, Translatable assets record.type attr := by
  simp only [← exists_attributeOf_iff screen inside record, ← Except.exists_mapM_eq_ok_iff]
  exact Except.exists_bind_pure_eq_ok_iff

theorem mem_targets_keptOf_iff {views : List ViewAttribute} :
    name ∈ (keptOf inside views).map (·.1.target) ↔ ∃ attr ∈ views, ∃ rule,
      isDropped inside attr = false ∧ attributeRules.lookup attr.name = some rule ∧
        rule.target = name := by
  simp only [keptOf, List.map_filterMap, List.mem_filterMap]
  refine exists_congr fun attr => and_congr_right fun _ => ?_
  cases isDropped inside attr <;> simp

theorem attribute?_ne_none_iff {name : String} :
    record.attribute? name ≠ none ↔ ∃ attr ∈ record.attributes, attr.name = name := by
  simp [ViewRecord.attribute?]

/-- A direction is kept exactly if a view says one. -/
theorem orientationName_mem_targets_iff (inside : Option Component)
    (h : ∀ attr ∈ record.attributes, Translatable assets record.type attr) :
    orientationName ∈ (keptOf inside record.attributes).map (·.1.target) ↔
      record.attribute? "orientation" ≠ none := by
  rw [mem_targets_keptOf_iff, attribute?_ne_none_iff]
  refine exists_congr fun attr => and_congr_right fun hattr => ?_
  constructor
  · rintro ⟨rule, -, hlookup, htarget⟩
    exact (target_eq_orientationName_iff hlookup).1 htarget
  · intro hname
    obtain ⟨rule, hlookup, -⟩ := (h attr hattr).known
    have hkept : isDropped inside attr = false := by simp [isDropped, hname]
    exact ⟨rule, hkept, hlookup, (target_eq_orientationName_iff hlookup).2 hname⟩

theorem contextName_notMem_targets (views : List ViewAttribute) :
    contextName ∉ (keptOf inside views).map (·.1.target) := by
  rw [mem_targets_keptOf_iff]
  rintro ⟨attr, -, rule, -, hlookup, htarget⟩
  exact target_ne_contextName hlookup htarget

theorem idName_notMem_targets (views : List ViewAttribute) :
    idName ∉ (keptOf inside views).map (·.1.target) := by
  rw [mem_targets_keptOf_iff]
  rintro ⟨attr, -, rule, -, hlookup, htarget⟩
  exact (settable_target (mem_attributeRules hlookup)).ne_id htarget

theorem Component.eq_linearLayout_iff {name : String} (h : Component.ofName? name = some type) :
    type = .linearLayout ↔ name = Component.linearLayout.name := by
  rw [← Component.name_of_ofName? h]
  cases type <;> decide

/-- The names that are set beside the identifier. -/
theorem names_setAll_id {first : String} (h : idName ∉ settings.map (·.1)) :
    (setAll [(idName, first)] settings).map (·.1) = idName :: (settings.map (·.1)).eraseDups := by
  have hone : ([(idName, first)].map (·.1)).eraseDups = [(idName, first)].map (·.1) := by
    simp [List.eraseDups_cons]
  have hothers : (settings.map (·.1)).filter (fun name => !name == idName) = settings.map (·.1) :=
    List.filter_eq_self.2 fun name hname => by
      have hne : name ≠ idName := fun heq => h (heq ▸ hname)
      simpa using hne
  rw [names_setAll hone, List.map_singleton, List.singleton_append, List.eraseDups_cons, hothers]

/-- The names of a view's element: those of the attributes that are kept, and the direction. -/
theorem names_setAll_directionOf (type : Component) (first : String)
    (htranslatable : ∀ attr ∈ record.attributes, Translatable assets record.type attr)
    (hsets : List.Forall₂ (Sets assets) (keptOf inside record.attributes) settings) :
    (setAll [(idName, first)] (settings ++ directionOf type record)).map (·.1) = idName ::
      (((keptOf inside record.attributes).map (·.1.target)).eraseDups ++
        if IsUndirected type record then [orientationName] else []) := by
  have hnames : (settings ++ directionOf type record).map (·.1) =
      (keptOf inside record.attributes).map (·.1.target) ++
        if IsUndirected type record then [orientationName] else [] := by
    rw [List.map_append, names_of_sets hsets, names_directionOf]
  have hid : idName ∉ (settings ++ directionOf type record).map (·.1) := by
    rw [hnames, List.mem_append]
    rintro (hmem | hmem)
    · exact idName_notMem_targets record.attributes hmem
    · split at hmem
      · exact absurd hmem (by decide)
      · exact absurd hmem List.not_mem_nil
  rw [names_setAll_id hid, hnames]
  split
  · next hundirected =>
    have hnew : orientationName ∉ (keptOf inside record.attributes).map (·.1.target) := fun hmem =>
      (orientationName_mem_targets_iff inside htranslatable).1 hmem hundirected.2
    rw [List.eraseDups_append, List.cons_removeAll]
    simp [hnew, List.eraseDups_cons]
  · rw [List.append_nil, List.append_nil]

/-- The direction is set when the view does not say it, so no attribute that is kept has its name. -/
theorem ne_target_of_mem_directionOf {entry : AttributeRule × ViewAttribute}
    {setting : AttributeName × String}
    (htranslatable : ∀ attr ∈ record.attributes, Translatable assets record.type attr)
    (hentry : entry ∈ keptOf inside record.attributes) (hsetting : setting ∈ directionOf type record) :
    setting.1 ≠ entry.1.target := by
  rw [directionOf] at hsetting
  split at hsetting
  · next hundirected =>
    rw [List.mem_singleton.1 hsetting]
    intro htarget
    have hmem := List.mem_map_of_mem (f := (·.1.target)) hentry
    rw [← htarget] at hmem
    exact (orientationName_mem_targets_iff inside htranslatable).1 hmem hundirected.2
  · exact absurd hsetting List.not_mem_nil

/-- What is kept last of a name is what is set. -/
theorem exists_value_of_last {before after : List (AttributeRule × ViewAttribute)} {rule : AttributeRule}
    {first : String} (htranslatable : ∀ attr ∈ record.attributes, Translatable assets record.type attr)
    (hsets : List.Forall₂ (Sets assets) (keptOf inside record.attributes) settings)
    (hkept : keptOf inside record.attributes = before ++ (rule, attr) :: after)
    (hlast : ∀ later ∈ after, later.1.target ≠ rule.target) :
    ∃ value, valueText assets rule.form attr.value = .ok value ∧
      (rule.target, value) ∈ setAll [(idName, first)] (settings ++ directionOf type record) := by
  have hentry : (rule, attr) ∈ keptOf inside record.attributes := by
    rw [hkept]
    simp
  rw [hkept] at hsets
  obtain ⟨earlier, ⟨name, value⟩, later, hsettings, ⟨hname, hvalue⟩, hlater⟩ := exists_split_of_sets hsets
  obtain rfl : name = rule.target := hname
  refine ⟨value, hvalue, ?_⟩
  rw [hsettings, List.append_assoc, List.cons_append]
  refine mem_setAll_of_last fun setting hsetting => ?_
  rcases List.mem_append.1 hsetting with hsetting | hsetting
  · have hmem : setting.1 ∈ after.map (·.1.target) := by
      rw [← names_of_sets hlater]
      exact List.mem_map_of_mem hsetting
    obtain ⟨kept, hafter, htarget⟩ := List.mem_map.1 hmem
    rw [← htarget]
    exact hlast kept hafter
  · exact ne_target_of_mem_directionOf htranslatable hentry hsetting

/-- Linear layouts say which way they run, and nothing else does. -/
theorem orientationName_mem_setAll_iff {first : String} (htype : Component.ofName? record.type = some type)
    (htranslatable : ∀ attr ∈ record.attributes, Translatable assets record.type attr)
    (hsets : List.Forall₂ (Sets assets) (keptOf inside record.attributes) settings) :
    orientationName ∈ (setAll [(idName, first)] (settings ++ directionOf type record)).map (·.1) ↔
      type = .linearLayout := by
  have hid : orientationName ≠ idName := by decide
  rw [names_setAll_directionOf type first htranslatable hsets, List.mem_cons, or_iff_right hid,
    List.mem_append, List.mem_eraseDups, orientationName_mem_targets_iff inside htranslatable]
  constructor
  · rintro (hsome | hdirection)
    · obtain ⟨attr, hattr, hname⟩ := attribute?_ne_none_iff.1 hsome
      exact (Component.eq_linearLayout_iff htype).2 ((htranslatable attr hattr).oriented hname)
    · split at hdirection
      · next hundirected => exact hundirected.1
      · exact absurd hdirection List.not_mem_nil
  · intro hlinear
    by_cases hnone : record.attribute? "orientation" = none
    · right
      rw [if_pos ⟨hlinear, hnone⟩]
      exact List.mem_singleton_self _
    · exact .inl hnone

/-- A view does not set the class that its element names. -/
theorem contextName_notMem_setAll {first : String}
    (htranslatable : ∀ attr ∈ record.attributes, Translatable assets record.type attr)
    (hsets : List.Forall₂ (Sets assets) (keptOf inside record.attributes) settings) :
    contextName ∉ (setAll [(idName, first)] (settings ++ directionOf type record)).map (·.1) := by
  rw [names_setAll_directionOf type first htranslatable hsets, List.mem_cons, List.mem_append,
    List.mem_eraseDups]
  rintro (hid | hkept | hdirection)
  · exact absurd hid (by decide)
  · exact contextName_notMem_targets record.attributes hkept
  · split at hdirection
    · exact absurd hdirection (by decide)
    · exact absurd hdirection List.not_mem_nil

/-- **The attributes of a view in a layout are what its own set.** -/
theorem conveys_attributesOf (htype : Component.ofName? record.type = some type)
    (h : attributesOf assets screen inside type record = .ok attributes) :
    Conveys assets inside type record none attributes := by
  have htranslatable := exists_attributesOf_iff.1 ⟨attributes, h⟩
  have hidentifies := identifies_attributesOf h
  obtain ⟨results, hresults, rfl⟩ := attributesOf_eq_ok_iff.1 h
  have hsets := forall₂_sets_of_mapM hresults
  refine ⟨hidentifies.first, ?_, hidentifies.nodup, ?_, ?_, ?_, ?_⟩
  · simpa using names_setAll_directionOf type ("@+id/" ++ record.id) htranslatable hsets
  · intro before rule attr after hkept hlast
    exact exists_value_of_last htranslatable hsets hkept hlast
  · intro hundirected
    rw [directionOf, if_pos hundirected]
    exact mem_setAll_of_last (by simp)
  · exact orientationName_mem_setAll_iff htype htranslatable hsets
  · intro value
    refine iff_of_false (fun hmem => ?_) nofun
    exact contextName_notMem_setAll htranslatable hsets (List.mem_map.2 ⟨_, hmem, rfl⟩)

end BlockApp.Layout
