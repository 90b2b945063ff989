import BlockApp.Layout.Markup
import BlockApp.Proofs.Layout.Reader
import BlockApp.Proofs.View.Names

/-!
# Where written parts lead

A part of a document that is written leads the reader from one place to another, whatever stands behind it.
The parts are put together as they are written: characters of a value to values, values to tags.

* `Leads` — a text leads from a place to a place, and ends tags on its way
* `leads_valueChar` — a character of a value is read as itself
* `leads_assignments` — names and values are read as they were
* `leads_head`, `leads_empty`, `leads_opening`, `leads_closing` — tags
* `leads_breakChars` — line breaks and indentation
-/

namespace BlockApp.Layout

open Text

/-- Whether a text leads from a place to a place, whatever is behind it. `tags` are those that end in it. -/
def Leads (place : Place) (chunk : List Char) (tags : List Tag) (next : Place) : Prop :=
  ∀ rest, scan place (chunk ++ rest) = (scan next rest).map (tags ++ ·)

namespace Leads

variable {place next last : Place} {chunk chunk' : List Char} {tags tags' : List Tag} {c : Char}

theorem nil : Leads place [] [] place := by
  intro rest
  simp

theorem append (h : Leads place chunk tags next) (h' : Leads next chunk' tags' last) :
    Leads place (chunk ++ chunk') (tags ++ tags') last := by
  intro rest
  rw [List.append_assoc, h, h', Option.map_map]
  congr 1
  funext others
  exact (List.append_assoc tags tags' others).symm

theorem single (hstep : place.step c = some (tags, next)) : Leads place [c] tags next := by
  intro rest
  rw [List.singleton_append, scan, hstep]
  cases hrest : scan next rest <;> simp [hrest]

/-- A character in front that ends no tag. -/
theorem skip (next : Place) (hstep : place.step c = some ([], next))
    (h : Leads next chunk tags last) : Leads place (c :: chunk) tags last :=
  (single hstep).append h

end Leads

/-- Where each character of a text is added to what a place holds, all of it is. -/
theorem leads_gather (holding : List Char → Place) {chunk : List Char}
    (hstep : ∀ before, ∀ c ∈ chunk, (holding before).step c = some ([], holding (before ++ [c])))
    (before : List Char) : Leads (holding before) chunk [] (holding (before ++ chunk)) := by
  induction chunk generalizing before with
  | nil => simpa using Leads.nil
  | cons c chunk ih =>
    have hrest := ih (fun before d hd => hstep before d (List.mem_cons_of_mem _ hd)) (before ++ [c])
    rw [List.append_assoc] at hrest
    exact Leads.skip (holding (before ++ [c])) (hstep before c List.mem_cons_self) hrest

/-! ## Names -/

section Names

variable {c d : Char} {name : List Char} {head : Head}

theorem isMarkupPart_of_isNamePart (h : isNamePart c = true) : isMarkupPart c = true := by
  simp [isMarkupPart, h]

theorem isMarkupPart_of_mem (h : isMarkupName name = true) (hc : c ∈ name) :
    isMarkupPart c = true := by
  cases name with
  | nil => exact absurd hc List.not_mem_nil
  | cons first rest =>
    rw [isMarkupName, Bool.and_eq_true, List.all_eq_true] at h
    rcases List.mem_cons.1 hc with rfl | hc
    · exact isMarkupPart_of_isNamePart (isNamePart_of_isNameStart h.1)
    · exact h.2 c hc

theorem isMarkupName_of_isBareIdentifier (h : isBareIdentifier name = true) :
    isMarkupName name = true := by
  cases name with
  | nil => exact absurd h Bool.false_ne_true
  | cons first rest =>
    rw [isBareIdentifier, Bool.and_eq_true, List.all_eq_true] at h
    rw [isMarkupName, Bool.and_eq_true, List.all_eq_true]
    exact ⟨h.1, fun c hc => isMarkupPart_of_isNamePart (h.2 c hc)⟩

theorem ne_of_isMarkupPart (hc : isMarkupPart c = true) (hd : isMarkupPart d = false) : c ≠ d := by
  rintro rfl
  rw [hc] at hd
  exact absurd hd (by decide)

theorem leads_tagName (before : List Char) (h : ∀ c ∈ name, isMarkupPart c = true) :
    Leads (.tagName before) name [] (.tagName (before ++ name)) := by
  refine leads_gather .tagName (fun before c hc => ?_) before
  simp [Place.step, h c hc]

theorem leads_attributeName (before : List Char) (h : ∀ c ∈ name, isMarkupPart c = true) :
    Leads (.attributeName head before) name [] (.attributeName head (before ++ name)) := by
  refine leads_gather (.attributeName head) (fun before c hc => ?_) before
  have hne : c ≠ '=' := ne_of_isMarkupPart (h c hc) (by decide)
  simp [Place.step, hne, h c hc]

theorem leads_closingName (before : List Char) (h : ∀ c ∈ name, isMarkupPart c = true) :
    Leads (.closingName before) name [] (.closingName (before ++ name)) := by
  refine leads_gather .closingName (fun before c hc => ?_) before
  have hne : c ≠ '>' := ne_of_isMarkupPart (h c hc) (by decide)
  simp [Place.step, hne, h c hc]

end Names

/-! ## Values -/

section Values

variable {head : Head} {name text letters : List Char} {c : Char}

theorem leads_letters (before : List Char) (h : ';' ∉ letters) :
    Leads (.reference head name text before) letters []
      (.reference head name text (before ++ letters)) := by
  refine leads_gather (.reference head name text) (fun before c hc => ?_) before
  have hne : c ≠ ';' := fun hsame => h (hsame ▸ hc)
  simp [Place.step, hne]

/-- A reference is read as the character that it stands for. -/
theorem leads_reference (letters : List Char) (hmeant : references.lookup letters = some c)
    (hletters : ';' ∉ letters) :
    Leads (.value head name text) ('&' :: (letters ++ [';'])) [] (.value head name (text ++ [c])) := by
  refine Leads.skip (.reference head name text []) (by simp [Place.step]) ?_
  refine (leads_letters [] hletters).append (Leads.single ?_)
  simp [Place.step, hmeant]

/-- A character of a value is read as itself. -/
theorem leads_valueChar (c : Char) :
    Leads (.value head name text) (valueChar c) [] (.value head name (text ++ [c])) := by
  unfold valueChar
  split
  · exact leads_reference "amp".toList (by decide) (by decide)
  · exact leads_reference "lt".toList (by decide) (by decide)
  · exact leads_reference "gt".toList (by decide) (by decide)
  · exact leads_reference "quot".toList (by decide) (by decide)
  · exact leads_reference "#13".toList (by decide) (by decide)
  · exact leads_reference "#10".toList (by decide) (by decide)
  · exact leads_reference "#09".toList (by decide) (by decide)
  -- What stands as it is is none of the characters that a value may not hold.
  · refine Leads.single ?_
    simp_all [Place.step]

theorem leads_value (text value : List Char) :
    Leads (.value head name text) (value.flatMap valueChar) [] (.value head name (text ++ value)) := by
  induction value generalizing text with
  | nil => simpa using Leads.nil
  | cons c value ih =>
    have hrest := ih (text ++ [c])
    rw [List.append_assoc] at hrest
    rw [List.flatMap_cons]
    exact (leads_valueChar c).append hrest

end Values

/-! ## Tags -/

/-- Whether a place is behind the name or an attribute of a tag, with all of it read. -/
def Place.Ends (place : Place) (head : Head) : Prop :=
  ∀ c, isMarkupPart c = false → place.step c = Place.step.afterName head c

theorem Place.ends_tagName (name : List Char) : (Place.tagName name).Ends ⟨name, []⟩ := by
  intro c hc
  simp [Place.step, hc]

theorem Place.ends_afterValue (head : Head) : (Place.afterValue head).Ends head := fun _ _ => rfl

section Tags

variable {place : Place} {head : Head} {name value : List Char}
  {attributes : List (List Char × List Char)}

theorem Place.Ends.step_blank (h : place.Ends head) : place.step ' ' = some ([], .inTag head) := by
  rw [h ' ' (by decide)]
  rfl

/-- A name that is new in its tag is read as it was, with its value. -/
theorem leads_assignment (hends : place.Ends head) (hname : isMarkupName name = true)
    (hnew : name ∉ head.attributes.map (·.1)) :
    Leads place (assignment name value) []
      (.afterValue ⟨head.name, head.attributes ++ [(name, value)]⟩) := by
  cases name with
  | nil => exact absurd hname Bool.false_ne_true
  | cons first more =>
    rw [isMarkupName, Bool.and_eq_true, List.all_eq_true] at hname
    obtain ⟨hfirst, hmore⟩ := hname
    have hopen : Leads place (' ' :: first :: more) [] (.attributeName head (first :: more)) :=
      Leads.skip (.inTag head) hends.step_blank
        (Leads.skip (.attributeName head [first]) (by simp [Place.step, hfirst])
          (leads_attributeName [first] hmore))
    have hequals : Leads (.attributeName head (first :: more)) ['=', '"'] []
        (.value head (first :: more) []) :=
      Leads.skip (.equals head (first :: more)) (by simp [Place.step])
        (Leads.single (by simp [Place.step, hnew]))
    have hclose : Leads (.value head (first :: more) value) ['"'] []
        (.afterValue ⟨head.name, head.attributes ++ [(first :: more, value)]⟩) :=
      Leads.single (by simp [Place.step])
    exact ((hopen.append hequals).append (leads_value [] value)).append hclose

/-- Names with their values are read as they were. -/
theorem leads_assignments (hends : place.Ends head)
    (hnames : ∀ attr ∈ attributes, isMarkupName attr.1 = true)
    (hnodup : ((head.attributes ++ attributes).map (·.1)).Nodup) :
    ∃ next : Place, next.Ends ⟨head.name, head.attributes ++ attributes⟩ ∧
      Leads place (attributes.flatMap fun attr => assignment attr.1 attr.2) [] next := by
  induction attributes generalizing place head with
  | nil => exact ⟨place, by simpa using hends, Leads.nil⟩
  | cons attr attributes ih =>
    obtain ⟨name, value⟩ := attr
    obtain ⟨hname, hnames⟩ := List.forall_mem_cons.1 hnames
    have hnew : name ∉ head.attributes.map (·.1) := by
      rw [List.map_append, List.nodup_append] at hnodup
      exact fun hmem => hnodup.2.2 _ hmem _ (by simp) rfl
    have hfirst : Leads place (assignment name value) [] _ := leads_assignment hends hname hnew
    rw [List.append_cons] at hnodup ⊢
    have hplace := Place.ends_afterValue ⟨head.name, head.attributes ++ [(name, value)]⟩
    obtain ⟨next, hnext, hrest⟩ := ih hplace hnames hnodup
    exact ⟨next, hnext, hfirst.append hrest⟩

/-- A tag as far as its attributes. -/
theorem leads_head (hname : isMarkupName name = true)
    (hnames : ∀ attr ∈ attributes, isMarkupName attr.1 = true)
    (hnodup : (attributes.map (·.1)).Nodup) :
    ∃ next : Place, next.Ends ⟨name, attributes⟩ ∧
      Leads .content ('<' :: name ++ attributes.flatMap fun attr => assignment attr.1 attr.2) [] next := by
  have hopen : Leads .content ('<' :: name) [] (.tagName name) := by
    cases name with
    | nil => exact absurd hname Bool.false_ne_true
    | cons first more =>
      rw [isMarkupName, Bool.and_eq_true, List.all_eq_true] at hname
      have hne : first ≠ '/' :=
        ne_of_isMarkupPart (isMarkupPart_of_isNamePart (isNamePart_of_isNameStart hname.1)) (by decide)
      exact Leads.skip .opened (by simp [Place.step])
        (Leads.skip (.tagName [first]) (by simp [Place.step, hne, hname.1])
          (leads_tagName [first] hname.2))
  obtain ⟨next, hnext, hrest⟩ := leads_assignments (Place.ends_tagName name) hnames hnodup
  exact ⟨next, hnext, hopen.append hrest⟩

theorem leads_empty (hends : place.Ends head) :
    Leads place " />".toList [.empty head] .content :=
  Leads.skip (.inTag head) hends.step_blank
    (Leads.skip (.slash head) rfl (Leads.single rfl))

theorem leads_opening (hends : place.Ends head) : Leads place ['>'] [.opening head] .content := by
  refine Leads.single ?_
  rw [hends '>' (by decide)]
  rfl

theorem leads_closing (hname : isMarkupName name = true) :
    Leads .content ("</".toList ++ name ++ ['>']) [.closing name] .content := by
  have hopen : Leads .content ['<', '/'] [] (.closingName []) :=
    Leads.skip .opened rfl (Leads.single rfl)
  have hread := leads_closingName [] fun c hc => isMarkupPart_of_mem hname hc
  exact (hopen.append hread).append (Leads.single (by simp [Place.step]))

end Tags

/-! ## White space -/

theorem leads_blank {chunk : List Char} (h : ∀ c ∈ chunk, isSpace c = true) :
    Leads .content chunk [] .content := by
  induction chunk with
  | nil => exact Leads.nil
  | cons c chunk ih =>
    obtain ⟨hc, hchunk⟩ := List.forall_mem_cons.1 h
    have hne : c ≠ '<' := by
      rintro rfl
      exact absurd hc (by decide)
    exact Leads.skip .content (by simp [Place.step, hne, hc]) (ih hchunk)

/-- A line break with an indentation of spaces and TABs. -/
theorem leads_breakChars {unit : List Char} (hunit : ∀ c ∈ unit, c = ' ' ∨ c = '\t') (depth : Nat) :
    Leads .content (breakChars unit depth) [] .content := by
  refine leads_blank fun c hc => ?_
  obtain ⟨d, hd, hcd⟩ := List.mem_flatMap.1 hc
  have hspace : d = '\n' ∨ d = ' ' ∨ d = '\t' := by
    rw [lineBreak, List.mem_cons, List.mem_flatten] at hd
    refine hd.imp_right fun ⟨chunk, hchunk, hmem⟩ => hunit d ?_
    rwa [List.eq_of_mem_replicate hchunk] at hmem
  rcases hspace with rfl | rfl | rfl <;>
  · rw [show textChar _ = [_] from rfl, List.mem_singleton] at hcd
    rw [hcd]
    decide

theorem leads_lastBreakChars {unit : List Char} (hunit : ∀ c ∈ unit, c = ' ' ∨ c = '\t') (depth : Nat) :
    Leads .content (lastBreakChars unit depth) [] .content := by
  unfold lastBreakChars
  split
  · exact leads_breakChars hunit depth
  · exact leads_breakChars hunit (depth + 1)

end BlockApp.Layout
