import BlockApp.Proofs.Method.Braces
import BlockApp.Proofs.Method.Levels
import BlockApp.Proofs.Nesting.Handler

/-!
# A method is its records

The lines of the method of a handler, said of the records that the handler was read from: one line for
each of them, in order, and a closing brace for each block that holds others, right behind what it holds.

* `filter_withBraces`, `countP_withBraces` — the lines of rows, and the closing braces between them
* `withBraces_inside`, `withBraces_of_records` — where the brace of a block stands
* `methodLines_of_records` — the method of a handler
-/

namespace BlockApp.Source

/-- Whether a line is a closing brace alone. -/
def isClosing (line : Line) : Bool := line.text == "\x7d"

/-- Whether a row is of a block that holds others. -/
def Row.holdsBlocks (row : Row) : Bool := (BlockTag.of row.tag).holdsBlocks

variable {scene : Scene} {opened depths : List Nat} {row : Row} {line : Line}
  {coded rest : List (Row × Line)} {depth before : Nat}

/-! ## Lines and closing braces -/

@[simp] theorem isClosing_closing (level : Nat) : isClosing (.closing level) = true := by
  show ("\x7d" == "\x7d") = true
  decide

theorem filter_closings (depths : List Nat) :
    (closings depths).filter (!isClosing ·) = [] := by
  rw [closings, List.filter_eq_nil_iff]
  intro line hline
  obtain ⟨depth, -, rfl⟩ := List.mem_map.1 hline
  simp

theorem countP_closings (depths : List Nat) :
    (closings depths).countP isClosing = depths.length := by
  rw [closings, List.countP_map, List.countP_eq_length.2 (by simp)]

/-- Whether none of the lines is a closing brace alone. -/
def NoneClosing (coded : List (Row × Line)) : Prop := ∀ entry ∈ coded, isClosing entry.2 = false

theorem noneClosing_cons :
    NoneClosing ((row, line) :: coded) ↔ isClosing line = false ∧ NoneClosing coded :=
  List.forall_mem_cons

theorem noneClosing_append :
    NoneClosing (coded ++ rest) ↔ NoneClosing coded ∧ NoneClosing rest := List.forall_mem_append

theorem Coded.noneClosing (h : Coded scene before coded) : NoneClosing coded := by
  induction coded generalizing before with
  | nil => exact List.forall_mem_nil _
  | cons entry coded ih =>
    obtain ⟨row, line⟩ := entry
    obtain ⟨-, hcode, hrest⟩ := h
    exact noneClosing_cons.2 ⟨beq_false_of_ne (codeOf_ne_closing hcode), ih hrest⟩

/-- Without closing braces the lines are those of the rows. -/
theorem filter_withBraces (h : NoneClosing coded) :
    (withBraces opened coded).filter (!isClosing ·) = coded.map Prod.snd := by
  induction coded generalizing opened with
  | nil => exact filter_closings opened
  | cons entry coded ih =>
    obtain ⟨row, line⟩ := entry
    obtain ⟨hline, hcoded⟩ := noneClosing_cons.1 h
    rw [withBraces, List.filter_append, filter_closings, List.nil_append, List.filter_cons, hline,
      ih hcoded]
    rfl

/-- Every block that is open before a row is closed by it or still open. -/
theorem length_openedAfter (opened : List Nat) (row : Row) :
    (opened.takeWhile (endsBlock row)).length + (openedAfter opened row).length =
      opened.length + if Row.holdsBlocks row then 1 else 0 := by
  have hlength : (opened.takeWhile (endsBlock row)).length + (opened.dropWhile (endsBlock row)).length =
      opened.length := by
    rw [← List.length_append, List.takeWhile_append_dropWhile]
  unfold openedAfter Row.holdsBlocks
  split
  · rw [List.length_cons]
    omega
  · omega

/-- There are as many closing braces as there are blocks that hold others. -/
theorem countP_withBraces (h : NoneClosing coded) :
    (withBraces opened coded).countP isClosing =
      opened.length + coded.countP fun entry => Row.holdsBlocks entry.1 := by
  induction coded generalizing opened with
  | nil => exact countP_closings opened
  | cons entry coded ih =>
    obtain ⟨row, line⟩ := entry
    obtain ⟨hline, hcoded⟩ := noneClosing_cons.1 h
    have hopened := length_openedAfter opened row
    rw [withBraces, List.countP_append, countP_closings, List.countP_cons, hline, ih hcoded,
      List.countP_cons]
    simp only [Bool.false_eq_true, if_false]
    -- the blocks that the row closes and those open after it are the old ones and its own
    omega

/-- The lines of rows do not hang on the rows after them. -/
theorem withBraces_append (opened : List Nat) (h : NoneClosing coded) :
    ∃ above opened', above.filter (!isClosing ·) = coded.map Prod.snd ∧
      ∀ rest, withBraces opened (coded ++ rest) = above ++ withBraces opened' rest := by
  induction coded generalizing opened with
  | nil => exact ⟨[], opened, rfl, fun rest => rfl⟩
  | cons entry coded ih =>
    obtain ⟨row, line⟩ := entry
    obtain ⟨hline, hcoded⟩ := noneClosing_cons.1 h
    obtain ⟨above, opened', habove, hlines⟩ := ih (openedAfter opened row) hcoded
    refine ⟨closings (opened.takeWhile (endsBlock row)) ++ line :: above, opened', ?_, fun rest => ?_⟩
    · rw [List.filter_append, filter_closings, List.nil_append, List.filter_cons, hline, habove]
      rfl
    · rw [List.cons_append, withBraces, hlines rest, List.append_assoc, List.cons_append]

/-- What ends a block ends all that are deeper. -/
theorem withBraces_of_forall_endedBy (opened : List Nat) (h : ∀ other ∈ depths, EndedBy other rest) :
    withBraces (depths ++ opened) rest = closings depths ++ withBraces opened rest := by
  induction depths with
  | nil => rfl
  | cons depth depths ih =>
    rw [List.cons_append, withBraces_of_endedBy (h depth List.mem_cons_self),
      ih fun other hother => h other (List.mem_cons_of_mem _ hother)]
    rfl

/-! ## Where the braces stand -/

section

variable (depths opened) (h : endsBlock row depth = false)
include h

theorem takeWhile_endsBlock :
    (depths ++ depth :: opened).takeWhile (endsBlock row) = depths.takeWhile (endsBlock row) := by
  rw [List.takeWhile_append, List.takeWhile_cons, h]
  split
  · next hall =>
    rw [(List.takeWhile_prefix _).eq_of_length hall]
    simp
  · rfl

/-- A row that does not end a block leaves it open, and those around it. -/
theorem openedAfter_append :
    openedAfter (depths ++ depth :: opened) row = openedAfter depths row ++ depth :: opened := by
  have hdrop : (depths ++ depth :: opened).dropWhile (endsBlock row) =
      depths.dropWhile (endsBlock row) ++ depth :: opened := by
    rw [List.dropWhile_append, List.dropWhile_cons, h]
    split
    · next hempty =>
      rw [List.isEmpty_iff.1 hempty]
      simp
    · rfl
  unfold openedAfter
  rw [hdrop]
  split <;> rfl

/-- The blocks that a row leaves open in a block are deeper than that. -/
theorem lt_of_mem_openedAfter (hdepths : ∀ other ∈ depths, depth < other) :
    ∀ other ∈ openedAfter depths row, depth < other := by
  have hkept : ∀ other ∈ depths.dropWhile (endsBlock row), depth < other :=
    fun other hother => hdepths other (List.dropWhile_subset _ hother)
  intro other hother
  unfold openedAfter at hother
  split at hother
  · next hholds =>
    rcases List.mem_cons.1 hother with rfl | hother
    -- a row that holds blocks is no branch, so at the depth of the block it would end that
    · have hbranch : (BlockTag.of row.tag).isBranch = false := by
        revert hholds
        cases BlockTag.of row.tag <;> decide
      simp only [endsBlock, hbranch, Bool.not_false, Bool.and_true, Bool.or_eq_false_iff,
        decide_eq_false_iff_not, beq_eq_false_iff_ne] at h
      omega
    · exact hkept other hother
  · exact hkept other hother

end

/-- **The brace of a block stands right behind what it holds**: the lines of the rows that do not end the
block, with the braces of the blocks in it. -/
theorem withBraces_inside (depths opened : List Nat) {inside after : List (Row × Line)}
    (hlines : NoneClosing inside) (hinside : ∀ entry ∈ inside, endsBlock entry.1 depth = false)
    (hafter : EndedBy depth after) (hdepths : ∀ other ∈ depths, depth < other) :
    ∃ within : List Line, withBraces (depths ++ depth :: opened) (inside ++ after) =
        within ++ .closing (2 + depth) :: withBraces opened after ∧
      within.filter (!isClosing ·) = inside.map Prod.snd ∧
      within.countP isClosing = depths.length + inside.countP (fun entry => Row.holdsBlocks entry.1) ∧
      ∀ line ∈ within, isClosing line = true → 2 + depth < line.level := by
  induction inside generalizing depths with
  | nil =>
    refine ⟨closings depths, ?_, filter_closings depths, countP_closings depths, ?_⟩
    · rw [List.nil_append, withBraces_of_forall_endedBy, withBraces_of_endedBy hafter]
      exact fun other hother => hafter.of_le (Nat.le_of_lt (hdepths other hother))
    · intro line hline _
      obtain ⟨other, hother, rfl⟩ := List.mem_map.1 hline
      exact Nat.add_lt_add_left (hdepths other hother) 2
  | cons entry inside ih =>
    obtain ⟨row, line⟩ := entry
    obtain ⟨hline, hrest⟩ := noneClosing_cons.1 hlines
    obtain ⟨hrow, hrows⟩ := List.forall_mem_cons.1 hinside
    -- `depths` are the blocks open inside: the row closes some of them and may open one
    obtain ⟨within, hwithin, hfilter, hcount, hlevels⟩ :=
      ih _ hrest hrows (lt_of_mem_openedAfter depths hrow hdepths)
    refine ⟨closings (depths.takeWhile (endsBlock row)) ++ line :: within, ?_, ?_, ?_, ?_⟩
    · rw [List.cons_append, withBraces, takeWhile_endsBlock opened depths hrow,
        openedAfter_append opened depths hrow, hwithin, List.append_assoc, List.cons_append]
    · rw [List.filter_append, filter_closings, List.nil_append, List.filter_cons, hline, hfilter]
      rfl
    · have hopened := length_openedAfter depths row
      rw [List.countP_append, countP_closings, List.countP_cons, hline, hcount, List.countP_cons]
      simp only [Bool.false_eq_true, if_false]
      omega
    · intro other hother hclosing
      rcases List.mem_append.1 hother with hother | hother
      · obtain ⟨ended, hended, rfl⟩ := List.mem_map.1 hother
        exact Nat.add_lt_add_left (hdepths ended (List.takeWhile_subset _ hended)) 2
      · rcases List.mem_cons.1 hother with rfl | hother
        · rw [hline] at hclosing
          exact absurd hclosing (by decide)
        · exact hlevels other hother hclosing

/-- The lines before a block, its own, those in it, its brace, and the rest. -/
theorem withBraces_block (opened : List Nat) {front inside after : List (Row × Line)}
    (hnone : NoneClosing (front ++ (row, line) :: (inside ++ after)))
    (hholds : Row.holdsBlocks row = true)
    (hinside : ∀ entry ∈ inside, endsBlock entry.1 row.depth = false)
    (hafter : EndedBy row.depth after) :
    ∃ above within below : List Line, withBraces opened (front ++ (row, line) :: (inside ++ after)) =
        above ++ line :: (within ++ .closing (2 + row.depth) :: below) ∧
      above.filter (!isClosing ·) = front.map Prod.snd ∧
      within.filter (!isClosing ·) = inside.map Prod.snd ∧
      within.countP isClosing = inside.countP (fun entry => Row.holdsBlocks entry.1) ∧
      ∀ other ∈ within, isClosing other = true → 2 + row.depth < other.level := by
  obtain ⟨hfront, htail⟩ := noneClosing_append.1 hnone
  obtain ⟨hinner, -⟩ := noneClosing_append.1 (noneClosing_cons.1 htail).2
  obtain ⟨above, opened', habove, hlines⟩ := withBraces_append opened hfront
  have hopened : openedAfter opened' row = [] ++ row.depth :: opened'.dropWhile (endsBlock row) :=
    if_pos hholds
  obtain ⟨within, hwithin, hfilter, hcount, hlevels⟩ :=
    withBraces_inside [] (opened'.dropWhile (endsBlock row)) hinner hinside hafter (by simp)
  refine ⟨above ++ closings (opened'.takeWhile (endsBlock row)), within,
    withBraces (opened'.dropWhile (endsBlock row)) after, ?_, ?_, hfilter, ?_, hlevels⟩
  · rw [hlines, withBraces, hopened, hwithin, List.append_assoc]
  · rw [List.filter_append, filter_closings, List.append_nil, habove]
  · rw [hcount, List.length_nil, Nat.zero_add]

/-! ## Methods -/

/-- What rows have in common that records have. -/
theorem forall_of_map_fst {coded : List (Row × Line)} {records : List BlockRecord} {p : Row → Prop}
    (hmap : coded.map Prod.fst = records.map (·.row)) (h : ∀ record ∈ records, p record.row) :
    ∀ entry ∈ coded, p entry.1 := by
  intro entry hentry
  have hmem : entry.1 ∈ records.map (·.row) := hmap ▸ List.mem_map_of_mem hentry
  obtain ⟨record, hrecord, hrow⟩ := List.mem_map.1 hmem
  exact hrow ▸ h record hrecord

theorem endedBy_of_map_fst {coded : List (Row × Line)} {records : List BlockRecord}
    (hmap : coded.map Prod.fst = records.map (·.row))
    (h : ∀ next ∈ records.head?, endsBlock next.row depth = true) : EndedBy depth coded := by
  intro entry hentry
  cases coded with
  | nil => simp at hentry
  | cons first coded =>
    cases hentry
    obtain ⟨next, records, rfl, hnext, -⟩ := List.map_eq_cons_iff.1 hmap.symm
    exact hnext ▸ h next rfl

/-- What `Coded` says of each line. -/
theorem Coded.getElem? (h : Coded scene before coded) {i : Nat} (hi : coded[i]? = some (row, line)) :
    line.level = 2 + row.depth ∧
      codeOf scene (before + timesIn ((coded.take (i + 1)).map Prod.fst)) row.tag row.params =
        .ok line.text := by
  induction coded generalizing before i with
  | nil => simp at hi
  | cons entry coded ih =>
    obtain ⟨first, firstLine⟩ := entry
    obtain ⟨hlevel, hcode, hrest⟩ := h
    cases i with
    | zero =>
      cases hi
      exact ⟨hlevel, hcode⟩
    | succ i =>
      obtain ⟨hlevel, hcode⟩ := ih hrest hi
      rw [List.take_succ_cons, List.map_cons, timesIn_cons, ← Nat.add_assoc]
      exact ⟨hlevel, hcode⟩

/-- The level and the code of a record's line. -/
theorem Coded.of_records {records : List BlockRecord} (h : Coded scene 0 coded)
    (hmap : coded.map Prod.fst = records.map (·.row)) {i : Nat} {record : BlockRecord}
    (hrecord : records[i]? = some record) (hline : (coded.map Prod.snd)[i]? = some line) :
    line.level = 2 + record.depth ∧
      codeOf scene (timesIn ((records.take (i + 1)).map (·.row))) record.tag record.params =
        .ok line.text := by
  rw [List.getElem?_map, Option.map_eq_some_iff] at hline
  obtain ⟨⟨row, _⟩, hentry, rfl⟩ := hline
  have hrow : row = record.row := by
    have hget := congrArg (·[i]?) hmap
    simpa [hentry, hrecord] using hget
  subst hrow
  obtain ⟨hlevel, hcode⟩ := h.getElem? hentry
  rw [List.map_take, hmap, ← List.map_take, Nat.zero_add] at hcode
  exact ⟨hlevel, hcode⟩

/-- The lines of the records of a block, and the brace behind them. -/
theorem withBraces_of_records {before inside after : List BlockRecord} {record : BlockRecord}
    (hnone : NoneClosing coded)
    (hmap : coded.map Prod.fst = (before ++ record :: (inside ++ after)).map (·.row))
    (hholds : Row.holdsBlocks record.row = true)
    (hinside : ∀ other ∈ inside, endsBlock other.row record.depth = false)
    (hafter : ∀ next ∈ after.head?, endsBlock next.row record.depth = true) :
    ∃ (above : List Line) (line : Line) (within below : List Line),
      withBraces [] coded = above ++ line :: (within ++ .closing (2 + record.depth) :: below) ∧
      isClosing line = false ∧
      (above.filter (!isClosing ·)).length = before.length ∧
      (within.filter (!isClosing ·)).length = inside.length ∧
      within.countP isClosing = inside.countP (fun other => Row.holdsBlocks other.row) ∧
      ∀ other ∈ within, isClosing other = true → 2 + record.depth < other.level := by
  -- the rows are cut where the records are
  rw [List.map_append, List.map_cons, List.map_append] at hmap
  obtain ⟨front, tail, rfl, hfront, htail⟩ := List.map_eq_append_iff.1 hmap
  obtain ⟨⟨_, line⟩, others, rfl, rfl, hothers⟩ := List.map_eq_cons_iff.1 htail
  obtain ⟨inner, rest, rfl, hinner, hrest⟩ := List.map_eq_append_iff.1 hothers
  obtain ⟨above, within, below, hbody, habove, hwithin, hcount, hlevels⟩ :=
    withBraces_block [] hnone hholds
      (forall_of_map_fst (p := fun row => endsBlock row record.depth = false) hinner hinside)
      (endedBy_of_map_fst hrest hafter)
  refine ⟨above, line, within, below, hbody, hnone (record.row, line) (by simp), ?_, ?_, ?_, hlevels⟩
  · rw [habove, List.length_map, ← List.length_map (f := Prod.fst), hfront, List.length_map]
  · rw [hwithin, List.length_map, ← List.length_map (f := Prod.fst), hinner, List.length_map]
  · have hcounts := congrArg (List.countP Row.holdsBlocks) hinner
    rw [List.countP_map, List.countP_map] at hcounts
    rw [hcount]
    exact hcounts

theorem followed_annotationLines (binding : Binding) (lines : List Line) :
    followed 1 (annotationLines binding ++ lines) = followed 1 lines := by
  cases binding with
  | activityEvent event =>
    exact followed_plain rfl (show ("@Override".toList.head? == some '\x7d' &&
      "@Override".toList.getLast? != some ';') = false by decide)
      (show ("@Override".toList.getLast? == some '\x7b') = false by decide)
  | startUp | viewEvent | moreBlock => rfl

theorem followed_superLines (binding : Binding) (lines : List Line) :
    followed 2 (superLines binding ++ lines) = followed 2 lines := by
  cases binding with
  | activityEvent event =>
    simp only [superLines]
    split
    · have hlast : s!"super.{event.name}();".toList.getLast? = some ';' :=
        getLast?_append _ (by decide)
      refine followed_plain rfl ?_ ?_
      · show (_ && s!"super.{event.name}();".toList.getLast? != some ';') = false
        rw [hlast]
        simp
      · show (s!"super.{event.name}();".toList.getLast? == some '\x7b') = false
        rw [hlast]
        decide
    · rfl
  | startUp | viewEvent | moreBlock => rfl

theorem signatureLine_shape (h : Handler) :
    (signatureLine h).level = 1 ∧ (signatureLine h).closes = false ∧ (signatureLine h).opens = true := by
  have hlast : (signatureLine h).text.toList.getLast? = some '\x7b' := by
    unfold signatureLine
    split <;> exact getLast?_append _ (by decide)
  have hhead : (signatureLine h).text.toList.head? = some 'p' := by
    unfold signatureLine
    split
    · exact head?_append _ (head?_append _ (by decide))
    · exact head?_append _ (head?_append _ (by decide))
    · simp only [String.append_assoc]
      exact head?_append _ (by decide)
    · simp only [String.append_assoc]
      exact head?_append _ (by decide)
  refine ⟨rfl, ?_, ?_⟩
  · rw [Line.closes, hhead, show (some 'p' == some '\x7d') = false by decide, Bool.false_and]
  · rw [Line.opens, hlast]
    decide

/-- A method comes back to the level of its signature. -/
theorem followed_methodLines {h : Handler} {lines : List Line} (hlines : followed 2 lines = some 2) :
    followed 1 (annotationLines h.binding ++
      bracedBy (signatureLine h) (superLines h.binding ++ lines)) = some 1 := by
  obtain ⟨hlevel, hcloses, hopens⟩ := signatureLine_shape h
  rw [followed_annotationLines, bracedBy, hlevel]
  exact followed_bracedBy hlevel hcloses hopens (by rw [followed_superLines, hlines])

/-- **A method is its records.** Between the signature with the call of the activity's own handling and
the last brace, the lines that are no closing brace are those of the records, in order, each at the level
of its depth and with the code of its tag and parameters; counted loops are numbered in order. There is
one closing brace for each record of a block that holds others, at the level of the record, right behind
the lines of the records in the block. The levels follow from the braces and come back to the first. -/
theorem methodLines_of_records {screen : String} {declarations : Declarations} {used : List String}
    {key : String} {records : List BlockRecord} {h : Handler} {scene : Scene} {named : String}
    {lines : List Line}
    (hrecords : Handler.ofRecords screen declarations used key records = .ok h)
    (hlines : methodLines scene named h = .ok lines) :
    ∃ body : List Line, lines = annotationLines h.binding ++
        bracedBy (signatureLine h) (superLines h.binding ++ body) ∧
      (body.filter (!isClosing ·)).length = records.length ∧
      (∀ (i : Nat) (record : BlockRecord) (line : Line), records[i]? = some record →
        (body.filter (!isClosing ·))[i]? = some line →
        line.level = 2 + record.depth ∧
          codeOf scene (timesIn ((records.take (i + 1)).map (·.row))) record.tag record.params =
            .ok line.text) ∧
      body.countP isClosing = records.countP (fun record => Row.holdsBlocks record.row) ∧
      (∀ (before : List BlockRecord) (record : BlockRecord) (inside after : List BlockRecord),
        records = before ++ record :: (inside ++ after) →
        Row.holdsBlocks record.row = true →
        (∀ other ∈ inside, endsBlock other.row record.depth = false) →
        (∀ next ∈ after.head?, endsBlock next.row record.depth = true) →
        ∃ (above : List Line) (line : Line) (within below : List Line),
          body = above ++ line :: (within ++ .closing (2 + record.depth) :: below) ∧
          isClosing line = false ∧
          (above.filter (!isClosing ·)).length = before.length ∧
          (within.filter (!isClosing ·)).length = inside.length ∧
          within.countP isClosing = inside.countP (fun other => Row.holdsBlocks other.row) ∧
          ∀ other ∈ within, isClosing other = true → 2 + record.depth < other.level) ∧
      followed 1 lines = some 1 := by
  obtain ⟨-, -, -, hvalid, hrows, -⟩ := Handler.ofRecords_eq_ok_iff.1 hrecords
  simp only [methodLines, Except.bind_eq_ok_iff, Except.pure_eq_ok_iff] at hlines
  obtain ⟨body, hbody, rfl⟩ := hlines
  obtain ⟨coded, hcodedRows, hcoded, hbraces⟩ := writes_rowsOf 0 0 h.blocks hvalid hbody
  have hnone := hcoded.noneClosing
  -- no block is open around the whole body, and nothing comes behind it
  obtain rfl : withBraces [] coded = body := by
    have hall := hbraces [] [] (by simp) (fun _ h => absurd h (by simp))
    rwa [List.append_nil, withBraces, closings, List.map_nil, List.append_nil] at hall
  have hmap : coded.map Prod.fst = records.map (·.row) := hcodedRows.trans hrows
  have hlength : coded.length = records.length := by simpa using congrArg List.length hmap
  refine ⟨_, rfl, ?_, ?_, ?_, ?_, followed_methodLines (followed_sequenceLines 2 0 _ hvalid hbody)⟩
  · rw [filter_withBraces hnone, List.length_map, hlength]
  · intro i record line hrecord hline
    rw [filter_withBraces hnone] at hline
    exact hcoded.of_records hmap hrecord hline
  · rw [countP_withBraces hnone, List.length_nil, Nat.zero_add]
    have hcount := congrArg (List.countP Row.holdsBlocks) hmap
    rwa [List.countP_map, List.countP_map] at hcount
  · rintro before record inside after rfl hholds hinside hafter
    exact withBraces_of_records hnone hmap hholds hinside hafter

/-- The method of `Handler.nested`. -/
def nestedLines : List Line :=
  [.plain 1 "private void initializeLogic() \x7b", .plain 2 "if (true) \x7b",
    .plain 3 "for (int _repeat1 = 0; _repeat1 < (int) (3); _repeat1++) \x7b", .plain 4 "finish();",
    .closing 3, .plain 2 "\x7d else if (false) \x7b", .plain 2 "\x7d else \x7b", .plain 3 "finish();",
    .closing 2, .closing 1]

theorem methodLines_of_records_nested :
    ∃ h body, Handler.ofRecords "main" .none [] Binding.startUpKey Handler.nested = .ok h ∧
      methodLines ⟨"main", ⟨"main", []⟩, ⟨[]⟩⟩ "main" h = .ok nestedLines ∧
      nestedLines = bracedBy (signatureLine h) body ∧ (body.filter (!isClosing ·)).length = 6 ∧
      body.countP isClosing = 2 ∧ followed 1 nestedLines = some 1 := by
  have hrecords : Handler.ofRecords "main" .none [] Binding.startUpKey Handler.nested =
      .ok ⟨Binding.startUpKey, .startUp, [], [Handler.nestedBlock]⟩ := rfl
  have hlines : methodLines ⟨"main", ⟨"main", []⟩, ⟨[]⟩⟩ "main"
      ⟨Binding.startUpKey, .startUp, [], [Handler.nestedBlock]⟩ = .ok nestedLines := rfl
  obtain ⟨body, hbody, hlength, -, hcount, -, hfollowed⟩ := methodLines_of_records hrecords hlines
  exact ⟨_, body, hrecords, hlines, hbody, hlength, hcount, hfollowed⟩

end BlockApp.Source
