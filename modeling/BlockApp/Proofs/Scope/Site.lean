import BlockApp.Proofs.Nesting.Valid

/-!
# Where parameters stand

The rule of scope speaks of places in the finished blocks: what stands earlier in a sequence, or earlier
than a block around it. A *site* is the parameters of a block or of a branch together with the blocks
that stand so.

* `Stands` — parameters stand somewhere in a sequence, behind certain blocks
* `Site.Follows` — the rule: every reference of a site points to a declaration, to an argument, or to a
  local variable that one of those blocks declares
* `sitesOf` — the sites of blocks, one after the other as they are written
* `mem_sitesOf_iff` — they are the places where parameters stand
-/

namespace BlockApp

/-- Parameters, and the blocks that stand before them: in the sequence of their block, and in the
sequences around it before the blocks that hold it. -/
structure Site where
  params : List Expr
  earlier : List Block
  deriving Repr

/-- Whether parameters stand in a sequence of blocks behind the blocks `earlier`. A further branch of an
`if` block stands where the block does, behind what is before the block and not behind the other
branches. -/
inductive Stands : (blocks : List Block) → (params : List Expr) → (earlier : List Block) → Prop where
  | block (before : List Block) (block : Block) (after : List Block) :
      Stands (before ++ block :: after) block.params before
  | branch (before : List Block) {block : Block} {branch : Branch} (after : List Block)
      (hbranch : branch ∈ block.branches) : Stands (before ++ block :: after) branch.params before
  | inside (before : List Block) {block : Block} {branch : Branch} (after : List Block)
      (hbranch : branch ∈ block.branches) {params : List Expr} {earlier : List Block}
      (h : Stands branch.blocks params earlier) :
      Stands (before ++ block :: after) params (before ++ earlier)

/-- The rule of scope at a site. -/
def Site.Follows (around : Surroundings) (site : Site) : Prop :=
  around.Resolved (fun name => ∃ block ∈ site.earlier, block.declared? = some name) site.params

mutual

/-- The sites in a block that stands behind the blocks `earlier`. -/
def Block.sites (earlier : List Block) : Block → List Site
  | .statement id tag params => [⟨Block.params (.statement id tag params), earlier⟩]
  | .declare id type name value => [⟨Block.params (.declare id type name value), earlier⟩]
  | .assign id target change => [⟨Block.params (.assign id target change), earlier⟩]
  | .call id function args => [⟨Block.params (.call id function args), earlier⟩]
  | .loop _ head body => ⟨head.params, earlier⟩ :: sitesOf earlier body
  | .ifThen _ condition body otherwise =>
    ⟨[condition], earlier⟩ :: (sitesOf earlier body ++ otherwise.sites earlier)

/-- The sites in further branches. -/
def Otherwise.sites (earlier : List Block) : Otherwise → List Site
  | .nothing => []
  | .elseDo body => ⟨[], earlier⟩ :: sitesOf earlier body
  | .elseIf condition body otherwise =>
    ⟨[condition], earlier⟩ :: (sitesOf earlier body ++ otherwise.sites earlier)

/-- The sites in blocks one after the other. -/
def sitesOf (earlier : List Block) : List Block → List Site
  | [] => []
  | block :: blocks => block.sites earlier ++ sitesOf (earlier ++ [block]) blocks

end

/-! ## Sites of sequences -/

@[simp] theorem sitesOf_nil (earlier : List Block) : sitesOf earlier [] = [] := rfl

@[simp] theorem sitesOf_append (earlier blocks more : List Block) :
    sitesOf earlier (blocks ++ more) =
      sitesOf earlier blocks ++ sitesOf (earlier ++ blocks) more := by
  induction blocks generalizing earlier with
  | nil => simp
  | cons block blocks ih =>
    rw [List.cons_append, sitesOf, sitesOf, ih, List.append_assoc, List.append_assoc]
    rfl

@[simp] theorem sitesOf_singleton (earlier : List Block) (block : Block) :
    sitesOf earlier [block] = block.sites earlier := by
  rw [sitesOf, sitesOf_nil, List.append_nil]

theorem Otherwise.sites_append {otherwise : Otherwise} (h : otherwise.isOpen = true)
    (earlier : List Block) (more : Otherwise) :
    (otherwise.append more).sites earlier = otherwise.sites earlier ++ more.sites earlier := by
  match otherwise with
  | .nothing => rfl
  | .elseDo body => simp [isOpen] at h
  | .elseIf condition body otherwise =>
    have hopen : otherwise.isOpen = true := by simpa [isOpen] using h
    simp [append, sites, sites_append hopen]
  termination_by structural otherwise

/-! ## Sites are places -/

theorem Stands.cons {blocks : List Block} {params : List Expr} {earlier : List Block}
    (h : Stands blocks params earlier) (first : Block) :
    Stands (first :: blocks) params (first :: earlier) := by
  cases h with
  | block _ block after => exact .block (first :: earlier) block after
  | branch _ after hbranch => exact .branch (first :: earlier) after hbranch
  | inside before after hbranch h => exact .inside (first :: before) after hbranch h

/-- The parameters of a block are a site of it. -/
theorem Block.mem_sites_params (block : Block) (earlier : List Block) :
    ⟨block.params, earlier⟩ ∈ block.sites earlier := by
  cases block <;> exact List.mem_cons_self

/-- A further branch brings the sites of its parameters and of its blocks. -/
theorem Otherwise.mem_sites_iff (otherwise : Otherwise) {earlier : List Block} {site : Site} :
    site ∈ otherwise.sites earlier ↔
      ∃ branch ∈ otherwise.branches,
        site = ⟨branch.params, earlier⟩ ∨ site ∈ sitesOf earlier branch.blocks := by
  match otherwise with
  | .nothing => simp [sites, branches]
  | .elseDo body => simp [sites, branches]
  | .elseIf condition body otherwise =>
    simp [sites, branches, mem_sites_iff otherwise, or_assoc]
  termination_by structural otherwise

/-- The sites of a block are its own and those of its branches. -/
theorem Block.mem_sites_iff {block : Block} {earlier : List Block} {site : Site} :
    site ∈ block.sites earlier ↔
      site = ⟨block.params, earlier⟩ ∨
        ∃ branch ∈ block.branches,
          site = ⟨branch.params, earlier⟩ ∨ site ∈ sitesOf earlier branch.blocks := by
  cases block with
  | statement | declare | assign | call => simp [sites, branches]
  | loop id head body => simp [sites, branches, params]
  | ifThen id condition body otherwise =>
    simp [sites, branches, params, Otherwise.mem_sites_iff, or_assoc]

/-- Where parameters stand there is a site. -/
theorem Stands.mem_sitesOf {blocks : List Block} {params : List Expr} {earlier : List Block}
    (h : Stands blocks params earlier) (outer : List Block) :
    ⟨params, outer ++ earlier⟩ ∈ sitesOf outer blocks := by
  induction h generalizing outer with
  | block before block after =>
    simp only [sitesOf_append, sitesOf, List.mem_append]
    exact .inr (.inl (block.mem_sites_params _))
  | branch before after hbranch =>
    simp only [sitesOf_append, sitesOf, List.mem_append]
    exact .inr (.inl (Block.mem_sites_iff.2 (.inr ⟨_, hbranch, .inl rfl⟩)))
  | inside before after hbranch h ih =>
    simp only [sitesOf_append, sitesOf, List.mem_append]
    refine .inr (.inl (Block.mem_sites_iff.2 (.inr ⟨_, hbranch, .inr ?_⟩)))
    rw [← List.append_assoc]
    exact ih _

mutual

/-- A site in a block is the place where its parameters stand. -/
theorem Block.stands_of_mem (block : Block) {outer : List Block} {site : Site}
    (h : site ∈ block.sites outer) (after : List Block) :
    ∃ earlier, site.earlier = outer ++ earlier ∧ Stands (block :: after) site.params earlier := by
  match block with
  | .statement .. | .declare .. | .assign .. | .call .. =>
    obtain rfl := List.mem_singleton.1 h
    exact ⟨[], (List.append_nil _).symm, .block [] _ after⟩
  | .loop id head body =>
    rcases List.mem_cons.1 h with rfl | hbody
    · exact ⟨[], (List.append_nil _).symm, .block [] (.loop id head body) after⟩
    · obtain ⟨earlier, hearlier, hstands⟩ := stands_of_mem_sitesOf body hbody
      exact ⟨earlier, hearlier, .inside [] after List.mem_cons_self hstands⟩
  | .ifThen id condition body otherwise =>
    rcases List.mem_cons.1 h with rfl | hinside
    · exact ⟨[], (List.append_nil _).symm, .block [] (.ifThen id condition body otherwise) after⟩
    rcases List.mem_append.1 hinside with hbody | hbranch
    · obtain ⟨earlier, hearlier, hstands⟩ := stands_of_mem_sitesOf body hbody
      exact ⟨earlier, hearlier, .inside [] after List.mem_cons_self hstands⟩
    · obtain ⟨branch, hmem, hsite⟩ := otherwise.stands_of_mem hbranch
      have hmem : branch ∈ (Block.ifThen id condition body otherwise).branches :=
        List.mem_cons_of_mem _ hmem
      rcases hsite with rfl | ⟨earlier, hearlier, hstands⟩
      · exact ⟨[], (List.append_nil _).symm, .branch [] after hmem⟩
      · exact ⟨earlier, hearlier, .inside [] after hmem hstands⟩
  termination_by structural block

theorem Otherwise.stands_of_mem (otherwise : Otherwise) {outer : List Block} {site : Site}
    (h : site ∈ otherwise.sites outer) :
    ∃ branch ∈ otherwise.branches, site = ⟨branch.params, outer⟩ ∨
      ∃ earlier, site.earlier = outer ++ earlier ∧ Stands branch.blocks site.params earlier := by
  match otherwise with
  | .nothing => exact absurd h List.not_mem_nil
  | .elseDo body =>
    refine ⟨_, List.mem_cons_self, ?_⟩
    rcases List.mem_cons.1 h with rfl | hbody
    · exact .inl rfl
    · exact .inr (stands_of_mem_sitesOf body hbody)
  | .elseIf condition body otherwise =>
    rcases List.mem_cons.1 h with rfl | hinside
    · exact ⟨_, List.mem_cons_self, .inl rfl⟩
    rcases List.mem_append.1 hinside with hbody | hbranch
    · exact ⟨_, List.mem_cons_self, .inr (stands_of_mem_sitesOf body hbody)⟩
    · obtain ⟨branch, hmem, hsite⟩ := otherwise.stands_of_mem hbranch
      exact ⟨branch, List.mem_cons_of_mem _ hmem, hsite⟩
  termination_by structural otherwise

theorem stands_of_mem_sitesOf (blocks : List Block) {outer : List Block} {site : Site}
    (h : site ∈ sitesOf outer blocks) :
    ∃ earlier, site.earlier = outer ++ earlier ∧ Stands blocks site.params earlier := by
  match blocks with
  | [] => exact absurd h List.not_mem_nil
  | block :: blocks =>
    rcases List.mem_append.1 h with hblock | hrest
    · exact block.stands_of_mem hblock blocks
    · obtain ⟨earlier, hearlier, hstands⟩ := stands_of_mem_sitesOf blocks hrest
      exact ⟨block :: earlier, by simp [hearlier], hstands.cons block⟩
  termination_by structural blocks

end

/-- **The sites of blocks are the places where parameters stand.** -/
theorem mem_sitesOf_iff {blocks : List Block} {site : Site} :
    site ∈ sitesOf [] blocks ↔ Stands blocks site.params site.earlier := by
  constructor
  · intro h
    obtain ⟨earlier, hearlier, hstands⟩ := stands_of_mem_sitesOf blocks h
    rwa [hearlier]
  · intro h
    exact h.mem_sitesOf []

end BlockApp
