import ConfigLang.Error
import ConfigLang.Syntax.Tree
/-! How deep blocks nest. The blocks of a document are listed in the order in which they start;
whoever goes through a document in that order, with a limit on the depth, is stopped by the
first block that is one too deep. -/
namespace ConfigLang

mutual

def ValueNode.nesting : ValueNode → Nat
  | .block items _ => nesting items + 1
  | .text _ _ => 0
  | .strings _ _ => 0

def Item.nesting : Item → Nat
  | .tagged _ value _ _ => value.nesting
  | .untagged value _ => value.nesting
  | _ => 0

def nesting : List Item → Nat
  | [] => 0
  | item :: rest => max item.nesting (nesting rest)

end

/-- A block of a document. A block that is in no other has the depth one. -/
structure Block where
  depth : Nat
  span : Span
  deriving DecidableEq

mutual

def ValueNode.blocks (depth : Nat) : ValueNode → List Block
  | .block items span => ⟨depth + 1, span⟩ :: blocksOf (depth + 1) items
  | .text _ _ => []
  | .strings _ _ => []

def Item.blocks (depth : Nat) : Item → List Block
  | .tagged _ value _ _ => value.blocks depth
  | .untagged value _ => value.blocks depth
  | _ => []

def blocksOf (depth : Nat) : List Item → List Block
  | [] => []
  | item :: rest => item.blocks depth ++ blocksOf depth rest

end

theorem blocksOf_append (depth : Nat) (xs ys : List Item) :
    blocksOf depth (xs ++ ys) = blocksOf depth xs ++ blocksOf depth ys := by
  induction xs with
  | nil => rw [List.nil_append, blocksOf, List.nil_append]
  | cons item rest ih => rw [List.cons_append, blocksOf, blocksOf, ih, List.append_assoc]

def firstTooDeep (limit : Nat) (blocks : List Block) : Option Block :=
  blocks.find? (·.depth == limit + 1)

section limits

variable {limit : Nat}

theorem depth_of_firstTooDeep {blocks : List Block} {block : Block}
    (first : firstTooDeep limit blocks = some block) : block.depth = limit + 1 := by
  unfold firstTooDeep at first
  have found := List.find?_some first
  exact beq_iff_eq.1 found

theorem firstTooDeep_cons_of_deep {block : Block} (deep : block.depth = limit + 1)
    (rest : List Block) : firstTooDeep limit (block :: rest) = some block :=
  List.find?_cons_of_pos (beq_iff_eq.2 deep)

theorem firstTooDeep_cons_of_le {block : Block} (shallow : block.depth ≤ limit)
    (rest : List Block) : firstTooDeep limit (block :: rest) = firstTooDeep limit rest := by
  have other : block.depth ≠ limit + 1 := by omega
  exact List.find?_cons_of_neg (by simpa using other)

theorem firstTooDeep_append_eq_none {xs ys : List Block} :
    firstTooDeep limit (xs ++ ys) = none ↔
      firstTooDeep limit xs = none ∧ firstTooDeep limit ys = none := by
  simp only [firstTooDeep, List.find?_append, Option.or_eq_none_iff]

mutual

/-- Nothing is too deep in a value that nests no deeper than the limit. As no depth is passed
over, a value that nests deeper holds a block that is one too deep. -/
theorem firstTooDeep_blocks_eq_none {depth : Nat} (inside : depth ≤ limit) : (value : ValueNode) →
    (firstTooDeep limit (value.blocks depth) = none ↔ value.nesting + depth ≤ limit)
  | .block items span => by
    rw [ValueNode.blocks, ValueNode.nesting]
    rcases Nat.eq_or_lt_of_le inside with rfl | room
    · rw [firstTooDeep_cons_of_deep rfl]
      exact iff_of_false nofun (by omega)
    · have within := firstTooDeep_blocksOf_eq_none room items
      rw [firstTooDeep_cons_of_le room, within]
      omega
  | .text text span => by
    rw [ValueNode.blocks, ValueNode.nesting]
    exact iff_of_true rfl (by omega)
  | .strings lines span => by
    rw [ValueNode.blocks, ValueNode.nesting]
    exact iff_of_true rfl (by omega)

theorem firstTooDeep_item_eq_none {depth : Nat} (inside : depth ≤ limit) : (item : Item) →
    (firstTooDeep limit (item.blocks depth) = none ↔ item.nesting + depth ≤ limit)
  | .tagged key value template span => by
    rw [Item.blocks, Item.nesting]
    exact firstTooDeep_blocks_eq_none inside value
  | .untagged value span => by
    rw [Item.blocks, Item.nesting]
    exact firstTooDeep_blocks_eq_none inside value
  | .blank _ | .comment _ | .inherit _ _ | .strings _ | .spread _ => by
    simp only [Item.blocks, Item.nesting]
    exact iff_of_true rfl (by omega)

theorem firstTooDeep_blocksOf_eq_none {depth : Nat} (inside : depth ≤ limit) :
    (items : List Item) →
    (firstTooDeep limit (blocksOf depth items) = none ↔ nesting items + depth ≤ limit)
  | [] => by
    rw [blocksOf, nesting]
    exact iff_of_true rfl (by omega)
  | item :: rest => by
    have here := firstTooDeep_item_eq_none inside item
    have later := firstTooDeep_blocksOf_eq_none inside rest
    rw [blocksOf, nesting, firstTooDeep_append_eq_none, here, later]
    omega

end

theorem firstTooDeep_eq_none {blocks : List Block} :
    firstTooDeep limit blocks = none ↔ ∀ block ∈ blocks, block.depth ≠ limit + 1 := by
  simp only [firstTooDeep, List.find?_eq_none, beq_iff_eq, ne_eq]

theorem firstTooDeep_eq_none_iff_le {items : List Item} :
    firstTooDeep limit (blocksOf 0 items) = none ↔
      ∀ block ∈ blocksOf 0 items, block.depth ≤ limit := by
  constructor
  · intro nothing block member
    have shallow := (firstTooDeep_blocksOf_eq_none (Nat.zero_le limit) items).1 nothing
    refine Nat.not_lt.1 fun deep => ?_
    -- At the limit just above which the block is, there would be nothing too deep either.
    have below : nesting items + 0 ≤ block.depth - 1 := by omega
    have others := (firstTooDeep_blocksOf_eq_none (Nat.zero_le _) items).2 below
    exact firstTooDeep_eq_none.1 others block member (by omega)
  · intro shallow
    refine firstTooDeep_eq_none.2 fun block member => ?_
    have within := shallow block member
    omega

/-- The outcome of a run that meets the blocks one after another and would come to `result`. -/
def cutOff (limit : Nat) (blocks : List Block) {α : Type} (result : α) : Except Error α :=
  match firstTooDeep limit blocks with
  | none => .ok result
  | some block => .error (.nestingTooDeep limit block.span)

@[simp] theorem cutOff_nil {α : Type} (result : α) : cutOff limit [] result = .ok result := rfl

theorem cutOff_cons_of_deep {block : Block} (deep : block.depth = limit + 1) (rest : List Block)
    {α : Type} (result : α) :
    cutOff limit (block :: rest) result = .error (.nestingTooDeep limit block.span) := by
  rw [cutOff, firstTooDeep_cons_of_deep deep]

theorem cutOff_cons_of_le {block : Block} (shallow : block.depth ≤ limit) (rest : List Block)
    {α : Type} (result : α) : cutOff limit (block :: rest) result = cutOff limit rest result := by
  rw [cutOff, firstTooDeep_cons_of_le shallow, cutOff]

theorem cutOff_bind {α β : Type} {xs ys : List Block} {value : α} {result : β}
    {later : α → Except Error β}
    (goesOn : firstTooDeep limit xs = none → later value = cutOff limit ys result) :
    cutOff limit xs value >>= later = cutOff limit (xs ++ ys) result := by
  cases first : firstTooDeep limit xs with
  | none =>
    have whole : firstTooDeep limit (xs ++ ys) = firstTooDeep limit ys := by
      rw [firstTooDeep, List.find?_append, ← firstTooDeep, first, Option.none_or, firstTooDeep]
    rw [cutOff, first, cutOff, whole]
    exact goesOn first
  | some block =>
    have whole : firstTooDeep limit (xs ++ ys) = some block := by
      rw [firstTooDeep, List.find?_append, ← firstTooDeep, first, Option.some_or]
    rw [cutOff, first, cutOff, whole]
    rfl

theorem cutOff_bind_ok {α β : Type} {blocks : List Block} {value : α} {result : β}
    {later : α → Except Error β} (done : later value = .ok result) :
    cutOff limit blocks value >>= later = cutOff limit blocks result := by
  have whole := @cutOff_bind limit α β blocks [] value result later fun _ => done
  rwa [List.append_nil] at whole

theorem exists_ok_cutOff {α : Type} {blocks : List Block} {result : α} :
    (∃ value, cutOff limit blocks result = .ok value) ↔ firstTooDeep limit blocks = none := by
  rw [cutOff]
  cases firstTooDeep limit blocks with
  | none => exact iff_of_true ⟨result, rfl⟩ rfl
  | some block => exact iff_of_false nofun nofun

end limits

end ConfigLang
