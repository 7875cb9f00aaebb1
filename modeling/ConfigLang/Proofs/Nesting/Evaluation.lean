import ConfigLang.Proofs.Eval.Items
import ConfigLang.Proofs.Nesting.Basic
/-! Evaluation and the depth of blocks. Without templates an evaluation meets the blocks in the
order in which they start, so a limit only matters to the first block that is one too deep. -/
namespace ConfigLang

mutual

def ValueNode.isUntemplated : ValueNode → Bool
  | .block items _ => areUntemplated items
  | .text _ _ => true
  | .strings _ _ => true

def Item.isUntemplated : Item → Bool
  | .inherit _ _ => false
  | .tagged _ _ (some _) _ => false
  | .tagged _ value none _ => value.isUntemplated
  | .untagged value _ => value.isUntemplated
  | _ => true

def areUntemplated : List Item → Bool
  | [] => true
  | item :: rest => item.isUntemplated && areUntemplated rest

end

theorem isUntemplated_of_mem {items : List Item} (untemplated : areUntemplated items = true) :
    ∀ item ∈ items, item.isUntemplated = true := by
  induction items with
  | nil => exact nofun
  | cons item rest ih =>
    rw [areUntemplated, Bool.and_eq_true] at untemplated
    exact List.forall_mem_cons.2 ⟨untemplated.1, ih untemplated.2⟩

theorem Item.isTemplate_of_isUntemplated {item : Item} (untemplated : item.isUntemplated = true) :
    item.isTemplate = false := by
  unfold isTemplate
  split
  · cases untemplated
  · rfl

theorem Item.isInherit_of_isUntemplated {item : Item} (untemplated : item.isUntemplated = true) :
    item.isInherit = false := by
  unfold isInherit
  split
  · cases untemplated
  · rfl

theorem isTemplate_of_mem {items : List Item} (untemplated : areUntemplated items = true) :
    ∀ item ∈ items, item.isTemplate = false :=
  fun item member => Item.isTemplate_of_isUntemplated (isUntemplated_of_mem untemplated item member)

theorem isInherit_of_mem {items : List Item} (untemplated : areUntemplated items = true) :
    ∀ item ∈ items, item.isInherit = false :=
  fun item member => Item.isInherit_of_isUntemplated (isUntemplated_of_mem untemplated item member)

namespace Eval

section items

variable {nested unlimited : NodeEval} {argument : Option Value} {limit depth : Nat}

/-- What comes to a value without the limit is cut off at its first block that is too deep. -/
def CutsOff (limit depth : Nat) (nested unlimited : NodeEval) (argument : Option Value) : Prop :=
  ∀ (node : ValueNode) (value : Option Value), node.isUntemplated = true →
    unlimited node argument = .ok value →
      nested node argument = cutOff limit (node.blocks depth) value

theorem addItem_eq_cutOff (values : CutsOff limit depth nested unlimited argument)
    {item : Item} (untemplated : item.isUntemplated = true) {progress next : Progress}
    (added : addItem unlimited argument progress item = .ok next) :
    addItem nested argument progress item = cutOff limit (item.blocks depth) next := by
  cases item with
  | inherit path span => cases untemplated
  | tagged key value template span =>
    cases template with
    | some mark => cases untemplated
    | none =>
      rw [Item.isUntemplated] at untemplated
      obtain ⟨locked, fits, added⟩ := except_bind_eq_ok.1 added
      obtain ⟨name, named, added⟩ := except_bind_eq_ok.1 added
      obtain ⟨result, evaluated, added⟩ := except_bind_eq_ok.1 added
      have here := values value result untemplated evaluated
      have whole : addItem nested argument progress (.tagged key value none span) =
          cutOff limit (value.blocks depth) result >>= fun result =>
            .ok (progress.withContent (locked.insert name result)) := by
        simp only [addItem, fits, named, ← here]
        rfl
      rw [whole, Item.blocks]
      exact cutOff_bind_ok added
  | untagged value span =>
    rw [Item.isUntemplated] at untemplated
    obtain ⟨locked, fits, added⟩ := except_bind_eq_ok.1 added
    obtain ⟨result, evaluated, added⟩ := except_bind_eq_ok.1 added
    have here := values value result untemplated evaluated
    have whole : addItem nested argument progress (.untagged value span) =
        cutOff limit (value.blocks depth) result >>= fun result =>
          .ok (progress.withContent (locked.push result)) := by
      simp only [addItem, fits, ← here]
      rfl
    rw [whole, Item.blocks]
    exact cutOff_bind_ok added
  | blank span | comment comment | strings line | spread path =>
    simp only [Item.blocks, cutOff_nil]
    exact added

theorem addItems_eq_cutOff (values : CutsOff limit depth nested unlimited argument)
    {items : List Item} (untemplated : areUntemplated items = true) {progress last : Progress}
    (added : addItems unlimited argument progress items = .ok last) :
    addItems nested argument progress items = cutOff limit (blocksOf depth items) last := by
  induction items generalizing progress with
  | nil =>
    rw [blocksOf, cutOff_nil]
    exact added
  | cons item rest ih =>
    rw [areUntemplated, Bool.and_eq_true] at untemplated
    obtain ⟨next, first, others⟩ := except_bind_eq_ok.1 added
    rw [addItems, addItem_eq_cutOff values untemplated.1 first, blocksOf]
    exact cutOff_bind fun _ => ih untemplated.2 others

theorem evalItems_eq_cutOff {apply apply' : TemplateEval}
    (values : CutsOff limit depth nested unlimited argument) {items : List Item}
    (untemplated : areUntemplated items = true) {value : Option Value}
    (evaluated : evalItems unlimited apply' argument items = .ok value) :
    evalItems nested apply argument items = cutOff limit (blocksOf depth items) value := by
  obtain ⟨last, added, evaluated⟩ := except_bind_eq_ok.1 evaluated
  have noParent : last.parent = none := parent_addItems (isInherit_of_mem untemplated) added
  rw [evalItems, addItems_eq_cutOff values untemplated added]
  refine cutOff_bind_ok ?_
  rw [noParent] at evaluated ⊢
  exact evaluated

end items

section nested

variable (templates : Templates) (argument : Option Value) {limit enough : Nat}

theorem cutsOff_of_blocks {depth room more : Nat}
    (blocks : ∀ items span value, areUntemplated items = true →
      evalNode templates enough more (.block items span) argument = .ok value →
        evalNode templates limit room (.block items span) argument =
          cutOff limit (ValueNode.blocks depth (.block items span)) value) :
    CutsOff limit depth (evalNode templates limit room) (evalNode templates enough more)
      argument := by
  intro node value untemplated evaluated
  cases node with
  | text text span =>
    rw [evalNode] at evaluated
    rw [ValueNode.blocks, evalNode, cutOff_nil]
    exact evaluated
  | strings lines span =>
    rw [evalNode] at evaluated
    rw [ValueNode.blocks, evalNode, cutOff_nil]
    exact evaluated
  | block items span => exact blocks items span value untemplated evaluated

theorem cutsOff_evalNode {depth room more : Nat} (level : depth + room = limit) :
    CutsOff limit depth (evalNode templates limit room) (evalNode templates enough more)
      argument := by
  -- the depth that is left makes up the limit with the depth of the value
  induction room generalizing depth more with
  | zero =>
    refine cutsOff_of_blocks templates argument fun items span value untemplated evaluated => ?_
    have deep : depth + 1 = limit + 1 := by omega
    rw [ValueNode.blocks, evalNode, cutOff_cons_of_deep deep]
  | succ room ih =>
    refine cutsOff_of_blocks templates argument fun items span value untemplated evaluated => ?_
    have shallow : depth + 1 ≤ limit := by omega
    have noTemplate := isTemplate_of_mem untemplated
    cases more with
    | zero =>
      rw [evalNode] at evaluated
      cases evaluated
    | succ more =>
      rw [evalNode_block noTemplate] at evaluated
      rw [ValueNode.blocks, cutOff_cons_of_le shallow, evalNode_block noTemplate]
      exact evalItems_eq_cutOff (ih (by omega)) untemplated evaluated

end nested

end Eval

open Eval in
/-- What a document without templates comes to at some limit, it comes to at every limit that
none of its blocks is too deep for. -/
theorem Document.evaluate_eq_cutOff {document : Document}
    (untemplated : areUntemplated document.items = true) {argument value : Option Value}
    {enough : Nat} (evaluated : document.evaluate enough argument = .ok value) (limit : Nat) :
    document.evaluate limit argument = cutOff limit (blocksOf 0 document.items) value := by
  unfold evaluate evalDocument at evaluated ⊢
  rw [declare_of_plain argument [] (isTemplate_of_mem untemplated)] at evaluated ⊢
  exact evalItems_eq_cutOff (cutsOff_evalNode [] argument (Nat.zero_add limit)) untemplated evaluated

end ConfigLang
