import Mathlib.Logic.Relation
import ConfigLang.Proofs.Eval.Items
/-! The blocks that an evaluation comes to. From a block it goes on to the blocks that are values
of its items, and to the one that its `@from` names. If the whole comes to a value, so does each
block on the way. -/
namespace ConfigLang

def Item.value? : Item → Option ValueNode
  | .tagged _ value none _ => some value
  | .untagged value _ => some value
  | _ => none

def HoldsBlock (outer inner : List Item) : Prop :=
  ∃ item ∈ outer, ∃ span, item.value? = some (.block inner span)

def Item.parent? : Item → Option (Path × Span)
  | .inherit path span => some (path, span)
  | _ => none

/-- The last `@from` of a block, which is the one that counts. -/
def parentOf (items : List Item) : Option (Path × Span) := items.reverse.findSome? Item.parent?

theorem parentOf_cons (item : Item) (rest : List Item) :
    parentOf (item :: rest) = (parentOf rest).or item.parent? := by
  simp [parentOf, List.findSome?_append]

namespace Eval

/-- The block `outer` is made from the block `inner` by its `@from`. -/
def Inherits (templates : Templates) (outer inner : List Item) : Prop :=
  ∃ path span block, parentOf outer = some (path, span) ∧
    templates.find? path.components = some (.block inner block)

def LeadsTo (templates : Templates) (outer inner : List Item) : Prop :=
  HoldsBlock outer inner ∨ Inherits templates outer inner

def Evaluates (templates : Templates) (limit : Nat) (argument : Option Value)
    (items : List Item) : Prop :=
  ∃ depth value, evalItems (evalNode templates limit depth) (applyTemplate templates limit depth)
    argument items = .ok value

section items

variable {nested : NodeEval} {argument : Option Value}

theorem exists_addItem {progress last : Progress} {items : List Item}
    (added : addItems nested argument progress items = .ok last) :
    ∀ item ∈ items, ∃ before after, addItem nested argument before item = .ok after := by
  induction items generalizing progress with
  | nil => simp
  | cons item rest ih =>
    obtain ⟨next, here, later⟩ := except_bind_eq_ok.1 added
    intro other member
    rcases List.mem_cons.1 member with rfl | member
    · exact ⟨progress, next, here⟩
    · exact ih later other member

theorem exists_value_of_addItem {progress next : Progress} {item : Item} {node : ValueNode}
    (added : addItem nested argument progress item = .ok next) (own : item.value? = some node) :
    ∃ value, nested node argument = .ok value := by
  cases item with
  | tagged key value template span =>
    cases template with
    | some mark => cases own
    | none =>
      cases own
      obtain ⟨locked, _, added⟩ := except_bind_eq_ok.1 added
      obtain ⟨name, _, added⟩ := except_bind_eq_ok.1 added
      obtain ⟨value, evaluated, _⟩ := except_bind_eq_ok.1 added
      exact ⟨value, evaluated⟩
  | untagged value span =>
    cases own
    obtain ⟨locked, _, added⟩ := except_bind_eq_ok.1 added
    obtain ⟨value, evaluated, _⟩ := except_bind_eq_ok.1 added
    exact ⟨value, evaluated⟩
  | _ => cases own

theorem parent_addItem {progress next : Progress} {item : Item}
    (added : addItem nested argument progress item = .ok next) :
    next.parent = item.parent?.or progress.parent := by
  by_cases isInherit : item.isInherit = true
  · cases item with
    | inherit path span =>
      rw [addItem] at added
      split at added
      · cases added
      · cases added
        rfl
    | _ => cases isInherit
  · have others : ∀ other ∈ [item], other.isInherit = false := by simpa using isInherit
    have alone : addItems nested argument progress [item] = .ok next := by
      rw [addItems_cons added]
      rfl
    have kept : next.parent = progress.parent := parent_addItems others alone
    cases item with
    | inherit path span => exact absurd rfl isInherit
    | _ => exact kept

theorem parent_of_addItems {progress last : Progress} {items : List Item}
    (added : addItems nested argument progress items = .ok last) :
    last.parent = (parentOf items).or progress.parent := by
  induction items generalizing progress with
  | nil =>
    cases added
    rfl
  | cons item rest ih =>
    obtain ⟨next, here, later⟩ := except_bind_eq_ok.1 added
    rw [ih later, parent_addItem here, parentOf_cons, Option.or_assoc]

end items

section blocks

variable {templates : Templates} {limit : Nat} {argument : Option Value}

theorem evaluates_of_block {depth : Nat} {items : List Item} {span : Span} {value : Option Value}
    (evaluated : evalNode templates limit depth (.block items span) argument = .ok value) :
    Evaluates templates limit argument items ∧ ∀ item ∈ items, item.isTemplate = false := by
  cases depth with
  | zero =>
    rw [evalNode] at evaluated
    cases evaluated
  | succ depth =>
    rw [evalNode] at evaluated
    obtain ⟨_, passed, evaluated⟩ := except_bind_eq_ok.1 evaluated
    exact ⟨⟨depth, value, evaluated⟩, rejectTemplates_eq_ok_iff.1 passed⟩

theorem evaluates_of_holdsBlock {outer inner : List Item}
    (evaluates : Evaluates templates limit argument outer) (holds : HoldsBlock outer inner) :
    Evaluates templates limit argument inner ∧ ∀ item ∈ inner, item.isTemplate = false := by
  obtain ⟨depth, value, evaluated⟩ := evaluates
  obtain ⟨item, member, span, own⟩ := holds
  obtain ⟨progress, added, _⟩ := except_bind_eq_ok.1 evaluated
  obtain ⟨before, after, added⟩ := exists_addItem added item member
  obtain ⟨value, evaluated⟩ := exists_value_of_addItem added own
  exact evaluates_of_block evaluated

theorem evaluates_of_inherits {outer inner : List Item}
    (evaluates : Evaluates templates limit argument outer)
    (inherits : Inherits templates outer inner) :
    (∃ handed, Evaluates templates limit handed inner) ∧
      ∀ item ∈ inner, item.isTemplate = false := by
  obtain ⟨depth, value, evaluated⟩ := evaluates
  obtain ⟨path, span, block, parent, found⟩ := inherits
  obtain ⟨progress, added, evaluated⟩ := except_bind_eq_ok.1 evaluated
  have last : progress.parent = some (path, span) := by
    rw [parent_of_addItems added, parent]
    rfl
  simp only [last] at evaluated
  have known : templates.lookup path span = .ok (.block inner block) :=
    Templates.lookup_eq_ok_iff.2 found
  cases depth with
  | zero =>
    rw [applyTemplate_zero known] at evaluated
    cases evaluated
  | succ depth =>
    rw [applyTemplate_succ known] at evaluated
    obtain ⟨evaluates, plain⟩ := evaluates_of_block evaluated
    exact ⟨⟨_, evaluates⟩, plain⟩

theorem evaluates_of_nested {outer inner : List Item}
    (evaluates : Evaluates templates limit argument outer)
    (nested : Relation.TransGen HoldsBlock outer inner) :
    Evaluates templates limit argument inner ∧ ∀ item ∈ inner, item.isTemplate = false := by
  induction nested with
  | single holds => exact evaluates_of_holdsBlock evaluates holds
  | tail _ holds ih => exact evaluates_of_holdsBlock ih.1 holds

theorem evaluates_of_below {outer inner : List Item}
    (evaluates : Evaluates templates limit argument outer)
    (below : Relation.ReflTransGen HoldsBlock outer inner) :
    Evaluates templates limit argument inner := by
  rcases Relation.reflTransGen_iff_eq_or_transGen.1 below with rfl | nested
  · exact evaluates
  · exact (evaluates_of_nested evaluates nested).1

theorem evaluates_of_leadsTo {outer inner : List Item}
    (evaluates : Evaluates templates limit argument outer)
    (leads : LeadsTo templates outer inner) :
    (∃ handed, Evaluates templates limit handed inner) ∧
      ∀ item ∈ inner, item.isTemplate = false := by
  rcases leads with holds | inherits
  · obtain ⟨evaluates, plain⟩ := evaluates_of_holdsBlock evaluates holds
    exact ⟨⟨argument, evaluates⟩, plain⟩
  · exact evaluates_of_inherits evaluates inherits

/-- Every block that evaluation comes to below the top level has no template, if the whole comes to
a value. -/
theorem evaluates_of_reached {outer inner : List Item}
    (evaluates : Evaluates templates limit argument outer)
    (reached : Relation.TransGen (LeadsTo templates) outer inner) :
    (∃ handed, Evaluates templates limit handed inner) ∧
      ∀ item ∈ inner, item.isTemplate = false := by
  induction reached with
  | single leads => exact evaluates_of_leadsTo evaluates leads
  | tail _ leads ih =>
    obtain ⟨handed, evaluates⟩ := ih.1
    exact evaluates_of_leadsTo evaluates leads

end blocks

end Eval

open Eval in
theorem Document.evaluates_of_evaluate {document : Document} {limit : Nat}
    {argument value : Option Value} (evaluated : document.evaluate limit argument = .ok value) :
    ∃ templates, declare argument [] document.items = .ok templates ∧
      Evaluates templates limit argument document.items := by
  obtain ⟨templates, declared, evaluated⟩ := except_bind_eq_ok.1 evaluated
  exact ⟨templates, declared, limit, value, evaluated⟩

end ConfigLang
