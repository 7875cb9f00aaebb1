import ConfigLang.Proofs.Eval.Reach
/-! Cyclic inheritance. A template path is cyclic if the last `@from`s of the blocks that are come
to from it lead on for ever. A block that is made from one may add up to anything, and so may the
blocks on the way, but none of them ever comes to a value: each `@from` that is followed leaves less
room, and before the room is used up there is always another one. -/
namespace ConfigLang

namespace Eval

/-- The path leads to a block, and the last `@from` of that block names `next`. -/
def GoesOn (templates : Templates) (path next : Path) : Prop :=
  ∃ items block span, templates.find? path.components = some (.block items block) ∧
    parentOf items = some (next, span)

/-- The path goes on to one that is cyclic again. No node without a `@from` is ever come to. -/
coinductive Cyclic (templates : Templates) : Path → Prop where
  | step {path next : Path} (goesOn : GoesOn templates path next)
      (again : Cyclic templates next) : Cyclic templates path

def Fails {α : Type} (x : Except Error α) : Prop := ∃ error, x = .error error

theorem Fails.of_error {α : Type} (error : Error) : Fails (.error error : Except Error α) :=
  ⟨error, rfl⟩

theorem Fails.bind {α β : Type} {x : Except Error α} {f : α → Except Error β}
    (later : ∀ value, x = .ok value → Fails (f value)) : Fails (x >>= f) := by
  cases x with
  | error error => exact .of_error error
  | ok value => exact later value rfl

theorem fails_evalItems {nested : NodeEval} {apply : TemplateEval} {argument : Option Value}
    {items : List Item} {parent : Path × Span} (last : parentOf items = some parent)
    (applied : ∀ handed, Fails (apply parent handed)) :
    Fails (evalItems nested apply argument items) := by
  apply Fails.bind
  intro progress added
  have made : progress.parent = some parent := by
    rw [parent_of_addItems added, last]
    rfl
  rw [made]
  exact applied progress.accumulator.value

theorem fails_applyTemplate {templates : Templates} (limit depth : Nat) {path : Path}
    (cyclic : Cyclic templates path) (span : Span) (handed : Option Value) :
    Fails (applyTemplate templates limit depth (path, span) handed) := by
  -- a template that is applied takes some of the room, and so does its block
  induction depth using Nat.strongRecOn generalizing path span handed with
  | ind depth ih =>
    cases cyclic with
    | step goesOn again =>
      obtain ⟨items, block, behind, found, last⟩ := goesOn
      have known : templates.lookup path span = .ok (.block items block) :=
        Templates.lookup_eq_ok_iff.2 found
      match depth with
      | 0 =>
        rw [applyTemplate_zero known]
        exact .of_error _
      | 1 =>
        rw [applyTemplate_succ known, evalNode]
        exact .of_error _
      | depth + 2 =>
        rw [applyTemplate_succ known, evalNode]
        apply Fails.bind
        intro _ _
        exact fails_evalItems last fun value => ih depth (by omega) again behind value

end Eval

namespace Document

open Eval

/-- Cyclic inheritance never comes to a value. To apply a cyclic path is an error, however deep
nesting may be and whatever block applies it with whatever it adds up to. So is a document in which
the last `@from` of a block outside template bodies, or that of the top level, names such a path. -/
theorem cyclic_inheritance_fails (document : Document) (argument : Option Value)
    {templates : Templates} (declared : declare argument [] document.items = .ok templates)
    {path : Path} (cyclic : Cyclic templates path) :
    (∀ limit depth span handed, ∃ error,
      applyTemplate templates limit depth (path, span) handed = .error error) ∧
    ∀ block, Relation.ReflTransGen HoldsBlock document.items block →
      ∀ span, parentOf block = some (path, span) →
        ∀ limit, ∃ error, document.evaluate limit argument = .error error := by
  constructor
  · intro limit depth span handed
    exact fails_applyTemplate limit depth cyclic span handed
  · intro block below span last limit
    cases evaluated : document.evaluate limit argument with
    | error error => exact ⟨error, rfl⟩
    | ok value =>
      obtain ⟨known, same, whole⟩ := evaluates_of_evaluate evaluated
      cases declared.symm.trans same
      obtain ⟨depth, result, done⟩ := evaluates_of_below whole below
      obtain ⟨error, failed⟩ := fails_evalItems last fun handed =>
        fails_applyTemplate limit depth cyclic span handed
      rw [failed] at done
      cases done

/-- A cycle of two templates, the second of which is entered below its key `k`. A block that is
nested in another adds up to a list and is made from the first. -/
theorem cyclic_inheritance_fails_of_two :
    let made (names : List String) : Item := .inherit ⟨names, default⟩ default
    let entry (key : String) (value : ValueNode) (template : Option Span) : Item :=
      .tagged (.simple key default) value template default
    let leaf : Item := .untagged (.text "x" default) default
    let first : ValueNode := .block [made ["other"], made ["u", "k"], leaf] default
    let second : ValueNode := .block [entry "k" (.block [made ["t"]] default) none] default
    let inner : List Item := [made ["t"], leaf]
    let templates : Templates := [("t", first), ("u", second)]
    let document : Document :=
      ⟨[entry "t" first (some default), entry "u" second (some default),
        entry "a" (.block inner default) none], default, .single "" ""⟩
    declare none [] document.items = .ok templates ∧ Cyclic templates ⟨["t"], default⟩ ∧
      Relation.ReflTransGen HoldsBlock document.items inner ∧
      (∃ error, applyTemplate templates 9 5 (⟨["t"], default⟩, default) none = .error error) ∧
      ∃ error, document.evaluate 9 none = .error error := by
  intro made entry leaf first second inner templates document
  have declared : declare none [] document.items = .ok templates := rfl
  have cyclic : Cyclic templates ⟨["t"], default⟩ := by
    let onCycle (path : Path) : Prop :=
      path = ⟨["t"], default⟩ ∨ path = ⟨["u", "k"], default⟩
    refine Cyclic.coinduct templates onCycle ?_ _ (.inl rfl)
    rintro path (rfl | rfl)
    · exact ⟨⟨["u", "k"], default⟩, ⟨_, _, _, rfl, rfl⟩, .inr rfl⟩
    · exact ⟨⟨["t"], default⟩, ⟨_, _, _, rfl, rfl⟩, .inl rfl⟩
  have inside : Relation.ReflTransGen HoldsBlock document.items inner :=
    .single ⟨_, .tail _ (.tail _ (.head _)), default, rfl⟩
  obtain ⟨applied, evaluated⟩ := cyclic_inheritance_fails document none declared cyclic
  exact ⟨declared, cyclic, inside, applied 9 5 default none, evaluated inner inside default rfl 9⟩

end Document

end ConfigLang
