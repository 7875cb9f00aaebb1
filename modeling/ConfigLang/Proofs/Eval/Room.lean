import ConfigLang.Proofs.Eval.Items
/-! Evaluation with more room. What comes to a value with some depth left comes to the same value
with more of it, and whatever the limit is: the limit only shows in the error of a nesting that is
too deep. -/
namespace ConfigLang.Eval

/-- The value of the first run, if it comes to one, is that of the second. -/
def Persists {α : Type} (x y : Except Error α) : Prop := ∀ value, x = .ok value → y = .ok value

namespace Persists

theorem refl {α : Type} (x : Except Error α) : Persists x x := fun _ => id

theorem of_error {α : Type} (error : Error) (y : Except Error α) : Persists (.error error) y := nofun

theorem bind {α β : Type} {x y : Except Error α} {f g : α → Except Error β} (here : Persists x y)
    (later : ∀ value, Persists (f value) (g value)) : Persists (x >>= f) (y >>= g) := by
  intro result done
  obtain ⟨value, first, second⟩ := except_bind_eq_ok.1 done
  exact except_bind_eq_ok.2 ⟨value, here value first, later value result second⟩

end Persists

section items

variable {nested nested' : NodeEval} {argument : Option Value}

theorem persists_addItem (values : ∀ node, Persists (nested node argument) (nested' node argument))
    (progress : Progress) (item : Item) :
    Persists (addItem nested argument progress item) (addItem nested' argument progress item) := by
  cases item with
  | tagged key node template span =>
    cases template with
    | some mark => exact .refl _
    | none =>
      refine (Persists.refl _).bind fun locked => ?_
      refine (Persists.refl _).bind fun name => ?_
      exact (values node).bind fun result => .refl _
  | untagged node span =>
    refine (Persists.refl _).bind fun locked => ?_
    exact (values node).bind fun result => .refl _
  | blank span | comment comment | inherit path span | strings line | spread path => exact .refl _

theorem persists_addItems (values : ∀ node, Persists (nested node argument) (nested' node argument))
    (progress : Progress) (items : List Item) :
    Persists (addItems nested argument progress items)
      (addItems nested' argument progress items) := by
  induction items generalizing progress with
  | nil => exact .refl _
  | cons item rest ih => exact (persists_addItem values progress item).bind ih

theorem persists_evalItems {apply apply' : TemplateEval}
    (values : ∀ node, Persists (nested node argument) (nested' node argument))
    (applied : ∀ parent handed, Persists (apply parent handed) (apply' parent handed))
    (items : List Item) :
    Persists (evalItems nested apply argument items) (evalItems nested' apply' argument items) := by
  refine (persists_addItems values .start items).bind fun progress => ?_
  cases progress.parent with
  | none => exact .refl _
  | some parent => exact applied parent progress.accumulator.value

end items

section nested

variable (templates : Templates) (limit limit' : Nat)

theorem persists_evalNode {depth depth' : Nat} {argument : Option Value}
    (blocks : ∀ items span, Persists (evalNode templates limit depth (.block items span) argument)
      (evalNode templates limit' depth' (.block items span) argument)) (node : ValueNode) :
    Persists (evalNode templates limit depth node argument)
      (evalNode templates limit' depth' node argument) := by
  cases node with
  | block items span => exact blocks items span
  | text text span =>
    rw [evalNode, evalNode]
    exact .refl _
  | strings lines span =>
    rw [evalNode, evalNode]
    exact .refl _

theorem persists_nested {depth depth' : Nat} (le : depth ≤ depth') :
    (∀ node argument, Persists (evalNode templates limit depth node argument)
      (evalNode templates limit' depth' node argument)) ∧
    ∀ parent argument, Persists (applyTemplate templates limit depth parent argument)
      (applyTemplate templates limit' depth' parent argument) := by
  -- without any room the first run opens nothing
  induction depth generalizing depth' with
  | zero =>
    constructor
    · intro node argument
      refine persists_evalNode templates limit limit' (fun items span => ?_) node
      rw [evalNode]
      exact .of_error _ _
    · intro ⟨path, span⟩ argument result done
      obtain ⟨node, _, done⟩ := except_bind_eq_ok.1 done
      cases done
  | succ depth ih =>
    obtain ⟨depth', rfl⟩ : ∃ less, depth' = less + 1 := ⟨depth' - 1, by omega⟩
    obtain ⟨values, applied⟩ := ih (Nat.le_of_succ_le_succ le)
    constructor
    · intro node argument
      refine persists_evalNode templates limit limit' (fun items span => ?_) node
      rw [evalNode, evalNode]
      refine (Persists.refl _).bind fun _ => ?_
      exact persists_evalItems (fun node => values node argument) applied items
    · intro ⟨path, span⟩ argument
      rw [applyTemplate, applyTemplate]
      exact (Persists.refl _).bind fun node => values node argument

theorem evalNode_of_more_room {depth depth' : Nat} (le : depth ≤ depth') {node : ValueNode}
    {argument value : Option Value}
    (evaluated : evalNode templates limit depth node argument = .ok value) :
    evalNode templates limit depth' node argument = .ok value :=
  (persists_nested templates limit limit le).1 node argument value evaluated

end nested

end ConfigLang.Eval
