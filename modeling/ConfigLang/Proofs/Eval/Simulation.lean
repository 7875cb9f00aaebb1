import ConfigLang.Proofs.Eval.Argument
/-! Two evaluations of one document side by side, under arguments that hold the same under the
paths it reads and with limits of which the second is not lower. They end in the same way,
unless the first gives up for its lower limit. Template bodies need not be looked at: a template
is applied to what its block adds up to, and that is the same on both sides. -/
namespace ConfigLang.Eval

/-- Two runs end in the same way, or the first gives up and its limit is lower. -/
def Settles (limit limit' : Nat) {α : Type} (x y : Except Error α) : Prop :=
  x = y ∨ (limit < limit' ∧ TooDeep x)

section settles

variable {limit limit' : Nat}

theorem Settles.refl {α : Type} (x : Except Error α) : Settles limit limit' x x := .inl rfl

theorem Settles.bind {α β : Type} {x y : Except Error α} {f g : α → Except Error β}
    (here : Settles limit limit' x y)
    (later : ∀ value, Settles limit limit' (f value) (g value)) :
    Settles limit limit' (x >>= f) (y >>= g) := by
  rcases here with rfl | ⟨lower, deep⟩
  · cases x with
    | error e => exact .refl _
    | ok value => exact later value
  · exact .inr ⟨lower, deep.bind f⟩

theorem Settles.eq {α : Type} {x y : Except Error α} (settles : Settles limit limit' x y)
    (goesOn : ¬ TooDeep x) : x = y := by
  rcases settles with same | ⟨_, deep⟩
  · exact same
  · exact absurd deep goesOn

theorem Settles.eq_of_same_limit {α : Type} {x y : Except Error α}
    (settles : Settles limit limit x y) : x = y := by
  rcases settles with same | ⟨lower, _⟩
  · exact same
  · exact absurd lower (Nat.lt_irrefl _)

end settles

section items

variable {limit limit' : Nat} {nested nested' : NodeEval} {a b : Option Value}

theorem settles_addItem
    (values : ∀ value : ValueNode, SameOn a b value.paths →
      Settles limit limit' (nested value a) (nested' value b))
    (progress : Progress) {item : Item} (same : SameOn a b item.outerPaths) :
    Settles limit limit' (addItem nested a progress item) (addItem nested' b progress item) := by
  cases item with
  | blank span => exact .refl _
  | comment comment => exact .refl _
  | inherit path span => exact .refl _
  | tagged key value template span =>
    cases template with
    | some mark => exact .refl _
    | none =>
      simp only [Item.outerPaths, Item.paths, sameOn_append] at same
      obtain ⟨inKey, inValue⟩ := same
      simp only [addItem, keyText_congr inKey]
      refine (Settles.refl _).bind fun locked => ?_
      refine (Settles.refl _).bind fun name => ?_
      exact (values value inValue).bind fun result => .refl _
  | untagged value span =>
    simp only [Item.outerPaths, Item.paths] at same
    refine (Settles.refl _).bind fun locked => ?_
    exact (values value same).bind fun result => .refl _
  | strings line =>
    simp only [Item.outerPaths, Item.paths] at same
    simp only [addItem, appendLine_congr same]
    exact .refl _
  | spread path =>
    simp only [Item.outerPaths, Item.paths] at same
    have here : HoldSame a b path := same path List.mem_cons_self
    simp only [addItem, spread_congr here]
    exact .refl _

theorem settles_addItems
    (values : ∀ value : ValueNode, SameOn a b value.paths →
      Settles limit limit' (nested value a) (nested' value b))
    (progress : Progress) {items : List Item}
    (same : SameOn a b (items.flatMap Item.outerPaths)) :
    Settles limit limit' (addItems nested a progress items) (addItems nested' b progress items) := by
  induction items generalizing progress with
  | nil => exact .refl _
  | cons item rest ih =>
    rw [List.flatMap_cons, sameOn_append] at same
    obtain ⟨here, later⟩ := same
    rw [addItems, addItems]
    exact (settles_addItem values progress here).bind fun next => ih next later

theorem settles_evalItems {apply apply' : TemplateEval}
    (values : ∀ value : ValueNode, SameOn a b value.paths →
      Settles limit limit' (nested value a) (nested' value b))
    (applied : ∀ parent value, Settles limit limit' (apply parent value) (apply' parent value))
    {items : List Item} (same : SameOn a b (items.flatMap Item.outerPaths)) :
    Settles limit limit' (evalItems nested apply a items) (evalItems nested' apply' b items) := by
  refine (settles_addItems values .start same).bind fun progress => ?_
  cases progress.parent with
  | none => exact .refl _
  | some parent => exact applied parent progress.accumulator.value

end items

section nested

variable (templates : Templates) {limit limit' : Nat}

theorem settles_evalNode {depth depth' : Nat} {a b : Option Value}
    (blocks : ∀ items span, SameOn a b (items.flatMap Item.outerPaths) → Settles limit limit'
      (evalNode templates limit depth (.block items span) a)
      (evalNode templates limit' depth' (.block items span) b))
    {node : ValueNode} (same : SameOn a b node.paths) :
    Settles limit limit' (evalNode templates limit depth node a)
      (evalNode templates limit' depth' node b) := by
  cases node with
  | text text span =>
    rw [evalNode, evalNode]
    exact .refl _
  | strings lines span =>
    rw [ValueNode.paths] at same
    rw [evalNode, evalNode, joinLines_congr same]
    exact .refl _
  | block items span =>
    rw [ValueNode.paths] at same
    exact blocks items span (same.mono (outerPaths_subset items))

theorem settles_out_of_depth {depth' : Nat} (level : limit' = depth' + limit) :
    (∀ {a b : Option Value} {node : ValueNode}, SameOn a b node.paths →
      Settles limit limit' (evalNode templates limit 0 node a)
        (evalNode templates limit' depth' node b)) ∧
    ∀ parent value, Settles limit limit' (applyTemplate templates limit 0 parent value)
      (applyTemplate templates limit' depth' parent value) := by
  cases depth' with
  | zero =>
    rw [Nat.zero_add] at level
    subst level
    constructor
    · intro a b node same
      refine settles_evalNode templates (fun items span _ => ?_) same
      rw [evalNode, evalNode]
      exact .refl _
    · exact fun parent value => .refl _
  | succ depth' =>
    have lower : limit < limit' := by omega
    constructor
    · intro a b node same
      refine settles_evalNode templates (fun items span _ => .inr ⟨lower, limit, span, ?_⟩) same
      rw [evalNode]
    · intro ⟨path, span⟩ value
      rw [applyTemplate, applyTemplate]
      refine (Settles.refl _).bind fun node => ?_
      exact .inr ⟨lower, limit, span, rfl⟩

theorem settles_nested {depth depth' : Nat} (level : depth + limit' = depth' + limit)
    (le : limit ≤ limit') :
    (∀ {a b : Option Value} {node : ValueNode}, SameOn a b node.paths →
      Settles limit limit' (evalNode templates limit depth node a)
        (evalNode templates limit' depth' node b)) ∧
    ∀ parent value, Settles limit limit' (applyTemplate templates limit depth parent value)
      (applyTemplate templates limit' depth' parent value) := by
  -- the second run has as much more depth left as its limit is higher
  induction depth generalizing depth' with
  | zero => exact settles_out_of_depth templates (by omega)
  | succ depth ih =>
    obtain ⟨depth', rfl⟩ : ∃ less, depth' = less + 1 := ⟨depth' - 1, by omega⟩
    obtain ⟨values, applied⟩ := @ih depth' (by omega)
    constructor
    · intro a b node same
      refine settles_evalNode templates (fun items span inItems => ?_) same
      rw [evalNode, evalNode, rejectTemplates_congr inItems]
      exact (Settles.refl _).bind fun _ =>
        settles_evalItems (fun value inValue => values inValue) applied inItems
    · intro ⟨path, span⟩ value
      rw [applyTemplate, applyTemplate]
      refine (Settles.refl _).bind fun node => ?_
      exact values (SameOn.refl value node.paths)

end nested

end ConfigLang.Eval

namespace ConfigLang.Document

open Eval

theorem settles_evaluate (document : Document) {limit limit' : Nat} (le : limit ≤ limit')
    {a b : Option Value} (same : SameOn a b document.outerPaths) :
    Settles limit limit' (document.evaluate limit a) (document.evaluate limit' b) := by
  unfold evaluate evalDocument
  rw [declare_congr same]
  refine (Settles.refl _).bind fun templates => ?_
  obtain ⟨values, applied⟩ := settles_nested templates (Nat.add_comm limit limit') le
  exact settles_evalItems (fun value inValue => values inValue) applied same

/-- A document depends on its argument only through the paths of its placeholders and spreads
that are not in the body of a template. -/
theorem evaluate_eq_of_hold_same (document : Document) (limit : Nat) {a b : Option Value}
    (same : ∀ path ∈ document.outerPaths, HoldSame a b path) :
    document.evaluate limit a = document.evaluate limit b :=
  (document.settles_evaluate (Nat.le_refl limit) same).eq_of_same_limit

/-- The two arguments differ under the path that the template's body names. It reads what the
block that is made from it holds there. -/
theorem evaluate_eq_of_hold_same_outside_body :
    let read (name : String) : ValueNode :=
      .strings [⟨[.placeholder ⟨[name], default⟩], default⟩] default
    let entry (key : String) (value : ValueNode) (template : Option Span) : Item :=
      .tagged (.simple key default) value template default
    let body : ValueNode := .block [entry "inner" (read "secret") none] default
    let made : ValueNode :=
      .block [.inherit ⟨["t"], default⟩ default, entry "secret" (read "name") none] default
    let document : Document :=
      ⟨[entry "t" body (some default), entry "made" made none], default, .single "" ""⟩
    let host (secret : String) : Option Value :=
      some (.map [("name", .string "n"), ("secret", .string secret)])
    ¬ HoldSame (host "a") (host "b") ⟨["secret"], default⟩ ∧
      document.evaluate 3 (host "a") = document.evaluate 3 (host "b") ∧
      document.evaluate 3 (host "a") =
        .ok (some (.map [("made", .map [("inner", .string "n")])])) := by
  intro read entry body made document host
  have outer : ∀ path ∈ document.outerPaths, HoldSame (host "a") (host "b") path := by
    intro path member
    have name : path = ⟨["name"], default⟩ := List.mem_singleton.1 member
    rw [name]
    rfl
  have differ : ¬ HoldSame (host "a") (host "b") ⟨["secret"], default⟩ := by decide
  exact ⟨differ, document.evaluate_eq_of_hold_same 3 outer, rfl⟩

end ConfigLang.Document
