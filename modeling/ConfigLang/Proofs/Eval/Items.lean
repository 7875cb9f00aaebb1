import ConfigLang.Eval.Block
/-! What the items of a block do one after another. Items without a template pass the check of
a nested block, and items without a `@from` carry the parent of the block along. -/
namespace ConfigLang

namespace Item

def isTemplate : Item → Bool
  | tagged _ _ (some _) _ => true
  | _ => false

def isInherit : Item → Bool
  | inherit _ _ => true
  | _ => false

theorem eq_tagged_of_isTemplate {item : Item} (isTemplate : item.isTemplate = true) :
    ∃ key value mark span, item = tagged key value (some mark) span := by
  cases item with
  | tagged key value template span =>
    cases template with
    | none => cases isTemplate
    | some mark => exact ⟨key, value, mark, span, rfl⟩
  | _ => cases isTemplate

end Item

namespace Eval

def TooDeep {α : Type} (outcome : Except Error α) : Prop :=
  ∃ limit span, outcome = .error (.nestingTooDeep limit span)

theorem TooDeep.bind {α β : Type} {x : Except Error α} (deep : TooDeep x)
    (f : α → Except Error β) : TooDeep (x >>= f) := by
  obtain ⟨limit, span, rfl⟩ := deep
  exact ⟨limit, span, rfl⟩

theorem rejectTemplates_cons {item : Item} (plain : item.isTemplate = false)
    (argument : Option Value) (rest : List Item) :
    rejectTemplates argument (item :: rest) = rejectTemplates argument rest := by
  cases item with
  | tagged key value template span =>
    cases template with
    | none => rfl
    | some mark => cases plain
  | _ => rfl

theorem declare_cons {item : Item} (plain : item.isTemplate = false) (argument : Option Value)
    (templates : Templates) (rest : List Item) :
    declare argument templates (item :: rest) = declare argument templates rest := by
  cases item with
  | tagged key value template span =>
    cases template with
    | none => rfl
    | some mark => cases plain
  | _ => rfl

theorem rejectTemplates_eq_ok_iff {argument : Option Value} {items : List Item} :
    rejectTemplates argument items = .ok () ↔ ∀ item ∈ items, item.isTemplate = false := by
  induction items with
  | nil => exact iff_of_true rfl nofun
  | cons item rest ih =>
    rw [List.forall_mem_cons]
    cases kind : item.isTemplate with
    | false => rw [rejectTemplates_cons kind, ih, and_iff_right rfl]
    | true =>
      obtain ⟨key, value, mark, span, rfl⟩ := Item.eq_tagged_of_isTemplate kind
      exact iff_of_false nofun fun plain => Bool.noConfusion plain.1

theorem declare_of_plain (argument : Option Value) (templates : Templates) {items : List Item}
    (plain : ∀ item ∈ items, item.isTemplate = false) :
    declare argument templates items = .ok templates := by
  induction items with
  | nil => rfl
  | cons item rest ih =>
    obtain ⟨this, others⟩ := List.forall_mem_cons.1 plain
    exact (declare_cons this argument templates rest).trans (ih others)

theorem evalNode_block {templates : Templates} {limit depth : Nat} {argument : Option Value}
    {items : List Item} (plain : ∀ item ∈ items, item.isTemplate = false) (block : Span) :
    evalNode templates limit (depth + 1) (.block items block) argument =
      evalItems (evalNode templates limit depth) (applyTemplate templates limit depth) argument
        items := by
  rw [evalNode, rejectTemplates_eq_ok_iff.2 plain]
  rfl

section applied

variable {templates : Templates} {path : Path} {span : Span} {node : ValueNode}
  (found : templates.lookup path span = .ok node) (limit : Nat) (argument : Option Value)

include found

theorem applyTemplate_zero : applyTemplate templates limit 0 (path, span) argument =
    .error (.nestingTooDeep limit span) := by
  rw [applyTemplate, found]
  rfl

theorem applyTemplate_succ (depth : Nat) :
    applyTemplate templates limit (depth + 1) (path, span) argument =
      evalNode templates limit depth node argument := by
  rw [applyTemplate, found]
  rfl

end applied

section run

variable {nested : NodeEval} {argument : Option Value}

theorem addItems_cons {progress next : Progress} {item : Item}
    (added : addItem nested argument progress item = .ok next) (rest : List Item) :
    addItems nested argument progress (item :: rest) = addItems nested argument next rest := by
  rw [addItems, added]
  rfl

theorem addItems_append (progress : Progress) (front back : List Item) :
    addItems nested argument progress (front ++ back) =
      addItems nested argument progress front >>= fun next =>
        addItems nested argument next back := by
  induction front generalizing progress with
  | nil => rfl
  | cons item rest ih =>
    rw [List.cons_append, addItems, addItems]
    cases addItem nested argument progress item with
    | error e => rfl
    | ok next => exact ih next

def Progress.withParent (parent : Option (Path × Span)) (progress : Progress) : Progress :=
  { progress with parent }

theorem addItem_withParent (parent : Option (Path × Span)) (progress : Progress) {item : Item}
    (other : item.isInherit = false) :
    addItem nested argument (progress.withParent parent) item =
      (addItem nested argument progress item).map (·.withParent parent) := by
  cases item with
  | inherit path span => cases other
  | blank span => rfl
  | comment comment => rfl
  | tagged key value template span =>
    cases template with
    | some mark => rfl
    | none =>
      simp only [addItem, Progress.withParent]
      cases progress.accumulator.lock .map span with
      | error e => rfl
      | ok locked =>
        cases keyText argument key with
        | error e => rfl
        | ok name => cases nested value argument <;> rfl
  | untagged value span =>
    simp only [addItem, Progress.withParent]
    cases progress.accumulator.lock .list span with
    | error e => rfl
    | ok locked => cases nested value argument <;> rfl
  | strings line =>
    simp only [addItem, Progress.withParent]
    cases progress.accumulator.lock .string line.span with
    | error e => rfl
    | ok locked =>
      simp only [bind, Except.bind]
      cases locked.appendLine argument line <;> rfl
  | spread path =>
    simp only [addItem, Progress.withParent]
    cases progress.accumulator.spread argument path <;> rfl

theorem addItems_withParent (parent : Option (Path × Span)) (progress : Progress)
    {items : List Item} (others : ∀ item ∈ items, item.isInherit = false) :
    addItems nested argument (progress.withParent parent) items =
      (addItems nested argument progress items).map (·.withParent parent) := by
  induction items generalizing progress with
  | nil => rfl
  | cons item rest ih =>
    obtain ⟨this, others⟩ := List.forall_mem_cons.1 others
    rw [addItems, addItems, addItem_withParent parent progress this]
    cases addItem nested argument progress item with
    | error e => rfl
    | ok next => exact ih next others

theorem parent_addItems {progress next : Progress} {items : List Item}
    (others : ∀ item ∈ items, item.isInherit = false)
    (added : addItems nested argument progress items = .ok next) :
    next.parent = progress.parent := by
  have whole : addItems nested argument progress items = _ :=
    addItems_withParent progress.parent progress others
  rw [added] at whole
  have same : next = next.withParent progress.parent := Except.ok.inj whole
  rw [same]
  rfl

end run

theorem evalItems_of_addItems {nested : NodeEval} {apply : TemplateEval}
    {argument : Option Value} {items : List Item} {accumulator : Accumulator} {content : Bool}
    (added : addItems nested argument .start items = .ok ⟨accumulator, none, content⟩) :
    evalItems nested apply argument items = .ok accumulator.value := by
  simp only [evalItems, added]
  rfl

theorem evalItems_inherit {nested : NodeEval} {apply : TemplateEval} {argument : Option Value}
    {content : List Item} {value : Option Value}
    (others : ∀ item ∈ content, item.isInherit = false)
    (own : evalItems nested apply argument content = .ok value) (path : Path) (span : Span) :
    evalItems nested apply argument (.inherit path span :: content) = apply (path, span) value := by
  obtain ⟨progress, added, own⟩ := except_bind_eq_ok.1 own
  have noParent : progress.parent = none := parent_addItems others added
  simp only [noParent] at own
  cases own
  have handed : addItems nested argument .start (.inherit path span :: content) =
      .ok (progress.withParent (some (path, span))) := by
    refine (addItems_withParent (some (path, span)) .start others).trans ?_
    rw [added]
    rfl
  rw [evalItems, handed]
  rfl

namespace Accumulator

def shape? (acc : Accumulator) : Option Shape := acc.value.map Value.shape

theorem shape?_of_lock {acc next : Accumulator} {shape : Shape} {span : Span}
    (fits : acc.lock shape span = .ok next) : next.shape? = some shape := by
  unfold lock at fits
  split at fits
  · cases fits
    simp [shape?]
  · next value held =>
    split at fits
    · next same =>
      cases fits
      simp [shape?, held, same]
    · cases fits

end Accumulator

end Eval
end ConfigLang
