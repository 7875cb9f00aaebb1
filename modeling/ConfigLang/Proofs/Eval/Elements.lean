import ConfigLang.Proofs.Eval.BlockShape
/-! The items of a list. A list item adds what it comes to, a spread the items of the list that it
stands for, and what a block has so far is never touched. So a block of these is the list of all that
its items add, in order. -/
namespace ConfigLang

def Item.AddsElements (argument : Option Value) (item : Item) : Prop :=
  (∃ value span, item = .untagged value span) ∨
    ∃ path elements, item = .spread path ∧
      argument.bind (Value.select? path.components) = some (.list elements)

namespace Eval

/-- What an item adds to a list. A value that is absent adds nothing. -/
def evalElements (nested : NodeEval) (argument : Option Value) : Item → Except Error (List Value)
  | .untagged value _ => (nested value argument).map Option.toList
  | .spread path =>
    .ok (((argument.bind (Value.select? path.components)).bind Value.items?).getD [])
  | _ => .ok []

section items

variable {nested : NodeEval} {argument : Option Value} {item : Item}

theorem spreadValue_of_select {path : Path} {value : Value}
    (selected : argument.bind (Value.select? path.components) = some value) :
    spreadValue argument path = .ok (some value) := by
  have given : argument.isNone = false := by
    obtain ⟨whole, same, _⟩ := Option.bind_eq_some_iff.1 selected
    rw [same]
    rfl
  rw [spreadValue, given, lookup, selected]
  exact if_neg fun nothing => Bool.false_ne_true nothing.2

theorem gather_nothing (others : item.isInherit = false)
    (nothing : item.isContent = true → item.AddsNothing argument) (acc : Accumulator) :
    acc.gather nested argument item = .ok acc := by
  by_cases isSpread : ∃ path, item = .spread path
  · obtain ⟨path, rfl⟩ := isSpread
    rcases nothing rfl with ⟨⟨⟩⟩ | ⟨rfl, _, ⟨⟩, whole⟩
    rw [Accumulator.gather_spread, Accumulator.spread, spreadValue, whole]
    rfl
  · exact gather_idle others (Item.shape?_of_nothing nothing)
      (fun path same => isSpread ⟨path, same⟩) acc

theorem evalElements_nothing (nothing : item.isContent = true → item.AddsNothing argument) :
    evalElements nested argument item = .ok [] := by
  cases item with
  | untagged value span =>
    have plain := Item.shape?_of_nothing nothing
    cases plain
  | spread path =>
    rcases nothing rfl with ⟨⟨⟩⟩ | ⟨rfl, _⟩
    rfl
  | _ => rfl

theorem gather_elements (adds : item.AddsElements argument) (elements : List Value)
    (breakDue : Bool) :
    Accumulator.gather nested argument ⟨some (.list elements), breakDue⟩ item =
      (evalElements nested argument item).map fun more =>
        ⟨some (.list (elements ++ more)), breakDue⟩ := by
  rcases adds with ⟨value, span, rfl⟩ | ⟨path, spread, rfl, selected⟩
  · simp only [Accumulator.gather, addItem, Accumulator.lock, Value.shape, if_true, evalElements,
      bind, Except.bind]
    cases nested value argument with
    | error error => rfl
    | ok held =>
      cases held with
      | none =>
        rw [Except.map, Option.toList_none, Except.map, List.append_nil]
        rfl
      | some value => rfl
  · rw [Accumulator.gather_spread, Accumulator.spread, spreadValue_of_select selected, evalElements,
      selected]
    rfl

theorem foldlM_gather_elements {items : List Item}
    (others : ∀ item ∈ items, item.isInherit = false)
    (each : ∀ item ∈ items,
      item.AddsElements argument ∨ (item.isContent = true → item.AddsNothing argument))
    (elements : List Value) (breakDue : Bool) :
    items.foldlM (Accumulator.gather nested argument) ⟨some (.list elements), breakDue⟩ =
      (items.mapM (evalElements nested argument)).map fun parts =>
        ⟨some (.list (elements ++ parts.flatten)), breakDue⟩ := by
  induction items generalizing elements with
  | nil => simp [Except.map, pure, Except.pure]
  | cons item rest ih =>
    obtain ⟨other, others⟩ := List.forall_mem_cons.1 others
    obtain ⟨here, each⟩ := List.forall_mem_cons.1 each
    have added : Accumulator.gather nested argument ⟨some (.list elements), breakDue⟩ item =
        (evalElements nested argument item).map fun more =>
          ⟨some (.list (elements ++ more)), breakDue⟩ := by
      rcases here with adds | nothing
      · exact gather_elements adds elements breakDue
      · rw [gather_nothing other nothing, evalElements_nothing nothing, Except.map,
          List.append_nil]
    rw [List.foldlM_cons, added, List.mapM_cons]
    cases evalElements nested argument item with
    | error error => rfl
    | ok more =>
      refine (ih others each (elements ++ more)).trans ?_
      simp only [bind, Except.bind]
      cases rest.mapM (evalElements nested argument) with
      | error error => rfl
      | ok parts =>
        rw [Except.map, List.append_assoc]
        rfl

theorem gather_start_elements (adds : item.AddsElements argument) :
    Accumulator.start.gather nested argument item =
      (Accumulator.ofShape .list).gather nested argument item := by
  rcases adds with ⟨value, span, rfl⟩ | ⟨path, spread, rfl, selected⟩
  · exact gather_start_of_shape rfl
  · rw [Accumulator.gather_spread, Accumulator.gather_spread, Accumulator.spread,
      Accumulator.spread, spreadValue_of_select selected]
    rfl

end items

section block

variable {limit depth : Nat} {argument : Option Value} {items : List Item} {templates : Templates}
  {outcome : Except Error (Option Value)}

/-- A list block loses, repeats and moves nothing. If the content of a block without a `@from` is list
items and spreads of lists, and templates and spreads of everything where there is nothing, then it
fails as the first of its values does that fails, and else it is the list of all that they add, in
order: one item for a value, none where it is absent, and those of a list for a spread. -/
theorem list_block_concatenates (noParent : ∀ item ∈ items, item.isInherit = false)
    (content : ∀ item ∈ items, item.isContent = true →
      item.AddsElements argument ∨ item.AddsNothing argument)
    (nonempty : ∃ item ∈ items, item.AddsElements argument)
    (prepared : Prepared limit argument items templates depth outcome) :
    outcome = (items.mapM (evalElements (evalNode templates limit depth) argument)).map
      fun parts => some (.list parts.flatten) := by
  have each : ∀ item ∈ items,
      item.AddsElements argument ∨ (item.isContent = true → item.AddsNothing argument) := by
    intro item member
    by_cases isContent : item.isContent = true
    · exact (content item member isContent).imp_right fun nothing _ => nothing
    · exact .inr fun isContent' => absurd isContent' isContent
  have added : items.foldlM (Accumulator.gather (evalNode templates limit depth) argument)
      (.ofShape .list) = _ := foldlM_gather_elements noParent each [] false
  rw [prepared.outcome_eq noParent, foldlM_gather_start .list, added]
  · cases items.mapM (evalElements (evalNode templates limit depth) argument) <;> rfl
  · intro item member
    rcases each item member with adds | nothing
    · exact .inr (gather_start_elements adds)
    · exact .inl (gather_nothing (noParent item member) nothing)
  · obtain ⟨item, member, adds⟩ := nonempty
    exact ⟨item, member, gather_start_elements adds⟩

/-- A list is spread before the first list item and again behind the last. Between the items stand an
empty block, which adds none, and a template. -/
theorem list_block_concatenates_with_spreads :
    let element (text : String) : Item := .untagged (.text text default) default
    let absent : Item := .untagged (.block [] default) default
    let template : Item := .tagged (.simple "t" default) (.text "x" default) (some default) default
    let more : Item := .spread ⟨["more"], default⟩
    let items : List Item := [more, element "a", absent, template, element "b", .blank default, more]
    let argument : Option Value := some (.map [("more", .list [.string "c", .list []])])
    (∀ item ∈ items, item.isInherit = false) ∧
      (∀ item ∈ items, item.isContent = true →
        item.AddsElements argument ∨ item.AddsNothing argument) ∧
      (∃ item ∈ items, item.AddsElements argument) ∧
      evalDocument 1 argument items = .ok (some (.list [.string "c", .list [], .string "a",
        .string "b", .string "c", .list []])) := by
  intro element absent template more items argument
  have noParent : ∀ item ∈ items, item.isInherit = false := by decide
  have spread : more.AddsElements argument := .inr ⟨_, _, rfl, rfl⟩
  have content : ∀ item ∈ items, item.isContent = true →
      item.AddsElements argument ∨ item.AddsNothing argument := by
    have own (value : ValueNode) (span : Span) : (Item.untagged value span).AddsElements argument :=
      .inl ⟨value, span, rfl⟩
    have declares : template.AddsNothing argument := .inl rfl
    simp [items, spread, own, declares, element, absent, Item.isContent]
  have nonempty : ∃ item ∈ items, item.AddsElements argument := ⟨more, .head _, spread⟩
  exact ⟨noParent, content, nonempty,
    list_block_concatenates noParent content nonempty (.document rfl)⟩

end block

end Eval

end ConfigLang
