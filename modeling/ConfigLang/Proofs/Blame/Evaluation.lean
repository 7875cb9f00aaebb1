import ConfigLang.Syntax.Outline
import ConfigLang.Proofs.Eval.Reach
import ConfigLang.Proofs.Value.Distinct
/-! What an error of an evaluation blames: always a span of the document, that of an item, of a
block, of a template's mark or of a path. Templates are parts of the document, so this is so in
their bodies as well. -/
namespace ConfigLang

def Error.isUnexpectedEnd : Error → Bool
  | unexpectedEnd .. => true
  | _ => false

/-- The error blames a span with the property, and not the end of the input. -/
def Error.Blames (P : Span → Prop) (error : Error) : Prop :=
  (∃ span, error.span? = some span ∧ P span) ∧ error.isUnexpectedEnd = false

def Blames (P : Span → Prop) {α : Type} (outcome : Except Error α) : Prop :=
  ∀ error, outcome = .error error → error.Blames P

namespace Blames

variable {P : Span → Prop} {α β : Type}

theorem ok (value : α) : Blames P (.ok value : Except Error α) := nofun

theorem error {error : Error} {span : Span} (blamed : error.span? = some span) (holds : P span)
    (inside : error.isUnexpectedEnd = false) :
    Blames P (.error error : Except Error α) := by
  intro same equal
  cases equal
  exact ⟨⟨span, blamed, holds⟩, inside⟩

theorem bind {outcome : Except Error α} {next : α → Except Error β} (here : Blames P outcome)
    (later : ∀ value, outcome = .ok value → Blames P (next value)) :
    Blames P (outcome >>= next) := by
  cases outcome with
  | error failure =>
    intro same equal
    cases equal
    exact here failure rfl
  | ok value => exact later value rfl

theorem map {outcome : Except Error α} (here : Blames P outcome) (f : α → β) :
    Blames P (outcome.map f) := by
  cases outcome with
  | error failure =>
    intro same equal
    cases equal
    exact here failure rfl
  | ok value => exact ok _

end Blames

def Everywhere (P : Span → Prop) (entries : List OutlineEntry) : Prop :=
  ∀ entry ∈ entries, P entry.span

section everywhere

variable {P : Span → Prop}

theorem everywhere_cons {entry : OutlineEntry} {entries : List OutlineEntry} :
    Everywhere P (entry :: entries) ↔ P entry.span ∧ Everywhere P entries :=
  List.forall_mem_cons

theorem everywhere_append {front back : List OutlineEntry} :
    Everywhere P (front ++ back) ↔ Everywhere P front ∧ Everywhere P back :=
  List.forall_mem_append

theorem everywhere_flatMap {α : Type} {f : α → List OutlineEntry} {xs : List α} :
    Everywhere P (xs.flatMap f) ↔ ∀ x ∈ xs, Everywhere P (f x) := by
  constructor
  · intro all x member entry inside
    exact all entry (List.mem_flatMap.2 ⟨x, member, inside⟩)
  · intro all entry inside
    obtain ⟨x, member, inside⟩ := List.mem_flatMap.1 inside
    exact all x member entry inside

theorem everywhere_listOutline {items : List Item} :
    Everywhere P (Item.listOutline items) ↔ ∀ item ∈ items, Everywhere P item.outline := by
  induction items with
  | nil => simp [Item.listOutline, Everywhere]
  | cons item rest ih => rw [Item.listOutline, everywhere_append, ih, List.forall_mem_cons]

theorem everywhere_tagged {key : Key} {value : ValueNode} {template : Option Span} {span : Span} :
    Everywhere P (Item.tagged key value template span).outline ↔
      P span ∧ (∀ mark ∈ template, P mark) ∧ Everywhere P key.outline ∧
        Everywhere P value.outline := by
  have mark : Everywhere P (template.map (OutlineEntry.mk "templateAnnotation")).toList ↔
      ∀ mark ∈ template, P mark := by
    cases template <;> simp [Everywhere]
  rw [Item.outline, List.cons_append, List.cons_append, everywhere_cons, everywhere_append,
    everywhere_append, mark, and_assoc]

end everywhere

namespace Eval

variable {P : Span → Prop} {argument : Option Value}

section texts

theorem blames_lookup {path : Path} (here : P path.span) : Blames P (lookup argument path) := by
  unfold lookup
  split
  · exact .ok _
  · exact .error rfl here rfl

theorem blames_placeholderText {path : Path} (here : P path.span) :
    Blames P (placeholderText argument path) := by
  refine (blames_lookup here).bind fun value _ => ?_
  cases value with
  | string text =>
    by_cases empty : text = ""
    · simp only [empty, if_true]
      exact .error rfl here rfl
    · simp only [empty, if_false]
      exact .ok _
  | list items => exact .error rfl here rfl
  | map entries => exact .error rfl here rfl

theorem blames_spreadValue {path : Path} (here : P path.span) :
    Blames P (spreadValue argument path) := by
  unfold spreadValue
  split
  · exact .ok _
  · exact (blames_lookup here).map some

theorem blames_appendElements {elements : List StringElement}
    (all : Everywhere P (elements.flatMap StringElement.outline)) (text : String)
    (breakDue : Bool) : Blames P (appendElements argument text breakDue elements) := by
  induction elements generalizing text breakDue with
  | nil => exact .ok _
  | cons element rest ih =>
    obtain ⟨here, others⟩ := everywhere_append.1 all
    cases element with
    | literal piece span => exact ih others _ _
    | plus span => exact ih others _ _
    | placeholder path =>
      have place : P path.span := (everywhere_cons.1 here).1
      exact (blames_placeholderText place).bind fun piece _ => ih others _ _

theorem blames_joinLines {label : String} {lines : List StringLine}
    (all : Everywhere P (lines.flatMap (StringLine.outline label))) :
    Blames P (joinLines argument lines) := by
  suffices whole : ∀ text breakDue, Blames P (appendLines argument text breakDue lines) from
    whole "" false
  induction lines with
  | nil => exact fun _ _ => .ok _
  | cons line rest ih =>
    intro text breakDue
    obtain ⟨here, others⟩ := everywhere_append.1 all
    have elements := (everywhere_cons.1 here).2
    exact (blames_appendElements elements text breakDue).bind fun text _ => ih others _ _

theorem everywhere_stringLines {lines : List KeyLine}
    (all : Everywhere P (lines.flatMap KeyLine.outline)) :
    Everywhere P ((stringLines lines).flatMap (StringLine.outline "keyLine")) := by
  refine everywhere_flatMap.2 fun line member => ?_
  obtain ⟨keyLine, inside, same⟩ := List.mem_filterMap.1 member
  cases keyLine with
  | comment comment => cases same
  | strings own =>
    cases same
    exact everywhere_flatMap.1 all (.strings line) inside

theorem blames_keyText {key : Key} (all : Everywhere P key.outline) :
    Blames P (keyText argument key) := by
  cases key with
  | simple text span => exact .ok _
  | multiline lines span =>
    exact blames_joinLines (everywhere_stringLines (everywhere_cons.1 all).2)

end texts

section items

theorem blames_lock (acc : Accumulator) (shape : Shape) {span : Span} (here : P span) :
    Blames P (acc.lock shape span) := by
  unfold Accumulator.lock
  split
  · exact .ok _
  · split
    · exact .ok _
    · exact .error rfl here rfl

theorem blames_appendLine (acc : Accumulator) {line : StringLine}
    (all : Everywhere P (line.elements.flatMap StringElement.outline)) :
    Blames P (acc.appendLine argument line) := by
  unfold Accumulator.appendLine
  split
  · exact (blames_appendElements all _ _).bind fun text _ => .ok _
  · exact .ok _

theorem blames_spread (acc : Accumulator) {path : Path} (here : P path.span) :
    Blames P (acc.spread argument path) := by
  refine (blames_spreadValue here).bind fun value _ => ?_
  cases value with
  | none => exact .ok _
  | some value =>
    cases merged : Value.appendSpread acc.value value with
    | error conflict =>
      simp only [merged]
      exact .error rfl here rfl
    | ok result =>
      rcases result with _ | ⟨text⟩ | ⟨items⟩ | ⟨entries⟩ <;> simp only [merged] <;> exact .ok _

variable {nested : NodeEval}

theorem blames_addItem
    (values : ∀ value : ValueNode, Everywhere P value.outline → Blames P (nested value argument))
    (progress : Progress) {item : Item} (all : Everywhere P item.outline) :
    Blames P (addItem nested argument progress item) := by
  cases item with
  | blank span => exact .ok _
  | comment comment => exact .ok _
  | inherit path span =>
    rw [Item.outline, everywhere_cons] at all
    rw [addItem]
    split
    · exact .error rfl all.1 rfl
    · exact .ok _
  | tagged key value template span =>
    obtain ⟨own, _, inKey, inValue⟩ := everywhere_tagged.1 all
    cases template with
    | some mark => exact .ok _
    | none =>
      refine (blames_lock progress.accumulator .map own).bind fun locked _ => ?_
      refine (blames_keyText inKey).bind fun name _ => ?_
      exact (values value inValue).bind fun result _ => .ok _
  | untagged value span =>
    rw [Item.outline, everywhere_cons] at all
    refine (blames_lock progress.accumulator .list all.1).bind fun locked _ => ?_
    exact (values value all.2).bind fun result _ => .ok _
  | strings line =>
    rw [Item.outline, StringLine.outline, everywhere_cons] at all
    refine (blames_lock progress.accumulator .string all.1).bind fun locked _ => ?_
    exact (blames_appendLine locked all.2).bind fun acc _ => .ok _
  | spread path =>
    rw [Item.outline, everywhere_cons] at all
    exact (blames_spread progress.accumulator all.1).bind fun acc _ => .ok _

theorem blames_addItems
    (values : ∀ value : ValueNode, Everywhere P value.outline → Blames P (nested value argument))
    (progress : Progress) {items : List Item} (all : Everywhere P (Item.listOutline items)) :
    Blames P (addItems nested argument progress items) := by
  induction items generalizing progress with
  | nil => exact .ok _
  | cons item rest ih =>
    rw [Item.listOutline, everywhere_append] at all
    exact (blames_addItem values progress all.1).bind fun next _ => ih next all.2

theorem parent_holds {items : List Item} {path : Path} {span : Span}
    (all : Everywhere P (Item.listOutline items)) (parent : parentOf items = some (path, span)) :
    P span := by
  obtain ⟨item, member, own⟩ := List.exists_of_findSome?_eq_some parent
  have here := everywhere_listOutline.1 all item (List.mem_reverse.1 member)
  cases item with
  | inherit path' span' =>
    cases own
    rw [Item.outline, everywhere_cons] at here
    exact here.1
  | _ => cases own

theorem blames_evalItems {apply : TemplateEval}
    (values : ∀ value : ValueNode, Everywhere P value.outline → Blames P (nested value argument))
    (applied : ∀ path span value, P span → Blames P (apply (path, span) value))
    {items : List Item} (all : Everywhere P (Item.listOutline items)) :
    Blames P (evalItems nested apply argument items) := by
  refine (blames_addItems values .start all).bind fun progress added => ?_
  have last := parent_of_addItems added
  cases parent : parentOf items with
  | none =>
    rw [parent] at last
    simp only [last]
    exact .ok _
  | some named =>
    rw [parent] at last
    simp only [last]
    exact applied named.1 named.2 progress.accumulator.value (parent_holds all parent)

theorem blames_rejectTemplates {items : List Item} (all : Everywhere P (Item.listOutline items)) :
    Blames P (rejectTemplates argument items) := by
  induction items with
  | nil => exact .ok _
  | cons item rest ih =>
    rw [Item.listOutline, everywhere_append] at all
    cases item with
    | tagged key value template span =>
      cases template with
      | none => exact ih all.2
      | some mark =>
        obtain ⟨_, marked, _⟩ := everywhere_tagged.1 all.1
        exact .error rfl (marked mark rfl) rfl
    | _ => exact ih all.2

end items

section templates

def TemplatesHold (P : Span → Prop) (templates : Templates) : Prop :=
  ∀ entry ∈ templates, Everywhere P entry.2.outline

theorem declare_holds {templates all : Templates} {items : List Item}
    (inItems : Everywhere P (Item.listOutline items)) (known : TemplatesHold P templates)
    (declared : declare argument templates items = .ok all) : TemplatesHold P all := by
  induction items generalizing templates with
  | nil =>
    cases declared
    exact known
  | cons item rest ih =>
    rw [Item.listOutline, everywhere_append] at inItems
    obtain ⟨here, others⟩ := inItems
    cases item with
    | tagged key value template span =>
      cases template with
      | none => exact ih others known declared
      | some mark =>
        obtain ⟨name, _, declared⟩ := except_bind_eq_ok.1 declared
        obtain ⟨_, _, _, inValue⟩ := everywhere_tagged.1 here
        refine ih others (fun entry member => ?_) declared
        rcases Entries.mem_insert member with rfl | before
        · exact inValue
        · exact known entry before
    | _ => exact ih others known declared

theorem blames_declare {templates : Templates} {items : List Item}
    (all : Everywhere P (Item.listOutline items)) :
    Blames P (declare argument templates items) := by
  induction items generalizing templates with
  | nil => exact .ok _
  | cons item rest ih =>
    rw [Item.listOutline, everywhere_append] at all
    cases item with
    | tagged key value template span =>
      cases template with
      | none => exact ih all.2
      | some mark =>
        obtain ⟨_, _, inKey, _⟩ := everywhere_tagged.1 all.1
        exact (blames_keyText inKey).bind fun name _ => ih all.2
    | _ => exact ih all.2

theorem everywhere_of_entryNamed? {name : String} {item : Item} {node : ValueNode}
    (named : Templates.entryNamed? name item = some node) (all : Everywhere P item.outline) :
    Everywhere P node.outline := by
  cases item with
  | tagged key value template span =>
    obtain ⟨_, _, _, inValue⟩ := everywhere_tagged.1 all
    cases template with
    | some mark => cases named
    | none =>
      simp only [Templates.entryNamed?] at named
      split at named
      · split at named
        · cases named
          exact inValue
        · cases named
      · cases named
  | _ => cases named

theorem everywhere_of_descend? {names : List String} {node inner : ValueNode}
    (found : Templates.descend? names node = some inner) (all : Everywhere P node.outline) :
    Everywhere P inner.outline := by
  induction names generalizing node with
  | nil =>
    simp only [Templates.descend?] at found
    cases found
    exact all
  | cons name rest ih =>
    cases node with
    | block items span =>
      rw [ValueNode.outline, everywhere_cons] at all
      obtain ⟨value, here, found⟩ := Option.bind_eq_some_iff.1 found
      obtain ⟨item, member, named⟩ := List.exists_of_findSome?_eq_some here
      have inItem := everywhere_listOutline.1 all.2 item (List.mem_reverse.1 member)
      exact ih found (everywhere_of_entryNamed? named inItem)
    | text text span => cases found
    | strings lines span => cases found

theorem everywhere_of_lookup {templates : Templates} {path : Path} {span : Span}
    {node : ValueNode} (known : TemplatesHold P templates)
    (found : templates.lookup path span = .ok node) : Everywhere P node.outline := by
  have reached := Templates.lookup_eq_ok_iff.1 found
  cases names : path.components with
  | nil =>
    rw [names] at reached
    cases reached
  | cons name rest =>
    rw [names] at reached
    obtain ⟨value, here, reached⟩ := Option.bind_eq_some_iff.1 reached
    exact everywhere_of_descend? reached (known _ (Entries.mem_of_get? here))

theorem blames_templateLookup {templates : Templates} {path : Path} {span : Span} (here : P span) :
    Blames P (templates.lookup path span) := by
  unfold Templates.lookup
  split
  · exact .ok _
  · exact .error rfl here rfl

variable {templates : Templates} (limit : Nat)

theorem blames_evalNode {depth : Nat}
    (blocks : ∀ items span, Everywhere P (ValueNode.block items span).outline →
      Blames P (evalNode templates limit depth (.block items span) argument))
    {node : ValueNode} (all : Everywhere P node.outline) :
    Blames P (evalNode templates limit depth node argument) := by
  cases node with
  | block items span => exact blocks items span all
  | text text span =>
    rw [evalNode]
    exact .ok _
  | strings lines span =>
    rw [ValueNode.outline, everywhere_cons] at all
    rw [evalNode]
    exact (blames_joinLines all.2).map _

theorem blames_nested (known : TemplatesHold P templates) (depth : Nat) :
    (∀ {node : ValueNode} {argument : Option Value}, Everywhere P node.outline →
      Blames P (evalNode templates limit depth node argument)) ∧
    ∀ path span value, P span →
      Blames P (applyTemplate templates limit depth (path, span) value) := by
  induction depth with
  | zero =>
    constructor
    · intro node argument all
      refine blames_evalNode limit (fun items span inBlock => ?_) all
      rw [ValueNode.outline, everywhere_cons] at inBlock
      rw [evalNode]
      exact .error rfl inBlock.1 rfl
    · intro path span value here
      rw [applyTemplate]
      exact (blames_templateLookup here).bind fun node _ => .error rfl here rfl
  | succ depth ih =>
    obtain ⟨values, applied⟩ := ih
    constructor
    · intro node argument all
      refine blames_evalNode limit (fun items span inBlock => ?_) all
      rw [ValueNode.outline, everywhere_cons] at inBlock
      rw [evalNode]
      refine (blames_rejectTemplates inBlock.2).bind fun _ _ => ?_
      exact blames_evalItems (fun value inValue => values inValue) applied inBlock.2
    · intro path span value here
      rw [applyTemplate]
      refine (blames_templateLookup here).bind fun node found => ?_
      exact values (everywhere_of_lookup known found)

end templates

end Eval

open Eval in
theorem Document.blames_evaluate {P : Span → Prop} {document : Document}
    (all : Everywhere P (Item.listOutline document.items)) (limit : Nat)
    (argument : Option Value) : Blames P (document.evaluate limit argument) := by
  refine (blames_declare all).bind fun templates declared => ?_
  have known := declare_holds all (List.forall_mem_nil _) declared
  obtain ⟨values, applied⟩ := blames_nested limit known limit
  exact blames_evalItems (fun value inValue => values inValue) applied all

end ConfigLang
