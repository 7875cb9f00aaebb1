import ConfigLang.Proofs.Eval.Argument
import ConfigLang.Proofs.Eval.Reach
/-! Nothing is put in the place of a reference that leads nowhere. Where a document comes to a
value, every placeholder outside template bodies stands for a text and every spread of a path for
a value. -/
namespace ConfigLang

def HoldsText (argument : Option Value) (path : Path) : Prop :=
  ∃ text, argument.bind (Value.select? path.components) = some (.string text) ∧ text ≠ ""

def HoldsValue (argument : Option Value) (path : Path) : Prop :=
  ∃ value, argument.bind (Value.select? path.components) = some value

/-- The paths of the placeholders in the lines of a value. A block leaves them to its items. -/
def ValueNode.placeholders : ValueNode → List Path
  | .strings lines _ => lines.flatMap StringLine.paths
  | _ => []

/-- The paths of the placeholders in the key and the lines of an item. The body of a template is
left out. -/
def Item.placeholders : Item → List Path
  | .tagged key value none _ => key.paths ++ value.placeholders
  | .tagged key _ (some _) _ => key.paths
  | .untagged value _ => value.placeholders
  | .strings line => line.paths
  | _ => []

/-- What the item itself refers to is there. Only the spread of everything may do without. -/
structure Item.Resolves (argument : Option Value) (item : Item) : Prop where
  placeholders : ∀ path ∈ item.placeholders, HoldsText argument path
  spread : ∀ path, item = .spread path → path.components ≠ [] → HoldsValue argument path

/-- All references outside template bodies are there, in whatever block they stand. -/
def Document.Resolves (document : Document) (argument : Option Value) : Prop :=
  ∀ block, Relation.ReflTransGen HoldsBlock document.items block →
    ∀ item ∈ block, item.Resolves argument

namespace Eval

section texts

variable {argument : Option Value}

theorem select?_of_lookup {path : Path} {value : Value}
    (found : lookup argument path = .ok value) :
    argument.bind (Value.select? path.components) = some value := by
  unfold lookup at found
  split at found
  · next selected =>
    cases found
    exact selected
  · cases found

theorem holdsText_of_placeholderText {path : Path} {text : String}
    (found : placeholderText argument path = .ok text) : HoldsText argument path := by
  obtain ⟨value, looked, found⟩ := except_bind_eq_ok.1 found
  have selected := select?_of_lookup looked
  cases value with
  | string held =>
    by_cases empty : held = ""
    · simp only [empty, if_true] at found
      cases found
    · exact ⟨held, selected, empty⟩
  | list items => cases found
  | map entries => cases found

theorem holdsText_of_appendElements {elements : List StringElement} {before after : String}
    {breakDue : Bool} (appended : appendElements argument before breakDue elements = .ok after) :
    ∀ path ∈ elements.filterMap StringElement.path?, HoldsText argument path := by
  induction elements generalizing before breakDue with
  | nil => simp
  | cons element rest ih =>
    cases element with
    | literal piece span => exact ih appended
    | plus span => exact ih appended
    | placeholder path =>
      obtain ⟨piece, found, later⟩ := except_bind_eq_ok.1 appended
      have here : HoldsText argument path := holdsText_of_placeholderText found
      exact List.forall_mem_cons.2 ⟨here, ih later⟩

theorem holdsText_of_appendLines {lines : List StringLine} {before after : String}
    {breakDue : Bool} (appended : appendLines argument before breakDue lines = .ok after) :
    ∀ path ∈ lines.flatMap StringLine.paths, HoldsText argument path := by
  induction lines generalizing before breakDue with
  | nil => simp
  | cons line rest ih =>
    obtain ⟨text, here, later⟩ := except_bind_eq_ok.1 appended
    rw [List.flatMap_cons]
    exact List.forall_mem_append.2 ⟨holdsText_of_appendElements here, ih later⟩

theorem holdsText_of_keyText {key : Key} {text : String}
    (evaluated : keyText argument key = .ok text) :
    ∀ path ∈ key.paths, HoldsText argument path := by
  cases key with
  | simple text span => simp [Key.paths]
  | multiline lines span => exact holdsText_of_appendLines evaluated

theorem holdsText_of_appendLine {acc locked next : Accumulator} {line : StringLine} {span : Span}
    (fits : acc.lock .string span = .ok locked)
    (added : locked.appendLine argument line = .ok next) :
    ∀ path ∈ line.paths, HoldsText argument path := by
  obtain ⟨value, held, isText⟩ := Option.map_eq_some_iff.1 (Accumulator.shape?_of_lock fits)
  cases value with
  | string text =>
    simp only [Accumulator.appendLine, held] at added
    obtain ⟨whole, appended, _⟩ := except_bind_eq_ok.1 added
    exact holdsText_of_appendElements appended
  | list items => cases isText
  | map entries => cases isText

theorem holdsValue_of_spread {acc next : Accumulator} {path : Path}
    (added : acc.spread argument path = .ok next) (named : path.components ≠ []) :
    HoldsValue argument path := by
  obtain ⟨value, found, _⟩ := except_bind_eq_ok.1 added
  have nonempty : path.components.isEmpty = false := List.isEmpty_eq_false_iff.2 named
  simp only [spreadValue, nonempty, Bool.false_eq_true, false_and, if_false] at found
  cases looked : lookup argument path with
  | error e =>
    rw [looked] at found
    cases found
  | ok value => exact ⟨value, select?_of_lookup looked⟩

end texts

section items

variable {templates : Templates} {limit depth : Nat} {argument : Option Value}

theorem holdsText_of_evalNode {node : ValueNode} {value : Option Value}
    (evaluated : evalNode templates limit depth node argument = .ok value) :
    ∀ path ∈ node.placeholders, HoldsText argument path := by
  cases node with
  | strings lines span =>
    rw [evalNode] at evaluated
    cases joined : joinLines argument lines with
    | error e =>
      rw [joined] at evaluated
      cases evaluated
    | ok text => exact holdsText_of_appendLines joined
  | text text span => simp [ValueNode.placeholders]
  | block items span => simp [ValueNode.placeholders]

/-- An item that is added has looked up all that it refers to. A template is no such item; its key
is read when it is declared. -/
theorem resolves_of_addItem {progress next : Progress} {item : Item}
    (added : addItem (evalNode templates limit depth) argument progress item = .ok next)
    (plain : item.isTemplate = false) : item.Resolves argument := by
  cases item with
  | blank span | comment comment | inherit path span =>
    exact ⟨by simp [Item.placeholders], nofun⟩
  | tagged key value template span =>
    cases template with
    | some mark => cases plain
    | none =>
      obtain ⟨locked, _, added⟩ := except_bind_eq_ok.1 added
      obtain ⟨name, named, added⟩ := except_bind_eq_ok.1 added
      obtain ⟨result, evaluated, _⟩ := except_bind_eq_ok.1 added
      refine ⟨?_, nofun⟩
      exact List.forall_mem_append.2 ⟨holdsText_of_keyText named, holdsText_of_evalNode evaluated⟩
  | untagged value span =>
    obtain ⟨locked, _, added⟩ := except_bind_eq_ok.1 added
    obtain ⟨result, evaluated, _⟩ := except_bind_eq_ok.1 added
    exact ⟨holdsText_of_evalNode evaluated, nofun⟩
  | strings line =>
    obtain ⟨locked, fits, added⟩ := except_bind_eq_ok.1 added
    obtain ⟨acc, appended, _⟩ := except_bind_eq_ok.1 added
    exact ⟨holdsText_of_appendLine fits appended, nofun⟩
  | spread path =>
    obtain ⟨acc, spread, _⟩ := except_bind_eq_ok.1 added
    refine ⟨by simp [Item.placeholders], ?_⟩
    rintro _ ⟨⟩ named
    exact holdsValue_of_spread spread named

theorem resolves_of_declare {items : List Item} {before after : Templates}
    (declared : declare argument before items = .ok after) :
    ∀ item ∈ items, item.isTemplate = true → item.Resolves argument := by
  induction items generalizing before with
  | nil => simp
  | cons item rest ih =>
    cases item with
    | tagged key value template span =>
      cases template with
      | none => exact List.forall_mem_cons.2 ⟨nofun, ih declared⟩
      | some mark =>
        obtain ⟨name, named, later⟩ := except_bind_eq_ok.1 declared
        refine List.forall_mem_cons.2 ⟨fun _ => ⟨?_, nofun⟩, ih later⟩
        exact holdsText_of_keyText named
    | _ => exact List.forall_mem_cons.2 ⟨nofun, ih declared⟩

theorem resolves_of_evaluates {items : List Item}
    (evaluates : Evaluates templates limit argument items) :
    ∀ item ∈ items, item.isTemplate = false → item.Resolves argument := by
  obtain ⟨depth, value, evaluated⟩ := evaluates
  obtain ⟨progress, added, _⟩ := except_bind_eq_ok.1 evaluated
  intro item member plain
  obtain ⟨before, after, added⟩ := exists_addItem added item member
  exact resolves_of_addItem added plain

end items

end Eval

namespace Document

open Eval

theorem resolves_of_evaluate {document : Document} {limit : Nat} {argument value : Option Value}
    (evaluated : document.evaluate limit argument = .ok value) : document.Resolves argument := by
  obtain ⟨templates, declared, evaluates⟩ := evaluates_of_evaluate evaluated
  intro block reached item member
  rcases Relation.reflTransGen_iff_eq_or_transGen.1 reached with rfl | nested
  · cases isTemplate : item.isTemplate with
    | true => exact resolves_of_declare declared item member isTemplate
    | false => exact resolves_of_evaluates evaluates item member isTemplate
  · obtain ⟨inside, plain⟩ := evaluates_of_nested evaluates nested
    exact resolves_of_evaluates inside item member (plain item member)

/-- A document that comes to a value has found all that it refers to outside template bodies. If one
reference is not there, the whole ends in an error. -/
theorem references_resolve (document : Document) (limit : Nat) (argument : Option Value) :
    (∀ value, document.evaluate limit argument = .ok value → document.Resolves argument) ∧
      (∀ block, Relation.ReflTransGen HoldsBlock document.items block → ∀ item ∈ block,
        ¬ item.Resolves argument → ∃ error, document.evaluate limit argument = .error error) := by
  refine ⟨fun value => resolves_of_evaluate, ?_⟩
  intro block reached item member dangling
  cases evaluated : document.evaluate limit argument with
  | error error => exact ⟨error, rfl⟩
  | ok value => exact absurd (resolves_of_evaluate evaluated block reached item member) dangling

/-- A placeholder in a key that spans lines, in a template and in a block, and a spread two blocks
deep. Without the value that is spread nothing is left of the document. -/
theorem references_resolve_two_deep :
    let read : Key := .multiline [.strings ⟨[.placeholder ⟨["name"], default⟩], default⟩] default
    let inner : List Item := [.spread ⟨["more"], default⟩]
    let outer : List Item := [.tagged read (.block inner default) none default]
    let document : Document :=
      ⟨[.tagged read (.text "x" default) (some default) default,
        .tagged (.simple "k" default) (.block outer default) none default], default, .single "" ""⟩
    let name : String × Value := ("name", .string "n")
    let more : String × Value := ("more", .map [("a", .string "b")])
    document.evaluate 2 (some (.map [name, more])) =
        .ok (some (.map [("k", .map [("n", .map [("a", .string "b")])])])) ∧
      document.Resolves (some (.map [name, more])) ∧
      ∃ error, document.evaluate 2 (some (.map [name])) = .error error := by
  intro read inner outer document name more
  have evaluated : document.evaluate 2 (some (.map [name, more])) =
      .ok (some (.map [("k", .map [("n", .map [("a", .string "b")])])])) := rfl
  have outside : HoldsBlock document.items outer := ⟨_, .tail _ (.head _), default, rfl⟩
  have inside : HoldsBlock outer inner := ⟨_, .head _, default, rfl⟩
  have missing : ¬ Item.Resolves (some (.map [name])) (.spread ⟨["more"], default⟩) := by
    intro resolves
    obtain ⟨value, found⟩ := resolves.spread ⟨["more"], default⟩ rfl (List.cons_ne_nil _ _)
    cases found
  have below : Relation.ReflTransGen HoldsBlock document.items inner :=
    .tail (.single outside) inside
  refine ⟨evaluated, (references_resolve document 2 _).1 _ evaluated, ?_⟩
  exact (references_resolve document 2 _).2 inner below _ (.head _) missing

end Document

end ConfigLang
