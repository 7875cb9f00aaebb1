import ConfigLang.Proofs.Encoding.Parsing
import ConfigLang.Proofs.Eval.Items
import ConfigLang.Proofs.Value.Distinct
/-! The tree of an encoded value evaluates to that value, whatever the argument. An empty block
below a dash or a key has no value: it fixes the shape of the block around it and adds nothing
to it, which is how the empty list and the empty map come back. -/
namespace ConfigLang

namespace Value

theorem HaveTrees.plain : (values : List Value) → (tree : List Item) → HaveTrees values tree →
    ∀ item ∈ tree, item.isTemplate = false
  | [], _, .nil => nofun
  | _ :: others, _, .cons _ _ _ trees =>
    List.forall_mem_cons.2 ⟨rfl, HaveTrees.plain others _ trees⟩

theorem EntriesHaveTrees.plain : (entries : List (String × Value)) → (tree : List Item) →
    EntriesHaveTrees entries tree → ∀ item ∈ tree, item.isTemplate = false
  | [], _, .nil => nofun
  | _ :: others, _, .cons _ _ _ _ _ _ trees =>
    List.forall_mem_cons.2 ⟨rfl, EntriesHaveTrees.plain others _ trees⟩

theorem HasTree.plain {value : Value} {tree : List Item} (hasTree : value.HasTree tree) :
    ∀ item ∈ tree, item.isTemplate = false := by
  cases hasTree with
  | string text piece line => exact List.forall_mem_singleton.2 rfl
  | emptyList block item => exact List.forall_mem_singleton.2 rfl
  | list trees => exact trees.plain _ _
  | emptyMap key block item => exact List.forall_mem_singleton.2 rfl
  | map trees => exact trees.plain _ _

end Value

namespace Eval

theorem keyText_literalLine (argument : Option Value) (name : String) (piece line key : Span) :
    keyText argument (.multiline [.strings ⟨[.literal name piece], line⟩] key) = .ok name := by
  simp [keyText, stringLines, joinLines, appendLines, appendElements, bind, Except.bind]

theorem addItem_literalLine (nested : NodeEval) (argument : Option Value) (text : String)
    (piece line : Span) :
    addItem nested argument .start (.strings ⟨[.literal text piece], line⟩) =
      .ok ⟨⟨some (.string text), true⟩, none, true⟩ := by
  simp [addItem, Accumulator.lock, Progress.start, Accumulator.start, Value.empty,
    Accumulator.appendLine, appendElements, bind, Except.bind, pure, Except.pure,
    Progress.withContent, StringLine.endsWithPlus, StringElement.isPlus]

section elements

variable {nested : NodeEval} {argument : Option Value} {node : ValueNode}

theorem addItem_element {value : Value} (evaluated : nested node argument = .ok (some value))
    (items : List Value) (due : Bool) (parent : Option (Path × Span)) (content : Bool)
    (span : Span) :
    addItem nested argument ⟨⟨some (.list items), due⟩, parent, content⟩ (.untagged node span) =
      .ok ⟨⟨some (.list (items ++ [value])), due⟩, parent, true⟩ := by
  simp only [addItem, evaluated]
  rfl

theorem addItem_entry {value : Value} {key : Key} {name : String}
    (named : keyText argument key = .ok name)
    (evaluated : nested node argument = .ok (some value))
    (entries : Entries Value) (due : Bool) (parent : Option (Path × Span)) (content : Bool)
    (span : Span) :
    addItem nested argument ⟨⟨some (.map entries), due⟩, parent, content⟩
        (.tagged key node none span) =
      .ok ⟨⟨some (.map (Entries.insert name value entries)), due⟩, parent, true⟩ := by
  simp only [addItem, named, evaluated]
  rfl

theorem addItems_start_element (span : Span) (rest : List Item) :
    addItems nested argument .start (.untagged node span :: rest) =
      addItems nested argument ⟨⟨some (.list []), false⟩, none, false⟩
        (.untagged node span :: rest) := rfl

theorem addItems_start_entry (key : Key) (span : Span) (rest : List Item) :
    addItems nested argument .start (.tagged key node none span :: rest) =
      addItems nested argument ⟨⟨some (.map []), false⟩, none, false⟩
        (.tagged key node none span :: rest) := rfl

end elements

end Eval

namespace Value

open Eval

variable (templates : Eval.Templates) (limit : Nat) (argument : Option Value)

mutual

theorem HasTree.evalItems : (value : Value) → (tree : List Item) → value.HasTree tree →
    value.DistinctKeys → (depth : Nat) → value.depth ≤ depth →
    Eval.evalItems (evalNode templates limit depth) (applyTemplate templates limit depth)
      argument tree = .ok (some value)
  | _, _, .string text piece line, _, depth, _ => by
    have added : Eval.addItems (evalNode templates limit depth) argument .start
        [.strings ⟨[.literal text piece], line⟩] = .ok ⟨⟨some (.string text), true⟩, none, true⟩ := by
      simp only [Eval.addItems, addItem_literalLine]
      rfl
    exact evalItems_of_addItems added
  | _, _, .emptyList block item, _, depth + 1, _ => rfl
  | _, _, .list trees, distinct, depth, room => by
    obtain ⟨content, added⟩ := HaveTrees.addItems _ _ trees distinct depth room [] false
    cases trees with
    | cons block item hasTree others =>
      exact evalItems_of_addItems ((addItems_start_element item _).trans added)
  | _, _, .emptyMap key block item, _, depth + 1, _ => rfl
  | _, _, .map trees, distinct, depth, room => by
    obtain ⟨content, added⟩ := EntriesHaveTrees.addItems _ _ trees distinct.2 depth room [] false
      (by simpa only [List.nil_append] using distinct.1)
    cases trees with
    | cons piece line key block item hasTree others =>
      exact evalItems_of_addItems ((addItems_start_entry _ item _).trans added)

theorem HaveTrees.addItems : (values : List Value) → (tree : List Item) →
    HaveTrees values tree → DistinctKeysOfItems values → (depth : Nat) →
    depthOfItems values + 1 ≤ depth → (before : List Value) → (content : Bool) →
    ∃ content', Eval.addItems (evalNode templates limit depth) argument
      ⟨⟨some (.list before), false⟩, none, content⟩ tree =
        .ok ⟨⟨some (.list (before ++ values)), false⟩, none, content'⟩
  | [], _, .nil, _, _, _, before, content => ⟨content, by rw [List.append_nil]; rfl⟩
  | value :: others, _, .cons block item hasTree trees, distinct, depth + 1, room, before,
      content => by
    simp only [depthOfItems] at room
    have inner := HasTree.evalItems value _ hasTree distinct.1 depth (by omega)
    rw [← evalNode_block hasTree.plain block] at inner
    obtain ⟨content', added⟩ := HaveTrees.addItems others _ trees distinct.2 (depth + 1)
      (by omega) (before ++ [value]) true
    refine ⟨content', ?_⟩
    rw [addItems_cons (addItem_element inner before false none content item)]
    simpa only [List.append_assoc, List.cons_append, List.nil_append] using added

theorem EntriesHaveTrees.addItems : (entries : List (String × Value)) → (tree : List Item) →
    EntriesHaveTrees entries tree → DistinctKeysOfEntries entries → (depth : Nat) →
    depthOfEntries entries + 1 ≤ depth → (before : Entries Value) → (content : Bool) →
    (Entries.keys (before ++ entries)).Nodup →
    ∃ content', Eval.addItems (evalNode templates limit depth) argument
      ⟨⟨some (.map before), false⟩, none, content⟩ tree =
        .ok ⟨⟨some (.map (before ++ entries)), false⟩, none, content'⟩
  | [], _, .nil, _, _, _, before, content, _ => ⟨content, by rw [List.append_nil]; rfl⟩
  | (name, value) :: others, _, .cons piece line key block item hasTree trees, distinct,
      depth + 1, room, before, content, nodup => by
    simp only [depthOfEntries] at room
    have inner := HasTree.evalItems value _ hasTree distinct.1 depth (by omega)
    rw [← evalNode_block hasTree.plain block] at inner
    have absent : name ∉ Entries.keys before := by
      rw [Entries.keys, List.map_append, List.map_cons, List.nodup_middle] at nodup
      exact fun present => (List.nodup_cons.1 nodup).1 (List.mem_append_left _ present)
    have split : before ++ [(name, value)] ++ others = before ++ (name, value) :: others := by
      simp only [List.append_assoc, List.cons_append, List.nil_append]
    obtain ⟨content', added⟩ := EntriesHaveTrees.addItems others _ trees distinct.2 (depth + 1)
      (by omega) (before ++ [(name, value)]) true (split ▸ nodup)
    refine ⟨content', ?_⟩
    rw [addItems_cons (addItem_entry (keyText_literalLine argument name piece line key) inner
      before false none content item), Entries.insert_of_not_mem value absent, ← split]
    exact added

end

end Value

namespace Document

/-- Every value is the value of a document: its encoding parses, and what is parsed evaluates to
the value whatever the argument. The limits need only admit the nesting of the value; the key
order is part of the value. -/
theorem evaluate_parse_encode (value : Value) (distinct : value.DistinctKeys) (filename : String)
    (limit : Nat) (room : value.depth ≤ limit) :
    ∃ document, parse filename limit (String.ofList value.encode) = .ok document ∧
      ∀ (argument : Option Value) (evalLimit : Nat), value.depth ≤ evalLimit →
        document.evaluate evalLimit argument = .ok (some value) := by
  obtain ⟨tree, hasTree, parsed⟩ := Reading.parseItems_encode value room
  refine ⟨_, by rw [parse, parsed]; rfl, ?_⟩
  intro argument evalLimit shallow
  have declared := Eval.declare_of_plain argument [] hasTree.plain
  have evaluated := hasTree.evalItems [] evalLimit argument value tree distinct evalLimit shallow
  simp only [evaluate, Eval.evalDocument, declared, bind, Except.bind]
  exact evaluated

theorem evaluate_parse_encode_escapes :
    ∃ document, parse "nested" 3 (String.ofList (Value.encode
        (.map [("", .list []), ("a\"\\\n", .list [.map [], .string "", .string "\x01é]"])]))) =
      .ok document ∧ document.evaluate 3 none = .ok (some
        (.map [("", .list []), ("a\"\\\n", .list [.map [], .string "", .string "\x01é]"])])) := by
  obtain ⟨document, parsed, evaluated⟩ := evaluate_parse_encode
    (.map [("", .list []), ("a\"\\\n", .list [.map [], .string "", .string "\x01é]"])])
    (by simp [Value.DistinctKeys, Value.DistinctKeysOfEntries, Value.DistinctKeysOfItems,
      Entries.keys]) "nested" 3 (by decide)
  exact ⟨document, parsed, evaluated none 3 (by decide)⟩

end Document
end ConfigLang
