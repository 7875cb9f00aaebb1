import ConfigLang.Proofs.Eval.Orderly
import ConfigLang.Proofs.Eval.Argument
import ConfigLang.Proofs.Eval.Room
/-! Entries of a template. A path behind a template's name is followed through the blocks as they
are written, from the last item of each to the first, while evaluation adds the items from the
first to the last, and an entry without a value takes out the one before. Both come to the last
entry of a key, if nothing in the block but its own entries decides what it holds. -/
namespace ConfigLang

/-- Neither a `@from` nor a spread, and no entry with a key that reads the argument. -/
def Item.isFixed : Item → Bool
  | .inherit _ _ => false
  | .spread _ => false
  | .tagged key _ _ _ => key.paths.isEmpty
  | _ => true

namespace Eval

open Templates (entryNamed? descend?)

def lastNamed? (name : String) (items : List Item) : Option ValueNode :=
  items.reverse.findSome? (entryNamed? name)

theorem lastNamed?_cons (name : String) (item : Item) (rest : List Item) :
    lastNamed? name (item :: rest) = (lastNamed? name rest).or (entryNamed? name item) := by
  simp [lastNamed?, List.findSome?_append]

/-- The blocks that a path of keys goes through inside a value. The value that it ends at is not
one of them. -/
def blocksOnPath : List String → ValueNode → List (List Item)
  | name :: rest, .block items _ => items :: (lastNamed? name items).elim [] (blocksOnPath rest)
  | _, _ => []

def Accumulator.Holds (acc : Accumulator) (name : String) (value : Option Value) : Prop :=
  ∃ entries, acc.value = some (.map entries) ∧ Entries.get? name entries = value

theorem Accumulator.holds_lock {acc locked : Accumulator} {span : Span}
    (fits : acc.lock .map span = .ok locked) :
    ∃ entries, locked.value = some (.map entries) ∧
      ∀ name value, acc.Holds name value → Entries.get? name entries = value := by
  obtain ⟨value, taken, isMap⟩ := Option.map_eq_some_iff.1 (Accumulator.shape?_of_lock fits)
  cases value with
  | string text => cases isMap
  | list items => cases isMap
  | map entries =>
    refine ⟨entries, taken, ?_⟩
    rintro name held ⟨before, own, found⟩
    have kept : locked = acc := by
      rw [lock, own] at fits
      exact (Except.ok.inj fits).symm
    rw [kept, own] at taken
    cases taken
    exact found

theorem Accumulator.holds_insert {acc : Accumulator} {entries : Entries Value}
    (taken : acc.value = some (.map entries)) (key name : String) (value : Option Value) :
    (acc.insert key value).Holds name (if key = name then value else Entries.get? name entries) := by
  cases value with
  | some value =>
    refine ⟨Entries.insert key value entries, ?_, Entries.get?_insert name key value entries⟩
    simp only [insert, taken]
  | none =>
    refine ⟨Entries.erase key entries, ?_, Entries.get?_erase name key entries⟩
    simp only [insert, taken]

theorem Accumulator.not_holds_of_lock {acc locked : Accumulator} {shape : Shape} {span : Span}
    (fits : acc.lock shape span = .ok locked) (other : shape ≠ .map) (name : String)
    (value : Option Value) : ¬ acc.Holds name value := by
  rintro ⟨entries, taken, _⟩
  have isMap : acc.shape? = some .map := by
    rw [shape?, taken]
    rfl
  exact other (eq_of_lock fits isMap).symm

section items

variable {nested : NodeEval} {argument : Option Value} {name : String}

/-- What items do to the entry of a name: the last one of this name decides what is held, and
without one that stays as it was. -/
def Decides (nested : NodeEval) (argument : Option Value) (name : String)
    (before after : Accumulator) : Option ValueNode → Prop
  | some node => ∃ value, nested node argument = .ok value ∧ after.Holds name value
  | none => ∀ value, before.Holds name value → after.Holds name value

theorem Decides.trans {before middle after : Accumulator} {first second : Option ValueNode}
    (here : Decides nested argument name before middle first)
    (later : Decides nested argument name middle after second) :
    Decides nested argument name before after (second.or first) := by
  cases second with
  | some node => exact later
  | none =>
    cases first with
    | some node =>
      obtain ⟨value, evaluated, held⟩ := here
      exact ⟨value, evaluated, later value held⟩
    | none => exact fun value held => later value (here value held)

theorem decides_of_addItem {progress next : Progress} {item : Item} (fixed : item.isFixed = true)
    (added : addItem nested argument progress item = .ok next) :
    Decides nested argument name progress.accumulator next.accumulator (entryNamed? name item) := by
  cases item with
  | inherit path span => cases fixed
  | spread path => cases fixed
  | blank span | comment comment =>
    cases added
    exact fun value => id
  | untagged node span =>
    obtain ⟨locked, fits, _⟩ := except_bind_eq_ok.1 added
    exact fun value held => absurd held (Accumulator.not_holds_of_lock fits (by decide) name value)
  | strings line =>
    obtain ⟨locked, fits, _⟩ := except_bind_eq_ok.1 added
    exact fun value held => absurd held (Accumulator.not_holds_of_lock fits (by decide) name value)
  | tagged key node template span =>
    cases template with
    | some mark =>
      cases added
      exact fun value => id
    | none =>
      obtain ⟨locked, fits, added⟩ := except_bind_eq_ok.1 added
      obtain ⟨text, named, added⟩ := except_bind_eq_ok.1 added
      obtain ⟨value, evaluated, added⟩ := except_bind_eq_ok.1 added
      cases added
      have unread : SameOn argument none key.paths := by
        rw [List.isEmpty_iff.1 fixed]
        exact List.forall_mem_nil _
      obtain ⟨entries, taken, before⟩ := Accumulator.holds_lock fits
      have written := Accumulator.holds_insert taken text name value
      rw [entryNamed?, ← keyText_congr unread, named]
      by_cases same : text = name
      · rw [if_pos same] at written
        simp only [if_pos same]
        exact ⟨value, evaluated, written⟩
      · rw [if_neg same] at written
        simp only [if_neg same]
        exact fun held holds => before name held holds ▸ written

theorem decides_of_addItems {progress last : Progress} {items : List Item}
    (fixed : ∀ item ∈ items, item.isFixed = true)
    (added : addItems nested argument progress items = .ok last) :
    Decides nested argument name progress.accumulator last.accumulator (lastNamed? name items) := by
  induction items generalizing progress with
  | nil =>
    cases added
    exact fun value => id
  | cons item rest ih =>
    obtain ⟨here, others⟩ := List.forall_mem_cons.1 fixed
    obtain ⟨next, first, later⟩ := except_bind_eq_ok.1 added
    rw [lastNamed?_cons]
    exact (decides_of_addItem here first).trans (ih others later)

end items

theorem isInherit_of_isFixed {item : Item} (fixed : item.isFixed = true) :
    item.isInherit = false := by
  cases item with
  | inherit path span => cases fixed
  | _ => rfl

section templates

variable {templates : Templates} {limit : Nat} {argument : Option Value}

/-- A block that comes to a value is a map if it has an entry of the name, and holds there what
the last such entry comes to, which has one level less left for it. -/
theorem exists_entry_of_evalNode {depth : Nat} {items : List Item} {span : Span} {name : String}
    {node : ValueNode} {value : Option Value} (fixed : ∀ item ∈ items, item.isFixed = true)
    (entry : lastNamed? name items = some node)
    (evaluated : evalNode templates limit depth (.block items span) argument = .ok value) :
    ∃ less held entries, less < depth ∧ evalNode templates limit less node argument = .ok held ∧
      value = some (.map entries) ∧ Entries.get? name entries = held := by
  cases depth with
  | zero =>
    rw [evalNode] at evaluated
    cases evaluated
  | succ less =>
    rw [evalNode] at evaluated
    obtain ⟨_, _, evaluated⟩ := except_bind_eq_ok.1 evaluated
    obtain ⟨last, added, evaluated⟩ := except_bind_eq_ok.1 evaluated
    have noParent : last.parent = none :=
      parent_addItems (fun item member => isInherit_of_isFixed (fixed item member)) added
    have decides : Decides (evalNode templates limit less) argument name .start last.accumulator
        (lastNamed? name items) := decides_of_addItems fixed added
    rw [entry] at decides
    obtain ⟨held, inner, entries, taken, found⟩ := decides
    simp only [noParent] at evaluated
    cases evaluated
    exact ⟨less, held, entries, Nat.lt_succ_self less, inner, taken, found⟩

theorem evalNode_descend {depth depth' : Nat} (le : depth ≤ depth') {keys : List String}
    {node inner : ValueNode} {value : Option Value} (found : descend? keys node = some inner)
    (fixed : ∀ block ∈ blocksOnPath keys node, ∀ item ∈ block, item.isFixed = true)
    (evaluated : evalNode templates limit depth node argument = .ok value) :
    evalNode templates limit depth' inner argument =
      .ok (value.bind (Value.select? keys)) := by
  -- each key costs a level, so that there is more room left for the value at the end than there was
  -- for it in the whole
  induction keys generalizing depth node value with
  | nil =>
    cases found
    have whole : Value.select? [] = some := by
      funext held
      rw [Value.select?]
    rw [whole, Option.bind_fun_some]
    exact evalNode_of_more_room templates limit le evaluated
  | cons name keys ih =>
    cases node with
    | text text span => cases found
    | strings lines span => cases found
    | block items span =>
      rw [descend?] at found
      obtain ⟨child, entry, found⟩ := Option.bind_eq_some_iff.1 found
      rw [blocksOnPath, lastNamed?, entry, Option.elim_some] at fixed
      obtain ⟨here, onward⟩ := List.forall_mem_cons.1 fixed
      obtain ⟨less, held, entries, lower, inside, rfl, under⟩ :=
        exists_entry_of_evalNode here entry evaluated
      rw [ih (by omega) found onward inside, Option.bind_some, Value.select?, under]

/-- To inherit from an entry of a template is to select that entry from the whole template. Where
a path leads from the template to an entry, and neither a `@from` nor a spread nor the argument in
a key decides what the blocks on the way hold, the entry comes to what the template's value has at
the end of the path, and to nothing if it has nothing there; no less room is enough for it. -/
theorem entry_of_template_selected {name : String} {keys : List String} (path : Path) (span : Span)
    {node inner : ValueNode} {depth depth' : Nat} {value : Option Value}
    (registered : Entries.get? name templates = some node)
    (named : path.components = name :: keys) (found : templates.lookup path span = .ok inner)
    (fixed : ∀ block ∈ blocksOnPath keys node, ∀ item ∈ block, item.isFixed = true)
    (le : depth ≤ depth')
    (evaluated : evalNode templates limit depth node argument = .ok value) :
    evalNode templates limit depth' inner argument = .ok (value.bind (Value.select? keys)) ∧
      applyTemplate templates limit (depth' + 1) (path, span) argument =
        .ok (value.bind (Value.select? keys)) := by
  have descends : descend? keys node = some inner := by
    have leads := Templates.lookup_eq_ok_iff.1 found
    rwa [named, Templates.find?, registered, Option.bind_some] at leads
  have inside := evalNode_descend le descends fixed evaluated
  constructor
  · exact inside
  · rw [applyTemplate_succ found]
    exact inside

/-- Below `a`, which is there twice, `x` has a text that an empty block takes out again. The entry
is the empty block, and the whole template holds nothing under `a.x`. Under `a.y` it holds what the
argument holds under `p`. -/
theorem entry_of_template_selected_below_a :
    let entry (key : String) (value : ValueNode) : Item :=
      .tagged (.simple key default) value none default
    let read : ValueNode := .strings [⟨[.placeholder ⟨["p"], default⟩], default⟩] default
    let below : ValueNode :=
      .block [entry "x" (.text "1" default), entry "y" read, entry "x" (.block [] default)] default
    let body : ValueNode := .block [entry "a" (.text "0" default), entry "a" below] default
    let argument : Option Value := some (.map [("p", .string "v")])
    let value : Value := .map [("a", .map [("y", .string "v")])]
    evalNode [("t", body)] 3 3 body argument = .ok (some value) ∧
      (∀ key ∈ ["x", "y"], ∀ block ∈ blocksOnPath ["a", key] body, ∀ item ∈ block,
        item.isFixed = true) ∧
      evalNode [("t", body)] 3 3 (.block [] default) argument = .ok none ∧
      applyTemplate [("t", body)] 3 4 (⟨["t", "a", "y"], default⟩, default) argument =
        .ok (some (.string "v")) := by
  intro entry read below body argument value
  have evaluated : evalNode [("t", body)] 3 3 body argument = .ok (some value) := rfl
  have fixed : ∀ key ∈ ["x", "y"], ∀ block ∈ blocksOnPath ["a", key] body, ∀ item ∈ block,
      item.isFixed = true := by decide
  have absent := (entry_of_template_selected ⟨["t", "a", "x"], default⟩ default rfl rfl rfl
    (fixed "x" (.head _)) (Nat.le_refl 3) evaluated).1
  have present := (entry_of_template_selected ⟨["t", "a", "y"], default⟩ default rfl rfl rfl
    (fixed "y" (.tail _ (.head _))) (Nat.le_refl 3) evaluated).2
  exact ⟨evaluated, fixed, absent, present⟩

end templates

end Eval

end ConfigLang
