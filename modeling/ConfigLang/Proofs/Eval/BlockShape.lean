import ConfigLang.Proofs.Eval.Declarations
import ConfigLang.Proofs.Eval.Orderly
/-! The shape of a block. The first item that brings a shape fixes it: an entry, a list item or a
string line brings its own, whatever is in it, and a spread that of the value that it stands for.
An item that asks for another shape ends the evaluation before anything of it is looked at. -/
namespace ConfigLang

/-- The shape that an item gives to a block that has none yet. -/
def Item.brings? (argument : Option Value) : Item → Option Shape
  | .spread path => (argument.bind (Value.select? path.components)).map Value.shape
  | item => item.shape?

/-- A template, or the spread of everything where there is nothing. -/
def Item.AddsNothing (argument : Option Value) (item : Item) : Prop :=
  item.isTemplate = true ∨ argument = none ∧ ∃ path, item = .spread path ∧ path.components = []

theorem Item.shape?_of_nothing {argument : Option Value} {item : Item}
    (nothing : item.isContent = true → item.AddsNothing argument) : item.shape? = none := by
  cases item with
  | tagged key value template span =>
    cases template with
    | none => exact absurd (nothing rfl) (by simp [AddsNothing, isTemplate])
    | some mark => rfl
  | untagged value span | strings line =>
    exact absurd (nothing rfl) (by simp [AddsNothing, isTemplate])
  | _ => rfl

theorem Item.brings?_of_other (argument : Option Value) {item : Item}
    (noSpread : ∀ path, item ≠ .spread path) : item.brings? argument = item.shape? := by
  unfold brings?
  split
  · next path => exact absurd rfl (noSpread path)
  · rfl

theorem Item.brings?_of_shape? {item : Item} {shape : Shape} (own : item.shape? = some shape)
    (argument : Option Value) : item.brings? argument = some shape := by
  unfold brings?
  split
  · cases own
  · exact own

theorem Item.brings?_of_nothing {argument : Option Value} {item : Item}
    (nothing : item.isContent = true → item.AddsNothing argument) : item.brings? argument = none := by
  by_cases isSpread : ∃ path, item = .spread path
  · obtain ⟨path, rfl⟩ := isSpread
    rcases nothing rfl with ⟨⟨⟩⟩ | ⟨rfl, _⟩
    rfl
  · rw [brings?_of_other argument fun path same => isSpread ⟨path, same⟩]
    exact shape?_of_nothing nothing

theorem Item.isInherit_of_isTrivia {item : Item} (trivia : item.isTrivia = true) :
    item.isInherit = false := by
  cases item with
  | inherit path span => cases trivia
  | _ => rfl

namespace Eval

/-- The outcome of a document, or of a block in one, whose templates have passed: a document
declares them, a block has none. Values inside are evaluated with `templates` and `depth`. -/
inductive Prepared (limit : Nat) (argument : Option Value) (items : List Item) :
    Templates → Nat → Except Error (Option Value) → Prop
  | document {templates : Templates} (declared : declare argument [] items = .ok templates) :
      Prepared limit argument items templates limit (evalDocument limit argument items)
  | block {templates : Templates} {depth : Nat} (span : Span)
      (passed : rejectTemplates argument items = .ok ()) :
      Prepared limit argument items templates depth
        (evalNode templates limit (depth + 1) (.block items span) argument)

theorem prepared_of_evalDocument {limit : Nat} {argument value : Option Value} {items : List Item}
    (evaluated : evalDocument limit argument items = .ok value) :
    ∃ templates, Prepared limit argument items templates limit (.ok value) := by
  obtain ⟨templates, declared, _⟩ := except_bind_eq_ok.1 evaluated
  exact ⟨templates, evaluated ▸ .document declared⟩

theorem prepared_of_evalNode {templates : Templates} {limit depth : Nat}
    {argument value : Option Value} {items : List Item} {span : Span}
    (evaluated : evalNode templates limit depth (.block items span) argument = .ok value) :
    ∃ less, depth = less + 1 ∧ Prepared limit argument items templates less (.ok value) := by
  cases depth with
  | zero =>
    rw [evalNode] at evaluated
    cases evaluated
  | succ less =>
    have unfolded := evaluated
    rw [evalNode] at unfolded
    obtain ⟨_, passed, _⟩ := except_bind_eq_ok.1 unfolded
    exact ⟨less, rfl, evaluated ▸ .block span passed⟩

theorem Prepared.outcome_eq {limit depth : Nat} {argument : Option Value} {items : List Item}
    {templates : Templates} {outcome : Except Error (Option Value)}
    (prepared : Prepared limit argument items templates depth outcome)
    (noParent : ∀ item ∈ items, item.isInherit = false) :
    outcome =
      (items.foldlM (Accumulator.gather (evalNode templates limit depth) argument) .start).map
        Accumulator.value := by
  rw [← evalItems_eq_foldlM (applyTemplate templates limit depth) noParent]
  cases prepared with
  | document declared =>
    rw [evalDocument, declared]
    rfl
  | block span passed =>
    rw [evalNode, passed]
    rfl

theorem spreadValue_ok {argument value : Option Value} {path : Path}
    (found : spreadValue argument path = .ok value) :
    value = argument.bind (Value.select? path.components) ∧
      (value = none → argument = none ∧ path.components = []) := by
  unfold spreadValue at found
  split at found
  · next nothing =>
    obtain ⟨whole, absent⟩ := nothing
    cases found
    rw [Option.isNone_iff_eq_none.1 absent]
    exact ⟨rfl, fun _ => ⟨rfl, List.isEmpty_iff.1 whole⟩⟩
  · unfold lookup at found
    split at found
    · next held selected =>
      cases found
      exact ⟨selected.symm, nofun⟩
    · cases found

theorem Accumulator.lock_of_other {acc : Accumulator} {held : Value} {shape : Shape} (span : Span)
    (taken : acc.value = some held) (other : held.shape ≠ shape) :
    acc.lock shape span = .error (.incompatibleContent held.shape shape span) := by
  simp only [lock, taken, if_neg other]

section gathering

variable {nested : NodeEval} {argument : Option Value} {acc next : Accumulator} {item : Item}

theorem Accumulator.gather_spread (nested : NodeEval) (argument : Option Value) (acc : Accumulator)
    (path : Path) : acc.gather nested argument (.spread path) = acc.spread argument path := by
  rw [gather, addItem]
  cases acc.spread argument path <;> rfl

theorem gather_idle (others : item.isInherit = false) (plain : item.shape? = none)
    (noSpread : ∀ path, item ≠ .spread path) (acc : Accumulator) :
    acc.gather nested argument item = .ok acc := by
  cases item with
  | inherit path span => cases others
  | spread path => exact absurd rfl (noSpread path)
  | tagged key value template span =>
    cases template with
    | none => cases plain
    | some mark => rfl
  | untagged value span | strings line => cases plain
  | blank span | comment comment => rfl

theorem gather_trivia (trivia : item.isTrivia = true) (acc : Accumulator) :
    acc.gather nested argument item = .ok acc := by
  cases item with
  | blank span | comment comment => rfl
  | _ => cases trivia

theorem fits_of_gather (gathered : acc.gather nested argument item = .ok next) :
    (∀ shape, acc.shape? = some shape → next.shape? = some shape) ∧
      ∀ shape, item.shape? = some shape → next.shape? = some shape := by
  obtain ⟨after, added, rfl⟩ := except_map_eq_ok.1 gathered
  have fits := fits_of_addItem added
  exact ⟨fits.kept, fits.own⟩

theorem shape?_gather (others : item.isInherit = false)
    (gathered : acc.gather nested argument item = .ok next) :
    next.shape? = acc.shape?.or (item.brings? argument) := by
  obtain ⟨kept, own⟩ := fits_of_gather gathered
  cases taken : acc.shape? with
  | some shape => exact kept shape taken
  | none =>
    rw [Option.none_or]
    cases asked : item.shape? with
    | some shape => rw [own shape asked, Item.brings?_of_shape? asked]
    | none =>
      by_cases isSpread : ∃ path, item = .spread path
      · obtain ⟨path, rfl⟩ := isSpread
        rw [Accumulator.gather_spread] at gathered
        obtain ⟨value, found, onto⟩ := Accumulator.spread_ok gathered
        rw [Option.map_eq_none_iff.1 taken, Value.none_spreadOnto] at onto
        rw [Item.brings?, ← (spreadValue_ok found).1, Except.ok.inj onto]
        rfl
      · have noSpread (path : Path) : item ≠ .spread path := fun same => isSpread ⟨path, same⟩
        rw [gather_idle others asked noSpread] at gathered
        cases gathered
        rw [taken, Item.brings?_of_other argument noSpread, asked]

theorem shape?_gathered {items : List Item} (others : ∀ item ∈ items, item.isInherit = false)
    (gathered : items.foldlM (Accumulator.gather nested argument) acc = .ok next) :
    next.shape? = acc.shape?.or (items.findSome? (Item.brings? argument)) := by
  -- what the items come to has the first shape that one of them brings, unless there was one before
  induction items generalizing acc with
  | nil =>
    cases gathered
    rw [List.findSome?_nil, Option.or_none]
  | cons item rest ih =>
    obtain ⟨here, others⟩ := List.forall_mem_cons.1 others
    rw [List.foldlM_cons] at gathered
    obtain ⟨middle, first, later⟩ := except_bind_eq_ok.1 gathered
    rw [ih others later, shape?_gather here first, Option.or_assoc]
    cases brought : item.brings? argument with
    | none => rw [List.findSome?_cons_of_isNone (by rw [brought]; rfl), Option.none_or]
    | some shape => rw [List.findSome?_cons_of_isSome (by rw [brought]; rfl), brought]; rfl

theorem gathered_split {front back : List Item}
    (gathered : (front ++ item :: back).foldlM (Accumulator.gather nested argument) acc = .ok next) :
    ∃ before after, front.foldlM (Accumulator.gather nested argument) acc = .ok before ∧
      before.gather nested argument item = .ok after ∧
      back.foldlM (Accumulator.gather nested argument) after = .ok next := by
  rw [List.foldlM_append] at gathered
  obtain ⟨before, first, gathered⟩ := except_bind_eq_ok.1 gathered
  rw [List.foldlM_cons] at gathered
  obtain ⟨after, here, later⟩ := except_bind_eq_ok.1 gathered
  exact ⟨before, after, first, here, later⟩

theorem gathered_error {front : List Item} (back : List Item) {error : Error}
    (gathered : front.foldlM (Accumulator.gather nested argument) acc = .ok next)
    (failed : next.gather nested argument item = .error error) :
    (front ++ item :: back).foldlM (Accumulator.gather nested argument) acc = .error error := by
  rw [List.foldlM_append, gathered]
  show (item :: back).foldlM (Accumulator.gather nested argument) next = .error error
  rw [List.foldlM_cons, failed]
  rfl

theorem brings?_eq_none_iff (gathered : acc.gather nested argument item = .ok next) :
    item.brings? argument = none ↔ (item.isContent = true → item.AddsNothing argument) := by
  refine ⟨fun absent content => ?_, Item.brings?_of_nothing⟩
  cases item with
  | inherit path span | blank span | comment comment => cases content
  | tagged key value template span =>
    cases template with
    | none => cases absent
    | some mark => exact .inl rfl
  | untagged value span | strings line => cases absent
  | spread path =>
    rw [Accumulator.gather_spread] at gathered
    obtain ⟨value, found, _⟩ := Accumulator.spread_ok gathered
    obtain ⟨rfl, nothing⟩ := spreadValue_ok found
    obtain ⟨noArgument, whole⟩ := nothing (Option.map_eq_none_iff.1 absent)
    exact .inr ⟨noArgument, path, rfl, whole⟩

theorem absent_iff {items : List Item} (others : ∀ item ∈ items, item.isInherit = false)
    (gathered : items.foldlM (Accumulator.gather nested argument) .start = .ok next) :
    next.value = none ↔ ∀ item ∈ items, item.isContent = true → item.AddsNothing argument := by
  have shape : next.shape? = items.findSome? (Item.brings? argument) :=
    shape?_gathered others gathered
  rw [← Option.map_eq_none_iff (f := Value.shape), ← Accumulator.shape?, shape,
    List.findSome?_eq_none_iff]
  refine forall₂_congr fun item member => ?_
  obtain ⟨front, back, rfl⟩ := List.append_of_mem member
  obtain ⟨before, after, _, here, _⟩ := gathered_split gathered
  exact brings?_eq_none_iff here

theorem shape?_of_mem {items : List Item} (others : ∀ item ∈ items, item.isInherit = false)
    (gathered : items.foldlM (Accumulator.gather nested argument) acc = .ok next)
    (member : item ∈ items) {shape : Shape} (own : item.shape? = some shape) :
    next.shape? = some shape := by
  obtain ⟨front, back, rfl⟩ := List.append_of_mem member
  obtain ⟨before, after, _, here, later⟩ := gathered_split gathered
  have behind : ∀ item ∈ back, item.isInherit = false := fun other there =>
    others other (List.mem_append_right _ (List.mem_cons_of_mem _ there))
  rw [shape?_gathered behind later, (fits_of_gather here).2 shape own]
  rfl

/-- An item that asks for a shape is held against that of its block before anything else of it is
looked at. -/
theorem exists_gather_eq_lock (nested : NodeEval) (argument : Option Value) {shape : Shape}
    (own : item.shape? = some shape) :
    ∃ rest : Accumulator → Except Error Accumulator, ∀ acc : Accumulator,
      acc.gather nested argument item = acc.lock shape item.span >>= rest := by
  cases item with
  | tagged key value template span =>
    cases template with
    | none =>
      cases own
      refine ⟨fun locked => do
        return locked.insert (← keyText argument key) (← nested value argument), fun acc => ?_⟩
      simp only [Accumulator.gather, addItem, Item.span, bind, Except.bind]
      cases acc.lock .map span with
      | error error => rfl
      | ok locked =>
        cases keyText argument key with
        | error error => rfl
        | ok name => cases nested value argument <;> rfl
    | some mark => cases own
  | untagged value span =>
    cases own
    refine ⟨fun locked => (nested value argument).map locked.push, fun acc => ?_⟩
    simp only [Accumulator.gather, addItem, Item.span, bind, Except.bind]
    cases acc.lock .list span with
    | error error => rfl
    | ok locked => cases nested value argument <;> rfl
  | strings line =>
    cases own
    refine ⟨fun locked => locked.appendLine argument line, fun acc => ?_⟩
    simp only [Accumulator.gather, addItem, Item.span, bind, Except.bind]
    cases acc.lock .string line.span with
    | error error => rfl
    | ok locked =>
      dsimp only
      cases locked.appendLine argument line <;> rfl
  | _ => cases own

theorem gather_of_other {held : Value} {shape : Shape} (own : item.shape? = some shape)
    (taken : acc.value = some held) (other : held.shape ≠ shape) :
    acc.gather nested argument item = .error (.incompatibleContent held.shape shape item.span) := by
  obtain ⟨rest, eq⟩ := exists_gather_eq_lock nested argument own
  rw [eq, Accumulator.lock_of_other item.span taken other]
  rfl

end gathering

section start

variable {nested : NodeEval} {argument : Option Value} {item : Item} {shape : Shape}

def Accumulator.ofShape (shape : Shape) : Accumulator := ⟨some (.empty shape), false⟩

theorem Accumulator.lock_ofShape (shape : Shape) (span : Span) :
    (ofShape shape).lock shape span = start.lock shape span := by
  cases shape <;> rfl

theorem gather_start_of_shape (own : item.shape? = some shape) :
    Accumulator.start.gather nested argument item =
      (Accumulator.ofShape shape).gather nested argument item := by
  obtain ⟨rest, eq⟩ := exists_gather_eq_lock nested argument own
  rw [eq, eq, Accumulator.lock_ofShape]

/-- A block may start out as an empty one of the shape that it takes, if one of its items makes no
difference between the two and those before it do nothing. -/
theorem foldlM_gather_start (shape : Shape) {items : List Item}
    (each : ∀ item ∈ items, (∀ acc : Accumulator, acc.gather nested argument item = .ok acc) ∨
      Accumulator.start.gather nested argument item =
        (Accumulator.ofShape shape).gather nested argument item)
    (some : ∃ item ∈ items, Accumulator.start.gather nested argument item =
      (Accumulator.ofShape shape).gather nested argument item) :
    items.foldlM (Accumulator.gather nested argument) .start =
      items.foldlM (Accumulator.gather nested argument) (.ofShape shape) := by
  induction items with
  | nil =>
    obtain ⟨item, ⟨⟩, _⟩ := some
  | cons item rest ih =>
    obtain ⟨here, later⟩ := List.forall_mem_cons.1 each
    rw [List.foldlM_cons, List.foldlM_cons]
    rcases here with idle | same
    · rw [idle, idle]
      refine ih later ?_
      obtain ⟨other, member, same⟩ := some
      rcases List.mem_cons.1 member with rfl | behind
      · rw [idle, idle] at same
        cases same
      · exact ⟨other, behind, same⟩
    · rw [same]

theorem foldlM_gather_of_shape (shape : Shape) {items : List Item}
    (each : ∀ item ∈ items, item.isTrivia = true ∨ item.shape? = some shape)
    (nonempty : ∃ item ∈ items, item.isTrivia = false) :
    items.foldlM (Accumulator.gather nested argument) .start =
      items.foldlM (Accumulator.gather nested argument) (.ofShape shape) := by
  apply foldlM_gather_start
  · intro item member
    exact (each item member).imp gather_trivia gather_start_of_shape
  · obtain ⟨item, member, other⟩ := nonempty
    refine ⟨item, member, gather_start_of_shape ?_⟩
    exact (each item member).resolve_left (by rw [other]; decide)

end start

section block

variable {limit depth : Nat} {argument : Option Value} {items : List Item} {templates : Templates}
  {outcome : Except Error (Option Value)}

/-- The first item that contributes fixes the shape of its block. If a block without a `@from` comes
to something, that is absent just if its content is templates and spreads of everything where there
is nothing. Else it has the shape that the first item brings which brings one, and every entry, list
item and string line asks for this shape. If the items in front of one that asks for another shape
come to a value, the block fails there, whatever that item holds and whatever follows. -/
theorem first_item_fixes_shape (noParent : ∀ item ∈ items, item.isInherit = false)
    (prepared : Prepared limit argument items templates depth outcome) :
    (∀ value, outcome = .ok value →
      (value = none ↔ ∀ item ∈ items, item.isContent = true → item.AddsNothing argument) ∧
      value.map Value.shape = items.findSome? (Item.brings? argument) ∧
      ∀ item ∈ items, ∀ shape, item.shape? = some shape → value.map Value.shape = some shape) ∧
    ∀ front item back held shape, items = front ++ item :: back →
      evalItems (evalNode templates limit depth) (applyTemplate templates limit depth) argument
        front = .ok (some held) →
      item.shape? = some shape → held.shape ≠ shape →
      outcome = .error (.incompatibleContent held.shape shape item.span) := by
  have whole := prepared.outcome_eq noParent
  constructor
  · rintro value rfl
    obtain ⟨last, gathered, rfl⟩ := except_map_eq_ok.1 whole.symm
    refine ⟨absent_iff noParent gathered, shape?_gathered noParent gathered, ?_⟩
    exact fun item member shape own => shape?_of_mem noParent gathered member own
  · rintro front item back held shape rfl first own other
    rw [evalItems_eq_foldlM _ fun item member => noParent item (List.mem_append_left _ member)]
      at first
    obtain ⟨acc, gathered, taken⟩ := except_map_eq_ok.1 first
    rw [whole, gathered_error back gathered (gather_of_other own taken other)]
    rfl

/-- A template and the spread of everything come to nothing without an argument, and the empty block
behind them makes a list without an item. The entry behind that has a key that cannot be evaluated,
which is not tried; nor is the template taken for an entry. -/
theorem first_item_fixes_shape_of_empty_block :
    let everything : Item := .spread ⟨[], default⟩
    let template : Item := .tagged (.simple "t" default) (.text "x" default) (some default) default
    let missing : Key := .multiline [.strings ⟨[.placeholder ⟨["p"], default⟩], default⟩] default
    let entry : Item := .tagged missing (.text "v" default) none ⟨1, default⟩
    let nothing : List Item := [template, everything]
    let list : List Item := nothing ++ [.untagged (.block [] default) default, everything]
    (∀ item ∈ list ++ [entry, everything], item.isInherit = false) ∧
      evalDocument 1 none nothing = .ok none ∧ evalDocument 1 none list = .ok (some (.list [])) ∧
      (∀ item ∈ nothing, item.isContent = true → item.AddsNothing none) ∧
      list.findSome? (Item.brings? none) = some .list ∧
      evalDocument 1 none (list ++ [entry, everything]) =
        .error (.incompatibleContent .list .map ⟨1, default⟩) := by
  intro everything template missing entry nothing list
  have others : ∀ item ∈ list ++ [entry, everything], item.isInherit = false := by decide
  have front : ∀ item ∈ list, item.isInherit = false :=
    fun item member => others item (List.mem_append_left _ member)
  have absent : evalDocument 1 none nothing = .ok none := rfl
  have empty : evalDocument 1 none list = .ok (some (.list [])) := rfl
  have first := (first_item_fixes_shape
    (fun item member => front item (List.mem_append_left _ member)) (.document rfl)).1 none absent
  have second := (first_item_fixes_shape front (.document rfl)).1 _ empty
  have prepared : Prepared 1 none (list ++ [entry, everything]) [("t", .text "x" default)] 1
    (evalDocument 1 none (list ++ [entry, everything])) := .document rfl
  have failed := (first_item_fixes_shape others prepared).2 list entry [everything] (.list []) .map
    rfl rfl rfl (by decide)
  exact ⟨others, absent, empty, first.1.1 rfl, second.2.1.symm, failed⟩

end block

end Eval

end ConfigLang
