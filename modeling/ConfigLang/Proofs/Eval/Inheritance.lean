import ConfigLang.Proofs.Eval.Distinct
import ConfigLang.Proofs.Eval.Plain
/-! Inheritance through templates. A template that ends in `<<*>>` spreads what it is applied to
onto its own value and hands the result to the template that it inherits from. The values are
thus spread from the right, starting with what the applying block holds; as grouping does not
matter, a block comes to the templates' values and its own spread from the left, the
outermost ancestor first. -/
namespace ConfigLang.Eval

open Value

/-- The values of a template's line of ancestors and its own value at the end. Each of them is
plain content, with that value as a document of its own, between the `@from` that names its
parent and a spread of everything. -/
inductive Lineage (templates : Templates) : String → List (Option Value) → Prop
  | root (items : List Item) (limit : Nat) {name : String} {value : Option Value}
      {spread block : Span}
      (registered : Entries.get? name templates =
        some (.block (items ++ [.spread ⟨[], spread⟩]) block))
      (plain : arePlain items = true)
      (evaluated : evalDocument limit none items = .ok value) :
      Lineage templates name [value]
  | child (items : List Item) (limit : Nat) {name parent : String}
      {ancestors : List (Option Value)} {value : Option Value} {path span spread block : Span}
      (lineage : Lineage templates parent ancestors)
      (registered : Entries.get? name templates =
        some (.block (.inherit ⟨[parent], path⟩ span :: (items ++ [.spread ⟨[], spread⟩])) block))
      (plain : arePlain items = true)
      (evaluated : evalDocument limit none items = .ok value) :
      Lineage templates name (ancestors ++ [value])

def spreadAll (values : List (Option Value)) : Except Conflict (Option Value) :=
  values.foldlM spreadOnto none

/-- The evaluation gives the merged value, and fails with a conflict where there is none, unless
it gives up. -/
def Yields (outcome : Except Error (Option Value)) (merged : Except Conflict (Option Value)) :
    Prop :=
  ¬ TooDeep outcome → match merged with
    | .ok value => outcome = .ok value
    | .error _ => ∃ conflict span, outcome = .error (.incompatibleMerge conflict span)

theorem Yields.congr {outcome : Except Error (Option Value)}
    {merged merged' : Except Conflict (Option Value)} (yields : Yields outcome merged)
    (same : ∀ value, merged = .ok value ↔ merged' = .ok value) : Yields outcome merged' := by
  intro shallow
  cases merged with
  | ok value =>
    rw [(same value).1 rfl]
    exact yields shallow
  | error conflict =>
    cases merged' with
    | ok value => cases (same value).2 rfl
    | error conflict' => exact yields shallow

theorem spreadAll_concat (values : List (Option Value)) (last : Option Value) :
    spreadAll (values ++ [last]) = spreadAll values >>= fun value => spreadOnto value last := by
  rw [spreadAll, spreadAll, List.foldlM_append]
  refine congrArg _ (funext fun value => ?_)
  simp

theorem distinct_foldlM {values : List (Option Value)} {start value : Option Value}
    (before : Distinct start) (distinct : ∀ held ∈ values, Distinct held)
    (done : values.foldlM spreadOnto start = .ok value) : Distinct value := by
  induction values generalizing start with
  | nil =>
    cases done
    exact before
  | cons held rest ih =>
    obtain ⟨here, others⟩ := List.forall_mem_cons.1 distinct
    rw [List.foldlM_cons] at done
    obtain ⟨grown, first, later⟩ := except_bind_eq_ok.1 done
    exact ih (before.spreadOnto here first) others later

theorem distinct_spreadAll {values : List (Option Value)} {value : Option Value}
    (distinct : ∀ held ∈ values, Distinct held) (done : spreadAll values = .ok value) :
    Distinct value :=
  distinct_foldlM distinct_none distinct done

theorem spreadAll_last {values : List (Option Value)} {middle last : Option Value}
    (distinct : ∀ held ∈ values, Distinct held) (hm : Distinct middle) (hl : Distinct last)
    (value : Option Value) :
    spreadAll (values ++ [middle] ++ [last]) = .ok value ↔
      ∃ both, spreadOnto middle last = .ok both ∧ spreadAll (values ++ [both]) = .ok value := by
  simp only [spreadAll_concat, except_bind_eq_ok]
  constructor
  · rintro ⟨grown, ⟨before, first, second⟩, third⟩
    have grouped := spreadsAssociate (distinct_spreadAll distinct first) hm hl value
    obtain ⟨both, later, whole⟩ := grouped.1 ⟨grown, second, third⟩
    exact ⟨both, later, before, first, whole⟩
  · rintro ⟨both, later, before, first, whole⟩
    have grouped := spreadsAssociate (distinct_spreadAll distinct first) hm hl value
    obtain ⟨grown, second, third⟩ := grouped.2 ⟨both, later, whole⟩
    exact ⟨grown, ⟨before, first, second⟩, third⟩

theorem spreadValue_whole (argument : Option Value) (span : Span) :
    spreadValue argument ⟨[], span⟩ = .ok argument := by
  cases argument <;> rfl

theorem spread_whole (acc : Accumulator) (argument : Option Value) (span : Span) :
    match spreadOnto acc.value argument with
    | .ok value => ∃ next, acc.spread argument ⟨[], span⟩ = .ok next ∧ next.value = value
    | .error conflict => acc.spread argument ⟨[], span⟩ = .error (.incompatibleMerge conflict span) := by
  cases spread : acc.spread argument ⟨[], span⟩ with
  | ok next =>
    obtain ⟨value, found, onto⟩ := Accumulator.spread_ok spread
    cases (spreadValue_whole argument span).symm.trans found
    rw [onto]
    exact ⟨next, rfl, rfl⟩
  | error e =>
    rw [Accumulator.spread, spreadValue_whole] at spread
    cases argument with
    | none => cases spread
    | some value =>
      simp only [bind, Except.bind] at spread
      simp only [spreadOnto]
      split at spread
      · next conflict met =>
        rw [met]
        exact spread.symm
      · cases spread
      · cases spread

theorem addItems_of_evalDocument {items : List Item} {limit : Nat} {value : Option Value}
    (plain : arePlain items = true) (evaluated : evalDocument limit none items = .ok value) :
    ∃ progress, addItems (evalNode [] limit limit) none .start items = .ok progress ∧
      progress.accumulator.value = value := by
  have each := isPlain_of_mem plain
  have declared := declare_of_plain none [] fun item member =>
    Item.isTemplate_of_isPlain (each item member)
  obtain ⟨templates, found, evaluated⟩ := except_bind_eq_ok.1 evaluated
  cases declared.symm.trans found
  obtain ⟨progress, added, evaluated⟩ := except_bind_eq_ok.1 evaluated
  have noParent := parent_addItems
    (fun item member => Item.isInherit_of_isPlain (each item member)) added
  refine ⟨progress, added, ?_⟩
  simp only [noParent, Progress.start] at evaluated
  exact Except.ok.inj evaluated

section body

variable (templates : Templates) (limit depth : Nat) (argument : Option Value)

theorem addItems_body {items : List Item} {own : Nat} {value : Option Value}
    (plain : arePlain items = true) (evaluated : evalDocument own none items = .ok value)
    (parent : Option (Path × Span)) (span : Span) :
    let outcome := addItems (evalNode templates limit depth) argument
      (Progress.start.withParent parent) (items ++ [.spread ⟨[], span⟩])
    TooDeep outcome ∨ match spreadOnto value argument with
      | .ok grown => ∃ next, outcome = .ok next ∧ next.accumulator.value = grown ∧
          next.parent = parent
      | .error conflict => outcome = .error (.incompatibleMerge conflict span) := by
  obtain ⟨progress, added, rfl⟩ := addItems_of_evalDocument plain evaluated
  have each := isPlain_of_mem plain
  have noFrom := fun item member => Item.isInherit_of_isPlain (each item member)
  have same := agree_addItems [] templates own limit none argument items plain .start own depth
  rw [addItems_append, addItems_withParent parent .start noFrom]
  rcases same with ⟨_, _, deep⟩ | ⟨deepest, at', deep⟩ | same
  · rw [added] at deep
    cases deep
  · rw [deep]
    exact .inl ⟨deepest, at', rfl⟩
  · rw [← same, added]
    refine .inr ?_
    have whole := spread_whole progress.accumulator argument span
    cases met : spreadOnto progress.accumulator.value argument with
    | error conflict =>
      rw [met] at whole
      simp only [Except.map, bind, Except.bind, addItems, addItem, Progress.withParent, whole]
    | ok grown =>
      rw [met] at whole
      obtain ⟨next, spread, held⟩ := whole
      refine ⟨⟨next, parent, true⟩, ?_, held, rfl⟩
      simp only [Except.map, bind, Except.bind, addItems, addItem, Progress.withParent, spread]
      rfl

end body

theorem Lineage.distinct {templates : Templates} {name : String} {values : List (Option Value)}
    (lineage : Lineage templates name values) : ∀ value ∈ values, Distinct value := by
  induction lineage with
  | root items limit registered plain evaluated =>
    exact List.forall_mem_singleton.2 (distinct_evalDocument distinct_none evaluated)
  | child items limit lineage registered plain evaluated ih =>
    intro value member
    rcases List.mem_append.1 member with older | own
    · exact ih value older
    · rw [List.mem_singleton.1 own]
      exact distinct_evalDocument distinct_none evaluated

theorem applyTemplate_block {templates : Templates} {name : String} {items : List Item}
    {block : Span} (registered : Entries.get? name templates = some (.block items block))
    (noTemplate : ∀ item ∈ items, item.isTemplate = false) (limit depth : Nat) (path span : Span)
    (argument : Option Value) :
    TooDeep (applyTemplate templates limit depth (⟨[name], path⟩, span) argument) ∨
      ∃ below, applyTemplate templates limit depth (⟨[name], path⟩, span) argument =
        evalItems (evalNode templates limit below) (applyTemplate templates limit below) argument
          items := by
  have found : templates.lookup ⟨[name], path⟩ span = .ok (.block items block) := by
    rw [Templates.lookup, Templates.find?, registered]
    rfl
  cases depth with
  | zero =>
    rw [applyTemplate_zero found]
    exact .inl ⟨limit, span, rfl⟩
  | succ depth =>
    rw [applyTemplate_succ found]
    cases depth with
    | zero =>
      rw [evalNode]
      exact .inl ⟨limit, block, rfl⟩
    | succ below => exact .inr ⟨below, evalNode_block noTemplate block⟩

def fromItems : Option (Path × Span) → List Item
  | none => []
  | some (path, span) => [.inherit path span]

theorem addItems_fromItems (nested : NodeEval) (argument : Option Value)
    (parent : Option (Path × Span)) (rest : List Item) :
    addItems nested argument .start (fromItems parent ++ rest) =
      addItems nested argument (Progress.start.withParent parent) rest := by
  cases parent <;> rfl

theorem applyTemplate_body {templates : Templates} {name : String} {items : List Item}
    {parent : Option (Path × Span)} {spread block : Span} {own : Nat} {value : Option Value}
    (registered : Entries.get? name templates =
      some (.block (fromItems parent ++ (items ++ [.spread ⟨[], spread⟩])) block))
    (plain : arePlain items = true) (evaluated : evalDocument own none items = .ok value)
    (limit depth : Nat) (path span : Span) (argument : Option Value) :
    let outcome := applyTemplate templates limit depth (⟨[name], path⟩, span) argument
    TooDeep outcome ∨ match spreadOnto value argument with
      | .ok grown => ∃ below, outcome = match parent with
          | none => .ok grown
          | some parent => applyTemplate templates limit below parent grown
      | .error conflict => outcome = .error (.incompatibleMerge conflict spread) := by
  have noTemplate : ∀ item ∈ fromItems parent ++ (items ++ [.spread ⟨[], spread⟩]),
      item.isTemplate = false := by
    intro item member
    rcases List.mem_append.1 member with first | member
    · cases parent with
      | none => cases first
      | some parent =>
        rw [List.mem_singleton.1 first]
        rfl
    · rcases List.mem_append.1 member with between | last
      · exact Item.isTemplate_of_isPlain (isPlain_of_mem plain item between)
      · rw [List.mem_singleton.1 last]
        rfl
  rcases applyTemplate_block registered noTemplate limit depth path span argument with
    deep | ⟨below, same⟩
  · exact .inl deep
  · dsimp only
    rw [same, evalItems, addItems_fromItems]
    rcases addItems_body templates limit below argument plain evaluated parent spread with
      deep | whole
    · exact .inl (deep.bind _)
    · refine .inr ?_
      cases met : spreadOnto value argument with
      | error conflict =>
        rw [met] at whole
        dsimp only at whole ⊢
        rw [whole]
        rfl
      | ok grown =>
        rw [met] at whole
        obtain ⟨next, added, held, kept⟩ := whole
        refine ⟨below, ?_⟩
        rw [added]
        simp only [bind, Except.bind, kept, held]
        cases parent <;> rfl

theorem Lineage.applyTemplate {templates : Templates} {name : String}
    {values : List (Option Value)} (lineage : Lineage templates name values) (limit : Nat) :
    ∀ (depth : Nat) (path span : Span) {argument : Option Value}, Distinct argument →
      Yields (applyTemplate templates limit depth (⟨[name], path⟩, span) argument)
        (spreadAll (values ++ [argument])) := by
  induction lineage with
  | @root items own name value spread block registered plain evaluated =>
    intro depth path span argument given shallow
    have registered : Entries.get? name templates =
        some (.block (fromItems none ++ (items ++ [.spread ⟨[], spread⟩])) block) := registered
    have single : spreadAll ([value] ++ [argument]) = spreadOnto value argument := by
      rw [spreadAll_concat, spreadAll]
      simp only [List.foldlM_cons, List.foldlM_nil, none_spreadOnto]
      rfl
    have whole := (applyTemplate_body registered plain evaluated limit depth path span
      argument).resolve_left shallow
    rw [single]
    cases met : spreadOnto value argument with
    | error conflict =>
      rw [met] at whole
      exact ⟨conflict, spread, whole⟩
    | ok grown =>
      rw [met] at whole
      exact whole.choose_spec
  | @child items own name parent ancestors value path' span' spread block lineage registered plain
      evaluated ih =>
    intro depth path span argument given shallow
    have registered : Entries.get? name templates = some (.block
        (fromItems (some (⟨[parent], path'⟩, span')) ++ (items ++ [.spread ⟨[], spread⟩])) block) :=
      registered
    have distinct := distinct_evalDocument distinct_none evaluated
    have grouped := spreadAll_last lineage.distinct distinct given
    have whole := (applyTemplate_body registered plain evaluated limit depth path span
      argument).resolve_left shallow
    cases met : spreadOnto value argument with
    | error conflict =>
      rw [met] at whole
      cases merged : spreadAll (ancestors ++ [value] ++ [argument]) with
      | ok value =>
        obtain ⟨both, joined, _⟩ := (grouped value).1 merged
        rw [met] at joined
        cases joined
      | error conflict' => exact ⟨conflict, spread, whole⟩
    | ok grown =>
      rw [met] at whole
      obtain ⟨below, same⟩ := whole
      have yields := ih below path' span' (distinct.spreadOnto given met)
      dsimp only at same
      rw [same] at shallow ⊢
      refine yields.congr (fun merged => ?_) shallow
      rw [grouped merged, met]
      simp

theorem spreadAll_none (values : List (Option Value)) :
    spreadAll (values ++ [none]) = spreadAll values := by
  rw [spreadAll_concat]
  cases spreadAll values <;> rfl

theorem evalNode_inherit {templates : Templates} {limit depth : Nat} {argument : Option Value}
    {content : List Item} {block : Span} {value : Option Value}
    (others : ∀ item ∈ content, item.isInherit = false)
    (own : evalNode templates limit depth (.block content block) argument = .ok value)
    (path : Path) (span : Span) :
    ∃ below, evalNode templates limit depth (.block (.inherit path span :: content) block) argument =
      applyTemplate templates limit below (path, span) value := by
  cases depth with
  | zero =>
    rw [evalNode] at own
    cases own
  | succ below =>
    rw [evalNode] at own ⊢
    obtain ⟨_, allowed, own⟩ := except_bind_eq_ok.1 own
    refine ⟨below, ?_⟩
    rw [← evalItems_inherit others own path span, rejectTemplates_cons rfl, allowed]
    rfl

theorem evalDocument_inherit {templates : Templates} {limit : Nat} {argument : Option Value}
    {content : List Item} {value : Option Value}
    (others : ∀ item ∈ content, item.isInherit = false)
    (declared : declare argument [] content = .ok templates)
    (own : evalDocument limit argument content = .ok value) (path : Path) (span : Span) :
    evalDocument limit argument (.inherit path span :: content) =
      applyTemplate templates limit limit (path, span) value := by
  rw [evalDocument, declared] at own
  rw [evalDocument, declare_cons rfl, declared, ← evalItems_inherit others own path span]
  rfl

/-- A block that names a template comes to the values of the template's ancestors, of the template
and of its own content, spread from the left; it fails just where they conflict. The block may
be the value of an entry or a whole document, and it may be empty. -/
theorem inherit_spreads_from_left {templates : Templates} {name : String}
    {values : List (Option Value)} (lineage : Lineage templates name values)
    {argument : Option Value} (given : Distinct argument) {content : List Item}
    (others : ∀ item ∈ content, item.isInherit = false) (limit depth : Nat)
    (path span block : Span) (value : Option Value) :
    (evalNode templates limit depth (.block content block) argument = .ok value →
      Yields (evalNode templates limit depth
          (.block (.inherit ⟨[name], path⟩ span :: content) block) argument)
        (spreadAll (values ++ [value]))) ∧
    (declare argument [] content = .ok templates →
      evalDocument limit argument content = .ok value →
      Yields (evalDocument limit argument (.inherit ⟨[name], path⟩ span :: content))
        (spreadAll (values ++ [value]))) ∧
    Yields (evalNode templates limit depth (.block [.inherit ⟨[name], path⟩ span] block) argument)
      (spreadAll values) := by
  refine ⟨?_, ?_, ?_⟩
  · intro own
    obtain ⟨below, same⟩ := evalNode_inherit others own ⟨[name], path⟩ span
    rw [same]
    exact lineage.applyTemplate limit below path span (distinct_evalNode given own)
  · intro declared own
    rw [evalDocument_inherit others declared own]
    exact lineage.applyTemplate limit limit path span (distinct_evalDocument given own)
  · cases depth with
    | zero =>
      rw [evalNode]
      exact fun shallow => absurd ⟨limit, block, rfl⟩ shallow
    | succ depth =>
      have own : evalNode templates limit (depth + 1) (.block [] block) argument = .ok none := rfl
      obtain ⟨below, same⟩ := evalNode_inherit (List.forall_mem_nil _) own ⟨[name], path⟩ span
      rw [same, ← spreadAll_none]
      exact lineage.applyTemplate limit below path span distinct_none

/-- An entry of the child replaces that of the root, and one of the block replaces either; the
keys stay where the first of them stands. -/
theorem inherit_spreads_from_left_order :
    let entry (key text : String) : Item :=
      .tagged (.simple key default) (.text text default) none default
    let templates : Templates :=
      [("child", .block [.inherit ⟨["root"], default⟩ default, entry "c" "child",
          entry "b" "child", .spread ⟨[], default⟩] default),
        ("root", .block [entry "a" "root", entry "b" "root", .spread ⟨[], default⟩] default)]
    evalNode templates 8 8
        (.block [.inherit ⟨["child"], default⟩ default, entry "d" "own", entry "a" "own"] default)
        none =
      .ok (some (.map [("a", .string "own"), ("b", .string "child"), ("c", .string "child"),
        ("d", .string "own")])) := by
  intro entry templates
  have root : Lineage templates "root"
      [some (.map [("a", .string "root"), ("b", .string "root")])] :=
    .root [entry "a" "root", entry "b" "root"] 8 rfl rfl rfl
  have child : Lineage templates "child" [some (.map [("a", .string "root"), ("b", .string "root")]),
      some (.map [("c", .string "child"), ("b", .string "child")])] :=
    .child [entry "c" "child", entry "b" "child"] 8 root rfl rfl rfl
  have content : ∀ item ∈ [entry "d" "own", entry "a" "own"], item.isInherit = false := by decide
  have yields := (inherit_spreads_from_left child distinct_none content 8 8 default default default
    (some (.map [("d", .string "own"), ("a", .string "own")]))).1 rfl
  refine yields ?_
  rintro ⟨_, _, deep⟩
  cases deep

end ConfigLang.Eval
