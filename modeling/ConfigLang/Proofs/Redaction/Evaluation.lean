import ConfigLang.Eval.Block
import ConfigLang.Proofs.Redaction.Basic
/-! Evaluation does not see what a redaction changes. Blank lines and comments add nothing to a
block, declare nothing and are no entries, and spans come up in errors alone. So a document and a
redaction of it come to the same value, or to the same error with its span moved. The two runs
have templates of their own, which are the redactions of each other. -/
namespace ConfigLang.Eval

section texts

variable (redaction : Redaction) (argument : Option Value)

theorem mirrors_lookup (path : Path) :
    Mirrors redaction.span Eq (lookup argument path) (lookup argument (redaction.path path)) := by
  unfold lookup
  simp only [Redaction.path]
  cases argument.bind (Value.select? path.components) with
  | some value => exact (rfl : value = value)
  | none => exact rfl

theorem mirrors_placeholderText (path : Path) :
    Mirrors redaction.span Eq (placeholderText argument path)
      (placeholderText argument (redaction.path path)) := by
  refine (mirrors_lookup redaction argument path).bind_eq fun value => ?_
  cases value with
  | string text =>
    by_cases empty : text = ""
    · simp only [empty, if_true]
      exact rfl
    · simp only [empty, if_false]
      exact rfl
  | list items => exact rfl
  | map entries => exact rfl

theorem mirrors_spreadValue (path : Path) :
    Mirrors redaction.span Eq (spreadValue argument path)
      (spreadValue argument (redaction.path path)) := by
  have looked := mirrors_lookup redaction argument path
  have components : (redaction.path path).components = path.components := rfl
  unfold spreadValue
  rw [components]
  by_cases whole : path.components.isEmpty = true ∧ argument.isNone = true
  · rw [if_pos whole, if_pos whole]
    exact rfl
  · rw [if_neg whole, if_neg whole]
    exact looked.map_eq some

theorem mirrors_appendElements (elements : List StringElement) (text : String) (breakDue : Bool) :
    Mirrors redaction.span Eq (appendElements argument text breakDue elements)
      (appendElements argument text breakDue (elements.map redaction.element)) := by
  induction elements generalizing text breakDue with
  | nil => exact rfl
  | cons element rest ih =>
    cases element with
    | literal piece span => exact ih _ _
    | plus span => exact ih _ _
    | placeholder path =>
      exact (mirrors_placeholderText redaction argument path).bind_eq fun piece => ih _ _

theorem mirrors_joinLines (lines : List StringLine) :
    Mirrors redaction.span Eq (joinLines argument lines)
      (joinLines argument (lines.map redaction.line)) := by
  suffices whole : ∀ text breakDue, Mirrors redaction.span Eq
      (appendLines argument text breakDue lines)
      (appendLines argument text breakDue (lines.map redaction.line)) from whole "" false
  induction lines with
  | nil => exact fun _ _ => rfl
  | cons line rest ih =>
    intro text breakDue
    have here := mirrors_appendElements redaction argument line.elements text breakDue
    refine here.bind_eq fun text => ?_
    rw [redaction.endsWithPlus_line]
    exact ih _ _

theorem stringLines_keyLines (lines : List KeyLine) :
    stringLines (redaction.keyLines lines) = (stringLines lines).map redaction.line := by
  induction lines with
  | nil => rfl
  | cons line rest ih =>
    cases line with
    | strings line =>
      have kept : redaction.keepsLine (.strings line) = true := by
        simp [Redaction.keepsLine, KeyLine.isTrivia]
      rw [Redaction.keyLines, List.filter_cons_of_pos kept]
      exact congrArg (redaction.line line :: ·) ih
    | comment comment =>
      cases kept : redaction.keepsLine (.comment comment) with
      | true =>
        rw [Redaction.keyLines, List.filter_cons_of_pos kept]
        exact ih
      | false =>
        rw [Redaction.keyLines, List.filter_cons_of_neg (by simp [kept])]
        exact ih

theorem mirrors_keyText (key : Key) :
    Mirrors redaction.span Eq (keyText argument key) (keyText argument (redaction.key key)) := by
  cases key with
  | simple text span => exact rfl
  | multiline lines span =>
    have joined := mirrors_joinLines redaction argument (stringLines lines)
    rw [← stringLines_keyLines] at joined
    exact joined

end texts

section items

variable {redaction : Redaction} {argument : Option Value}

theorem mirrors_lock (acc : Accumulator) (shape : Shape) (span : Span) :
    Mirrors redaction.span Eq (acc.lock shape span) (acc.lock shape (redaction.span span)) := by
  unfold Accumulator.lock
  cases acc.value with
  | none => exact rfl
  | some value =>
    by_cases fits : value.shape = shape
    · simp only [fits, if_true]
      exact rfl
    · simp only [fits, if_false]
      exact rfl

theorem mirrors_appendLine (acc : Accumulator) (line : StringLine) :
    Mirrors redaction.span Eq (acc.appendLine argument line)
      (acc.appendLine argument (redaction.line line)) := by
  unfold Accumulator.appendLine
  cases acc.value with
  | none => exact rfl
  | some value =>
    cases value with
    | string text =>
      have appended := mirrors_appendElements redaction argument line.elements text acc.breakDue
      refine appended.bind_eq fun text => ?_
      rw [redaction.endsWithPlus_line]
      exact rfl
    | list items => exact rfl
    | map entries => exact rfl

theorem mirrors_spread (acc : Accumulator) (path : Path) :
    Mirrors redaction.span Eq (acc.spread argument path)
      (acc.spread argument (redaction.path path)) := by
  refine (mirrors_spreadValue redaction argument path).bind_eq fun value => ?_
  cases value with
  | none => exact rfl
  | some value =>
    cases merged : Value.appendSpread acc.value value with
    | error conflict =>
      simp only [merged]
      exact rfl
    | ok result =>
      rcases result with _ | ⟨text⟩ | ⟨items⟩ | ⟨entries⟩ <;> simp only [merged] <;> exact rfl

def redactProgress (redaction : Redaction) (progress : Progress) : Progress :=
  ⟨progress.accumulator,
    progress.parent.map fun (path, span) => (redaction.path path, redaction.span span),
    progress.hasContent⟩

variable {nested nested' : NodeEval}

theorem mirrors_addItem
    (values : ∀ value argument, Mirrors redaction.span Eq (nested value argument)
      (nested' (redaction.node value) argument))
    (progress : Progress) (item : Item) :
    Mirrors redaction.span (fun next next' => next' = redactProgress redaction next)
      (addItem nested argument progress item)
      (addItem nested' argument (redactProgress redaction progress) (redaction.item item)) := by
  cases item with
  | blank span | comment comment =>
    rw [Redaction.item]
    exact rfl
  | inherit path span =>
    rw [Redaction.item, addItem, addItem]
    cases content : progress.hasContent with
    | true =>
      simp only [redactProgress, content, if_true]
      exact rfl
    | false =>
      simp only [redactProgress, content, Bool.false_eq_true, if_false]
      exact rfl
  | tagged key value template span =>
    rw [Redaction.item]
    cases template with
    | some mark => exact rfl
    | none =>
      refine (mirrors_lock progress.accumulator .map span).bind_eq fun locked => ?_
      refine (mirrors_keyText redaction argument key).bind_eq fun name => ?_
      exact (values value argument).bind_eq fun result => rfl
  | untagged value span =>
    rw [Redaction.item]
    refine (mirrors_lock progress.accumulator .list span).bind_eq fun locked => ?_
    exact (values value argument).bind_eq fun result => rfl
  | strings line =>
    rw [Redaction.item]
    refine (mirrors_lock progress.accumulator .string line.span).bind_eq fun locked => ?_
    exact (mirrors_appendLine locked line).bind_eq fun acc => rfl
  | spread path =>
    rw [Redaction.item]
    exact (mirrors_spread progress.accumulator path).bind_eq fun acc => rfl

theorem addItem_of_isTrivia {item : Item} (trivia : item.isTrivia = true) (progress : Progress) :
    addItem nested argument progress item = .ok progress := by
  cases item with
  | blank span | comment comment => rfl
  | _ => cases trivia

theorem mirrors_addItems
    (values : ∀ value argument, Mirrors redaction.span Eq (nested value argument)
      (nested' (redaction.node value) argument))
    (progress : Progress) (items : List Item) :
    Mirrors redaction.span (fun next next' => next' = redactProgress redaction next)
      (addItems nested argument progress items)
      (addItems nested' argument (redactProgress redaction progress) (redaction.items items)) := by
  induction items generalizing progress with
  | nil => exact rfl
  | cons item rest ih =>
    cases kept : redaction.keeps item with
    | true =>
      rw [Redaction.items_cons_of_keeps kept]
      refine (mirrors_addItem values progress item).bind fun next next' same => ?_
      rw [same]
      exact ih next
    | false =>
      have trivia := Redaction.isTrivia_of_keeps kept
      rw [Redaction.items_cons_of_trivia kept, addItems, addItem_of_isTrivia trivia]
      exact ih progress

theorem mirrors_evalItems {apply apply' : TemplateEval}
    (values : ∀ value argument, Mirrors redaction.span Eq (nested value argument)
      (nested' (redaction.node value) argument))
    (applied : ∀ path span value, Mirrors redaction.span Eq (apply (path, span) value)
      (apply' (redaction.path path, redaction.span span) value))
    (items : List Item) :
    Mirrors redaction.span Eq (evalItems nested apply argument items)
      (evalItems nested' apply' argument (redaction.items items)) := by
  refine (mirrors_addItems values .start items).bind fun progress progress' same => ?_
  rw [same, redactProgress]
  cases progress.parent with
  | none => exact rfl
  | some parent => exact applied parent.1 parent.2 progress.accumulator.value

theorem mirrors_rejectTemplates (items : List Item) :
    Mirrors redaction.span Eq (rejectTemplates argument items)
      (rejectTemplates argument (redaction.items items)) := by
  induction items with
  | nil => exact rfl
  | cons item rest ih =>
    cases kept : redaction.keeps item with
    | true =>
      rw [Redaction.items_cons_of_keeps kept]
      cases item with
      | tagged key value template span =>
        rw [Redaction.item]
        cases template with
        | none => exact ih
        | some mark =>
          have name := (mirrors_keyText redaction argument key).toOption_eq
          simp only [rejectTemplates, Option.map_some, name]
          exact rfl
      | _ =>
        rw [Redaction.item]
        exact ih
    | false =>
      rw [Redaction.items_cons_of_trivia kept]
      cases item with
      | blank span | comment comment => exact ih
      | _ => cases Redaction.isTrivia_of_keeps kept

end items

section templates

variable {redaction : Redaction}

def redactTemplates (redaction : Redaction) (templates : Templates) : Templates :=
  templates.map fun (name, value) => (name, redaction.node value)

theorem get?_redactTemplates (name : String) (templates : Templates) :
    Entries.get? name (redactTemplates redaction templates) =
      (Entries.get? name templates).map redaction.node :=
  Entries.get?_map redaction.node name templates

theorem insert_redactTemplates (name : String) (value : ValueNode) (templates : Templates) :
    Entries.insert name (redaction.node value) (redactTemplates redaction templates) =
      redactTemplates redaction (Entries.insert name value templates) :=
  Entries.insert_map redaction.node name value templates

theorem mirrors_declare (argument : Option Value) (templates : Templates) (items : List Item) :
    Mirrors redaction.span (fun all all' => all' = redactTemplates redaction all)
      (declare argument templates items)
      (declare argument (redactTemplates redaction templates) (redaction.items items)) := by
  induction items generalizing templates with
  | nil => exact rfl
  | cons item rest ih =>
    cases kept : redaction.keeps item with
    | true =>
      rw [Redaction.items_cons_of_keeps kept]
      cases item with
      | tagged key value template span =>
        rw [Redaction.item]
        cases template with
        | none => exact ih templates
        | some mark =>
          refine (mirrors_keyText redaction argument key).bind_eq fun name => ?_
          rw [insert_redactTemplates]
          exact ih _
      | _ =>
        rw [Redaction.item]
        exact ih templates
    | false =>
      rw [Redaction.items_cons_of_trivia kept]
      cases item with
      | blank span | comment comment => exact ih templates
      | _ => cases Redaction.isTrivia_of_keeps kept

theorem entryNamed?_item (name : String) (item : Item) :
    Templates.entryNamed? name (redaction.item item) =
      (Templates.entryNamed? name item).map redaction.node := by
  cases item with
  | tagged key value template span =>
    rw [Redaction.item]
    cases template with
    | some mark => rfl
    | none =>
      simp only [Option.map_none, Templates.entryNamed?]
      obtain ⟨text, _, here, there, rfl⟩ | ⟨fault, here, there⟩ :=
        (mirrors_keyText redaction none key).outcomes
      · rw [here, there]
        by_cases same : text = name
        · simp [same]
        · simp [same]
      · rw [here, there]
        rfl
  | _ =>
    rw [Redaction.item]
    rfl

theorem findSome?_items (name : String) (items : List Item) :
    (redaction.items items).reverse.findSome? (Templates.entryNamed? name) =
      (items.reverse.findSome? (Templates.entryNamed? name)).map redaction.node := by
  induction items with
  | nil => rfl
  | cons item rest ih =>
    cases kept : redaction.keeps item with
    | true =>
      rw [Redaction.items_cons_of_keeps kept]
      simp [List.findSome?_append, ih, entryNamed?_item, Option.map_or]
    | false =>
      have none : Templates.entryNamed? name item = none := by
        cases item with
        | blank span | comment comment => rfl
        | _ => cases Redaction.isTrivia_of_keeps kept
      rw [Redaction.items_cons_of_trivia kept]
      simp [List.findSome?_append, ih, none]

theorem descend?_node (names : List String) (node : ValueNode) :
    Templates.descend? names (redaction.node node) =
      (Templates.descend? names node).map redaction.node := by
  induction names generalizing node with
  | nil => simp [Templates.descend?]
  | cons name rest ih =>
    cases node with
    | block items span =>
      rw [Redaction.node, Templates.descend?, Templates.descend?, findSome?_items]
      cases items.reverse.findSome? (Templates.entryNamed? name) with
      | none => rfl
      | some value => exact ih value
    | text text span | strings lines span =>
      rw [Redaction.node]
      rfl

theorem mirrors_templateLookup (templates : Templates) (path : Path) (span : Span) :
    Mirrors redaction.span (fun node node' => node' = redaction.node node)
      (templates.lookup path span)
      ((redactTemplates redaction templates).lookup (redaction.path path)
        (redaction.span span)) := by
  have found : Templates.find? (redactTemplates redaction templates)
      (redaction.path path).components =
        (templates.find? path.components).map redaction.node := by
    simp only [Redaction.path]
    cases path.components with
    | nil => rfl
    | cons name rest =>
      rw [Templates.find?, Templates.find?, get?_redactTemplates]
      cases Entries.get? name templates with
      | none => rfl
      | some value => exact descend?_node rest value
  unfold Templates.lookup
  rw [found]
  cases templates.find? path.components with
  | none => exact rfl
  | some node => exact (rfl : redaction.node node = redaction.node node)

end templates

section nested

variable (redaction : Redaction) (templates : Templates) (limit : Nat)

theorem mirrors_evalNode {depth : Nat} {argument : Option Value}
    (blocks : ∀ items span, Mirrors redaction.span Eq
      (evalNode templates limit depth (.block items span) argument)
      (evalNode (redactTemplates redaction templates) limit depth
        (redaction.node (.block items span)) argument))
    (node : ValueNode) :
    Mirrors redaction.span Eq (evalNode templates limit depth node argument)
      (evalNode (redactTemplates redaction templates) limit depth (redaction.node node)
        argument) := by
  cases node with
  | block items span => exact blocks items span
  | text text span =>
    rw [Redaction.node, evalNode, evalNode]
    exact rfl
  | strings lines span =>
    rw [Redaction.node, evalNode, evalNode]
    exact (mirrors_joinLines redaction argument lines).map_eq _

theorem mirrors_nested (depth : Nat) :
    (∀ node argument, Mirrors redaction.span Eq (evalNode templates limit depth node argument)
      (evalNode (redactTemplates redaction templates) limit depth (redaction.node node)
        argument)) ∧
    ∀ path span argument, Mirrors redaction.span Eq
      (applyTemplate templates limit depth (path, span) argument)
      (applyTemplate (redactTemplates redaction templates) limit depth
        (redaction.path path, redaction.span span) argument) := by
  -- the depth that is left is the same for both runs
  induction depth with
  | zero =>
    constructor
    · intro node argument
      refine mirrors_evalNode redaction templates limit (fun items span => ?_) node
      rw [Redaction.node, evalNode, evalNode]
      exact rfl
    · intro path span argument
      rw [applyTemplate, applyTemplate]
      exact (mirrors_templateLookup templates path span).bind fun node node' same => rfl
  | succ depth ih =>
    obtain ⟨values, applied⟩ := ih
    constructor
    · intro node argument
      refine mirrors_evalNode redaction templates limit (fun items span => ?_) node
      rw [Redaction.node, evalNode, evalNode]
      refine (mirrors_rejectTemplates items).bind_eq fun _ => ?_
      exact mirrors_evalItems values applied items
    · intro path span argument
      rw [applyTemplate, applyTemplate]
      refine (mirrors_templateLookup templates path span).bind fun node node' same => ?_
      rw [same]
      exact values node argument

end nested

end ConfigLang.Eval

namespace ConfigLang.Document

open Eval

theorem mirrors_evaluate (redaction : Redaction) (document : Document) (limit : Nat)
    (argument : Option Value) :
    Mirrors redaction.span Eq (document.evaluate limit argument)
      ((redaction.document document).evaluate limit argument) := by
  refine (mirrors_declare argument [] document.items).bind fun templates templates' same => ?_
  obtain ⟨values, applied⟩ := mirrors_nested redaction templates limit limit
  rw [same]
  exact mirrors_evalItems values applied document.items

/-- Two documents with the same items, up to spans, which evaluate alike to any depth and with any
argument: to the same value, or to the same error, up to its span. -/
structure Alike (a b : Document) : Prop where
  items : Redaction.unplaced.items a.items = Redaction.unplaced.items b.items
  evaluate : ∀ limit argument,
    (a.evaluate limit argument).mapError (·.mapSpan Redaction.unplaced.span) =
      (b.evaluate limit argument).mapError (·.mapSpan Redaction.unplaced.span)

theorem alike_of_items {a b : Document}
    (same : Redaction.unplaced.items a.items = Redaction.unplaced.items b.items) : a.Alike b := by
  refine ⟨same, fun limit argument => ?_⟩
  have left := (a.mirrors_evaluate .unplaced limit argument).eq_mapError
  have right := (b.mirrors_evaluate .unplaced limit argument).eq_mapError
  have evaluated : (Redaction.unplaced.document a).evaluate limit argument =
      (Redaction.unplaced.document b).evaluate limit argument :=
    congrArg (evalDocument limit argument) same
  rw [← left, ← right, evaluated]

/-- The document without its blank lines and comments, those in blocks, in the bodies of templates
and in keys included. -/
def withoutTrivia (document : Document) : Document := Redaction.bare.document document

/-- Blank lines and comments never matter to a result. Of the document without them the outline
shows that all nodes but these are there, at their old spans; it comes to the same value, or to
the same error with the same span. -/
theorem evaluate_withoutTrivia (document : Document) :
    Item.listOutline document.withoutTrivia.items =
        (Item.listOutline document.items).filter (!·.isTrivia) ∧
      ∀ limit argument,
        document.withoutTrivia.evaluate limit argument = document.evaluate limit argument := by
  constructor
  · have left := Redaction.bare.outline_items document.items
    have unmoved : Redaction.bare.entry = id := rfl
    rw [Redaction.outline, unmoved, List.map_id] at left
    exact left.symm
  · intro limit argument
    have mirrored := (document.mirrors_evaluate .bare limit argument).eq_mapError
    have same : Error.mapSpan Redaction.bare.span = id := by
      funext error
      exact error.mapSpan_id
    rw [withoutTrivia, mirrored, same]
    cases document.evaluate limit argument <;> rfl

end ConfigLang.Document
