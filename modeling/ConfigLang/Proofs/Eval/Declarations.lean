import ConfigLang.Proofs.Eval.Items
import ConfigLang.Proofs.Redaction.Evaluation
import ConfigLang.Proofs.Value.Distinct
/-! Where templates are declared. They are all known before the first item is evaluated, and an
item that declares one adds nothing to the document. So of templates with different names it does
not matter where they stand between the other items, or in which order. -/
namespace ConfigLang

def Item.templateKey? : Item → Option Key
  | .tagged key _ (some _) _ => some key
  | _ => none

/-- The second list has the items of the first. Those that are no templates stand in the same
order. -/
structure TemplatesMoved (items items' : List Item) : Prop where
  all : items.Perm items'
  others : items.filter (!·.isTemplate) = items'.filter (!·.isTemplate)

namespace Eval

/-- The templates that the items declare have keys that can be evaluated, and no two of them the
same name. -/
structure NamesApart (argument : Option Value) (items : List Item) : Prop where
  named : ∀ key ∈ items.filterMap Item.templateKey?, ∃ name, keyText argument key = .ok name
  apart : ((items.filterMap Item.templateKey?).map (keyText argument)).Nodup

def declaration? (argument : Option Value) : Item → Option (String × ValueNode)
  | .tagged key value (some _) _ => (keyText argument key).toOption.map fun name => (name, value)
  | _ => none

section declarations

variable {argument : Option Value} {items items' : List Item}

theorem NamesApart.perm (names : NamesApart argument items) (order : items.Perm items') :
    NamesApart argument items' := by
  have keys := order.filterMap Item.templateKey?
  constructor
  · intro key member
    exact names.named key (keys.mem_iff.2 member)
  · exact (keys.map _).nodup_iff.1 names.apart

theorem declaration?_of_named {key : Key} {name : String} (found : keyText argument key = .ok name)
    (value : ValueNode) (mark span : Span) :
    declaration? argument (.tagged key value (some mark) span) = some (name, value) := by
  rw [declaration?, found]
  rfl

theorem declare_eq_foldl
    (named : ∀ key ∈ items.filterMap Item.templateKey?, ∃ name, keyText argument key = .ok name)
    (templates : Templates) :
    declare argument templates items =
      .ok ((items.filterMap (declaration? argument)).foldl
        (fun known declared => Entries.insert declared.1 declared.2 known) templates) := by
  induction items generalizing templates with
  | nil => rfl
  | cons item rest ih =>
    cases item with
    | tagged key value template span =>
      cases template with
      | none => exact ih named templates
      | some mark =>
        obtain ⟨⟨name, found⟩, others⟩ := List.forall_mem_cons.1 named
        rw [declare, found, List.filterMap_cons_some (declaration?_of_named found value mark span)]
        exact ih others _
    | _ => exact ih named templates

theorem keys_declarations
    (named : ∀ key ∈ items.filterMap Item.templateKey?, ∃ name, keyText argument key = .ok name) :
    (Entries.keys (items.filterMap (declaration? argument))).map .ok =
      (items.filterMap Item.templateKey?).map (keyText argument) := by
  induction items with
  | nil => rfl
  | cons item rest ih =>
    cases item with
    | tagged key value template span =>
      cases template with
      | none => exact ih named
      | some mark =>
        obtain ⟨⟨name, found⟩, others⟩ := List.forall_mem_cons.1 named
        rw [List.filterMap_cons_some (declaration?_of_named found value mark span)]
        exact congrArg₂ List.cons found.symm (ih others)
    | _ => exact ih named

theorem NamesApart.declared (names : NamesApart argument items) :
    (Entries.keys (items.filterMap (declaration? argument))).Nodup ∧
      declare argument [] items = .ok (items.filterMap (declaration? argument)) := by
  have nodup : (Entries.keys (items.filterMap (declaration? argument))).Nodup := by
    have images := names.apart
    rw [← keys_declarations names.named] at images
    exact images.of_map _
  constructor
  · exact nodup
  · rw [declare_eq_foldl names.named]
    exact congrArg Except.ok (Entries.ofPairs_of_nodup nodup)

end declarations

section known

variable {known known' : Templates}
  (same : ∀ name, Entries.get? name known = Entries.get? name known')

include same

theorem templateLookup_congr (path : Path) (span : Span) :
    known.lookup path span = known'.lookup path span := by
  have leads : known.find? path.components = known'.find? path.components := by
    cases path.components with
    | nil => rfl
    | cons name rest => rw [Templates.find?, Templates.find?, same]
  rw [Templates.lookup, Templates.lookup, leads]

theorem evaluation_congr (limit depth : Nat) :
    evalNode known limit depth = evalNode known' limit depth ∧
      applyTemplate known limit depth = applyTemplate known' limit depth := by
  induction depth with
  | zero =>
    constructor
    · funext node argument
      cases node <;> rw [evalNode, evalNode]
    · funext ⟨path, span⟩ argument
      rw [applyTemplate, applyTemplate, templateLookup_congr same]
  | succ depth ih =>
    obtain ⟨values, applied⟩ := ih
    constructor
    · funext node argument
      cases node with
      | block items span => rw [evalNode, evalNode, values, applied]
      | text text span | strings lines span => rw [evalNode, evalNode]
    · funext ⟨path, span⟩ argument
      rw [applyTemplate, applyTemplate, templateLookup_congr same, values]

end known

section content

variable {nested : NodeEval} {argument : Option Value}

def Accumulator.gather (nested : NodeEval) (argument : Option Value) (acc : Accumulator)
    (item : Item) : Except Error Accumulator :=
  (addItem nested argument ⟨acc, none, false⟩ item).map Progress.accumulator

theorem addItem_eq_gather (progress : Progress) {item : Item} (other : item.isInherit = false) :
    addItem nested argument progress item =
      (progress.accumulator.gather nested argument item).map fun acc =>
        ⟨acc, progress.parent, progress.hasContent || item.isContent⟩ := by
  obtain ⟨acc, parent, content⟩ := progress
  cases item with
  | inherit path span => cases other
  | blank span | comment comment =>
    rw [Item.isContent, Bool.or_false]
    rfl
  | tagged key value template span =>
    cases template with
    | some mark =>
      simp only [Accumulator.gather, addItem, Item.isContent, Bool.or_true]
      rfl
    | none =>
      simp only [Accumulator.gather, addItem, Item.isContent, Bool.or_true]
      cases acc.lock .map span with
      | error error => rfl
      | ok locked =>
        cases keyText argument key with
        | error error => rfl
        | ok name => cases nested value argument <;> rfl
  | untagged value span =>
    simp only [Accumulator.gather, addItem, Item.isContent, Bool.or_true]
    cases acc.lock .list span with
    | error error => rfl
    | ok locked => cases nested value argument <;> rfl
  | strings line =>
    simp only [Accumulator.gather, addItem, Item.isContent, Bool.or_true]
    cases acc.lock .string line.span with
    | error error => rfl
    | ok locked =>
      simp only [bind, Except.bind]
      cases locked.appendLine argument line <;> rfl
  | spread path =>
    simp only [Accumulator.gather, addItem, Item.isContent, Bool.or_true]
    cases acc.spread argument path <;> rfl

theorem addItems_eq_foldlM (progress : Progress) {items : List Item}
    (others : ∀ item ∈ items, item.isInherit = false) :
    addItems nested argument progress items =
      (items.foldlM (Accumulator.gather nested argument) progress.accumulator).map fun acc =>
        ⟨acc, progress.parent, progress.hasContent || items.any Item.isContent⟩ := by
  induction items generalizing progress with
  | nil =>
    rw [List.any_nil, Bool.or_false]
    rfl
  | cons item rest ih =>
    obtain ⟨here, others⟩ := List.forall_mem_cons.1 others
    rw [addItems, addItem_eq_gather progress here, List.foldlM_cons]
    cases progress.accumulator.gather nested argument item with
    | error error => rfl
    | ok acc =>
      refine (ih ⟨acc, progress.parent, progress.hasContent || item.isContent⟩ others).trans ?_
      rw [List.any_cons, Bool.or_assoc]
      rfl

theorem evalItems_eq_foldlM (apply : TemplateEval) {items : List Item}
    (others : ∀ item ∈ items, item.isInherit = false) :
    evalItems nested apply argument items =
      (items.foldlM (Accumulator.gather nested argument) .start).map Accumulator.value := by
  rw [evalItems, addItems_eq_foldlM .start others]
  show _ = (items.foldlM (Accumulator.gather nested argument) Progress.start.accumulator).map _
  cases items.foldlM (Accumulator.gather nested argument) Progress.start.accumulator <;> rfl

theorem foldlM_gather_others (acc : Accumulator) (items : List Item) :
    (items.filter (!·.isTemplate)).foldlM (Accumulator.gather nested argument) acc =
      items.foldlM (Accumulator.gather nested argument) acc := by
  induction items generalizing acc with
  | nil => rfl
  | cons item rest ih =>
    cases isTemplate : item.isTemplate with
    | false =>
      rw [List.filter_cons_of_pos (by rw [isTemplate]; rfl), List.foldlM_cons, List.foldlM_cons]
      exact congrArg _ (funext fun next => ih next)
    | true =>
      rw [List.filter_cons_of_neg (by rw [isTemplate]; decide), List.foldlM_cons]
      obtain ⟨key, value, mark, span, rfl⟩ := Item.eq_tagged_of_isTemplate isTemplate
      exact ih acc

end content

theorem evalDocument_of_templates_moved {argument : Option Value} {items items' : List Item}
    (moved : TemplatesMoved items items') (noParent : ∀ item ∈ items, item.isInherit = false)
    (names : NamesApart argument items) (limit : Nat) :
    evalDocument limit argument items = evalDocument limit argument items' := by
  obtain ⟨nodup, declared⟩ := names.declared
  obtain ⟨_, declared'⟩ := (names.perm moved.all).declared
  have same := Entries.get?_perm (moved.all.filterMap (declaration? argument)) nodup
  have noParent' : ∀ item ∈ items', item.isInherit = false :=
    fun item member => noParent item (moved.all.mem_iff.2 member)
  rw [evalDocument, evalDocument, declared, declared']
  show evalItems _ _ argument items = evalItems _ _ argument items'
  rw [evalItems_eq_foldlM _ noParent, evalItems_eq_foldlM _ noParent',
    (evaluation_congr same limit limit).1, ← foldlM_gather_others, moved.others,
    foldlM_gather_others]

end Eval

namespace Document

open Eval

/-- The position of templates does not matter. Of two documents one has the items of the other, and
all but the templates in the same order; no `@from` is at the top level, and the templates have
different names. They come to the same value, with its keys in the same order, or to the same
error, which is the same but for its span in any document that has these items at other spans. -/
theorem evaluate_of_templates_moved {document document' : Document} {argument : Option Value}
    (moved : TemplatesMoved document.items document'.items)
    (noParent : ∀ item ∈ document.items, item.isInherit = false)
    (names : NamesApart argument document.items) (limit : Nat) :
    document.evaluate limit argument = document'.evaluate limit argument ∧
      ∀ reread : Document,
        Redaction.unplaced.items reread.items = Redaction.unplaced.items document'.items →
          (document.evaluate limit argument).mapError (·.mapSpan Redaction.unplaced.span) =
            (reread.evaluate limit argument).mapError (·.mapSpan Redaction.unplaced.span) := by
  have same : document.evaluate limit argument = document'.evaluate limit argument :=
    evalDocument_of_templates_moved moved noParent names limit
  constructor
  · exact same
  · intro reread items
    rw [same]
    exact ((alike_of_items items).evaluate limit argument).symm

/-- The template `t` is made from `u`, whose name is read from the argument. Both are declared behind
the block that is made from `t`, and then in the other order around it; there, the last entry has
another span. -/
theorem evaluate_of_templates_moved_around :
    let inherit (name : String) : Item := .inherit ⟨[name], default⟩ default
    let declare (key : Key) (items : List Item) : Item :=
      .tagged key (.block items default) (some default) default
    let read : Key := .multiline [.strings ⟨[.placeholder ⟨["name"], default⟩], default⟩] default
    let leaf (span : Span) : Item := .tagged (.simple "x" span) (.text "1" span) none span
    let t := declare (.simple "t" default) [inherit "u", leaf default]
    let u := declare read [.spread ⟨[], default⟩]
    let made : Item := .tagged (.simple "a" default) (.block [inherit "t"] default) none default
    let argument : Option Value := some (.map [("name", .string "u")])
    let document : Document := ⟨[made, leaf default, t, u], default, .single "" ""⟩
    let document' : Document := ⟨[u, made, t, leaf default], default, .single "" ""⟩
    let reread : Document := ⟨[u, made, t, leaf ⟨1, default⟩], default, .single "" ""⟩
    TemplatesMoved document.items document'.items ∧
      (∀ item ∈ document.items, item.isInherit = false) ∧ NamesApart argument document.items ∧
      document'.evaluate 5 argument =
        .ok (some (.map [("a", .map [("x", .string "1")]), ("x", .string "1")])) ∧
      (document.evaluate 5 argument).mapError (·.mapSpan Redaction.unplaced.span) =
        (reread.evaluate 5 argument).mapError (·.mapSpan Redaction.unplaced.span) := by
  intro inherit declare read leaf t u made argument document document' reread
  have moved : TemplatesMoved document.items document'.items := by
    have front : ([made, leaf default, t] ++ [u]).Perm ([u] ++ [made, leaf default, t]) :=
      List.perm_append_comm
    exact ⟨front.trans (((List.Perm.swap t (leaf default) []).cons made).cons u), rfl⟩
  have noParent : ∀ item ∈ document.items, item.isInherit = false := by decide
  have names : NamesApart argument document.items := by
    constructor
    · intro key member
      rcases List.mem_cons.1 member with rfl | later
      · exact ⟨"t", rfl⟩
      · rw [List.mem_singleton.1 later]
        exact ⟨"u", rfl⟩
    · decide
  have evaluated : document.evaluate 5 argument =
      .ok (some (.map [("a", .map [("x", .string "1")]), ("x", .string "1")])) := rfl
  obtain ⟨same, alike⟩ := evaluate_of_templates_moved moved noParent names 5
  exact ⟨moved, noParent, names, same.symm.trans evaluated, alike reread rfl⟩

end Document

end ConfigLang
