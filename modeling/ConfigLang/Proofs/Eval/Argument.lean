import ConfigLang.Proofs.Eval.Items
/-! What a document reads of its argument. Texts and keys read it through the paths of their
placeholders and a spread through its own path, so arguments that hold the same under these
paths are the same to them. -/
namespace ConfigLang

def StringElement.path? : StringElement → Option Path
  | placeholder path => some path
  | _ => none

def StringLine.paths (line : StringLine) : List Path := line.elements.filterMap StringElement.path?

def Key.paths : Key → List Path
  | simple _ _ => []
  | multiline lines _ => (Eval.stringLines lines).flatMap StringLine.paths

mutual

def ValueNode.paths : ValueNode → List Path
  | .text _ _ => []
  | .block items _ => pathsOf items
  | .strings lines _ => lines.flatMap StringLine.paths

def Item.paths : Item → List Path
  | .blank _ => []
  | .comment _ => []
  | .inherit _ _ => []
  | .tagged key value _ _ => key.paths ++ value.paths
  | .untagged value _ => value.paths
  | .strings line => line.paths
  | .spread path => [path]

def pathsOf : List Item → List Path
  | [] => []
  | item :: rest => item.paths ++ pathsOf rest

end

/-- The paths of an item without those in the body of a template that it declares. -/
def Item.outerPaths : Item → List Path
  | .tagged key _ (some _) _ => key.paths
  | item => item.paths

def Document.outerPaths (document : Document) : List Path :=
  document.items.flatMap Item.outerPaths

theorem Item.outerPaths_subset (item : Item) : item.outerPaths ⊆ item.paths := by
  unfold outerPaths
  split
  · rw [paths]
    exact List.subset_append_left _ _
  · exact List.Subset.refl _

theorem outerPaths_subset (items : List Item) : items.flatMap Item.outerPaths ⊆ pathsOf items := by
  induction items with
  | nil => exact List.nil_subset _
  | cons item rest ih =>
    rw [List.flatMap_cons, pathsOf]
    intro path member
    rcases List.mem_append.1 member with here | later
    · exact List.mem_append_left _ (item.outerPaths_subset here)
    · exact List.mem_append_right _ (ih later)

/-- Two arguments hold the same under a path, or both hold nothing. Without an argument there is
nothing under any path, the empty one included. -/
def HoldSame (a b : Option Value) (path : Path) : Prop :=
  a.bind (Value.select? path.components) = b.bind (Value.select? path.components)

instance (a b : Option Value) (path : Path) : Decidable (HoldSame a b path) :=
  inferInstanceAs (Decidable (_ = _))

def SameOn (a b : Option Value) (paths : List Path) : Prop := ∀ path ∈ paths, HoldSame a b path

section same

variable {a b : Option Value}

theorem SameOn.refl (a : Option Value) (paths : List Path) : SameOn a a paths := fun _ _ => rfl

theorem SameOn.mono {few many : List Path} (same : SameOn a b many) (some : few ⊆ many) :
    SameOn a b few :=
  fun path member => same path (some member)

theorem sameOn_append {xs ys : List Path} :
    SameOn a b (xs ++ ys) ↔ SameOn a b xs ∧ SameOn a b ys :=
  List.forall_mem_append

namespace Eval

theorem lookup_congr {path : Path} (same : HoldSame a b path) : lookup a path = lookup b path := by
  unfold lookup
  rw [same]

theorem placeholderText_congr {path : Path} (same : HoldSame a b path) :
    placeholderText a path = placeholderText b path := by
  unfold placeholderText
  rw [lookup_congr same]

theorem eq_of_holdSame {path : Path} (same : HoldSame a b path) (whole : path.components = []) :
    a = b := by
  have everything : Value.select? path.components = some := by
    funext value
    rw [whole, Value.select?]
  unfold HoldSame at same
  rwa [everything, Option.bind_fun_some, Option.bind_fun_some] at same

theorem spreadValue_congr {path : Path} (same : HoldSame a b path) :
    spreadValue a path = spreadValue b path := by
  by_cases whole : path.components = []
  · rw [eq_of_holdSame same whole]
  · have named : path.components.isEmpty = false := List.isEmpty_eq_false_iff.2 whole
    unfold spreadValue
    rw [named, lookup_congr same]
    rfl

theorem appendElements_congr {elements : List StringElement}
    (same : SameOn a b (elements.filterMap StringElement.path?)) (text : String)
    (breakDue : Bool) :
    appendElements a text breakDue elements = appendElements b text breakDue elements := by
  induction elements generalizing text breakDue with
  | nil => rfl
  | cons element rest ih =>
    cases element with
    | literal piece span => exact ih same _ _
    | plus span => exact ih same _ _
    | placeholder path =>
      have here : HoldSame a b path := same path List.mem_cons_self
      have later : SameOn a b (rest.filterMap StringElement.path?) :=
        fun other member => same other (List.mem_cons_of_mem _ member)
      rw [appendElements, appendElements, placeholderText_congr here]
      congr 1
      funext piece
      exact ih later _ _

theorem joinLines_congr {lines : List StringLine}
    (same : SameOn a b (lines.flatMap StringLine.paths)) : joinLines a lines = joinLines b lines := by
  suffices whole : ∀ text breakDue,
      appendLines a text breakDue lines = appendLines b text breakDue lines from whole "" false
  induction lines with
  | nil => exact fun _ _ => rfl
  | cons line rest ih =>
    intro text breakDue
    rw [List.flatMap_cons, sameOn_append] at same
    obtain ⟨here, later⟩ := same
    rw [appendLines, appendLines, appendElements_congr here]
    congr 1
    funext text
    exact ih later _ _

theorem keyText_congr {key : Key} (same : SameOn a b key.paths) : keyText a key = keyText b key := by
  cases key with
  | simple text span => rfl
  | multiline lines span => exact joinLines_congr same

theorem appendLine_congr {line : StringLine} (same : SameOn a b line.paths) (acc : Accumulator) :
    acc.appendLine a line = acc.appendLine b line := by
  unfold Accumulator.appendLine
  split
  · rw [appendElements_congr same]
  · rfl

theorem spread_congr {path : Path} (same : HoldSame a b path) (acc : Accumulator) :
    acc.spread a path = acc.spread b path := by
  unfold Accumulator.spread
  rw [spreadValue_congr same]

theorem rejectTemplates_congr {items : List Item}
    (same : SameOn a b (items.flatMap Item.outerPaths)) :
    rejectTemplates a items = rejectTemplates b items := by
  induction items with
  | nil => rfl
  | cons item rest ih =>
    rw [List.flatMap_cons, sameOn_append] at same
    obtain ⟨here, later⟩ := same
    cases item with
    | tagged key value template span =>
      cases template with
      | none => exact ih later
      | some mark => rw [rejectTemplates, rejectTemplates, keyText_congr here]
    | _ => exact ih later

theorem declare_congr {items : List Item} (same : SameOn a b (items.flatMap Item.outerPaths))
    (templates : Templates) : declare a templates items = declare b templates items := by
  induction items generalizing templates with
  | nil => rfl
  | cons item rest ih =>
    rw [List.flatMap_cons, sameOn_append] at same
    obtain ⟨here, later⟩ := same
    cases item with
    | tagged key value template span =>
      cases template with
      | none => exact ih later templates
      | some mark =>
        rw [declare, declare, keyText_congr here]
        congr 1
        funext name
        exact ih later _
    | _ => exact ih later templates

end Eval

end same

end ConfigLang
