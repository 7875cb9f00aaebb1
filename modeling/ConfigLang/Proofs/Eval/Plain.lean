import ConfigLang.Proofs.Eval.Argument
/-! Plain content: no placeholder, no spread, no `@from` and no template, however deep. Neither
the argument nor the templates matter to it. The limit does, but only as long as it is too
low: two evaluations of plain content agree unless one of them gives up. -/
namespace ConfigLang

def StringElement.isPlain : StringElement → Bool
  | placeholder _ => false
  | _ => true

def StringLine.isPlain (line : StringLine) : Bool := line.elements.all StringElement.isPlain

def KeyLine.isPlain : KeyLine → Bool
  | comment _ => true
  | strings line => line.isPlain

def Key.isPlain : Key → Bool
  | simple _ _ => true
  | multiline lines _ => lines.all KeyLine.isPlain

mutual

def ValueNode.isPlain : ValueNode → Bool
  | .text _ _ => true
  | .block items _ => arePlain items
  | .strings lines _ => lines.all StringLine.isPlain

def Item.isPlain : Item → Bool
  | .blank _ => true
  | .comment _ => true
  | .inherit _ _ => false
  | .tagged key value none _ => key.isPlain && value.isPlain
  | .tagged _ _ (some _) _ => false
  | .untagged value _ => value.isPlain
  | .strings line => line.isPlain
  | .spread _ => false

def arePlain : List Item → Bool
  | [] => true
  | item :: rest => item.isPlain && arePlain rest

end

theorem isPlain_of_mem {items : List Item} (plain : arePlain items = true) :
    ∀ item ∈ items, item.isPlain = true := by
  induction items with
  | nil => exact nofun
  | cons item rest ih =>
    rw [arePlain, Bool.and_eq_true] at plain
    exact List.forall_mem_cons.2 ⟨plain.1, ih plain.2⟩

theorem Item.isTemplate_of_isPlain {item : Item} (plain : item.isPlain = true) :
    item.isTemplate = false := by
  unfold isTemplate
  split
  · cases plain
  · rfl

theorem Item.isInherit_of_isPlain {item : Item} (plain : item.isPlain = true) :
    item.isInherit = false := by
  unfold isInherit
  split
  · cases plain
  · rfl

section texts

variable (a b : Option Value)

theorem StringLine.paths_of_isPlain {line : StringLine} (plain : line.isPlain = true) :
    line.paths = [] := by
  refine List.filterMap_eq_nil_iff.2 fun element member => ?_
  have here : element.isPlain = true := List.all_eq_true.1 plain element member
  cases element with
  | placeholder path => cases here
  | literal text span | plus span => rfl

theorem sameOn_lines_of_isPlain {lines : List StringLine}
    (plain : ∀ line ∈ lines, line.isPlain = true) :
    SameOn a b (lines.flatMap StringLine.paths) := by
  have none : lines.flatMap StringLine.paths = [] :=
    List.flatMap_eq_nil_iff.2 fun line member => StringLine.paths_of_isPlain (plain line member)
  rw [none]
  exact nofun

theorem sameOn_key_of_isPlain {key : Key} (plain : key.isPlain = true) : SameOn a b key.paths := by
  cases key with
  | simple text span => exact nofun
  | multiline lines span =>
    refine sameOn_lines_of_isPlain a b fun line member => ?_
    obtain ⟨keyLine, there, same⟩ := List.mem_filterMap.1 member
    have here : keyLine.isPlain = true := List.all_eq_true.1 plain keyLine there
    cases keyLine with
    | comment comment => cases same
    | strings line =>
      cases same
      exact here

end texts

namespace Eval

def Agree {α : Type} (x y : Except Error α) : Prop := TooDeep x ∨ TooDeep y ∨ x = y

theorem Agree.refl {α : Type} (x : Except Error α) : Agree x x := .inr (.inr rfl)

theorem Agree.bind {α β : Type} {x y : Except Error α} {f g : α → Except Error β}
    (here : Agree x y) (later : ∀ value, x = .ok value → Agree (f value) (g value)) :
    Agree (x >>= f) (y >>= g) := by
  rcases here with deep | deep | rfl
  · exact .inl (deep.bind f)
  · exact .inr (.inl (deep.bind g))
  · cases x with
    | error e => exact .refl _
    | ok value => exact later value rfl

section evaluation

variable (templates templates' : Templates) (limit limit' : Nat) (argument argument' : Option Value)

mutual

theorem agree_evalNode : (node : ValueNode) → node.isPlain = true → (depth depth' : Nat) →
    Agree (evalNode templates limit depth node argument)
      (evalNode templates' limit' depth' node argument')
  | .text text span, _, depth, depth' => by
    rw [evalNode, evalNode]
    exact .refl _
  | .strings lines span, plain, depth, depth' => by
    have same := sameOn_lines_of_isPlain argument argument' (List.all_eq_true.1 plain)
    rw [evalNode, evalNode, joinLines_congr same]
    exact .refl _
  | .block items span, _, 0, depth' => .inl ⟨limit, span, by rw [evalNode]⟩
  | .block items span, _, depth + 1, 0 => .inr (.inl ⟨limit', span, by rw [evalNode]⟩)
  | .block items span, plain, depth + 1, depth' + 1 => by
    have each := isPlain_of_mem plain
    have noTemplate := fun item member => Item.isTemplate_of_isPlain (each item member)
    have noFrom := fun item member => Item.isInherit_of_isPlain (each item member)
    rw [evalNode_block noTemplate, evalNode_block noTemplate]
    refine (agree_addItems items plain .start depth depth').bind fun progress added => ?_
    rw [parent_addItems noFrom added]
    exact .refl _

theorem agree_addItem : (item : Item) → item.isPlain = true → (progress : Progress) →
    (depth depth' : Nat) →
    Agree (addItem (evalNode templates limit depth) argument progress item)
      (addItem (evalNode templates' limit' depth') argument' progress item)
  | .blank _, _, _, _, _ => .refl _
  | .comment _, _, _, _, _ => .refl _
  | .tagged key value none span, plain, progress, depth, depth' => by
    rw [Item.isPlain, Bool.and_eq_true] at plain
    simp only [addItem, keyText_congr (sameOn_key_of_isPlain argument argument' plain.1)]
    refine (Agree.refl _).bind fun locked _ => ?_
    refine (Agree.refl _).bind fun name _ => ?_
    exact (agree_evalNode value plain.2 depth depth').bind fun value _ => .refl _
  | .untagged value span, plain, progress, depth, depth' => by
    refine (Agree.refl _).bind fun locked _ => ?_
    exact (agree_evalNode value plain depth depth').bind fun value _ => .refl _
  | .strings line, plain, progress, depth, depth' => by
    have same : SameOn argument argument' line.paths := by
      rw [StringLine.paths_of_isPlain plain]
      exact nofun
    simp only [addItem, appendLine_congr same]
    exact .refl _

theorem agree_addItems : (items : List Item) → arePlain items = true → (progress : Progress) →
    (depth depth' : Nat) →
    Agree (addItems (evalNode templates limit depth) argument progress items)
      (addItems (evalNode templates' limit' depth') argument' progress items)
  | [], _, _, _, _ => .refl _
  | item :: rest, plain, progress, depth, depth' => by
    rw [arePlain, Bool.and_eq_true] at plain
    exact (agree_addItem item plain.1 progress depth depth').bind fun next _ =>
      agree_addItems rest plain.2 next depth depth'

end

end evaluation

end Eval
end ConfigLang
