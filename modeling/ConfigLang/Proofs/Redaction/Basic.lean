import ConfigLang.Document
import ConfigLang.Syntax.Outline
/-! Redactions of a syntax tree. A redaction moves the span of every node and may leave out blank
lines and comments; all texts stay as they are. The outline of what is left is that of the tree,
less the entries of what is left out. -/
namespace ConfigLang

structure Redaction where
  /-- Where a span is moved to. -/
  span : Span → Span
  /-- Whether blank lines and comments stay. -/
  keepsTrivia : Bool

def Item.isTrivia : Item → Bool
  | .blank _ => true
  | .comment _ => true
  | _ => false

def KeyLine.isTrivia : KeyLine → Bool
  | .comment _ => true
  | .strings _ => false

def OutlineEntry.isTrivia (entry : OutlineEntry) : Bool :=
  ["blankLine", "comment", "keyComment"].contains entry.label

namespace Redaction

def bare : Redaction := ⟨id, false⟩

/-- Nothing is left out, but no node knows its span any more. -/
def unplaced : Redaction := ⟨fun _ => default, true⟩

variable (redaction : Redaction)

def keeps (item : Item) : Bool := redaction.keepsTrivia || !item.isTrivia

def keepsLine (line : KeyLine) : Bool := redaction.keepsTrivia || !line.isTrivia

def path (path : Path) : Path := ⟨path.components, redaction.span path.span⟩

def element : StringElement → StringElement
  | .literal text span => .literal text (redaction.span span)
  | .placeholder path => .placeholder (redaction.path path)
  | .plus span => .plus (redaction.span span)

def line (line : StringLine) : StringLine :=
  ⟨line.elements.map redaction.element, redaction.span line.span⟩

def comment (comment : Comment) : Comment := ⟨comment.text, redaction.span comment.span⟩

def keyLine : KeyLine → KeyLine
  | .comment comment => .comment (redaction.comment comment)
  | .strings line => .strings (redaction.line line)

def keyLines (lines : List KeyLine) : List KeyLine :=
  (lines.filter redaction.keepsLine).map redaction.keyLine

def key : Key → Key
  | .simple text span => .simple text (redaction.span span)
  | .multiline lines span => .multiline (redaction.keyLines lines) (redaction.span span)

mutual

def node (redaction : Redaction) : ValueNode → ValueNode
  | .text text span => .text text (redaction.span span)
  | .block items span => .block (redaction.items items) (redaction.span span)
  | .strings lines span => .strings (lines.map redaction.line) (redaction.span span)

def item (redaction : Redaction) : Item → Item
  | .blank span => .blank (redaction.span span)
  | .comment comment => .comment (redaction.comment comment)
  | .inherit path span => .inherit (redaction.path path) (redaction.span span)
  | .tagged key value template span =>
    .tagged (redaction.key key) (redaction.node value) (template.map redaction.span)
      (redaction.span span)
  | .untagged value span => .untagged (redaction.node value) (redaction.span span)
  | .strings line => .strings (redaction.line line)
  | .spread path => .spread (redaction.path path)

def items (redaction : Redaction) : List Item → List Item
  | [] => []
  | item :: rest =>
    if redaction.keeps item then redaction.item item :: redaction.items rest
    else redaction.items rest

end

def document (document : Document) : Document :=
  ⟨redaction.items document.items, redaction.span document.span, document.sources⟩

variable {redaction}

theorem items_cons_of_keeps {item : Item} (kept : redaction.keeps item = true)
    (rest : List Item) :
    redaction.items (item :: rest) = redaction.item item :: redaction.items rest := by
  simp [items, kept]

theorem items_cons_of_trivia {item : Item} (dropped : redaction.keeps item = false)
    (rest : List Item) : redaction.items (item :: rest) = redaction.items rest := by
  simp [items, dropped]

theorem isTrivia_of_keeps {item : Item} (dropped : redaction.keeps item = false) :
    item.isTrivia = true := by
  simp only [keeps, Bool.or_eq_false_iff, Bool.not_eq_false'] at dropped
  exact dropped.2

theorem items_eq_map (all : redaction.keepsTrivia = true) (items : List Item) :
    redaction.items items = items.map redaction.item := by
  induction items with
  | nil => simp [Redaction.items]
  | cons item rest ih => simp [Redaction.items, keeps, all, ih]

theorem keyLines_eq_map (all : redaction.keepsTrivia = true) (lines : List KeyLine) :
    redaction.keyLines lines = lines.map redaction.keyLine := by
  have kept : lines.filter redaction.keepsLine = lines :=
    List.filter_eq_self.2 fun line _ => by simp [keepsLine, all]
  rw [keyLines, kept]

section outline

variable (redaction)

def entry (entry : OutlineEntry) : OutlineEntry := ⟨entry.label, redaction.span entry.span⟩

def outline (entries : List OutlineEntry) : List OutlineEntry :=
  (entries.filter fun entry => redaction.keepsTrivia || !entry.isTrivia).map redaction.entry

@[simp] theorem outline_nil : redaction.outline [] = [] := rfl

@[simp] theorem outline_append (front back : List OutlineEntry) :
    redaction.outline (front ++ back) = redaction.outline front ++ redaction.outline back := by
  simp [outline]

theorem outline_flatMap {α : Type} (f : α → List OutlineEntry) (xs : List α) :
    redaction.outline (xs.flatMap f) = xs.flatMap fun x => redaction.outline (f x) := by
  induction xs with
  | nil => rfl
  | cons x xs ih => simp [ih]

theorem outline_cons (entry : OutlineEntry) (kept : entry.isTrivia = false)
    (rest : List OutlineEntry) :
    redaction.outline (entry :: rest) = redaction.entry entry :: redaction.outline rest := by
  simp [outline, kept]

theorem isTrivia_path (text : String) (span : Span) :
    OutlineEntry.isTrivia ⟨"path " ++ text, span⟩ = false := by
  have differs (label : String) (other : label.toList.head? ≠ some 'p') :
      ¬ "path " ++ text = label := by
    rintro rfl
    simp at other
  have blank := differs "blankLine" (by decide)
  have comment := differs "comment" (by decide)
  have keyComment := differs "keyComment" (by decide)
  simp [OutlineEntry.isTrivia, blank, comment, keyComment]

theorem outline_path (path : Path) :
    redaction.outline path.outline = (redaction.path path).outline :=
  outline_cons redaction _ (isTrivia_path path.display path.span) []

theorem outline_element (element : StringElement) :
    redaction.outline element.outline = (redaction.element element).outline := by
  cases element with
  | literal text span => exact outline_cons redaction ⟨"stringLiteral", span⟩ rfl []
  | plus span => exact outline_cons redaction ⟨"plus", span⟩ rfl []
  | placeholder path =>
    have rest := outline_cons redaction ⟨"placeholder", path.span⟩ rfl path.outline
    rw [outline_path] at rest
    exact rest

theorem isPlus_element (element : StringElement) :
    (redaction.element element).isPlus = element.isPlus := by
  cases element <;> rfl

theorem endsWithPlus_line (line : StringLine) :
    (redaction.line line).endsWithPlus = line.endsWithPlus := by
  simp [StringLine.endsWithPlus, Redaction.line, Option.any_map, isPlus_element]

theorem outline_line (label : String)
    (plain : ∀ span, OutlineEntry.isTrivia ⟨label, span⟩ = false)
    (plus : ∀ span, OutlineEntry.isTrivia ⟨label ++ "+", span⟩ = false) (line : StringLine) :
    redaction.outline (line.outline label) = (redaction.line line).outline label := by
  have kept : OutlineEntry.isTrivia
      ⟨if line.endsWithPlus then label ++ "+" else label, line.span⟩ = false := by
    split
    · exact plus _
    · exact plain _
  have elements : (redaction.line line).elements.flatMap StringElement.outline =
      line.elements.flatMap fun element => redaction.outline element.outline := by
    simp [Redaction.line, List.flatMap_map, outline_element]
  rw [StringLine.outline, StringLine.outline, outline_cons _ _ kept, outline_flatMap, elements,
    endsWithPlus_line]
  rfl

theorem outline_keyLine (line : KeyLine) :
    redaction.outline line.outline =
      if redaction.keepsLine line then (redaction.keyLine line).outline else [] := by
  cases line with
  | strings line =>
    have kept : redaction.keepsLine (.strings line) = true := by simp [keepsLine, KeyLine.isTrivia]
    rw [if_pos kept]
    exact outline_line redaction "keyLine" (fun _ => rfl) (fun _ => rfl) line
  | comment comment =>
    cases kept : redaction.keepsTrivia with
    | true =>
      simp [outline, keepsLine, KeyLine.outline, kept]
      rfl
    | false =>
      simp [outline, keepsLine, KeyLine.outline, KeyLine.isTrivia, OutlineEntry.isTrivia, kept]

theorem outline_keyLines (lines : List KeyLine) :
    redaction.outline (lines.flatMap KeyLine.outline) =
      (redaction.keyLines lines).flatMap KeyLine.outline := by
  induction lines with
  | nil => rfl
  | cons line lines ih =>
    rw [List.flatMap_cons, outline_append, ih, outline_keyLine]
    cases kept : redaction.keepsLine line <;> simp [keyLines, kept]

theorem outline_key (key : Key) : redaction.outline key.outline = (redaction.key key).outline := by
  cases key with
  | simple text span => exact outline_cons redaction ⟨"simpleKey", span⟩ rfl []
  | multiline lines span =>
    have rest := outline_cons redaction ⟨"multilineKey", span⟩ rfl (lines.flatMap KeyLine.outline)
    rw [outline_keyLines] at rest
    exact rest

mutual

theorem outline_node (node : ValueNode) :
    redaction.outline node.outline = (redaction.node node).outline := by
  cases node with
  | text text span =>
    rw [ValueNode.outline, Redaction.node, ValueNode.outline]
    exact outline_cons redaction ⟨"simpleString", span⟩ rfl []
  | block items span =>
    rw [ValueNode.outline, Redaction.node, ValueNode.outline, outline_cons _ _ rfl,
      outline_items items]
    rfl
  | strings lines span =>
    have line := outline_line redaction "stringLine" (fun _ => rfl) (fun _ => rfl)
    rw [ValueNode.outline, Redaction.node, ValueNode.outline, outline_cons _ _ rfl, outline_flatMap]
    simp [line, List.flatMap_map]
    rfl

theorem outline_item (item : Item) :
    redaction.outline item.outline =
      if redaction.keeps item then (redaction.item item).outline else [] := by
  cases item with
  | blank span =>
    cases kept : redaction.keepsTrivia with
    | true =>
      simp [outline, keeps, Item.outline, Redaction.item, kept]
      rfl
    | false => simp [outline, keeps, Item.outline, Item.isTrivia, OutlineEntry.isTrivia, kept]
  | comment comment =>
    cases kept : redaction.keepsTrivia with
    | true =>
      simp [outline, keeps, Item.outline, Redaction.item, kept]
      rfl
    | false => simp [outline, keeps, Item.outline, Item.isTrivia, OutlineEntry.isTrivia, kept]
  | inherit path span =>
    rw [Item.outline, Redaction.item, Item.outline, outline_cons _ _ rfl, outline_path]
    simp [keeps, Item.isTrivia, entry]
  | spread path =>
    rw [Item.outline, Redaction.item, Item.outline, outline_cons _ _ rfl, outline_path]
    simp [keeps, Item.isTrivia, entry, Redaction.path]
  | tagged key value template span =>
    have mark : redaction.outline (template.map (OutlineEntry.mk "templateAnnotation")).toList =
        ((template.map redaction.span).map (OutlineEntry.mk "templateAnnotation")).toList := by
      cases template with
      | none => rfl
      | some mark => exact outline_cons redaction ⟨"templateAnnotation", mark⟩ rfl []
    rw [Item.outline, Redaction.item, Item.outline, List.cons_append, List.cons_append,
      outline_cons _ _ rfl, outline_append, outline_append, mark, outline_key, outline_node value]
    simp [keeps, Item.isTrivia, entry]
  | untagged value span =>
    rw [Item.outline, Redaction.item, Item.outline, outline_cons _ _ rfl, outline_node value]
    simp [keeps, Item.isTrivia, entry]
  | strings line =>
    rw [Item.outline, Redaction.item, Item.outline,
      outline_line redaction "line*" (fun _ => rfl) (fun _ => rfl)]
    simp [keeps, Item.isTrivia]

theorem outline_items (items : List Item) :
    redaction.outline (Item.listOutline items) = Item.listOutline (redaction.items items) := by
  cases items with
  | nil => simp [Item.listOutline, Redaction.items]
  | cons item items =>
    rw [Item.listOutline, outline_append, outline_item item, outline_items items, Redaction.items]
    cases kept : redaction.keeps item <;> simp [Item.listOutline]

end

end outline

end Redaction

namespace Error

def mapSpan (move : Span → Span) : Error → Error
  | unexpectedCharacter found mode span => unexpectedCharacter found mode (move span)
  | invalidStringLiteral reason span => invalidStringLiteral reason (move span)
  | unexpectedEnd expected span => unexpectedEnd expected (move span)
  | unexpectedToken found expected span => unexpectedToken found expected (move span)
  | unknownDirective name span => unknownDirective name (move span)
  | misplacedSpread span => misplacedSpread (move span)
  | incompatibleContent block item span => incompatibleContent block item (move span)
  | fromAfterContent span => fromAfterContent (move span)
  | nestedTemplate name span => nestedTemplate name (move span)
  | noSuchTemplate path span => noSuchTemplate path (move span)
  | missingPlaceholder path span => missingPlaceholder path (move span)
  | placeholderNotString path shape span => placeholderNotString path shape (move span)
  | emptyPlaceholder path span => emptyPlaceholder path (move span)
  | incompatibleMerge conflict span => incompatibleMerge conflict (move span)
  | nestingTooDeep limit span => nestingTooDeep limit (move span)
  | invalidArgument path reason => invalidArgument path reason
  | unreadableFile reason => unreadableFile reason

@[simp] theorem mapSpan_id (error : Error) : error.mapSpan id = error := by
  cases error <;> rfl

end Error

/-- Two runs end alike: with results that are related, or with the same error, its span moved. -/
def Mirrors (move : Span → Span) {α β : Type} (R : α → β → Prop) :
    Except Error α → Except Error β → Prop
  | .ok a, .ok b => R a b
  | .error e, .error e' => e' = e.mapSpan move
  | _, _ => False

namespace Mirrors

variable {move : Span → Span} {α β γ δ : Type} {R : α → β → Prop} {S : γ → δ → Prop}
  {x : Except Error α} {y : Except Error β}

theorem outcomes (mirrors : Mirrors move R x y) :
    (∃ a b, x = .ok a ∧ y = .ok b ∧ R a b) ∨
      ∃ e, x = .error e ∧ y = .error (e.mapSpan move) := by
  cases x with
  | error e =>
    cases y with
    | error e' => exact .inr ⟨e, rfl, congrArg Except.error mirrors⟩
    | ok b => cases mirrors
  | ok a =>
    cases y with
    | error e' => cases mirrors
    | ok b => exact .inl ⟨a, b, rfl, rfl, mirrors⟩

theorem bind {f : α → Except Error γ} {g : β → Except Error δ} (here : Mirrors move R x y)
    (later : ∀ a b, R a b → Mirrors move S (f a) (g b)) : Mirrors move S (x >>= f) (y >>= g) := by
  obtain ⟨a, b, rfl, rfl, related⟩ | ⟨e, rfl, rfl⟩ := here.outcomes
  · exact later a b related
  · exact rfl

theorem bind_eq {f : α → Except Error γ} {g : α → Except Error δ} {y : Except Error α}
    (here : Mirrors move Eq x y) (later : ∀ a, Mirrors move S (f a) (g a)) :
    Mirrors move S (x >>= f) (y >>= g) :=
  here.bind fun a _ same => same ▸ later a

theorem map_eq {y : Except Error α} (mirrors : Mirrors move Eq x y) (f : α → γ) :
    Mirrors move Eq (x.map f) (y.map f) := by
  obtain ⟨a, _, rfl, rfl, rfl⟩ | ⟨e, rfl, rfl⟩ := mirrors.outcomes
  · exact (rfl : f a = f a)
  · exact rfl

theorem map_right {f : α → β} (mirrors : Mirrors move (fun a b => b = f a) x y) (g : β → γ) :
    Mirrors move (fun a c => c = g (f a)) x (y.map g) := by
  obtain ⟨a, _, rfl, rfl, rfl⟩ | ⟨e, rfl, rfl⟩ := mirrors.outcomes
  · exact (rfl : g (f a) = g (f a))
  · exact rfl

theorem toOption_eq {y : Except Error α} (mirrors : Mirrors move Eq x y) :
    x.toOption = y.toOption := by
  obtain ⟨a, _, rfl, rfl, rfl⟩ | ⟨e, rfl, rfl⟩ := mirrors.outcomes <;> rfl

theorem toOption_map {f : α → β} (mirrors : Mirrors move (fun a b => b = f a) x y) :
    y.toOption = x.toOption.map f := by
  obtain ⟨a, _, rfl, rfl, rfl⟩ | ⟨e, rfl, rfl⟩ := mirrors.outcomes <;> rfl

theorem eq_mapError {y : Except Error α} (mirrors : Mirrors move Eq x y) :
    y = x.mapError (·.mapSpan move) := by
  obtain ⟨a, _, rfl, rfl, rfl⟩ | ⟨e, rfl, rfl⟩ := mirrors.outcomes <;> rfl

end Mirrors

end ConfigLang
