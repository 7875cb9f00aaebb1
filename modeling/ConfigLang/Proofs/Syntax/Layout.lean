import ConfigLang.Document
import ConfigLang.Proofs.Source.Bounds
import ConfigLang.Syntax.Outline
/-! The layout of a syntax tree: the spans of its nodes, each with those of its parts. It is sound
in a source if every span lies there, around the spans of its parts, which stand one behind the
other, and if only what is made of whole lines ends in a line end. -/
namespace ConfigLang

inductive Layout
  /-- Whole lines: the document, or a blank line. -/
  | lines (span : Span) (parts : List Layout)
  | node (span : Span) (parts : List Layout)

namespace Layout

def span : Layout → Span
  | lines span _ => span
  | node span _ => span

def isNode : Layout → Bool
  | lines _ _ => false
  | node _ _ => true

def leaf (span : Span) : Layout := node span []

@[simp] theorem span_node (span : Span) (parts : List Layout) : (node span parts).span = span := rfl

@[simp] theorem span_leaf (span : Span) : (leaf span).span = span := rfl

@[simp] theorem isNode_node (span : Span) (parts : List Layout) : (node span parts).isNode = true :=
  rfl

@[simp] theorem isNode_leaf (span : Span) : (leaf span).isNode = true := rfl

mutual

def spans : Layout → List Span
  | lines span parts => span :: listSpans parts
  | node span parts => span :: listSpans parts

def listSpans : List Layout → List Span
  | [] => []
  | part :: parts => part.spans ++ listSpans parts

end

@[simp] theorem spans_leaf (span : Span) : (leaf span).spans = [span] := rfl

theorem listSpans_map {α : Type} (f : α → Layout) (xs : List α) :
    listSpans (xs.map f) = xs.flatMap fun x => (f x).spans := by
  induction xs with
  | nil => rfl
  | cons x xs ih => simp [listSpans, ih]

/-- Every span of the layout lies in the source, around the spans of the node's parts, which stand
in order and apart; a node, other than whole lines, does not end in a line end. -/
inductive Sound (source : List Char) : Layout → Prop
  | lines {span : Span} {parts : List Layout} (lies : span.Lies source)
      (inside : ∀ part ∈ parts, span.Covers part.span)
      (apart : parts.Pairwise fun part other => part.span.Before other.span)
      (sound : ∀ part ∈ parts, Sound source part) : Sound source (.lines span parts)
  | node {span : Span} {parts : List Layout} (lies : span.Lies source)
      (ends : span.range.stop.BehindText source)
      (inside : ∀ part ∈ parts, span.Covers part.span)
      (apart : parts.Pairwise fun part other => part.span.Before other.span)
      (sound : ∀ part ∈ parts, Sound source part) : Sound source (.node span parts)

variable {source : List Char} {layout : Layout}

theorem Sound.lies (sound : layout.Sound source) : layout.span.Lies source := by
  cases sound with
  | lines lies | node lies => exact lies

theorem Sound.ends (sound : layout.Sound source) (isNode : layout.isNode = true) :
    layout.span.range.stop.BehindText source := by
  cases sound with
  | lines => cases isNode
  | node _ ends => exact ends

theorem mem_listSpans {parts : List Layout} {span : Span} (member : span ∈ listSpans parts) :
    ∃ part ∈ parts, span ∈ part.spans := by
  induction parts with
  | nil => cases member
  | cons part parts ih =>
    rcases List.mem_append.1 member with here | behind
    · exact ⟨part, List.mem_cons_self, here⟩
    · obtain ⟨other, among, found⟩ := ih behind
      exact ⟨other, List.mem_cons_of_mem _ among, found⟩

theorem Sound.lies_of_mem_spans (sound : layout.Sound source) :
    ∀ span ∈ layout.spans, span.Lies source := by
  induction sound with
  | lines lies _ _ _ ih | node lies _ _ _ _ ih =>
    intro span member
    rcases List.mem_cons.1 member with rfl | behind
    · exact lies
    · obtain ⟨part, among, found⟩ := mem_listSpans behind
      exact ih part among span found

end Layout

def Path.layout (path : Path) : Layout := .leaf path.span

def StringElement.layout : StringElement → Layout
  | literal _ span => .leaf span
  | placeholder path => .node path.span [path.layout]
  | plus span => .leaf span

def StringLine.layout (line : StringLine) : Layout :=
  .node line.span (line.elements.map StringElement.layout)

def KeyLine.layout : KeyLine → Layout
  | comment c => .leaf c.span
  | strings line => line.layout

def Key.layout : Key → Layout
  | simple _ span => .leaf span
  | multiline lines span => .node span (lines.map KeyLine.layout)

mutual

def ValueNode.layout : ValueNode → Layout
  | .text _ span => .leaf span
  | .block items span => .node span (Item.layouts items)
  | .strings lines span => .node span (lines.map StringLine.layout)

def Item.layout : Item → Layout
  | .blank span => .lines span []
  | .comment comment => .leaf comment.span
  | .inherit path span => .node span [path.layout]
  | .tagged key value template span =>
    .node span ((template.map Layout.leaf).toList ++ [key.layout, value.layout])
  | .untagged value span => .node span [value.layout]
  | .strings line => line.layout
  | .spread path => .node path.span [path.layout]

def Item.layouts : List Item → List Layout
  | [] => []
  | item :: items => item.layout :: Item.layouts items

end

def Document.layout (document : Document) : Layout :=
  .lines document.span (Item.layouts document.items)

/-! A node's layout has the node's span, and the spans of a layout are those of the outline: no
node of the tree is left out. -/

@[simp] theorem Path.span_layout (path : Path) : path.layout.span = path.span := rfl

@[simp] theorem Path.isNode_layout (path : Path) : path.layout.isNode = true := rfl

@[simp] theorem StringElement.span_layout (element : StringElement) :
    element.layout.span = element.span := by
  cases element <;> rfl

theorem StringElement.map_span_layout (elements : List StringElement) :
    (elements.map layout).map Layout.span = elements.map span := by
  simp

@[simp] theorem StringElement.isNode_layout (element : StringElement) :
    element.layout.isNode = true := by
  cases element <;> rfl

@[simp] theorem StringLine.span_layout (line : StringLine) : line.layout.span = line.span := rfl

@[simp] theorem StringLine.isNode_layout (line : StringLine) : line.layout.isNode = true := rfl

@[simp] theorem Key.span_layout (key : Key) : key.layout.span = key.span := by
  cases key <;> rfl

@[simp] theorem Key.isNode_layout (key : Key) : key.layout.isNode = true := by
  cases key <;> rfl

@[simp] theorem ValueNode.span_layout (value : ValueNode) : value.layout.span = value.span := by
  cases value <;> simp [layout, span]

@[simp] theorem ValueNode.isNode_layout (value : ValueNode) : value.layout.isNode = true := by
  cases value <;> simp [layout]

theorem Path.spans_layout (path : Path) :
    path.layout.spans = path.outline.map OutlineEntry.span := rfl

theorem StringElement.spans_layout (element : StringElement) :
    element.layout.spans = element.outline.map OutlineEntry.span := by
  cases element <;> rfl

theorem StringLine.spans_layout (line : StringLine) (label : String) :
    line.layout.spans = (line.outline label).map OutlineEntry.span := by
  simp [layout, outline, Layout.spans, Layout.listSpans_map, List.map_flatMap,
    StringElement.spans_layout]

theorem KeyLine.spans_layout (line : KeyLine) :
    line.layout.spans = line.outline.map OutlineEntry.span := by
  cases line with
  | comment c => rfl
  | strings line => exact line.spans_layout _

theorem Key.spans_layout (key : Key) : key.layout.spans = key.outline.map OutlineEntry.span := by
  cases key with
  | simple text span => rfl
  | multiline lines span =>
    simp [layout, outline, Layout.spans, Layout.listSpans_map, List.map_flatMap,
      KeyLine.spans_layout]

mutual

theorem ValueNode.spans_layout (value : ValueNode) :
    value.layout.spans = value.outline.map OutlineEntry.span := by
  cases value with
  | text text span => simp [ValueNode.layout, ValueNode.outline]
  | block items span =>
    simp [ValueNode.layout, ValueNode.outline, Layout.spans, Item.listSpans_layouts items]
  | strings lines span =>
    simp [ValueNode.layout, ValueNode.outline, Layout.spans, Layout.listSpans_map,
      List.map_flatMap, StringLine.spans_layout _ "stringLine"]

theorem Item.spans_layout (item : Item) :
    item.layout.spans = item.outline.map OutlineEntry.span := by
  cases item with
  | blank span => simp [Item.layout, Item.outline, Layout.spans, Layout.listSpans]
  | comment comment => simp [Item.layout, Item.outline]
  | inherit path span | spread path =>
    simp [Item.layout, Item.outline, Layout.spans, Layout.listSpans, Path.spans_layout]
  | tagged key value template span =>
    cases template <;>
      simp [Item.layout, Item.outline, Layout.spans, Layout.listSpans, Key.spans_layout,
        ValueNode.spans_layout value]
  | untagged value span =>
    simp [Item.layout, Item.outline, Layout.spans, Layout.listSpans,
      ValueNode.spans_layout value]
  | strings line => simp [Item.layout, Item.outline, StringLine.spans_layout line "line*"]

theorem Item.listSpans_layouts (items : List Item) :
    Layout.listSpans (Item.layouts items) = (Item.listOutline items).map OutlineEntry.span := by
  cases items with
  | nil => simp [Item.layouts, Item.listOutline, Layout.listSpans]
  | cons item items =>
    simp [Item.layouts, Item.listOutline, Layout.listSpans, Item.spans_layout item,
      Item.listSpans_layouts items]

end

theorem Document.spans_layout (document : Document) :
    document.layout.spans =
      document.span :: (Item.listOutline document.items).map OutlineEntry.span := by
  simp [layout, Layout.spans, Item.listSpans_layouts]

theorem Document.outline_lies {source : List Char} {document : Document}
    (sound : document.layout.Sound source) :
    ∀ entry ∈ Item.listOutline document.items, entry.span.Lies source := by
  intro entry member
  apply sound.lies_of_mem_spans
  rw [document.spans_layout]
  exact List.mem_cons_of_mem _ (List.mem_map_of_mem member)

end ConfigLang
