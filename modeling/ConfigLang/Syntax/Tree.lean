import ConfigLang.Source.Span
/-! The syntax tree of a document. A document is a list of items, and so is each block in it.
Every node knows the span that it was read from. -/
namespace ConfigLang

structure Path where
  components : List String
  span : Span
  deriving Repr, DecidableEq

def Path.display (path : Path) : String :=
  if path.components.isEmpty then "*" else ".".intercalate path.components

inductive StringElement
  | literal (text : String) (span : Span)
  /-- The text that the argument holds under a path; its span is the path's. -/
  | placeholder (path : Path)
  /-- Joins its line to the one before or behind it. -/
  | plus (span : Span)
  deriving Repr, DecidableEq

def StringElement.span : StringElement → Span
  | literal _ span => span
  | placeholder path => path.span
  | plus span => span

def StringElement.isPlus : StringElement → Bool
  | plus _ => true
  | _ => false

structure StringLine where
  elements : List StringElement
  span : Span
  deriving Repr, DecidableEq

def StringLine.endsWithPlus (line : StringLine) : Bool :=
  line.elements.getLast?.any StringElement.isPlus

structure Comment where
  text : String
  span : Span
  deriving Repr, DecidableEq

inductive KeyLine
  | comment (comment : Comment)
  | strings (line : StringLine)
  deriving Repr, DecidableEq

inductive Key
  | simple (text : String) (span : Span)
  | multiline (lines : List KeyLine) (span : Span)
  deriving Repr, DecidableEq

def Key.span : Key → Span
  | simple _ span => span
  | multiline _ span => span

mutual

inductive ValueNode
  /-- The rest of the line, word for word. -/
  | text (text : String) (span : Span)
  | block (items : List Item) (span : Span)
  | strings (lines : List StringLine) (span : Span)

inductive Item
  | blank (span : Span)
  | comment (comment : Comment)
  /-- `@from path`: the block is made from a template. -/
  | inherit (path : Path) (span : Span)
  /-- `[key] value`: an entry, or a template if it is marked as one; the mark has a span. -/
  | tagged (key : Key) (value : ValueNode) (template : Option Span) (span : Span)
  | untagged (value : ValueNode) (span : Span)
  | strings (line : StringLine)
  /-- `<<path.*>>` alone on a line: all that the argument holds under a path. -/
  | spread (path : Path)

end

instance : Inhabited Item := ⟨.blank default⟩

instance : Inhabited ValueNode := ⟨.text "" default⟩

def ValueNode.span : ValueNode → Span
  | text _ span => span
  | block _ span => span
  | strings _ span => span

namespace Item

def span : Item → Span
  | blank span => span
  | comment c => c.span
  | inherit _ span => span
  | tagged _ _ _ span => span
  | untagged _ span => span
  | strings line => line.span
  | spread path => path.span

def isContent : Item → Bool
  | blank _ => false
  | comment _ => false
  | inherit _ _ => false
  | _ => true

end Item

end ConfigLang
