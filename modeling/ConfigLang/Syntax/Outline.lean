import ConfigLang.Syntax.Tree
/-! The outline of a syntax tree: its nodes in the order in which they start, each with a
label and its span. Labels of content end in `*`, those of lines that go on in `+`. -/
namespace ConfigLang

structure OutlineEntry where
  label : String
  span : Span
  deriving Repr, DecidableEq

/-- The line of an outline: bytes from start to end, then line and column of the start. -/
def OutlineEntry.display (entry : OutlineEntry) : String :=
  entry.label ++ " " ++ toString entry.span.range.start.offset ++ "-" ++
    toString entry.span.range.stop.offset ++ " " ++ entry.span.display

def Path.outline (path : Path) : List OutlineEntry := [⟨"path " ++ path.display, path.span⟩]

def StringElement.outline : StringElement → List OutlineEntry
  | literal _ span => [⟨"stringLiteral", span⟩]
  | placeholder path => ⟨"placeholder", path.span⟩ :: path.outline
  | plus span => [⟨"plus", span⟩]

def StringLine.outline (label : String) (line : StringLine) : List OutlineEntry :=
  ⟨if line.endsWithPlus then label ++ "+" else label, line.span⟩ ::
    line.elements.flatMap StringElement.outline

def KeyLine.outline : KeyLine → List OutlineEntry
  | comment c => [⟨"keyComment", c.span⟩]
  | strings line => line.outline "keyLine"

def Key.outline : Key → List OutlineEntry
  | simple _ span => [⟨"simpleKey", span⟩]
  | multiline lines span => ⟨"multilineKey", span⟩ :: lines.flatMap KeyLine.outline

mutual

def ValueNode.outline : ValueNode → List OutlineEntry
  | .text _ span => [⟨"simpleString", span⟩]
  | .block items span => ⟨"block", span⟩ :: Item.listOutline items
  | .strings lines span =>
    ⟨"stringExpression", span⟩ :: lines.flatMap (StringLine.outline "stringLine")

def Item.outline : Item → List OutlineEntry
  | .blank span => [⟨"blankLine", span⟩]
  | .comment comment => [⟨"comment", comment.span⟩]
  | .inherit path span => ⟨"from", span⟩ :: path.outline
  | .tagged key value template span =>
    ⟨"taggedValue*", span⟩ :: (template.map (OutlineEntry.mk "templateAnnotation")).toList ++
      key.outline ++ value.outline
  | .untagged value span => ⟨"untaggedValue*", span⟩ :: value.outline
  | .strings line => line.outline "line*"
  | .spread path => ⟨"placeholderEntry*", path.span⟩ :: path.outline

def Item.listOutline : List Item → List OutlineEntry
  | [] => []
  | item :: rest => item.outline ++ Item.listOutline rest

end

end ConfigLang
