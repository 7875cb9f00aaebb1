import ConfigLang.Json.Printer
import ConfigLang.Syntax.Tree
/-! The syntax tree as JSON. Each node names its kind; spans are left out. -/
namespace ConfigLang

def Path.toJson (path : Path) : Json :=
  .object [("components", .array (path.components.map .string))]

def StringElement.toJson : StringElement → Json
  | literal text _ => .object [("type", .string "stringLiteral"), ("value", .string text)]
  | placeholder path => .object [("type", .string "placeholder"), ("path", path.toJson)]
  | plus _ => .object [("type", .string "plus")]

def StringLine.elementsJson (line : StringLine) : Json :=
  .array (line.elements.map StringElement.toJson)

def StringLine.toJson (line : StringLine) : Json := .object [("elements", line.elementsJson)]

def StringLine.toTaggedJson (line : StringLine) : Json :=
  .object [("type", .string "multilineStringLine"), ("elements", line.elementsJson)]

def Comment.toJson (comment : Comment) : Json :=
  .object [("type", .string "comment"), ("text", .string comment.text)]

def KeyLine.toJson : KeyLine → Json
  | comment c => c.toJson
  | strings line => line.toTaggedJson

def Key.toJson : Key → Json
  | simple text _ => .object [("type", .string "simpleKey"), ("text", .string text)]
  | multiline lines _ =>
    .object [("type", .string "multilineKey"), ("lines", .array (lines.map KeyLine.toJson))]

mutual

def ValueNode.toJson : ValueNode → Json
  | .text text _ => .object [("type", .string "simpleString"), ("text", .string text)]
  | .block items _ => .object [("type", .string "block"), ("items", .array (Item.listToJson items))]
  | .strings lines _ =>
    .object [("type", .string "stringExpression"), ("lines", .array (lines.map StringLine.toJson))]

def Item.toJson : Item → Json
  | .blank _ => .object [("type", .string "blankLine")]
  | .comment comment => comment.toJson
  | .inherit path _ => .object [("type", .string "from"), ("path", path.toJson)]
  | .tagged key value template _ =>
    .object [("type", .string "taggedValue"), ("key", key.toJson), ("value", value.toJson),
      ("templateAnnotation", .bool template.isSome)]
  | .untagged value _ => .object [("type", .string "untaggedValue"), ("value", value.toJson)]
  | .strings line => line.toTaggedJson
  | .spread path => .object [("type", .string "placeholderEntry"), ("path", path.toJson)]

def Item.listToJson : List Item → List Json
  | [] => []
  | item :: rest => item.toJson :: Item.listToJson rest

end

end ConfigLang
