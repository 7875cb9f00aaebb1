import ConfigLang.Except
import ConfigLang.Source.Span
import ConfigLang.Text.Quoted
import ConfigLang.Token.Mode
import ConfigLang.Value.Merge
/-! What can go wrong with a document. An error ends the call that met it; each kind has a
code of its own and, where a document is at fault, the span that is to blame. -/
namespace ConfigLang

inductive Error
  | unexpectedCharacter (found : Char) (mode : Mode) (span : Span)
  | invalidStringLiteral (reason : String) (span : Span)
  | unexpectedEnd (expected : String) (span : Span)
  | unexpectedToken (found expected : String) (span : Span)
  | unknownDirective (name : String) (span : Span)
  /-- A spread shares its line. -/
  | misplacedSpread (span : Span)
  /-- An item does not fit the shape that the block has taken. -/
  | incompatibleContent (block item : Shape) (span : Span)
  | fromAfterContent (span : Span)
  | nestedTemplate (name : String) (span : Span)
  | noSuchTemplate (path : String) (span : Span)
  | missingPlaceholder (path : String) (span : Span)
  | placeholderNotString (path : String) (shape : Shape) (span : Span)
  | emptyPlaceholder (path : String) (span : Span)
  | incompatibleMerge (conflict : Conflict) (span : Span)
  | nestingTooDeep (limit : Nat) (span : Span)
  /-- A supplied argument has no counterpart among the values. -/
  | invalidArgument (path : List String) (reason : String)
  | unreadableFile (reason : String)
  deriving Repr, DecidableEq

namespace Error

def code : Error → String
  | unreadableFile .. => "A-0-2"
  | unexpectedCharacter .. => "A-1-1"
  | invalidStringLiteral .. => "A-1-2"
  | unexpectedEnd .. => "A-2-1"
  | unexpectedToken .. => "A-2-2"
  | unknownDirective .. => "A-2-3"
  | misplacedSpread .. => "A-2-4"
  | incompatibleContent .. => "A-3-1"
  | fromAfterContent .. => "A-4-1"
  | nestedTemplate .. => "A-4-2"
  | noSuchTemplate .. => "A-5-1"
  | missingPlaceholder .. => "A-5-2"
  | placeholderNotString .. => "A-5-3"
  | emptyPlaceholder .. => "A-5-4"
  | incompatibleMerge .. => "A-5-5"
  | nestingTooDeep .. => "A-6-1"
  | invalidArgument .. => "A-7-1"

def span? : Error → Option Span
  | unexpectedCharacter _ _ span => some span
  | invalidStringLiteral _ span => some span
  | unexpectedEnd _ span => some span
  | unexpectedToken _ _ span => some span
  | unknownDirective _ span => some span
  | misplacedSpread span => some span
  | incompatibleContent _ _ span => some span
  | fromAfterContent span => some span
  | nestedTemplate _ span => some span
  | noSuchTemplate _ span => some span
  | missingPlaceholder _ span => some span
  | placeholderNotString _ _ span => some span
  | emptyPlaceholder _ span => some span
  | incompatibleMerge _ span => some span
  | nestingTooDeep _ span => some span
  | invalidArgument .. => none
  | unreadableFile _ => none

def dotted (path : List String) : String := ".".intercalate path

def atPath (path : List String) : String :=
  if path.isEmpty then "" else " at `" ++ dotted path ++ "`"

def message : Error → String
  | unexpectedCharacter found mode span =>
    "Unexpected character " ++ Text.quoteChar found ++ " in " ++ mode.name ++ " mode at " ++
      span.display
  | invalidStringLiteral reason span =>
    "Invalid string literal at " ++ span.display ++ ": " ++ reason
  | unexpectedEnd expected span =>
    "Unexpected end of input at " ++ span.display ++ ", expected " ++ expected
  | unexpectedToken found expected span =>
    "Unexpected " ++ found ++ " at " ++ span.display ++ ", expected " ++ expected
  | unknownDirective name span => "Unknown directive " ++ name ++ " at " ++ span.display
  | misplacedSpread span =>
    "Spread placeholder at " ++ span.display ++ " must stand alone on its line"
  | incompatibleContent block item span =>
    "Cannot add " ++ item.entryName ++ " to a " ++ block.name ++ " at " ++ span.display
  | fromAfterContent span => "@from must occur before content (at " ++ span.display ++ ")"
  | nestedTemplate name span =>
    "Nested templates are not allowed: " ++ name ++ " at " ++ span.display
  | noSuchTemplate path span => "No such template: " ++ path ++ " at " ++ span.display
  | missingPlaceholder path span =>
    "Must provide a value for " ++ path ++ " (at " ++ span.display ++ ")"
  | placeholderNotString path shape span =>
    "Value provided for " ++ path ++ " must be a string, not a " ++ shape.name ++ " (at " ++
      span.display ++ ")"
  | emptyPlaceholder path span =>
    "Value provided for " ++ path ++ " must not be empty (at " ++ span.display ++ ")"
  | incompatibleMerge conflict span =>
    "Cannot merge a " ++ conflict.right.name ++ " onto a " ++ conflict.left.name ++
      atPath conflict.path ++ " at " ++ span.display
  | nestingTooDeep limit span =>
    "Nesting too deep (max depth: " ++ toString limit ++ ") at " ++ span.display
  | invalidArgument path reason =>
    "Invalid argument value" ++ atPath path ++ ": " ++ reason
  | unreadableFile reason => "I/O error: " ++ reason

end Error

end ConfigLang
