import ConfigLang.Diagnostic.Basic
import ConfigLang.Error
/-! The diagnostic of each error. -/
namespace ConfigLang.Error

def report : Error → Diagnostic
  | unexpectedCharacter found mode _ =>
    (Diagnostic.titled "Unexpected character")
      |>.withProblem (Text.quoteChar found ++ " cannot appear here")
      |>.withDetail .info ("The scanner was in " ++ mode.name ++ " mode") none
  | invalidStringLiteral reason _ =>
    (Diagnostic.titled "Invalid string literal")
      |>.withProblem reason
      |>.withHint "String literals use JSON escapes such as `\\n`, `\\\"` and `\\u00e9`"
  | unexpectedEnd expected _ =>
    (Diagnostic.titled "Unexpected end of input")
      |>.withProblem ("The document ended where " ++ expected ++ " was expected")
  | unexpectedToken found expected _ =>
    (Diagnostic.titled "Unexpected token")
      |>.withProblem ("Found " ++ found ++ " where " ++ expected ++ " was expected")
  | unknownDirective name _ =>
    (Diagnostic.titled "Unknown directive")
      |>.withProblem ("`" ++ name ++ "` is not a directive")
      |>.withHint "Did you mean `@from` or `@template`?"
  | misplacedSpread _ =>
    (Diagnostic.titled "Misplaced spread placeholder")
      |>.withHint "Put the spread placeholder on a line of its own?"
  | incompatibleContent block item _ =>
    (Diagnostic.titled "Incompatible block content")
      |>.withProblem ("Cannot add " ++ item.entryName ++ " to a block that already holds a " ++
        block.name)
      |>.withDetail .info ("The block's first content fixed its shape as a " ++ block.name) none
  | fromAfterContent _ =>
    (Diagnostic.titled "@from after content")
      |>.withProblem "@from must occur before any content in its block"
      |>.withHint "Move the @from line to the top of the block?"
  | nestedTemplate name _ =>
    (Diagnostic.titled "Nested template")
      |>.withProblem ("Template `" ++ name ++ "` is declared inside a nested block")
      |>.withHint "Declare templates at the top level of the document?"
  | noSuchTemplate path _ =>
    (Diagnostic.titled "No such template")
      |>.withProblem ("`" ++ path ++ "` does not name a declared template")
  | missingPlaceholder path _ =>
    (Diagnostic.titled "Missing placeholder value")
      |>.withProblem ("Must provide a value for `" ++ path ++ "`")
  | placeholderNotString path shape _ =>
    (Diagnostic.titled "Placeholder value is not a string")
      |>.withProblem ("The value provided for `" ++ path ++ "` must be a string, not a " ++
        shape.name)
      |>.withHint "Use a spread placeholder (`<<path.*>>`) to insert lists and maps?"
  | emptyPlaceholder path _ =>
    (Diagnostic.titled "Empty placeholder value")
      |>.withProblem ("The value provided for `" ++ path ++ "` is empty")
  | incompatibleMerge conflict _ =>
    let report := (Diagnostic.titled "Incompatible merge")
      |>.withProblem ("Cannot merge a " ++ conflict.right.name ++ " onto a " ++
        conflict.left.name)
    if conflict.path.isEmpty then report
    else report.withDetail .error ("The conflict is at `" ++ dotted conflict.path ++ "`") none
  | nestingTooDeep limit _ =>
    (Diagnostic.titled "Nesting too deep")
      |>.withProblem ("Blocks and template applications nest deeper than " ++ toString limit ++
        " levels")
      |>.withHint "Check for a template that inherits from itself?"
  | invalidArgument path reason =>
    let report := (Diagnostic.titled "Invalid argument value") |>.withProblem reason
    if path.isEmpty then report
    else report.withDetail .error ("The value is at `" ++ dotted path ++ "`") none
  | unreadableFile reason => (Diagnostic.titled "Unreadable file") |>.withProblem reason

def toDiagnostic (error : Error) : Diagnostic :=
  { (error.report.withCode error.code).explained with span := error.span? }

end ConfigLang.Error
