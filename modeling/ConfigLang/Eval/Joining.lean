import ConfigLang.Error
import ConfigLang.Syntax.Tree
/-! The texts that keys and string lines stand for. A placeholder is looked up in the
argument and must name a text that is not empty; a spread may name any value. Lines are
joined by line breaks, except where a `+` stands at the end of a line or the start of the
next. -/
namespace ConfigLang.Eval

def lookup (argument : Option Value) (path : Path) : Except Error Value :=
  match argument.bind (Value.select? path.components) with
  | some value => .ok value
  | none => .error (.missingPlaceholder path.display path.span)

def placeholderText (argument : Option Value) (path : Path) : Except Error String := do
  match ← lookup argument path with
  | .string text =>
    if text = "" then .error (.emptyPlaceholder path.display path.span) else return text
  | other => .error (.placeholderNotString path.display other.shape path.span)

/-- The value that a spread stands for. Without an argument the spread of everything stands
for nothing. -/
def spreadValue (argument : Option Value) (path : Path) : Except Error (Option Value) :=
  if path.components.isEmpty ∧ argument.isNone then .ok none
  else (lookup argument path).map some

/-- The text with further pieces of a line. A line break that is due comes before the first
piece; a `+` cancels it. -/
def appendElements (argument : Option Value) (text : String) (breakDue : Bool) :
    List StringElement → Except Error String
  | [] => .ok text
  | .plus _ :: rest => appendElements argument text false rest
  | .literal piece _ :: rest =>
    appendElements argument (text ++ (if breakDue then "\n" else "") ++ piece) false rest
  | .placeholder path :: rest => do
    let piece ← placeholderText argument path
    appendElements argument (text ++ (if breakDue then "\n" else "") ++ piece) false rest

def appendLines (argument : Option Value) (text : String) (breakDue : Bool) :
    List StringLine → Except Error String
  | [] => .ok text
  | line :: rest => do
    let text ← appendElements argument text breakDue line.elements
    appendLines argument text (!line.endsWithPlus) rest

def joinLines (argument : Option Value) (lines : List StringLine) : Except Error String :=
  appendLines argument "" false lines

def stringLines (lines : List KeyLine) : List StringLine :=
  lines.filterMap fun
    | .comment _ => none
    | .strings line => some line

def keyText (argument : Option Value) : Key → Except Error String
  | .simple text _ => .ok text
  | .multiline lines _ => joinLines argument (stringLines lines)

end ConfigLang.Eval
