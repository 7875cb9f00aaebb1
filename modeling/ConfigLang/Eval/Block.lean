import ConfigLang.Document
import ConfigLang.Eval.Templates
/-! Evaluation. The items of a block are added one by one to a value whose shape the first
of them fixes. A block with a `@from` hands that value to a template as its argument and
takes the template's value for its own. Blocks and template applications may nest to a
given depth, so evaluation ends whatever the templates are. -/
namespace ConfigLang.Eval

structure Accumulator where
  value : Option Value
  /-- Whether the next string line starts on a line of its own. -/
  breakDue : Bool
  deriving DecidableEq

namespace Accumulator

def start : Accumulator := ⟨none, false⟩

def lock (acc : Accumulator) (shape : Shape) (span : Span) : Except Error Accumulator :=
  match acc.value with
  | none => .ok { acc with value := some (.empty shape) }
  | some value =>
    if value.shape = shape then .ok acc
    else .error (.incompatibleContent value.shape shape span)

def insert (acc : Accumulator) (key : String) (value : Option Value) : Accumulator :=
  match acc.value, value with
  | some (.map entries), some value =>
    { acc with value := some (.map (Entries.insert key value entries)) }
  | some (.map entries), none => { acc with value := some (.map (Entries.erase key entries)) }
  | _, _ => acc

def push (acc : Accumulator) (value : Option Value) : Accumulator :=
  match acc.value, value with
  | some (.list items), some value => { acc with value := some (.list (items ++ [value])) }
  | _, _ => acc

def appendLine (argument : Option Value) (acc : Accumulator) (line : StringLine) :
    Except Error Accumulator :=
  match acc.value with
  | some (.string text) => do
    let text ← appendElements argument text acc.breakDue line.elements
    return ⟨some (.string text), !line.endsWithPlus⟩
  | _ => .ok acc

/-- Adds what a spread stands for. A text that is spread is a line that is complete. -/
def spread (argument : Option Value) (acc : Accumulator) (path : Path) :
    Except Error Accumulator := do
  match ← spreadValue argument path with
  | none => return acc
  | some value =>
    match Value.appendSpread acc.value value with
    | .error conflict => .error (.incompatibleMerge conflict path.span)
    | .ok (some (.string text)) => return ⟨some (.string text), true⟩
    | .ok value => return { acc with value }

end Accumulator

structure Progress where
  accumulator : Accumulator
  /-- The last `@from`: the template's path, and the span of the directive. -/
  parent : Option (Path × Span)
  hasContent : Bool
  deriving DecidableEq

namespace Progress

def start : Progress := ⟨.start, none, false⟩

def withContent (progress : Progress) (accumulator : Accumulator) : Progress :=
  ⟨accumulator, progress.parent, true⟩

end Progress

abbrev NodeEval := ValueNode → Option Value → Except Error (Option Value)

/-- Adds one item; `nested` evaluates the value of an entry. A template adds nothing but
counts as content. -/
def addItem (nested : NodeEval) (argument : Option Value) (progress : Progress) :
    Item → Except Error Progress
  | .blank _ => .ok progress
  | .comment _ => .ok progress
  | .inherit path span =>
    if progress.hasContent then .error (.fromAfterContent span)
    else .ok { progress with parent := some (path, span) }
  | .tagged _ _ (some _) _ => .ok (progress.withContent progress.accumulator)
  | .tagged key value none span => do
    let acc ← progress.accumulator.lock .map span
    let key ← keyText argument key
    let value ← nested value argument
    return progress.withContent (acc.insert key value)
  | .untagged value span => do
    let acc ← progress.accumulator.lock .list span
    let value ← nested value argument
    return progress.withContent (acc.push value)
  | .strings line => do
    let acc ← progress.accumulator.lock .string line.span
    return progress.withContent (← acc.appendLine argument line)
  | .spread path => do
    return progress.withContent (← progress.accumulator.spread argument path)

def addItems (nested : NodeEval) (argument : Option Value) (progress : Progress) :
    List Item → Except Error Progress
  | [] => .ok progress
  | item :: rest => do addItems nested argument (← addItem nested argument progress item) rest

abbrev TemplateEval := Path × Span → Option Value → Except Error (Option Value)

def evalItems (nested : NodeEval) (apply : TemplateEval) (argument : Option Value)
    (items : List Item) : Except Error (Option Value) := do
  let progress ← addItems nested argument .start items
  match progress.parent with
  | none => return progress.accumulator.value
  | some parent => apply parent progress.accumulator.value

def rejectTemplates (argument : Option Value) : List Item → Except Error Unit
  | [] => .ok ()
  | .tagged key _ (some mark) _ :: _ =>
    .error (.nestedTemplate ((keyText argument key).toOption.getD "") mark)
  | _ :: rest => rejectTemplates argument rest

/-- The templates with those that the items declare; a later one replaces an earlier one of
the same name. -/
def declare (argument : Option Value) (templates : Templates) :
    List Item → Except Error Templates
  | [] => .ok templates
  | .tagged key value (some _) _ :: rest => do
    let name ← keyText argument key
    declare argument (Entries.insert name value templates) rest
  | _ :: rest => declare argument templates rest

mutual

/-- The value of a node in which `depth` more blocks and templates may be opened, one inside
the other; `limit` is how many there may be in all. -/
def evalNode (templates : Templates) (limit : Nat) :
    Nat → ValueNode → Option Value → Except Error (Option Value)
  | _, .text text _, _ => .ok (some (.string text))
  | _, .strings lines _, argument => (joinLines argument lines).map fun text => some (.string text)
  | 0, .block _ span, _ => .error (.nestingTooDeep limit span)
  | depth + 1, .block items _, argument => do
    rejectTemplates argument items
    evalItems (evalNode templates limit depth) (applyTemplate templates limit depth) argument items

def applyTemplate (templates : Templates) (limit : Nat) :
    Nat → Path × Span → Option Value → Except Error (Option Value)
  | 0, (path, span), _ => do
    let _ ← templates.lookup path span
    .error (.nestingTooDeep limit span)
  | depth + 1, (path, span), argument => do
    let node ← templates.lookup path span
    evalNode templates limit depth node argument

end

def evalDocument (limit : Nat) (argument : Option Value) (items : List Item) :
    Except Error (Option Value) := do
  let templates ← declare argument [] items
  evalItems (evalNode templates limit limit) (applyTemplate templates limit limit) argument items

end ConfigLang.Eval

namespace ConfigLang.Document

/-- The value of the document under an argument; blocks and template applications nest at
most `limit` deep. -/
def evaluate (document : Document) (limit : Nat) (argument : Option Value) :
    Except Error (Option Value) :=
  Eval.evalDocument limit argument document.items

end ConfigLang.Document
