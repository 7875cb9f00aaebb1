import Mathlib.Logic.Relation
import ConfigLang.Proofs.Eval.Items
/-! Evaluation one step at a time. A machine makes the calls that evaluation consists of, keeps
those that wait for others on a stack, and counts up when a block or a template is opened and down
when it is left. Each call is answered, and then the count is what it was before. -/
namespace ConfigLang.Eval

inductive Call
  | value (node : ValueNode)
  | block (items : List Item) (span : Span)
  | items (items : List Item) (atTop : Bool)
  /-- What a `@from` names, and where it stands. -/
  | template (parent : Path × Span)

inductive Frame
  /-- The block or the template that was opened for the call is left. -/
  | leave
  | entry (argument : Option Value) (progress : Progress) (key : String) (rest : List Item)
  | element (argument : Option Value) (progress : Progress) (rest : List Item)

def Frame.isLeave : Frame → Bool
  | leave => true
  | _ => false

inductive Control
  | call (call : Call) (argument : Option Value)
  /-- The next of the items that are left of a block is added. -/
  | add (argument : Option Value) (progress : Progress) (rest : List Item)
  | answer (outcome : Except Error (Option Value))

structure Machine where
  templates : Templates
  /-- How many blocks and templates are open, as the machine counts them. -/
  depth : Nat
  /-- Innermost first. -/
  frames : List Frame
  control : Control

namespace Machine

def answer (machine : Machine) (outcome : Except Error (Option Value)) : Machine :=
  { machine with control := .answer outcome }

/-- Opens a block or a template for a call, unless as many are open as may be. -/
def enter (limit : Nat) (span : Span) (call : Call) (argument : Option Value) (machine : Machine) :
    Machine :=
  if limit ≤ machine.depth then machine.answer (.error (.nestingTooDeep limit span))
  else
    { machine with
      depth := machine.depth + 1
      frames := .leave :: machine.frames
      control := .call call argument }

def register (argument : Option Value) (templates : Templates) (items : List Item) :
    Bool → Except Error Templates
  | true => declare argument templates items
  | false => (rejectTemplates argument items).map fun _ => templates

def start (limit : Nat) (argument : Option Value) (machine : Machine) : Call → Machine
  | .value (.text text _) => machine.answer (.ok (some (.string text)))
  | .value (.strings lines _) =>
    machine.answer ((joinLines argument lines).map fun text => some (.string text))
  | .value (.block items span) => { machine with control := .call (.block items span) argument }
  | .block items span => machine.enter limit span (.items items false) argument
  | .items items atTop =>
    match register argument machine.templates items atTop with
    | .error error => machine.answer (.error error)
    | .ok templates => { machine with templates, control := .add argument .start items }
  | .template (path, span) =>
    match machine.templates.lookup path span with
    | .error error => machine.answer (.error error)
    | .ok node => machine.enter limit span (.value node) argument

def addNext (argument : Option Value) (progress : Progress) (machine : Machine) :
    List Item → Machine
  | [] =>
    match progress.parent with
    | none => machine.answer (.ok progress.accumulator.value)
    | some parent =>
      { machine with control := .call (.template parent) progress.accumulator.value }
  | .tagged key value none span :: rest =>
    match progress.accumulator.lock .map span, keyText argument key with
    | .error error, _ => machine.answer (.error error)
    | .ok _, .error error => machine.answer (.error error)
    | .ok locked, .ok key =>
      { machine with
        frames := .entry argument (progress.withContent locked) key rest :: machine.frames
        control := .call (.value value) argument }
  | .untagged value span :: rest =>
    match progress.accumulator.lock .list span with
    | .error error => machine.answer (.error error)
    | .ok locked =>
      { machine with
        frames := .element argument (progress.withContent locked) rest :: machine.frames
        control := .call (.value value) argument }
  | item :: rest =>
    -- No other item has a value of its own to call for.
    match addItem (fun _ _ => .ok none) argument progress item with
    | .error error => machine.answer (.error error)
    | .ok next => { machine with control := .add argument next rest }

/-- Goes on behind a call; an error is handed on to what called for that. -/
def resume (machine : Machine) : Frame → Except Error (Option Value) → Machine
  | .leave, outcome => { machine with depth := machine.depth - 1, control := .answer outcome }
  | .entry argument progress key rest, .ok value =>
    { machine with
      control := .add argument (progress.withContent (progress.accumulator.insert key value)) rest }
  | .element argument progress rest, .ok value =>
    { machine with
      control := .add argument (progress.withContent (progress.accumulator.push value)) rest }
  | .entry .., .error error => machine.answer (.error error)
  | .element .., .error error => machine.answer (.error error)

/-- The next step, if there is one: a machine stops when it has an answer that nothing waits for. -/
def step (limit : Nat) (machine : Machine) : Option Machine :=
  match machine.control with
  | .call call argument => some (machine.start limit argument call)
  | .add argument progress rest => some (machine.addNext argument progress rest)
  | .answer outcome =>
    match machine.frames with
    | [] => none
    | frame :: frames => some ({ machine with frames }.resume frame outcome)

abbrev Steps (limit : Nat) (machine next : Machine) : Prop := machine.step limit = some next

abbrev Runs (limit : Nat) : Machine → Machine → Prop := Relation.ReflTransGen (Steps limit)

end Machine

end ConfigLang.Eval
