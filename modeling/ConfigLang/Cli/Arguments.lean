/-! The command line. A command may be preceded and followed by switches; a switch that is
given twice at one level is refused, and so is everything that is not known. -/
namespace ConfigLang.Cli

inductive Command
  | eval (file : String) (argument : Option String) (compact : Bool)
  | tokens (file : String) (all : Bool)
  | tree (file : String)
  | check (directory : String)
  deriving Repr, DecidableEq

structure Invocation where
  jsonErrors : Bool
  verbose : Bool
  command : Command
  deriving Repr, DecidableEq

inductive Request
  | run (invocation : Invocation)
  | version
  | help
  | refused
  deriving Repr, DecidableEq

inductive Verb
  | eval
  | tokens
  | tree
  | check
  deriving Repr, DecidableEq

def Verb.ofName? (name : String) : Option Verb :=
  if name = "eval" then some .eval
  else if name = "tokens" then some .tokens
  else if name = "ast" then some .tree
  else if name = "check" then some .check
  else none

inductive Switch
  | jsonErrors
  | verbose
  | compact
  | all
  deriving Repr, DecidableEq

structure Given where
  switches : List Switch
  argument : Option String
  operand : Option String
  deriving Repr, DecidableEq

namespace Given

def nothing : Given := ⟨[], none, none⟩

def has (given : Given) (switch : Switch) : Bool := given.switches.contains switch

/-- Nothing may be given twice, and no value may be empty. -/
def addSwitch (given : Given) (switch : Switch) : Option Given :=
  if given.has switch then none else some { given with switches := switch :: given.switches }

def addArgument (given : Given) (value : String) : Option Given :=
  if given.argument.isSome || value = "" then none else some { given with argument := some value }

def addOperand (given : Given) (value : String) : Option Given :=
  if given.operand.isSome || value = "" then none else some { given with operand := some value }

end Given

inductive Word
  | separator
  /-- Two dashes, a name, and perhaps a value behind an equals sign. -/
  | long (name : String) (value : Option String)
  /-- One dash and one or more letters. -/
  | short (letters : List Char)
  | operand (text : String)
  deriving Repr, DecidableEq

def Word.ofText (text : String) : Word :=
  match text.toList with
  | ['-', '-'] => .separator
  | '-' :: '-' :: rest =>
    let value := match rest.dropWhile (· ≠ '=') with
      | [] => none
      | _ :: value => some (String.ofList value)
    .long (String.ofList (rest.takeWhile (· ≠ '='))) value
  | '-' :: c :: rest => .short (c :: rest)
  | _ => .operand text

def longSwitch? (verb : Option Verb) (name : String) : Option Switch :=
  if name = "json-errors" then some .jsonErrors
  else if name = "verbose" then some .verbose
  else if name = "compact" ∧ verb = some .eval then some .compact
  else if name = "all" ∧ verb = some .tokens then some .all
  else none

inductive Letters
  | given (given : Given)
  | needsArgument (given : Given)
  | version
  | help
  | refused
  deriving Repr, DecidableEq

/-- Reads letters behind a dash. The letter of the argument takes the rest of its word, an
equals sign in front of it left out. -/
def readLetters (verb : Option Verb) (given : Given) : List Char → Letters
  | [] => .given given
  | c :: rest =>
    if c = 'v' then
      match given.addSwitch .verbose with
      | some given => readLetters verb given rest
      | none => .refused
    else if c = 'h' then .help
    else if c = 'V' ∧ verb = none then .version
    else if c = 'a' ∧ verb = some .eval then
      match rest with
      | [] => .needsArgument given
      | _ =>
        let value := if rest.head? = some '=' then rest.drop 1 else rest
        match given.addArgument (String.ofList value) with
        | some given => .given given
        | none => .refused
    else .refused

def Given.request (given : Given) (verb : Verb) (outer : Given) : Request :=
  match given.operand with
  | none => .refused
  | some operand =>
    let command := match verb with
      | .eval => .eval operand given.argument (given.has .compact)
      | .tokens => .tokens operand (given.has .all)
      | .tree => .tree operand
      | .check => .check operand
    .run ⟨outer.has .jsonErrors || given.has .jsonErrors,
      outer.has .verbose || given.has .verbose, command⟩

def readOperands (verb : Verb) (outer given : Given) : List String → Request
  | [] => given.request verb outer
  | word :: rest =>
    match given.addOperand word with
    | some given => readOperands verb outer given rest
    | none => .refused

def readCommand (verb : Verb) (outer given : Given) : List String → Request
  | [] => given.request verb outer
  | word :: rest =>
    /- The value of the argument, if it is a word of its own. -/
    let separateArgument (given : Given) : Request :=
      match rest with
      | [] => .refused
      | value :: rest =>
        match Word.ofText value with
        | .operand value =>
          match given.addArgument value with
          | some given => readCommand verb outer given rest
          | none => .refused
        | _ => .refused
    match Word.ofText word with
    | .separator => readOperands verb outer given rest
    | .long name value =>
      if name = "argument" ∧ verb = .eval then
        match value with
        | none => separateArgument given
        | some value =>
          match given.addArgument value with
          | some given => readCommand verb outer given rest
          | none => .refused
      else if value.isSome then .refused
      else if name = "help" then .help
      else
        match (longSwitch? (some verb) name).bind given.addSwitch with
        | some given => readCommand verb outer given rest
        | none => .refused
    | .short letters =>
      match readLetters (some verb) given letters with
      | .given given => readCommand verb outer given rest
      | .needsArgument given => separateArgument given
      | .version => .refused
      | .help => .help
      | .refused => .refused
    | .operand text =>
      match given.addOperand text with
      | some given => readCommand verb outer given rest
      | none => .refused

/-- Reads what help is wanted on: everything, or one command, help itself included. No command
has commands of its own, so nothing may follow. -/
def readTopic : List String → Request
  | [] => .help
  | [topic] => if (Verb.ofName? topic).isSome || topic = "help" then .help else .refused
  | _ => .refused

def readRequest (given : Given) : List String → Request
  | [] => .refused
  | word :: rest =>
    match Word.ofText word with
    | .separator => .refused
    | .long name value =>
      if value.isSome then .refused
      else if name = "version" then .version
      else if name = "help" then .help
      else
        match (longSwitch? none name).bind given.addSwitch with
        | some given => readRequest given rest
        | none => .refused
    | .short letters =>
      match readLetters none given letters with
      | .given given => readRequest given rest
      | .needsArgument _ => .refused
      | .version => .version
      | .help => .help
      | .refused => .refused
    | .operand name =>
      match Verb.ofName? name with
      | some verb => readCommand verb given .nothing rest
      | none =>
        if name = "help" then readTopic rest else .refused

def Request.ofWords (words : List String) : Request := readRequest .nothing words

end ConfigLang.Cli
