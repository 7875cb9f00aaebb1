import ConfigLang.Cli.Arguments
import ConfigLang.Cli.Fixtures
import ConfigLang.Diagnostic.Json
import ConfigLang.Diagnostic.OfError
import ConfigLang.Diagnostic.Text
import ConfigLang.Eval.Block
import ConfigLang.Syntax.Json
import ConfigLang.Value.Json
/-! The commands. Each works on a tree of files and answers with an exit code and the text
for both outputs. -/
namespace ConfigLang.Cli

inductive Failure
  /-- A document is at fault; its source is at hand. -/
  | document (error : Error) (sources : Sources)
  | argument (error : Error)
  | other (message : String)
  deriving Repr, DecidableEq

structure Outcome where
  code : Nat
  stdout : String
  stderr : String
  deriving Repr, DecidableEq

namespace Failure

def text (disk : FileTree) : Failure → String
  | document error sources => error.toDiagnostic.toText disk (some sources)
  | argument error => error.toDiagnostic.toText disk none
  | other message => "Error: " ++ message ++ "\n"

def json : Failure → Json
  | document error _ => error.toDiagnostic.toReport
  | argument error => error.toDiagnostic.toReport
  | other message => .object [("kind", .string "error"), ("title", .string message)]

def outcome (disk : FileTree) (jsonErrors : Bool) (stdout : String) (failure : Failure) :
    Outcome :=
  ⟨1, stdout, if jsonErrors then failure.json.compact ++ "\n" else failure.text disk⟩

end Failure

def readSource (disk : FileTree) (path : String) : Except Failure String :=
  (disk.read path).mapError fun fault => .other ("Failed to read " ++ path ++ ": " ++ fault.message)

def readDocument (path text : String) : Except Failure Document :=
  (Document.parse path defaultLimit text).mapError (.document · (.single path text))

def argumentOfJson (json : Json) : Except Error Value :=
  (Value.ofJson json).mapError (.invalidArgument · "null has no ARCL representation")

def readArgument (disk : FileTree) (path : String) : Except Failure Value := do
  let text ← (disk.read path).mapError fun fault =>
    .other ("Failed to read argument " ++ path ++ ": " ++ fault.message)
  let json ← (Json.read text).mapError fun error =>
    .other ("Argument " ++ path ++ " is not valid JSON: " ++ error.message)
  (argumentOfJson json).mapError .argument

def evaluate (path text : String) (document : Document) (argument : Option Value) :
    Except Failure (Option Value) :=
  (document.evaluate defaultLimit argument).mapError (.document · (.single path text))

def runEval (disk : FileTree) (path : String) (argument : Option String) (compact : Bool) :
    Except Failure String := do
  let text ← readSource disk path
  let document ← readDocument path text
  let argument ← argument.mapM (readArgument disk)
  let value ← evaluate path text document argument
  return (if compact then Value.compact value else Value.pretty value) ++ "\n"

def runTree (disk : FileTree) (path : String) : Except Failure String := do
  let text ← readSource disk path
  let document ← readDocument path text
  return (Json.array (Item.listToJson document.items)).pretty ++ "\n"

def runTokens (disk : FileTree) (path : String) (all : Bool) :
    Except Failure (String × Option Failure) := do
  let text ← readSource disk path
  let scan := Scan.ofText 0 text
  let shown := scan.tokens.filter fun token => all || token.isSignificant
  return (String.join (shown.map fun token => token.display ++ "\n"),
    scan.error?.map (.document · (.single path text)))

/-! ### Checking fixtures -/

inductive Verdict
  | passed
  | mismatch (expected actual : String)
  | failed (failure : Failure)

/-- The value that a fixture is expected to have; null stands for none. -/
def readExpected (disk : FileTree) (path : String) : Except Failure (Option Value) := do
  let text ← (disk.read path).mapError fun fault =>
    .other ("Failed to read " ++ path ++ ": " ++ fault.message)
  let json ← (Json.read text).mapError fun error =>
    .other (path ++ " is not valid JSON: " ++ error.message)
  match json with
  | .null => return none
  | json => return some (← (argumentOfJson json).mapError .argument)

def agree : Option Value → Option Value → Bool
  | none, none => true
  | some a, some b => a.agrees b
  | _, _ => false

def judge (disk : FileTree) (path : String) : Verdict :=
  let verdict : Except Failure Verdict := do
    let text ← readSource disk path
    let document ← readDocument path text
    let argument ← if disk.has (argumentPath path) then
        (readArgument disk (argumentPath path)).map some
      else pure none
    let actual ← evaluate path text document argument
    let expected ← readExpected disk (expectedPath path)
    return if agree actual expected then .passed
      else .mismatch (Value.pretty expected) (Value.pretty actual)
  match verdict with
  | .ok verdict => verdict
  | .error failure => .failed failure

def indented (text : String) : List String :=
  (Text.lines text.toList).map fun line => "    " ++ String.ofList line

/-- The lines of a failure in the report of a check. References to a source stand at the
margin. -/
def failureLines (disk : FileTree) : Failure → List String
  | .document error sources =>
    let diagnostic := error.toDiagnostic
    let trimmed (lines : List String) : List String :=
      indented (String.ofList (Text.trimRight ("\n".intercalate lines).toList))
    match diagnostic.showsSource disk sources, diagnostic.lines disk (some sources) with
    | true, heading :: reference :: rest => indented heading ++ reference :: trimmed rest
    | _, lines => trimmed lines
  | .argument error => indented (String.ofList (Text.trimRight error.message.toList))
  | .other message => indented (String.ofList (Text.trimRight message.toList))

def Verdict.lines (disk : FileTree) (name : String) : Verdict → List String
  | .passed => ["ok    " ++ name]
  | .mismatch expected actual =>
    ["FAIL  " ++ name, "  expected:"] ++ indented expected ++ ["  actual:"] ++ indented actual
  | .failed failure => ("ERROR " ++ name) :: failureLines disk failure

def Verdict.isPassed : Verdict → Bool
  | .passed => true
  | _ => false

def runCheck (disk : FileTree) (directory : String) : Except Failure (Bool × String) := do
  let found ← (fixtures disk directory).mapError fun fault =>
    .other ("Failed to walk " ++ directory ++ ": IO error for operation on " ++ directory ++ ": " ++
      fault.message ++ ": " ++ fault.message)
  if found.isEmpty then .error (.other ("No fixtures found under " ++ directory))
  else
    let verdicts := found.map fun fixture => (fixture, judge disk fixture.path)
    let passed := (verdicts.filter (·.2.isPassed)).length
    let failed := verdicts.length - passed
    let lines := verdicts.flatMap (fun (fixture, verdict) => verdict.lines disk fixture.name) ++
      ["", toString passed ++ " passed, " ++ toString failed ++ " failed"]
    return (failed == 0, String.join (lines.map (· ++ "\n")))

def Invocation.run (disk : FileTree) (invocation : Invocation) : Outcome :=
  let plain (result : Except Failure String) : Outcome :=
    match result with
    | .ok stdout => ⟨0, stdout, ""⟩
    | .error failure => failure.outcome disk invocation.jsonErrors ""
  match invocation.command with
  | .eval file argument compact => plain (runEval disk file argument compact)
  | .tree file => plain (runTree disk file)
  | .tokens file all =>
    match runTokens disk file all with
    | .ok (stdout, none) => ⟨0, stdout, ""⟩
    | .ok (stdout, some failure) => failure.outcome disk invocation.jsonErrors stdout
    | .error failure => failure.outcome disk invocation.jsonErrors ""
  | .check directory =>
    match runCheck disk directory with
    | .ok (passed, stdout) => ⟨if passed then 0 else 1, stdout, ""⟩
    | .error failure => failure.outcome disk invocation.jsonErrors ""

def versionText : String := "arcl 0.1.0\n"

/-- Answers a request. Help and the refusal of a command line have no text of their own. -/
def Request.answer (disk : FileTree) : Request → Outcome
  | .run invocation => invocation.run disk
  | .version => ⟨0, versionText, ""⟩
  | .help => ⟨0, "", ""⟩
  | .refused => ⟨2, "", ""⟩

end ConfigLang.Cli
