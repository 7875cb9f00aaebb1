import Mathlib
import ConfigLang.Cli.Run
import ConfigLang.Proofs.Cli.Fixtures
import ConfigLang.Proofs.Eval.Distinct
import ConfigLang.Proofs.Value.Meaning
import ConfigLang.Proofs.Value.Order
/-! Checking a fixture and evaluating its document. A fixture passes just if the command that
evaluates the document succeeds, and prints a JSON text that stands for the same value as the
expected one, up to the order of map entries. -/
namespace ConfigLang.Cli

open Value

/-! ### Evaluating a document -/

def evaluated (disk : FileTree) (path : String) (argument : Option String) :
    Except Failure (Option Value) := do
  let text ← readSource disk path
  let document ← readDocument path text
  let argument ← argument.mapM (readArgument disk)
  evaluate path text document argument

section

variable {disk : FileTree} {invocation : Invocation} {path : String} {argument : Option String}
  {compactly : Bool} (command : invocation.command = .eval path argument compactly)

include command

end

end ConfigLang.Cli
