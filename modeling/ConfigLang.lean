import ConfigLang.Main
import ConfigLang.Syntax.Outline
import ConfigLang.Proofs.Encoding.Evaluation
import ConfigLang.Proofs.Merge.Spread
import ConfigLang.Proofs.Merge.Monoid
import ConfigLang.Proofs.Merge.KeyByKey
import ConfigLang.Proofs.Json.Reading
import ConfigLang.Proofs.Json.Printing
import ConfigLang.Proofs.Value.Json
import ConfigLang.Proofs.Cli.Checking
import ConfigLang.Proofs.Eval.Distinct
import ConfigLang.Proofs.Eval.Inheritance
import ConfigLang.Proofs.Eval.Argument
import ConfigLang.Proofs.Eval.Resolved
import ConfigLang.Proofs.Eval.Orderly
import ConfigLang.Proofs.Eval.TopLevel
import ConfigLang.Proofs.Grammar.Basic
import ConfigLang.Proofs.Grammar.Leaf
import ConfigLang.Proofs.Grammar.Owed
import ConfigLang.Proofs.Grammar.Comment
import ConfigLang.Proofs.Grammar.Sound
import ConfigLang.Proofs.Grammar.Progress
import ConfigLang.Proofs.Grammar.Complete
import ConfigLang.Proofs.Token.Tiling
import ConfigLang.Proofs.Syntax.Spans
import ConfigLang.Proofs.Nesting.Monotone
import ConfigLang.Proofs.Nesting.Agreement
import ConfigLang.Proofs.Redaction.Evaluation
import ConfigLang.Proofs.Blame.Reading
import ConfigLang.Proofs.Spacing.Document
import ConfigLang.Proofs.Spacing.LineEnds
import ConfigLang.Proofs.Reading.Incomplete
import ConfigLang.Proofs.Eval.Ending
import ConfigLang.Proofs.Reading.Append
import ConfigLang.Proofs.Eval.Entry
import ConfigLang.Proofs.Merge.Conflict
import ConfigLang.Proofs.Eval.Cycle
import ConfigLang.Proofs.Eval.Declarations
import ConfigLang.Proofs.Eval.BlockShape
import ConfigLang.Proofs.Eval.Joined
import ConfigLang.Proofs.Eval.LastEntry
import ConfigLang.Proofs.Eval.Elements
import ConfigLang.Proofs.Diagnostic.Details
import ConfigLang.Proofs.Diagnostic.Reference
import ConfigLang.Proofs.Spacing.FinalNewline
import ConfigLang.Proofs.Encoding.Verbatim
import ConfigLang.Proofs.Value.Null
import ConfigLang.Proofs.Token.Modes
import ConfigLang.Proofs.Diagnostic.Json
import ConfigLang.Proofs.Descent.Ending
