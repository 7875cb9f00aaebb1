import ConfigLang.Text.Utf8
/-! What can be wrong with a JSON text, and where. A reader knows a place by what is left of
the text behind it; only the finished message counts lines and columns. -/
namespace ConfigLang.Json

inductive Problem
  | endInValue
  | endInList
  | endInObject
  | endInString
  | colonExpected
  | listSeparatorExpected
  | objectSeparatorExpected
  | wordExpected
  | valueExpected
  | badEscape
  | badNumber
  | numberTooLarge
  | controlCharacter
  | keyNotString
  | loneSurrogate
  | trailingComma
  | trailingCharacters
  | escapeCutShort
  | tooDeep
  /-- The text is JSON, but not of the form that its reader wants. -/
  | mismatch (description : String)
  deriving Repr, DecidableEq

def Problem.text : Problem → String
  | .endInValue => "EOF while parsing a value"
  | .endInList => "EOF while parsing a list"
  | .endInObject => "EOF while parsing an object"
  | .endInString => "EOF while parsing a string"
  | .colonExpected => "expected `:`"
  | .listSeparatorExpected => "expected `,` or `]`"
  | .objectSeparatorExpected => "expected `,` or `\x7d`"
  | .wordExpected => "expected ident"
  | .valueExpected => "expected value"
  | .badEscape => "invalid escape"
  | .badNumber => "invalid number"
  | .numberTooLarge => "number out of range"
  | .controlCharacter => "control character (\\u0000-\\u001F) found while parsing a string"
  | .keyNotString => "key must be a string"
  | .loneSurrogate => "lone leading surrogate in hex escape"
  | .trailingComma => "trailing comma"
  | .trailingCharacters => "trailing characters"
  | .escapeCutShort => "unexpected end of hex escape"
  | .tooDeep => "recursion limit exceeded"
  | .mismatch description => description

/-- A problem and how many bytes of the text are left behind its place. That no variant of a value
fits is found without a place. -/
structure Fault where
  problem : Problem
  remaining : Option Nat
  deriving Repr, DecidableEq

namespace Fault

def before (problem : Problem) (rest : List Char) : Fault :=
  ⟨problem, some (Text.byteLength rest)⟩

/-- The problem is the first byte of `rest`, or the end of the text if nothing is left. -/
def onto (problem : Problem) (rest : List Char) : Fault :=
  ⟨problem, some (Text.byteLength rest - 1)⟩

def mismatch (description : String) : Fault := ⟨.mismatch description, none⟩

end Fault

/-- A place in a text: lines from one, and the number of bytes passed on the line. -/
structure Place where
  line : Nat
  column : Nat
  deriving Repr, DecidableEq

def Place.after (bytes : Nat) (text : List Char) : Place :=
  go 1 0 bytes text
where
  go (line column : Nat) : Nat → List Char → Place
    | 0, _ => ⟨line, column⟩
    | n + 1, [] => ⟨line, column + n + 1⟩
    | n + 1, c :: rest =>
      if n + 1 < c.utf8Size then ⟨line, column + n + 1⟩
      else if c = '\n' then go (line + 1) 0 (n + 1 - c.utf8Size) rest
      else go line (column + c.utf8Size) (n + 1 - c.utf8Size) rest

structure ReadError where
  problem : Problem
  place : Option Place
  deriving Repr, DecidableEq

def ReadError.message (error : ReadError) : String :=
  match error.place with
  | none => error.problem.text
  | some place =>
    error.problem.text ++ " at line " ++ toString place.line ++ " column " ++
      toString place.column

def Fault.locate (text : List Char) (fault : Fault) : ReadError :=
  ⟨fault.problem,
    fault.remaining.map fun remaining => Place.after (Text.byteLength text - remaining) text⟩

end ConfigLang.Json
