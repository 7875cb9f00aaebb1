/-! Lexical modes. The same character means different things in different places, so the
lexer keeps a stack of modes; the top decides how the text is cut. -/
namespace ConfigLang

inductive Mode
  /-- At the start of a line, and everywhere no other mode holds. -/
  | main
  /-- Behind `[`, before it is known whether the key spans lines. -/
  | key
  /-- Inside a key that spans lines. -/
  | multilineKey
  /-- Free text behind a marker, up to the end of the line. -/
  | line
  /-- Between double angle brackets. -/
  | placeholder
  deriving Repr, DecidableEq

namespace Mode

def name : Mode → String
  | main => "main"
  | key => "key"
  | multilineKey => "multilineKey"
  | line => "line"
  | placeholder => "placeholder"

/-- The mode at the top of the stack; below the last mode lies `main`. -/
def current (modes : List Mode) : Mode := modes.headD main

inductive Change
  | stay
  | push (mode : Mode)
  | pop
  | switch (mode : Mode)
  deriving Repr, DecidableEq

/-- The stack behind the token, top first. The last mode is never popped. -/
def Change.apply : Change → List Mode → List Mode
  | .stay, modes => modes
  | .push mode, modes => mode :: modes
  | .pop, _ :: mode :: modes => mode :: modes
  | .pop, modes => modes
  | .switch mode, _ :: modes => mode :: modes
  | .switch _, [] => []

end Mode

end ConfigLang
