import ConfigLang.Source.Position
/-! Spans: ranges of registered files. -/
namespace ConfigLang

abbrev FileId := Nat

structure Span where
  file : FileId
  range : Range
  deriving Repr, DecidableEq, Inhabited

namespace Span

/-- The span from the start of one span to the end of another. A span of another file cannot
extend it. -/
def through (a b : Span) : Span :=
  if a.file = b.file then ⟨a.file, a.range.cover b.range⟩ else a

def line (s : Span) : Nat := s.range.start.row + 1

def column (s : Span) : Nat := s.range.start.column + 1

def display (s : Span) : String := toString s.line ++ ":" ++ toString s.column

end Span

end ConfigLang
