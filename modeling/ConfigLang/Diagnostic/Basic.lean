import ConfigLang.Diagnostic.Catalog
import ConfigLang.Source.Span
/-! Diagnostics: what a user is told about an error. A title, the problem, any number of
details and hints, and the span at fault. -/
namespace ConfigLang

inductive Detail.Kind
  | error
  | info
  deriving Repr, DecidableEq

structure Detail where
  kind : Detail.Kind
  content : String
  /-- The place that the detail points at, if any. -/
  span : Option Span
  deriving Repr, DecidableEq

structure Diagnostic where
  code : Option String
  title : String
  problem : Option String
  details : List Detail
  hints : List String
  span : Option Span
  deriving Repr, DecidableEq

namespace Diagnostic

def titled (title : String) : Diagnostic := ⟨none, title, none, [], [], none⟩

def withCode (code : String) (d : Diagnostic) : Diagnostic := { d with code := some code }

def withProblem (problem : String) (d : Diagnostic) : Diagnostic :=
  { d with problem := some problem }

def withDetail (kind : Detail.Kind) (content : String) (span : Option Span) (d : Diagnostic) :
    Diagnostic :=
  { d with details := d.details ++ [⟨kind, content, span⟩] }

def withHint (hint : String) (d : Diagnostic) : Diagnostic :=
  { d with hints := d.hints ++ [hint] }

def withSpan (span : Span) (d : Diagnostic) : Diagnostic := { d with span := some span }

/-- The diagnostic with the catalog's explanation of its code for its problem, unless the
problem is stated. -/
def explained (d : Diagnostic) : Diagnostic :=
  match d.problem with
  | some _ => d
  | none => { d with problem := (d.code.bind Catalog.find?).map CatalogEntry.explanation }

end Diagnostic

end ConfigLang
