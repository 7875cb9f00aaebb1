import ConfigLang.Diagnostic.Basic
import ConfigLang.Source.Files
import ConfigLang.Text.Blank
import ConfigLang.Text.Lines
/-! Diagnostics as text. Where the source at fault is at hand, the text refers to it by path,
line and column, and whatever points into the source is shown there and not repeated.
Without a source everything is listed. -/
namespace ConfigLang

def Detail.Kind.bullet : Detail.Kind → String
  | .error => "✖"
  | .info => "ℹ"

def Detail.line (detail : Detail) : String := detail.kind.bullet ++ " " ++ detail.content

namespace Diagnostic

def source? (disk : FileTree) (sources : Sources) (d : Diagnostic) :
    Option (Span × SourceFile × String) := do
  let span ← d.span
  let file ← sources.get? span.file
  let content ← file.read? disk
  return (span, file, content)

def reference (path : String) (place : Text.ListingPlace) : String :=
  "[" ++ path ++ ":" ++ toString (place.line + 1) ++ ":" ++ toString (place.column + 1) ++ "]"

/-- The place in a listing that a byte offset falls on; beyond the end is at the end. -/
def placeOfOffset (content : String) (offset : Nat) : Text.ListingPlace :=
  let chars := content.toList
  Text.listingPlace chars (Text.charsBefore (min offset (Text.byteLength chars)) chars)

def heading (d : Diagnostic) : String :=
  match d.code with
  | some code => "[" ++ code ++ "] " ++ d.title
  | none => d.title

/-- The lines that refer to the source: the heading and the place. An empty file has no
place. -/
def sourceLines (span : Span) (file : SourceFile) (content : String) (d : Diagnostic) :
    List String :=
  let heading := "Error: " ++ d.heading
  if content = "" then [String.ofList (Text.trimRight heading.toList)]
  else [heading, reference file.path (placeOfOffset content span.range.start.offset)]

def plainLines (d : Diagnostic) : List String :=
  let label := match d.code with
    | some code => "Error [" ++ code ++ "]: " ++ d.title
    | none => "Error: " ++ d.title
  let heading := match d.span with
    | some span => label ++ " (at " ++ span.display ++ ")"
    | none => label
  heading :: d.problem.toList

/-- The lines of the text. Details that point into the source are not repeated below it. -/
def lines (disk : FileTree) (sources : Option Sources) (d : Diagnostic) : List String :=
  let front := match sources.bind (source? disk · d) with
    | some (span, file, content) =>
      d.sourceLines span file content ++
        (d.details.filter (·.span.isNone)).map Detail.line
    | none => d.plainLines ++ d.details.map Detail.line
  front ++ d.hints.map ("? " ++ ·)

def toText (disk : FileTree) (sources : Option Sources) (d : Diagnostic) : String :=
  "\n".intercalate (d.lines disk sources) ++ "\n"

def showsSource (disk : FileTree) (sources : Sources) (d : Diagnostic) : Bool :=
  match source? disk sources d with
  | some (_, _, content) => content != ""
  | none => false

def showsDetail (disk : FileTree) (sources : Sources) (d : Diagnostic) (detail : Detail) : Bool :=
  d.showsSource disk sources &&
    match detail.span, d.span with
    | some a, some b => a.file == b.file
    | _, _ => false

end Diagnostic

end ConfigLang
