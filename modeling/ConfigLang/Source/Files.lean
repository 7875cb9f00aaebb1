import ConfigLang.FileTree
import ConfigLang.Source.Span
/-! The source files that spans refer to. A file is registered with its text, or by its path
alone; then its text is read when it is needed. -/
namespace ConfigLang

structure SourceFile where
  path : String
  content : Option String
  deriving Repr, DecidableEq

/-- The text of the file, from the disk if it was registered by path alone. -/
def SourceFile.read? (disk : FileTree) (file : SourceFile) : Option String :=
  match file.content with
  | some content => some content
  | none => (disk.read file.path).toOption

structure Sources where
  files : List SourceFile
  deriving Repr, DecidableEq

namespace Sources

def empty : Sources := ⟨[]⟩

def add (sources : Sources) (path : String) (content : Option String) : FileId × Sources :=
  (sources.files.length, ⟨sources.files ++ [⟨path, content⟩]⟩)

def single (path content : String) : Sources := ⟨[⟨path, some content⟩]⟩

def get? (sources : Sources) (file : FileId) : Option SourceFile := sources.files[file]?

/-- The text under a span, if the file was registered with its text and both ends of the
span fall between characters of it. -/
def slice? (sources : Sources) (span : Span) : Option String := do
  let file ← sources.get? span.file
  let content ← file.content
  let chars ← Text.sliceBytes span.range.start.offset span.range.stop.offset content.toList
  return String.ofList chars

end Sources

end ConfigLang
