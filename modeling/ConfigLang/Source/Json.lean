import ConfigLang.Json.Form
import ConfigLang.Json.Printer
import ConfigLang.Source.Files
/-! Positions, spans and source files as JSON, written and read back. -/
namespace ConfigLang

open Json (Form)
open Json.Form (field require)

def Position.toJson (p : Position) : Json :=
  .object [("offset", .ofNat p.offset), ("row", .ofNat p.row), ("column", .ofNat p.column)]

structure Position.Partial where
  offset : Option Nat
  row : Option Nat
  column : Option Nat

def Position.form : Form Position :=
  Form.record "Location"
    [field "offset" Form.natural Partial.offset fun p n => { p with offset := some n },
      field "row" Form.natural Partial.row fun p n => { p with row := some n },
      field "column" Form.natural Partial.column fun p n => { p with column := some n }]
    ⟨none, none, none⟩
    fun p => do
      return ⟨← require "offset" p.offset, ← require "row" p.row, ← require "column" p.column⟩

def Range.toJson (r : Range) : Json :=
  .object [("start", r.start.toJson), ("end", r.stop.toJson)]

structure Range.Partial where
  start : Option Position
  stop : Option Position

def Range.form : Form Range :=
  Form.record "Range"
    [field "start" Position.form Partial.start fun r p => { r with start := some p },
      field "end" Position.form Partial.stop fun r p => { r with stop := some p }]
    ⟨none, none⟩
    fun r => do return ⟨← require "start" r.start, ← require "end" r.stop⟩

def Span.toJson (s : Span) : Json :=
  .object [("file_id", .ofNat s.file), ("range", s.range.toJson)]

structure Span.Partial where
  file : Option FileId
  range : Option Range

def Span.form : Form Span :=
  Form.record "SourceInfo"
    [field "file_id" Form.natural Partial.file fun s n => { s with file := some n },
      field "range" Range.form Partial.range fun s r => { s with range := some r }]
    ⟨none, none⟩
    fun s => do return ⟨← require "file_id" s.file, ← require "range" s.range⟩

/-- A file without text is written by its path alone. -/
def SourceFile.toJson (file : SourceFile) : Json :=
  .object (("path", .string file.path) ::
    (file.content.map fun content => ("content", .string content)).toList)

structure SourceFile.Partial where
  path : Option String
  content : Option (Option String)

def SourceFile.form : Form SourceFile :=
  Form.record "SourceFile"
    [field "path" Form.text Partial.path fun f path => { f with path := some path },
      field "content" (Form.optional Form.text) Partial.content
        fun f content => { f with content := some content }]
    ⟨none, none⟩
    fun f => do return ⟨← require "path" f.path, f.content.getD none⟩

def Sources.toJson (sources : Sources) : Json :=
  .object [("files", .array (sources.files.map SourceFile.toJson))]

def Sources.form : Form Sources :=
  Form.record "SourceContext"
    [field "files" (Form.list SourceFile.form) id fun _ files => some files]
    none
    fun files => do return ⟨← require "files" files⟩

end ConfigLang
