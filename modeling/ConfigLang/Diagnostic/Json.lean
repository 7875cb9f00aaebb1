import ConfigLang.Diagnostic.Basic
import ConfigLang.Source.Json
/-! Diagnostics as JSON, in two shapes: a report for other programs, and a record that can
be read back. -/
namespace ConfigLang

open Json (Form)
open Json.Form (field require)

def Detail.Kind.name : Detail.Kind → String
  | .error => "error"
  | .info => "info"

/-- A span in a report; lines and columns count from one. -/
def Span.toReport (span : Span) : Json :=
  .object [("file", .ofNat span.file), ("line", .ofNat span.line), ("column", .ofNat span.column),
    ("start", .ofNat span.range.start.offset), ("end", .ofNat span.range.stop.offset)]

def Json.entry? (name : String) (json : Option Json) : List (String × Json) :=
  (json.map (name, ·)).toList

def Json.nonempty? (items : List Json) : Option Json :=
  if items.isEmpty then none else some (.array items)

def Detail.toReport (detail : Detail) : Json :=
  .object ([("kind", .string detail.kind.name), ("content", .string detail.content)] ++
    Json.entry? "location" (detail.span.map Span.toReport))

def Diagnostic.toReport (d : Diagnostic) : Json :=
  .object ([("kind", .string "error"), ("title", .string d.title)] ++
    Json.entry? "code" (d.code.map .string) ++
    Json.entry? "problem" (d.problem.map .string) ++
    Json.entry? "details" (Json.nonempty? (d.details.map Detail.toReport)) ++
    Json.entry? "hints" (Json.nonempty? (d.hints.map .string)) ++
    Json.entry? "location" (d.span.map Span.toReport))

/-! ### Records -/

def Detail.Kind.cases : List (String × Detail.Kind) := [("Error", .error), ("Info", .info)]

def Detail.Kind.toJson : Detail.Kind → Json
  | .error => .string "Error"
  | .info => .string "Info"

def Detail.Kind.form : Form Detail.Kind := Form.choice cases

def Detail.toJson (detail : Detail) : Json :=
  .object ([("kind", detail.kind.toJson), ("content", .string detail.content)] ++
    Json.entry? "location" (detail.span.map Span.toJson))

structure Detail.Partial where
  kind : Option Detail.Kind
  content : Option String
  span : Option (Option Span)

def Detail.form : Form Detail :=
  Form.record "DetailItem"
    [field "kind" Kind.form Partial.kind fun d kind => { d with kind := some kind },
      field "content" Form.text Partial.content fun d content => { d with content := some content },
      field "location" (Form.optional Span.form) Partial.span
        fun d span => { d with span := some span }]
    ⟨none, none, none⟩
    fun d => do
      return ⟨← require "kind" d.kind, ← require "content" d.content, d.span.getD none⟩

def Diagnostic.toJson (d : Diagnostic) : Json :=
  .object (Json.entry? "code" (d.code.map .string) ++
    [("title", .string d.title), ("problem", .ofOption .string d.problem),
      ("details", .array (d.details.map Detail.toJson)),
      ("hints", .array (d.hints.map .string))] ++
    Json.entry? "location" (d.span.map Span.toJson))

structure Diagnostic.Partial where
  code : Option (Option String)
  title : Option String
  problem : Option (Option String)
  details : Option (List Detail)
  hints : Option (List String)
  span : Option (Option Span)

def Diagnostic.form : Form Diagnostic :=
  Form.record "DiagnosticMessage"
    [field "code" (Form.optional Form.text) Partial.code fun d code => { d with code := some code },
      field "title" Form.text Partial.title fun d title => { d with title := some title },
      field "problem" (Form.optional Form.text) Partial.problem
        fun d problem => { d with problem := some problem },
      field "details" (Form.list Detail.form) Partial.details
        fun d details => { d with details := some details },
      field "hints" (Form.list Form.text) Partial.hints
        fun d hints => { d with hints := some hints },
      field "location" (Form.optional Span.form) Partial.span
        fun d span => { d with span := some span }]
    ⟨none, none, none, none, none, none⟩
    fun d => do
      return {
        code := d.code.getD none
        title := ← require "title" d.title
        problem := d.problem.getD none
        details := ← require "details" d.details
        hints := ← require "hints" d.hints
        span := d.span.getD none }

end ConfigLang
