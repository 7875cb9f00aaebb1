import ConfigLang.Json.Basic
/-! The catalog of error codes, with a title and a general explanation for each. -/
namespace ConfigLang

structure CatalogEntry where
  code : String
  subsystem : String
  title : String
  explanation : String
  deriving Repr, DecidableEq

namespace CatalogEntry

def sinceVersion : String := "0.1.0"

def toJson (entry : CatalogEntry) : Json :=
  .object [("subsystem", .string entry.subsystem), ("title", .string entry.title),
    ("message_template", .string entry.explanation), ("since_version", .string sinceVersion)]

end CatalogEntry

namespace Catalog

def entries : List CatalogEntry := [
  ⟨"A-0-1", "internal", "Internal Error",
    "An internal error occurred. This is a bug in ARCL."⟩,
  ⟨"A-0-2", "internal", "Unreadable File",
    "A document could not be read from disk."⟩,
  ⟨"A-1-1", "scanner", "Unexpected Character",
    "The input contains a character that is not valid at this position."⟩,
  ⟨"A-1-2", "scanner", "Invalid String Literal",
    "A string literal contains an invalid escape sequence."⟩,
  ⟨"A-2-1", "parser", "Unexpected End Of Input",
    "The document ended before the construct being read was complete."⟩,
  ⟨"A-2-2", "parser", "Unexpected Token",
    "A token appeared where the grammar does not allow it."⟩,
  ⟨"A-2-3", "parser", "Unknown Directive",
    "Only @from and @template directives are recognized."⟩,
  ⟨"A-2-4", "parser", "Misplaced Spread Placeholder",
    "A spread placeholder must stand alone on its line."⟩,
  ⟨"A-3-1", "structure", "Incompatible Block Content",
    "A block can hold list entries, map entries or string fragments, but not a mix."⟩,
  ⟨"A-4-1", "structure", "Misplaced @from",
    "@from must come before any content in its block."⟩,
  ⟨"A-4-2", "structure", "Nested Template",
    "Templates can only be declared at the top level of a document."⟩,
  ⟨"A-5-1", "reference", "No Such Template",
    "The template path does not name a declared template."⟩,
  ⟨"A-5-2", "reference", "Missing Placeholder Value",
    "No value was provided for a placeholder."⟩,
  ⟨"A-5-3", "reference", "Placeholder Value Is Not A String",
    "A placeholder used inside a string must resolve to a string."⟩,
  ⟨"A-5-4", "reference", "Empty Placeholder Value",
    "A placeholder used inside a string must resolve to a non-empty string."⟩,
  ⟨"A-5-5", "reference", "Incompatible Merge",
    "Two values of different shapes cannot be merged."⟩,
  ⟨"A-6-1", "limits", "Nesting Too Deep",
    "The document or its template applications nest deeper than allowed."⟩,
  ⟨"A-7-1", "argument", "Invalid Argument Value",
    "The argument value cannot be represented as an ARCL value."⟩]

def find? (code : String) : Option CatalogEntry := entries.find? (·.code = code)

end Catalog

end ConfigLang
