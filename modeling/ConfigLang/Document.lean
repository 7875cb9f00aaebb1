import ConfigLang.Source.Files
import ConfigLang.Syntax.Draft
import ConfigLang.Token.Lexer
/-! Documents. A document is read once and can then be evaluated any number of times. -/
namespace ConfigLang

/-- How deep blocks and template applications may nest unless something else is asked for. -/
def defaultLimit : Nat := 64

structure Document where
  items : List Item
  span : Span
  /-- The document's own file, under number zero. -/
  sources : Sources

namespace Document

def endOf (text : String) : Position := Position.start.advance text.toList

def parseItems (limit : Nat) (text : String) : Except Error (List Item) := do
  let tokens ← tokenize 0 text
  let draft ← Draft.empty.pushAll limit tokens
  draft.finish ⟨0, .emptyAt (endOf text)⟩

theorem parseItems_eq_ok_iff {limit : Nat} {text : String} {items : List Item} :
    parseItems limit text = .ok items ↔ ∃ tokens, tokenize 0 text = .ok tokens ∧
      ∃ draft, Draft.empty.pushAll limit tokens = .ok draft ∧
        draft.finish ⟨0, .emptyAt (endOf text)⟩ = .ok items := by
  simp only [parseItems, except_bind_eq_ok]

def parse (filename : String) (limit : Nat) (text : String) : Except Error Document := do
  let items ← parseItems limit text
  return ⟨items, ⟨0, ⟨.start, endOf text⟩⟩, .single filename text⟩

theorem parse_eq_ok_iff {filename text : String} {limit : Nat} {document : Document} :
    parse filename limit text = .ok document ↔ ∃ items, parseItems limit text = .ok items ∧
      ⟨items, ⟨0, ⟨.start, endOf text⟩⟩, .single filename text⟩ = document :=
  except_bind_eq_ok.trans (by simp only [pure, Except.pure, Except.ok.injEq])

theorem parse_eq_error_iff {filename text : String} {limit : Nat} {error : Error} :
    parse filename limit text = .error error ↔ parseItems limit text = .error error := by
  rw [parse]
  cases parseItems limit text with
  | error fault => simp only [bind, Except.bind, Except.error.injEq]
  | ok items => exact iff_of_false nofun nofun

def inputName : String := "<input>"

def parseFile (disk : FileTree) (path : String) : Except Error Document :=
  match disk.read path with
  | .error fault => .error (.unreadableFile fault.message)
  | .ok text => parse path defaultLimit text

end Document

end ConfigLang
