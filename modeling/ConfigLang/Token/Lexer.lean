import ConfigLang.Error
import ConfigLang.Token.Pattern
/-! Cutting a text into tokens. The lexer takes one token after another until no form of its
mode fits; what is left then, if anything, is an error. White space is a token too, so the
tokens of a text without error are the whole text. -/
namespace ConfigLang

structure Cursor where
  file : FileId
  position : Position
  /-- Top first. -/
  modes : List Mode
  rest : List Char
  deriving Repr, DecidableEq

namespace Cursor

def start (file : FileId) (text : List Char) : Cursor := ⟨file, .start, [.main], text⟩

def mode (cursor : Cursor) : Mode := Mode.current cursor.modes

def fitting? (cursor : Cursor) : Option (Rule × Nat) :=
  cursor.mode.rules.findSome? fun rule =>
    match rule.pattern.length cursor.rest with
    | 0 => none
    | n + 1 => some (rule, n + 1)

def token (cursor : Cursor) (rule : Rule) (n : Nat) : Token :=
  let text := cursor.rest.take n
  ⟨rule.kind, String.ofList text, ⟨cursor.file, ⟨cursor.position, cursor.position.advance text⟩⟩⟩

def pass (cursor : Cursor) (rule : Rule) (n : Nat) : Cursor :=
  ⟨cursor.file, cursor.position.advance (cursor.rest.take n), rule.change.apply cursor.modes,
    cursor.rest.drop n⟩

theorem fitting?_eq_some {cursor : Cursor} {rule : Rule} {n : Nat}
    (h : cursor.fitting? = some (rule, n)) :
    rule ∈ cursor.mode.rules ∧ rule.pattern.length cursor.rest = n ∧ 0 < n := by
  unfold fitting? at h
  obtain ⟨found, mem, fits⟩ := List.exists_of_findSome?_eq_some h
  split at fits
  · simp at fits
  · next m hm =>
    simp only [Option.some.injEq, Prod.mk.injEq] at fits
    obtain ⟨rfl, rfl⟩ := fits
    exact ⟨mem, hm, Nat.succ_pos m⟩

theorem length_pass {cursor : Cursor} {rule : Rule} {n : Nat}
    (h : cursor.fitting? = some (rule, n)) :
    (cursor.pass rule n).rest.length < cursor.rest.length := by
  obtain ⟨_, fits, pos⟩ := fitting?_eq_some h
  have := rule.pattern.length_le cursor.rest
  simp only [pass, List.length_drop]
  omega

/-- The error that the next character is. A quote can only be one that nothing closes. -/
def unmatched (cursor : Cursor) (found : Char) : Error :=
  let span : Span := ⟨cursor.file, ⟨cursor.position, cursor.position.step found⟩⟩
  if found = '"' then .invalidStringLiteral "unterminated string literal" span
  else .unexpectedCharacter found cursor.mode span

end Cursor

structure Scan where
  /-- Each token, and the modes behind it. -/
  steps : List (Token × List Mode)
  /-- Where no further token was found. -/
  last : Cursor
  deriving Repr, DecidableEq

namespace Scan

def behind (cursor : Cursor) : Scan :=
  match _fits : cursor.fitting? with
  | none => ⟨[], cursor⟩
  | some (rule, n) =>
    let next := cursor.pass rule n
    let scan := behind next
    ⟨(cursor.token rule n, next.modes) :: scan.steps, scan.last⟩
termination_by cursor.rest.length
decreasing_by exact Cursor.length_pass _fits

def ofText (file : FileId) (text : String) : Scan := behind (.start file text.toList)

def tokens (scan : Scan) : List Token := scan.steps.map Prod.fst

def error? (scan : Scan) : Option Error := scan.last.rest.head?.map scan.last.unmatched

end Scan

def tokenize (file : FileId) (text : String) : Except Error (List Token) :=
  let scan := Scan.ofText file text
  match scan.error? with
  | some error => .error error
  | none => .ok scan.tokens

end ConfigLang
