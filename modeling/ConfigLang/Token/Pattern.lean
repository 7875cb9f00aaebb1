import ConfigLang.Token.Basic
import ConfigLang.Token.Mode
/-! The forms that tokens take, and which of them each mode knows. Every form is the longest
stretch of its kind; of several forms that fit, the first in the mode's list wins. -/
namespace ConfigLang

inductive Pattern
  | blanks
  | newline
  | exactly (text : List Char)
  | directive
  | stringLiteral
  | identifier
  | keyText
  | freeText
  deriving Repr, DecidableEq

namespace Pattern

def isBlank (c : Char) : Bool := c == ' ' || c == '\t'

def isLetterOrDigit (c : Char) : Bool :=
  ('A' ≤ c && c ≤ 'Z') || ('a' ≤ c && c ≤ 'z') || ('0' ≤ c && c ≤ '9')

def isDirectiveChar (c : Char) : Bool := isLetterOrDigit c || c == '_'

def isIdentifierChar (c : Char) : Bool := isLetterOrDigit c || c == '_' || c == '-'

def isLineEnd (c : Char) : Bool := c == '\r' || c == '\n'

def startsFreeText (c : Char) : Bool := !isBlank c && c != '\x7b' && !isLineEnd c

def run (p : Char → Bool) (cs : List Char) : Nat := (cs.takeWhile p).length

/-- How many characters follow the opening quote of a string literal up to and including the
closing one. A backslash takes the next character with it. -/
def literalTail? : List Char → Option Nat
  | [] => none
  | ['\\'] => none
  | '\\' :: c :: rest => if c = '\n' then none else (literalTail? rest).map (· + 2)
  | c :: rest =>
    if c = '"' then some 1 else if c = '\n' then none else (literalTail? rest).map (· + 1)

/-- How many characters belong to a key. A backslash takes the next character with it; alone
it ends the key. -/
def keyLength : List Char → Nat
  | [] => 0
  | ['\\'] => 0
  | '\\' :: c :: rest => if c = '\n' then 0 else keyLength rest + 2
  | c :: rest => if isLineEnd c || c = ']' then 0 else keyLength rest + 1

def length : Pattern → List Char → Nat
  | blanks, cs => run isBlank cs
  | newline, '\n' :: _ => 1
  | newline, '\r' :: '\n' :: _ => 2
  | newline, _ => 0
  | exactly text, cs => if text.isPrefixOf cs then text.length else 0
  | directive, '@' :: cs =>
    let name := run isDirectiveChar cs
    if name = 0 then 0 else name + 1
  | directive, _ => 0
  | stringLiteral, '"' :: cs =>
    match literalTail? cs with
    | none => 0
    | some n => n + 1
  | stringLiteral, _ => 0
  | identifier, c :: cs => if isLetterOrDigit c then run isIdentifierChar cs + 1 else 0
  | identifier, [] => 0
  | keyText, cs => keyLength cs
  | freeText, c :: cs => if startsFreeText c then run (!isLineEnd ·) cs + 1 else 0
  | freeText, [] => 0

theorem run_le (p : Char → Bool) (cs : List Char) : run p cs ≤ cs.length :=
  (List.takeWhile_sublist p).length_le

theorem literalTail?_le {cs : List Char} {n : Nat} (h : literalTail? cs = some n) :
    n ≤ cs.length := by
  fun_induction literalTail? cs generalizing n with
  | case1 => simp at h
  | case2 => simp at h
  | case3 => simp at h
  | case4 c rest _ ih =>
    obtain ⟨m, hm, rfl⟩ := Option.map_eq_some_iff.1 h
    have := ih hm
    simp only [List.length_cons]
    omega
  | case5 =>
    simp only [Option.some.injEq] at h
    simp only [List.length_cons]
    omega
  | case6 => simp at h
  | case7 c rest _ _ _ _ ih =>
    obtain ⟨m, hm, rfl⟩ := Option.map_eq_some_iff.1 h
    have := ih hm
    simp only [List.length_cons]
    omega

theorem keyLength_le (cs : List Char) : keyLength cs ≤ cs.length := by
  fun_induction keyLength cs with
  | case1 => exact Nat.zero_le _
  | case2 => exact Nat.zero_le _
  | case3 => exact Nat.zero_le _
  | case4 c rest _ ih =>
    simp only [List.length_cons]
    omega
  | case5 => exact Nat.zero_le _
  | case6 c rest _ _ _ ih =>
    simp only [List.length_cons]
    omega

theorem length_le (pattern : Pattern) (cs : List Char) : pattern.length cs ≤ cs.length := by
  unfold length
  split
  · exact run_le _ _
  · simp
  · simp
  · exact Nat.zero_le _
  · next text =>
    split
    · next h => exact (List.isPrefixOf_iff_prefix.1 h).length_le
    · exact Nat.zero_le _
  · next cs =>
    have := run_le isDirectiveChar cs
    simp only [List.length_cons]
    split <;> omega
  · exact Nat.zero_le _
  · next cs =>
    split
    · exact Nat.zero_le _
    · next n h =>
      have := literalTail?_le h
      simp only [List.length_cons]
      omega
  · exact Nat.zero_le _
  · next c cs =>
    have := run_le isIdentifierChar cs
    simp only [List.length_cons]
    split <;> omega
  · exact Nat.zero_le _
  · exact keyLength_le _
  · next c cs =>
    have := run_le (!isLineEnd ·) cs
    simp only [List.length_cons]
    split <;> omega
  · exact Nat.zero_le _

end Pattern

structure Rule where
  kind : Token.Kind
  pattern : Pattern
  change : Mode.Change
  deriving Repr, DecidableEq

def Mode.rules : Mode → List Rule
  | .main => [
      ⟨.whitespace, .blanks, .stay⟩,
      ⟨.newline, .newline, .stay⟩,
      ⟨.openAngled, .exactly ['<', '<'], .push .placeholder⟩,
      ⟨.openCurly, .exactly ['\x7b'], .push .line⟩,
      ⟨.closeCurly, .exactly ['\x7d'], .stay⟩,
      ⟨.openSquare, .exactly ['['], .push .key⟩,
      ⟨.hash, .exactly ['#'], .push .line⟩,
      ⟨.minus, .exactly ['-'], .push .line⟩,
      ⟨.plus, .exactly ['+'], .stay⟩,
      ⟨.dot, .exactly ['.'], .stay⟩,
      ⟨.directive, .directive, .stay⟩,
      ⟨.stringLiteral, .stringLiteral, .stay⟩,
      ⟨.identifier, .identifier, .stay⟩]
  | .key => [
      ⟨.closeSquare, .exactly [']'], .switch .line⟩,
      ⟨.newline, .newline, .switch .multilineKey⟩,
      ⟨.keyText, .keyText, .stay⟩]
  | .line => [
      ⟨.whitespace, .blanks, .stay⟩,
      ⟨.newline, .newline, .pop⟩,
      ⟨.openCurly, .exactly ['\x7b'], .stay⟩,
      ⟨.line, .freeText, .stay⟩]
  | .multilineKey => [
      ⟨.whitespace, .blanks, .stay⟩,
      ⟨.newline, .newline, .stay⟩,
      ⟨.closeSquare, .exactly [']'], .pop⟩,
      ⟨.hash, .exactly ['#'], .push .line⟩,
      ⟨.plus, .exactly ['+'], .stay⟩,
      ⟨.openAngled, .exactly ['<', '<'], .push .placeholder⟩,
      ⟨.stringLiteral, .stringLiteral, .stay⟩]
  | .placeholder => [
      ⟨.whitespace, .blanks, .stay⟩,
      ⟨.closeAngled, .exactly ['>', '>'], .pop⟩,
      ⟨.dot, .exactly ['.'], .stay⟩,
      ⟨.star, .exactly ['*'], .stay⟩,
      ⟨.identifier, .identifier, .stay⟩,
      ⟨.stringLiteral, .stringLiteral, .stay⟩]

end ConfigLang
