import Mathlib
import ConfigLang.Proofs.Redaction.Evaluation
import ConfigLang.Proofs.Spacing.Reading
/-! How the lines of a document end and how far they are indented does not matter. A text whose
newlines get carriage returns, or whose lines are moved to the right or to the left, is read if
and only if the text is; then both have the same items, up to spans, and evaluate alike. -/
namespace ConfigLang

namespace Text

def withReturns (text : List Char) : List Char :=
  text.flatMap fun c => if c = '\n' then ['\r', '\n'] else [c]

/-- The lines of the text, without the blanks that they start with. Lines are what newlines part. -/
def unindentedLines (text : List Char) : List (List Char) := (text.splitOn '\n').map unindent

theorem unindent_newline (line rest : List Char) :
    unindent (line ++ '\n' :: rest) = unindent line ++ '\n' :: rest := by
  induction line with
  | nil => rfl
  | cons c line ih =>
    cases blank : Pattern.isBlank c with
    | true => simpa [unindent, blank] using ih
    | false => simp [unindent, blank]

theorem not_mem_unindent {c : Char} {line : List Char} (absent : c ∉ line) : c ∉ unindent line :=
  fun member => absent ((List.dropWhile_sublist _).subset member)

theorem unindentedLines_line {line : List Char} (inLine : '\n' ∉ line) :
    unindentedLines line = [unindent line] := by
  rw [unindentedLines, List.splitOn_eq_singleton inLine]
  rfl

theorem unindentedLines_newline {line : List Char} (inLine : '\n' ∉ line) (rest : List Char) :
    unindentedLines (line ++ '\n' :: rest) = unindent line :: unindentedLines rest := by
  rw [unindentedLines, List.splitOn_append_cons_self_of_not_mem inLine]
  rfl

theorem unindentedLines_ne_nil (text : List Char) : unindentedLines text ≠ [] := by
  simp [unindentedLines]

end Text

namespace Respaced

open Text

variable {returns : Bool} {a b text : List Char}

theorem unindent (respaced : Respaced returns a b) :
    Respaced returns (unindent a) (unindent b) := by
  induction respaced with
  | done => exact .done
  | @char c a b inLine plain others ih =>
    cases blank : Pattern.isBlank c with
    | true => simpa [Text.unindent, blank] using ih
    | false => simpa [Text.unindent, blank] using Respaced.char inLine plain others
  | newline alone others => exact .newline alone others
  | carriage behind others => exact .carriage behind others

theorem prepend (inLine : '\n' ∉ text) (respaced : Respaced false a b) :
    Respaced false (text ++ a) (text ++ b) := by
  induction text with
  | nil => exact respaced
  | cons c text ih =>
    obtain ⟨first, others⟩ := List.ne_and_not_mem_of_not_mem_cons inLine
    exact .char first.symm nofun (ih others)

theorem withReturns (plain : '\r' ∉ text) : Respaced true text (withReturns text) := by
  induction text with
  | nil => exact .done
  | cons c text ih =>
    obtain ⟨first, others⟩ := List.ne_and_not_mem_of_not_mem_cons plain
    have rest := ih others
    by_cases newline : c = '\n'
    · subst newline
      exact .carriage rfl rest.unindent
    · have here : Text.withReturns (c :: text) = c :: Text.withReturns text := by
        simp [Text.withReturns, newline]
      rw [here]
      exact .char newline (fun _ => first.symm) rest

theorem of_unindentedLines (same : unindentedLines a = unindentedLines b) :
    Respaced false (Text.unindent a) (Text.unindent b) := by
  -- the lines are taken off the two texts side by side
  induction lines : unindentedLines a generalizing a b with
  | nil => exact absurd lines (unindentedLines_ne_nil a)
  | cons first rest ih =>
    by_cases more : '\n' ∈ a
    · obtain ⟨line, a, rfl, inLine⟩ := List.eq_append_cons_of_mem more
      rw [unindentedLines_newline inLine] at same lines
      by_cases more' : '\n' ∈ b
      · obtain ⟨line', b, rfl, inLine'⟩ := List.eq_append_cons_of_mem more'
        rw [unindentedLines_newline inLine'] at same
        obtain ⟨sameLine, others⟩ := List.cons.inj same
        have left := ih others (List.cons.inj lines).2
        rw [unindent_newline, unindent_newline, ← sameLine]
        exact prepend (not_mem_unindent inLine) (.newline rfl left)
      · rw [unindentedLines_line more'] at same
        exact absurd (List.cons.inj same).2 (unindentedLines_ne_nil a)
    · rw [unindentedLines_line more] at same
      by_cases more' : '\n' ∈ b
      · obtain ⟨line', b, rfl, inLine'⟩ := List.eq_append_cons_of_mem more'
        rw [unindentedLines_newline inLine'] at same
        exact absurd (List.cons.inj same).2.symm (unindentedLines_ne_nil b)
      · rw [unindentedLines_line more'] at same
        have line := prepend (not_mem_unindent more) .done
        rw [List.append_nil] at line
        rw [← (List.cons.inj same).1]
        exact line

end Respaced

namespace Document

open Redaction

/-- Either both texts are read, as documents that are alike, or neither is. -/
def SameReading (filename : String) (limit : Nat) (text text' : String) : Prop :=
  match parse filename limit text, parse filename limit text' with
  | .ok document, .ok document' => document.Alike document'
  | .error _, .error _ => True
  | _, _ => False

theorem sameReading_of_respaced {returns : Bool} {text text' : String}
    (respaced : Respaced returns (Text.unindent text.toList) (Text.unindent text'.toList))
    (filename : String) (limit : Nat) : SameReading filename limit text text' := by
  have abreast : Reading.Abreast returns ⟨(Cursor.start 0 text.toList).unindent, .empty⟩
      ⟨(Cursor.start 0 text'.toList).unindent, .empty⟩ :=
    ⟨respaced, rfl, List.mem_cons_self, rfl⟩
  have alike := Reading.readAlike_of_abreast limit ⟨0, .emptyAt (endOf text)⟩
    ⟨0, .emptyAt (endOf text')⟩ abreast
  have outside (comment : Draft.OpenComment) : Draft.empty.awaiting ≠ .commentEnd comment := nofun
  rw [Reading.ReadAlike, ← Reading.items?_unindent rfl outside,
    ← Reading.items?_unindent rfl outside, ← Reading.toOption_parseItems,
    ← Reading.toOption_parseItems] at alike
  cases read : parseItems limit text with
  | error fault =>
    cases read' : parseItems limit text' with
    | error fault' =>
      rw [SameReading, parse, parse, read, read']
      trivial
    | ok items' =>
      rw [read, read'] at alike
      cases alike
  | ok items =>
    cases read' : parseItems limit text' with
    | error fault' =>
      rw [read, read'] at alike
      cases alike
    | ok items' =>
      rw [read, read'] at alike
      rw [SameReading, parse, parse, read, read']
      exact alike_of_items (Option.some.inj alike)

/-- The style of the line ends does not matter. A text that gets carriage returns in front of its
newlines is read if and only if it is read without, as a document that is alike. -/
theorem sameReading_withReturns (filename : String) (limit : Nat) (text : String)
    (plain : '\r' ∉ text.toList) :
    SameReading filename limit text (String.ofList (Text.withReturns text.toList)) := by
  have respaced := (Respaced.withReturns plain).unindent
  rw [← String.toList_ofList (l := Text.withReturns text.toList)] at respaced
  exact sameReading_of_respaced respaced filename limit

theorem sameReading_withReturns_long_key :
    let text := "[\n# a\n\"b\"\n] \x7b\n\n- c\n\x7d\n"
    '\r' ∉ text.toList ∧ (∃ document, parse "key" 1 text = .ok document) ∧
      SameReading "key" 1 text (String.ofList (Text.withReturns text.toList)) := by
  intro text
  have plain : '\r' ∉ text.toList := by decide
  exact ⟨plain, ⟨_, by cbv⟩, sameReading_withReturns "key" 1 text plain⟩

/-- Indentation does not matter. Of two texts with the same lines but for the blanks at their starts
both are read or neither is, and they are read as documents that are alike. -/
theorem sameReading_of_unindentedLines (filename : String) (limit : Nat) {text text' : String}
    (same : Text.unindentedLines text.toList = Text.unindentedLines text'.toList) :
    SameReading filename limit text text' :=
  sameReading_of_respaced (Respaced.of_unindentedLines same) filename limit

theorem sameReading_of_unindentedLines_block :
    let text := "[a] \x7b\n- b\n\x7d\n"
    let text' := " [a] \x7b\n\t - b\n  \x7d\n  "
    Text.unindentedLines text.toList = Text.unindentedLines text'.toList ∧
      (∃ document, parse "block" 1 text = .ok document) ∧
      SameReading "block" 1 text text' := by
  intro text text'
  have same : Text.unindentedLines text.toList = Text.unindentedLines text'.toList := by decide
  exact ⟨same, ⟨_, by cbv⟩, sameReading_of_unindentedLines "block" 1 same⟩

end Document

end ConfigLang
