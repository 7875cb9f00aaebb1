import Mathlib.Logic.Relation
import ConfigLang.Document
/-! Reading a document as one run. Cutting a text into tokens and building a tree from them
are two passes over the document; step by step they are one, in which the draft takes each
token as soon as it is cut. -/
namespace ConfigLang.Reading

/-- Where reading stands: the text that is left, and the tree so far. -/
structure State where
  cursor : Cursor
  draft : Draft

abbrev State.atItem (position : Position) (rest : List Char) (blocks : List Draft.OpenBlock)
    (items : List Item) : State :=
  ⟨⟨0, position, [.main], rest⟩, ⟨blocks, items, .item⟩⟩

/-- One token is cut off the text and taken. -/
inductive Step (limit : Nat) : State → State → Prop
  | take {cursor : Cursor} {draft next : Draft} {rule : Rule} {n : Nat}
      (fits : cursor.fitting? = some (rule, n))
      (taken : draft.push limit (cursor.token rule n) = .ok next) :
      Step limit ⟨cursor, draft⟩ ⟨cursor.pass rule n, next⟩

theorem token_text (file : FileId) (position : Position) (modes : List Mode)
    (text rest : List Char) (rule : Rule) :
    Cursor.token ⟨file, position, modes, text ++ rest⟩ rule text.length =
      ⟨rule.kind, String.ofList text, ⟨file, ⟨position, position.advance text⟩⟩⟩ := by
  simp only [Cursor.token, List.take_left]

theorem pass_text (file : FileId) (position : Position) (modes : List Mode)
    (text rest : List Char) (rule : Rule) :
    Cursor.pass ⟨file, position, modes, text ++ rest⟩ rule text.length =
      ⟨file, position.advance text, rule.change.apply modes, rest⟩ := by
  simp only [Cursor.pass, List.take_left, List.drop_left]

theorem Step.cut {limit : Nat} {file : FileId} {position : Position} {modes : List Mode}
    {rest : List Char} {rule : Rule} {draft next : Draft} (text : List Char)
    (fits : Cursor.fitting? ⟨file, position, modes, text ++ rest⟩ = some (rule, text.length))
    (taken : draft.push limit
      ⟨rule.kind, String.ofList text, ⟨file, ⟨position, position.advance text⟩⟩⟩ = .ok next) :
    Step limit ⟨⟨file, position, modes, text ++ rest⟩, draft⟩
      ⟨⟨file, position.advance text, rule.change.apply modes, rest⟩, next⟩ := by
  rw [← pass_text file position modes text rest rule]
  rw [← token_text file position modes text rest rule] at taken
  exact .take fits taken

abbrev Run (limit : Nat) : State → State → Prop := Relation.ReflTransGen (Step limit)

theorem fitting?_eq_none {cursor : Cursor} (done : cursor.rest = []) :
    cursor.fitting? = none := by
  cases found : cursor.fitting? with
  | none => rfl
  | some fit =>
    obtain ⟨rule, n⟩ := fit
    obtain ⟨_, fits, pos⟩ := Cursor.fitting?_eq_some found
    have bound := rule.pattern.length_le cursor.rest
    rw [fits, done] at bound
    exact absurd pos (Nat.not_lt.2 bound)

theorem behind_of_misfit {cursor : Cursor} (misfit : cursor.fitting? = none) :
    Scan.behind cursor = ⟨[], cursor⟩ := by
  rw [Scan.behind]
  split
  · rfl
  · next rule n found => rw [misfit] at found; cases found

theorem behind_of_done {cursor : Cursor} (done : cursor.rest = []) :
    Scan.behind cursor = ⟨[], cursor⟩ :=
  behind_of_misfit (fitting?_eq_none done)

theorem behind_of_fits {cursor : Cursor} {rule : Rule} {n : Nat}
    (fits : cursor.fitting? = some (rule, n)) :
    (Scan.behind cursor).tokens = cursor.token rule n :: (Scan.behind (cursor.pass rule n)).tokens ∧
      (Scan.behind cursor).last = (Scan.behind (cursor.pass rule n)).last := by
  rw [Scan.behind]
  split
  · next none => rw [fits] at none; cases none
  · next rule' n' found =>
    rw [fits] at found
    cases found
    exact ⟨rfl, rfl⟩

theorem pushAll_behind {limit : Nat} {a b : State} (run : Run limit a b) :
    a.draft.pushAll limit (Scan.behind a.cursor).tokens =
        b.draft.pushAll limit (Scan.behind b.cursor).tokens ∧
      (Scan.behind a.cursor).last = (Scan.behind b.cursor).last := by
  induction run using Relation.ReflTransGen.head_induction_on with
  | refl => exact ⟨rfl, rfl⟩
  | head step _ ih =>
    obtain ⟨fits, taken⟩ := step
    obtain ⟨tokens, last⟩ := behind_of_fits fits
    rw [tokens, last, ← ih.1, ← ih.2]
    simp only [Draft.pushAll, taken, bind, Except.bind, and_self]

/-- A run to the end of the text decides what the text is read as. -/
theorem parseItems_of_run {limit : Nat} {text : String} {cursor : Cursor} {draft : Draft}
    (run : Run limit ⟨.start 0 text.toList, .empty⟩ ⟨cursor, draft⟩) (done : cursor.rest = []) :
    Document.parseItems limit text = draft.finish ⟨0, .emptyAt (Document.endOf text)⟩ := by
  obtain ⟨built, last⟩ := pushAll_behind run
  simp only [behind_of_done done] at built last
  simp only [Document.parseItems, tokenize, Scan.ofText, Scan.error?, last, done,
    List.head?_nil, Option.map_none, bind, Except.bind, built]
  rfl

end ConfigLang.Reading
