import ConfigLang.Proofs.Eval.BlockShape
import ConfigLang.Proofs.Eval.Resolved
/-! Joined lines. A block of string lines and the joining of lines for keys and values keep track of
a break that is due in their own ways. Both come to the pieces of the lines in order, with a break
between two lines unless a `+` stands at the end of the first or the start of the second. -/
namespace ConfigLang

def Item.line? : Item → Option StringLine
  | .strings line => some line
  | _ => none

theorem Item.line?_of_trivia {item : Item} (trivia : item.isTrivia = true) : item.line? = none := by
  cases item with
  | strings line => cases trivia
  | _ => rfl

theorem Item.plain_of_line {item : Item}
    (here : item.isTrivia = true ∨ ∃ line, item = .strings line) :
    item.isInherit = false ∧ item.isTemplate = false := by
  rcases here with trivia | ⟨line, rfl⟩
  · cases item with
    | blank span | comment comment => exact ⟨rfl, rfl⟩
    | _ => cases trivia
  · exact ⟨rfl, rfl⟩

def StringLine.startsWithPlus (line : StringLine) : Bool :=
  line.elements.head?.any StringElement.isPlus

namespace Eval

def heldText (argument : Option Value) (path : Path) : String :=
  ((argument.bind (Value.select? path.components)).bind Value.text?).getD ""

def pieceText (argument : Option Value) : StringElement → String
  | .literal text _ => text
  | .placeholder path => heldText argument path
  | .plus _ => ""

def lineText (argument : Option Value) (line : StringLine) : String :=
  String.join (line.elements.map (pieceText argument))

/-- What stands between a line and the one before it, if there is one. -/
def separator : Option StringLine → StringLine → String
  | none, _ => ""
  | some before, line => if before.endsWithPlus || line.startsWithPlus then "" else "\n"

def joinedText (argument : Option Value) (lines : List StringLine) : String :=
  String.join (List.zipWith (fun before line => separator before line ++ lineText argument line)
    (none :: lines.map some) lines)

section texts

variable {argument : Option Value}

theorem placeholderText_of_holdsText {path : Path} (holds : HoldsText argument path) :
    placeholderText argument path = .ok (heldText argument path) := by
  obtain ⟨text, selected, full⟩ := holds
  have found : lookup argument path = .ok (.string text) := by rw [lookup, selected]
  have held : heldText argument path = text := by rw [heldText, selected]; rfl
  rw [placeholderText, found, held]
  exact if_neg full

theorem appendElements_cons {element : StringElement}
    (holds : ∀ path, element.path? = some path → HoldsText argument path) (text : String)
    (breakDue : Bool) (rest : List StringElement) :
    appendElements argument text breakDue (element :: rest) =
      appendElements argument
        (text ++ (if breakDue && !element.isPlus then "\n" else "") ++ pieceText argument element)
        false rest := by
  cases element with
  | plus span => simp [appendElements, StringElement.isPlus, pieceText]
  | literal piece span => simp [appendElements, StringElement.isPlus, pieceText]
  | placeholder path =>
    rw [appendElements, placeholderText_of_holdsText (holds path rfl)]
    simp only [StringElement.isPlus, Bool.not_false, Bool.and_true]
    rfl

theorem appendElements_false {elements : List StringElement}
    (holds : ∀ path ∈ elements.filterMap StringElement.path?, HoldsText argument path)
    (text : String) :
    appendElements argument text false elements =
      .ok (text ++ String.join (elements.map (pieceText argument))) := by
  induction elements generalizing text with
  | nil => simp [appendElements]
  | cons element rest ih =>
    simp only [List.forall_mem_filterMap, List.mem_cons, forall_eq_or_imp] at holds
    rw [appendElements_cons holds.1, ih (List.forall_mem_filterMap.2 holds.2)]
    simp [String.append_assoc]

/-- A break that is due behind one line and before the next. -/
def breaksBehind (before : Option StringLine) : Bool := before.any fun line => !line.endsWithPlus

theorem separator_eq (before : Option StringLine) (line : StringLine) :
    separator before line = if breaksBehind before && !line.startsWithPlus then "\n" else "" := by
  cases before with
  | none => rfl
  | some before =>
    cases ends : before.endsWithPlus <;> cases starts : line.startsWithPlus <;>
      simp [separator, breaksBehind, ends, starts]

theorem appendElements_line {line : StringLine} (full : line.elements ≠ [])
    (holds : ∀ path ∈ line.paths, HoldsText argument path) (text : String)
    (before : Option StringLine) :
    appendElements argument text (breaksBehind before) line.elements =
      .ok (text ++ (separator before line ++ lineText argument line)) := by
  obtain ⟨elements, span⟩ := line
  cases elements with
  | nil => exact absurd rfl full
  | cons element rest =>
    simp only [StringLine.paths, List.forall_mem_filterMap, List.mem_cons, forall_eq_or_imp]
      at holds
    rw [appendElements_cons holds.1, appendElements_false (List.forall_mem_filterMap.2 holds.2),
      separator_eq]
    simp [StringLine.startsWithPlus, lineText, String.append_assoc]

theorem appendLines_eq {lines : List StringLine} (full : ∀ line ∈ lines, line.elements ≠ [])
    (holds : ∀ path ∈ lines.flatMap StringLine.paths, HoldsText argument path) (text : String)
    (before : Option StringLine) :
    appendLines argument text (breaksBehind before) lines =
      .ok (text ++ String.join (List.zipWith
        (fun before line => separator before line ++ lineText argument line)
        (before :: lines.map some) lines)) := by
  induction lines generalizing text before with
  | nil => simp [appendLines]
  | cons line rest ih =>
    obtain ⟨fullHere, fullLater⟩ := List.forall_mem_cons.1 full
    rw [List.flatMap_cons, List.forall_mem_append] at holds
    rw [appendLines, appendElements_line fullHere holds.1]
    refine (ih fullLater holds.2 _ (some line)).trans ?_
    simp [String.append_assoc]

theorem joinLines_eq_ok_iff {lines : List StringLine} (full : ∀ line ∈ lines, line.elements ≠ [])
    (text : String) :
    joinLines argument lines = .ok text ↔
      (∀ path ∈ lines.flatMap StringLine.paths, HoldsText argument path) ∧
        text = joinedText argument lines := by
  have closed (holds : ∀ path ∈ lines.flatMap StringLine.paths, HoldsText argument path) :
      joinLines argument lines = .ok (joinedText argument lines) := by
    refine (appendLines_eq full holds "" none).trans ?_
    rw [String.empty_append]
    rfl
  constructor
  · intro joined
    have holds := holdsText_of_appendLines joined
    exact ⟨holds, Except.ok.inj (joined.symm.trans (closed holds))⟩
  · rintro ⟨holds, rfl⟩
    exact closed holds

end texts

section block

variable {nested : NodeEval} {argument : Option Value}

theorem gather_line (nested : NodeEval) (argument : Option Value) (text : String) (breakDue : Bool)
    (line : StringLine) :
    Accumulator.gather nested argument ⟨some (.string text), breakDue⟩ (.strings line) =
      (appendElements argument text breakDue line.elements).map fun whole =>
        ⟨some (.string whole), !line.endsWithPlus⟩ := by
  simp only [Accumulator.gather, addItem, Accumulator.lock, Value.shape, if_true,
    Accumulator.appendLine, bind, Except.bind]
  cases appendElements argument text breakDue line.elements <;> rfl

theorem foldlM_gather_lines {items : List Item}
    (lines : ∀ item ∈ items, item.isTrivia = true ∨ ∃ line, item = .strings line) (text : String)
    (breakDue : Bool) :
    (items.foldlM (Accumulator.gather nested argument) ⟨some (.string text), breakDue⟩).map
        Accumulator.value =
      (appendLines argument text breakDue (items.filterMap Item.line?)).map
        fun whole => some (.string whole) := by
  induction items generalizing text breakDue with
  | nil => rfl
  | cons item rest ih =>
    obtain ⟨here, later⟩ := List.forall_mem_cons.1 lines
    rw [List.foldlM_cons]
    rcases here with trivia | ⟨line, rfl⟩
    · rw [gather_trivia trivia, List.filterMap_cons_none (Item.line?_of_trivia trivia)]
      exact ih later text breakDue
    · have first : (Item.strings line :: rest).filterMap Item.line? =
          line :: rest.filterMap Item.line? := rfl
      rw [gather_line, first, appendLines]
      cases appendElements argument text breakDue line.elements with
      | error error => rfl
      | ok whole => exact ih later whole (!line.endsWithPlus)

theorem evalItems_lines {items : List Item}
    (lines : ∀ item ∈ items, item.isTrivia = true ∨ ∃ line, item = .strings line)
    (lined : items.filterMap Item.line? ≠ []) (apply : TemplateEval) :
    evalItems nested apply argument items =
      (joinLines argument (items.filterMap Item.line?)).map fun whole => some (.string whole) := by
  have others : ∀ item ∈ items, item.isInherit = false :=
    fun item member => (Item.plain_of_line (lines item member)).1
  rw [evalItems_eq_foldlM apply others, foldlM_gather_of_shape .string]
  · exact foldlM_gather_lines lines "" false
  · intro item member
    rcases lines item member with trivia | ⟨line, rfl⟩
    · exact .inl trivia
    · exact .inr rfl
  · obtain ⟨line, member⟩ := List.exists_mem_of_ne_nil _ lined
    obtain ⟨item, there, same⟩ := List.mem_filterMap.1 member
    refine ⟨item, there, Bool.eq_false_iff.2 fun trivia => ?_⟩
    rw [Item.line?_of_trivia trivia] at same
    cases same

/-- Both ways of joining lines come to the same. A block of string lines, with blank lines and
comments between them, has the outcome of joining its lines, as a block inside a document and as the
whole of one. They can be joined just if all that their placeholders name is there. The text is that
of the lines in order, with a break between two of them unless the first ends or the second starts
with a `+`. -/
theorem block_joins_lines {items : List Item}
    (lines : ∀ item ∈ items, item.isTrivia = true ∨ ∃ line, item = .strings line)
    (lined : items.filterMap Item.line? ≠ [])
    (full : ∀ line ∈ items.filterMap Item.line?, line.elements ≠ []) (argument : Option Value)
    (templates : Templates) (limit depth : Nat) (span : Span) :
    evalNode templates limit (depth + 1) (.block items span) argument =
        (joinLines argument (items.filterMap Item.line?)).map (fun text => some (.string text)) ∧
      evalDocument limit argument items =
        (joinLines argument (items.filterMap Item.line?)).map (fun text => some (.string text)) ∧
      ∀ text, joinLines argument (items.filterMap Item.line?) = .ok text ↔
        (∀ path ∈ (items.filterMap Item.line?).flatMap StringLine.paths, HoldsText argument path) ∧
          text = joinedText argument (items.filterMap Item.line?) := by
  have plain : ∀ item ∈ items, item.isTemplate = false :=
    fun item member => (Item.plain_of_line (lines item member)).2
  refine ⟨?_, ?_, fun text => joinLines_eq_ok_iff full text⟩
  · rw [evalNode_block plain]
    exact evalItems_lines lines lined _
  · rw [evalDocument, declare_of_plain argument [] plain]
    exact evalItems_lines lines lined _

/-- A `+` at the end of the first line, one that is all of a line, and one inside a line, which does
nothing. A comment and a blank line stand between the lines. Without an argument the placeholder
fails in the same way in a block. -/
theorem block_joins_lines_around_plus :
    let literal (text : String) : StringElement := .literal text default
    let plus : StringElement := .plus default
    let read : StringElement := .placeholder ⟨["p"], default⟩
    let line (elements : List StringElement) : Item := .strings ⟨elements, default⟩
    let items : List Item := [.blank default, line [literal "a", plus], .comment ⟨"", default⟩,
      line [literal "", read], .blank default, line [plus], line [literal "b"],
      line [literal "c", plus, literal "d"]]
    let argument : Option Value := some (.map [("p", .string "v")])
    (∀ item ∈ items, item.isTrivia = true ∨ ∃ line, item = .strings line) ∧
      items.filterMap Item.line? ≠ [] ∧
      (∀ line ∈ items.filterMap Item.line?, line.elements ≠ []) ∧
      joinedText argument (items.filterMap Item.line?) = "avb\ncd" ∧
      evalDocument 0 argument items = .ok (some (.string "avb\ncd")) ∧
      evalNode [] 1 1 (.block items default) none =
        .error (.missingPlaceholder "p" default) := by
  intro literal plus read line items argument
  have lines : ∀ item ∈ items, item.isTrivia = true ∨ ∃ line, item = .strings line := by
    simp [items, line, Item.isTrivia]
  have lined : items.filterMap Item.line? ≠ [] := by decide
  have full : ∀ line ∈ items.filterMap Item.line?, line.elements ≠ [] := by decide
  obtain ⟨_, whole, closed⟩ := block_joins_lines lines lined full argument [] 0 0 default
  have holds : ∀ path ∈ (items.filterMap Item.line?).flatMap StringLine.paths,
      HoldsText argument path := List.forall_mem_singleton.2 ⟨"v", rfl, by decide⟩
  have joined : joinedText argument (items.filterMap Item.line?) = "avb\ncd" := rfl
  rw [(closed _).2 ⟨holds, joined.symm⟩] at whole
  have failed := (block_joins_lines lines lined full none [] 1 0 default).1
  exact ⟨lines, lined, full, joined, whole, failed⟩

end block

end Eval

end ConfigLang
