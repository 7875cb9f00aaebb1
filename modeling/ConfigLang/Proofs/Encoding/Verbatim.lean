import Mathlib
import ConfigLang.Proofs.Encoding.Evaluation
import ConfigLang.Proofs.Grammar.Leaf
import ConfigLang.Proofs.Spacing.FinalNewline
import ConfigLang.Proofs.Spacing.Trailing
/-! Entries of one line, `[key] text`. In the key a backslash stands in front of each backslash and
each closing bracket; nothing else needs to be escaped there, and nothing at all behind the bracket.
What other characters mean elsewhere, they do not mean on such a line, so that a key and a text come
back as they are. -/
namespace ConfigLang

namespace Text

/-- A text on one line, with no white space at either end. -/
structure IsTrimmed (text : List Char) : Prop where
  inLine : ∀ c ∈ text, Pattern.isLineEnd c = false
  first : ∀ c ∈ text.head?, isBlank c = false
  last : ∀ c ∈ text.getLast?, isBlank c = false

theorem isTrimmed_iff {text : List Char} : IsTrimmed text ↔
    text.all (!Pattern.isLineEnd ·) = true ∧ text.head?.all (!isBlank ·) = true ∧
      text.getLast?.all (!isBlank ·) = true := by
  simp only [List.all_eq_true, Option.all_eq_true, Bool.not_eq_true']
  exact ⟨fun trimmed => ⟨trimmed.inLine, trimmed.first, trimmed.last⟩,
    fun ⟨inLine, first, last⟩ => ⟨inLine, first, last⟩⟩

instance IsTrimmed.decidable (text : List Char) : Decidable (IsTrimmed text) :=
  decidable_of_iff _ isTrimmed_iff.symm

theorem IsTrimmed.trim_eq {text : List Char} (trimmed : IsTrimmed text) : trim text = text :=
  trim_eq_self trimmed.first trimmed.last

theorem IsTrimmed.run_isBlank {text : List Char} (trimmed : IsTrimmed text) (nonempty : text ≠ [])
    (rest : List Char) : Pattern.run Pattern.isBlank (text ++ rest) = 0 := by
  obtain ⟨c, others, rfl⟩ := List.exists_cons_of_ne_nil nonempty
  have visible : ¬ Pattern.isBlank c = true := by
    intro blank
    have edge := trimmed.first c rfl
    rw [isBlank_of_patternBlank blank] at edge
    cases edge
  rw [Pattern.run, List.cons_append, List.takeWhile_cons_of_neg visible]
  rfl

end Text

section keys

/-- The text of a key in which brackets and backslashes stand for themselves. -/
def escapeKey (text : List Char) : List Char :=
  text.flatMap fun c => if c = '\\' ∨ c = ']' then ['\\', c] else [c]

theorem escapeKey_cons (c : Char) (text : List Char) :
    escapeKey (c :: text) =
      (if c = '\\' ∨ c = ']' then ['\\', c] else [c]) ++ escapeKey text :=
  List.flatMap_cons

theorem unescape_escapeKey (text : List Char) : Draft.unescape (escapeKey text) = text := by
  apply Grammar.unescapes_iff.1
  induction text with
  | nil => exact .nil
  | cons c text ih =>
    rw [escapeKey_cons]
    split
    · exact .escaped ih
    · next special => exact .plain (fun same => special (.inl same)) ih

theorem escaped_escapeKey {text : List Char}
    (inLine : ∀ c ∈ text, Pattern.isLineEnd c = false) :
    Pattern.Escaped Pattern.isKeyChar (escapeKey text) := by
  induction text with
  | nil => exact .nil
  | cons c text ih =>
    obtain ⟨here, later⟩ := List.forall_mem_cons.1 inLine
    rw [escapeKey_cons]
    by_cases special : c = '\\' ∨ c = ']'
    · have newline : c ≠ '\n' := by
        rintro rfl
        cases here
      rw [if_pos special]
      exact .escape newline (ih later)
    · rw [if_neg special]
      have plain := not_or.1 special
      exact .plain (Pattern.isKeyChar_iff.2 ⟨here, plain.2, plain.1⟩) (ih later)

theorem keyText_escapeKey {key : String} (trimmed : Text.IsTrimmed key.toList) :
    Draft.keyText (String.ofList (escapeKey key.toList)) = key := by
  rw [Draft.keyText, String.toList_ofList, unescape_escapeKey, trimmed.trim_eq,
    String.ofList_toList]

end keys

structure IsSimpleEntry (entry : String × String) : Prop where
  key : Text.IsTrimmed entry.1.toList
  text : Text.IsTrimmed entry.2.toList
  nonempty : entry.2 ≠ ""
  outside : entry.2.toList.head? ≠ some '\x7b'

instance IsSimpleEntry.decidable (entry : String × String) : Decidable (IsSimpleEntry entry) :=
  decidable_of_iff (Text.IsTrimmed entry.1.toList ∧ Text.IsTrimmed entry.2.toList ∧ entry.2 ≠ "" ∧
      entry.2.toList.head? ≠ some '\x7b')
    ⟨fun ⟨key, text, nonempty, outside⟩ => ⟨key, text, nonempty, outside⟩,
      fun ⟨key, text, nonempty, outside⟩ => ⟨key, text, nonempty, outside⟩⟩

def writeEntry (entry : String × String) : List Char :=
  '[' :: (escapeKey entry.1.toList ++ ']' :: ' ' :: entry.2.toList)

def writeEntries (entries : List (String × String)) : List Char :=
  entries.flatMap fun entry => writeEntry entry ++ ['\n']

def Item.HoldsEntry (entry : String × String) (item : Item) : Prop :=
  ∃ key text span, item = .tagged (.simple entry.1 key) (.text entry.2 text) none span

theorem Item.plain_of_holdsEntry {entries : List (String × String)} {items : List Item}
    (hold : List.Forall₂ HoldsEntry entries items) : ∀ item ∈ items, item.isTemplate = false := by
  induction hold with
  | nil => exact List.forall_mem_nil _
  | cons holds hold ih =>
    obtain ⟨key, text, span, rfl⟩ := holds
    exact List.forall_mem_cons.2 ⟨rfl, ih⟩

namespace Reading

section fits

variable {position : Position} {rest : List Char}

theorem fitting?_keyText {key : List Char} (escaped : Pattern.Escaped Pattern.isKeyChar key)
    (nonempty : key ≠ []) :
    Cursor.fitting? ⟨0, position, [.key, .main], key ++ ']' :: rest⟩ =
      some (⟨.keyText, .keyText, .stay⟩, key.length) := by
  have length : Pattern.keyText.length (key ++ ']' :: rest) = key.length :=
    Pattern.keyLength_append escaped (']' :: rest)
  have first : ∃ c others, key = c :: others ∧ Pattern.isLineEnd c = false ∧ c ≠ ']' := by
    cases escaped with
    | nil => exact absurd rfl nonempty
    | plain isPlain =>
      obtain ⟨lineEnd, bracket, _⟩ := Pattern.isKeyChar_iff.1 isPlain
      exact ⟨_, _, rfl, lineEnd, bracket⟩
    | escape => exact ⟨_, _, rfl, by decide, by decide⟩
  obtain ⟨c, others, rfl, lineEnd, bracket⟩ := first
  obtain ⟨carriage, newline⟩ : c ≠ '\r' ∧ c ≠ '\n' := by simpa [Pattern.isLineEnd] using lineEnd
  have closes : (Pattern.exactly [']']).length (c :: others ++ ']' :: rest) = 0 := by
    simp [Pattern.length, Ne.symm bracket]
  have ends : Pattern.newline.length (c :: others ++ ']' :: rest) = 0 :=
    Pattern.newline_misfit_of_other newline carriage _
  simp only [Cursor.fitting?, Cursor.mode, Mode.current, List.headD_cons, Mode.rules,
    List.findSome?_cons, closes, ends, length, List.length_cons]

theorem fitting?_freeText {text : List Char} (trimmed : Text.IsTrimmed text) (nonempty : text ≠ [])
    (outside : text.head? ≠ some '\x7b') :
    Cursor.fitting? ⟨0, position, [.line, .main], text ++ '\n' :: rest⟩ =
      some (⟨.line, .freeText, .stay⟩, text.length) := by
  obtain ⟨c, others, rfl⟩ := List.exists_cons_of_ne_nil nonempty
  obtain ⟨lineEnd, inLine⟩ := List.forall_mem_cons.1 trimmed.inLine
  obtain ⟨carriage, newline⟩ : c ≠ '\r' ∧ c ≠ '\n' := by simpa [Pattern.isLineEnd] using lineEnd
  have brace : c ≠ '\x7b' := by simpa using outside
  have blanks : Pattern.blanks.length (c :: others ++ '\n' :: rest) = 0 :=
    trimmed.run_isBlank nonempty _
  have ends : Pattern.newline.length (c :: others ++ '\n' :: rest) = 0 :=
    Pattern.newline_misfit_of_other newline carriage _
  have opens : (Pattern.exactly ['\x7b']).length (c :: others ++ '\n' :: rest) = 0 := by
    simp [Pattern.length, Ne.symm brace]
  have length : Pattern.freeText.length (c :: others ++ '\n' :: rest) = others.length + 1 := by
    have visible : Pattern.isBlank c = false := by
      have alone := trimmed.run_isBlank nonempty []
      cases blank : Pattern.isBlank c with
      | false => rfl
      | true => simp [Pattern.run, blank] at alone
    have starts : Pattern.startsFreeText c = true := by
      simp [Pattern.startsFreeText, visible, brace, lineEnd]
    have all : ∀ d ∈ others, (!Pattern.isLineEnd d) = true := by simpa using inLine
    rw [List.cons_append, Pattern.length, if_pos starts, Pattern.run,
      List.takeWhile_append_of_pos all]
    simp [Pattern.isLineEnd]
  simp only [Cursor.fitting?, Cursor.mode, Mode.current, List.headD_cons, Mode.rules,
    List.findSome?_cons, blanks, ends, opens, length, List.length_cons]

theorem fitting?_space {text : List Char} (trimmed : Text.IsTrimmed text) (nonempty : text ≠ []) :
    Cursor.fitting? ⟨0, position, [.line, .main], [' '] ++ (text ++ rest)⟩ =
      some (⟨.whitespace, .blanks, .stay⟩, 1) := by
  have blanks : Pattern.blanks.length ([' '] ++ (text ++ rest)) = 1 := by
    have none := trimmed.run_isBlank nonempty rest
    rw [Pattern.run] at none
    rw [List.singleton_append, Pattern.length, Pattern.run, List.takeWhile_cons_of_pos rfl,
      List.length_cons, none]
  simp only [Cursor.fitting?, Cursor.mode, Mode.current, List.headD_cons, Mode.rules,
    List.findSome?_cons, blanks]

end fits

variable (limit : Nat)

theorem run_key {key : String} (trimmed : Text.IsTrimmed key.toList) (position : Position)
    (rest : List Char) (blocks : List Draft.OpenBlock) (items : List Item) :
    ∃ position' bracket start, Run limit
      (.atItem position ('[' :: (escapeKey key.toList ++ ']' :: rest)) blocks items)
      ⟨⟨0, position', [.line, .main], rest⟩,
        ⟨blocks, items, .value (.tagged (.simple key bracket) none start) false⟩⟩ := by
  by_cases empty : key = ""
  · subst empty
    exact ⟨_, _, _, .head (.cut ['['] rfl rfl) <| .head (.cut [']'] rfl rfl) .refl⟩
  have escaped := escaped_escapeKey trimmed.inLine
  have nonempty : escapeKey key.toList ≠ [] := by
    intro nothing
    have back := unescape_escapeKey key.toList
    rw [nothing] at back
    exact empty (String.toList_inj.1 back.symm)
  have taken : ∀ bracket text span, Draft.push limit
      ⟨blocks, items, .keyEnd (String.ofList (escapeKey key.toList)) bracket none⟩
      ⟨.closeSquare, text, span⟩ =
        .ok ⟨blocks, items, .value (.tagged (.simple key (bracket.through span)) none bracket)
          false⟩ := by
    intro bracket text span
    simp only [Draft.push, Draft.pushInside, if_true, keyText_escapeKey trimmed]
    rfl
  exact ⟨_, _, _, .head (.cut ['['] rfl rfl) <|
    .head (.cut _ (fitting?_keyText escaped nonempty) rfl) <|
    .head (.cut [']'] rfl (taken _ _ _)) .refl⟩

theorem run_value {text : String} (trimmed : Text.IsTrimmed text.toList) (nonempty : text ≠ "")
    (outside : text.toList.head? ≠ some '\x7b') (entry : Draft.Entry) (position : Position)
    (rest : List Char) (blocks : List Draft.OpenBlock) (items : List Item) :
    ∃ position' span, Run limit
      ⟨⟨0, position, [.line, .main], ' ' :: (text.toList ++ '\n' :: rest)⟩,
        ⟨blocks, items, .value entry false⟩⟩
      (.atItem position' rest blocks (entry.item (.text text span) :: items)) := by
  have nonempty' : text.toList ≠ [] := fun nothing => nonempty (String.toList_inj.1 nothing)
  have taken : ∀ span, Draft.push limit ⟨blocks, items, .value entry false⟩
      ⟨.line, String.ofList text.toList, span⟩ =
        .ok ⟨blocks, items, .valueEnd entry (.text text span)⟩ := by
    intro span
    simp only [Draft.push, Draft.pushInside, trimmed.trim_eq, String.ofList_toList]
    rfl
  exact ⟨_, _, .head (.cut [' '] (fitting?_space trimmed nonempty') rfl) <|
    .head (.cut _ (fitting?_freeText trimmed nonempty' outside) (taken _)) <|
    .head (.cut ['\n'] rfl rfl) .refl⟩

theorem run_writeEntry {entry : String × String} (simple : IsSimpleEntry entry)
    (position : Position) (rest : List Char) (blocks : List Draft.OpenBlock) (items : List Item) :
    ∃ position' item, Item.HoldsEntry entry item ∧ Run limit
      (.atItem position (writeEntry entry ++ '\n' :: rest) blocks items)
      (.atItem position' rest blocks (item :: items)) := by
  obtain ⟨middle, bracket, start, front⟩ := run_key limit simple.key position
    (' ' :: (entry.2.toList ++ '\n' :: rest)) blocks items
  obtain ⟨position', span, back⟩ := run_value limit simple.text simple.nonempty simple.outside
    (.tagged (.simple entry.1 bracket) none start) middle rest blocks items
  have whole : writeEntry entry ++ '\n' :: rest =
      '[' :: (escapeKey entry.1.toList ++ ']' :: (' ' :: (entry.2.toList ++ '\n' :: rest))) := by
    simp [writeEntry]
  rw [whole]
  exact ⟨position', _, ⟨bracket, span, _, rfl⟩, front.trans back⟩

theorem run_writeEntries {entries : List (String × String)}
    (simple : ∀ entry ∈ entries, IsSimpleEntry entry) (position : Position)
    (blocks : List Draft.OpenBlock) (items : List Item) :
    ∃ position' tree, List.Forall₂ Item.HoldsEntry entries tree ∧ Run limit
      (.atItem position (writeEntries entries) blocks items)
      (.atItem position' [] blocks (tree.reverse ++ items)) := by
  induction entries generalizing position items with
  | nil => exact ⟨position, [], .nil, .refl⟩
  | cons entry entries ih =>
    obtain ⟨here, later⟩ := List.forall_mem_cons.1 simple
    obtain ⟨middle, item, holds, first⟩ :=
      run_writeEntry limit here position (writeEntries entries) blocks items
    obtain ⟨position', tree, others, behind⟩ := ih later middle (item :: items)
    have whole : writeEntries (entry :: entries) =
        writeEntry entry ++ '\n' :: writeEntries entries := by
      simp [writeEntries]
    rw [whole]
    refine ⟨position', item :: tree, .cons holds others, ?_⟩
    simpa using first.trans behind

theorem endsInLine_of_writeEntries {entries : List (String × String)} (nonempty : entries ≠ [])
    (simple : ∀ entry ∈ entries, IsSimpleEntry entry) {text : List Char}
    (written : text ++ ['\n'] = writeEntries entries) : Text.EndsInLine text := by
  obtain ⟨before, last, rfl⟩ := (entries.eq_nil_or_concat').resolve_left nonempty
  have shape := simple last (by simp)
  obtain ⟨front, c, value⟩ := (last.2.toList.eq_nil_or_concat').resolve_left fun nothing =>
    shape.nonempty (String.toList_inj.1 nothing)
  have visible : Text.isBlank c = false := shape.text.last c (by simp [value])
  have split : text = (writeEntries before ++
      '[' :: (escapeKey last.1.toList ++ ']' :: ' ' :: front)) ++ [c] := by
    refine (List.append_left_inj ['\n']).1 ?_
    rw [written]
    simp [writeEntries, writeEntry, value]
  rw [split]
  exact .of_concat visible

theorem parseItems_writeEntries {entries : List (String × String)} (nonempty : entries ≠ [])
    (simple : ∀ entry ∈ entries, IsSimpleEntry entry) {text : String}
    (written : text.toList = writeEntries entries ∨ text.toList ++ ['\n'] = writeEntries entries) :
    ∃ tree, List.Forall₂ Item.HoldsEntry entries tree ∧
      Document.parseItems limit text = .ok tree := by
  obtain ⟨position', tree, hold, run⟩ :=
    run_writeEntries limit simple .start [] []
  have whole {text : String} (same : text.toList = writeEntries entries) :
      Document.parseItems limit text = .ok tree := by
    rw [← same, List.append_nil] at run
    rw [parseItems_of_run run rfl]
    simp only [Draft.finish, Draft.endLine?, Draft.endValue, Option.getD_none,
      List.reverse_reverse]
  refine ⟨tree, hold, ?_⟩
  rcases written with same | same
  · exact whole same
  · have ends := endsInLine_of_writeEntries nonempty simple same
    have longer : (text ++ "\n").toList = writeEntries entries := by simpa using same
    have alike := Document.toOption_parseItems_newline limit ends
    rw [whole longer] at alike
    exact except_toOption_eq_some.1 alike

end Reading

namespace Eval

theorem addItems_entries {nested : NodeEval} {argument : Option Value}
    (leaves : ∀ text span, nested (.text text span) argument = .ok (some (.string text)))
    {entries : List (String × String)} {items : List Item}
    (hold : List.Forall₂ Item.HoldsEntry entries items) (before : Entries Value)
    (parent : Option (Path × Span)) (content : Bool) :
    ∃ content', addItems nested argument ⟨⟨some (.map before), false⟩, parent, content⟩ items =
      .ok ⟨⟨some (.map (entries.foldl
        (fun map entry => Entries.insert entry.1 (.string entry.2) map) before)), false⟩,
        parent, content'⟩ := by
  induction hold generalizing before content with
  | nil => exact ⟨content, rfl⟩
  | @cons entry item entries items holds hold ih =>
    obtain ⟨key, text, span, rfl⟩ := holds
    have named : keyText argument (.simple entry.1 key) = .ok entry.1 := rfl
    obtain ⟨content', added⟩ := ih (Entries.insert entry.1 (.string entry.2) before) true
    refine ⟨content', ?_⟩
    rw [addItems_cons (addItem_entry named (leaves entry.2 text) before false parent content span)]
    exact added

theorem evalDocument_entries {entries : List (String × String)} {items : List Item}
    (nonempty : entries ≠ []) (hold : List.Forall₂ Item.HoldsEntry entries items) (limit : Nat)
    (argument : Option Value) :
    evalDocument limit argument items =
      .ok (some (.map (Entries.ofPairs (entries.map fun entry => (entry.1, .string entry.2))))) := by
  have leaves (text : String) (span : Span) :
      evalNode [] limit limit (.text text span) argument = .ok (some (.string text)) := by
    rw [evalNode]
  obtain ⟨content, added⟩ := addItems_entries leaves hold [] none false
  have start : addItems (evalNode [] limit limit) argument .start items =
      addItems (evalNode [] limit limit) argument ⟨⟨some (.map []), false⟩, none, false⟩ items := by
    cases hold with
    | nil => exact absurd rfl nonempty
    | cons holds =>
      obtain ⟨key, text, span, rfl⟩ := holds
      exact addItems_start_entry _ span _
  simp only [evalDocument, declare_of_plain argument [] (Item.plain_of_holdsEntry hold), bind,
    Except.bind]
  rw [evalItems_of_addItems (start.trans added), Entries.ofPairs, List.foldl_map]

end Eval

namespace Document

/-- Simple entries are verbatim. Lines that each write a key and a text are read as one entry a
line, with just this key and this text, and whatever the limits and the argument they evaluate to a
map. It holds under each key the text of the last pair for it, and has the keys in the order in which
they first come. -/
theorem parse_writeEntries (filename : String) (limit : Nat) {entries : List (String × String)}
    (nonempty : entries ≠ []) (simple : ∀ entry ∈ entries, IsSimpleEntry entry) {text : String}
    (written : text.toList = writeEntries entries ∨ text.toList ++ ['\n'] = writeEntries entries) :
    ∃ document map, parse filename limit text = .ok document ∧
      List.Forall₂ Item.HoldsEntry entries document.items ∧
      (∀ depth argument, document.evaluate depth argument = .ok (some (.map map))) ∧
      (∀ key, Entries.get? key map =
        (entries.reverse.find? (·.1 = key)).map fun entry => .string entry.2) ∧
      Entries.keys map = (entries.map Prod.fst).eraseDups := by
  obtain ⟨tree, hold, read⟩ := Reading.parseItems_writeEntries limit nonempty simple written
  refine ⟨⟨tree, ⟨0, ⟨.start, endOf text⟩⟩, .single filename text⟩, _, by rw [parse, read]; rfl, hold,
    fun depth argument => Eval.evalDocument_entries nonempty hold depth argument, ?_, ?_⟩
  · intro key
    rw [Entries.ofPairs_map, Entries.get?_map, Entries.get?_ofPairs, Option.map_map]
    rfl
  · rw [Entries.keys_ofPairs, Entries.keys, List.map_map]
    rfl

theorem parse_writeEntries_marks :
    let entries := [("", "@from x"), ("a]\\ \x7b", "]\\"), ("# <<k>>\\", "\"é\" <<*>> + \x7b"),
      ("", "[k] \x7d")]
    let text := "[] @from x\n[a\\]\\\\ \x7b] ]\\\n[# <<k>>\\\\] \"é\" <<*>> + \x7b\n[] [k] \x7d"
    (∀ entry ∈ entries, IsSimpleEntry entry) ∧ text.toList ++ ['\n'] = writeEntries entries ∧
    ∃ document map, parse "marks" 0 text = .ok document ∧
      document.evaluate 0 none = .ok (some (.map map)) ∧
      Entries.keys map = ["", "a]\\ \x7b", "# <<k>>\\"] ∧
      Entries.get? "" map = some (.string "[k] \x7d") := by
  intro entries text
  have simple : ∀ entry ∈ entries, IsSimpleEntry entry := by decide
  have written : text.toList ++ ['\n'] = writeEntries entries := by decide
  obtain ⟨document, map, read, _, evaluated, held, keys⟩ :=
    parse_writeEntries "marks" 0 (by decide) simple (.inr written)
  refine ⟨simple, written, document, map, read, evaluated 0 none, ?_, ?_⟩
  · rw [keys]
    decide
  · rw [held]
    decide

end Document

end ConfigLang
