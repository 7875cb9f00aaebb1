import ConfigLang.Proofs.Grammar.Sound
import ConfigLang.Proofs.Syntax.Row
import ConfigLang.Proofs.Token.Ahead
/-! The spans of a tree that is read are exact. Each relation of the grammar turns the tokens that
it takes into a row of sound layouts, in front of the tokens that it leaves; so the layout of a
document is sound in its text. -/
namespace ConfigLang

def Lays (source : List Char) (low : Nat) (parts : List Layout) (rest : List Token) : Prop :=
  ∃ high, Row source low parts high ∧ Ahead source high rest

section lays

variable {source : List Char} {low low' : Nat} {parts others : List Layout} {last : Layout}
  {first closing : Token} {ts rest : List Token} {span : Span}

theorem Ahead.tail (ahead : Ahead source low (first :: ts)) : Ahead source low ts :=
  ahead.sublist (List.sublist_cons_self first ts)

theorem Token.Placed.sound_leaf (placed : first.Placed source)
    (inText : first.kind.endsInText = true) : (Layout.leaf first.span).Sound source :=
  .node placed.lies (placed.ends inText) nofun .nil nofun

namespace Lays

theorem nil (ahead : Ahead source low ts) : Lays source low [] ts :=
  ⟨low, .nil (Nat.le_refl _), ahead⟩

theorem lower (lays : Lays source low parts rest) (le : low' ≤ low) :
    Lays source low' parts rest := by
  obtain ⟨high, row, ahead⟩ := lays
  exact ⟨high, row.widen le (Nat.le_refl _), ahead⟩

theorem append (front : Lays source low parts ts)
    (behind : ∀ {mid : Nat}, Ahead source mid ts → Lays source mid others rest) :
    Lays source low (parts ++ others) rest := by
  obtain ⟨mid, row, ahead⟩ := front
  obtain ⟨high, row', ahead'⟩ := behind ahead
  exact ⟨high, row.append row', ahead'⟩

theorem forget (lays : Lays source low parts rest) : Lays source low [] rest := by
  obtain ⟨high, row, ahead⟩ := lays
  exact ⟨high, .nil row.le, ahead⟩

theorem leaf (ahead : Ahead source low (first :: rest))
    (inText : first.kind.endsInText = true) : Lays source low [.leaf first.span] rest := by
  obtain ⟨le, placed, others⟩ := ahead.uncons
  exact ⟨_, .single (placed.sound_leaf inText) le (Nat.le_refl _), others⟩

theorem blank (ahead : Ahead source low (first :: rest)) :
    Lays source low [.lines first.span []] rest := by
  obtain ⟨le, placed, others⟩ := ahead.uncons
  have sound : (Layout.lines first.span []).Sound source := .lines placed.lies nofun .nil nofun
  exact ⟨_, .single sound le (Nat.le_refl _), others⟩

theorem enclose (lies : span.Lies source) (inText : closing.kind.endsInText = true)
    (between : Lays source span.range.stop.offset parts (closing :: rest)) :
    ∃ high, span.range.stop.offset ≤ high ∧
      Row source span.range.start.offset [.node (span.through closing.span) parts] high ∧
      Ahead source high rest := by
  obtain ⟨mid, row, ahead⟩ := between
  obtain ⟨le, placed, others⟩ := ahead.uncons
  have ordered := lies.ordered
  have ordered' := placed.lies.ordered
  have behind := row.le
  have whole := row.widen ordered (le.trans ordered')
  have stops : span.range.stop.offset ≤ closing.span.range.stop.offset := by omega
  have starts : span.range.start.offset ≤ closing.span.range.start.offset := by omega
  exact ⟨_, stops, .through lies placed.lies (placed.ends inText) starts stops whole, others⟩

theorem lead (lies : span.Lies source) (isNode : last.isNode = true)
    (behind : Lays source span.range.stop.offset [last] rest) :
    Lays source span.range.start.offset [.node (span.through last.span) [last]] rest := by
  obtain ⟨high, row, ahead⟩ := behind
  have above := (row.bounds last List.mem_cons_self).1
  have ordered := (row.sound last List.mem_cons_self).lies.ordered
  have whole : Row source span.range.start.offset ([] ++ [last]) high :=
    row.widen lies.ordered (Nat.le_refl _)
  exact ⟨high, whole.toLast lies isNode (above.trans ordered), ahead⟩

end Lays

end lays

namespace Grammar

section lines

variable {source : List Char} {low : Nat} {opening closing : Token}
  {components : List (String × Span)} {ts body rest : List Token}

theorem lays_lineEnd {orEnd : Bool} {parts : List Layout} (ended : IsLineEnd orEnd ts rest)
    (lays : Lays source low parts ts) : Lays source low parts rest := by
  obtain ⟨high, row, ahead⟩ := lays
  cases ended with
  | newline => exact ⟨high, row, ahead.tail⟩
  | endOfInput => exact ⟨high, row, ahead⟩

theorem endsInText_of_component {token : Token} {name : String}
    (component : IsComponent token name) : token.kind.endsInText = true := by
  cases component with
  | identifier kind | literal kind => simp [kind]

theorem lays_of_isPath (path : IsPath ts components rest) (ahead : Ahead source low ts) :
    Lays source low (components.map fun component => .leaf component.2) rest := by
  induction path generalizing low with
  | single component => exact .leaf ahead (endsInText_of_component component)
  | dotted component dotKind path ih =>
    have first := Lays.leaf ahead (endsInText_of_component component)
    exact first.append fun behind => ih behind.tail

theorem lays_pathOf (path : IsPath ts components rest) (ahead : Ahead source low ts) :
    Lays source low [(pathOf components).layout] rest := by
  obtain ⟨high, row, behind⟩ := lays_of_isPath path ahead
  cases path with
  | single | dotted => exact ⟨high, row.joinAll, behind⟩

theorem lays_pathBetween (closingKind : closing.kind = .closeAngled)
    (ahead : Ahead source low (opening :: ts))
    (between : ∀ {mid : Nat}, Ahead source mid ts → Lays source mid [] (closing :: rest)) :
    Lays source low
      [.node (pathBetween opening components closing).span
        [(pathBetween opening components closing).layout]] rest := by
  obtain ⟨le, placed, others⟩ := ahead.uncons
  obtain ⟨high, _, row, behind⟩ :=
    Lays.enclose placed.lies (by simp [closingKind]) (between others)
  exact ⟨high, (Row.around row).widen le (Nat.le_refl _), behind⟩

theorem lays_of_isSpread {path : Path} (spread : IsSpread ts path rest)
    (ahead : Ahead source low ts) : Lays source low [(Item.spread path).layout] rest := by
  cases spread with
  | whole openingKind starKind closingKind =>
    rw [Item.layout]
    exact lays_pathBetween closingKind ahead fun behind => .nil behind.tail
  | path openingKind path dotKind starKind closingKind =>
    rw [Item.layout]
    refine lays_pathBetween closingKind ahead fun behind => ?_
    obtain ⟨high, row, behind⟩ := (lays_of_isPath path behind).forget
    exact ⟨high, row, behind.tail.tail⟩

theorem lays_of_isPiece {piece : StringElement} (derived : IsPiece ts piece rest)
    (ahead : Ahead source low ts) : Lays source low [piece.layout] rest := by
  cases derived with
  | literal kind | plus kind => exact .leaf ahead (by simp [kind])
  | placeholder openingKind path closingKind =>
    exact lays_pathBetween closingKind ahead fun behind => (lays_of_isPath path behind).forget

theorem lays_of_arePieces {pieces : List StringElement} (are : ArePieces ts pieces rest)
    (ahead : Ahead source low ts) : Lays source low (pieces.map StringElement.layout) rest := by
  induction are generalizing low with
  | nil => exact .nil ahead
  | cons first others ih => exact (lays_of_isPiece first ahead).append ih

theorem lays_of_isLine {line : StringLine} (derived : IsLine ts line rest)
    (ahead : Ahead source low ts) : Lays source low [line.layout] rest := by
  cases derived with
  | pieces are nonempty ended =>
    obtain ⟨high, row, behind⟩ := lays_of_arePieces are ahead
    have gathered := row.gather (by simpa using nonempty) (by simp)
    rw [StringElement.map_span_layout] at gathered
    exact lays_lineEnd ended ⟨high, gathered, behind⟩

theorem lays_of_areLines {lines : List StringLine} (are : AreLines ts lines rest)
    (ahead : Ahead source low ts) : Lays source low (lines.map StringLine.layout) rest := by
  induction are generalizing low with
  | nil => exact .nil ahead
  | cons first others ih => exact (lays_of_isLine first ahead).append ih

theorem lays_valueOf {lines : List StringLine} (are : AreLines ts lines rest)
    (nonempty : lines ≠ []) (ahead : Ahead source low ts) :
    Lays source low [(valueOf lines).layout] rest := by
  obtain ⟨high, row, behind⟩ := lays_of_areLines are ahead
  have gathered := row.gather (by simpa using nonempty) (by simp)
  rw [List.map_map] at gathered
  rw [valueOf, ValueNode.layout]
  exact ⟨high, gathered, behind⟩

theorem lays_of_texts (texts : ∀ token ∈ body, token.kind = .line ∨ token.kind = .openCurly)
    (ahead : Ahead source low (body ++ rest)) :
    Lays source low (body.map fun token => .leaf token.span) rest := by
  induction body generalizing low with
  | nil => exact .nil ahead
  | cons token body ih =>
    obtain ⟨kind, others⟩ := List.forall_mem_cons.1 texts
    have first := Lays.leaf ahead (by rcases kind with kind | kind <;> simp [kind])
    exact first.append (ih others)

end lines

section nodes

variable {readings : Readings} {source : List Char} {low : Nat} {ts rest : List Token}

theorem lays_of_isComment {inKey : Bool} {comment : Comment}
    (derived : IsComment readings source inKey ts comment rest) (ahead : Ahead source low ts) :
    Lays source low [.leaf comment.span] rest := by
  cases derived with
  | hash kind texts brief trims ended =>
    obtain ⟨high, row, behind⟩ := (Lays.leaf ahead (by simp [kind])).append (lays_of_texts texts)
    exact lays_lineEnd ended ⟨high, row.joinAll, behind⟩

theorem lays_of_areKeyLines {lines : List KeyLine}
    (are : AreKeyLines readings source ts lines rest) (ahead : Ahead source low ts) :
    Lays source low (lines.map KeyLine.layout) rest := by
  induction are generalizing low with
  | nil => exact .nil ahead
  | blank allowed kind others ih => exact ih ahead.tail
  | comment first others ih => exact (lays_of_isComment first ahead).append ih
  | strings first others ih => exact (lays_of_isLine first ahead).append ih

theorem row_of_isKey {bracket : Span} {key : Key}
    (isKey : IsKey readings source bracket ts key rest) (lies : bracket.Lies source)
    (ahead : Ahead source bracket.range.stop.offset ts) :
    ∃ high, bracket.range.stop.offset ≤ high ∧
      Row source bracket.range.start.offset [key.layout] high ∧ Ahead source high rest := by
  cases isKey with
  | empty closingKind => exact Lays.enclose lies (by simp [closingKind]) (.nil ahead)
  | simple kind unescapes trims closingKind =>
    exact Lays.enclose lies (by simp [closingKind]) (.nil ahead.tail)
  | multiline kind are closingKind =>
    exact Lays.enclose lies (by simp [closingKind]) (lays_of_areKeyLines are ahead.tail)

theorem lays_template {directive bracket : Token} {rest' : List Token} {key : Key}
    {value : ValueNode} (inText : directive.kind.endsInText = true)
    (isKey : IsKey readings source bracket.span ts key rest)
    (isValue : ∀ {mid : Nat}, Ahead source mid rest → Lays source mid [value.layout] rest')
    (ahead : Ahead source low (directive :: bracket :: ts)) :
    Lays source low
      [.node (directive.span.through value.span) [.leaf directive.span, key.layout, value.layout]]
      rest' := by
  obtain ⟨le, placed, others⟩ := ahead.uncons
  obtain ⟨between, bracketPlaced, others⟩ := others.uncons
  obtain ⟨_, _, keyRow, behind⟩ := row_of_isKey isKey bracketPlaced.lies others
  obtain ⟨high, valueRow, behind⟩ := isValue behind
  have entry := (keyRow.append valueRow).widen between (Nat.le_refl _)
  have gathered := (Row.cons le (placed.sound_leaf inText) entry).gather nofun (by simp)
  rw [← ValueNode.span_layout]
  exact ⟨high, gathered, behind⟩

theorem lays_tagged {bracket : Token} {rest' : List Token} {key : Key} {value : ValueNode}
    (isKey : IsKey readings source bracket.span ts key rest)
    (isValue : ∀ {mid : Nat}, Ahead source mid rest → Lays source mid [value.layout] rest')
    (ahead : Ahead source low (bracket :: ts)) :
    Lays source low [.node (bracket.span.through value.span) [key.layout, value.layout]]
      rest' := by
  obtain ⟨le, placed, others⟩ := ahead.uncons
  obtain ⟨_, above, keyRow, behind⟩ := row_of_isKey isKey placed.lies others
  obtain ⟨high, valueRow, behind⟩ := isValue behind
  have starts := (valueRow.bounds _ List.mem_cons_self).1
  have ordered := (valueRow.sound _ List.mem_cons_self).lies.ordered
  have stops := above.trans (starts.trans ordered)
  have entry := Row.toLast placed.lies (by simp) stops (keyRow.append valueRow)
  rw [← ValueNode.span_layout]
  exact ⟨high, entry.widen le (Nat.le_refl _), behind⟩

/-! The induction follows the derivation, with one case a rule. -/

mutual

theorem lays_of_isBlock {low : Nat} {ts rest : List Token} {value : ValueNode} :
    IsBlock readings source ts value rest → Ahead source low ts →
      Lays source low [value.layout] rest
  | .braces openingKind kind are closingKind ended, ahead => by
    obtain ⟨le, placed, others⟩ := ahead.uncons
    have inside := lays_of_areItems are others.tail
    obtain ⟨high, _, row, behind⟩ := Lays.enclose placed.lies (by simp [closingKind]) inside
    rw [ValueNode.layout]
    exact lays_lineEnd ended ⟨high, row.widen le (Nat.le_refl _), behind⟩

theorem lays_of_isLowerValue {low : Nat} {ts rest : List Token} {value : ValueNode} :
    IsLowerValue readings source ts value rest → Ahead source low ts →
      Lays source low [value.layout] rest
  | .block derived, ahead => lays_of_isBlock derived ahead
  | .strings are nonempty, ahead => lays_valueOf are nonempty ahead

theorem lays_of_isValue {low : Nat} {ts rest : List Token} {behindLines : Bool}
    {value : ValueNode} : IsValue readings source behindLines ts value rest →
      Ahead source low ts → Lays source low [value.layout] rest
  | .text kind trims ended, ahead => by
    rw [ValueNode.layout]
    exact lays_lineEnd ended (.leaf ahead (by simp [kind]))
  | .block derived, ahead => lays_of_isBlock derived ahead
  | .nextLine kind derived, ahead => lays_of_isLowerValue derived ahead.tail
  | .sameLine derived, ahead => lays_of_isLowerValue derived ahead

theorem lays_of_isItem {low : Nat} {ts rest : List Token} {item : Item} :
    IsItem readings source ts item rest → Ahead source low ts →
      Lays source low [item.layout] rest
  | .blank kind, ahead => by
    rw [Item.layout]
    exact .blank ahead
  | .comment derived, ahead => by
    rw [Item.layout]
    exact lays_of_isComment derived ahead
  | .inherit kind name path ended, ahead => by
    obtain ⟨le, placed, others⟩ := ahead.uncons
    have inherit := Lays.lead placed.lies rfl (lays_pathOf path others)
    rw [Item.layout]
    exact lays_lineEnd ended (inherit.lower le)
  | .template kind name bracketKind isKey isValue, ahead => by
    rw [Item.layout]
    exact lays_template (by simp [kind]) isKey (lays_of_isValue isValue) ahead
  | .tagged bracketKind isKey isValue, ahead => by
    rw [Item.layout]
    exact lays_tagged isKey (lays_of_isValue isValue) ahead
  | .untagged kind isValue, ahead => by
    obtain ⟨le, placed, others⟩ := ahead.uncons
    have value := lays_of_isValue isValue others
    rw [Item.layout, ← ValueNode.span_layout]
    exact (value.lead placed.lies (by simp)).lower le
  | .spread derived ended, ahead => lays_lineEnd ended (lays_of_isSpread derived ahead)
  | .strings derived, ahead => by
    rw [Item.layout]
    exact lays_of_isLine derived ahead

theorem lays_of_areItems {low : Nat} {ts rest : List Token} {items : List Item} :
    AreItems readings source ts items rest → Ahead source low ts →
      Lays source low (Item.layouts items) rest
  | .nil, ahead => by
    rw [Item.layouts]
    exact .nil ahead
  | .cons first others, ahead => by
    rw [Item.layouts]
    exact (lays_of_isItem first ahead).append (lays_of_areItems others)

end

end nodes

end Grammar

namespace Document

open Grammar

theorem lies_whole (text : String) : Span.Lies text.toList ⟨0, ⟨.start, endOf text⟩⟩ := by
  simpa [endOf] using Span.lies_advance [] text.toList []

theorem offset_le_endOf {text : String} {position : Position}
    (within : position.Within text.toList) : position.offset ≤ (endOf text).offset := by
  obtain ⟨front, slice, _⟩ := within
  obtain ⟨before, behind, source, empty, length⟩ := Text.sliceBytes_eq_some slice
  rw [endOf, Position.offset_advance_start, source, Text.byteLength_append,
    Text.byteLength_append]
  omega

theorem slice_whole (text : String) :
    Text.sliceBytes 0 (endOf text).offset text.toList = some text.toList := by
  have whole := Text.sliceBytes_append [] text.toList []
  rw [endOf, Position.offset_advance_start]
  simpa using whole

theorem sound_layout {filename text : String} {limit : Nat} {document : Document}
    (parsed : parse filename limit text = .ok document) :
    document.layout.Sound text.toList := by
  obtain ⟨items, done, rfl⟩ := parse_eq_ok_iff.1 parsed
  obtain ⟨tokens, cut, are⟩ := derivation_of_parseItems done
  have ahead : Ahead text.toList 0 (tokens.filter Token.isSignificant) :=
    (ahead_of_tokenize cut).sublist List.filter_sublist
  obtain ⟨_, row, _⟩ := lays_of_areItems are ahead
  have whole := lies_whole text
  have inside (part : Layout) (member : part ∈ Item.layouts items) :
      Span.Covers ⟨0, ⟨.start, endOf text⟩⟩ part.span :=
    ⟨Nat.zero_le _, offset_le_endOf (row.sound part member).lies.stop⟩
  exact .lines whole inside row.apart row.sound

/-- The spans of a document that is read are exact. The document's own is the whole source, and its
layout is sound there: every node lies in file zero, between characters, at rows and columns
that are counted right; its parts lie inside it, in order and apart; and only blank lines
among the nodes end in a line end. No node is left out: the layout has all that the outline has. -/
theorem spans_exact {filename text : String} {limit : Nat} {document : Document}
    (parsed : parse filename limit text = .ok document) :
    document.layout.Sound text.toList ∧
      Text.sliceBytes document.span.range.start.offset document.span.range.stop.offset
        text.toList = some text.toList ∧
      ∀ entry ∈ Item.listOutline document.items, entry.span.Lies text.toList := by
  have sound := sound_layout parsed
  obtain ⟨items, _, same⟩ := except_bind_eq_ok.1 parsed
  cases same
  exact ⟨sound, slice_whole text, outline_lies sound⟩

/-- A block with an item and a blank line; the key takes a byte more than it has characters. -/
theorem spans_exact_block :
    let items : List Item :=
      [.tagged (.simple "é" ⟨0, ⟨⟨0, 0, 0⟩, ⟨4, 0, 3⟩⟩⟩)
        (.block
          [.untagged (.text "x" ⟨0, ⟨⟨9, 1, 2⟩, ⟨10, 1, 3⟩⟩⟩) ⟨0, ⟨⟨7, 1, 0⟩, ⟨10, 1, 3⟩⟩⟩,
            .blank ⟨0, ⟨⟨11, 2, 0⟩, ⟨12, 3, 0⟩⟩⟩]
          ⟨0, ⟨⟨5, 0, 4⟩, ⟨13, 3, 1⟩⟩⟩) none ⟨0, ⟨⟨0, 0, 0⟩, ⟨13, 3, 1⟩⟩⟩]
    let text := "[é] \x7b\n- x\n\n\x7d\n"
    let document : Document := ⟨items, ⟨0, ⟨.start, endOf text⟩⟩, .single "block" text⟩
    document.layout.Sound text.toList ∧
      Text.sliceBytes document.span.range.start.offset document.span.range.stop.offset
        text.toList = some text.toList ∧
      ∀ entry ∈ Item.listOutline items, entry.span.Lies text.toList := by
  intro items text document
  have done : parseItems 1 text = .ok items := by cbv
  have parsed : parse "block" 1 text = .ok document := by
    rw [parse, done]
    rfl
  exact spans_exact parsed

end Document

end ConfigLang
