import ConfigLang.Document
import ConfigLang.Proofs.Nesting.Basic
import ConfigLang.Proofs.Syntax.Step
import ConfigLang.Proofs.Token.Cut
/-! Reading and the depth of blocks. A draft opens the blocks of a document in the order in which
they start, so a limit only matters to the first block that is one too deep. Up to its closing
brace nothing is known of a block but where it starts. -/
namespace ConfigLang

def Block.opening (block : Block) : Block :=
  ⟨block.depth, block.span.file, .emptyAt block.span.range.start⟩

theorem Block.opening_through {brace close : Span} (depth : Nat)
    (before : brace.range.start.offset < close.range.start.offset) :
    opening ⟨depth, brace.through close⟩ = opening ⟨depth, brace⟩ := by
  have start : brace.range.start.min close.range.start = brace.range.start := by
    have less : brace.range.start.compare close.range.start = .lt := by
      rw [Position.compare, Nat.compare_eq_lt.2 before]
      rfl
    rw [Position.min, less]
    rfl
  unfold opening Span.through
  split
  · rw [Range.cover, start]
  · rfl

namespace Draft

def Awaiting.blocks (depth : Nat) : Awaiting → List Block
  | .valueEnd _ node => node.blocks depth
  | _ => []

/-- The open blocks, each behind the blocks in the items that come before it. -/
def blocksBefore : List OpenBlock → List Block
  | [] => []
  | block :: outer => blocksBefore outer ++ blocksOf outer.length block.before.reverse ++
      [⟨outer.length + 1, block.brace⟩]

/-- The blocks that have been opened so far, the closed ones included. -/
def opened (draft : Draft) : List Block :=
  blocksBefore draft.blocks ++ blocksOf draft.blocks.length draft.items.reverse ++
    draft.awaiting.blocks draft.blocks.length

theorem blocks_item (entry : Entry) (value : ValueNode) (depth : Nat) :
    (entry.item value).blocks depth = value.blocks depth := by
  cases entry <;> rw [Entry.item, Item.blocks]

theorem blocks_stringValue (entry : Entry) (lines : List StringLine) (depth : Nat) :
    (entry.item (stringValue lines)).blocks depth = [] := by
  rw [blocks_item, stringValue, ValueNode.blocks]

theorem blocks_of_completes {awaiting : Awaiting} {item : Item}
    (completes : Completes awaiting item) (depth : Nat) :
    item.blocks depth = awaiting.blocks depth := by
  cases completes with
  | value entry value => exact blocks_item entry value depth
  | inherit inherit => simp only [OpenInherit.item, Item.blocks, Awaiting.blocks]
  | comment span text | strings elements | spread path =>
    simp only [Item.blocks, Awaiting.blocks]

theorem blocks_of_moves {token : Token} {before after : Awaiting}
    (moves : Moves token before after) (depth : Nat) :
    after.blocks depth = before.blocks depth := by
  cases moves with
  | piece begins starts => cases begins <;> cases starts <;> rfl
  | text kind => simp only [Awaiting.blocks, ValueNode.blocks]
  | _ => rfl

theorem blocks_of_opens {awaiting : Awaiting} {entry : Entry} (opens : Opens awaiting entry)
    (depth : Nat) : awaiting.blocks depth = [] := by
  cases opens <;> rfl

theorem blocksOf_reverse_cons (depth : Nat) (item : Item) (items : List Item) :
    blocksOf depth (item :: items).reverse = blocksOf depth items.reverse ++ item.blocks depth := by
  rw [List.reverse_cons, blocksOf_append, blocksOf, blocksOf, List.append_nil]

theorem opened_cons {blocks : List OpenBlock} {items : List Item} {awaiting : Awaiting}
    {item : Item} (same : item.blocks blocks.length = awaiting.blocks blocks.length) :
    opened ⟨blocks, item :: items, .item⟩ = opened ⟨blocks, items, awaiting⟩ := by
  simp only [opened, blocksOf_reverse_cons, same, Awaiting.blocks, List.append_nil,
    List.append_assoc]

structure Grows (token : Token) (before after : Draft) (new : List Block) : Prop where
  opened : after.opened.map Block.opening = (before.opened ++ new).map Block.opening
  pushed {limit : Nat} (within : before.blocks.length ≤ limit) :
    push limit before token = cutOff limit new after
  within {limit : Nat} (within : before.blocks.length ≤ limit)
    (shallow : firstTooDeep limit new = none) : after.blocks.length ≤ limit

theorem grows_of_opening {token : Token} {blocks : List OpenBlock} {items : List Item}
    {awaiting : Awaiting} {entry : Entry} (kind : token.kind = .openCurly)
    (opens : Opens awaiting entry) :
    Grows token ⟨blocks, items, awaiting⟩ ⟨⟨entry, token.span, items⟩ :: blocks, [], .blockStart⟩
      [⟨blocks.length + 1, token.span⟩] := by
  constructor
  · have waiting (depth : Nat) : Awaiting.blocks depth .blockStart = [] := rfl
    simp only [Draft.opened, blocksBefore, blocks_of_opens opens, waiting, List.reverse_nil,
      blocksOf, List.append_nil]
  · intro limit within
    rw [push_of_opens limit blocks items kind opens, openBlock]
    rcases Nat.eq_or_lt_of_le within with rfl | room
    · rw [if_pos (Nat.le_refl _), cutOff_cons_of_deep rfl]
    · rw [if_neg (Nat.not_le_of_lt room), cutOff_cons_of_le room, cutOff_nil]
  · intro limit within shallow
    rcases Nat.eq_or_lt_of_le within with rfl | room
    · rw [firstTooDeep_cons_of_deep rfl] at shallow
      cases shallow
    · exact room

theorem opened_of_closing {block : OpenBlock} {blocks : List OpenBlock} {items : List Item}
    {close : Span} (before : block.brace.range.start.offset < close.range.start.offset) :
    (opened ⟨blocks, block.before, .valueEnd block.entry
      (.block items.reverse (block.brace.through close))⟩).map Block.opening =
      (opened ⟨block :: blocks, items, .item⟩).map Block.opening := by
  simp only [opened, blocksBefore, Awaiting.blocks, ValueNode.blocks, List.length_cons,
    List.map_append, List.map_cons, Block.opening_through _ before,
    List.append_assoc, List.cons_append, List.nil_append, List.append_nil]

theorem grows_nothing {token : Token} {before after : Draft}
    (same : after.opened.map Block.opening = before.opened.map Block.opening)
    (takes : ∀ limit, Takes limit token before after)
    (fewer : after.blocks.length ≤ before.blocks.length) : Grows token before after [] := by
  constructor
  · rw [List.append_nil]
    exact same
  · intro limit _
    exact push_of_takes limit (takes limit)
  · intro limit within _
    exact Nat.le_trans fewer within

theorem grows_of_takes {enough : Nat} {token : Token} {before after : Draft}
    (takes : Takes enough token before after)
    (behind : ∀ block ∈ before.blocks,
      block.brace.range.start.offset < token.span.range.start.offset) :
    ∃ new, Grows token before after new := by
  induction takes with
  | @move blocks items before after moves =>
    refine ⟨[], grows_nothing ?_ (fun limit => .move moves) (Nat.le_refl _)⟩
    rw [Draft.opened, Draft.opened, blocks_of_moves moves]
  | @blank blocks items kind =>
    have same : (Item.blank token.span).blocks blocks.length =
        Awaiting.blocks blocks.length .item := by simp only [Item.blocks, Awaiting.blocks]
    refine ⟨[], grows_nothing ?_ (fun limit => .blank kind) (Nat.le_refl _)⟩
    rw [opened_cons same]
  | complete kind completes =>
    refine ⟨[], grows_nothing ?_ (fun limit => .complete kind completes) (Nat.le_refl _)⟩
    rw [opened_cons (blocks_of_completes completes _)]
  | opening kind opens room => exact ⟨_, grows_of_opening kind opens⟩
  | @closing block blocks items kind =>
    refine ⟨[], grows_nothing ?_ (fun limit => .closing kind) (Nat.le_succ _)⟩
    exact opened_of_closing (behind block List.mem_cons_self)
  | @valueEnd blocks items entry lines after outside ends taken ih =>
    obtain ⟨new, grows⟩ := ih behind
    have same : opened ⟨blocks, entry.item (stringValue lines) :: items, .item⟩ =
        opened ⟨blocks, items, .stringLine entry lines⟩ :=
      opened_cons (blocks_stringValue entry lines blocks.length)
    refine ⟨new, ?_, ?_, grows.within⟩
    · rw [← same]
      exact grows.opened
    · intro limit within
      rw [push_stringLine limit _ _ outside ends]
      exact grows.pushed within

theorem brace_of_takes {limit : Nat} {token : Token} {before after : Draft}
    (takes : Takes limit token before after) :
    ∀ block ∈ after.blocks, block ∈ before.blocks ∨ block.brace = token.span := by
  induction takes with
  | opening kind opens room =>
    intro block member
    rcases List.mem_cons.1 member with rfl | outer
    · exact .inr rfl
    · exact .inl outer
  | closing kind => exact fun block member => .inl (List.mem_cons_of_mem _ member)
  | valueEnd outside ends taken ih => exact ih
  | move moves | blank kind | complete kind completes => exact fun block member => .inl member

theorem pushAll_eq_cutOff {enough : Nat} {file : FileId} {position : Position}
    {text : List Char} {tokens : List Token} (cut : Cut file position text tokens)
    {draft last : Draft} (run : draft.pushAll enough tokens = .ok last)
    (behind : ∀ block ∈ draft.blocks, block.brace.range.start.offset < position.offset) :
    ∃ new, last.opened.map Block.opening = (draft.opened ++ new).map Block.opening ∧
      ∀ limit, draft.blocks.length ≤ limit →
        draft.pushAll limit tokens = cutOff limit new last := by
  induction cut generalizing draft with
  | done =>
    cases run
    refine ⟨[], ?_, fun limit _ => rfl⟩
    rw [List.append_nil]
  | @token position rest tokens token span nonempty blank others ih =>
    rw [pushAll] at run
    obtain ⟨next, taken, run⟩ := except_bind_eq_ok.1 run
    have takes := takes_of_push taken
    have start : token.span.range.start = position := by rw [span]
    obtain ⟨here, grows⟩ := grows_of_takes takes (by rwa [start])
    have ahead : position.offset < (position.advance token.text.toList).offset := by
      rw [Position.offset_advance]
      exact Nat.lt_add_of_pos_right (Text.byteLength_pos nonempty)
    have behind : ∀ block ∈ next.blocks,
        block.brace.range.start.offset < (position.advance token.text.toList).offset := by
      intro block member
      rcases brace_of_takes takes block member with before | brace
      · exact Nat.lt_trans (behind block before) ahead
      · rw [brace, start]
        exact ahead
    obtain ⟨later, opened, runs⟩ := ih run behind
    refine ⟨here ++ later, ?_, ?_⟩
    · rw [opened, List.map_append, grows.opened, ← List.map_append, List.append_assoc]
    · intro limit within
      rw [pushAll, grows.pushed within]
      exact cutOff_bind fun shallow => runs limit (grows.within within shallow)

theorem opened_of_finish {draft : Draft} {stop : Span} {items : List Item}
    (done : draft.finish stop = .ok items) : draft.opened = blocksOf 0 items := by
  obtain ⟨closed, finishes⟩ := finishes_of_finish done
  obtain ⟨blocks, before, awaiting⟩ := draft
  cases closed
  have ended (items : List Item) : opened ⟨[], items, .item⟩ = blocksOf 0 items.reverse := by
    simp only [opened, blocksBefore, Awaiting.blocks, List.nil_append, List.append_nil,
      List.length_nil]
  cases finishes with
  | item => exact ended before
  | complete completes => rw [← ended, opened_cons (blocks_of_completes completes _)]
  | lines entry lines =>
    rw [← ended]
    exact (opened_cons (blocks_stringValue entry lines _)).symm
  | lastLine entry lines elements =>
    rw [← ended]
    exact (opened_cons (blocks_stringValue entry (stringLine elements :: lines) _)).symm

end Draft

theorem Document.parse_eq_cutOff {filename text : String} {document : Document} {enough : Nat}
    (parsed : parse filename enough text = .ok document) :
    ∃ blocks, blocks.map Block.opening = (blocksOf 0 document.items).map Block.opening ∧
      ∀ limit, parse filename limit text = cutOff limit blocks document := by
  obtain ⟨items, read, rfl⟩ := parse_eq_ok_iff.1 parsed
  obtain ⟨tokens, cut, draft, run, finished⟩ := parseItems_eq_ok_iff.1 read
  obtain ⟨new, opened, runs⟩ := Draft.pushAll_eq_cutOff (cut_of_tokenize cut) run nofun
  refine ⟨new, ?_, ?_⟩
  · rw [Draft.opened_of_finish finished] at opened
    exact opened.symm
  · intro limit
    have reads : parseItems limit text = cutOff limit new items := by
      rw [parseItems, cut]
      show (Draft.empty.pushAll limit tokens >>= fun draft => draft.finish _) = _
      rw [runs limit (Nat.zero_le limit)]
      exact cutOff_bind_ok finished
    rw [parse, reads]
    exact cutOff_bind_ok rfl

end ConfigLang
