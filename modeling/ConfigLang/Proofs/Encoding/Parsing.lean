import ConfigLang.Proofs.Encoding.Basic
import ConfigLang.Proofs.Json.Literal
import ConfigLang.Proofs.Reading.Run
import ConfigLang.Proofs.Token.Matching
/-! The encoding of a value is read as its tree. Reading starts where an item may start, with
any blocks open and any text behind the encoding, and stops where the next item may start. -/
namespace ConfigLang

namespace Pattern

theorem isLiteralChar_digitChar : ∀ n < 16, isLiteralChar (Nat.digitChar n) = true := by decide

theorem escaped_escaped (c : Char) : Escaped isLiteralChar (Json.escaped c) := by
  unfold Json.escaped
  split
  · exact .escape (by decide) .nil
  split
  · exact .escape (by decide) .nil
  split
  · exact .escape (by decide) .nil
  split
  · exact .escape (by decide) .nil
  split
  · exact .escape (by decide) .nil
  split
  · exact .escape (by decide) .nil
  split
  · exact .escape (by decide) .nil
  split
  · next control =>
    have below : c.toNat < 32 := UInt32.lt_iff_toNat_lt.1 control
    have high := isLiteralChar_digitChar (c.toNat / 16) (by omega)
    have low := isLiteralChar_digitChar (c.toNat % 16) (by omega)
    exact .escape (by decide) (.plain (by decide) (.plain (by decide)
      (.plain high (.plain low .nil))))
  · next quote backslash _ _ newline _ _ _ =>
    exact .plain (isLiteralChar_iff.2 ⟨quote, backslash, newline⟩) .nil

theorem escaped_text (text : List Char) : Escaped isLiteralChar (text.flatMap Json.escaped) := by
  induction text with
  | nil => exact .nil
  | cons c text ih =>
    rw [List.flatMap_cons]
    exact (escaped_escaped c).append ih

theorem literalTail?_text (text rest : List Char) :
    literalTail? (text.flatMap Json.escaped ++ '"' :: rest) =
      some ((text.flatMap Json.escaped).length + 1) :=
  literalTail?_of_escaped (escaped_text text) rest

theorem length_stringLiteral (text : String) (rest : List Char) :
    stringLiteral.length (Json.literal text ++ rest) = (Json.literal text).length := by
  have body := literalTail?_text text.toList rest
  simp only [Json.literal, List.cons_append, List.append_assoc, List.nil_append, length, body]
  simp

end Pattern

namespace Reading

theorem fitting?_literal (position : Position) (modes : List Mode) (text : String)
    (rest : List Char)
    (mode : Mode.current modes = .main ∨ Mode.current modes = .multilineKey) :
    Cursor.fitting? ⟨0, position, modes, Json.literal text ++ rest⟩ =
      some (⟨.stringLiteral, .stringLiteral, .stay⟩, (Json.literal text).length) := by
  have length := Pattern.length_stringLiteral text rest
  have positive : (Json.literal text).length = (text.toList.flatMap Json.escaped).length + 1 + 1 := by
    simp [Json.literal]
  rw [positive] at length ⊢
  have quote : Json.literal text ++ rest =
      '"' :: (text.toList.flatMap Json.escaped ++ ['"'] ++ rest) := rfl
  rw [quote] at length ⊢
  rcases mode with mode | mode
  · simp only [Cursor.fitting?, Cursor.mode, mode, Mode.rules, List.findSome?, length]
    rfl
  · simp only [Cursor.fitting?, Cursor.mode, mode, Mode.rules, List.findSome?, length]
    rfl

variable {limit : Nat}

theorem openBlock_of_room {draft : Draft} (room : draft.blocks.length < limit)
    (entry : Draft.Entry) (token : Token) :
    draft.openBlock limit entry token =
      .ok ⟨⟨entry, token.span, draft.items⟩ :: draft.blocks, [], .blockStart⟩ := by
  rw [Draft.openBlock, if_neg (Nat.not_le.2 room)]

theorem literalText_literal (kind : Token.Kind) (text : String) (span : Span) :
    Draft.literalText ⟨kind, String.ofList (Json.literal text), span⟩ = .ok text := by
  simp only [Draft.literalText, Json.readLiteral_literal]
  rfl

theorem run_text (text : String) (position : Position) (rest : List Char)
    (blocks : List Draft.OpenBlock) (items : List Item) :
    ∃ position' piece line, Run limit
      (.atItem position (Json.literal text ++ '\n' :: rest) blocks items)
      (.atItem position' rest blocks (.strings ⟨[.literal text piece], line⟩ :: items)) := by
  have fits := fitting?_literal position [.main] text ('\n' :: rest) (.inl rfl)
  have taken : ∀ span, Draft.push limit ⟨blocks, items, .item⟩
      ⟨.stringLiteral, String.ofList (Json.literal text), span⟩ =
        .ok ⟨blocks, items, .stringPiece .item [.literal text span]⟩ := by
    intro span
    simp only [Draft.push, Draft.pushInside, Draft.pushItem, Draft.pushPiece?,
      literalText_literal, bind, Except.bind, pure, Except.pure]
    rfl
  exact ⟨_, _, _, .head (.cut _ fits (taken _)) <| .head (.cut ['\n'] rfl rfl) .refl⟩

theorem run_openElement (position : Position) (rest : List Char) {blocks : List Draft.OpenBlock}
    (room : blocks.length < limit) (items : List Item) :
    ∃ position' mark brace, Run limit
      (.atItem position ('-' :: ' ' :: '\x7b' :: '\n' :: rest) blocks items)
      (.atItem position' rest (⟨.untagged mark, brace, items⟩ :: blocks) []) :=
  ⟨_, _, _, .head (.cut ['-'] rfl rfl) <| .head (.cut [' '] rfl rfl) <|
    .head (.cut ['\x7b'] rfl (openBlock_of_room room _ _)) <| .head (.cut ['\n'] rfl rfl) .refl⟩

theorem run_openEntry (key : String) (position : Position) (rest : List Char)
    {blocks : List Draft.OpenBlock} (room : blocks.length < limit) (items : List Item) :
    ∃ position' piece line bracket start brace, Run limit
      (.atItem position
        ('[' :: '\n' :: (Json.literal key ++ '\n' :: ']' :: ' ' :: '\x7b' :: '\n' :: rest))
        blocks items)
      (.atItem position' rest
        (⟨.tagged (.multiline [.strings ⟨[.literal key piece], line⟩] bracket) none start, brace,
          items⟩ :: blocks) []) := by
  have fits := fun position => fitting?_literal position [.multilineKey, .main] key
    ('\n' :: ']' :: ' ' :: '\x7b' :: '\n' :: rest) (.inr rfl)
  have taken : ∀ key' span, Draft.push limit ⟨blocks, items, .keyLine key'⟩
      ⟨.stringLiteral, String.ofList (Json.literal key), span⟩ =
        .ok ⟨blocks, items, .stringPiece (.key key') [.literal key span]⟩ := by
    intro key' span
    simp only [Draft.push, Draft.pushInside, Draft.pushPiece?, literalText_literal, bind,
      Except.bind, pure, Except.pure]
    rfl
  exact ⟨_, _, _, _, _, _, .head (.cut ['['] rfl rfl) <| .head (.cut ['\n'] rfl rfl) <|
    .head (.cut _ (fits _) (taken _ _)) <| .head (.cut ['\n'] rfl rfl) <|
    .head (.cut [']'] rfl rfl) <| .head (.cut [' '] rfl rfl) <|
    .head (.cut ['\x7b'] rfl (openBlock_of_room room _ _)) <|
    .head (.cut ['\n'] rfl rfl) .refl⟩

theorem keyText_k : Draft.keyText (String.ofList ['k']) = "k" := by decide

theorem run_openAbsent (position : Position) (rest : List Char) {blocks : List Draft.OpenBlock}
    (room : blocks.length < limit) (items : List Item) :
    ∃ position' bracket start brace, Run limit
      (.atItem position ('[' :: 'k' :: ']' :: ' ' :: '\x7b' :: '\n' :: rest) blocks items)
      (.atItem position' rest
        (⟨.tagged (.simple "k" bracket) none start, brace, items⟩ :: blocks) []) := by
  have taken : ∀ text bracket span, Draft.push limit
      ⟨blocks, items, .keyEnd (String.ofList ['k']) bracket none⟩ ⟨.closeSquare, text, span⟩ =
        .ok ⟨blocks, items, .value (.tagged (.simple "k" (bracket.through span)) none bracket)
          false⟩ := by
    intro text bracket span
    simp only [Draft.push, Draft.pushInside, if_true, keyText_k]
    rfl
  exact ⟨_, _, _, _, .head (.cut ['['] rfl rfl) <| .head (.cut ['k'] rfl rfl) <|
    .head (.cut [']'] rfl (taken _ _ _)) <| .head (.cut [' '] rfl rfl) <|
    .head (.cut ['\x7b'] rfl (openBlock_of_room room _ _)) <| .head (.cut ['\n'] rfl rfl) .refl⟩

theorem run_closeBlock (entry : Draft.Entry) (brace : Span) (before : List Item)
    (position : Position) (rest : List Char) (blocks : List Draft.OpenBlock)
    (items : List Item) :
    ∃ position' block, Run limit
      (.atItem position ('\x7d' :: '\n' :: rest) (⟨entry, brace, before⟩ :: blocks) items)
      (.atItem position' rest blocks (entry.item (.block items.reverse block) :: before)) :=
  ⟨_, _, .head (.cut ['\x7d'] rfl rfl) <| .head (.cut ['\n'] rfl rfl) .refl⟩

mutual

theorem run_encode (value : Value) (position : Position) (rest : List Char)
    (blocks : List Draft.OpenBlock) (items : List Item)
    (room : blocks.length + value.depth ≤ limit) :
    ∃ position' tree, value.HasTree tree ∧ Run limit
      (.atItem position (value.encode ++ rest) blocks items)
      (.atItem position' rest blocks (tree.reverse ++ items)) := by
  match value with
  | .string text =>
    obtain ⟨behind, piece, line, run⟩ := run_text text position rest blocks items
    refine ⟨behind, _, .string text piece line, ?_⟩
    simpa only [Value.encode, List.append_assoc, List.cons_append, List.nil_append,
      List.reverse_singleton] using run
  | .list [] =>
    have inside : blocks.length < limit := by simp only [Value.depth] at room; omega
    obtain ⟨inner, mark, brace, opened⟩ :=
      run_openElement position ('\x7d' :: '\n' :: rest) inside items
    obtain ⟨behind, block, closed⟩ :=
      run_closeBlock (.untagged mark) brace items inner rest blocks []
    exact ⟨behind, _, .emptyList block _, opened.trans closed⟩
  | .list (first :: others) =>
    obtain ⟨behind, tree, trees, run⟩ :=
      run_encodeItems (first :: others) position rest blocks items room
    exact ⟨behind, tree, .list trees, run⟩
  | .map [] =>
    have inside : blocks.length < limit := by simp only [Value.depth] at room; omega
    obtain ⟨inner, bracket, start, brace, opened⟩ :=
      run_openAbsent position ('\x7d' :: '\n' :: rest) inside items
    obtain ⟨behind, block, closed⟩ :=
      run_closeBlock (.tagged (.simple "k" bracket) none start) brace items inner rest blocks []
    exact ⟨behind, _, .emptyMap bracket block _, opened.trans closed⟩
  | .map (first :: others) =>
    obtain ⟨behind, tree, trees, run⟩ :=
      run_encodeEntries (first :: others) position rest blocks items room
    exact ⟨behind, tree, .map trees, run⟩

theorem run_encodeItems (values : List Value) (position : Position) (rest : List Char)
    (blocks : List Draft.OpenBlock) (items : List Item)
    (room : blocks.length + (Value.depthOfItems values + 1) ≤ limit) :
    ∃ position' tree, Value.HaveTrees values tree ∧ Run limit
      (.atItem position (Value.encodeItems values ++ rest) blocks items)
      (.atItem position' rest blocks (tree.reverse ++ items)) := by
  match values with
  | [] => exact ⟨position, [], .nil, .refl⟩
  | value :: others =>
    simp only [Value.depthOfItems] at room
    obtain ⟨inner, mark, brace, opened⟩ := run_openElement position
      (value.encode ++ '\x7d' :: '\n' :: (Value.encodeItems others ++ rest))
      (show blocks.length < limit by omega) items
    obtain ⟨close, tree, hasTree, read⟩ := run_encode value inner
      ('\x7d' :: '\n' :: (Value.encodeItems others ++ rest))
      (⟨.untagged mark, brace, items⟩ :: blocks) [] (by simp only [List.length_cons]; omega)
    obtain ⟨next, block, closed⟩ := run_closeBlock (.untagged mark) brace items close
      (Value.encodeItems others ++ rest) blocks (tree.reverse ++ [])
    obtain ⟨behind, trees, haveTrees, more⟩ :=
      run_encodeItems others next rest blocks _ (by omega)
    have run := opened.trans (read.trans (closed.trans more))
    simp only [List.append_nil, List.reverse_reverse] at run
    refine ⟨behind, _, .cons block (mark.through block) hasTree haveTrees, ?_⟩
    simpa only [Value.encodeItems, List.append_assoc, List.cons_append, List.nil_append,
      List.reverse_cons, Draft.Entry.item, ValueNode.span] using run

theorem run_encodeEntries (entries : List (String × Value)) (position : Position)
    (rest : List Char) (blocks : List Draft.OpenBlock) (items : List Item)
    (room : blocks.length + (Value.depthOfEntries entries + 1) ≤ limit) :
    ∃ position' tree, Value.EntriesHaveTrees entries tree ∧ Run limit
      (.atItem position (Value.encodeEntries entries ++ rest) blocks items)
      (.atItem position' rest blocks (tree.reverse ++ items)) := by
  match entries with
  | [] => exact ⟨position, [], .nil, .refl⟩
  | (key, value) :: others =>
    simp only [Value.depthOfEntries] at room
    obtain ⟨inner, piece, line, bracket, start, brace, opened⟩ := run_openEntry key position
      (value.encode ++ '\x7d' :: '\n' :: (Value.encodeEntries others ++ rest))
      (show blocks.length < limit by omega) items
    obtain ⟨close, tree, hasTree, read⟩ := run_encode value inner
      ('\x7d' :: '\n' :: (Value.encodeEntries others ++ rest))
      (⟨.tagged (.multiline [.strings ⟨[.literal key piece], line⟩] bracket) none start, brace,
        items⟩ :: blocks) [] (by simp only [List.length_cons]; omega)
    obtain ⟨next, block, closed⟩ := run_closeBlock
      (.tagged (.multiline [.strings ⟨[.literal key piece], line⟩] bracket) none start) brace
      items close (Value.encodeEntries others ++ rest) blocks (tree.reverse ++ [])
    obtain ⟨behind, trees, haveTrees, more⟩ :=
      run_encodeEntries others next rest blocks _ (by omega)
    have run := opened.trans (read.trans (closed.trans more))
    simp only [List.append_nil, List.reverse_reverse] at run
    refine ⟨behind, _, .cons piece line bracket block (start.through block) hasTree haveTrees, ?_⟩
    simpa only [Value.encodeEntries, List.append_assoc, List.cons_append, List.nil_append,
      List.reverse_cons, Draft.Entry.item, ValueNode.span] using run

end

theorem parseItems_encode (value : Value) (room : value.depth ≤ limit) :
    ∃ tree, value.HasTree tree ∧
      Document.parseItems limit (String.ofList value.encode) = .ok tree := by
  obtain ⟨behind, tree, hasTree, run⟩ :=
    run_encode value .start [] [] [] (by simpa using room)
  refine ⟨tree, hasTree, ?_⟩
  rw [List.append_nil, List.append_nil] at run
  have whole : (String.ofList value.encode).toList = value.encode := String.toList_ofList
  rw [parseItems_of_run (whole.symm ▸ run) rfl]
  simp only [Draft.finish, Draft.endLine?, Draft.endValue, Option.getD_none,
    List.reverse_reverse]

end Reading
end ConfigLang
