import ConfigLang.Json.Printer
import ConfigLang.Proofs.Json.Grammar
import ConfigLang.Proofs.Json.Literal
/-! What is printed is a text of the grammar, in the compact form and in the indented one,
whatever stands behind it. -/
namespace ConfigLang.Json

theorem PastBlanks.trans {cs behind rest : List Char} (first : PastBlanks cs behind)
    (second : PastBlanks behind rest) : PastBlanks cs rest := by
  induction first with
  | none behind => exact second
  | blank isBlank more ih => exact .blank isBlank (ih second)

theorem pastBlanks_nothing (rest : List Char) : PastBlanks ([] ++ rest) rest := .none rest

theorem IsValue.behindBlanks {cs behind rest : List Char} {json : Json}
    (value : IsValue behind json rest) (past : PastBlanks cs behind) : IsValue cs json rest := by
  cases value with
  | string opens text => exact .string (past.trans opens) text
  | array opens elements => exact .array (past.trans opens) elements
  | object opens elements => exact .object (past.trans opens) elements

theorem codeUnit?_control {c : Char} (control : c < ' ') :
    codeUnit? '0' '0' (Nat.digitChar (c.toNat / 16)) (Nat.digitChar (c.toNat % 16)) =
      some c.toNat := by
  have below : c.toNat < 32 := UInt32.lt_iff_toNat_lt.1 control
  have zero : hexValue? '0' = some 0 := by decide
  have high := hexValue?_digitChar (c.toNat / 16) (by omega)
  have low := hexValue?_digitChar (c.toNat % 16) (by omega)
  have whole : ((0 * 16 + 0) * 16 + c.toNat / 16) * 16 + c.toNat % 16 = c.toNat := by omega
  simp only [codeUnit?, zero, high, low, Option.bind_eq_bind, Option.bind_some]
  exact congrArg some whole

theorem IsString.control {c : Char} {cs text rest : List Char} (control : c < ' ')
    (more : IsString cs text rest) :
    IsString ('\\' :: 'u' :: '0' :: '0' :: Nat.digitChar (c.toNat / 16) ::
      Nat.digitChar (c.toNat % 16) :: cs) (c :: text) rest := by
  have below : c.toNat < 32 := UInt32.lt_iff_toNat_lt.1 control
  have same := IsString.unit (codeUnit?_control control)
    (by simp only [IsHighSurrogate]; omega) (by simp only [IsLowSurrogate]; omega) more
  rwa [Char.ofNat_toNat] at same

theorem IsString.escaped (c : Char) {cs text rest : List Char} (more : IsString cs text rest) :
    IsString (Json.escaped c ++ cs) (c :: text) rest := by
  unfold Json.escaped
  split
  · subst_vars; exact .escape rfl more
  split
  · subst_vars; exact .escape rfl more
  split
  · subst_vars; exact .escape rfl more
  split
  · subst_vars; exact .escape rfl more
  split
  · subst_vars; exact .escape rfl more
  split
  · subst_vars; exact .escape rfl more
  split
  · subst_vars; exact .escape rfl more
  split
  · next control => exact more.control control
  · next quote backslash _ _ _ _ _ control => exact .plain quote backslash control more

theorem isString_text (text rest : List Char) :
    IsString (text.flatMap escaped ++ '"' :: rest) text rest := by
  induction text with
  | nil => exact .close rest
  | cons c text ih =>
    rw [List.flatMap_cons, List.append_assoc]
    exact ih.escaped c

theorem literal_append (text : String) (rest : List Char) :
    literal text ++ rest = '"' :: (text.toList.flatMap escaped ++ '"' :: rest) := by
  simp [literal]

theorem isValue_literal (text : String) (rest : List Char) :
    IsValue (literal text ++ rest) (.string text) rest := by
  have value := IsValue.string (.none _) (isString_text text.toList rest)
  rwa [String.ofList_toList, ← literal_append] at value

/-! ### Elements

Both forms write the elements of an array or an object one by one, each behind a gap, with a
comma between them. They differ in the gap: it is empty, or starts a new line. -/

/-- Elements are printed behind a gap and with commas between them. -/
structure Separates {α : Type} (gap : List Char) (print : α → List Char)
    (printAll : List α → List Char) : Prop where
  single : ∀ element, printAll [element] = gap ++ print element
  more : ∀ element next others, printAll (element :: next :: others) =
    gap ++ (print element ++ ',' :: printAll (next :: others))

section elements

variable {gap ending rest : List Char} (blank : ∀ behind, PastBlanks (gap ++ behind) behind)

include blank

theorem areItemsFrom_of_separates {print : Json → List Char} {printAll : List Json → List Char}
    (separates : Separates gap print printAll) (closes : PastBlanks ending (']' :: rest))
    (item : Json) (others : List Json)
    (inner : ∀ element ∈ item :: others, ∀ behind,
      IsValue (print element ++ behind) element behind) :
    AreItemsFrom (printAll (item :: others) ++ ending) (item :: others) rest := by
  induction others generalizing item with
  | nil =>
    have value := (inner item List.mem_cons_self ending).behindBlanks (blank _)
    rw [separates.single, List.append_assoc]
    exact .last value closes
  | cons next others ih =>
    obtain ⟨here, inner⟩ := List.forall_mem_cons.1 inner
    have value := (here (',' :: (printAll (next :: others) ++ ending))).behindBlanks (blank _)
    rw [separates.more]
    simp only [List.append_assoc, List.cons_append]
    exact .more value (.none _) (ih next inner)

theorem areEntriesFrom_of_separates {print : String × Json → List Char}
    {printAll : List (String × Json) → List Char} {printValue : Json → List Char}
    {space : List Char} (narrow : ∀ behind, PastBlanks (space ++ behind) behind)
    (separates : Separates gap print printAll)
    (printed : ∀ key value, print (key, value) = literal key ++ ':' :: (space ++ printValue value))
    (closes : PastBlanks ending ('\x7d' :: rest)) (entry : String × Json)
    (others : List (String × Json))
    (inner : ∀ element ∈ entry :: others, ∀ behind,
      IsValue (printValue element.2 ++ behind) element.2 behind) :
    ∃ name, PastBlanks (printAll (entry :: others) ++ ending) ('"' :: name) ∧
      AreEntriesFrom name (entry :: others) rest := by
  induction others generalizing entry with
  | nil =>
    obtain ⟨key, value⟩ := entry
    have held := (inner (key, value) List.mem_cons_self ending).behindBlanks (narrow _)
    have last := AreEntriesFrom.last (isString_text key.toList _) (.none _) held closes
    rw [String.ofList_toList] at last
    refine ⟨_, ?_, last⟩
    rw [separates.single, printed, ← literal_append]
    simp only [List.append_assoc, List.cons_append]
    exact blank _
  | cons next others ih =>
    obtain ⟨key, value⟩ := entry
    obtain ⟨here, inner⟩ := List.forall_mem_cons.1 inner
    obtain ⟨name, opens, later⟩ := ih next inner
    have held := (here (',' :: (printAll (next :: others) ++ ending))).behindBlanks (narrow _)
    have more := AreEntriesFrom.more (isString_text key.toList _) (.none _) held (.none _) opens
      later
    rw [String.ofList_toList] at more
    refine ⟨_, ?_, more⟩
    rw [separates.more, printed, ← literal_append]
    simp only [List.append_assoc, List.cons_append]
    exact blank _

end elements

theorem separates_compactItems : Separates [] compactChars compactItems where
  single _ := rfl
  more _ _ _ := rfl

theorem separates_compactEntries : Separates []
    (fun entry => literal entry.1 ++ ':' :: compactChars entry.2) compactEntries where
  single _ := rfl
  more _ _ _ := by simp [compactEntries]

theorem isValue_compactChars {json : Json} (plain : json.IsPlain) (rest : List Char) :
    IsValue (compactChars json ++ rest) json rest := by
  induction json using Json.induct generalizing rest with
  | null => cases plain
  | bool b => cases plain
  | number n => cases plain
  | string text => exact isValue_literal text rest
  | array items ih =>
    have inner := fun item member => ih item member (arePlainItems_iff.1 plain item member)
    have whole : compactChars (.array items) ++ rest = '[' :: (compactItems items ++ ']' :: rest) := by
      simp [compactChars]
    rw [whole]
    apply IsValue.array (.none _)
    cases items with
    | nil => exact .none (.none _)
    | cons item others =>
      exact .some (areItemsFrom_of_separates pastBlanks_nothing separates_compactItems (.none _)
        item others inner)
  | object entries ih =>
    have inner := fun entry member => ih entry member (arePlainEntries_iff.1 plain entry member)
    have whole : compactChars (.object entries) ++ rest =
        '\x7b' :: (compactEntries entries ++ '\x7d' :: rest) := by
      simp [compactChars]
    rw [whole]
    apply IsValue.object (.none _)
    cases entries with
    | nil => exact .none (.none _)
    | cons entry others =>
      obtain ⟨name, opens, elements⟩ := areEntriesFrom_of_separates pastBlanks_nothing
        pastBlanks_nothing separates_compactEntries (fun _ _ => rfl) (.none _) entry others inner
      exact .some opens elements

theorem isText_compact {json : Json} (plain : json.IsPlain) : IsText json.compact json := by
  refine ⟨[], ?_, .none _⟩
  have value := isValue_compactChars plain []
  rwa [List.append_nil, ← String.toList_ofList (l := compactChars json)] at value

end ConfigLang.Json
