import ConfigLang.Json.Lexeme
import ConfigLang.Proofs.Json.Plain
/-! The grammar of JSON texts that hold strings, arrays and objects only. Each relation says which
characters a value is written with: those in front, up to where the last argument starts.

    value    := blank* (string | '[' items | '{' entries)
    items    := blank* ']' | value (blank* ',' value)* blank* ']'
    entries  := blank* '}' | entry (blank* ',' entry)* blank* '}'
    entry    := blank* string blank* ':' value
    string   := '"' (plain | '\' escape | '\u' unit | '\u' high '\u' low)* '"'
-/
namespace ConfigLang.Json

inductive PastBlanks : List Char → List Char → Prop
  | none (rest : List Char) : PastBlanks rest rest
  | blank {c : Char} {cs rest : List Char} (isBlank : isJsonBlank c = true)
      (more : PastBlanks cs rest) : PastBlanks (c :: cs) rest

def codeUnit? (a b c d : Char) : Option Nat := do
  let a ← hexValue? a
  let b ← hexValue? b
  let c ← hexValue? c
  let d ← hexValue? d
  return ((a * 16 + b) * 16 + c) * 16 + d

def IsHighSurrogate (unit : Nat) : Prop := 0xd800 ≤ unit ∧ unit ≤ 0xdbff

def IsLowSurrogate (unit : Nat) : Prop := 0xdc00 ≤ unit ∧ unit ≤ 0xdfff

instance : DecidablePred IsHighSurrogate := fun _ => inferInstanceAs (Decidable (_ ∧ _))

instance : DecidablePred IsLowSurrogate := fun _ => inferInstanceAs (Decidable (_ ∧ _))

/-- A string from behind its opening quote, and the characters that it stands for. -/
inductive IsString : List Char → List Char → List Char → Prop
  | close (rest : List Char) : IsString ('"' :: rest) [] rest
  | plain {c : Char} {cs text rest : List Char} (quote : c ≠ '"') (backslash : c ≠ '\\')
      (control : ¬ c < ' ') (more : IsString cs text rest) : IsString (c :: cs) (c :: text) rest
  | escape {c d : Char} {cs text rest : List Char} (known : simpleEscape? c = some d)
      (more : IsString cs text rest) : IsString ('\\' :: c :: cs) (d :: text) rest
  | unit {a b c d : Char} {unit : Nat} {cs text rest : List Char}
      (digits : codeUnit? a b c d = some unit) (notHigh : ¬ IsHighSurrogate unit)
      (notLow : ¬ IsLowSurrogate unit) (more : IsString cs text rest) :
      IsString ('\\' :: 'u' :: a :: b :: c :: d :: cs) (Char.ofNat unit :: text) rest
  | pair {a b c d a' b' c' d' : Char} {high low : Nat} {cs text rest : List Char}
      (first : codeUnit? a b c d = some high) (isHigh : IsHighSurrogate high)
      (second : codeUnit? a' b' c' d' = some low) (isLow : IsLowSurrogate low)
      (more : IsString cs text rest) :
      IsString
        ('\\' :: 'u' :: a :: b :: c :: d :: '\\' :: 'u' :: a' :: b' :: c' :: d' :: cs)
        (Char.ofNat (0x10000 + (high - 0xd800) * 0x400 + (low - 0xdc00)) :: text) rest

mutual

inductive IsValue : List Char → Json → List Char → Prop
  | string {cs body text rest : List Char} (opens : PastBlanks cs ('"' :: body))
      (string : IsString body text rest) : IsValue cs (.string (String.ofList text)) rest
  | array {cs inner rest : List Char} {items : List Json} (opens : PastBlanks cs ('[' :: inner))
      (elements : AreItems inner items rest) : IsValue cs (.array items) rest
  | object {cs inner rest : List Char} {entries : List (String × Json)}
      (opens : PastBlanks cs ('\x7b' :: inner)) (elements : AreEntries inner entries rest) :
      IsValue cs (.object entries) rest

/-- The items of an array from behind its opening bracket, the closing one included. -/
inductive AreItems : List Char → List Json → List Char → Prop
  | none {cs rest : List Char} (closes : PastBlanks cs (']' :: rest)) : AreItems cs [] rest
  | some {cs rest : List Char} {items : List Json} (elements : AreItemsFrom cs items rest) :
      AreItems cs items rest

inductive AreItemsFrom : List Char → List Json → List Char → Prop
  | last {cs behind rest : List Char} {item : Json} (value : IsValue cs item behind)
      (closes : PastBlanks behind (']' :: rest)) : AreItemsFrom cs [item] rest
  | more {cs behind next rest : List Char} {item : Json} {items : List Json}
      (value : IsValue cs item behind) (comma : PastBlanks behind (',' :: next))
      (others : AreItemsFrom next items rest) : AreItemsFrom cs (item :: items) rest

inductive AreEntries : List Char → List (String × Json) → List Char → Prop
  | none {cs rest : List Char} (closes : PastBlanks cs ('\x7d' :: rest)) : AreEntries cs [] rest
  | some {cs name rest : List Char} {entries : List (String × Json)}
      (opens : PastBlanks cs ('"' :: name)) (elements : AreEntriesFrom name entries rest) :
      AreEntries cs entries rest

/-- The entries from behind the opening quote of the first key. -/
inductive AreEntriesFrom : List Char → List (String × Json) → List Char → Prop
  | last {cs key behindKey valued behind rest : List Char} {value : Json}
      (named : IsString cs key behindKey) (colon : PastBlanks behindKey (':' :: valued))
      (held : IsValue valued value behind) (closes : PastBlanks behind ('\x7d' :: rest)) :
      AreEntriesFrom cs [(String.ofList key, value)] rest
  | more {cs key behindKey valued behind next name rest : List Char} {value : Json}
      {entries : List (String × Json)} (named : IsString cs key behindKey)
      (colon : PastBlanks behindKey (':' :: valued)) (held : IsValue valued value behind)
      (comma : PastBlanks behind (',' :: next)) (opens : PastBlanks next ('"' :: name))
      (others : AreEntriesFrom name entries rest) :
      AreEntriesFrom cs ((String.ofList key, value) :: entries) rest

end

/-- The text is one value between blanks. -/
def IsText (text : String) (json : Json) : Prop :=
  ∃ rest, IsValue text.toList json rest ∧ PastBlanks rest []

mutual

theorem IsValue.plain : {cs rest : List Char} → {json : Json} → IsValue cs json rest →
    json.IsPlain
  | _, _, _, .string _ _ => trivial
  | _, _, _, .array _ items => items.plain
  | _, _, _, .object _ entries => entries.plain

theorem AreItems.plain : {cs rest : List Char} → {items : List Json} → AreItems cs items rest →
    ArePlainItems items
  | _, _, _, .none _ => trivial
  | _, _, _, .some items => items.plain

theorem AreItemsFrom.plain : {cs rest : List Char} → {items : List Json} →
    AreItemsFrom cs items rest → ArePlainItems items
  | _, _, _, .last value _ => ⟨value.plain, trivial⟩
  | _, _, _, .more value _ others => ⟨value.plain, others.plain⟩

theorem AreEntries.plain : {cs rest : List Char} → {entries : List (String × Json)} →
    AreEntries cs entries rest → ArePlainEntries entries
  | _, _, _, .none _ => trivial
  | _, _, _, .some _ entries => entries.plain

theorem AreEntriesFrom.plain : {cs rest : List Char} → {entries : List (String × Json)} →
    AreEntriesFrom cs entries rest → ArePlainEntries entries
  | _, _, _, .last _ _ held _ => ⟨held.plain, trivial⟩
  | _, _, _, .more _ _ held _ _ others => ⟨held.plain, others.plain⟩

end

end ConfigLang.Json
