import ConfigLang.Json.Form
import ConfigLang.Proofs.Json.Printing
import ConfigLang.Proofs.Json.Reading
/-! Forms read back what is printed. The compact text of a value does not end by itself where it is
a number; something that ends it must follow. -/
namespace ConfigLang.Json

/-- What may stand behind a value: nothing, or what separates and closes. -/
def EndsValue (rest : List Char) : Prop :=
  ∀ c ∈ rest.head?, c = ',' ∨ c = ']' ∨ c = '\x7d'

theorem endsValue_nil : EndsValue [] := nofun

theorem endsValue_comma (rest : List Char) : EndsValue (',' :: rest) := by
  simp [EndsValue]

theorem endsValue_bracket (rest : List Char) : EndsValue (']' :: rest) := by
  simp [EndsValue]

theorem endsValue_brace (rest : List Char) : EndsValue ('\x7d' :: rest) := by
  simp [EndsValue]

/-! ### Digits -/

theorem isDigit_of_mem_toDigits {n : Nat} {c : Char} (digit : c ∈ Nat.toDigits 10 n) :
    isDigit c = true := by
  have known := Nat.isDigit_of_mem_toDigits (by decide) (by decide) digit
  simpa [Char.isDigit, isDigit, Char.le_def] using known

theorem isJsonBlank_eq_false_of_isDigit {c : Char} (digit : isDigit c = true) :
    isJsonBlank c = false := by
  rw [Bool.eq_false_iff]
  intro blank
  simp only [isJsonBlank, Bool.or_eq_true, beq_iff_eq] at blank
  rcases blank with ((rfl | rfl) | rfl) | rfl <;> cases digit

theorem toDigits_eq_cons (n : Nat) :
    ∃ c behind, Nat.toDigits 10 n = c :: behind ∧ (c = '0' → n = 0) := by
  induction n using Nat.strongRecOn with
  | ind n ih =>
    by_cases short : n < 10
    · exact ⟨_, _, Nat.toDigits_of_lt_base short, Nat.digitChar_eq_zero.1⟩
    · obtain ⟨c, behind, digits, zero⟩ := ih (n / 10) (by omega)
      refine ⟨c, behind ++ [Nat.digitChar (n % 10)], ?_, fun leading => ?_⟩
      · rw [Nat.toDigits_of_base_le (by decide) (by omega), digits, List.cons_append]
      · have := zero leading
        omega

theorem le_ofDigitChars (init : Nat) (digits : List Char) :
    init ≤ Nat.ofDigitChars 10 digits init := by
  induction digits generalizing init with
  | nil => exact Nat.le_refl _
  | cons c digits ih =>
    rw [Nat.ofDigitChars_cons]
    exact Nat.le_trans (by omega) (ih _)

theorem absorb_eq {significand : Nat} {digits : List Char}
    (fits : Nat.ofDigitChars 10 digits significand < Nat.pow 2 64) :
    absorb significand digits = (Nat.ofDigitChars 10 digits significand, []) := by
  induction digits generalizing significand with
  | nil => rfl
  | cons c digits ih =>
    rw [Nat.ofDigitChars_cons, Nat.mul_comm] at fits ⊢
    have next := Nat.lt_of_le_of_lt (le_ofDigitChars _ digits) fits
    rw [absorb, if_pos next]
    exact ih fits

theorem EndsValue.isDigit_eq_false {rest : List Char} (ends : EndsValue rest) :
    ∀ c ∈ rest.head?, isDigit c = false := by
  intro c first
  rcases ends c first with rfl | rfl | rfl <;> rfl

theorem EndsValue.noDigits {rest : List Char} (ends : EndsValue rest) :
    rest.dropWhile isDigit = rest ∧ rest.takeWhile isDigit = [] := by
  cases rest with
  | nil => exact ⟨rfl, rfl⟩
  | cons c rest =>
    have other := ends.isDigit_eq_false c rfl
    exact ⟨List.dropWhile_cons_of_neg (by simp [other]),
      List.takeWhile_cons_of_neg (by simp [other])⟩

theorem readNumber_toDigits {n : Nat} (fits : n < Nat.pow 2 64) {rest : List Char}
    (ends : EndsValue rest) :
    readNumber false (Nat.toDigits 10 n ++ rest) = .ok (.whole n, rest) := by
  obtain ⟨c, behind, digits, zero⟩ := toDigits_eq_cons n
  have allDigits : ∀ d ∈ Nat.toDigits 10 n, isDigit d = true := fun _ => isDigit_of_mem_toDigits
  have taken : (Nat.toDigits 10 n ++ rest).takeWhile isDigit = Nat.toDigits 10 n := by
    rw [List.takeWhile_append_of_pos allDigits, ends.noDigits.2, List.append_nil]
  have dropped : (Nat.toDigits 10 n ++ rest).dropWhile isDigit = rest := by
    rw [List.dropWhile_append_of_pos allDigits, ends.noDigits.1]
  have absorbed : absorb 0 (Nat.toDigits 10 n) = (n, []) := by
    have value : Nat.ofDigitChars 10 (Nat.toDigits 10 n) 0 = n := Nat.ofDigitChars_ten_toDigits
    rw [absorb_eq (by rwa [value]), value]
  have first : isDigit c = true := allDigits c (by simp [digits])
  have alone : (c = '0' && (behind ++ rest).head?.any isDigit) = false := by
    by_cases leading : c = '0'
    · obtain rfl := zero leading
      cases digits
      cases rest with
      | nil => rfl
      | cons d rest => simp [ends.isDigit_eq_false d rfl]
    · simp [leading]
  rw [digits, List.cons_append] at taken dropped
  rw [digits, List.cons_append, readNumber]
  simp only [first, alone, taken, dropped, ← digits, absorbed]
  cases rest with
  | nil => rfl
  | cons d rest =>
    rcases ends d rfl with rfl | rfl | rfl <;> rfl

theorem numberBehind_of_read {negative : Bool} {cs rest : List Char} {n : Number}
    (read : readNumber negative cs = .ok (n, rest)) :
    ∃ shorter, numberBehind negative cs = .ok (n, ⟨rest, shorter⟩) := by
  refine ⟨length_readNumber read, ?_⟩
  unfold numberBehind
  split
  · next failed => cases read.symm.trans failed
  · next same =>
    cases read.symm.trans same
    rfl

/-! ### Forms -/

theorem next?_of_eq_cons {c : Char} {cs rest : List Char} (starts : cs = c :: rest)
    (visible : isJsonBlank c = false) :
    ∃ shorter, next? cs = some (c, ⟨rest, shorter⟩) :=
  PastBlanks.next? (starts ▸ .none _) visible

theorem next?_cons (c : Char) (rest : List Char) (visible : isJsonBlank c = false) :
    ∃ shorter, next? (c :: rest) = some (c, ⟨rest, shorter⟩) :=
  next?_of_eq_cons rfl visible

def opening? : Json → Option Char
  | .string _ => some '"'
  | .array _ => some '['
  | .object _ => some '\x7b'
  | _ => none

theorem compactChars_of_opening {json : Json} {c : Char} (opens : json.opening? = some c) :
    ∃ behind, compactChars json = c :: behind ∧ isJsonBlank c = false ∧ c ≠ ']' ∧ c ≠ 'n' := by
  cases json with
  | null => cases opens
  | bool b => cases opens
  | number n => cases opens
  | string text =>
    cases opens
    exact ⟨_, rfl, by decide⟩
  | array items =>
    cases opens
    exact ⟨_, by rw [compactChars, List.cons_append], by decide⟩
  | object entries =>
    cases opens
    exact ⟨_, by rw [compactChars, List.cons_append], by decide⟩

namespace Form

/-- The form takes the compact text of the value, and nothing behind it, for `a`. -/
def Reads {α : Type} (form : Form α) (depth : Nat) (json : Json) (a : α) : Prop :=
  ∀ cs rest, cs = compactChars json ++ rest → EndsValue rest →
    ∃ shorter, form depth cs = .ok (a, ⟨rest, shorter⟩)

variable {α : Type} {form : Form α} {depth : Nat}

theorem readForm_of_reads {json : Json} {a : α} (reads : Reads form maxNesting json a) :
    readForm form json.compact = .ok a := by
  have printed : json.compact.toList = compactChars json ++ [] := by
    rw [compact, String.toList_ofList, List.append_nil]
  obtain ⟨shorter, read⟩ := reads _ [] printed endsValue_nil
  rw [readForm, read]
  rfl

theorem literal_starts {text : String} {cs rest : List Char} (starts : cs = literal text ++ rest) :
    ∃ behind opened shorter, next? cs = some ('"', ⟨behind, opened⟩) ∧
      stringBehind behind = .ok (text, ⟨rest, shorter⟩) := by
  obtain ⟨shorter, read⟩ := (isString_text text.toList rest).behind
  obtain ⟨opened, found⟩ := next?_of_eq_cons (starts.trans (literal_append text rest)) rfl
  rw [String.ofList_toList] at read
  exact ⟨_, opened, shorter, found, read⟩

theorem reads_text (text : String) : Reads Form.text depth (.string text) text := by
  intro cs rest starts _
  obtain ⟨behind, opened, shorter, found, read⟩ := literal_starts starts
  refine ⟨Nat.lt_trans shorter opened, ?_⟩
  rw [Form.text, Form.string, start, found]
  simp only [if_true, read]
  rfl

theorem reads_choice {cases : List (String × α)} {name : String} {a : α}
    (known : cases.find? (·.1 = name) = some (name, a)) :
    Reads (Form.choice cases) depth (.string name) a := by
  intro cs rest starts _
  obtain ⟨behind, opened, shorter, found, read⟩ := literal_starts starts
  refine ⟨Nat.lt_trans shorter opened, ?_⟩
  rw [Form.choice, start, found]
  simp only [if_true, named, read, bind, Except.bind, known]
  rfl

theorem compactChars_ofNat (n : Nat) : compactChars (.ofNat n) = Nat.toDigits 10 n := by
  have text : Number.text (.whole n) = String.ofList (Nat.toDigits 10 n) :=
    Nat.repr_eq_ofList_toDigits
  rw [Json.ofNat, compactChars, text, String.toList_ofList]

theorem reads_natural {n : Nat} (fits : n < Nat.pow 2 64) :
    Reads Form.natural depth (.ofNat n) n := by
  intro cs rest starts ends
  obtain ⟨c, behind, digits, _⟩ := toDigits_eq_cons n
  have digit : isDigit c = true := isDigit_of_mem_toDigits (n := n) (by simp [digits])
  have noSign : c ≠ '-' := by
    rintro rfl
    cases digit
  have read := readNumber_toDigits fits ends
  rw [← compactChars_ofNat, ← starts] at read
  rw [compactChars_ofNat, digits, List.cons_append] at starts
  obtain ⟨opened, found⟩ := next?_of_eq_cons starts (isJsonBlank_eq_false_of_isDigit digit)
  subst starts
  obtain ⟨shorter, number⟩ := numberBehind_of_read read
  refine ⟨shorter, ?_⟩
  rw [Form.natural, start, found]
  simp only [if_neg noSign, digit, if_true, number]
  rfl

theorem reads_none : Reads (Form.optional form) depth .null none := by
  intro cs rest starts _
  obtain ⟨opened, found⟩ := next?_of_eq_cons (c := 'n') starts rfl
  refine ⟨by simp [starts, compactChars]; omega, ?_⟩
  unfold Form.optional
  rw [found]
  rfl

theorem reads_some {json : Json} (opens : json.opening?.isSome) {a : α}
    (reads : Reads form depth json a) : Reads (Form.optional form) depth json (some a) := by
  intro cs rest starts ends
  obtain ⟨c, opens⟩ := Option.isSome_iff_exists.1 opens
  obtain ⟨behind, printed, visible, _, word⟩ := compactChars_of_opening opens
  obtain ⟨shorter, read⟩ := reads cs rest starts ends
  rw [printed, List.cons_append] at starts
  obtain ⟨opened, found⟩ := next?_of_eq_cons starts visible
  refine ⟨shorter, ?_⟩
  unfold Form.optional
  split
  · next same =>
    cases found.symm.trans same
    exact absurd rfl word
  · rw [read]
    rfl

theorem reads_ofOption {print : α → Json} {a? : Option α}
    (reads : ∀ a ∈ a?, Reads form depth (print a) a) (opens : ∀ a ∈ a?, (print a).opening?.isSome) :
    Reads (Form.optional form) depth (.ofOption print a?) a? := by
  cases a? with
  | none => exact reads_none
  | some a => exact reads_some (opens a rfl) (reads a rfl)

/-! ### Lists -/

theorem items_eq_cons {first : Json} (opens : first.opening?.isSome) (others : List Json)
    {cs ending : List Char} (starts : cs = compactItems (first :: others) ++ ending) :
    ∃ c behind, cs = c :: behind ∧ isJsonBlank c = false ∧ c ≠ ']' := by
  obtain ⟨c, opens⟩ := Option.isSome_iff_exists.1 opens
  obtain ⟨behind, printed, visible, other, _⟩ := compactChars_of_opening opens
  cases others with
  | nil =>
    rw [compactItems, printed] at starts
    exact ⟨c, _, starts, visible, other⟩
  | cons next others =>
    rw [separates_compactItems.more, printed] at starts
    exact ⟨c, _, starts, visible, other⟩

section list

variable {print : α → Json} {items : List α}

theorem itemsFrom_of_reads (item : α) (others : List α)
    (reads : ∀ a ∈ item :: others, Reads form depth (print a) a)
    (opens : ∀ a ∈ item :: others, (print a).opening?.isSome) :
    ∀ cs rest, cs = compactItems ((item :: others).map print) ++ ']' :: rest →
      ∃ shorter, itemsFrom form depth cs = .ok (item :: others, ⟨rest, shorter⟩) := by
  induction others generalizing item with
  | nil =>
    intro cs rest starts
    obtain ⟨shorter, read⟩ := reads item List.mem_cons_self cs _ starts (endsValue_bracket rest)
    obtain ⟨closed, found⟩ := next?_cons ']' rest rfl
    refine ⟨Nat.lt_trans closed shorter, ?_⟩
    rw [itemsFrom, read]
    simp only [bind, Except.bind, found, if_true]
    rfl
  | cons next others ih =>
    intro cs rest starts
    obtain ⟨here, reads⟩ := List.forall_mem_cons.1 reads
    obtain ⟨_, opens⟩ := List.forall_mem_cons.1 opens
    obtain ⟨later, more⟩ : ∃ later,
        later = compactItems ((next :: others).map print) ++ ']' :: rest := ⟨_, rfl⟩
    have split : cs = compactChars (print item) ++ ',' :: later := by
      rw [starts, more, List.map_cons, List.map_cons, separates_compactItems.more]
      simp
    obtain ⟨shorter, read⟩ := here cs _ split (endsValue_comma _)
    obtain ⟨passed, comma⟩ := next?_cons ',' later rfl
    obtain ⟨c, behind, first, visible, other⟩ := items_eq_cons (opens next List.mem_cons_self) _ more
    have skipped : skipBlanks later = c :: behind := by
      rw [first]
      exact List.dropWhile_cons_of_neg (by simp [visible])
    obtain ⟨shorter', readLater⟩ := ih next reads opens later rest more
    refine ⟨by omega, ?_⟩
    rw [itemsFrom, read]
    simp only [bind, Except.bind, comma, Char.reduceEq, if_true, if_false, skipped, if_neg other,
      readLater]
    rfl

theorem reads_list (reads : ∀ a ∈ items, Reads form depth (print a) a)
    (opens : ∀ a ∈ items, (print a).opening?.isSome) :
    Reads (Form.list form) (depth + 1) (.array (items.map print)) items := by
  intro cs rest starts _
  obtain ⟨inner, more⟩ : ∃ inner, inner = compactItems (items.map print) ++ ']' :: rest := ⟨_, rfl⟩
  have split : cs = '[' :: inner := by simp [starts, more, compactChars]
  obtain ⟨opened, found⟩ := next?_of_eq_cons split rfl
  cases items with
  | nil =>
    obtain ⟨closed, ending⟩ := next?_of_eq_cons (c := ']') more rfl
    refine ⟨Nat.lt_trans closed opened, ?_⟩
    rw [Form.list, start, found]
    simp only [if_true, ending]
    rfl
  | cons item others =>
    obtain ⟨shorter, read⟩ := itemsFrom_of_reads item others reads opens inner rest more
    obtain ⟨c, behind, first, visible, other⟩ := items_eq_cons (opens item List.mem_cons_self) _ more
    obtain ⟨left, here⟩ := next?_of_eq_cons first visible
    refine ⟨Nat.lt_trans shorter opened, ?_⟩
    rw [Form.list, start, found]
    simp only [if_true, here, if_neg other, read]
    rfl

end list

/-! ### Records -/

/-- The entries are fields, each for the first time, and take the record from one state to
another. -/
inductive Fills {σ : Type} (fields : List (Field σ)) (depth : Nat) :
    σ → List (String × Json) → σ → Prop
  | done (s : σ) : Fills fields depth s [] s
  | next {s s' s'' : σ} {key : String} {field : Field σ} {value : Json}
      {entries : List (String × Json)} (known : fields.find? (·.name = key) = some field)
      (unread : field.isRead s = false) (reads : Reads (field.read s) depth value s')
      (more : Fills fields depth s' entries s'') :
      Fills fields depth s ((key, value) :: entries) s''

section record

variable {σ : Type} {fields : List (Field σ)} {s s' s'' : σ}

theorem Fills.append {entries entries' : List (String × Json)}
    (first : Fills fields depth s entries s') (second : Fills fields depth s' entries' s'') :
    Fills fields depth s (entries ++ entries') s'' := by
  induction first with
  | done s => exact second
  | next known unread reads _ ih => exact .next known unread reads (ih second)

theorem reads_field {β : Type} {read : Form β} {name : String} {get : σ → Option β}
    {set : σ → β → σ} {value : Json} {b : β} (reads : Reads read depth value b) :
    Reads ((field name read get set).read s) depth value (set s b) := by
  intro cs rest starts ends
  obtain ⟨shorter, found⟩ := reads cs rest starts ends
  refine ⟨shorter, ?_⟩
  simp only [field, found]
  rfl

/-- A value that may be left out. `state` is what has been read, but for the field of the value. -/
theorem Fills.ofOption {β : Type} {key : String} {field : Field σ} {print : β → Json}
    {b? : Option β} (state : Option (Option β) → σ)
    (known : fields.find? (·.name = key) = some field) (unread : field.isRead (state none) = false)
    (reads : ∀ b ∈ b?, Reads (field.read (state none)) depth (print b) (state (some (some b)))) :
    Fills fields depth (state none) (b?.map fun b => (key, print b)).toList
      (state (b?.map some)) := by
  cases b? with
  | none => exact .done _
  | some b => exact .next known unread (reads b rfl) (.done _)

theorem compactEntries_eq_cons (entry : String × Json) (others : List (String × Json))
    (ending : List Char) :
    ∃ later, compactEntries (entry :: others) ++ ending = '"' :: later := by
  obtain ⟨key, value⟩ := entry
  cases others with
  | nil =>
    rw [compactEntries, List.append_assoc, literal_append]
    exact ⟨_, rfl⟩
  | cons next others =>
    rw [separates_compactEntries.more, List.nil_append, List.append_assoc, List.append_assoc,
      literal_append]
    exact ⟨_, rfl⟩

theorem entry_of_reads {β : Type} {read : Form β} {name : String} {value : Json} {b : β}
    (reads : Reads read depth value b) {cs rest : List Char}
    (starts : '"' :: cs = literal name ++ ':' :: (compactChars value ++ rest))
    (ends : EndsValue rest) :
    ∃ behindKey named valued divided shorter,
      stringBehind cs = .ok (name, ⟨behindKey, named⟩) ∧
      next? behindKey = some (':', ⟨valued, divided⟩) ∧
      read depth valued = .ok (b, ⟨rest, shorter⟩) := by
  rw [literal_append] at starts
  cases starts
  obtain ⟨named, key⟩ := (isString_text name.toList (':' :: (compactChars value ++ rest))).behind
  obtain ⟨divided, colon⟩ := next?_cons ':' (compactChars value ++ rest) rfl
  obtain ⟨shorter, found⟩ := reads _ rest rfl ends
  rw [String.ofList_toList] at key
  exact ⟨_, named, _, divided, shorter, key, colon, found⟩

theorem entriesFrom_of_fills {entries : List (String × Json)}
    (fills : Fills fields depth s entries s') (some : entries ≠ []) :
    ∀ cs rest, '"' :: cs = compactEntries entries ++ '\x7d' :: rest →
      ∃ shorter, entriesFrom fields depth s cs = .ok (s', ⟨rest, shorter⟩) := by
  induction fills with
  | done s => exact absurd rfl some
  | @next s s' s'' key field value entries known unread reads more ih =>
    intro cs rest starts
    cases entries with
    | nil =>
      cases more
      have split : '"' :: cs = literal key ++
          ':' :: (compactChars value ++ '\x7d' :: rest) := by
        simp [starts, compactEntries]
      obtain ⟨behindKey, named, valued, divided, shorter, name, colon, found⟩ :=
        entry_of_reads reads split (endsValue_brace rest)
      obtain ⟨closed, ending⟩ := next?_cons '\x7d' rest rfl
      refine ⟨by omega, ?_⟩
      rw [entriesFrom, name]
      simp only [bind, Except.bind, known, Option.any_some, unread, Bool.false_eq_true, if_false,
        colon, if_true, found, ending]
      rfl
    | cons entry others =>
      obtain ⟨later, quoted⟩ := compactEntries_eq_cons entry others ('\x7d' :: rest)
      obtain ⟨shorter, readLater⟩ := ih (List.cons_ne_nil _ _) later rest quoted.symm
      have split : '"' :: cs = literal key ++
          ':' :: (compactChars value ++ ',' :: '"' :: later) := by
        simp [starts, separates_compactEntries.more, ← quoted]
      obtain ⟨behindKey, named, valued, divided, shorter', name, colon, found⟩ :=
        entry_of_reads reads split (endsValue_comma _)
      obtain ⟨passed, comma⟩ := next?_cons ',' ('"' :: later) rfl
      obtain ⟨opened, quote⟩ := next?_cons '"' later rfl
      refine ⟨by omega, ?_⟩
      rw [entriesFrom, name]
      simp only [bind, Except.bind, known, Option.any_some, unread, Bool.false_eq_true, if_false,
        colon, if_true, found, comma, Char.reduceEq, quote, readLater]
      rfl

/-- A record is read if its entries fill its fields, and what they amount to is complete. -/
theorem reads_record {name : String} {finish : σ → Except Problem α}
    {entries : List (String × Json)} {a : α} (state : σ)
    (fills : Fills fields depth s entries state) (finished : finish state = .ok a) :
    Reads (Form.record name fields s finish) (depth + 1) (.object entries) a := by
  intro cs rest starts _
  obtain ⟨inner, more⟩ : ∃ inner, inner = compactEntries entries ++ '\x7d' :: rest := ⟨_, rfl⟩
  have split : cs = '\x7b' :: inner := by simp [starts, more, compactChars]
  obtain ⟨opened, found⟩ := next?_of_eq_cons split rfl
  cases entries with
  | nil =>
    cases fills
    obtain ⟨closed, ending⟩ := next?_of_eq_cons (c := '\x7d') more rfl
    refine ⟨Nat.lt_trans closed opened, ?_⟩
    rw [Form.record, start, found]
    simp only [if_true, ending, finished]
    rfl
  | cons entry others =>
    obtain ⟨later, quoted⟩ := compactEntries_eq_cons entry others ('\x7d' :: rest)
    obtain ⟨shorter, read⟩ :=
      entriesFrom_of_fills fills (List.cons_ne_nil _ _) later rest quoted.symm
    obtain ⟨opened', quote⟩ := next?_of_eq_cons (more.trans quoted) rfl
    refine ⟨by omega, ?_⟩
    rw [Form.record, start, found]
    simp only [if_true, quote, Char.reduceEq, if_false, read, bind, Except.bind, finished]
    rfl

end record

end Form

end ConfigLang.Json
