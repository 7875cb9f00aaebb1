import ConfigLang.Json.Reader
import ConfigLang.Json.Skip
import ConfigLang.Text.Quoted
/-! Forms: readers of JSON that know what they want. A value of another form is refused at
the place where the difference shows. -/
namespace ConfigLang.Json

abbrev Form (α : Type) :=
  (depth : Nat) → (cs : List Char) → Except Fault (α × Behind cs)

namespace Form

def describeNumber : Number → String
  | .whole n => "integer `" ++ toString n ++ "`"
  | n => "floating point `" ++ n.text ++ "`"

/-- Refuses the next value because it is not what is expected. Its first byte is `c`; a list
or object is refused at its bracket, any other value behind its end. -/
def refuse {α : Type} (expected : String) (c : Char) (rest : List Char) : Except Fault α :=
  let wrong (description : String) (left : List Char) : Except Fault α :=
    .error (.before (.mismatch ("invalid type: " ++ description ++ ", expected " ++ expected)) left)
  if c = 'n' then do wrong "null" (← readWord ['u', 'l', 'l'] rest)
  else if c = 't' then do wrong "boolean `true`" (← readWord ['r', 'u', 'e'] rest)
  else if c = 'f' then do wrong "boolean `false`" (← readWord ['a', 'l', 's', 'e'] rest)
  else if c = '-' then do
    let (n, left) ← readNumber true rest
    wrong (describeNumber n) left
  else if isDigit c then do
    let (n, left) ← readNumber false (c :: rest)
    wrong (describeNumber n) left
  else if c = '"' then do
    let (body, left) ← readString .plain rest
    wrong ("string " ++ Text.quote (String.ofList body)) left
  else if c = '[' then wrong "sequence" (c :: rest)
  else if c = '\x7b' then wrong "map" (c :: rest)
  else .error (.onto .valueExpected (c :: rest))

def start {α : Type} (cs : List Char)
    (read : (c : Char) → (rest : List Char) → rest.length < cs.length →
      Except Fault (α × Behind cs)) : Except Fault (α × Behind cs) :=
  match next? cs with
  | none => .error (.before .endInValue [])
  | some (c, ⟨rest, shorter⟩) => read c rest shorter

def string (expected : String) : Form String := fun _ cs =>
  start cs fun c rest shorter =>
    if c = '"' then do
      let (text, left) ← stringBehind rest
      return (text, left.within shorter)
    else refuse expected c rest

def text : Form String := string "a string"

def natural : Form Nat := fun _ cs =>
  let accept (n : Number) (left : Behind cs) : Except Fault (Nat × Behind cs) :=
    match n with
    | .whole (.ofNat n) => .ok (n, left)
    | .whole n =>
      .error (.before
        (.mismatch ("invalid value: integer `" ++ toString n ++ "`, expected usize")) left.1)
    | n =>
      .error (.before
        (.mismatch ("invalid type: " ++ describeNumber n ++ ", expected usize")) left.1)
  start cs fun c rest shorter =>
    if c = '-' then do
      let (n, left) ← numberBehind true rest
      accept n (left.within shorter)
    else if isDigit c then do
      let (n, left) ← numberBehind false (c :: rest)
      accept n (left.withinFrom shorter)
    else refuse "usize" c rest

def optional {α : Type} (form : Form α) : Form (Option α) := fun depth cs =>
  match next? cs with
  | some ('n', ⟨rest, shorter⟩) => do
    return (none, (← wordBehind ['u', 'l', 'l'] 'n' rest).withinFrom shorter)
  | _ => do
    let (a, left) ← form depth cs
    return (some a, left)

def itemsFrom {α : Type} (form : Form α) (depth : Nat) (cs : List Char) :
    Except Fault (List α × Behind cs) := do
  let (item, ⟨behind, shorter⟩) ← form depth cs
  match next? behind with
  | none => .error (.before .endInList [])
  | some (c, ⟨rest, shorter'⟩) =>
    if c = ']' then return ([item], Behind.within ⟨rest, shorter'⟩ shorter)
    else if c = ',' then
      match skipBlanks rest with
      | [] => .error (.before .endInValue [])
      | d :: behind =>
        if d = ']' then .error (.onto .trailingComma (d :: behind))
        else
          let (items, left) ← itemsFrom form depth rest
          return (item :: items, (left.within shorter').within shorter)
    else .error (.onto .listSeparatorExpected (c :: rest))
termination_by cs.length

def list {α : Type} (form : Form α) : Form (List α) := fun depth cs =>
  start cs fun c rest shorter =>
    if c = '[' then
      match depth with
      | 0 => .error (.onto .tooDeep (c :: rest))
      | depth + 1 =>
        match next? rest with
        | none => .error (.before .endInList [])
        | some (d, left) =>
          if d = ']' then .ok ([], left.within shorter)
          else do
            let (items, left) ← itemsFrom form depth rest
            return (items, left.within shorter)
    else refuse "a sequence" c rest

/-! ### Choices -/

def listed (names : List String) : String :=
  match names.map fun name => "`" ++ name ++ "`" with
  | [] => "there are no variants"
  | [a] => "expected " ++ a
  | [a, b] => "expected " ++ a ++ " or " ++ b
  | many => "expected one of " ++ ", ".intercalate many

def named {α : Type} (cases : List (String × α)) (cs : List Char) :
    Except Fault (α × Behind cs) := do
  let (name, left) ← stringBehind cs
  match cases.find? (·.1 = name) with
  | some (_, a) => return (a, left)
  | none =>
    .error (.before
      (.mismatch ("unknown variant `" ++ name ++ "`, " ++ listed (cases.map Prod.fst))) left.1)

/-- One of several names, written as a string or as the key of an object that holds null. -/
def choice {α : Type} (cases : List (String × α)) : Form α := fun depth cs =>
  start cs fun c rest shorter =>
    if c = '"' then do
      let (a, left) ← named cases rest
      return (a, left.within shorter)
    else if c = '\x7b' then
      match depth with
      | 0 => .error (.onto .tooDeep (c :: rest))
      | _ + 1 =>
        match next? rest with
        | none => .error (.before .endInObject [])
        | some ('"', ⟨behindQuote, quoted⟩) => do
          let (a, ⟨behindName, named⟩) ← named cases behindQuote
          match next? behindName with
          | none => .error (.before .endInObject [])
          | some (c, ⟨behindColon, divided⟩) =>
            if c = ':' then
              match next? behindColon with
              | none => .error (.before .endInValue [])
              | some ('n', ⟨word, started⟩) =>
                let ⟨behindNull, valued⟩ ← wordBehind ['u', 'l', 'l'] 'n' word
                match next? behindNull with
                | none => .error (.before .endInObject [])
                | some (d, behind) =>
                  let left := Behind.withinFrom (behind.within valued) started
                  if d = '\x7d' then
                    return (a, (((left.within divided).within named).within quoted).within shorter)
                  else .error (.before .valueExpected (d :: behind.1))
              | some (d, other) => refuse "unit" d other.1
            else .error (.onto .colonExpected (c :: behindColon))
        | some (d, other) =>
          if d = '\x7d' then .error (.onto .valueExpected (d :: other.1))
          else .error (.onto .keyNotString (d :: other.1))
    else .error (.onto .valueExpected (c :: rest))

/-! ### Records -/

structure Field (σ : Type) where
  name : String
  isRead : σ → Bool
  read : σ → Form σ

def field {σ β : Type} (name : String) (form : Form β) (get : σ → Option β)
    (set : σ → β → σ) : Field σ :=
  ⟨name, fun s => (get s).isSome, fun s depth cs => do
    let (b, left) ← form depth cs
    return (set s b, left)⟩

def require {β : Type} (name : String) : Option β → Except Problem β
  | some b => .ok b
  | none => .error (.mismatch ("missing field `" ++ name ++ "`"))

/-- The place at which a record is refused as a whole: behind its closing brace, if that is
what comes next. -/
def behindBrace (cs : List Char) : List Char :=
  match skipBlanks cs with
  | '\x7d' :: rest => rest
  | rest => rest

/-- Reads the entries of a record from behind the quote of a key on. Fields may come in any
order, but each only once; entries that are no fields are skipped. -/
def entriesFrom {σ : Type} (fields : List (Field σ)) (depth : Nat) (s : σ) (cs : List Char) :
    Except Fault (σ × Behind cs) := do
  let (name, ⟨behindKey, named⟩) ← stringBehind cs
  let field? := fields.find? (·.name = name)
  if field?.any (·.isRead s) then
    .error (.before (.mismatch ("duplicate field `" ++ name ++ "`")) (behindBrace behindKey))
  else
    match next? behindKey with
    | none => .error (.before .endInObject [])
    | some (c, ⟨behindColon, divided⟩) =>
      if c = ':' then do
        let (s, ⟨behindValue, valued⟩) ← (match field? with
          | some field => field.read s depth behindColon
          | none => do
            let left ← skipValue behindColon
            return (s, left) : Except Fault (σ × Behind behindColon))
        match next? behindValue with
        | none => .error (.before .endInObject [])
        | some (c, ⟨rest, shorter⟩) =>
          let left (left : Behind behindValue) : Behind cs :=
            ((left.within valued).within divided).within named
          if c = '\x7d' then return (s, left ⟨rest, shorter⟩)
          else if c = ',' then
            match next? rest with
            | none => .error (.before .endInValue [])
            | some (d, ⟨behind, shorter'⟩) =>
              if d = '"' then
                let (s, behindEntries) ← entriesFrom fields depth s behind
                return (s, left ((behindEntries.within shorter').within shorter))
              else if d = '\x7d' then .error (.onto .trailingComma (d :: behind))
              else .error (.onto .keyNotString (d :: behind))
          else .error (.onto .objectSeparatorExpected (c :: rest))
      else .error (.onto .colonExpected (c :: behindColon))
termination_by cs.length

/-- Reads the fields of a record that is written as a list, from the one with number
`index` on. `expected` describes the whole record. -/
def fieldsInOrder {σ : Type} (expected : String) (depth : Nat) (index : Nat) (s : σ)
    (cs : List Char) : List (Field σ) → Except Fault (σ × UpTo cs)
  | [] => .ok (s, .all cs)
  | field :: fields =>
    let tooShort (rest : List Char) : Fault :=
      .before (.mismatch ("invalid length " ++ toString index ++ ", expected " ++ expected)) rest
    match next? cs with
    | none => .error (.before .endInList [])
    | some (c, ⟨rest, separated⟩) =>
      if c = ']' then .error (tooShort rest)
      else if index = 0 then do
        let (s, ⟨behind, shorter⟩) ← field.read s depth cs
        let (s, left) ← fieldsInOrder expected depth (index + 1) s behind fields
        return (s, left.within shorter)
      else if c = ',' then
        match skipBlanks rest with
        | [] => .error (.before .endInValue [])
        | d :: behind =>
          if d = ']' then .error (.onto .trailingComma (d :: behind))
          else do
            let (s, ⟨behind, shorter⟩) ← field.read s depth rest
            let (s, left) ← fieldsInOrder expected depth (index + 1) s behind fields
            return (s, (left.within shorter).within separated)
      else .error (.onto .listSeparatorExpected (c :: rest))

def closeList (cs : List Char) : Except Fault (Behind cs) :=
  match next? cs with
  | none => .error (.before .endInList [])
  | some (c, left) =>
    if c = ']' then .ok left
    else if c = ',' then
      match skipBlanks left.1 with
      | ']' :: behind => .error (.onto .trailingComma (']' :: behind))
      | left => .error (.onto .trailingCharacters left)
    else .error (.onto .trailingCharacters (c :: left.1))

/-- A record: an object with the given fields, or a list of their values in order. `finish`
makes the value, or tells what is missing. -/
def record {σ α : Type} (name : String) (fields : List (Field σ)) (initial : σ)
    (finish : σ → Except Problem α) : Form α := fun depth cs =>
  let made (s : σ) (left : Behind cs) : Except Fault (α × Behind cs) :=
    match finish s with
    | .ok a => .ok (a, left)
    | .error problem => .error (.before problem left.1)
  start cs fun c rest shorter =>
    if c = '\x7b' then
      match depth with
      | 0 => .error (.onto .tooDeep (c :: rest))
      | depth + 1 =>
        match next? rest with
        | none => .error (.before .endInObject [])
        | some (d, ⟨behind, opened⟩) =>
          if d = '\x7d' then made initial (Behind.within ⟨behind, opened⟩ shorter)
          else if d = '"' then do
            let (s, left) ← entriesFrom fields depth initial behind
            made s ((left.within opened).within shorter)
          else .error (.onto .keyNotString (d :: behind))
    else if c = '[' then
      match depth with
      | 0 => .error (.onto .tooDeep (c :: rest))
      | depth + 1 => do
        let count := toString fields.length ++ (if fields.length = 1 then " element" else " elements")
        let expected := "struct " ++ name ++ " with " ++ count
        let (s, ⟨behindFields, upTo⟩) ← fieldsInOrder expected depth 0 initial rest fields
        let left ← closeList behindFields
        made s ((left.withinUpTo upTo).within shorter)
    else refuse ("struct " ++ name) c rest

end Form

def readForm {α : Type} (form : Form α) (text : String) : Except ReadError α :=
  (do
    let (a, rest) ← form maxNesting text.toList
    expectEnd rest.1
    return a).mapError (Fault.locate text.toList)

end ConfigLang.Json
