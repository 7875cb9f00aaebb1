import Mathlib
import ConfigLang.Diagnostic.Json
import ConfigLang.Diagnostic.OfError
import ConfigLang.Proofs.Blame.Reading
import ConfigLang.Proofs.Diagnostic.Details
import ConfigLang.Proofs.Reading.Run
/-! The place that a diagnostic refers to is counted in two ways: token by token while the text is
read, and afresh from a byte offset in a listing of the file. The two agree where lines end in a
newline, with or without a carriage return, so all that is told of an error tells one place. -/
namespace ConfigLang

namespace Text

/-- Lines end in a newline, or in a carriage return and a newline, and in nothing else. -/
def EndsPlainly : List Char → Prop
  | [] => True
  | c :: rest =>
    (isLineTerminator c = true → c = '\n' ∨ c = '\r' ∧ rest.head? = some '\n') ∧ EndsPlainly rest

instance EndsPlainly.decidable : (text : List Char) → Decidable (EndsPlainly text)
  | [] => inferInstanceAs (Decidable True)
  | _ :: rest => @instDecidableAnd _ _ _ (EndsPlainly.decidable rest)

theorem charsBefore_append (front behind : List Char) :
    charsBefore (byteLength front) (front ++ behind) = front.length := by
  induction front with
  | nil => simp [charsBefore]
  | cons c front ih =>
    have positive := c.utf8Size_pos
    obtain ⟨n, same⟩ : ∃ n, byteLength (c :: front) = n + 1 :=
      ⟨byteLength (c :: front) - 1, by rw [byteLength_cons]; omega⟩
    have left : n + 1 - c.utf8Size = byteLength front := by
      rw [byteLength_cons] at same
      omega
    rw [same, List.cons_append, charsBefore, left, ih, List.length_cons, Nat.add_comm]

theorem listingPlace_go_append {front behind : List Char} (plain : EndsPlainly (front ++ behind))
    (inLine : behind = [] → front.getLast? ≠ some '\n') (p : Position) :
    listingPlace.go p.row p.column front.length (front ++ behind) =
      ⟨(p.advance front).row, (p.advance front).column⟩ := by
  -- a newline in front of the place starts a line in the listing, as something stands behind it
  induction front generalizing p with
  | nil => rfl
  | cons c front ih =>
    obtain ⟨terminates, plain⟩ := plain
    have others : behind = [] → front.getLast? ≠ some '\n' := by
      intro last
      have ends := inLine last
      cases front with
      | nil => simp
      | cons d front => simpa [List.getLast?_cons_cons] using ends
    have later := ih plain others
    rw [List.cons_append, List.length_cons, Position.advance_cons]
    rw [List.append_eq] at terminates plain
    cases whole : front ++ behind with
    | nil =>
      obtain ⟨rfl, rfl⟩ := List.append_eq_nil_iff.1 whole
      have visible : c ≠ '\n' := by simpa using inLine rfl
      simp [listingPlace.go, Position.step, visible]
    | cons d rest =>
      rw [whole] at later terminates
      by_cases newline : c = '\n'
      · subst newline
        simpa [listingPlace.go, isLineTerminator, Position.step] using
          later (p.step '\n')
      · have goes : (isLineTerminator c && !(c == '\r' && d == '\n')) = false := by
          cases ends : isLineTerminator c with
          | false => rfl
          | true =>
            obtain ⟨rfl, next⟩ := (terminates ends).resolve_left newline
            cases next
            rfl
        rw [listingPlace.go, goes]
        simpa [Position.step, newline] using later (p.step c)

/-- The place in a listing of a position in the text, if it stands in front of the end or the last
line has no newline. -/
theorem listingPlace_of_position {front behind : List Char} (plain : EndsPlainly (front ++ behind))
    (inLine : behind = [] → front.getLast? ≠ some '\n') :
    listingPlace (front ++ behind) front.length =
      ⟨(Position.start.advance front).row, (Position.start.advance front).column⟩ :=
  listingPlace_go_append plain inLine .start

theorem exists_intercalate_newline (line : String) (others : List String) :
    ∃ rest, "\n".intercalate (line :: others) ++ "\n" = line ++ "\n" ++ rest := by
  cases others with
  | nil => exact ⟨"", by simp⟩
  | cons next others =>
    refine ⟨"\n".intercalate (next :: others) ++ "\n", ?_⟩
    rw [String.intercalate_cons_cons]
    simp only [String.append_assoc]

end Text

theorem Diagnostic.placeOfOffset_eq {text : String} {p : Position} (here : p.Within text.toList)
    (plain : Text.EndsPlainly text.toList)
    (inLine : text.toList.getLast? = some '\n' → p.offset < Text.byteLength text.toList) :
    placeOfOffset text p.offset = ⟨p.row, p.column⟩ := by
  obtain ⟨front, behind, split, offset⟩ := here.split
  have same : p = Position.start.advance front :=
    here.eq_of_offset (split ▸ Position.within_advance front behind)
      (by rw [offset, Position.offset_advance_start])
  have ends : behind = [] → front.getLast? ≠ some '\n' := by
    rintro rfl newline
    rw [List.append_nil] at split
    have before := inLine (split ▸ newline)
    rw [offset, split] at before
    exact Nat.lt_irrefl _ before
  have within : min (Text.byteLength front) (Text.byteLength (front ++ behind)) =
      Text.byteLength front := by
    rw [Text.byteLength_append]
    omega
  rw [split] at plain
  rw [placeOfOffset, offset, split, within, Text.charsBefore_append,
    Text.listingPlace_of_position plain ends, same]

namespace Document

/-- What goes wrong with a text: the reading of it, or an evaluation of what was read. -/
inductive Raises (filename : String) (limit : Nat) (text : String) (error : Error) : Prop
  | reading (failed : parse filename limit text = .error error) :
      Raises filename limit text error
  | evaluation {document : Document} {depth : Nat} {argument : Option Value}
      (parsed : parse filename limit text = .ok document)
      (failed : document.evaluate depth argument = .error error) :
      Raises filename limit text error

section raises

variable {filename text : String} {limit : Nat} {error : Error}

theorem Raises.lies (raises : Raises filename limit text error) :
    ∃ span, error.span? = some span ∧ span.Lies text.toList := by
  cases raises with
  | reading failed =>
    have points : error.PointsInto (.single filename text) text :=
      pointsInto_of_parseItems (parse_eq_error_iff.1 failed)
    obtain ⟨span, known, lies, _⟩ := points.span
    exact ⟨span, known, lies⟩
  | @evaluation document depth argument parsed failed =>
    have inside := outline_lies (sound_layout parsed)
    exact (blames_evaluate inside depth argument error failed).1

theorem Raises.ne_empty (raises : Raises filename limit text error) : text ≠ "" := by
  rintro rfl
  have nothing : parseItems limit "" = .ok [] := Reading.parseItems_of_run .refl rfl
  cases raises with
  | reading failed =>
    cases nothing.symm.trans (parse_eq_error_iff.1 failed)
  | evaluation parsed failed =>
    obtain ⟨items, read, rfl⟩ := parse_eq_ok_iff.1 parsed
    cases nothing.symm.trans read
    cases failed

end raises

end Document

/-- What is told of the error refers to the one place, line and column: the reference in its text
beside the source, the heading of its text without one, and the location in its report. -/
structure Error.RefersTo (disk : FileTree) (filename content : String) (error : Error)
    (line column : Nat) : Prop where
  cited : ∃ rest, error.toDiagnostic.toText disk (some (.single filename content)) =
    "Error: [" ++ error.code ++ "] " ++ error.toDiagnostic.title ++ "\n" ++
      ("[" ++ filename ++ ":" ++ toString line ++ ":" ++ toString column ++ "]") ++ "\n" ++ rest
  plain : ∃ rest, error.toDiagnostic.toText disk none =
    "Error [" ++ error.code ++ "]: " ++ error.toDiagnostic.title ++
      (" (at " ++ toString line ++ ":" ++ toString column ++ ")") ++ "\n" ++ rest
  reported : ∃ report place, error.toDiagnostic.toReport = .object report ∧
    Entries.get? "location" report = some (.object place) ∧
    Entries.get? "line" place = some (.ofNat line) ∧
    Entries.get? "column" place = some (.ofNat column)

section refers

variable {disk : FileTree} {filename content : String} {error : Error} {span : Span}

theorem Error.code_toDiagnostic (error : Error) : error.toDiagnostic.code = some error.code := by
  unfold toDiagnostic Diagnostic.explained
  split <;> rfl

theorem Error.span_toDiagnostic (error : Error) : error.toDiagnostic.span = error.span? := rfl

theorem Error.get?_location_toReport (known : error.span? = some span) :
    ∃ report, error.toDiagnostic.toReport = .object report ∧
      Entries.get? "location" report = some span.toReport := by
  refine ⟨_, rfl, ?_⟩
  generalize error.toDiagnostic.details.map Detail.toReport = details
  generalize error.toDiagnostic.hints.map Json.string = hints
  rw [error.code_toDiagnostic, error.span_toDiagnostic, known]
  cases error.toDiagnostic.problem <;> cases details <;> cases hints <;> rfl

theorem Error.refersTo_of_place (known : error.span? = some span) (file : span.file = 0)
    (nonempty : content ≠ "")
    (place : Diagnostic.placeOfOffset content span.range.start.offset =
      ⟨span.range.start.row, span.range.start.column⟩) :
    error.RefersTo disk filename content span.line span.column := by
  have code := error.code_toDiagnostic
  have here : error.toDiagnostic.span = some span := known
  constructor
  · have source : Diagnostic.source? disk (.single filename content) error.toDiagnostic =
        some (span, ⟨filename, some content⟩, content) := by
      refine Diagnostic.source?_eq_some_iff.2 ⟨here, ?_, rfl⟩
      rw [file]
      rfl
    simp only [Diagnostic.toText, Diagnostic.lines, Option.bind_some, source,
      Diagnostic.sourceLines, if_neg nonempty, List.cons_append, Diagnostic.heading, code]
    obtain ⟨rest, same⟩ := Text.exists_intercalate_newline _ _
    refine ⟨rest, ?_⟩
    rw [String.intercalate_cons_cons, String.append_assoc, same, place]
    simp only [Diagnostic.reference, Span.line, Span.column, String.append_assoc]
    rfl
  · simp only [Diagnostic.toText, Diagnostic.lines, Option.bind_none, Diagnostic.plainLines, code,
      here, List.cons_append]
    obtain ⟨rest, same⟩ := Text.exists_intercalate_newline _ _
    refine ⟨rest, same.trans ?_⟩
    simp only [Span.display, String.append_assoc]
  · obtain ⟨report, same, location⟩ := Error.get?_location_toReport known
    exact ⟨report, _, same, location, rfl, rfl⟩

end refers

/-- Where lines end plainly, all that is told of an error tells the place where its span starts,
unless that is behind the newline that ends the text. -/
theorem Document.raises_refersTo (disk : FileTree) {filename text : String} {limit : Nat}
    {error : Error} (raises : Raises filename limit text error) (plain : Text.EndsPlainly text.toList)
    {span : Span} (known : error.span? = some span)
    (inLine : text.toList.getLast? = some '\n' →
      span.range.start.offset < Text.byteLength text.toList) :
    error.RefersTo disk filename text span.line span.column := by
  obtain ⟨span', known', lies⟩ := raises.lies
  rw [known] at known'
  cases known'
  exact Error.refersTo_of_place known lies.file raises.ne_empty
    (Diagnostic.placeOfOffset_eq lies.start plain inLine)

/-- A key that the text breaks off behind letters of more than one byte, and a placeholder behind
such letters on the fourth of lines that end in both ways. -/
theorem Document.raises_refersTo_behind_letters :
    let broken := "- é\r\n[ß"
    let asking := "[é] \"a\"\r\n\n[ß] \x7b\r\n\t\"ü😀\" <<x>>\r\n\x7d\n"
    Text.EndsPlainly broken.toList ∧ Text.EndsPlainly asking.toList ∧
    (∃ error, Raises "key" 1 broken error ∧ error.RefersTo .empty "key" broken 2 3) ∧
    ∃ error, Raises "line" 1 asking error ∧ error.RefersTo .empty "line" asking 4 7 := by
  intro broken asking
  have plain : Text.EndsPlainly broken.toList := by decide
  have plain' : Text.EndsPlainly asking.toList := by decide
  have failed : ∃ error span, parse "key" 1 broken = .error error ∧ error.span? = some span ∧
      span.line = 2 ∧ span.column = 3 := ⟨_, _, by cbv, rfl, rfl, rfl⟩
  have missing : ∃ document error span, parse "line" 1 asking = .ok document ∧
      document.evaluate 1 none = .error error ∧ error.span? = some span ∧
      span.line = 4 ∧ span.column = 7 ∧ span.range.start.offset < Text.byteLength asking.toList :=
    ⟨_, _, _, by cbv, by cbv, rfl, rfl, rfl, by decide⟩
  obtain ⟨error, span, failed, known, line, column⟩ := failed
  obtain ⟨document, fault, span', parsed, missing, known', line', column', before⟩ := missing
  have raises : Raises "key" 1 broken error := .reading failed
  have raises' : Raises "line" 1 asking fault := .evaluation parsed missing
  have refers := raises_refersTo .empty raises plain known fun newline => absurd newline (by decide)
  have refers' := raises_refersTo .empty raises' plain' known' fun _ => before
  rw [line, column] at refers
  rw [line', column'] at refers'
  exact ⟨plain, plain', ⟨error, raises, refers⟩, fault, raises', refers'⟩

end ConfigLang
