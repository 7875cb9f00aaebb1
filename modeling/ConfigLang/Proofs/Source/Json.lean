import ConfigLang.Source.Json
import ConfigLang.Proofs.Json.Form
/-! Positions, spans and files are read back from the records that they are written as. -/
namespace ConfigLang

open Json.Form (Reads Fills reads_field reads_natural reads_record reads_list reads_text reads_some)

variable {depth : Nat}

/-- All numbers of the position take at most 64 bits. -/
def Position.IsCounted (p : Position) : Prop :=
  p.offset < Nat.pow 2 64 ∧ p.row < Nat.pow 2 64 ∧ p.column < Nat.pow 2 64

def Range.IsCounted (r : Range) : Prop := r.start.IsCounted ∧ r.stop.IsCounted

def Span.IsCounted (s : Span) : Prop := s.file < Nat.pow 2 64 ∧ s.range.IsCounted

instance (p : Position) : Decidable p.IsCounted := inferInstanceAs (Decidable (_ ∧ _ ∧ _))

instance (r : Range) : Decidable r.IsCounted := inferInstanceAs (Decidable (_ ∧ _))

instance (s : Span) : Decidable s.IsCounted := inferInstanceAs (Decidable (_ ∧ _))

theorem Position.reads_toJson {p : Position} (counted : p.IsCounted) :
    Reads form (depth + 1) p.toJson p :=
  reads_record _
    (.next rfl rfl (reads_field (reads_natural counted.1))
      (.next rfl rfl (reads_field (reads_natural counted.2.1))
        (.next rfl rfl (reads_field (reads_natural counted.2.2)) (.done _))))
    rfl

theorem Range.reads_toJson {r : Range} (counted : r.IsCounted) :
    Reads form (depth + 2) r.toJson r :=
  reads_record _
    (.next rfl rfl (reads_field (Position.reads_toJson counted.1))
      (.next rfl rfl (reads_field (Position.reads_toJson counted.2)) (.done _)))
    rfl

theorem Span.reads_toJson {s : Span} (counted : s.IsCounted) :
    Reads form (depth + 3) s.toJson s :=
  reads_record _
    (.next rfl rfl (reads_field (reads_natural counted.1))
      (.next rfl rfl (reads_field (Range.reads_toJson counted.2)) (.done _)))
    rfl

theorem SourceFile.reads_toJson (file : SourceFile) : Reads form (depth + 1) file.toJson file := by
  obtain ⟨path, content⟩ := file
  refine reads_record ⟨some path, content.map some⟩
    (.next rfl rfl (reads_field (reads_text path))
      (.ofOption (Partial.mk (some path)) rfl rfl
        fun text _ => reads_field (reads_some rfl (reads_text text)))) ?_
  cases content <;> rfl

theorem Sources.reads_toJson (sources : Sources) :
    Reads form (depth + 3) sources.toJson sources :=
  reads_record _
    (.next rfl rfl
      (reads_field (reads_list (fun file _ => file.reads_toJson) fun _ _ => rfl)) (.done _))
    rfl

end ConfigLang
