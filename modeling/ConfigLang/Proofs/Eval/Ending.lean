import ConfigLang.Proofs.Eval.Machine
import ConfigLang.Proofs.Eval.Reach
/-! Evaluation ends, although templates may be made from themselves or from each other. The machine
answers every call, for what nests in a block or behind a `@from` is called with less room for
blocks and templates, and what follows in a block is less of the block. What it answers is what
evaluation gives, and it has closed by then all that it has opened for the call. -/
namespace ConfigLang.Eval

def Progress.finish (apply : TemplateEval) (progress : Progress) : Except Error (Option Value) :=
  match progress.parent with
  | none => .ok progress.accumulator.value
  | some parent => apply parent progress.accumulator.value

theorem addItem_of_value?_eq_none (nested other : NodeEval) (argument : Option Value)
    (progress : Progress) {item : Item} (own : item.value? = none) :
    addItem nested argument progress item = addItem other argument progress item := by
  cases item with
  | tagged key value template span =>
    cases template with
    | none => cases own
    | some mark => rfl
  | untagged value span => cases own
  | _ => rfl

namespace Machine

/-- Whatever waits for it, this comes to an answer, with as many blocks and templates open as
before. -/
def Answers (limit : Nat) (templates : Templates) (depth : Nat) (control : Control)
    (outcome : Except Error (Option Value)) : Prop :=
  ∀ frames, Runs limit ⟨templates, depth, frames, control⟩
    ⟨templates, depth, frames, .answer outcome⟩

section answers

variable {limit depth : Nat} {templates : Templates}

theorem addNext_of_value?_eq_none (argument : Option Value) (progress : Progress)
    (machine : Machine) {item : Item} (own : item.value? = none) (rest : List Item) :
    machine.addNext argument progress (item :: rest) =
      match addItem (fun _ _ => .ok none) argument progress item with
      | .error error => machine.answer (.error error)
      | .ok next => { machine with control := .add argument next rest } := by
  cases item with
  | tagged key value template span =>
    cases template with
    | none => cases own
    | some mark => rfl
  | untagged value span => cases own
  | _ => rfl

theorem runs_items {argument : Option Value} {items : List Item} {atTop : Bool}
    {known : Templates} (registered : register argument templates items atTop = .ok known)
    (frames : List Frame) :
    Runs limit ⟨templates, depth, frames, .call (.items items atTop) argument⟩
      ⟨known, depth, frames, .add argument .start items⟩ := by
  refine .single ?_
  simp only [Steps, step, start, registered]

theorem runs_items_of_error {argument : Option Value} {items : List Item} {atTop : Bool}
    {fault : Error} (refused : register argument templates items atTop = .error fault)
    (frames : List Frame) :
    Runs limit ⟨templates, depth, frames, .call (.items items atTop) argument⟩
      ⟨templates, depth, frames, .answer (.error fault)⟩ := by
  refine .single ?_
  simp only [Steps, step, start, refused, Machine.answer]

structure AnswersIn (limit : Nat) (templates : Templates) (depth room : Nat) : Prop where
  block (items : List Item) (span : Span) (argument : Option Value) :
    Answers limit templates depth (.call (.block items span) argument)
      (evalNode templates limit room (.block items span) argument)
  value (node : ValueNode) (argument : Option Value) :
    Answers limit templates depth (.call (.value node) argument)
      (evalNode templates limit room node argument)
  template (parent : Path × Span) (argument : Option Value) :
    Answers limit templates depth (.call (.template parent) argument)
      (applyTemplate templates limit room parent argument)

theorem AnswersIn.add {room : Nat} (inside : AnswersIn limit templates depth room)
    (argument : Option Value) (progress : Progress) (rest : List Item) :
    Answers limit templates depth (.add argument progress rest)
      (addItems (evalNode templates limit room) argument progress rest >>=
        Progress.finish (applyTemplate templates limit room)) := by
  induction rest generalizing progress with
  | nil =>
    intro frames
    refine .head rfl ?_
    cases parent : progress.parent with
    | none => simpa [addNext, addItems, Progress.finish, parent, bind, Except.bind] using .refl
    | some path =>
      simpa [addNext, addItems, Progress.finish, parent, bind, Except.bind] using
        inside.template path progress.accumulator.value frames
  | cons item rest ih =>
    intro frames
    refine .head rfl ?_
    cases own : item.value? with
    | none =>
      rw [addNext_of_value?_eq_none argument progress _ own, addItems,
        addItem_of_value?_eq_none (evalNode templates limit room) (fun _ _ => .ok none) argument
          progress own]
      cases addItem (fun _ _ => .ok none) argument progress item with
      | error fault => exact .refl
      | ok next => exact ih next frames
    | some node =>
      cases item with
      | tagged key value template span =>
        cases template with
        | some mark => cases own
        | none =>
          simp only [addNext, addItems, addItem]
          cases progress.accumulator.lock .map span with
          | error fault => exact .refl
          | ok locked =>
            cases keyText argument key with
            | error fault => exact .refl
            | ok name =>
              refine (inside.value value argument _).trans (.head rfl ?_)
              cases evalNode templates limit room value argument with
              | error fault => exact .refl
              | ok value => exact ih _ frames
      | untagged value span =>
        simp only [addNext, addItems, addItem]
        cases progress.accumulator.lock .list span with
        | error fault => exact .refl
        | ok locked =>
          refine (inside.value value argument _).trans (.head rfl ?_)
          cases evalNode templates limit room value argument with
          | error fault => exact .refl
          | ok value => exact ih _ frames
      | _ => cases own

theorem AnswersIn.items {room : Nat} (inside : AnswersIn limit templates depth room)
    (argument : Option Value) (items : List Item) :
    Answers limit templates depth (.call (.items items false) argument)
      (rejectTemplates argument items >>= fun _ =>
        evalItems (evalNode templates limit room) (applyTemplate templates limit room) argument
          items) := by
  intro frames
  cases passed : rejectTemplates argument items with
  | error fault =>
    exact runs_items_of_error (by simp only [register, passed]; rfl) frames
  | ok _ =>
    have registered : register argument templates items false = .ok templates := by
      simp only [register, passed]
      rfl
    exact (runs_items registered frames).trans (inside.add argument .start items frames)

theorem runs_enter_of_le (full : limit ≤ depth) (span : Span) (call : Call)
    (argument : Option Value) (frames : List Frame) (control : Control) :
    Runs limit ((⟨templates, depth, frames, control⟩ : Machine).enter limit span call argument)
      ⟨templates, depth, frames, .answer (.error (.nestingTooDeep limit span))⟩ := by
  rw [enter, if_pos full]
  exact .refl

theorem runs_enter {call : Call} {argument : Option Value}
    {outcome : Except Error (Option Value)} (room : depth < limit)
    (answers : Answers limit templates (depth + 1) (.call call argument) outcome)
    (span : Span) (frames : List Frame) (control : Control) :
    Runs limit ((⟨templates, depth, frames, control⟩ : Machine).enter limit span call argument)
      ⟨templates, depth, frames, .answer outcome⟩ := by
  rw [enter, if_neg (by exact Nat.not_le.2 room)]
  exact (answers (.leave :: frames)).tail rfl

theorem answers_value {room : Nat}
    (blocks : ∀ items span argument, Answers limit templates depth
      (.call (.block items span) argument)
      (evalNode templates limit room (.block items span) argument))
    (node : ValueNode) (argument : Option Value) :
    Answers limit templates depth (.call (.value node) argument)
      (evalNode templates limit room node argument) := by
  intro frames
  refine .head rfl ?_
  cases node with
  | text text span =>
    rw [evalNode]
    exact .refl
  | strings lines span =>
    rw [evalNode]
    exact .refl
  | block items span => exact blocks items span argument frames

theorem answersIn_of_room (limit : Nat) (templates : Templates) (room : Nat) :
    ∀ depth, limit - depth = room → AnswersIn limit templates depth room := by
  -- on the room, of which a block and a template take one each
  induction room with
  | zero =>
    intro depth left
    have full : limit ≤ depth := Nat.sub_eq_zero_iff_le.1 left
    have blocks (items : List Item) (span : Span) (argument : Option Value) :
        Answers limit templates depth (.call (.block items span) argument)
          (evalNode templates limit 0 (.block items span) argument) := by
      intro frames
      rw [evalNode]
      exact .head rfl (runs_enter_of_le full span _ argument frames _)
    refine ⟨blocks, answers_value blocks, ?_⟩
    rintro ⟨path, span⟩ argument frames
    refine .head rfl ?_
    simp only [start, applyTemplate]
    cases templates.lookup path span with
    | error fault => exact .refl
    | ok node => exact runs_enter_of_le full span _ argument frames _
  | succ room ih =>
    intro depth left
    have free : depth < limit := by omega
    have inside : AnswersIn limit templates (depth + 1) room := ih (depth + 1) (by omega)
    have blocks (items : List Item) (span : Span) (argument : Option Value) :
        Answers limit templates depth (.call (.block items span) argument)
          (evalNode templates limit (room + 1) (.block items span) argument) := by
      intro frames
      rw [evalNode]
      exact .head rfl (runs_enter free (inside.items argument items) span frames _)
    refine ⟨blocks, answers_value blocks, ?_⟩
    rintro ⟨path, span⟩ argument frames
    refine .head rfl ?_
    simp only [start, applyTemplate]
    cases templates.lookup path span with
    | error fault => exact .refl
    | ok node => exact runs_enter free (inside.value node argument) span frames _

theorem answersIn (limit : Nat) (templates : Templates) (depth : Nat) :
    AnswersIn limit templates depth (limit - depth) :=
  answersIn_of_room limit templates _ depth rfl

theorem runs_top (argument : Option Value) (items : List Item) (frames : List Frame) :
    ∃ declared, Runs limit ⟨[], 0, frames, .call (.items items true) argument⟩
      ⟨declared, 0, frames, .answer (evalDocument limit argument items)⟩ := by
  unfold evalDocument
  cases declared : declare argument [] items with
  | error fault =>
    have refused : register argument [] items true = .error fault := declared
    exact ⟨[], runs_items_of_error refused frames⟩
  | ok templates =>
    have registered : register argument [] items true = .ok templates := declared
    have added := (answersIn limit templates 0).add argument .start items frames
    exact ⟨templates, (runs_items registered frames).trans added⟩

theorem exists_answer (limit : Nat) (templates : Templates) (depth : Nat) (call : Call)
    (argument : Option Value) : ∃ known outcome, ∀ frames,
      Runs limit ⟨templates, depth, frames, .call call argument⟩
        ⟨known, depth, frames, .answer outcome⟩ := by
  have inside := answersIn limit templates depth
  cases call with
  | value node => exact ⟨templates, _, inside.value node argument⟩
  | block items span => exact ⟨templates, _, inside.block items span argument⟩
  | template parent => exact ⟨templates, _, inside.template parent argument⟩
  | items items atTop =>
    cases registered : register argument templates items atTop with
    | error fault => exact ⟨templates, .error fault, runs_items_of_error registered⟩
    | ok known =>
      have added := (answersIn limit known depth).add argument .start items
      exact ⟨known, _, fun frames => (runs_items registered frames).trans (added frames)⟩

end answers

section ending

variable {limit : Nat} {machine next last : Machine}

theorem exists_runs_step_eq_none (limit : Nat) (machine : Machine) :
    ∃ last, Runs limit machine last ∧ last.step limit = none := by
  -- The frames below an answer are given it one by one, and each comes to an answer in turn.
  have answered (frames : List Frame) : ∀ (templates : Templates) (depth : Nat)
      (outcome : Except Error (Option Value)), ∃ last,
        Runs limit ⟨templates, depth, frames, .answer outcome⟩ last ∧ last.step limit = none := by
    induction frames with
    | nil => exact fun templates depth outcome => ⟨_, .refl, rfl⟩
    | cons frame frames ih =>
      intro templates depth outcome
      have added (argument : Option Value) (progress : Progress) (rest : List Item) : ∃ last,
          Runs limit ⟨templates, depth, frames, .add argument progress rest⟩ last ∧
            last.step limit = none := by
        have here := (answersIn limit templates depth).add argument progress rest frames
        obtain ⟨last, runs, stopped⟩ := ih templates depth _
        exact ⟨last, here.trans runs, stopped⟩
      have resumed : ∃ last,
          Runs limit ((⟨templates, depth, frames, .answer outcome⟩ : Machine).resume frame outcome)
            last ∧ last.step limit = none := by
        cases frame with
        | leave => exact ih templates (depth - 1) outcome
        | entry argument progress key rest =>
          cases outcome with
          | error fault => exact ih templates depth (.error fault)
          | ok value => exact added argument _ rest
        | element argument progress rest =>
          cases outcome with
          | error fault => exact ih templates depth (.error fault)
          | ok value => exact added argument _ rest
      obtain ⟨last, runs, stopped⟩ := resumed
      exact ⟨last, .head rfl runs, stopped⟩
  obtain ⟨templates, depth, frames, control⟩ := machine
  cases control with
  | answer outcome => exact answered frames templates depth outcome
  | add argument progress rest =>
    have here := (answersIn limit templates depth).add argument progress rest frames
    obtain ⟨last, runs, stopped⟩ := answered frames templates depth _
    exact ⟨last, here.trans runs, stopped⟩
  | call call argument =>
    obtain ⟨known, outcome, here⟩ := exists_answer limit templates depth call argument
    obtain ⟨last, runs, stopped⟩ := answered frames known depth outcome
    exact ⟨last, (here frames).trans runs, stopped⟩

theorem acc_of_runs (runs : Runs limit machine last) (stopped : last.step limit = none) :
    Acc (fun next here => Steps limit here next) machine := by
  induction runs using Relation.ReflTransGen.head_induction_on with
  | refl =>
    refine .intro last fun next taken => ?_
    rw [Steps, stopped] at taken
    cases taken
  | head taken _ ih =>
    refine .intro _ fun next other => ?_
    have same := taken.symm.trans other
    cases same
    exact ih

theorem wellFounded_steps (limit : Nat) : WellFounded fun next here => Steps limit here next := by
  refine ⟨fun machine => ?_⟩
  obtain ⟨last, runs, stopped⟩ := exists_runs_step_eq_none limit machine
  exact acc_of_runs runs stopped

end ending

section balance

variable {limit : Nat} {machine next last : Machine}

/-- The count is of the blocks and templates that are still to be left, and is no more than may
be. -/
def Balanced (limit : Nat) (machine : Machine) : Prop :=
  machine.depth = machine.frames.countP Frame.isLeave ∧ machine.depth ≤ limit

theorem Balanced.enter (balanced : machine.Balanced limit) (span : Span) (call : Call)
    (argument : Option Value) : (machine.enter limit span call argument).Balanced limit := by
  obtain ⟨counted, bounded⟩ := balanced
  unfold Machine.enter
  split
  · exact ⟨counted, bounded⟩
  · next free =>
    constructor
    · exact counted ▸ (List.countP_cons_of_pos rfl).symm
    · exact Nat.lt_of_not_le free

theorem Balanced.start (balanced : machine.Balanced limit) (argument : Option Value)
    (call : Call) : (machine.start limit argument call).Balanced limit := by
  cases call with
  | value node => cases node <;> exact balanced
  | block items span => exact balanced.enter span _ argument
  | items items atTop =>
    simp only [Machine.start]
    split
    · exact balanced
    · exact balanced
  | template parent =>
    simp only [Machine.start]
    split
    · exact balanced
    · exact balanced.enter _ _ argument

theorem Balanced.addNext (balanced : machine.Balanced limit) (argument : Option Value)
    (progress : Progress) (rest : List Item) :
    (machine.addNext argument progress rest).Balanced limit := by
  obtain ⟨counted, bounded⟩ := balanced
  unfold Machine.addNext
  split
  -- Neither an entry nor an element that waits for its value is counted.
  all_goals split <;> exact ⟨counted, bounded⟩

theorem Balanced.resume {frame : Frame} {frames : List Frame}
    (balanced : machine.Balanced limit) (waits : machine.frames = frame :: frames)
    (outcome : Except Error (Option Value)) :
    (({ machine with frames } : Machine).resume frame outcome).Balanced limit := by
  obtain ⟨counted, bounded⟩ := balanced
  rw [waits] at counted
  cases frame with
  | leave =>
    have one : machine.depth = frames.countP Frame.isLeave + 1 :=
      counted.trans (List.countP_cons_of_pos rfl)
    constructor
    · simp [Machine.resume, one]
    · exact Nat.le_trans (Nat.sub_le _ 1) bounded
  | entry argument progress key rest =>
    have same : machine.depth = frames.countP Frame.isLeave :=
      counted.trans (List.countP_cons_of_neg nofun)
    cases outcome <;> exact ⟨same, bounded⟩
  | element argument progress rest =>
    have same : machine.depth = frames.countP Frame.isLeave :=
      counted.trans (List.countP_cons_of_neg nofun)
    cases outcome <;> exact ⟨same, bounded⟩

theorem Balanced.step (balanced : machine.Balanced limit) (taken : Steps limit machine next) :
    next.Balanced limit := by
  unfold Steps Machine.step at taken
  split at taken
  · cases taken
    exact balanced.start _ _
  · cases taken
    exact balanced.addNext _ _ _
  · split at taken
    · cases taken
    · next waits =>
      cases taken
      exact balanced.resume waits _

theorem Balanced.runs (balanced : machine.Balanced limit) (runs : Runs limit machine last) :
    last.Balanced limit := by
  induction runs with
  | refl => exact balanced
  | tail _ taken ih => exact ih.step taken

end balance

end Machine
end Eval

open Eval Machine

/-- Evaluation ends. No machine goes on for ever, and the one that starts on a document comes to
what the document evaluates to. On the way it counts the blocks and templates that are open, which
are never more than may be; and a call is answered, as a value or as an error, with as many open as
there were, whatever waits for it. -/
theorem Document.evaluation_ends (document : Document) (limit : Nat) (argument : Option Value) :
    let start : Machine := ⟨[], 0, [], .call (.items document.items true) argument⟩
    (WellFounded fun next here => Steps limit here next) ∧
    (∃ templates,
      Runs limit start ⟨templates, 0, [], .answer (document.evaluate limit argument)⟩) ∧
    ∀ machine, Runs limit start machine →
      (machine.depth = machine.frames.countP Frame.isLeave ∧ machine.depth ≤ limit) ∧
      ∀ call argument, machine.control = .call call argument → ∃ templates outcome, ∀ frames,
        Runs limit { machine with frames }
          ⟨templates, machine.depth, frames, .answer outcome⟩ := by
  intro start
  refine ⟨wellFounded_steps limit, runs_top argument document.items [], ?_⟩
  intro machine reached
  have balanced : start.Balanced limit := ⟨rfl, Nat.zero_le limit⟩
  refine ⟨balanced.runs reached, ?_⟩
  rintro call argument calls
  obtain ⟨templates, depth, frames, control⟩ := machine
  cases calls
  exact exists_answer limit templates depth call argument

/-- A template that is made from itself. The machine comes to its value with the one template open
that may be, and is answered that the nesting is too deep. -/
theorem Document.evaluation_ends_self_inheriting :
    let template : ValueNode := .block [.inherit ⟨["t"], default⟩ default] default
    let document : Document :=
      ⟨[.inherit ⟨["t"], default⟩ default,
        .tagged (.simple "t" default) template (some default) default], default, .empty⟩
    let start : Machine := ⟨[], 0, [], .call (.items document.items true) none⟩
    let inside : Machine := ⟨[("t", template)], 1, [.leave], .call (.value template) none⟩
    Runs 1 start inside ∧
      (∃ templates outcome, ∀ frames, Runs 1 { inside with frames }
        ⟨templates, inside.depth, frames, .answer outcome⟩) ∧
      ∃ templates,
        Runs 1 start ⟨templates, 0, [], .answer (.error (.nestingTooDeep 1 default))⟩ := by
  intro template document start inside
  obtain ⟨-, ends, calls⟩ := Document.evaluation_ends document 1 none
  have reached : Runs 1 start inside := by
    iterate 5 refine .head rfl ?_
    exact .refl
  have tooDeep : document.evaluate 1 none = .error (.nestingTooDeep 1 default) := by cbv
  exact ⟨reached, (calls inside reached).2 _ _ rfl, tooDeep ▸ ends⟩

end ConfigLang
