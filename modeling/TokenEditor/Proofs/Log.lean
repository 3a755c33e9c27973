import TokenEditor.Event

/-!
# The log

What is logged of events are records in words: one for each splice, and one for each two pieces that
were joined while a text was lexed. The numbers in the records of splices tell how long a sequence
is, if one knows how long it was before.
-/

namespace TokenEditor

/-- What the record of a splice says: where it was, how many entries it took away, how many tokens
it put there, and how long the sequence was then. -/
structure Splicing where
  index : Value
  removed : Int
  inserted : Nat
  length : Nat

namespace Splicing

def record (splicing : Splicing) : Record :=
  let place := splicing.index.shown View.empty
  ⟨.sequence, s!"Spliced at {place}: removed {splicing.removed}, inserted {splicing.inserted} " ++
    s!"(length now {splicing.length})"⟩

/-- A log leads from one length of a sequence to another if each record says the length that comes
of the one before by what was taken away and put there. -/
inductive Replays : Int → List Splicing → Int → Prop
  | nil {length : Int} : Replays length [] length
  | cons {before after : Int} {splicing : Splicing} {log : List Splicing} :
      (splicing.length : Int) = before - splicing.removed + splicing.inserted →
      Replays splicing.length log after → Replays before (splicing :: log) after

/-- The length that a log leads to, by what its records say was taken away and put there. -/
def replay (length : Int) (log : List Splicing) : Int :=
  log.foldl (fun length splicing => length - splicing.removed + splicing.inserted) length

theorem Replays.append {before middle after : Int} {log more : List Splicing}
    (first : Replays before log middle) (second : Replays middle more after) :
    Replays before (log ++ more) after := by
  induction first with
  | nil => exact second
  | cons balance _ ih => exact .cons balance (ih second)

theorem Replays.replay_eq {before after : Int} {log : List Splicing}
    (replays : Replays before log after) : replay before log = after := by
  induction replays with
  | nil => rfl
  | cons balance _ ih =>
    rw [replay, List.foldl_cons, ← balance]
    exact ih

end Splicing

namespace Event

def log (events : List Event) : List Record := events.flatMap records

def splicing? : Event → Option Splicing
  | spliced index removed inserted length => some ⟨index, removed, inserted, length⟩
  | _ => none

def splicings (events : List Event) : List Splicing := events.filterMap splicing?

/-- The meetings of pieces while a text was lexed. -/
def met : Event → List Operator.Meeting
  | lexed meetings => meetings
  | _ => []

def meetings (events : List Event) : List Operator.Meeting := events.flatMap met

theorem meetings_cons (event : Event) (events : List Event) :
    meetings (event :: events) = event.met ++ meetings events := rfl

theorem recorder_of_record? {meeting : Operator.Meeting} {record : Record}
    (recorded : meeting.record? = some record) : record.recorder = .lexer := by
  obtain ⟨joined, -, rfl⟩ := Option.map_eq_some_iff.mp recorded
  rfl

/-- The records of one recorder are those of the splices, one for each, and nothing else. -/
theorem log_of_sequence (events : List Event) :
    (log events).filter (·.recorder = .sequence) = (splicings events).map Splicing.record := by
  induction events with
  | nil => rfl
  | cons event events ih =>
    rw [log, List.flatMap_cons, List.filter_append, ← log, ih]
    cases event with
    | lexed meetings =>
      have none : (Event.lexed meetings).records.filter (·.recorder = .sequence) = [] := by
        apply List.filter_eq_nil_iff.mpr
        intro record member
        obtain ⟨meeting, -, recorded⟩ := List.mem_filterMap.mp member
        simp [recorder_of_record? recorded]
      rw [none]
      rfl
    | _ => rfl

/-- The records of the other one are those of pieces that were joined. -/
theorem log_of_lexer (events : List Event) :
    (log events).filter (·.recorder = .lexer) =
      (meetings events).filterMap Operator.Meeting.record? := by
  induction events with
  | nil => rfl
  | cons event events ih =>
    rw [log, List.flatMap_cons, List.filter_append, ← log, ih, meetings_cons,
      List.filterMap_append]
    cases event with
    | lexed met =>
      have all : (Event.lexed met).records.filter (·.recorder = .lexer) =
          met.filterMap Operator.Meeting.record? := by
        apply List.filter_eq_self.mpr
        intro record member
        obtain ⟨meeting, -, recorded⟩ := List.mem_filterMap.mp member
        simp [recorder_of_record? recorded]
      rw [all]
      rfl
    | _ => rfl

end Event

end TokenEditor
