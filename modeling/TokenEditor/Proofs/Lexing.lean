import TokenEditor.Lexer.Basic
import TokenEditor.Proofs.Attempt
import TokenEditor.Proofs.Log
import TokenEditor.Proofs.Operator.Grouping

/-!
# What is noted of lexing

A lexer first cuts its text, for which the host may be called, and then notes how the pieces met.
Each piece that was joined is one token less, so that the records of joined pieces make up for the
difference between pieces and tokens.
-/

namespace TokenEditor

namespace Operator

variable {isOperator : String → Bool}

theorem joined_of_mem_meetingsFrom {value : String} {pieces : List String} {meeting : Meeting}
    (member : meeting ∈ meetingsFrom isOperator value pieces) :
    meeting.joined = join? isOperator meeting.previous meeting.piece := by
  induction pieces generalizing value with
  | nil => cases member
  | cons piece pieces ih =>
    rcases List.mem_cons.mp member with rfl | later
    · rfl
    · exact ih later

theorem known_of_mem_meetings {pieces : List String} {meeting : Meeting} {joined : String}
    (member : meeting ∈ meetings isOperator pieces) (joins : meeting.joined = some joined) :
    joined ∈ spellings meeting.previous meeting.piece ∧ isOperator joined = true := by
  cases pieces with
  | nil => cases member
  | cons piece pieces =>
    rw [joined_of_mem_meetingsFrom member] at joins
    exact ⟨List.mem_of_find?_eq_some joins, List.find?_some joins⟩

theorem countP_meetingsFrom (isOperator : String → Bool) (value : String) (pieces : List String) :
    (meetingsFrom isOperator value pieces).countP (·.joined.isSome) +
      (fuseFrom isOperator value pieces).length = pieces.length + 1 := by
  induction pieces generalizing value with
  | nil => rfl
  | cons piece pieces ih =>
    rw [meetingsFrom, fuseFrom, List.countP_cons]
    cases joins : join? isOperator value piece with
    | some joined =>
      have later := ih joined
      simp only [Option.getD_some, Option.isSome_some, if_true, List.length_cons]
      omega
    | none =>
      have later := ih piece
      simp only [Option.getD_none, Option.isSome_none, Bool.false_eq_true, if_false,
        List.length_cons]
      omega

theorem countP_meetings (isOperator : String → Bool) (pieces : List String) :
    (meetings isOperator pieces).countP (·.joined.isSome) + (fuse isOperator pieces).length =
      pieces.length := by
  cases pieces with
  | nil => rfl
  | cons piece pieces => exact countP_meetingsFrom isOperator piece pieces

theorem length_records (met : List Meeting) :
    (met.filterMap Meeting.record?).length = met.countP (·.joined.isSome) := by
  rw [List.length_filterMap_eq_countP]
  apply List.countP_congr
  intro meeting _
  simp [Meeting.record?]

end Operator

section Computing

variable {allowed : Event → Prop} (transformed : ∀ argument, allowed (.transformed argument))

include transformed

theorem Host.only_call (host : Host) (callable argument : Value) :
    (host.call callable argument).Only allowed := by
  unfold call
  split
  case h_1 => exact List.forall_mem_singleton.mpr (transformed argument)
  case h_2 => exact Attempt.only_fail _

theorem Cutter.only_cut (cutter : Cutter) (host : Host) (view : View) (value : Value) :
    (cutter.cut host view value).Only allowed := by
  cases cutter with
  | calling callable =>
    exact (host.only_call transformed callable value).bind fun answer => Attempt.only_liftM _
  | perCharacter => exact Attempt.only_liftM _
  | fixed answer => exact Attempt.only_liftM _
  | _ => cases value <;> exact Attempt.only_of_events_eq_nil rfl

theorem Lexer.only_pieces (lexer : Lexer) (host : Host) (view : View) (value : Value) :
    (lexer.pieces host view value).Only allowed :=
  (lexer.cutter.only_cut transformed host view value).bind fun _ => Attempt.only_pure _

end Computing

namespace Lexer

variable {lexer : Lexer} {host : Host} {view : View} {value : Value}

/-- A value was lexed: it was cut into pieces, from which the tokens came, and these are the
meetings that were noted. -/
structure Reads (lexer : Lexer) (host : Host) (view : View) (value : Value)
    (pieces tokens : List String) (met : List Operator.Meeting) : Prop where
  cut : (lexer.pieces host view value).answer = .ok pieces
  answer : (lexer.tokens host view value).answer = .ok tokens
  log : Event.log (lexer.tokens host view value).events = met.filterMap Operator.Meeting.record?
  fused : lexer.fuses.isTrue view = true →
    (met.filterMap Operator.Meeting.record?).length + tokens.length = pieces.length
  apart : lexer.fuses.isTrue view = false → met = [] ∧ tokens = pieces
  known : ∀ meeting ∈ met, ∀ joined, meeting.joined = some joined →
    joined ∈ Operator.spellings meeting.previous meeting.piece ∧ lexer.isOperator joined = true

theorem log_pieces (lexer : Lexer) (host : Host) (view : View) (value : Value) :
    Event.log (lexer.pieces host view value).events = [] :=
  List.flatMap_eq_nil_iff.mpr (lexer.only_pieces (fun _ => rfl) host view value)

theorem tokens_of_error {fault : Fault}
    (fails : (lexer.pieces host view value).answer = .error fault) :
    lexer.tokens host view value = ⟨.error fault, (lexer.pieces host view value).events⟩ := by
  rw [tokens]
  generalize lexer.pieces host view value = found at fails
  obtain ⟨answer, events⟩ := found
  cases fails
  rfl

theorem tokens_of_ok {pieces : List String}
    (found : (lexer.pieces host view value).answer = .ok pieces) :
    lexer.tokens host view value =
      if lexer.fuses.isTrue view then
        ⟨.ok (Operator.fuse lexer.isOperator pieces), (lexer.pieces host view value).events ++
          [.lexed (Operator.meetings lexer.isOperator pieces)]⟩
      else ⟨.ok pieces, (lexer.pieces host view value).events ++ [.lexed []]⟩ := by
  rw [tokens]
  generalize lexer.pieces host view value = cut at found
  obtain ⟨answer, events⟩ := cut
  cases found
  rw [Attempt.ok_bind]
  split <;> rfl

theorem log_lexed (lexer : Lexer) (host : Host) (view : View) (value : Value)
    (met : List Operator.Meeting) :
    Event.log ((lexer.pieces host view value).events ++ [.lexed met]) =
      met.filterMap Operator.Meeting.record? := by
  rw [Event.log, List.flatMap_append, ← Event.log, log_pieces]
  exact List.append_nil _

/-- A value that has been cut is read, and just the meetings of its pieces are noted then. -/
theorem reads_of_pieces {pieces : List String}
    (found : (lexer.pieces host view value).answer = .ok pieces) :
    ∃ tokens met, lexer.Reads host view value pieces tokens met ∧
      (lexer.tokens host view value).events =
        (lexer.pieces host view value).events ++ [.lexed met] := by
  have lexes := tokens_of_ok found
  cases fuses : lexer.fuses.isTrue view with
  | true =>
    rw [fuses, if_pos rfl] at lexes
    refine ⟨_, _, ⟨found, congrArg Attempt.answer lexes, ?_, fun _ => ?_,
      fun apart => absurd (apart.symm.trans fuses) Bool.false_ne_true,
      fun meeting member joined => Operator.known_of_mem_meetings member⟩,
      congrArg Attempt.events lexes⟩
    · rw [lexes, log_lexed]
    · rw [Operator.length_records, Operator.countP_meetings]
  | false =>
    rw [fuses, if_neg Bool.false_ne_true] at lexes
    refine ⟨_, [], ⟨found, congrArg Attempt.answer lexes, ?_,
      fun fused => absurd (fuses.symm.trans fused) Bool.false_ne_true, fun _ => ⟨rfl, rfl⟩,
      fun meeting member => absurd member List.not_mem_nil⟩, congrArg Attempt.events lexes⟩
    rw [lexes, log_lexed]

/-- A lexer notes something only once it has the pieces. -/
theorem exists_reads {tokens : List String}
    (answers : (lexer.tokens host view value).answer = .ok tokens) :
    ∃ pieces met, lexer.Reads host view value pieces tokens met := by
  cases found : (lexer.pieces host view value).answer with
  | error fault =>
    rw [tokens_of_error found] at answers
    cases answers
  | ok pieces =>
    obtain ⟨others, met, reads, -⟩ := reads_of_pieces found
    obtain rfl := Except.ok.inj (answers.symm.trans reads.answer)
    exact ⟨pieces, met, reads⟩

theorem only_tokens {allowed : Event → Prop}
    (transformed : ∀ argument, allowed (.transformed argument))
    (lexed : ∀ pieces tokens met, lexer.Reads host view value pieces tokens met →
      allowed (.lexed met)) :
    (lexer.tokens host view value).Only allowed := by
  have cut := lexer.only_pieces transformed host view value
  cases found : (lexer.pieces host view value).answer with
  | error fault =>
    rw [tokens_of_error found]
    exact cut
  | ok pieces =>
    obtain ⟨tokens, met, reads, noted⟩ := reads_of_pieces found
    rw [Attempt.Only, noted]
    exact List.forall_mem_append.mpr
      ⟨cut, List.forall_mem_singleton.mpr (lexed pieces tokens met reads)⟩

end Lexer

end TokenEditor
