import TokenEditor.Proofs.Workspace.Effects
import TokenEditor.Proofs.Workspace.Emitting
import TokenEditor.Proofs.Workspace.Frame

/-!
# What the log tells of requests

Each edit that comes to a splice leaves one record of it, and nothing else does. The record says
what was asked for and how long the sequence is then, so that over any run the records of a sequence
lead from its length at first to its length in the end.
-/

namespace TokenEditor

def Request.inserts : Request → Bool
  | .ofSequence _ (.insertAt ..) => true
  | .ofItem _ (.insertBefore _) | .ofItem _ (.insertAfter _) => true
  | _ => false

def Edit.splicing (edit : Edit) (entries : List Entry) : Splicing :=
  ⟨edit.index, edit.stop - edit.start, edit.run.length, (edit.result entries).length⟩

theorem Edit.balance {edit : Edit} {entries : List Entry} (ordered : edit.start ≤ edit.stop)
    (within : edit.stop ≤ entries.length) :
    let splicing := edit.splicing entries
    (splicing.length : Int) = entries.length - splicing.removed + splicing.inserted := by
  have grown := Entries.length_splice edit.run ordered within
  simp only [splicing, result]
  omega

namespace Workspace

variable {w : Workspace} {host : Host} {request : Request}

section Offers

variable {offer : Offer} {events : List Event}

theorem inserts_of_point {index : Value}
    (offers : w.offer? host request = some ⟨.ok offer, events⟩)
    (point : offer.opening = .point index) : request.inserts = true := by
  unfold offer? at offers
  split at offers
  case h_1 =>
    cases offers
    cases point
  case h_2 =>
    cases offers
    cases point
  case h_3 => rfl
  case h_4 id payload =>
    obtain ⟨cursor, -, made⟩ := Option.map_eq_some_iff.mp offers
    obtain ⟨tokens, -, done⟩ := Attempt.answer_bind_eq_ok.mp (congrArg Attempt.answer made)
    cases done
    cases point
  case h_5 => rfl
  case h_6 => rfl
  case h_7 id payload =>
    obtain ⟨cursor, -, made⟩ := Option.map_eq_some_iff.mp offers
    obtain ⟨tokens, -, done⟩ := Attempt.answer_bind_eq_ok.mp (congrArg Attempt.answer made)
    cases done
    cases point
  case h_8 => cases offers

theorem exists_offering_of_edits (edits : request.edits = true) {change : Change}
    (plans : (w.plan host request).answer = .ok change) :
    ∃ offering, w.offer? host request = some offering := by
  have ofItem (id : ItemId) (offering : ItemCursor → Attempt Offer)
      (planned : ItemRequest) (plans : (w.plan host (.ofItem id planned)).answer = .ok change) :
      ∃ made, w.items[id]?.map offering = some made := by
    rw [plan] at plans
    cases found : w.items[id]? with
    | none =>
      rw [found] at plans
      cases plans
    | some cursor => exact ⟨offering cursor, rfl⟩
  unfold Request.edits at edits
  split at edits
  case h_1 => exact ⟨_, rfl⟩
  case h_2 => exact ⟨_, rfl⟩
  case h_3 => exact ⟨_, rfl⟩
  case h_4 id payload => exact ofItem id _ _ plans
  case h_5 id run => exact ofItem id _ _ plans
  case h_6 id run => exact ofItem id _ _ plans
  case h_7 id payload =>
    rw [plan] at plans
    cases found : w.ranges[id]? with
    | none =>
      rw [found] at plans
      cases plans
    | some cursor => exact ⟨w.offerRun host cursor payload, by rw [offer?, found, Option.map_some]⟩
  case h_8 => cases edits

theorem exists_offer_of_edits (edits : request.edits = true) {change : Change}
    (plans : (w.plan host request).answer = .ok change) :
    ∃ offer events, w.offer? host request = some ⟨.ok offer, events⟩ ∧
      w.accept offer = .ok change := by
  obtain ⟨offering, offers⟩ := exists_offering_of_edits edits plans
  obtain ⟨offer, events, rfl, accepts⟩ := exists_accepted_of_plan offers plans
  exact ⟨offer, events, offers, accepts⟩

end Offers

/-- While a request is planned nothing is spliced, and what is lexed is read by a lexer that the
request may use. -/
theorem only_plan_reads (w : Workspace) (host : Host) (request : Request) :
    (w.plan host request).Only fun event => event.splicing? = none ∧
      ∀ met, event = .lexed met → ∃ lexer value pieces tokens,
        w.Employs request lexer ∧ lexer.Reads host w.view value pieces tokens met := by
  refine only_plan (fun _ _ => ⟨rfl, nofun⟩) (fun _ => ⟨rfl, nofun⟩) fun lexer employs value =>
    Lexer.only_tokens (fun _ => ⟨rfl, nofun⟩) fun pieces tokens met reads => ⟨rfl, ?_⟩
  rintro _ ⟨⟩
  exact ⟨lexer, value, pieces, tokens, employs, reads⟩

theorem splicings_plan (w : Workspace) (host : Host) (request : Request) :
    Event.splicings (w.plan host request).events = [] :=
  List.filterMap_eq_nil_iff.mpr fun event member => (w.only_plan_reads host request event member).1

theorem events_perform_of_splice {edit : Edit}
    (plans : (w.plan host request).answer = .ok (.splice edit)) :
    (w.perform host request).2.events =
      (w.plan host request).events ++ [edit.event (w.entries edit.owner)] := by
  have same := sameContent_afterEvents w (w.subject? request) (w.plan host request).events
  rw [perform_eq_finish, finish, plans, ← same.entries]
  rfl

theorem events_perform_of_spares (spares : Spares (w.plan host request)) :
    (w.perform host request).2.events = (w.plan host request).events := by
  rw [perform_eq_finish, finish]
  cases plans : (w.plan host request).answer with
  | error fault => exact List.append_nil _
  | ok change =>
    cases change with
    | splice edit => exact absurd plans (spares edit)
    | _ => exact List.append_nil _

theorem splicings_perform_of_splice {edit : Edit}
    (plans : (w.plan host request).answer = .ok (.splice edit)) :
    Event.splicings (w.perform host request).2.events =
      [edit.splicing (w.entries edit.owner)] := by
  rw [events_perform_of_splice plans, Event.splicings, List.filterMap_append, ← Event.splicings,
    splicings_plan]
  rfl

theorem splicings_perform_of_spares (spares : Spares (w.plan host request)) :
    Event.splicings (w.perform host request).2.events = [] := by
  rw [events_perform_of_spares spares, splicings_plan]

theorem reads_of_lexed {met : List Operator.Meeting}
    (lexed : .lexed met ∈ (w.perform host request).2.events) :
    ∃ lexer value pieces tokens,
      w.Employs request lexer ∧ lexer.Reads host w.view value pieces tokens met := by
  have planned : .lexed met ∈ (w.plan host request).events := by
    by_cases spares : Spares (w.plan host request)
    · rwa [events_perform_of_spares spares] at lexed
    · obtain ⟨edit, plans⟩ := not_forall_not.mp spares
      rw [events_perform_of_splice plans] at lexed
      rcases List.mem_append.mp lexed with planned | spliced
      · exact planned
      · cases List.mem_singleton.mp spliced
  exact (w.only_plan_reads host request _ planned).2 met rfl

/-- An offer has been accepted as an edit and recorded once: the record has the coordinate that was
given, the numbers of entries and tokens that gave way to each other, and the length of the sequence
after it. -/
structure Recorded (w : Workspace) (offer : Offer) (edit : Edit)
    (done : Workspace × Attempt Value) : Prop where
  fits : w.Fits offer.owner offer.run edit
  bounds : offer.opening.bounds? = some ((edit.start : Int), (edit.stop : Int))
  splicings : Event.splicings done.2.events =
    [⟨offer.opening.index, edit.stop - edit.start, edit.run.length,
      (edit.result (w.entries offer.owner)).length⟩]
  balance : ((edit.result (w.entries offer.owner)).length : Int) =
    (w.entries offer.owner).length - (edit.stop - edit.start) + edit.run.length
  answer : done.2.answer = .ok (.range w.ranges.length)
  cursor : done.1.ranges = w.ranges ++
    [⟨offer.opening.index, .int (edit.start + edit.run.length), offer.owner⟩]
  entries : offer.owner < w.sequences.length →
    done.1.entries offer.owner = edit.result (w.entries offer.owner)

theorem recorded_perform {offer : Offer} {edit : Edit}
    (plans : (w.plan host request).answer = .ok (.splice edit))
    (accepts : w.accept offer = .ok (.splice edit)) :
    w.Recorded offer edit (w.perform host request) := by
  rcases opened_of_accept accepts with ⟨none, -⟩ | ⟨same, splices, fits, bounds, -, index⟩
  case inl => cases none
  cases splices
  constructor
  case fits => exact fits
  case bounds => exact bounds
  case splicings =>
    rw [splicings_perform_of_splice plans, Edit.splicing, index, fits.target]
  case balance => exact Edit.balance fits.ordered fits.within
  case answer => exact answer_perform_of_splice plans
  case cursor => rw [ranges_perform_of_splice plans, Edit.cursor, index, fits.target]
  case entries =>
    intro held
    rw [entries_perform_of_splice plans held, if_pos fits.target, fits.target]

/-- What a request leaves in the log. An edit that is answered leaves the record of what it offered
to do, unless it was to insert and there was nothing to insert; whatever fails, and whatever is no
edit, leaves no record of a splice. What was lexed on the way is noted as it was read. -/
structure Audited (w : Workspace) (host : Host) (request : Request)
    (done : Workspace × Attempt Value) : Prop where
  edited : request.edits = true → ∀ answer, done.2.answer = .ok answer →
    (∃ offer events edit, w.offer? host request = some ⟨.ok offer, events⟩ ∧
      w.subject? request = some offer.owner ∧ w.Recorded offer edit done) ∨
    request.inserts = true ∧ answer = .null ∧ Event.splicings done.2.events = [] ∧
      SameContent w done.1
  failed : ∀ fault, done.2.answer = .error fault → Event.splicings done.2.events = []
  unedited : request.edits = false → Event.splicings done.2.events = []
  lexed : ∀ met, .lexed met ∈ done.2.events → ∃ lexer value pieces tokens,
    w.Employs request lexer ∧ lexer.Reads host w.view value pieces tokens met

theorem spares_of_error {fault : Fault}
    (fails : (w.perform host request).2.answer = .error fault) :
    Spares (w.plan host request) := by
  intro edit plans
  rw [answer_perform_of_splice plans] at fails
  cases fails

theorem spares_of_edits_eq_false (unedited : request.edits = false) :
    Spares (w.plan host request) := by
  intro edit plans
  obtain ⟨offer, events, offers, -⟩ := exists_offer_of_splice plans
  exact absurd (unedited.symm.trans (edits_of_offer? offers)) Bool.false_ne_true

theorem sameContent_perform_of_nothing {answer : Value}
    (plans : (w.plan host request).answer = .ok (.nothing answer)) :
    SameContent w (w.perform host request).1 := by
  rw [(perform_of_ok plans).1]
  exact sameContent_afterEvents w _ _

theorem audited_perform (w : Workspace) (host : Host) (request : Request) :
    w.Audited host request (w.perform host request) := by
  constructor
  case edited =>
    intro edits answer answers
    cases plans : (w.plan host request).answer with
    | error fault =>
      rw [(perform_of_error plans).1] at answers
      cases answers
    | ok change =>
      obtain ⟨offer, events, offers, accepts⟩ := exists_offer_of_edits edits plans
      rcases opened_of_accept accepts with ⟨rfl, index, point⟩ | ⟨edit, rfl, -⟩
      · have spares : Spares (w.plan host request) := by simp [Spares, plans]
        rw [answer_perform_of_nothing plans] at answers
        exact .inr ⟨inserts_of_point offers point, (Except.ok.inj answers).symm,
          splicings_perform_of_spares spares, sameContent_perform_of_nothing plans⟩
      · exact .inl ⟨offer, events, edit, offers, subject?_of_offer? offers,
          recorded_perform plans accepts⟩
  case failed => exact fun fault fails => splicings_perform_of_spares (spares_of_error fails)
  case unedited =>
    exact fun unedited => splicings_perform_of_spares (spares_of_edits_eq_false unedited)
  case lexed => exact fun met => reads_of_lexed

/-- The workspace after requests, each of them with the host as it is then. -/
def performEach (w : Workspace) (steps : List (Host × Request)) : Workspace :=
  steps.foldl (fun w step => (w.perform step.1 step.2).1) w

def audit (id : SequenceId) : Workspace → List (Host × Request) → List Splicing
  | _, [] => []
  | w, (host, request) :: rest =>
      let done := w.perform host request
      let splicings := if w.subject? request = some id then Event.splicings done.2.events else []
      splicings ++ audit id done.1 rest

section Running

variable {id : SequenceId}

theorem replays_perform (held : id < w.sequences.length) :
    Splicing.Replays (w.entries id).length
      (if w.subject? request = some id then
        Event.splicings (w.perform host request).2.events else [])
      ((w.perform host request).1.entries id).length := by
  by_cases spares : Spares (w.plan host request)
  case pos =>
    rw [splicings_perform_of_spares spares, entries_perform_of_spares spares held, ite_self]
    exact .nil
  case neg =>
    obtain ⟨edit, plans⟩ := not_forall_not.mp spares
    obtain ⟨offer, events, offers, accepts⟩ := exists_offer_of_splice plans
    have fits := fits_of_accept accepts
    rw [subject?_of_offer? offers, ← fits.target, splicings_perform_of_splice plans,
      entries_perform_of_splice plans held]
    by_cases target : edit.owner = id
    case pos =>
      subst target
      rw [if_pos rfl, if_pos rfl]
      have within : edit.stop ≤ (w.entries edit.owner).length := fits.target ▸ fits.within
      exact .cons (Edit.balance fits.ordered within) .nil
    case neg =>
      rw [if_neg fun same => target (Option.some.inj same), if_neg target]
      exact .nil

theorem replays_performEach (held : id < w.sequences.length) (steps : List (Host × Request)) :
    Splicing.Replays (w.entries id).length (w.audit id steps)
      ((w.performEach steps).entries id).length := by
  induction steps generalizing w with
  | nil => exact .nil
  | cons step rest ih =>
    obtain ⟨host, request⟩ := step
    have later := ih (Nat.lt_of_lt_of_le held (length_sequences_perform w host request))
    exact (replays_perform held).append later

end Running

/-- The log tells what was done: each request is audited, the records of a sequence lead from its
length before any run to its length after it, of a text that is lexed all pieces are accounted for
by tokens and by records of joined pieces, and what is written into the log is no more than that. -/
theorem log_audits_requests :
    (∀ (w : Workspace) (host : Host) (request : Request),
      w.Audited host request (w.perform host request)) ∧
    (∀ (w : Workspace) (steps : List (Host × Request)), ∀ id < w.sequences.length,
      let before : Int := (w.entries id).length
      let after : Int := ((w.performEach steps).entries id).length
      Splicing.Replays before (w.audit id steps) after ∧
        Splicing.replay before (w.audit id steps) = after) ∧
    (∀ (lexer : Lexer) (host : Host) (view : View) (value : Value) (tokens : List String),
      (lexer.tokens host view value).answer = .ok tokens →
        ∃ pieces met, lexer.Reads host view value pieces tokens met) ∧
    ∀ events : List Event,
      (Event.log events).filter (·.recorder = .sequence) =
        (Event.splicings events).map Splicing.record ∧
      (Event.log events).filter (·.recorder = .lexer) =
        (Event.meetings events).filterMap Operator.Meeting.record? := by
  refine ⟨audited_perform, fun w steps id held => ?_, fun lexer host view value tokens => ?_,
    fun events => ⟨Event.log_of_sequence events, Event.log_of_lexer events⟩⟩
  · have replays := replays_performEach held steps
    exact ⟨replays, replays.replay_eq⟩
  · exact Lexer.exists_reads

/-- Two of the five requests are recorded: a text of four pieces and three tokens takes the place of
an entry, and nothing that of no entries. There is nothing to insert, the next text is lexed for a
cursor that stands outside, and the last request only looks. -/
theorem log_audits_requests_past_empty_range :
    let host : Host := ⟨fun _ _ => .ok (.list []), fun _ _ => .ok⟩
    let w : Workspace := ⟨[⟨[some "a", some "b", none], Lexer.standard⟩],
      [⟨.int 1, 0⟩, ⟨.int 9, 0⟩], [⟨.int 2, .int 2, 0⟩]⟩
    let request : Request := .ofItem 0 (.replace (.text "x<=1"))
    let steps : List (Host × Request) :=
      [(host, request), (host, .ofSequence 0 (.insertAt (.int 0) (.list [.null, .text ""]))),
        (host, .ofItem 1 (.replace (.text "y"))), (host, .ofRange 0 (.replace (.function 0))),
        (host, .ofSequence 0 .render)]
    let done := w.perform host request
    0 < w.sequences.length ∧ request.edits = true ∧
      done.2.answer = .ok (.range 1) ∧
      (∃ offer edit, w.Recorded offer edit done) ∧
      (Event.log done.2.events).map Record.message =
        ["Merged '<' + '=' -> '<='", "Spliced at 1: removed 1, inserted 3 (length now 5)"] ∧
      (w.audit 0 steps).map (fun record => (record.removed, record.inserted, record.length)) =
        [(1, 3, 5), (0, 0, 5)] ∧
      Splicing.replay 3 (w.audit 0 steps) = ((w.performEach steps).entries 0).length ∧
      ∃ pieces met, Lexer.standard.Reads host w.view (.text "x<=1") pieces ["x", "<=", "1"] met ∧
        (met.filterMap Operator.Meeting.record?).length + 3 = pieces.length := by
  intro host w request steps done
  obtain ⟨audited, replayed, lexed, -⟩ := log_audits_requests
  have held : 0 < w.sequences.length := by decide
  have answer : done.2.answer = .ok (.range 1) := by rfl
  have tokens : (Lexer.standard.tokens host w.view (.text "x<=1")).answer =
      .ok ["x", "<=", "1"] := by
    rw [Lexer.tokens_standard]
    exact congrArg Except.ok (by decide +kernel)
  obtain ⟨pieces, met, reads⟩ := lexed _ _ _ _ _ tokens
  refine ⟨held, rfl, answer, ?_, by decide +kernel, by decide +kernel,
    (replayed w steps 0 held).2, pieces, met, reads, reads.fused rfl⟩
  rcases (audited w host request).edited rfl _ answer with
    ⟨offer, events, edit, -, -, recorded⟩ | ⟨-, none, -⟩
  · exact ⟨offer, edit, recorded⟩
  · cases none

end Workspace

end TokenEditor
