import TokenEditor.Proofs.Workspace.Offer

/-!
# What plans come to

A plan that does not fail comes to one change. Here the requests are gone through once, to say which
change that can be; what requests do to a workspace, and what they leave alone, follows from the
cases.
-/

namespace TokenEditor

def Request.assigns : Request → Bool
  | .ofItem _ (.setIndex _) | .ofItem _ (.setOwner _) => true
  | .ofRange _ (.setStart _) | .ofRange _ (.setStop _) | .ofRange _ (.setOwner _) => true
  | _ => false

def Request.looks : Request → Bool
  | .compare .. | .display _ | .quote _ => true
  | .ofSequence _ .length | .ofSequence _ .entries | .ofSequence _ (.entry _) => true
  | .ofSequence _ (.slice ..) | .ofSequence _ .render | .ofSequence _ (.lex _) => true
  | .ofItem _ .index | .ofItem _ .owner | .ofItem _ .token | .ofItem _ (.peek _) => true
  | .ofRange _ .start | .ofRange _ .stop | .ofRange _ .owner => true
  | .ofRange _ .length | .ofRange _ .entries => true
  | _ => false

namespace Workspace

/-- What a request can be planned to come to. -/
inductive Planned (w : Workspace) (host : Host) : Request → Change → Prop
  | nothing {request} : Planned w host request (.nothing .null)
  | answered {request answer} : request.looks = true → Planned w host request (.nothing answer)
  | sequence {source settings sequence} :
      Planned w host (.newSequence source settings) (.addSequence sequence)
  | item {owner index} : Planned w host (.newItem owner index) (.addItem ⟨index, owner⟩)
  | place {request owner index} :
      w.subject? request = some owner → Planned w host request (.addItem ⟨index, owner⟩)
  | range {owner start stop} :
      stop.isBefore w.view start = .ok false →
      Planned w host (.newRange owner start stop) (.addRange ⟨start, stop, owner⟩)
  | selected {request owner start step criterion run} :
      w.subject? request = some owner →
      (w.run host owner start step criterion).answer = .ok (some run) →
      Planned w host request (.addRange run)
  | extendedLeft {id cursor criterion run} :
      w.ranges[id]? = some cursor →
      (w.run host cursor.owner cursor.start (.int (-1)) criterion).answer = .ok (some run) →
      Planned w host (.ofRange id (.extendLeft criterion))
        (.addRange { run with stop := cursor.stop })
  | extendedRight {id cursor criterion run} :
      w.ranges[id]? = some cursor →
      (w.run host cursor.owner cursor.stop (.int 1) criterion).answer = .ok (some run) →
      Planned w host (.ofRange id (.extendRight criterion))
        (.addRange { run with start := cursor.start })
  | spliced {request offer events edit} :
      w.offer? host request = some ⟨.ok offer, events⟩ →
      w.accept offer = .ok (.splice edit) → Planned w host request (.splice edit)
  | advanced {id cursor caseSensitive index} :
      w.items[id]? = some cursor → cursor.index.shift 1 = .ok index →
      Planned w host (.ofItem id (.next .null caseSensitive))
        (.setItem id { cursor with index } (.item id))
  | itemAssigned {request id cursor answer} :
      request.assigns = true → Planned w host request (.setItem id cursor answer)
  | rangeAssigned {request id cursor answer} :
      request.assigns = true → Planned w host request (.setRange id cursor answer)

section Planning

variable {w : Workspace} {host : Host} {change : Change}

theorem planned_of_offer? {request : Request} {offering : Attempt Offer}
    (offers : w.offer? host request = some offering)
    (plans : (w.plan host request).answer = .ok change) : Planned w host request change := by
  obtain ⟨offer, events, rfl, accepts⟩ := exists_accepted_of_plan offers plans
  rcases accept_cases accepts with rfl | ⟨edit, rfl, -⟩
  · exact .nothing
  · exact .spliced offers accepts

theorem find_cases {owner : SequenceId} {wanted caseSensitive start : Value}
    (found : w.find owner wanted caseSensitive start = .ok change) :
    change = .nothing .null ∨ ∃ index, change = .addItem ⟨index, owner⟩ := by
  obtain ⟨sought, -, rest⟩ := bind_eq_ok.mp found
  obtain ⟨first, -, done⟩ := bind_eq_ok.mp rest
  generalize (if caseSensitive.isTrue w.view then id else Text.Case.lower) = fold at done
  cases sought with
  | text spelling =>
    dsimp only at done
    split at done
    case h_1 => exact .inr ⟨_, (Except.ok.inj done).symm⟩
    case h_2 => exact .inl (Except.ok.inj done).symm
  | _ => exact .inl (Except.ok.inj done).symm

theorem edge_cases {owner : SequenceId} {which : Edge}
    (found : w.edge owner which = .ok change) :
    ∃ index, change = .addItem ⟨index, owner⟩ := by
  unfold edge at found
  split at found
  case h_1 => cases found
  case h_2 => cases which <;> exact ⟨_, (Except.ok.inj found).symm⟩

theorem newSequence_cases {source : Value} {settings : Settings}
    (made : (w.newSequence host source settings).answer = .ok change) :
    ∃ sequence, change = .addSequence sequence := by
  obtain ⟨lexer, -, rest⟩ := Attempt.answer_bind_eq_ok.mp made
  split at rest
  case h_1 =>
    obtain ⟨tokens, -, done⟩ := Attempt.answer_bind_eq_ok.mp rest
    exact ⟨_, (Except.ok.inj done).symm⟩
  case h_2 =>
    obtain ⟨items, -, done⟩ := Attempt.answer_bind_eq_ok.mp rest
    exact ⟨_, (Except.ok.inj done).symm⟩

theorem newRange_cases {owner : SequenceId} {start stop : Value}
    (made : w.newRange owner start stop = .ok change) :
    stop.isBefore w.view start = .ok false ∧ change = .addRange ⟨start, stop, owner⟩ := by
  obtain ⟨reversed, ordered, done⟩ := bind_eq_ok.mp made
  cases reversed with
  | true => cases done
  | false => exact ⟨ordered, (Except.ok.inj done).symm⟩

theorem planned_cursorOrNull {request : Request} {found : Option RangeCursor}
    (grown : ∀ run, found = some run → Planned w host request (.addRange run)) :
    Planned w host request (cursorOrNull found) := by
  cases found with
  | none => exact .nothing
  | some run => exact grown run rfl

theorem planned_of_answer {request : Request} {α : Type} {x : Attempt α} {f : α → Value}
    (looks : request.looks = true)
    (plans : (x >>= fun a => pure (Change.nothing (f a))).answer = .ok change) :
    Planned w host request change := by
  obtain ⟨a, -, done⟩ := Attempt.answer_bind_eq_ok.mp plans
  cases done
  exact .answered looks

theorem planned_planSequence {owner : SequenceId} {request : SequenceRequest}
    (none : w.offer? host (.ofSequence owner request) = none)
    (plans : (w.planSequence host owner request).answer = .ok change) :
    Planned w host (.ofSequence owner request) change := by
  cases request with
  | find wanted caseSensitive start =>
    rcases find_cases plans with rfl | ⟨index, rfl⟩
    · exact .nothing
    · exact .place rfl
  | first =>
    obtain ⟨index, rfl⟩ := edge_cases plans
    exact .place rfl
  | last =>
    obtain ⟨index, rfl⟩ := edge_cases plans
    exact .place rfl
  | select start step criterion =>
    obtain ⟨found, answer, done⟩ := Attempt.answer_bind_eq_ok.mp plans
    cases done
    exact planned_cursorOrNull fun run same => .selected rfl (same ▸ answer)
  | entry index => exact planned_of_answer rfl plans
  | slice start stop step => exact planned_of_answer rfl plans
  | lex text => exact planned_of_answer rfl plans
  | replaceRange start stop run => cases none
  | replaceAt index run => cases none
  | insertAt index run => cases none
  | _ =>
    cases plans
    exact .answered rfl

theorem subject_ofItem {id : ItemId} {cursor : ItemCursor} (found : w.items[id]? = some cursor)
    (request : ItemRequest) : w.subject? (.ofItem id request) = some cursor.owner :=
  congrArg (Option.map ItemCursor.owner) found

theorem subject_ofRange {id : RangeId} {cursor : RangeCursor} (found : w.ranges[id]? = some cursor)
    (request : RangeRequest) : w.subject? (.ofRange id request) = some cursor.owner :=
  congrArg (Option.map RangeCursor.owner) found

theorem planned_selectFrom {id : ItemId} {cursor : ItemCursor} {request : ItemRequest}
    {distance step : Int} {criterion : Value} (found : w.items[id]? = some cursor)
    (plans : (w.selectFrom host cursor distance step criterion).answer = .ok change) :
    Planned w host (.ofItem id request) change := by
  rw [selectFrom_eq_away] at plans
  obtain ⟨index, -, rest⟩ := Attempt.answer_bind_eq_ok.mp plans
  obtain ⟨selected, answer, done⟩ := Attempt.answer_bind_eq_ok.mp rest
  cases done
  have subject := subject_ofItem found request
  exact planned_cursorOrNull fun run same => .selected subject (same ▸ answer)

theorem planned_planItem {id : ItemId} {cursor : ItemCursor} {request : ItemRequest}
    (found : w.items[id]? = some cursor) (none : w.offer? host (.ofItem id request) = none)
    (plans : (w.planItem host id cursor request).answer = .ok change) :
    Planned w host (.ofItem id request) change := by
  have subject := subject_ofItem found request
  cases request with
  | setIndex index =>
    cases plans
    exact .itemAssigned rfl
  | setOwner owner =>
    cases plans
    exact .itemAssigned rfl
  | token => exact planned_of_answer rfl plans
  | peek count => exact planned_of_answer rfl plans
  | next wanted caseSensitive =>
    cases wanted with
    | null =>
      obtain ⟨index, shifted, done⟩ := Attempt.answer_bind_eq_ok.mp plans
      cases done
      exact .advanced found shifted
    | _ =>
      obtain ⟨start, -, finds⟩ := Attempt.answer_bind_eq_ok.mp plans
      rcases find_cases finds with rfl | ⟨index, rfl⟩
      · exact .nothing
      · exact .place subject
  | select criterion => exact planned_selectFrom found plans
  | selectPrevious criterion => exact planned_selectFrom found plans
  | selectNext criterion => exact planned_selectFrom found plans
  | replace payload => simp [offer?, found] at none
  | insertBefore run => simp [offer?, found] at none
  | insertAfter run => simp [offer?, found] at none
  | _ =>
    cases plans
    exact .answered rfl

theorem planned_planRange {id : RangeId} {cursor : RangeCursor} {request : RangeRequest}
    (found : w.ranges[id]? = some cursor) (none : w.offer? host (.ofRange id request) = none)
    (plans : (w.planRange host id cursor request).answer = .ok change) :
    Planned w host (.ofRange id request) change := by
  have subject := subject_ofRange found request
  cases request with
  | length => exact planned_of_answer rfl plans
  | entries => exact planned_of_answer rfl plans
  | setStart start =>
    cases plans
    exact .rangeAssigned rfl
  | setStop stop =>
    cases plans
    exact .rangeAssigned rfl
  | setOwner owner =>
    cases plans
    exact .rangeAssigned rfl
  | first =>
    cases plans
    exact .place subject
  | last =>
    cases plans
    exact .place subject
  | extendLeft criterion =>
    obtain ⟨selected, answer, done⟩ := Attempt.answer_bind_eq_ok.mp plans
    cases done
    refine planned_cursorOrNull fun grown same => ?_
    obtain ⟨run, rfl, rfl⟩ := Option.map_eq_some_iff.mp same
    exact .extendedLeft found answer
  | extendRight criterion =>
    obtain ⟨selected, answer, done⟩ := Attempt.answer_bind_eq_ok.mp plans
    cases done
    refine planned_cursorOrNull fun grown same => ?_
    obtain ⟨run, rfl, rfl⟩ := Option.map_eq_some_iff.mp same
    exact .extendedRight found answer
  | replace payload => simp [offer?, found] at none
  | _ =>
    cases plans
    exact .answered rfl

/-- Whatever a request comes to, it is one of these. -/
theorem planned_of_plan {request : Request}
    (plans : (w.plan host request).answer = .ok change) : Planned w host request change := by
  cases offers : w.offer? host request with
  | some offering => exact planned_of_offer? offers plans
  | none =>
    cases request with
    | newSequence source settings =>
      obtain ⟨sequence, rfl⟩ := newSequence_cases plans
      exact .sequence
    | newItem owner index =>
      cases plans
      exact .item
    | newRange owner start stop =>
      obtain ⟨ordered, rfl⟩ := newRange_cases plans
      exact .range ordered
    | ofSequence owner request => exact planned_planSequence offers plans
    | ofItem id request =>
      rw [plan] at plans
      cases found : w.items[id]? with
      | none =>
        rw [found] at plans
        cases plans
      | some cursor =>
        rw [found] at plans
        exact planned_planItem found offers plans
    | ofRange id request =>
      rw [plan] at plans
      cases found : w.ranges[id]? with
      | none =>
        rw [found] at plans
        cases plans
      | some cursor =>
        rw [found] at plans
        exact planned_planRange found offers plans
    | _ =>
      cases plans
      exact .answered rfl

end Planning

def Spares (planned : Attempt Change) : Prop := ∀ edit, planned.answer ≠ .ok (.splice edit)

section Splicing

variable {w : Workspace} {host : Host} {request : Request} {edit : Edit}

/-- Whatever comes to a splice was an offer that has been accepted. -/
theorem exists_offer_of_splice (plans : (w.plan host request).answer = .ok (.splice edit)) :
    ∃ offer events, w.offer? host request = some ⟨.ok offer, events⟩ ∧
      w.accept offer = .ok (.splice edit) := by
  cases planned_of_plan plans with
  | spliced offers accepts => exact ⟨_, _, offers, accepts⟩

theorem offered?_of_splice (plans : (w.plan host request).answer = .ok (.splice edit)) :
    ∃ items, w.offered? host request = some items ∧
      edit.run = items.filterMap (Payload.written? w.view) ∧
      edit.start ≤ edit.stop ∧ edit.stop ≤ (w.entries edit.owner).length := by
  obtain ⟨offer, events, offers, accepts⟩ := exists_offer_of_splice plans
  have fits := fits_of_accept accepts
  obtain ⟨items, found, run⟩ := (Payload.written_eq_ok_iff ..).mp fits.written
  refine ⟨items, ?_, run.symm, fits.ordered, ?_⟩
  · rw [offered?, offers]
    simp [found, Except.toOption]
  · rw [fits.target]
    exact fits.within

theorem owner_of_offerFrom {cursor : ItemCursor} {distance : Int} {run : Value} {offer : Offer}
    (made : (w.offerFrom host cursor distance run).answer = .ok offer) :
    offer.owner = cursor.owner := by
  obtain ⟨index, -, rest⟩ := Attempt.answer_bind_eq_ok.mp made
  obtain ⟨items, -, done⟩ := Attempt.answer_bind_eq_ok.mp rest
  cases done
  rfl

theorem subject?_of_offer? {offer : Offer} {events : List Event}
    (offers : w.offer? host request = some ⟨.ok offer, events⟩) :
    w.subject? request = some offer.owner := by
  have ofItem : ∀ (id : ItemId) (cursor : ItemCursor), w.items[id]? = some cursor →
      offer.owner = cursor.owner → w.items[id]?.map ItemCursor.owner = some offer.owner := by
    intro id cursor found same
    rw [found, same]
    rfl
  unfold offer? at offers
  split at offers
  case h_1 =>
    cases offers
    rfl
  case h_2 =>
    cases offers
    rfl
  case h_3 =>
    cases offers
    rfl
  case h_4 id payload =>
    obtain ⟨cursor, found, made⟩ := Option.map_eq_some_iff.mp offers
    obtain ⟨tokens, -, done⟩ := Attempt.answer_bind_eq_ok.mp (congrArg Attempt.answer made)
    cases done
    exact ofItem id cursor found rfl
  case h_5 id run =>
    obtain ⟨cursor, found, made⟩ := Option.map_eq_some_iff.mp offers
    exact ofItem id cursor found (owner_of_offerFrom (congrArg Attempt.answer made))
  case h_6 id run =>
    obtain ⟨cursor, found, made⟩ := Option.map_eq_some_iff.mp offers
    exact ofItem id cursor found (owner_of_offerFrom (congrArg Attempt.answer made))
  case h_7 id payload =>
    obtain ⟨cursor, found, made⟩ := Option.map_eq_some_iff.mp offers
    obtain ⟨tokens, -, done⟩ := Attempt.answer_bind_eq_ok.mp (congrArg Attempt.answer made)
    cases done
    rw [subject?, found]
    rfl
  case h_8 => cases offers

end Splicing

end Workspace

end TokenEditor
