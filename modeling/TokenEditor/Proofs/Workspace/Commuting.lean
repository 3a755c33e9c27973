import TokenEditor.Proofs.Value.Literal
import TokenEditor.Proofs.Workspace.Chain

/-!
# Edits that commute

Two edits of a sequence that have no entry in common can be made in either order. The one that is
behind the other has to be made as many places further on, if it is made second, as the first one
moves what is behind it. The two may touch, and either may be an insertion, even both at one point.
-/

namespace TokenEditor

namespace Entries

section Splices

variable (front first between second back : List Entry) (run more : List String)

theorem splice_behind_then_before :
    splice (splice (front ++ first ++ between ++ second ++ back)
        (front ++ first ++ between).length
        ((front ++ first ++ between).length + second.length) more)
      front.length (front.length + first.length) run =
    front ++ run.map some ++ between ++ more.map some ++ back := by
  have grouped : front ++ first ++ between ++ more.map some ++ back =
      front ++ first ++ (between ++ more.map some ++ back) := by
    simp only [List.append_assoc]
  rw [splice_between, grouped, splice_between]
  simp only [List.append_assoc]

theorem splice_before_then_behind :
    splice (splice (front ++ first ++ between ++ second ++ back)
        front.length (front.length + first.length) run)
      (front ++ run.map some ++ between).length
      ((front ++ run.map some ++ between).length + second.length) more =
    front ++ run.map some ++ between ++ more.map some ++ back := by
  have grouped : front ++ first ++ between ++ second ++ back =
      front ++ first ++ (between ++ second ++ back) := by
    simp only [List.append_assoc]
  have regrouped : front ++ run.map some ++ (between ++ second ++ back) =
      front ++ run.map some ++ between ++ second ++ back := by
    simp only [List.append_assoc]
  rw [grouped, splice_between, regrouped, splice_between]

end Splices

theorem exists_stretches {entries : List Entry} {a b c d : Nat} (first : a ≤ b) (apart : b ≤ c)
    (second : c ≤ d) (within : d ≤ entries.length) :
    ∃ front near between far back : List Entry,
      entries = front ++ near ++ between ++ far ++ back ∧ front.length = a ∧
      near.length = b - a ∧ between.length = c - b ∧ far.length = d - c := by
  refine ⟨entries.take a, window entries a b, window entries b c, window entries c d,
    entries.drop d, ?_, ?_, ?_, ?_, ?_⟩
  · rw [take_append_window entries first, take_append_window entries apart,
      take_append_window entries second, List.take_append_drop]
  all_goals
    simp only [window, List.length_drop, List.length_take]
    omega

/-- Two splices come to the same in either order, if the one behind is moved as far as the other
moves what is behind it. -/
theorem splice_comm {entries : List Entry} {a b c d moved : Nat} (first : a ≤ b) (apart : b ≤ c)
    (second : c ≤ d) (within : d ≤ entries.length) (run more : List String)
    (shifted : moved + (b - a) = c + run.length) :
    splice (splice entries a b run) moved (moved + (d - c)) more =
      splice (splice entries c d more) a b run := by
  obtain ⟨front, near, between, far, back, rfl, starts, nearLength, betweenLength, farLength⟩ :=
    exists_stretches first apart second within
  have stops : b = front.length + near.length := by omega
  have farStarts : c = (front ++ near ++ between).length := by
    simp only [List.length_append]
    omega
  have farStops : d = (front ++ near ++ between).length + far.length := by omega
  have movedStarts : moved = (front ++ run.map some ++ between).length := by
    simp only [List.length_append, List.length_map]
    omega
  rw [← farLength, movedStarts, farStops, farStarts, stops, ← starts,
    splice_before_then_behind, splice_behind_then_before]

end Entries

namespace Workspace

/-- What it comes to when a run is to take the place of the entries between two places. -/
def replaceBetween (w : Workspace) (host : Host) (owner : SequenceId) (start stop : Int)
    (run : Value) : Workspace × Attempt Value :=
  w.perform host (.ofSequence owner (.replaceRange (.int start) (.int stop) run))

section Editing

variable {w : Workspace} {host : Host} {owner : SequenceId} {start stop : Int}

theorem replaced_replaceBetween (held : owner < w.sequences.length)
    (bounds : 0 ≤ start ∧ start ≤ stop ∧ stop ≤ (w.entries owner).length) {payload : Value}
    {run : List String} (written : Payload.written w.view payload = .ok run) :
    Replaced w host owner start stop run (w.replaceBetween host owner start stop payload) := by
  have replaced := replaceRange_replaced_or_refused host written held start stop
  rw [if_pos bounds] at replaced
  exact replaced

theorem length_sequences_replaceBetween (held : owner < w.sequences.length) (start stop : Int)
    (payload : Value) :
    owner < (w.replaceBetween host owner start stop payload).1.sequences.length :=
  Nat.lt_of_lt_of_le held (length_sequences_perform w host _)

theorem Replaced.entries_eq_splice {run : List String} {done : Workspace × Attempt Value}
    (replaced : Replaced w host owner start stop run done) :
    done.1.entries owner = Entries.splice (w.entries owner) start.toNat stop.toNat run :=
  replaced.entries

theorem Replaced.length {run : List String} {done : Workspace × Attempt Value}
    (replaced : Replaced w host owner start stop run done)
    (bounds : 0 ≤ start ∧ start ≤ stop ∧ stop ≤ (w.entries owner).length) :
    ((done.1.entries owner).length : Int) =
      (w.entries owner).length + (run.length - (stop - start)) := by
  have balance : (Entries.splice (w.entries owner) start.toNat stop.toNat run).length +
      (stop.toNat - start.toNat) = (w.entries owner).length + run.length :=
    Entries.length_splice run (by omega) (by omega)
  rw [replaced.entries_eq_splice]
  omega

end Editing

/-- Two edits that replace disjoint stretches of a sequence come to the same in either order, if
each payload is written as the same tokens in both, as literal ones are. The one behind is made
further on by as much as the other makes the sequence longer, and so is the range that it is
answered with; the other is answered with the same range in both orders. -/
theorem disjoint_edits_commute {w : Workspace} {host : Host} {owner : SequenceId}
    (held : owner < w.sequences.length) {a b c d : Int}
    (bounds : 0 ≤ a ∧ a ≤ b ∧ b ≤ c ∧ c ≤ d ∧ d ≤ (w.entries owner).length)
    {payload other : Value} {run more : List String}
    (written : Payload.written w.view payload = .ok run)
    (otherWritten : Payload.written w.view other = .ok more)
    (lasting : payload.isLiteral = true ∨
      Payload.written (w.replaceBetween host owner c d other).1.view payload = .ok run)
    (otherLasting : other.isLiteral = true ∨
      Payload.written (w.replaceBetween host owner a b payload).1.view other = .ok more) :
    let k : Int := run.length - (b - a)
    let before := w.replaceBetween host owner a b payload
    let thenBehind := before.1.replaceBetween host owner (c + k) (d + k) other
    let behind := w.replaceBetween host owner c d other
    let thenBefore := behind.1.replaceBetween host owner a b payload
    Replaced w host owner a b run before ∧
      Replaced before.1 host owner (c + k) (d + k) more thenBehind ∧
      Replaced w host owner c d more behind ∧
      Replaced behind.1 host owner a b run thenBefore ∧
      ∀ id, thenBehind.1.entries id = thenBefore.1.entries id := by
  intro k before thenBehind behind thenBefore
  obtain ⟨starts, near, apart, far, within⟩ := bounds
  have laterWritten : Payload.written behind.1.view payload = .ok run :=
    lasting.elim (fun literal => (Payload.written_of_isLiteral _ _ literal).trans written) id
  have otherLaterWritten : Payload.written before.1.view other = .ok more :=
    otherLasting.elim (fun literal => (Payload.written_of_isLiteral _ _ literal).trans otherWritten)
      id
  have nearBounds : 0 ≤ a ∧ a ≤ b ∧ b ≤ (w.entries owner).length := by omega
  have farBounds : 0 ≤ c ∧ c ≤ d ∧ d ≤ (w.entries owner).length := by omega
  have replaced : Replaced w host owner a b run before :=
    replaced_replaceBetween held nearBounds written
  have otherReplaced : Replaced w host owner c d more behind :=
    replaced_replaceBetween held farBounds otherWritten
  have longer := replaced.length nearBounds
  have otherLonger := otherReplaced.length farBounds
  have laterBounds : 0 ≤ a ∧ a ≤ b ∧ b ≤ (behind.1.entries owner).length := by omega
  have movedBounds : 0 ≤ c + k ∧ c + k ≤ d + k ∧ d + k ≤ (before.1.entries owner).length := by
    omega
  have thenReplaced : Replaced before.1 host owner (c + k) (d + k) more thenBehind :=
    replaced_replaceBetween (length_sequences_replaceBetween held a b payload) movedBounds
      otherLaterWritten
  have otherThenReplaced : Replaced behind.1 host owner a b run thenBefore :=
    replaced_replaceBetween (length_sequences_replaceBetween held c d other) laterBounds
      laterWritten
  refine ⟨replaced, thenReplaced, otherReplaced, otherThenReplaced, ?_⟩
  intro id
  by_cases same : id = owner
  · subst same
    have movedStop : (d + k).toNat = (c + k).toNat + (d.toNat - c.toNat) := by omega
    rw [thenReplaced.entries_eq_splice, replaced.entries_eq_splice,
      otherThenReplaced.entries_eq_splice, otherReplaced.entries_eq_splice, movedStop]
    apply Entries.splice_comm <;> omega
  · rw [thenReplaced.others id same, replaced.others id same, otherThenReplaced.others id same,
      otherReplaced.others id same]

/-- The two edits touch, and the one behind is an insertion. Of four items three are written, and
the other payload is a sequence. -/
theorem disjoint_edits_commute_touching :
    let host : Host := ⟨fun _ => .ok, fun _ _ => .ok⟩
    let w : Workspace := ⟨[⟨[some "a", none, some "b", some "c"], Lexer.standard⟩,
      ⟨[some "x", none], Lexer.standard⟩], [], []⟩
    let payload := Value.list [.text "p", .null, .int 7, .text "q"]
    let before := w.replaceBetween host 0 1 2 payload
    let thenBehind := before.1.replaceBetween host 0 4 4 (.sequence 1)
    let behind := w.replaceBetween host 0 2 2 (.sequence 1)
    let thenBefore := behind.1.replaceBetween host 0 1 2 payload
    payload.isLiteral = true ∧ Payload.written w.view payload = .ok ["p", "7", "q"] ∧
      Payload.written w.view (.sequence 1) = .ok ["x"] ∧
      Payload.written before.1.view (.sequence 1) = .ok ["x"] ∧
      thenBehind.1.entries 0 = thenBefore.1.entries 0 ∧
      thenBefore.1.entries 0 =
        [some "a", some "p", some "7", some "q", some "x", some "b", some "c"] ∧
      thenBehind.1.ranges = [⟨.int 1, .int 4, 0⟩, ⟨.int 4, .int 5, 0⟩] ∧
      thenBefore.1.ranges = [⟨.int 2, .int 3, 0⟩, ⟨.int 1, .int 4, 0⟩] := by
  intro host w payload before thenBehind behind thenBefore
  have held : 0 < w.sequences.length := by decide
  have literal : payload.isLiteral = true := by rfl
  have written : Payload.written w.view payload = .ok ["p", "7", "q"] := by rfl
  have otherWritten : Payload.written w.view (.sequence 1) = .ok ["x"] := by rfl
  have otherLater : Payload.written before.1.view (.sequence 1) = .ok ["x"] := by rfl
  obtain ⟨-, -, -, -, same⟩ := @disjoint_edits_commute w host 0 held 1 2 2 2 (by decide) payload
    (.sequence 1) _ _ written otherWritten (.inl literal) (.inr otherLater)
  exact ⟨literal, written, otherWritten, otherLater, same 0, rfl, rfl, rfl⟩

end Workspace

end TokenEditor
