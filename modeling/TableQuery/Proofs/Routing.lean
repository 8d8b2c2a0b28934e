import TableQuery.Proofs.Accounting
import TableQuery.Proofs.Observers
/-!
# Where events are delivered

A session tells of every event it records and who received it, the counters or a scope (`Session.journal`). A
scope is told from others by the number of scopes entered before it, so that what each receiver holds can be
compared with what was delivered to it (`Routed`). Nothing of that has any influence on the drafts.
-/

namespace TableQuery

/-! ## Open scopes -/

namespace Move

/-- How many scopes were entered in moves, of which the latest comes first. -/
def entered : List Move → Nat
  | [] => 0
  | .enter :: earlier => entered earlier + 1
  | _ :: earlier => entered earlier

/-- The scopes that are open after moves, the innermost first. The latest move comes first. -/
def openScopes : List Move → List Nat
  | [] => []
  | .enter :: earlier => entered earlier :: openScopes earlier
  | .leave :: earlier => (openScopes earlier).tail
  | .step _ _ :: earlier => openScopes earlier

/-- Every scope was entered after those around it. -/
theorem pairwise_openScopes (moves : List Move) :
    (entered moves :: openScopes moves).Pairwise (· > ·) := by
  induction moves with
  | nil => exact List.pairwise_singleton _ _
  | cons m earlier ih =>
    cases m with
    | step x plain => exact ih
    | leave => exact ih.sublist ((List.tail_sublist _).cons_cons _)
    | enter =>
      refine List.pairwise_cons.2 ⟨?_, ih⟩
      intro n hn
      rcases List.mem_cons.1 hn with rfl | hn
      · exact Nat.lt_succ_self _
      · exact Nat.lt_succ_of_lt ((List.pairwise_cons.1 ih).1 n hn)

end Move

/-! ## Deliveries -/

inductive Receiver
  | counters
  | scope (n : Nat)
  deriving DecidableEq

/-- The innermost open scope, or the counters if none is open. -/
def Move.receiver (moves : List Move) : Receiver :=
  match openScopes moves with
  | [] => .counters
  | n :: _ => .scope n

theorem Move.receiver_eq_counters {moves : List Move} : receiver moves = .counters ↔ openScopes moves = [] := by
  unfold receiver
  cases openScopes moves <;> simp

/-- A scope that was not entered yet receives nothing. -/
theorem Move.receiver_ne {moves : List Move} {n : Nat} (h : entered moves ≤ n) :
    receiver moves ≠ .scope n := by
  have hpairwise := pairwise_openScopes moves
  unfold receiver
  cases hopen : openScopes moves with
  | nil =>
    intro heq
    cases heq
  | cons k ks =>
    rw [hopen] at hpairwise
    have hlt := (List.pairwise_cons.1 hpairwise).1 k List.mem_cons_self
    intro heq
    have hk : k = n := Receiver.scope.inj heq
    omega

inductive Entry
  | delivered (r : Receiver) (e : Event)
  /-- The counters went back to zero. -/
  | cleared

namespace Entry

/-- The events that a scope was given. -/
def received (n : Nat) (entries : List Entry) : List Event :=
  entries.filterMap fun
    | delivered (.scope k) e => if k = n then some e else none
    | _ => none

def applyTo (m : Metrics) : Entry → Metrics
  | delivered .counters e => m.add e
  | delivered (.scope _) _ => m
  | cleared => {}

/-- The counters with all that they were given. -/
def counted (m : Metrics) (entries : List Entry) : Metrics := entries.foldl applyTo m

def tallyTo (held : List Event) : Entry → List Event
  | delivered .counters e => held ++ [e]
  | delivered (.scope _) _ => held
  | cleared => []

/-- The events that the counters were given since they were last cleared, behind those they held before. -/
def tallied (held : List Event) (entries : List Entry) : List Event := entries.foldl tallyTo held

theorem counts_applyTo {m : Metrics} {held : List Event} (h : m.Counts held) (x : Entry) :
    (applyTo m x).Counts (tallyTo held x) := by
  cases x with
  | cleared => exact Metrics.counts_empty
  | delivered r e =>
    cases r with
    | counters => exact h.add e
    | scope n => exact h

/-- Counters stand at the totals over the events that they were given. -/
theorem counts_counted {m : Metrics} {held : List Event} (h : m.Counts held) (entries : List Entry) :
    (counted m entries).Counts (tallied held entries) := by
  induction entries generalizing m held with
  | nil => exact h
  | cons x entries ih => exact ih (counts_applyTo h x)

theorem received_append (n : Nat) (xs ys : List Entry) :
    received n (xs ++ ys) = received n xs ++ received n ys :=
  List.filterMap_append

theorem counted_append (m : Metrics) (xs ys : List Entry) :
    counted m (xs ++ ys) = counted (counted m xs) ys :=
  List.foldl_append

theorem received_delivered (n : Nat) (r : Receiver) (events : List Event) :
    received n (events.map (delivered r)) = if r = .scope n then events else [] := by
  induction events with
  | nil => simp [received]
  | cons e events ih =>
    rw [List.map_cons, ← List.singleton_append, received_append, ih]
    cases r with
    | counters => rfl
    | scope k => by_cases hk : k = n <;> simp [received, hk]

theorem counted_delivered (m : Metrics) (r : Receiver) (events : List Event) :
    counted m (events.map (delivered r)) = if r = .counters then events.foldl Metrics.add m else m := by
  induction events generalizing m with
  | nil => simp [counted]
  | cons e events ih =>
    rw [List.map_cons, ← List.singleton_append, counted_append, ih]
    cases r <;> rfl

end Entry

namespace Session

/-! ## What receivers hold -/

/-- All deliveries of moves in order. The latest move comes first. -/
def journal (s : Session) : List Move → List Entry
  | [] => []
  | .step .reset _ :: earlier => s.journal earlier ++ [.cleared]
  | .step x _ :: earlier =>
    s.journal earlier ++ ((s.after earlier.reverse).owed x).map (.delivered (Move.receiver earlier))
  | .enter :: earlier => s.journal earlier
  | .leave :: earlier => s.journal earlier

/-- The counters and every open scope hold what was delivered to them, in this order and nothing else. -/
structure Routed (s : Session) (moves : List Move) : Prop where
  counters : (s.after moves).metrics = Entry.counted s.metrics (s.journal moves.reverse)
  scopes : (s.after moves).scopes =
    (Move.openScopes moves.reverse).map fun n => Entry.received n (s.journal moves.reverse)

theorem journal_step (s : Session) {x : Step} {plain : x.isPlain = true} (hreset : x ≠ .reset)
    (earlier : List Move) :
    s.journal (.step x plain :: earlier) =
      s.journal earlier ++ ((s.after earlier.reverse).owed x).map (.delivered (Move.receiver earlier)) := by
  rw [journal]
  exact hreset

theorem received_journal_step (s : Session) {x : Step} {plain : x.isPlain = true} (hreset : x ≠ .reset)
    (earlier : List Move) (n : Nat) :
    Entry.received n (s.journal (.step x plain :: earlier)) =
      Entry.received n (s.journal earlier) ++
        if Move.receiver earlier = .scope n then (s.after earlier.reverse).owed x else [] := by
  rw [journal_step s hreset, Entry.received_append, Entry.received_delivered]

theorem counted_journal_step (s : Session) {x : Step} {plain : x.isPlain = true} (hreset : x ≠ .reset)
    (earlier : List Move) (m : Metrics) :
    Entry.counted m (s.journal (.step x plain :: earlier)) =
      if Move.receiver earlier = .counters then
        ((s.after earlier.reverse).owed x).foldl Metrics.add (Entry.counted m (s.journal earlier))
      else Entry.counted m (s.journal earlier) := by
  rw [journal_step s hreset, Entry.counted_append, Entry.counted_delivered]

/-- A scope that was not entered yet has no events. -/
theorem received_journal (s : Session) {moves : List Move} {n : Nat} (h : Move.entered moves ≤ n) :
    Entry.received n (s.journal moves) = [] := by
  induction moves with
  | nil => rfl
  | cons m earlier ih =>
    cases m with
    | enter => exact ih (Nat.le_of_succ_le h)
    | leave => exact ih h
    | step x plain =>
      by_cases hreset : x = .reset
      · subst hreset
        rw [journal, Entry.received_append, ih h]
        rfl
      · have hearlier : Move.entered earlier ≤ n := h
        rw [received_journal_step s hreset, ih hearlier, if_neg (Move.receiver_ne hearlier), List.append_nil]

theorem scopes_record (s : Session) (e : Event) :
    (s.record e).scopes = s.scopes.modifyHead (· ++ [e]) := by
  unfold record
  split
  · rename_i hscopes
    simp [hscopes]
  · rename_i hscopes
    simp [hscopes]

theorem scopes_recordAll (s : Session) (events : List Event) :
    (s.recordAll events).scopes = s.scopes.modifyHead (· ++ events) := by
  induction events generalizing s with
  | nil => cases hscopes : s.scopes <;> simp [recordAll, hscopes]
  | cons e events ih =>
    rw [recordAll, List.foldl_cons, ← recordAll, ih, scopes_record, List.modifyHead_modifyHead]
    cases s.scopes <;> simp

/-! ## Any moves -/

theorem Routed.enter {s : Session} {moves : List Move} (h : s.Routed moves) :
    s.Routed (moves ++ [.enter]) where
  counters := by
    rw [after_concat, List.reverse_concat]
    exact h.counters
  scopes := by
    rw [after_concat, List.reverse_concat, Move.openScopes, List.map_cons, journal,
      received_journal s (Nat.le_refl _), ← h.scopes]
    rfl

theorem Routed.leave {s : Session} {moves : List Move} (h : s.Routed moves) :
    s.Routed (moves ++ [.leave]) where
  counters := by
    rw [after_concat, List.reverse_concat, move, closeScope]
    split <;> exact h.counters
  scopes := by
    rw [after_concat, List.reverse_concat, Move.openScopes, List.map_tail, journal, ← h.scopes, move, closeScope]
    split
    · rename_i hscopes
      rw [hscopes]
      rfl
    · rename_i hscopes
      rw [hscopes]
      rfl

theorem Routed.reset {s : Session} {moves : List Move} (h : s.Routed moves) (plain : Step.isPlain .reset = true) :
    s.Routed (moves ++ [.step .reset plain]) where
  counters := by
    rw [after_concat, List.reverse_concat, journal, Entry.counted_append]
    rfl
  scopes := by
    rw [after_concat, List.reverse_concat]
    simp only [journal, Move.openScopes, Entry.received_append]
    refine h.scopes.trans (List.map_congr_left ?_)
    intro n _
    exact (List.append_nil _).symm

theorem scopes_run_of_plain (s : Session) {x : Step} (plain : x.isPlain = true) :
    (s.run x).1.scopes = s.scopes.modifyHead (· ++ s.owed x) := by
  by_cases hreset : x = .reset
  · subst hreset
    exact scopes_recordAll s []
  · rw [run_eq_recordAll plain hreset, scopes_recordAll]

theorem metrics_run_of_plain (s : Session) {x : Step} (plain : x.isPlain = true) (hreset : x ≠ .reset) :
    (s.run x).1.metrics =
      if s.scopes = [] then (s.owed x).foldl Metrics.add s.metrics else s.metrics := by
  rw [run_eq_recordAll plain hreset]
  split
  · exact metrics_recordAll_of_nil ‹_› _
  · exact metrics_recordAll_of_ne_nil ‹_› _

/-- Of the open scopes only the innermost receives what a step records. -/
theorem map_received_step (s : Session) {x : Step} {plain : x.isPlain = true} (hreset : x ≠ .reset)
    (earlier : List Move) :
    ((Move.openScopes earlier).map fun n => Entry.received n (s.journal (.step x plain :: earlier))) =
      ((Move.openScopes earlier).map fun n => Entry.received n (s.journal earlier)).modifyHead
        (· ++ (s.after earlier.reverse).owed x) := by
  cases hopen : Move.openScopes earlier with
  | nil => rfl
  | cons k ks =>
    -- The scopes around it were entered before it, so they have other numbers.
    have hpairwise := (List.pairwise_cons.1 (Move.pairwise_openScopes earlier)).2
    rw [hopen] at hpairwise
    have hothers : ∀ n ∈ ks, Receiver.scope k ≠ .scope n := by
      intro n hn heq
      have hlt := (List.pairwise_cons.1 hpairwise).1 n hn
      have hk : k = n := Receiver.scope.inj heq
      omega
    have hreceiver : Move.receiver earlier = .scope k := by rw [Move.receiver, hopen]
    simp only [received_journal_step s hreset, hreceiver, List.map_cons, List.modifyHead_cons, if_true]
    refine congrArg _ (List.map_congr_left ?_)
    intro n hn
    rw [if_neg (hothers n hn), List.append_nil]

/-- What a step records goes to the innermost open scope, or to the counters if none is open. -/
theorem Routed.step {s : Session} {moves : List Move} (h : s.Routed moves) {x : Step} {plain : x.isPlain = true}
    (hreset : x ≠ .reset) : s.Routed (moves ++ [.step x plain]) where
  counters := by
    have hnone : (s.after moves).scopes = [] ↔ Move.receiver moves.reverse = .counters := by
      rw [h.scopes, List.map_eq_nil_iff, Move.receiver_eq_counters]
    rw [after_concat, List.reverse_concat, move, metrics_run_of_plain _ plain hreset,
      counted_journal_step s hreset, List.reverse_reverse, ← h.counters]
    simp only [hnone]
  scopes := by
    rw [after_concat, List.reverse_concat, move, scopes_run_of_plain _ plain, Move.openScopes,
      map_received_step s hreset, List.reverse_reverse, ← h.scopes]

/-- After any moves, all events are where they were delivered. -/
theorem routed_after {s : Session} (hs : s.scopes = []) (moves : List Move) : s.Routed moves := by
  induction moves using List.reverseRecOn with
  | nil => exact ⟨rfl, hs⟩
  | append_singleton moves m ih =>
    cases m with
    | enter => exact ih.enter
    | leave => exact ih.leave
    | step x plain =>
      by_cases hreset : x = .reset
      · subst hreset
        exact ih.reset plain
      · exact ih.step hreset

end Session

/-! ## Whole scopes -/

namespace Step

mutual
/-- Whether the counters are cleared in a step. -/
def clears : Step → Bool
  | reset => true
  | scope steps => clearsAny steps
  | _ => false

/-- Whether they are cleared in one of the steps. -/
def clearsAny : List Step → Bool
  | [] => false
  | x :: xs => clears x || clearsAny xs
end

theorem clears_of_plain {x : Step} (plain : x.isPlain = true) (hreset : x ≠ .reset) : x.clears = false := by
  cases x with
  | reset => exact absurd rfl hreset
  | scope => cases plain
  | _ => rfl

end Step

namespace Session

/-- The events of the steps themselves and not of those in scopes of their own. -/
def heard (s : Session) : List Step → List Event
  | [] => []
  | x :: xs => s.owed x ++ (s.run x).1.heard xs

/-- A scope around the steps leaves the receivers outside as they were, but for counters that are cleared in
it. It gives the events of its own steps, in the order in which they were recorded. -/
structure Encloses (s : Session) (steps : List Step) : Prop where
  scopes : (s.run (.scope steps)).1.scopes = s.scopes
  metrics : (s.run (.scope steps)).1.metrics = if Step.clearsAny steps then {} else s.metrics
  answer : (s.run (.scope steps)).2 = .scope (s.openScope.runAll steps).2 (s.openScope.heard steps)

theorem run_scope (s : Session) (steps : List Step) :
    s.run (.scope steps) =
      ((s.openScope.runAll steps).1.closeScope.1,
        .scope (s.openScope.runAll steps).2 (s.openScope.runAll steps).1.closeScope.2) := by
  rw [run]

theorem closeScope_of_cons {s : Session} {events : List Event} {outer : List (List Event)}
    (h : s.scopes = events :: outer) : s.closeScope = ({ s with scopes := outer }, events) := by
  rw [closeScope, h]

mutual
theorem scopes_run (s : Session) : ∀ x : Step, (s.run x).1.scopes = s.scopes.modifyHead (· ++ s.owed x)
  | .scope steps => by
    have hinside : (s.openScope.runAll steps).1.scopes = s.openScope.heard steps :: s.scopes :=
      scopes_runAll s.openScope steps
    rw [run_scope, closeScope_of_cons hinside]
    exact scopes_recordAll s []
  | .start _ _ | .branch _ _ | .call _ _ | .refused _ | .inspect _ | .compose _ _ | .build _ _ | .report
  | .entityReport _ | .reset => scopes_run_of_plain s rfl

/-- The innermost scope gets the events of the steps, and the scopes around it get none. -/
theorem scopes_runAll (s : Session) :
    ∀ xs : List Step, (s.runAll xs).1.scopes = s.scopes.modifyHead (· ++ s.heard xs)
  | [] => scopes_recordAll s []
  | x :: xs => by
    rw [runAll_cons, scopes_runAll (s.run x).1 xs, scopes_run s x, List.modifyHead_modifyHead, heard]
    cases s.scopes <;> simp
end

theorem scopes_ne_nil_of_run {s : Session} (h : s.scopes ≠ []) (x : Step) : (s.run x).1.scopes ≠ [] := by
  rw [scopes_run]
  cases hscopes : s.scopes with
  | nil => exact absurd hscopes h
  | cons events outer => exact List.cons_ne_nil _ _

theorem metrics_run_of_ne_nil {s : Session} (h : s.scopes ≠ []) {x : Step} (plain : x.isPlain = true) :
    (s.run x).1.metrics = if x.clears then {} else s.metrics := by
  by_cases hreset : x = .reset
  · subst hreset
    rfl
  · rw [metrics_run_of_plain s plain hreset, if_neg h, Step.clears_of_plain plain hreset]
    rfl

mutual
theorem metrics_run {s : Session} (h : s.scopes ≠ []) :
    ∀ x : Step, (s.run x).1.metrics = if x.clears then {} else s.metrics
  | .scope steps => by
    have hinside : (s.openScope.runAll steps).1.metrics = if Step.clearsAny steps then {} else s.metrics :=
      metrics_runAll (s := s.openScope) (List.cons_ne_nil _ _) steps
    rw [run_scope, closeScope_of_cons (scopes_runAll s.openScope steps)]
    exact hinside
  | .start _ _ | .branch _ _ | .call _ _ | .refused _ | .inspect _ | .compose _ _ | .build _ _ | .report
  | .entityReport _ | .reset => metrics_run_of_ne_nil h rfl

/-- While a scope is open, the counters are cleared at most. -/
theorem metrics_runAll {s : Session} (h : s.scopes ≠ []) :
    ∀ xs : List Step, (s.runAll xs).1.metrics = if Step.clearsAny xs then {} else s.metrics
  | [] => rfl
  | x :: xs => by
    rw [runAll_cons, metrics_runAll (scopes_ne_nil_of_run h x) xs, metrics_run h x, Step.clearsAny]
    cases x.clears <;> simp
end

theorem encloses (s : Session) (steps : List Step) : s.Encloses steps := by
  have hinside : (s.openScope.runAll steps).1.scopes = s.openScope.heard steps :: s.scopes :=
    scopes_runAll s.openScope steps
  refine ⟨?_, ?_, ?_⟩
  · rw [run_scope, closeScope_of_cons hinside]
  · rw [run_scope, closeScope_of_cons hinside]
    exact metrics_runAll (List.cons_ne_nil _ _) steps
  · rw [run_scope, closeScope_of_cons hinside]

/-! ## No influence -/

/-- At every point of a session all events are with the one receiver they were delivered to, the counters at
the totals over theirs, and behind a scope the receivers around it are as before. In sessions that start from
the same drafts and differ in nothing but their observers and the counters, all steps on drafts have the same
answers. -/
theorem events_routed {s t : Session} (hs : s.scopes = []) (hdrafts : s.drafts = t.drafts) {xs ys : List Step}
    (hcore : Step.coreAll xs = Step.coreAll ys) :
    -- Every point of a run comes after some moves, and its end after all of them.
    (s.runAll xs).1 = s.after (Step.allMoves xs) ∧
      (∀ moves, s.Routed moves) ∧
      (∀ held moves, s.metrics.Counts held →
        (s.after moves).metrics.Counts (Entry.tallied held (s.journal moves.reverse))) ∧
      (∀ (u : Session) (steps : List Step), u.Encloses steps) ∧
      -- The steps on drafts are all there, each with its answer.
      (s.runAll xs).1.drafts = (t.runAll ys).1.drafts ∧
      (Step.exchangesAll xs (s.runAll xs).2).map Prod.fst = Step.coreAll xs ∧
      Step.exchangesAll xs (s.runAll xs).2 = Step.exchangesAll ys (t.runAll ys).2 := by
  obtain ⟨hends, hexchanges⟩ := runAll_core (Eq.refl s.drafts) xs
  obtain ⟨hends', hexchanges'⟩ := runAll_core hdrafts.symm ys
  refine ⟨runAll_eq_after s xs, routed_after hs, ?_, encloses, ?_, map_fst_exchangesAll s xs, ?_⟩
  · intro held moves hheld
    rw [(routed_after hs moves).counters]
    exact Entry.counts_counted hheld _
  · rw [hends, hends', hcore]
  · rw [hexchanges, hexchanges', hcore]

/-- A scope within a scope, with a reset in the inner one, and then a query composed outside of any. -/
theorem events_routed_nested :
    let s : Session := { drafts := SortedMap.empty.insert "q" ⟨⟨"film", []⟩, {}⟩ }
    let t : Session := { s with metrics := Metrics.add {} (.rejected "film" .limit) }
    let inner : List Step := [.call "q" (.take (-1)), .reset]
    let xs : List Step := [.scope [.compose "q" {}, .scope inner, .report], .compose "q" {}]
    let ys : List Step := [.compose "q" {}, .scope [.call "q" (.take (-1)), .compose "q" {}]]
    s.scopes = [] ∧ s.drafts = t.drafts ∧ Step.coreAll xs = Step.coreAll ys ∧
      s.journal (Step.allMoves xs).reverse =
        [.delivered (.scope 0) (.composed "film" 0 0), .delivered (.scope 1) (.rejected "film" .invalidArgument),
          .cleared, .delivered .counters (.composed "film" 0 0)] ∧
      (s.runAll xs).1.metrics = Metrics.add {} (.composed "film" 0 0) ∧
      (s.runAll xs).1.metrics.Counts [.composed "film" 0 0] ∧
      (t.run (.scope inner)).1.metrics = {} ∧
      Step.exchangesAll xs (s.runAll xs).2 = Step.exchangesAll ys (t.runAll ys).2 := by
  intro s t inner xs ys
  have hdrafts : s.drafts = t.drafts := rfl
  have hcore : Step.coreAll xs = Step.coreAll ys := rfl
  have hjournal : s.journal (Step.allMoves xs).reverse =
      [.delivered (.scope 0) (.composed "film" 0 0), .delivered (.scope 1) (.rejected "film" .invalidArgument),
        .cleared, .delivered .counters (.composed "film" 0 0)] := rfl
  obtain ⟨hends, hrouted, hcounts, hencloses, -, -, hsame⟩ := events_routed (s := s) rfl hdrafts hcore
  refine ⟨rfl, hdrafts, hcore, hjournal, ?_, ?_, (hencloses t inner).metrics, hsame⟩
  · rw [hends, (hrouted _).counters, hjournal]
    rfl
  · have hheld := hcounts [] (Step.allMoves xs) Metrics.counts_empty
    rw [hjournal] at hheld
    rw [hends]
    exact hheld

end Session

end TableQuery
