import Mathlib.Algebra.BigOperators.Group.List.Basic
import Mathlib.Algebra.Ring.Nat
import TableQuery.Metrics
/-!
# Counters as totals of events

Counters that are moved event by event stand at the totals over all the events, or where counters stop
(`Metrics.Counts`). As long as none of them has stopped, what the entities count adds up to what is counted
in all (`Metrics.Counts.balanced`).
-/

namespace TableQuery

/-! ## One counter -/

namespace Counter

/-- A counter that was asked to count so far. -/
def upTo (n : Nat) : Counter := ⟨min limit n, Nat.min_le_left _ _⟩

theorem upTo_eq_add (n : Nat) : upTo n = zero.add n := by simp [upTo, add, zero]

theorem add_upTo (m n : Nat) : (upTo m).add n = upTo (m + n) := by
  rw [upTo_eq_add, upTo_eq_add, add_add]

theorem count_upTo {n : Nat} (h : n ≤ limit) : (upTo n).count = n := Nat.min_eq_right h

end Counter

/-! ## What events weigh -/

/-- The classes that each counter of errors stands for. -/
def FailureClass.groups : List (List FailureClass) :=
  [[unsupported], [typeMismatch], [invalidArgument, config], [resolution], [limit]]

namespace Event

def compositions : Event → Nat
  | composed _ _ _ => 1
  | rejected _ _ => 0

def parameters : Event → Nat
  | composed _ parameters _ => parameters
  | rejected _ _ => 0

def nodes : Event → Nat
  | composed _ _ nodes => nodes
  | rejected _ _ => 0

/-- One for an error of these classes. -/
def rejections (kinds : List FailureClass) : Event → Nat
  | composed _ _ _ => 0
  | rejected _ kind => if kind ∈ kinds then 1 else 0

theorem rejections_all (e : Event) :
    e.rejections FailureClass.all = (FailureClass.groups.map fun kinds => e.rejections kinds).sum := by
  cases e with
  | composed entity parameters nodes => rfl
  | rejected entity kind => cases kind <;> rfl

/-- The exact total over events. -/
def total (f : Event → Nat) (events : List Event) : Nat := (events.map f).sum

@[simp]
theorem total_nil (f : Event → Nat) : total f [] = 0 := rfl

@[simp]
theorem total_cons (f : Event → Nat) (e : Event) (events : List Event) :
    total f (e :: events) = f e + total f events := rfl

theorem total_concat (f : Event → Nat) (events : List Event) (e : Event) :
    total f (events ++ [e]) = total f events + f e := by
  simp [total]

theorem total_rejections_all (events : List Event) :
    total (rejections FailureClass.all) events =
      (FailureClass.groups.map fun kinds => total (rejections kinds) events).sum := by
  induction events with
  | nil => rfl
  | cons e events ih =>
    simp only [total_cons]
    rw [List.sum_map_add, ← rejections_all, ih]

/-- The events of one entity. -/
def of (name : String) (events : List Event) : List Event := events.filter fun e => e.entity = name

theorem of_concat (name : String) (events : List Event) (e : Event) :
    of name (events ++ [e]) = of name events ++ if e.entity = name then [e] else [] := by
  by_cases heq : e.entity = name <;> simp [of, heq]

theorem total_of_le (f : Event → Nat) (name : String) (events : List Event) :
    total f (of name events) ≤ total f events := by
  induction events with
  | nil => exact Nat.le_refl _
  | cons e events ih =>
    rw [of, List.filter_cons]
    split
    · exact Nat.add_le_add_left ih (f e)
    · exact Nat.le_trans ih (Nat.le_add_left _ (f e))

theorem sum_indicator {keys : List String} (hnodup : keys.Nodup) (name : String) (n : Nat) :
    (keys.map fun k => if name = k then n else 0).sum = if name ∈ keys then n else 0 := by
  induction keys with
  | nil => rfl
  | cons k keys ih =>
    obtain ⟨hk, htail⟩ := List.nodup_cons.1 hnodup
    rw [List.map_cons, List.sum_cons, ih htail]
    by_cases heq : name = k
    · subst heq
      simp [hk]
    · simp [heq]

/-- Every event is one of one entity. -/
theorem sum_total_of (f : Event → Nat) {keys : List String} (hnodup : keys.Nodup) {events : List Event}
    (h : ∀ e ∈ events, e.entity ∈ keys) :
    (keys.map fun k => total f (of k events)).sum = total f events := by
  induction events with
  | nil => simp [of]
  | cons e events ih =>
    have hsplit (k : String) : total f (of k (e :: events)) =
        (if e.entity = k then f e else 0) + total f (of k events) := by
      by_cases heq : e.entity = k <;> simp [of, heq]
    rw [List.forall_mem_cons] at h
    simp only [hsplit]
    rw [List.sum_map_add, sum_indicator hnodup, if_pos h.1, ih h.2, total_cons]

end Event

/-! ## All counters -/

def Totals.ofEvents (events : List Event) : Totals where
  composeCalls := .upTo (Event.total Event.compositions events)
  parametersEmitted := .upTo (Event.total Event.parameters events)
  filterNodes := .upTo (Event.total Event.nodes events)
  unsupported := .upTo (Event.total (Event.rejections [.unsupported]) events)
  typeMismatches := .upTo (Event.total (Event.rejections [.typeMismatch]) events)
  invalidArguments := .upTo (Event.total (Event.rejections [.invalidArgument, .config]) events)
  resolutionFailures := .upTo (Event.total (Event.rejections [.resolution]) events)
  limitExceeded := .upTo (Event.total (Event.rejections [.limit]) events)

/-- The counters of errors. -/
def Totals.rejections (t : Totals) : List Counter :=
  [t.unsupported, t.typeMismatches, t.invalidArguments, t.resolutionFailures, t.limitExceeded]

theorem Totals.rejections_ofEvents (events : List Event) :
    (ofEvents events).rejections =
      FailureClass.groups.map fun kinds => .upTo (Event.total (Event.rejections kinds) events) := rfl

theorem Totals.ofEvents_concat (events : List Event) (e : Event) :
    ofEvents (events ++ [e]) = (ofEvents events).add e := by
  cases e with
  | composed entity parameters nodes =>
    simp [ofEvents, add, Event.total_concat, Counter.add_upTo, Event.compositions, Event.parameters,
      Event.nodes, Event.rejections]
  | rejected entity kind =>
    cases kind <;>
      simp [ofEvents, add, Event.total_concat, Counter.add_upTo, Event.compositions, Event.parameters,
        Event.nodes, Event.rejections]

def EntityTotals.ofEvents (events : List Event) : EntityTotals where
  composeCalls := .upTo (Event.total Event.compositions events)
  parametersEmitted := .upTo (Event.total Event.parameters events)
  rejections := .upTo (Event.total (Event.rejections FailureClass.all) events)

theorem EntityTotals.ofEvents_concat (events : List Event) (e : Event) :
    ofEvents (events ++ [e]) = (ofEvents events).add e := by
  cases e with
  | composed entity parameters nodes =>
    simp [ofEvents, add, Event.total_concat, Counter.add_upTo, Event.compositions, Event.parameters,
      Event.rejections]
  | rejected entity kind =>
    have hmem : kind ∈ FailureClass.all := by cases kind <;> decide
    simp [ofEvents, add, Event.total_concat, Counter.add_upTo, Event.compositions, Event.parameters,
      Event.rejections, hmem]

namespace Metrics

/-- The counters stand at the totals over the events. Only entities with an event have counters. -/
structure Counts (m : Metrics) (events : List Event) : Prop where
  totals : m.totals = .ofEvents events
  entities : ∀ name, m.entities.get? name =
    if Event.of name events = [] then none else some (.ofEvents (Event.of name events))

theorem counts_empty : Counts {} [] where
  totals := rfl
  entities _ := rfl

theorem Counts.add {m : Metrics} {events : List Event} (h : m.Counts events) (e : Event) :
    (m.add e).Counts (events ++ [e]) where
  totals := by rw [Totals.ofEvents_concat, ← h.totals]; rfl
  entities name := by
    have hheld : (m.entities.get? e.entity).getD {} = .ofEvents (Event.of e.entity events) := by
      rw [h.entities]
      split
      · rename_i hnil
        rw [hnil]
        rfl
      · rfl
    rw [Metrics.add, SortedMap.get?_insert, hheld, ← EntityTotals.ofEvents_concat, h.entities,
      Event.of_concat]
    by_cases heq : name = e.entity
    · simp [heq]
    · simp [heq, Ne.symm heq]

theorem Counts.addAll {m : Metrics} {events : List Event} (h : m.Counts events) (more : List Event) :
    (more.foldl Metrics.add m).Counts (events ++ more) := by
  induction more generalizing m events with
  | nil => simpa using h
  | cons e more ih => simpa using ih (h.add e)

/-! ## Sums over entities -/

theorem Counts.sum_entities {m : Metrics} {events : List Event} (h : m.Counts events)
    {counter : EntityTotals → Counter} {f : Event → Nat}
    (hcounter : ∀ es, counter (.ofEvents es) = .upTo (Event.total f es))
    (hle : ∀ name, Event.total f (Event.of name events) ≤ Counter.limit) :
    (m.entities.entries.map fun a => (counter a.2).count).sum = Event.total f events := by
  have hnodup : (m.entities.entries.map Prod.fst).Nodup := List.pairwise_map.2 m.entities.pairwise_ne
  have hmem : ∀ e ∈ events, e.entity ∈ m.entities.entries.map Prod.fst := by
    intro e he
    have hne : Event.of e.entity events ≠ [] := by
      apply List.ne_nil_of_mem (a := e)
      simp [Event.of, he]
    have hget := h.entities e.entity
    rw [if_neg hne] at hget
    exact List.mem_map_of_mem (f := Prod.fst) (SortedMap.mem_entries_iff (a := (e.entity, _)).2 hget)
  have hentry : ∀ a ∈ m.entities.entries, (counter a.2).count = Event.total f (Event.of a.1 events) := by
    intro a ha
    have hget := SortedMap.mem_entries_iff.1 ha
    rw [h.entities] at hget
    split at hget
    · cases hget
    · rw [← Option.some.inj hget, hcounter, Counter.count_upTo (hle a.1)]
  rw [List.map_congr_left hentry, ← Event.sum_total_of f hnodup hmem, List.map_map]
  rfl

/-- No counter has stopped before the exact total. -/
structure Unsaturated (events : List Event) : Prop where
  compositions : Event.total Event.compositions events ≤ Counter.limit
  parameters : Event.total Event.parameters events ≤ Counter.limit
  nodes : Event.total Event.nodes events ≤ Counter.limit
  rejections : ∀ kinds ∈ FailureClass.groups, Event.total (Event.rejections kinds) events ≤ Counter.limit
  entityRejections : ∀ name,
    Event.total (Event.rejections FailureClass.all) (Event.of name events) ≤ Counter.limit

/-- What the entities count adds up to what is counted in all. -/
structure Balanced (m : Metrics) : Prop where
  composeCalls : (m.entities.entries.map fun a => a.2.composeCalls.count).sum = m.totals.composeCalls.count
  parametersEmitted :
    (m.entities.entries.map fun a => a.2.parametersEmitted.count).sum = m.totals.parametersEmitted.count
  rejections :
    (m.entities.entries.map fun a => a.2.rejections.count).sum = (m.totals.rejections.map Counter.count).sum

theorem Counts.balanced {m : Metrics} {events : List Event} (h : m.Counts events) (hu : Unsaturated events) :
    m.Balanced where
  composeCalls := by
    have hle (name : String) := Nat.le_trans (Event.total_of_le _ name events) hu.compositions
    rw [h.sum_entities (fun _ => rfl) hle, h.totals]
    exact (Counter.count_upTo hu.compositions).symm
  parametersEmitted := by
    have hle (name : String) := Nat.le_trans (Event.total_of_le _ name events) hu.parameters
    rw [h.sum_entities (fun _ => rfl) hle, h.totals]
    exact (Counter.count_upTo hu.parameters).symm
  rejections := by
    rw [h.sum_entities (fun _ => rfl) hu.entityRejections, h.totals, Totals.rejections_ofEvents, List.map_map,
      Event.total_rejections_all]
    congr 1
    apply List.map_congr_left
    intro kinds hkinds
    exact (Counter.count_upTo (hu.rejections kinds hkinds)).symm

end Metrics

end TableQuery
