import TableQuery.Failure
import TableQuery.Number.BinaryFloat
/-!
# Metrics

Events of composing and refusing queries, and counters that add them up. A counter stops at the
largest 64-bit number. The time at which counting began, which a report shows beside the counters, is
left out: nothing is computed from it.
-/

namespace TableQuery

inductive Event
  | composed (entity : String) (parameters nodes : Nat)
  | rejected (entity : String) (kind : FailureClass)
  deriving DecidableEq

def Event.entity : Event → String
  | composed e _ _ => e
  | rejected e _ => e

/-! ## Counters -/

/-- Where counters stop. -/
def Counter.limit : Nat := 18446744073709551615

structure Counter where
  count : Nat
  count_le : count ≤ Counter.limit
  deriving DecidableEq

namespace Counter

def zero : Counter := ⟨0, Nat.zero_le _⟩

instance : Inhabited Counter := ⟨zero⟩

def add (c : Counter) (n : Nat) : Counter := ⟨min limit (c.count + n), Nat.min_le_left _ _⟩

/-- Stopping on the way makes no difference. -/
theorem add_add (c : Counter) (m n : Nat) : (c.add m).add n = c.add (m + n) := by
  simp only [add, mk.injEq]
  omega

end Counter

/-- Counters over all entities. -/
structure Totals where
  composeCalls : Counter := .zero
  parametersEmitted : Counter := .zero
  filterNodes : Counter := .zero
  unsupported : Counter := .zero
  typeMismatches : Counter := .zero
  invalidArguments : Counter := .zero
  resolutionFailures : Counter := .zero
  limitExceeded : Counter := .zero
  deriving DecidableEq

/-- Counters of one entity. -/
structure EntityTotals where
  composeCalls : Counter := .zero
  parametersEmitted : Counter := .zero
  rejections : Counter := .zero
  deriving DecidableEq

def Totals.add (t : Totals) : Event → Totals
  | .composed _ parameters nodes =>
    { t with
      composeCalls := t.composeCalls.add 1
      parametersEmitted := t.parametersEmitted.add parameters
      filterNodes := t.filterNodes.add nodes }
  | .rejected _ kind =>
    match kind with
    | .unsupported => { t with unsupported := t.unsupported.add 1 }
    | .typeMismatch => { t with typeMismatches := t.typeMismatches.add 1 }
    | .invalidArgument | .config => { t with invalidArguments := t.invalidArguments.add 1 }
    | .resolution => { t with resolutionFailures := t.resolutionFailures.add 1 }
    | .limit => { t with limitExceeded := t.limitExceeded.add 1 }

def EntityTotals.add (t : EntityTotals) : Event → EntityTotals
  | .composed _ parameters _ =>
    { t with
      composeCalls := t.composeCalls.add 1
      parametersEmitted := t.parametersEmitted.add parameters }
  | .rejected _ _ => { t with rejections := t.rejections.add 1 }

structure Metrics where
  totals : Totals := {}
  entities : SortedMap EntityTotals := .empty
  deriving DecidableEq

/-- The counters with one more event. -/
def Metrics.add (m : Metrics) (e : Event) : Metrics where
  totals := m.totals.add e
  entities := m.entities.insert e.entity (((m.entities.get? e.entity).getD {}).add e)

/-! ## Reports -/

structure EntitySummary where
  entity : String
  composeCalls : Nat
  rejections : Nat
  /-- Parameters per query composed, zero if none was. -/
  averageParameters : BinaryFloat .double
  deriving DecidableEq

def EntityTotals.summary (entity : String) (t : EntityTotals) : EntitySummary where
  entity
  composeCalls := t.composeCalls.count
  rejections := t.rejections.count
  averageParameters :=
    if t.composeCalls.count = 0 then .ofRatio false 0 1
    else .ofCounts t.parametersEmitted.count t.composeCalls.count

structure Report where
  totals : Totals
  entities : List EntitySummary
  deriving DecidableEq

/-- The counters as they stand, entities by name. -/
def Metrics.report (m : Metrics) : Report where
  totals := m.totals
  entities := m.entities.entries.map fun e => e.2.summary e.1

/-- The summary of an entity, if it recorded anything. -/
def Report.entity? (r : Report) (name : String) : Option EntitySummary :=
  r.entities.find? fun s => s.entity == name

end TableQuery
