import TableQuery.Builder
import TableQuery.Metrics
/-!
# Sessions

Queries under construction, composed and counted step by step. Every event goes to one receiver: the
innermost open scope, or the counters where no scope is open.

A scope is a stretch of steps during which another receiver stands in for the counters. The receiver that
was in place before is kept and comes back at its end, so the receivers in place and kept are a stack. A
receiver here is the list of the events it was given, and every scope brings an empty one of its own:
that a caller lets one receiver stand in for two scopes, or gives it other ways to take an event, is not
expressed.
-/

namespace TableQuery

/-- A query on its way, for one entity. -/
structure Draft where
  entity : Entity
  query : Query := {}

inductive Step
  | start (slot : String) (entity : Entity)
  /-- Copies a draft to another slot. -/
  | branch (slot target : String)
  | call (slot : String) (c : Call)
  /-- A call whose argument could not be built. It never reaches a draft. -/
  | refused (e : ExprError)
  | inspect (slot : String)
  | compose (slot : String) (limits : Limits)
  /-- The text and the parameters of a query, without an event. -/
  | build (slot : String) (limits : Limits)
  | report
  | entityReport (name : String)
  | reset
  /-- Steps whose events are captured. -/
  | scope (steps : List Step)

inductive Answer
  | done
  | query (q : Query)
  | text (s : String)
  | built (s : String) (parameters : List String)
  | report (r : Report)
  | summary (s : Option EntitySummary)
  | scope (answers : List Answer) (events : List Event)
  | refused (e : ExprError)
  | failed (e : QueryError)
  | noDraft (slot : String)

structure Session where
  drafts : SortedMap Draft := .empty
  metrics : Metrics := {}
  /-- The events of the open scopes, the innermost first. -/
  scopes : List (List Event) := []

namespace Session

def record (s : Session) (e : Event) : Session :=
  match s.scopes with
  | [] => { s with metrics := s.metrics.add e }
  | events :: outer => { s with scopes := (events ++ [e]) :: outer }

def openScope (s : Session) : Session := { s with scopes := [] :: s.scopes }

/-- Closes the innermost scope and gives its events. -/
def closeScope (s : Session) : Session × List Event :=
  match s.scopes with
  | [] => (s, [])
  | events :: outer => ({ s with scopes := outer }, events)

/-- Fails with an error that is recorded for the draft's entity. -/
def reject (s : Session) (d : Draft) (e : QueryError) : Session × Answer :=
  (s.record (.rejected d.entity.name e.failureClass), .failed e)

def withDraft (s : Session) (slot : String) (f : Draft → Session × Answer) : Session × Answer :=
  match s.drafts.get? slot with
  | some d => f d
  | none => (s, .noDraft slot)

def call (s : Session) (slot : String) (c : Call) : Session × Answer :=
  s.withDraft slot fun d =>
    match d.query.call c with
    | .ok q => ({ s with drafts := s.drafts.insert slot { d with query := q } }, .query q)
    | .error e => s.reject d e

def compose (s : Session) (slot : String) (limits : Limits) : Session × Answer :=
  s.withDraft slot fun d =>
    match d.query.parameterTexts d.entity limits with
    | .ok ps =>
      (s.record (.composed d.entity.name ps.length (d.query.predicate.elim 0 Expr.nodeCount)),
        .text ("&".intercalate ps))
    | .error e => s.reject d e

def build (s : Session) (slot : String) (limits : Limits) : Session × Answer :=
  s.withDraft slot fun d =>
    match d.query.compose d.entity limits, d.query.parameterTexts d.entity limits with
    | .ok text, .ok ps => (s, .built text ps)
    | .error e, _ | _, .error e => (s, .failed e)

mutual
def run (s : Session) : Step → Session × Answer
  | .start slot entity => ({ s with drafts := s.drafts.insert slot ⟨entity, {}⟩ }, .done)
  | .branch slot target =>
    s.withDraft slot fun d => ({ s with drafts := s.drafts.insert target d }, .done)
  | .call slot c => s.call slot c
  | .refused e => (s, .refused e)
  | .inspect slot => s.withDraft slot fun d => (s, .query d.query)
  | .compose slot limits => s.compose slot limits
  | .build slot limits => s.build slot limits
  | .report => (s, .report s.metrics.report)
  | .entityReport name => (s, .summary (s.metrics.report.entity? name))
  | .reset => ({ s with metrics := {} }, .done)
  | .scope steps =>
    let (s, answers) := runAll s.openScope steps
    let (s, events) := s.closeScope
    (s, .scope answers events)

/-- Runs steps in order. -/
def runAll (s : Session) : List Step → Session × List Answer
  | [] => (s, [])
  | step :: steps =>
    let (s, answer) := run s step
    let (s, answers) := runAll s steps
    (s, answer :: answers)
end

end Session

end TableQuery
