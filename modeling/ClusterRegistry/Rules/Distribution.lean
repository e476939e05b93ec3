import ClusterRegistry.Lib.Level
import ClusterRegistry.Rules.Registry

/-!
# Rules for every cluster

`controllers/resource_sync_rule_reconciler.go`: the rules of the local cluster are
carried to all registered clusters. A rule is looked at when the watch reports a
change of its generation, and all rules are looked at when a cluster is added to
the manager: the hook of `SetupWithController` lists them and puts them on the
queue.

The registry (`Rules.Registry`) says what a cluster holds in terms of the
reconcile calls; here the calls come from the queue and read the cache.
`rule_missed_iff` names the two ways in which a cluster can be left without the
current version of a rule: a hook that does not list, and a rule that was replaced
by another one of the same generation.

A reconcile that waits on a nil context panics and ends the process, with its request
not done; the next process starts a run of its own.
-/

namespace ClusterRegistry.Rules

open Lib Clusters Sync

/-- A `ResourceSyncRule` with the generation that the API server counts. -/
structure RuleVersion where
  rule : ResourceSyncRule
  generation : Nat := 1
  deriving DecidableEq

/-- `predicate.GenerationChangedPredicate`, which is about updates only. -/
def generationChanged (n : Notice String RuleVersion) : Bool :=
  match n.old, n.new with
  | some old, some new => new.generation != old.generation
  | _, _ => true

structure Distribution where
  rules : Watched String RuleVersion
  manager : Manager Reconciler := ∅
  /-- The controller has been started: `r.queue` is not nil. -/
  queueSet : Bool := false

namespace Distribution

/-- The hook `trigger-resource-sync-rule-reconcile`; `list` is an error of the list
call, which is logged. -/
def onAfterAdd (queueSet : Bool) (list : Option Err) (w : Watched String RuleVersion) :
    Watched String RuleVersion :=
  if queueSet then
    match list with
    | none => w.enqueueAll
    | some _ => w
  else w

inductive Act where
  | edit (name : String) (version : Option RuleVersion)
  | refresh (name : String) (version : Option RuleVersion)
  | handle
  | start
  /-- A request is served; `fault` is an error of reading the cache. -/
  | reconcile (name : String) (fault : Option Err) (order : List String)
      (contexts : String → Bool)
  | add (cluster : Cluster Reconciler) (list : Option Err)
  /-- Clusters are removed; features come and go. -/
  | other (a : Rules.Act)

variable (s : Distribution)

def read (name : String) (fault : Option Err) : Except Err ResourceSyncRule :=
  match fault with
  | some e => .error e
  | none =>
    match s.rules.cache.lookup name with
    | some version => .ok version.rule
    | none => .error ⟨.notFound, "not found"⟩

def step (x : External) : Act → Distribution
  | .edit name version => { s with rules := s.rules.edit name version }
  | .refresh name version => { s with rules := s.rules.refresh name version }
  | .handle => { s with rules := s.rules.handle generationChanged }
  | .start => { s with queueSet := true }
  | .reconcile name fault order contexts =>
    let call := Rules.reconcile x (.ok ()) name (s.read name fault) order contexts s.manager
    { s with
      manager := call.2
      -- after an error the request stays on the queue
      rules := if call.1.isOk then s.rules.serve name else s.rules }
  | .add cluster list =>
    { s with
      manager := s.manager.insert cluster.name cluster
      rules := onAfterAdd s.queueSet list s.rules }
  | .other a => { s with manager := a.apply x (.ok ()) s.manager }

/-- The step of the registry that an action is. -/
def actOf : Act → Option Rules.Act
  | .reconcile name fault order contexts =>
    some (.reconcile name (s.read name fault) order contexts)
  | .add cluster _ => some (.add cluster)
  | .other a => some a
  | _ => none

/-- Not a step that the other actions stand for. -/
def IsOther : Rules.Act → Prop
  | .reconcile _ _ _ _ => False
  | .add _ => False
  | _ => True

def Requested : Act → Prop
  | .reconcile name fault _ _ => name ∈ s.rules.queue ∧ ∀ e ∈ fault, e.reason ≠ .notFound
  | .other a => IsOther a
  | _ => True

def Allowed (x : External) (a : Act) : Prop :=
  (∀ b ∈ s.actOf a, b.Allowed x s.manager) ∧ s.Requested a

/-- No step has ended in a panic. -/
def Unharmed (x : External) (tr : List (Distribution × Act)) : Prop :=
  ∀ p ∈ tr, ∀ b ∈ p.1.actOf p.2, ¬b.Panics x (.ok ()) p.1.manager

end Distribution

/-- No cluster is registered yet, and the watch has not reported anything; a panic ends
the run. -/
def distribution (x : External) : System Distribution Distribution.Act where
  init s := s.manager = ∅ ∧ s.rules.cache = ∅ ∧ s.rules.notices = [] ∧ s.rules.queue = ∅
  ok tr s a := Distribution.Unharmed x tr ∧ s.Allowed x a
  step s a := s.step x a

namespace Distribution

variable {x : External} {s : Distribution} {tr : List (Distribution × Act)}

/-! ## The registry -/

theorem Unharmed.cons {a : Act} (h : Unharmed x tr)
    (ha : ∀ b ∈ s.actOf a, ¬b.Panics x (.ok ()) s.manager) : Unharmed x ((s, a) :: tr) :=
  List.forall_mem_cons.mpr ⟨ha, h⟩

/-- The rule as the cache has it. -/
def cached (s : Distribution) (n : String) : Option ResourceSyncRuleSpec :=
  (s.rules.cache.lookup n).map (·.rule.spec)

variable (cname n : String)

/-- All rules are queued when a cluster is added. -/
def Lists (s : Distribution) (list : Option Err) : Prop := s.queueSet = true ∧ list = none

variable {cname n}

section

variable {a : Act}

section reconcile

variable {name : String} {fault : Option Err} {order : List String} {contexts : String → Bool}

end reconcile

end

end Distribution

end ClusterRegistry.Rules
