import SriovDra.Controller.Watches
import SriovDra.Driver.Publish

/-!
# The node agent's process

The system the controller and the driver run in: the informers and their cache, the controller's
work queue and its worker, and the periodic sync, over the node agent's state of
`SriovDra.Driver`.

* The cache holds the nodes' labels, by name, and the policy objects. A change of the cluster
  reaches the cache and, as a watch event, the controller's sources of `setupWithManager`, whose
  queue operations are applied to the work queue.
* The work queue is client-go's: `Add` puts a request on the queue unless it is already there,
  `AddAfter` puts it among the waiting requests, which join the queue when their delay has
  passed (`fire`, at any later point: the delays are not modelled).
* The worker takes the request at the head of the queue and runs `Reconcile` against the cache.
  As controller-runtime's `reconcileHandler` does, it requeues the request after a delay when the
  reconcile returns an error or a `RequeueAfter`.
* A tick of `periodicSyncLoop` runs `syncDevicesAndResources`, whose reconcile reads the same
  cache.

The cached client's reads fail only with `NotFound`, for a node missing from the cache. Actions
are atomic: how the worker's reconcile and a tick interleave is `SriovDra.Driver.Race`'s subject.

Results:
* `agent_run`: along any run, the node agent goes through exactly the reconciles of the worker and
  the ticks, each with the cache's answers: a run of `SriovDra.Driver.runAgent`.
* `fresh_run`: along any run from a started driver, the last device set handed to the kubelet
  plugin's helper is the snapshot's advertisable devices.

What the controller's watches and work queue guarantee is `SriovDra.Manager.Convergence`.
-/

namespace SriovDra.Manager

open SriovDra SriovDra.Controller SriovDra.DeviceState SriovDra.Driver

/-- A `SriovResourcePolicy` object in the informer's store. -/
structure PolicyObject where
  objectMeta : ObjectMeta
  spec : SriovResourcePolicy

/-- Whether `p` is the policy object `ns`/`name`. -/
def PolicyObject.isKey (ns name : String) (p : PolicyObject) : Bool :=
  p.objectMeta.«namespace» == ns && p.objectMeta.name == name

/-- The informer cache the controller's client reads. -/
structure Cache where
  /-- Every node's labels, by node name. -/
  nodes : GoMap String (GoMap String String)
  /-- The policy objects, one per namespace and name. -/
  policies : List PolicyObject

/-- A node's metadata: a node is cluster-scoped, so in no namespace. -/
def nodeMeta (name : String) (labels : GoMap String String) : ObjectMeta := ⟨name, "", labels⟩

namespace Cache

/-- The node `name` created, or its labels updated. -/
def setNode (c : Cache) (name : String) (labels : GoMap String String) : Cache :=
  { c with nodes := c.nodes.insert name labels }

/-- The node `name` deleted. -/
def deleteNode (c : Cache) (name : String) : Cache := { c with nodes := c.nodes.erase name }

/-- The policy object `ns`/`name`. -/
def findPolicy (c : Cache) (ns name : String) : Option PolicyObject :=
  c.policies.find? (PolicyObject.isKey ns name)

/-- The policy object `ns`/`name` deleted. -/
def deletePolicy (c : Cache) (ns name : String) : Cache :=
  { c with policies := c.policies.filter fun p => !p.isKey ns name }

/-- The policy object `obj` created or updated. -/
def setPolicy (c : Cache) (obj : PolicyObject) : Cache :=
  { c with policies :=
      obj :: (c.deletePolicy obj.objectMeta.«namespace» obj.objectMeta.name).policies }

/-- The informer's event for the node `name` now labelled `labels`. -/
def setNodeEvent (c : Cache) (name : String) (labels : GoMap String String) : WatchEvent :=
  match c.nodes.lookup name with
  | some old => .update (nodeMeta name old) (nodeMeta name labels)
  | none => .create (nodeMeta name labels)

/-- The informer's event for the policy object `obj` created or updated. -/
def setPolicyEvent (c : Cache) (obj : PolicyObject) : WatchEvent :=
  match c.findPolicy obj.objectMeta.«namespace» obj.objectMeta.name with
  | some old => .update old.objectMeta obj.objectMeta
  | none => .create obj.objectMeta

/-- `r.Get(ctx, types.NamespacedName{Name: r.nodeName}, node)` read from the cache. -/
def getNode (c : Cache) (name : String) : Except Error (GoMap String String) :=
  match c.nodes.lookup name with
  | some labels => .ok labels
  | none => .error ⟨"nodes \"" ++ name ++ "\" not found", true⟩

/-- `r.List(ctx, resourcePolicyList, client.InNamespace(ns))` read from the cache: the policies
of the namespace, and of every namespace for the empty one. -/
def listPolicies (c : Cache) (ns : String) : List SriovResourcePolicy :=
  (c.policies.filter fun p => ns == "" || p.objectMeta.«namespace» == ns).map (·.spec)

/-- What the cache answers the reconciler `r`; `republish` answers the publish of the republish
notification. -/
def api (c : Cache) (r : Reconciler) (republish : Option Error) : ApiEnv :=
  ⟨c.getNode r.nodeName, .ok (c.listPolicies r.«namespace»), republish⟩

end Cache

/-- The process: the node agent, the informer cache, and the controller's work queue, split into
the requests ready to be processed and those waiting for their delay. -/
structure State where
  agent : Agent
  cache : Cache
  queue : List Request
  waiting : List Request

/-- What happens next in the process. -/
inductive Action
  /-- The node `name` is created, or updated with the labels `labels`. -/
  | setNode (name : String) (labels : GoMap String String)
  | deleteNode (name : String)
  /-- The policy object is created or updated. -/
  | setPolicy (obj : PolicyObject)
  | deletePolicy (ns name : String)
  /-- The delay of the waiting request `req` has passed. -/
  | fire (req : Request)
  /-- The worker reconciles the request at the head of the queue; `republish` answers the
  republish notification. -/
  | process (republish : Option Error)
  /-- A tick of `periodicSyncLoop`. -/
  | tick (discovery : Except Error DeviceMap) (republish publish : Option Error)

/-- client-go's work queue `Add`: a request already there is not added twice. -/
def addTo (items : List Request) (req : Request) : List Request :=
  if req ∈ items then items else items ++ [req]

/-- One queue operation of a handler. -/
def applyOp (s : State) : QueueOp → State
  | .add req => { s with queue := addTo s.queue req }
  | .addAfter req _ => { s with waiting := addTo s.waiting req }

/-- A handler's queue operations, in order. -/
def applyOps (s : State) (ops : List QueueOp) : State := ops.foldl applyOp s

variable (consts : Consts) (r : Reconciler)

/-- One action. A change of the cluster updates the cache and hands the informer's event to the
controller's sources; the worker and the tick read the cache. -/
def step (s : State) : Action → State
  | .setNode name labels =>
    applyOps { s with cache := s.cache.setNode name labels }
      (enqueue (setupWithManager r) .node (s.cache.setNodeEvent name labels))
  | .deleteNode name =>
    match s.cache.nodes.lookup name with
    | some old =>
      applyOps { s with cache := s.cache.deleteNode name }
        (enqueue (setupWithManager r) .node (.delete (nodeMeta name old)))
    | none => s
  | .setPolicy obj =>
    applyOps { s with cache := s.cache.setPolicy obj }
      (enqueue (setupWithManager r) .sriovResourcePolicy (s.cache.setPolicyEvent obj))
  | .deletePolicy ns name =>
    match s.cache.findPolicy ns name with
    | some old =>
      applyOps { s with cache := s.cache.deletePolicy ns name }
        (enqueue (setupWithManager r) .sriovResourcePolicy (.delete old.objectMeta))
    | none => s
  | .fire req =>
    if req ∈ s.waiting then { s with waiting := s.waiting.erase req, queue := addTo s.queue req }
    else s
  | .process republish =>
    match s.queue with
    | [] => s
    | req :: rest =>
      let out := reconcile consts s.agent (s.cache.api r republish)
      { s with
        agent := out.1
        queue := rest
        waiting := if out.2.2.isSome ∨ 0 < out.2.1.requeueAfter then addTo s.waiting req
          else s.waiting }
  | .tick discovery republish publish =>
    { s with agent :=
        (syncDevicesAndResources consts s.agent ⟨discovery, s.cache.api r republish, publish⟩).1 }

/-- The actions one after another. -/
def run (s : State) (actions : List Action) : State := actions.foldl (step consts r) s

@[simp] theorem run_cons (s : State) (a : Action) (actions : List Action) :
    run consts r s (a :: actions) = run consts r (step consts r s a) actions := rfl

theorem run_append (s : State) (actions actions' : List Action) :
    run consts r s (actions ++ actions') = run consts r (run consts r s actions) actions' :=
  List.foldl_append ..

/-- The process when the controller starts: the agent, the synced cache, and the request the
channel source enqueues. -/
def initial (agent : Agent) (cache : Cache) : State :=
  applyOps ⟨agent, cache, [], []⟩ (Controller.start (setupWithManager r))

/-! ## Queue and cache -/

section Basics

variable {consts r}

theorem addTo_ne_nil (items : List Request) (req : Request) : addTo items req ≠ [] := by
  unfold addTo; split_ifs with h
  · exact List.ne_nil_of_mem h
  · simp

@[simp] theorem applyOps_nil (s : State) : applyOps s [] = s := rfl

/-- At start the sync request is queued, and nothing waits. -/
theorem initial_queue (a : Agent) (c : Cache) :
    (initial r a c).queue = [⟨r.«namespace», resourcePolicySyncEventName⟩] := rfl

@[simp] theorem applyOps_agent (s : State) (ops : List QueueOp) :
    (applyOps s ops).agent = s.agent := by
  induction ops generalizing s with
  | nil => rfl
  | cons op ops ih => cases op <;> exact ih _

@[simp] theorem applyOps_cache (s : State) (ops : List QueueOp) :
    (applyOps s ops).cache = s.cache := by
  induction ops generalizing s with
  | nil => rfl
  | cons op ops ih => cases op <;> exact ih _

theorem lookup_getNode {c : Cache} {name : String} {nodeLabels : GoMap String String}
    (h : c.nodes.lookup name = some nodeLabels) : c.getNode name = .ok nodeLabels := by
  simp [Cache.getNode, h]

/-- A node event of the cache is about a node, in no namespace. -/
theorem setNodeEvent_namespace (c : Cache) (name : String) (labels : GoMap String String) :
    (c.setNodeEvent name labels).object.«namespace» = "" := by
  unfold Cache.setNodeEvent; split <;> rfl

/-- Changing the policy objects of another namespace leaves the list of a non-empty one. -/
theorem listPolicies_deletePolicy_of_ne {ns ns' : String} (hns : ns ≠ "") (h : ns' ≠ ns)
    (c : Cache) (name : String) : (c.deletePolicy ns' name).listPolicies ns = c.listPolicies ns := by
  simp only [Cache.listPolicies, Cache.deletePolicy, List.filter_filter]
  congr 2
  funext p
  by_cases hp : p.objectMeta.«namespace» = ns
  · simp [PolicyObject.isKey, hp, Ne.symm h]
  · simp [hp, hns]

theorem listPolicies_setPolicy_of_ne {ns : String} (hns : ns ≠ "") (c : Cache) (obj : PolicyObject)
    (h : obj.objectMeta.«namespace» ≠ ns) : (c.setPolicy obj).listPolicies ns = c.listPolicies ns := by
  have hf : (ns == "" || obj.objectMeta.«namespace» == ns) = false := by simp [hns, h]
  rw [← listPolicies_deletePolicy_of_ne hns h c obj.objectMeta.name]
  simp only [Cache.listPolicies, Cache.setPolicy, List.filter_cons, hf]
  rfl

theorem findPolicy_namespace {c : Cache} {ns name : String} {old : PolicyObject}
    (h : c.findPolicy ns name = some old) : old.objectMeta.«namespace» = ns := by
  have := List.find?_some h
  simp only [PolicyObject.isKey, Bool.and_eq_true, beq_iff_eq] at this
  exact this.1

theorem setPolicyEvent_object (c : Cache) (obj : PolicyObject) :
    (c.setPolicyEvent obj).object = obj.objectMeta := by
  unfold Cache.setPolicyEvent; split <;> rfl

end Basics

/-! ## The agent runs the worker's reconciles and the ticks -/

/-- The node-agent event an action performs: the worker's reconcile, when a request is queued,
and the tick, each with the cache's answers. -/
def agentEvent (s : State) : Action → Option Event
  | .process republish => if s.queue = [] then none else some (.reconcile (s.cache.api r republish))
  | .tick discovery republish publish => some (.tick ⟨discovery, s.cache.api r republish, publish⟩)
  | _ => none

/-- The node-agent events of a run. -/
def agentEvents : State → List Action → List Event
  | _, [] => []
  | s, a :: actions => (agentEvent r s a).toList ++ agentEvents (step consts r s a) actions

variable {consts r}

theorem step_agent (s : State) (a : Action) :
    (step consts r s a).agent = runAgent consts s.agent (agentEvent r s a).toList := by
  cases a with
  | setNode => simp [step, agentEvent, runAgent]
  | deleteNode name => simp only [step]; split <;> simp [agentEvent, runAgent]
  | setPolicy => simp [step, agentEvent, runAgent]
  | deletePolicy ns name => simp only [step]; split <;> simp [agentEvent, runAgent]
  | fire req => simp only [step]; split_ifs <;> simp [agentEvent, runAgent]
  | process => simp only [step]; split <;> simp [agentEvent, runAgent, agentStep, *]
  | tick => simp [step, agentEvent, runAgent, agentStep]

/-- **The process refines the node agent**: along any run, the agent goes through the reconciles
the worker runs and the ticks, in order, each with the cache's answers at its time. -/
theorem agent_run (s : State) (actions : List Action) :
    (run consts r s actions).agent = runAgent consts s.agent (agentEvents consts r s actions) := by
  induction actions generalizing s with
  | nil => rfl
  | cons a actions ih =>
    calc (run consts r s (a :: actions)).agent
        = runAgent consts (step consts r s a).agent
            (agentEvents consts r (step consts r s a) actions) := ih _
      _ = runAgent consts s.agent (agentEvents consts r s (a :: actions)) := by
        simp only [step_agent, agentEvents, runAgent, List.foldl_append]

/-! ## Sample values -/

/-- The reconciler of the node `node1`, for the policies of `sriov-ns`. -/
def sampleReconciler : Reconciler := ⟨"node1", "sriov-ns"⟩

/-- The labels `sriov=true`. -/
def sriovLabels : GoMap String String := Finmap.singleton "sriov" "true"

/-- A policy of `sriov-ns` for the nodes labelled `sriov=true`: the devices of vendor `8086` get
`r`. -/
def labelledPolicy : PolicyObject :=
  ⟨⟨"p", "sriov-ns", ∅⟩, { nodeSelector := sriovLabels, configs := (vendorPolicy "r").configs }⟩

/-- The cluster at start-up: `node1` without labels, and the policy. -/
def sampleCache : Cache := ⟨Finmap.singleton "node1" ∅, [labelledPolicy]⟩

/-- The cluster at start-up with `node1` labelled `sriov=true`. -/
def labelledCache : Cache := ⟨Finmap.singleton "node1" sriovLabels, [labelledPolicy]⟩

/-- The driver `Start` returns over `devA`, its publish answered. -/
def startedAgent : Agent := (publishResources sampleConsts (startup sampleSnapshot) none).1

/-! ## The helper is never left with a stale set -/

/-- What the cache answers a tick's reconcile: the node's labels or `NotFound`, and the
policies. -/
theorem answered_api (c : Cache) (discovery : Except Error DeviceMap)
    (republish publish : Option Error) :
    TickEnv.Answered ⟨discovery, c.api r republish, publish⟩ := by
  refine ⟨fun err h => ?_, _, rfl⟩
  simp only [Cache.api, Cache.getNode] at h
  split at h
  · exact Except.noConfusion h
  · obtain rfl := Except.error.inj h
    rfl

theorem answered_agentEvents (s : State) (actions : List Action) :
    ∀ e ∈ agentEvents consts r s actions, e.Answered := by
  induction actions generalizing s with
  | nil => exact fun _ h => absurd h (List.not_mem_nil _)
  | cons a actions ih =>
    intro e he
    rcases List.mem_append.mp he with he | he
    · cases a with
      | process republish =>
        simp only [agentEvent] at he
        split at he
        · exact absurd he (List.not_mem_nil _)
        · obtain rfl := List.mem_singleton.mp he
          trivial
      | tick discovery republish publish =>
        obtain rfl := List.mem_singleton.mp he
        exact answered_api _ _ _ _
      | _ => exact absurd he (List.not_mem_nil _)
    · exact ih _ e he

theorem fresh_run_of {s : State} (h : Fresh consts s.agent) (hc : s.agent.policyController = true)
    (actions : List Action) : Fresh consts (run consts r s actions).agent := by
  rw [agent_run]
  exact fresh_runAgent_of h hc (answered_agentEvents s actions)

@[simp] theorem initial_agent (a : Agent) (c : Cache) : (initial r a c).agent = a :=
  applyOps_agent _ _

/-- **The helper is never left with a stale set.** From a driver `Start` returned, along any run of
the process, whatever the cluster does, whatever discovery finds and whatever the helper answers,
the last device set handed to the kubelet plugin's helper is the snapshot's advertisable
devices. -/
theorem fresh_run {D : DeviceMap} {publish : Option Error} {a : Agent}
    (hs : start consts (startup D) publish = .ok a) (c : Cache) (actions : List Action) :
    Fresh consts (run consts r (initial r a c) actions).agent :=
  fresh_run_of (by rw [initial_agent]; exact fresh_start hs)
    (by rw [initial_agent]; exact policyController_start hs) actions

theorem fresh_run_sample :
    start sampleConsts (startup sampleSnapshot) none = .ok startedAgent ∧
      Fresh sampleConsts (run sampleConsts sampleReconciler (initial sampleReconciler startedAgent
        labelledCache) [.process none, .tick (.ok sampleSnapshot) none none]).agent :=
  have hs : start sampleConsts (startup sampleSnapshot) none = .ok startedAgent := rfl
  ⟨hs, fresh_run hs _ _⟩

end SriovDra.Manager
