import SriovDra.GoMap

/-!
# The controller's watches

Model of `SetupWithManager` (`pkg/controller/resourcepolicycontroller.go`): which events of the
informers put which request on the controller's work queue.

The source builds the controller with one chain of builder calls:
`For(SriovResourcePolicy)`, `Watches(node, nodeEventHandler)`,
`Watches(SriovResourcePolicy, delayedEventHandler)`, `WithEventFilter(namespacePredicate)` and
`WatchesRawSource` of a channel holding one generic event, the initial sync. The handlers and the
predicate are translated from the source (`qHandler`, `delayedEventHandler`, `nodeEventHandler`,
`namespacePredicate`, `initialSyncEvent`); the chain is `setupWithManager`.

What the chain means is controller-runtime's, and is modelled after its builder: `Complete`
(`doWatch`) watches the `For` kind with `EnqueueRequestForObject` and each `Watches` pair with its
handler, and gives **every** one of them the `WithEventFilter` predicates; raw sources get none.
A handler runs when all its source's predicates pass. `labels.Equals` is apimachinery's loop.
Nodes are cluster-scoped, so a node's `GetNamespace()` is empty.

Results:
* `labelsEquals_iff`: `labels.Equals` is equality of the two label maps.
* `enqueue_node`: with a non-empty namespace, no node event enqueues anything; the namespace
  predicate stops every node event before `nodeEventHandler`.
* `enqueue_sriovResourcePolicy_eq`: a policy event in the namespace enqueues the object's own
  request at once and the sync request after a second; one elsewhere enqueues nothing.
* `start_setupWithManager`: at start the channel enqueues the sync request once.

Out of scope: the event handlers' logging, the `GroupVersionKind` of the watched objects (the
kind is a field of the source), and the informers' resync.
-/

namespace SriovDra.Controller

open SriovDra

/-- The metadata the handlers and the predicate read of a watched object (`GetName`,
`GetNamespace`, `GetLabels`). -/
structure ObjectMeta where
  name : String
  «namespace» : String
  labels : GoMap String String

/-- `reconcile.Request`, a `types.NamespacedName`. -/
structure Request where
  «namespace» : String
  name : String
deriving DecidableEq

/-- `event.TypedCreateEvent` and its siblings. -/
inductive WatchEvent
  | create (object : ObjectMeta)
  | update (objectOld objectNew : ObjectMeta)
  | delete (object : ObjectMeta)
  | generic (object : ObjectMeta)

/-- The object an event is about: the new one, for an update. -/
def WatchEvent.object : WatchEvent → ObjectMeta
  | .create object | .delete object | .generic object => object
  | .update _ objectNew => objectNew

/-- What a handler asks of the work queue. -/
inductive QueueOp
  /-- `q.Add(req)`. -/
  | add (req : Request)
  /-- `q.AddAfter(req, d)`, `d` in seconds. -/
  | addAfter (req : Request) (seconds : Nat)
deriving DecidableEq

/-- `handler.EventHandler`: the queue operations for one event. -/
abbrev Handler := WatchEvent → List QueueOp

/-- `predicate.Predicate`: whether an event goes on to the handler. -/
abbrev Predicate := WatchEvent → Bool

/-- The kinds of object the controller watches. -/
inductive Kind
  | node
  | sriovResourcePolicy
deriving DecidableEq

/-! ## controller-runtime -/

/-- `handler.EnqueueRequestForObject`: the request of the event's object, at once. -/
def enqueueRequestForObject : Handler := fun ev =>
  [.add ⟨ev.object.«namespace», ev.object.name⟩]

/-- `predicate.NewPredicateFuncs`: `filter` of the event's object. -/
def newPredicateFuncs (filter : ObjectMeta → Bool) : Predicate := fun ev => filter ev.object

/-- apimachinery's `labels.Equals`: the same size, and every label of the first one in the
second. -/
def labelsEquals (labels1 labels2 : GoMap String String) : Bool :=
  decide (GoMap.len labels1 = GoMap.len labels2 ∧
    ∀ e ∈ labels1.entries, labels2.lookup e.1 = some e.2)

/-- A source of the controller: a watch of a kind through the informers, with its handler and
predicates (`source.Kind`), or a channel of events with its handler (`source.Channel`). -/
inductive Source
  | kind (kind : Kind) (handler : Handler) (predicates : List Predicate)
  | channel (events : List WatchEvent) (handler : Handler)

/-- What `ctrl.NewControllerManagedBy(mgr)` collects before `Complete`. -/
structure Builder where
  forInput : Option Kind := none
  watchesInput : List (Kind × Handler) := []
  globalPredicates : List Predicate := []
  rawSources : List Source := []

/-- `For`. -/
def Builder.«for» (b : Builder) (kind : Kind) : Builder := { b with forInput := some kind }

/-- `Watches`. -/
def Builder.watches (b : Builder) (kind : Kind) (handler : Handler) : Builder :=
  { b with watchesInput := b.watchesInput ++ [(kind, handler)] }

/-- `WithEventFilter`. -/
def Builder.withEventFilter (b : Builder) (p : Predicate) : Builder :=
  { b with globalPredicates := b.globalPredicates ++ [p] }

/-- `WatchesRawSource`. -/
def Builder.watchesRawSource (b : Builder) (src : Source) : Builder :=
  { b with rawSources := b.rawSources ++ [src] }

/-- `Complete`, through `doWatch`: the `For` kind with `EnqueueRequestForObject` and each
`Watches` pair, each with all the `WithEventFilter` predicates; then the raw sources as given. -/
def Builder.complete (b : Builder) : List Source :=
  b.forInput.toList.map (fun kind => .kind kind enqueueRequestForObject b.globalPredicates) ++
    b.watchesInput.map (fun w => .kind w.1 w.2 b.globalPredicates) ++ b.rawSources

/-- What a source enqueues for an event of the informer of `kind`: its handler's operations when
the source watches that kind and all its predicates pass. -/
def Source.dispatch (kind : Kind) (ev : WatchEvent) : Source → List QueueOp
  | .kind k handler predicates => if k = kind ∧ predicates.all (· ev) then handler ev else []
  | .channel _ _ => []

/-- What a source enqueues when the controller starts: a channel's handler over its events. -/
def Source.start : Source → List QueueOp
  | .kind .. => []
  | .channel events handler => events.flatMap handler

/-- What the controller's sources enqueue for one event of the informer of `kind`. -/
def enqueue (sources : List Source) (kind : Kind) (ev : WatchEvent) : List QueueOp :=
  sources.flatMap (Source.dispatch kind ev)

/-- What they enqueue at start. -/
def start (sources : List Source) : List QueueOp :=
  sources.flatMap Source.start

/-! ## `SetupWithManager` -/

/-- The fields of `SriovResourcePolicyReconciler` fixed by `NewSriovResourcePolicyReconciler`:
the node it runs on and the namespace of its policies. -/
structure Reconciler where
  nodeName : String
  «namespace» : String

/-- `resourcePolicySyncEventName`. -/
def resourcePolicySyncEventName : String := "resource-policy-sync"

variable (r : Reconciler)

/-- `qHandler`: the sync request, after a second. -/
def qHandler : List QueueOp := [.addAfter ⟨r.«namespace», resourcePolicySyncEventName⟩ 1]

/-- `delayedEventHandler`: its `CreateFunc`, `UpdateFunc`, `DeleteFunc` and `GenericFunc` each
call `qHandler`. -/
def delayedEventHandler : Handler := fun _ => qHandler r

/-- `nodeEventHandler`: the create and the delete of the reconciler's node, and an update of it
that changes its labels, call `qHandler`. It sets no `GenericFunc`. -/
def nodeEventHandler : Handler
  | .create object => if object.name = r.nodeName then qHandler r else []
  | .update objectOld objectNew =>
    if objectNew.name = r.nodeName then
      if !labelsEquals objectOld.labels objectNew.labels then qHandler r else []
    else []
  | .delete object => if object.name = r.nodeName then qHandler r else []
  | .generic _ => []

/-- The event in `eventChan`: a generic event of a policy named `resourcePolicySyncEventName` in
the reconciler's namespace. -/
def initialSyncEvent : WatchEvent := .generic ⟨resourcePolicySyncEventName, r.«namespace», ∅⟩

/-- `namespacePredicate`. -/
def namespacePredicate : Predicate := newPredicateFuncs fun obj => obj.«namespace» = r.«namespace»

/-- `SetupWithManager`: the controller's sources. -/
def setupWithManager : List Source :=
  ({} : Builder)
    |>.«for» .sriovResourcePolicy
    |>.watches .node (nodeEventHandler r)
    |>.watches .sriovResourcePolicy (delayedEventHandler r)
    |>.withEventFilter (namespacePredicate r)
    |>.watchesRawSource (.channel [initialSyncEvent r] enqueueRequestForObject)
    |>.complete

/-! ## Which events enqueue what -/

/-- `labels.Equals` is equality of the label maps. -/
theorem labelsEquals_iff (labels1 labels2 : GoMap String String) :
    labelsEquals labels1 labels2 = true ↔ labels1 = labels2 := by
  simp only [labelsEquals, decide_eq_true_iff]
  constructor
  · rintro ⟨hlen, h⟩
    exact GoMap.eq_of_card_le_of_lookup hlen.ge fun k v hv =>
      h ⟨k, v⟩ (Finmap.mem_lookup_iff.mp hv)
  · rintro rfl
    exact ⟨rfl, fun e he => Finmap.mem_lookup_iff.mpr he⟩

/-- The controller's sources, as `Complete` leaves them. -/
theorem setupWithManager_eq : setupWithManager r =
    [.kind .sriovResourcePolicy enqueueRequestForObject [namespacePredicate r],
      .kind .node (nodeEventHandler r) [namespacePredicate r],
      .kind .sriovResourcePolicy (delayedEventHandler r) [namespacePredicate r],
      .channel [initialSyncEvent r] enqueueRequestForObject] := rfl

/-- **Node events never reach the node handler.** The namespace predicate, which
`WithEventFilter` gives the node watch too, compares the node's namespace, empty for a
cluster-scoped object, with the reconciler's: with a non-empty namespace no node event, of any
node and of any kind, enqueues a request. -/
theorem enqueue_node (hns : r.«namespace» ≠ "") (ev : WatchEvent)
    (hev : ev.object.«namespace» = "") : enqueue (setupWithManager r) .node ev = [] := by
  have hp : namespacePredicate r ev = false := by
    simpa [namespacePredicate, newPredicateFuncs, hev] using hns.symm
  simp [enqueue, setupWithManager_eq, Source.dispatch, hp]

/-- **What a policy event enqueues**: one in the reconciler's namespace, the object's own request
at once (`For`) and the sync request after a second (`delayedEventHandler`); one elsewhere,
nothing. -/
theorem enqueue_sriovResourcePolicy_eq (ev : WatchEvent) :
    enqueue (setupWithManager r) .sriovResourcePolicy ev =
      if ev.object.«namespace» = r.«namespace» then
        [.add ⟨r.«namespace», ev.object.name⟩,
          .addAfter ⟨r.«namespace», resourcePolicySyncEventName⟩ 1]
      else [] := by
  by_cases h : ev.object.«namespace» = r.«namespace» <;>
    simp [enqueue, setupWithManager_eq, Source.dispatch, namespacePredicate, newPredicateFuncs,
      enqueueRequestForObject, delayedEventHandler, qHandler, h]

/-- At start the channel enqueues the sync request, at once. -/
theorem start_setupWithManager :
    start (setupWithManager r) = [.add ⟨r.«namespace», resourcePolicySyncEventName⟩] := rfl

end SriovDra.Controller
