import SriovDra.Manager

/-!
# Convergence of the controller

What the watches of `SetupWithManager` and the work queue make of the node agent's process
(`SriovDra.Manager`): when does the agent agree with what the cache says of the cluster?

The agent *agrees with the cache* (`InSync`) when the node has no object, or the active policy is
the node's unique matching policy and, unless several match, the tags are its mapping. A policy
change in the reconciler's namespace always queues a request, a worker step leaves the agent in
agreement whatever the helper answers, and a tick's reconcile reads the same cache. A node change
queues nothing: the namespace predicate drops every node event.

Results:
* `inSync_of_quiescent`: no policy change is lost. From start-up, along any run that never gives
  the node labels it does not have, whenever no request is queued or waiting the agent agrees with
  the cache.
* `published_of_quiescent`: so, once the process is quiet and at most one policy matches the node,
  the last set handed to the helper is exactly the snapshot's devices the matching policy selects.
* `relabel_lost`: the hypothesis is needed. A node labelled after start-up so that a policy
  selects it is never reconciled: nothing is queued, and ticks over the same hardware do not help.
* `run_nodeChanges`: with a non-empty namespace, node changes never enqueue a request and never
  touch the agent.
* `quiescent_drain`, `inSync_drain`: with the node in the cache and the helper answering, firing
  the waiting requests and letting the worker run empties the queue, and then the agent agrees with
  the cache.
-/

namespace SriovDra.Manager

open SriovDra SriovDra.Controller SriovDra.DeviceState SriovDra.Driver

variable {consts : Consts} {r : Reconciler}

/-! ## No policy change is lost -/

variable (consts r) in
/-- The agent agrees with what the cache says of the cluster: the node has no object, or the
active policy is the node's unique match and, unless several match, the tags are its mapping. -/
def InSync (c : Cache) (a : Agent) : Prop :=
  ∀ nodeLabels, c.nodes.lookup r.nodeName = some nodeLabels →
    a.currentResourcePolicy = uniqueMatch nodeLabels (c.listPolicies r.«namespace») ∧
    ((matchingPolicies nodeLabels (c.listPolicies r.«namespace»)).length ≤ 1 →
      TagsMatchPolicy consts a)

/-- No request is queued or waiting. -/
def State.Quiescent (s : State) : Prop := s.queue = [] ∧ s.waiting = []

instance (s : State) : Decidable s.Quiescent := inferInstanceAs (Decidable (_ ∧ _))

variable (consts r) in
/-- What every run that never relabels the node keeps. -/
structure NoLostUpdate (s : State) : Prop where
  /-- The driver holds the reconciler. -/
  policyController : s.agent.policyController = true
  /-- When nothing is queued or waiting, the agent agrees with the cache. -/
  inSync : s.Quiescent → InSync consts r s.cache s.agent

variable (r) in
/-- The action gives the reconciler's node labels the cache does not hold for it: it creates the
node or changes its labels. -/
def Action.Relabels (s : State) : Action → Prop
  | .setNode name labels => name = r.nodeName ∧ s.cache.nodes.lookup name ≠ some labels
  | _ => False

instance Action.decRelabels (s : State) : (a : Action) → Decidable (a.Relabels r s)
  | .setNode _ _ => inferInstanceAs (Decidable (_ ∧ _))
  | .deleteNode _ | .setPolicy _ | .deletePolicy _ _ | .fire _ | .process _ | .tick _ _ _ =>
    isFalse id

variable (consts r) in
/-- No action of the run from `s` relabels the reconciler's node. -/
def NeverRelabels : State → List Action → Prop
  | _, [] => True
  | s, a :: actions => ¬ a.Relabels r s ∧ NeverRelabels (step consts r s a) actions

instance decNeverRelabels : (s : State) → (actions : List Action) →
    Decidable (NeverRelabels consts r s actions)
  | _, [] => isTrue trivial
  | s, a :: actions =>
    have := decNeverRelabels (step consts r s a) actions
    inferInstanceAs (Decidable (¬ _ ∧ _))

section InSync

variable {c c' : Cache} {a : Agent}

theorem InSync.of_cache (h : InSync consts r c a)
    (hn : c'.nodes.lookup r.nodeName = c.nodes.lookup r.nodeName)
    (hp : c'.listPolicies r.«namespace» = c.listPolicies r.«namespace») : InSync consts r c' a := by
  unfold InSync; rwa [hn, hp]

theorem inSync_of_lookup_eq_none (h : c.nodes.lookup r.nodeName = none) : InSync consts r c a :=
  fun _ hl => Option.noConfusion (h.symm.trans hl)

/-- **A reconcile against the cache agrees with it**, whatever the helper answers. -/
theorem inSync_reconcile (c : Cache) (a : Agent) (republish : Option Error) :
    InSync consts r c (reconcile consts a (c.api r republish)).1 := by
  intro nodeLabels hl
  have hn : (c.api r republish).node = .ok nodeLabels := lookup_getNode hl
  by_cases hm : (matchingPolicies nodeLabels (c.listPolicies r.«namespace»)).length ≤ 1
  · rw [reconcile_of_le_one hn rfl hm]
    exact ⟨updateDeviceResourceNames_currentResourcePolicy .., fun _ =>
      tagsMatchPolicy_applyResourcePolicyToDevices _ _⟩
  · rw [reconcile_of_two_le hn rfl (by omega), uniqueMatch_of_two_le (by omega)]
    exact ⟨rfl, fun h => absurd h hm⟩

theorem inSync_publishResources (h : InSync consts r c a) (e : Option Error) :
    InSync consts r c (publishResources consts a e).1 := h

/-- A tick whose reconcile reads the cache keeps the agent in agreement with it. -/
theorem inSync_syncDevicesAndResources (hc : a.policyController = true)
    (h : InSync consts r c a) (discovery : Except Error DeviceMap) (republish publish : Option Error) :
    InSync consts r c
      (syncDevicesAndResources consts a ⟨discovery, c.api r republish, publish⟩).1 := by
  have hr : ∀ D, InSync consts r c
      (reapplyPolicies consts (setAllocatableDevices a D) (c.api r republish)).1 := fun D => by
    rw [reapplyPolicies_fst, setAllocatableDevices_policyController, if_pos hc]
    exact inSync_reconcile _ _ _
  rcases syncDevicesAndResources_fst_cases consts a ⟨discovery, c.api r republish, publish⟩ with
    hs | ⟨D, -, -, hs | hs⟩ <;> rw [hs]
  exacts [h, hr D, inSync_publishResources (hr D) _]

end InSync

section Steps

variable {s : State}

theorem step_setNode (hns : r.«namespace» ≠ "") (name : String) (labels : GoMap String String) :
    step consts r s (.setNode name labels) = { s with cache := s.cache.setNode name labels } := by
  rw [step, enqueue_node r hns _ (setNodeEvent_namespace _ _ _), applyOps_nil]

theorem step_deleteNode (hns : r.«namespace» ≠ "") (name : String) :
    step consts r s (.deleteNode name) =
      if name ∈ s.cache.nodes then { s with cache := s.cache.deleteNode name } else s := by
  simp only [step]
  split
  · rename_i old h
    rw [enqueue_node r hns (.delete (nodeMeta name old)) rfl, applyOps_nil,
      if_pos (Finmap.mem_of_lookup_eq_some h)]
  · rename_i h
    rw [if_neg (Finmap.lookup_eq_none.mp h)]

/-- A policy change of the reconciler's namespace queues a request at once. -/
theorem step_setPolicy_queue (obj : PolicyObject)
    (h : obj.objectMeta.«namespace» = r.«namespace») :
    (step consts r s (.setPolicy obj)).queue ≠ [] := by
  simp [step, enqueue_sriovResourcePolicy_eq, setPolicyEvent_object, h, applyOps, applyOp,
    addTo_ne_nil]

theorem step_setPolicy_of_ne (obj : PolicyObject) (h : obj.objectMeta.«namespace» ≠ r.«namespace») :
    step consts r s (.setPolicy obj) = { s with cache := s.cache.setPolicy obj } := by
  simp [step, enqueue_sriovResourcePolicy_eq, setPolicyEvent_object, h]

end Steps

/-- **What one action keeps**: every action but one that relabels the node keeps the driver's
reconciler, and agreement with the cache whenever nothing is queued or waiting. -/
theorem noLostUpdate_step (hns : r.«namespace» ≠ "") {s : State}
    (h : NoLostUpdate consts r s) {a : Action} (ha : ¬ a.Relabels r s) :
    NoLostUpdate consts r (step consts r s a) := by
  obtain ⟨hc, hq⟩ := h
  cases a with
  | setNode name labels =>
    rw [step_setNode hns]
    refine ⟨hc, fun hq' => (hq hq').of_cache ?_ rfl⟩
    by_cases hn : name = r.nodeName
    · subst hn
      have : s.cache.nodes.lookup r.nodeName = some labels := not_not.mp (not_and.mp ha rfl)
      simp [Cache.setNode, this]
    · exact Finmap.lookup_insert_of_ne _ (Ne.symm hn)
  | deleteNode name =>
    rw [step_deleteNode hns]
    split_ifs
    · refine ⟨hc, fun hq' => ?_⟩
      by_cases hn : name = r.nodeName
      · exact inSync_of_lookup_eq_none (by simp [Cache.deleteNode, hn])
      · exact (hq hq').of_cache (Finmap.lookup_erase_ne (Ne.symm hn)) rfl
    · exact ⟨hc, hq⟩
  | setPolicy obj =>
    by_cases ho : obj.objectMeta.«namespace» = r.«namespace»
    · exact ⟨by simpa [step] using hc, fun hq' => absurd hq'.1 (step_setPolicy_queue obj ho)⟩
    · rw [step_setPolicy_of_ne obj ho]
      exact ⟨hc, fun hq' => (hq hq').of_cache rfl (listPolicies_setPolicy_of_ne hns _ _ ho)⟩
  | deletePolicy ns name =>
    simp only [step]
    split
    · rename_i old hold
      rw [enqueue_sriovResourcePolicy_eq]
      split_ifs with ho
      · refine ⟨by simpa using hc, fun hq' => absurd hq'.1 ?_⟩
        simp [applyOps, applyOp, addTo_ne_nil]
      · have hne : ns ≠ r.«namespace» := by rwa [← findPolicy_namespace hold]
        exact ⟨hc, fun hq' => (hq hq').of_cache rfl (listPolicies_deletePolicy_of_ne hns hne _ _)⟩
    · exact ⟨hc, hq⟩
  | fire req =>
    simp only [step]
    split_ifs
    · exact ⟨hc, fun hq' => absurd hq'.1 (addTo_ne_nil _ _)⟩
    · exact ⟨hc, hq⟩
  | process republish =>
    simp only [step]
    split
    · exact ⟨hc, hq⟩
    · exact ⟨(reconcile_policyController _ _).trans hc, fun _ => inSync_reconcile _ _ _⟩
  | tick discovery republish publish =>
    exact ⟨(syncDevicesAndResources_policyController _ _).trans hc,
      fun hq' => inSync_syncDevicesAndResources hc (hq hq') _ _ _⟩

theorem noLostUpdate_run (hns : r.«namespace» ≠ "") {s : State} (h : NoLostUpdate consts r s)
    {actions : List Action} (hr : NeverRelabels consts r s actions) :
    NoLostUpdate consts r (run consts r s actions) := by
  induction actions generalizing s with
  | nil => exact h
  | cons a actions ih => exact ih (noLostUpdate_step hns h hr.1) hr.2

/-- At start the sync request is queued. -/
theorem noLostUpdate_initial {a : Agent} (hc : a.policyController = true) (c : Cache) :
    NoLostUpdate consts r (initial r a c) :=
  ⟨hc, fun hq => (List.cons_ne_nil _ _ (initial_queue a c ▸ hq.1)).elim⟩

/-- **No policy change is lost.** From start-up, along any run of cluster changes, worker steps
and ticks in which the reconciler's node is never created or relabelled, whenever no request is
queued or waiting the agent agrees with the cache: the active policy is the node's unique match
and, unless several policies match, the tags are its mapping over the snapshot. -/
theorem inSync_of_quiescent (hns : r.«namespace» ≠ "") {D : DeviceMap} {c : Cache}
    {actions : List Action} (hr : NeverRelabels consts r (initial r (startup D) c) actions)
    (hq : (run consts r (initial r (startup D) c) actions).Quiescent) :
    InSync consts r (run consts r (initial r (startup D) c) actions).cache
      (run consts r (initial r (startup D) c) actions).agent :=
  (noLostUpdate_run hns (noLostUpdate_initial rfl c) hr).inSync hq

/-- From start-up over the labelled `node1`, the initial sync request processed: the policy is
active and `devA` carries its tag. -/
theorem inSync_of_quiescent_sample :
    sampleReconciler.«namespace» ≠ "" ∧
      NeverRelabels sampleConsts sampleReconciler
        (initial sampleReconciler (startup sampleSnapshot) labelledCache) [.process none] ∧
      (run sampleConsts sampleReconciler
        (initial sampleReconciler (startup sampleSnapshot) labelledCache) [.process none]).Quiescent ∧
      (run sampleConsts sampleReconciler
        (initial sampleReconciler (startup sampleSnapshot) labelledCache)
          [.process none]).agent.currentResourcePolicy = some labelledPolicy.spec ∧
      tagAt sampleConsts (run sampleConsts sampleReconciler
        (initial sampleReconciler (startup sampleSnapshot) labelledCache)
          [.process none]).agent.allocatable "devA" = some "r" ∧
      InSync sampleConsts sampleReconciler
        (run sampleConsts sampleReconciler
          (initial sampleReconciler (startup sampleSnapshot) labelledCache) [.process none]).cache
        (run sampleConsts sampleReconciler
          (initial sampleReconciler (startup sampleSnapshot) labelledCache) [.process none]).agent :=
  ⟨by decide, by decide, by decide, by decide, by decide,
    inSync_of_quiescent (by decide) (by decide) (by decide)⟩

/-- **What the cluster is told once the process is quiet.** From a driver `Start` returned, along
any run in which the reconciler's node is never created or relabelled, in a state where no
request is queued or waiting, the node has labels and at most one policy matches them, the last
device set handed to the kubelet plugin's helper is exactly the snapshot's devices that the
matching policy's mapping selects. -/
theorem published_of_quiescent (hns : r.«namespace» ≠ "") {D : DeviceMap} {publish : Option Error}
    {a : Agent} (hs : start consts (startup D) publish = .ok a) {c : Cache} {actions : List Action}
    {s : State} (hrun : run consts r (initial r a c) actions = s)
    (hr : NeverRelabels consts r (initial r a c) actions) (hq : s.Quiescent)
    {nodeLabels : GoMap String String} (hn : s.cache.nodes.lookup r.nodeName = some nodeLabels)
    (hm : (matchingPolicies nodeLabels (s.cache.listPolicies r.«namespace»)).length ≤ 1) :
    s.agent.published.getLast? = some (s.agent.allocatable.filter fun name _ =>
      ((getFilteredDeviceResourceMap consts
        (uniqueMatch nodeLabels (s.cache.listPolicies r.«namespace»)) s.agent.allocatable).lookup
          name).isSome) := by
  subst hrun
  have hc : a.policyController = true := policyController_start hs
  have hsync := (noLostUpdate_run hns (noLostUpdate_initial hc c) hr).inSync hq nodeLabels hn
  rw [← hsync.1, ← getAdvertisableDevices_of_tagsMatchPolicy (hsync.2 hm)]
  exact fresh_run_of (by rw [initial_agent]; exact fresh_start hs)
    (by rw [initial_agent]; exact hc) actions

/-- The process over `devA` and the labelled `node1` after the initial sync request. -/
def quietState : State :=
  run sampleConsts sampleReconciler (initial sampleReconciler startedAgent labelledCache)
    [.process none]

theorem published_of_quiescent_sample :
    sampleReconciler.«namespace» ≠ "" ∧
      start sampleConsts (startup sampleSnapshot) none = .ok startedAgent ∧
      run sampleConsts sampleReconciler (initial sampleReconciler startedAgent labelledCache)
        [.process none] = quietState ∧
      NeverRelabels sampleConsts sampleReconciler
        (initial sampleReconciler startedAgent labelledCache) [.process none] ∧
      quietState.Quiescent ∧
      quietState.cache.nodes.lookup sampleReconciler.nodeName = some sriovLabels ∧
      (matchingPolicies sriovLabels
        (quietState.cache.listPolicies sampleReconciler.«namespace»)).length ≤ 1 ∧
      quietState.agent.published.getLast? = some (quietState.agent.allocatable.filter fun name _ =>
        ((getFilteredDeviceResourceMap sampleConsts
          (uniqueMatch sriovLabels (quietState.cache.listPolicies sampleReconciler.«namespace»))
            quietState.agent.allocatable).lookup name).isSome) :=
  have hs : start sampleConsts (startup sampleSnapshot) none = .ok startedAgent := rfl
  have hrun : run sampleConsts sampleReconciler (initial sampleReconciler startedAgent labelledCache)
      [.process none] = quietState := rfl
  ⟨by decide, hs, hrun, by decide, by decide, by decide, by decide,
    published_of_quiescent (by decide) hs hrun (by decide) (by decide) (by decide) (by decide)⟩

/-- A tick whose discovery finds the snapshot changes nothing. -/
theorem step_tick_of_eq {s : State} {D : DeviceMap} (hD : D = s.agent.allocatable)
    (republish publish : Option Error) :
    step consts r s (.tick (.ok D) republish publish) = s := by
  have h : syncDevicesAndResources consts s.agent ⟨.ok D, s.cache.api r republish, publish⟩ =
      (s.agent, none) := syncDevicesAndResources_of_eq rfl hD
  simp only [step, h]

/-- After start-up and the first reconcile, `node1` gets the label `sriov=true`; then `n` ticks
find the hardware unchanged. -/
def relabelState (n : Nat) : State :=
  run sampleConsts sampleReconciler (initial sampleReconciler (startup sampleSnapshot) sampleCache)
    ([.process none, .setNode "node1" sriovLabels] ++
      List.replicate n (.tick (.ok sampleSnapshot) none none))

/-- **A relabelled node is never reconciled.** Once `node1` is labelled so that the policy
selects it, nothing is queued or waits, and the agent stays without active policy and with `devA`
untagged, however many ticks follow: the watch drops the node's event, and a tick over the same
hardware does nothing. -/
theorem relabel_lost (n : Nat) :
    (relabelState n).Quiescent ∧
      ¬ InSync sampleConsts sampleReconciler (relabelState n).cache (relabelState n).agent := by
  have hticks : ∀ (s : State) (k : Nat), s.agent.allocatable = sampleSnapshot →
      run sampleConsts sampleReconciler s (List.replicate k (.tick (.ok sampleSnapshot) none none)) =
        s := by
    intro s k hs
    induction k with
    | zero => rfl
    | succ k ih =>
      rw [List.replicate_succ', run_append, ih]
      exact step_tick_of_eq hs.symm none none
  rw [relabelState, run_append, hticks _ _ (by decide)]
  refine ⟨by decide, fun h => ?_⟩
  have := (h sriovLabels (by decide)).1
  revert this
  decide

/-- The action changes a node object. -/
def Action.IsNodeChange : Action → Prop
  | .setNode .. | .deleteNode .. => True
  | _ => False

instance Action.decIsNodeChange : (a : Action) → Decidable a.IsNodeChange
  | .setNode .. | .deleteNode .. => isTrue trivial
  | .setPolicy _ | .deletePolicy _ _ | .fire _ | .process _ | .tick _ _ _ => isFalse id

/-- **Node changes never reach the controller.** With a non-empty namespace, along any run of node
creations, relabellings and deletions, of any node, no request is queued or set waiting and the
agent does not change. -/
theorem run_nodeChanges (hns : r.«namespace» ≠ "") (s : State) {actions : List Action}
    (h : ∀ a ∈ actions, a.IsNodeChange) :
    (run consts r s actions).agent = s.agent ∧ (run consts r s actions).queue = s.queue ∧
      (run consts r s actions).waiting = s.waiting := by
  induction actions generalizing s with
  | nil => exact ⟨rfl, rfl, rfl⟩
  | cons a actions ih =>
    have hs : (step consts r s a).agent = s.agent ∧ (step consts r s a).queue = s.queue ∧
        (step consts r s a).waiting = s.waiting := by
      have ha := h a (.head _)
      cases a with
      | setNode name labels => rw [step_setNode hns]; exact ⟨rfl, rfl, rfl⟩
      | deleteNode name => rw [step_deleteNode hns]; split_ifs <;> exact ⟨rfl, rfl, rfl⟩
      | _ => exact ha.elim
    obtain ⟨h₁, h₂, h₃⟩ := ih (step consts r s a) fun a' ha' => h a' (.tail _ ha')
    exact ⟨h₁.trans hs.1, h₂.trans hs.2.1, h₃.trans hs.2.2⟩

theorem run_nodeChanges_sample :
    sampleReconciler.«namespace» ≠ "" ∧
      (∀ a ∈ [Action.setNode "node1" sriovLabels, .deleteNode "node1"], a.IsNodeChange) ∧
      (run sampleConsts sampleReconciler (relabelState 0)
          [.setNode "node1" sriovLabels, .deleteNode "node1"]).agent = (relabelState 0).agent ∧
      (run sampleConsts sampleReconciler (relabelState 0)
          [.setNode "node1" sriovLabels, .deleteNode "node1"]).queue = (relabelState 0).queue ∧
      (run sampleConsts sampleReconciler (relabelState 0)
          [.setNode "node1" sriovLabels, .deleteNode "node1"]).waiting = (relabelState 0).waiting :=
  ⟨by decide, by decide, run_nodeChanges (by decide) _ (by decide)⟩

/-! ## The work queue drains -/

/-- Fire every waiting request, then let the worker take a request as many times as requests can
be queued, the helper answering every republish. -/
def drain (s : State) : List Action :=
  s.waiting.map .fire ++ List.replicate (s.queue.length + s.waiting.length) (.process none)

theorem length_addTo_le (items : List Request) (req : Request) :
    (addTo items req).length ≤ items.length + 1 := by
  unfold addTo; split_ifs <;> simp

/-- With the node in the cache and the helper answering, a reconcile against the cache returns
`ctrl.Result{}` and no error. -/
theorem reconcile_api_ok {c : Cache} {nodeLabels : GoMap String String}
    (hn : c.nodes.lookup r.nodeName = some nodeLabels) (a : Agent) :
    (reconcile consts a (c.api r none)).2 = ({}, none) := by
  have hn' : (c.api r none).node = .ok nodeLabels := lookup_getNode hn
  by_cases hm : (matchingPolicies nodeLabels (c.listPolicies r.«namespace»)).length ≤ 1
  · rw [reconcile_of_le_one hn' rfl hm]
    simp [applyResourcePolicyToDevices, updateDeviceResourceNames_err, Cache.api]
  · rw [reconcile_of_two_le hn' rfl (by omega)]

variable (consts r) in
/-- Firing the waiting requests one by one empties the waiting list and queues at most one
request for each. -/
theorem run_fire_waiting (s : State) :
    (run consts r s (s.waiting.map .fire)).waiting = [] ∧
      (run consts r s (s.waiting.map .fire)).queue.length ≤ s.queue.length + s.waiting.length ∧
      (run consts r s (s.waiting.map .fire)).cache = s.cache := by
  generalize hw : s.waiting = ws
  induction ws generalizing s with
  | nil => exact ⟨hw, by simp [run], rfl⟩
  | cons w ws ih =>
    have hstep : step consts r s (.fire w) = { s with waiting := ws, queue := addTo s.queue w } := by
      simp [step, hw]
    obtain ⟨h₁, h₂, h₃⟩ := ih { s with waiting := ws, queue := addTo s.queue w } rfl
    rw [List.map_cons, run_cons, hstep]
    have := length_addTo_le s.queue w
    exact ⟨h₁, by simp only [List.length_cons] at h₂ ⊢; omega, h₃⟩

variable (consts) in
/-- With the node in the cache and the helper answering, a worker step takes the head of the
queue and requeues nothing. -/
theorem step_process {s : State} {nodeLabels : GoMap String String}
    (hn : s.cache.nodes.lookup r.nodeName = some nodeLabels) :
    (step consts r s (.process none)).queue = s.queue.tail ∧
      (step consts r s (.process none)).waiting = s.waiting ∧
      (step consts r s (.process none)).cache = s.cache := by
  simp only [step]
  split
  · simp [*]
  · simp [reconcile_api_ok hn, *]

variable (consts) in
theorem run_process {s : State} {nodeLabels : GoMap String String}
    (hn : s.cache.nodes.lookup r.nodeName = some nodeLabels) (n : Nat) :
    (run consts r s (List.replicate n (.process none))).queue = s.queue.drop n ∧
      (run consts r s (List.replicate n (.process none))).waiting = s.waiting := by
  induction n generalizing s with
  | zero => exact ⟨rfl, rfl⟩
  | succ n ih =>
    obtain ⟨hq, hw, hc⟩ := step_process consts hn
    obtain ⟨h₁, h₂⟩ := ih (hc ▸ hn : (step consts r s (.process none)).cache.nodes.lookup
      r.nodeName = some nodeLabels)
    rw [List.replicate_succ, run_cons, h₁, h₂, hq, hw, List.drop_tail]
    exact ⟨rfl, rfl⟩

variable (consts) in
/-- **The work queue drains.** With the node in the cache, firing the waiting requests and letting
the worker run, the helper answering, leaves nothing queued or waiting. -/
theorem quiescent_drain {s : State} {nodeLabels : GoMap String String}
    (hn : s.cache.nodes.lookup r.nodeName = some nodeLabels) :
    (run consts r s (drain s)).Quiescent := by
  obtain ⟨hw, hq, hc⟩ := run_fire_waiting consts r s
  obtain ⟨h₁, h₂⟩ := run_process consts (hc ▸ hn : (run consts r s
    (s.waiting.map .fire)).cache.nodes.lookup r.nodeName = some nodeLabels)
    (s.queue.length + s.waiting.length)
  rw [drain, run_append]
  exact ⟨h₁.trans (List.drop_eq_nil_of_le hq), h₂.trans hw⟩

theorem neverRelabels_append {s : State} {actions actions' : List Action}
    (h : NeverRelabels consts r s actions) (h' : NeverRelabels consts r (run consts r s actions) actions') :
    NeverRelabels consts r s (actions ++ actions') := by
  induction actions generalizing s with
  | nil => exact h'
  | cons a actions ih => exact ⟨h.1, ih h.2 h'⟩

/-- A run without node changes never relabels the node. -/
theorem neverRelabels_of_not_isNodeChange {s : State} {actions : List Action}
    (h : ∀ a ∈ actions, ¬ a.IsNodeChange) : NeverRelabels consts r s actions := by
  induction actions generalizing s with
  | nil => trivial
  | cons a actions ih =>
    refine ⟨fun ha => h a (.head _) ?_, ih fun a' ha' => h a' (.tail _ ha')⟩
    cases a with
    | setNode | deleteNode => trivial
    | _ => exact (ha : False).elim

theorem not_isNodeChange_drain (s : State) : ∀ a ∈ drain s, ¬ a.IsNodeChange := by
  intro a ha
  rcases List.mem_append.mp ha with ha | ha
  · obtain ⟨req, -, rfl⟩ := List.mem_map.mp ha
    exact id
  · obtain rfl := List.eq_of_mem_replicate ha
    exact id

/-- **Eventually in sync.** From start-up, after any run that never creates or relabels the
reconciler's node, once the cluster stops changing with the node in the cache, firing the waiting
requests and letting the worker run, the helper answering, leaves nothing queued or waiting and
the agent agreeing with the cache. -/
theorem inSync_drain (hns : r.«namespace» ≠ "") {D : DeviceMap} {c : Cache}
    {actions : List Action} {s : State} (hs : run consts r (initial r (startup D) c) actions = s)
    (hr : NeverRelabels consts r (initial r (startup D) c) actions)
    {nodeLabels : GoMap String String} (hn : s.cache.nodes.lookup r.nodeName = some nodeLabels) :
    (run consts r s (drain s)).Quiescent ∧
      InSync consts r (run consts r s (drain s)).cache (run consts r s (drain s)).agent := by
  subst hs
  have hq := quiescent_drain consts hn
  refine ⟨hq, ?_⟩
  rw [← run_append] at hq ⊢
  exact (noLostUpdate_run hns (noLostUpdate_initial rfl c)
    (neverRelabels_append hr (neverRelabels_of_not_isNodeChange (not_isNodeChange_drain _)))).inSync hq

theorem inSync_drain_sample :
    sampleReconciler.«namespace» ≠ "" ∧
      run sampleConsts sampleReconciler (initial sampleReconciler (startup sampleSnapshot)
        labelledCache) [] = initial sampleReconciler (startup sampleSnapshot) labelledCache ∧
      NeverRelabels sampleConsts sampleReconciler
        (initial sampleReconciler (startup sampleSnapshot) labelledCache) [] ∧
      (initial sampleReconciler (startup sampleSnapshot) labelledCache).cache.nodes.lookup
        sampleReconciler.nodeName = some sriovLabels ∧
      (run sampleConsts sampleReconciler (initial sampleReconciler (startup sampleSnapshot)
        labelledCache) (drain (initial sampleReconciler (startup sampleSnapshot)
          labelledCache))).Quiescent ∧
      InSync sampleConsts sampleReconciler
        (run sampleConsts sampleReconciler (initial sampleReconciler (startup sampleSnapshot)
          labelledCache) (drain (initial sampleReconciler (startup sampleSnapshot)
            labelledCache))).cache
        (run sampleConsts sampleReconciler (initial sampleReconciler (startup sampleSnapshot)
          labelledCache) (drain (initial sampleReconciler (startup sampleSnapshot)
            labelledCache))).agent :=
  have hs : run sampleConsts sampleReconciler (initial sampleReconciler (startup sampleSnapshot)
      labelledCache) [] = initial sampleReconciler (startup sampleSnapshot) labelledCache := rfl
  have hn : (initial sampleReconciler (startup sampleSnapshot) labelledCache).cache.nodes.lookup
      sampleReconciler.nodeName = some sriovLabels := by decide
  ⟨by decide, hs, trivial, hn, inSync_drain (by decide) hs trivial hn⟩

end SriovDra.Manager
