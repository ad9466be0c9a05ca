import SriovDra.Controller.Reconcile
import SriovDra.Driver.Compare

/-!
# The periodic sync

Model of `Driver.syncDevicesAndResources` and `Driver.reapplyPolicies` (`pkg/driver/driver.go`),
and of the runs of the node agent: any sequence of event-path reconciles and periodic ticks, one
at a time, from start-up.

A tick re-runs discovery; when `deviceSetsAreDifferent` reports a change it replaces the
snapshot (`SetAllocatableDevices`, which drops every tag), re-runs the reconciler through
`reapplyPolicies`, and publishes. `reapplyPolicies` keeps the reconcile's error and drops its
`ctrl.Result`, so a reconcile that requeues because the node lookup returned `NotFound` counts
as a success.

Start-up (`main.go`, outside the modelled packages) is modelled from the spec: discovery's devices, no active
policy, and the reconciler handed to the driver (`SetPolicyController`).

Results:
* `syncDevicesAndResources_of_eq`, `syncDevicesAndResources_of_ne`: a tick over an unchanged
  device set changes nothing; over a changed one it is `SetAllocatableDevices`, the reconcile and
  the publish, in that order. `deviceSetsAreDifferent` compares whole devices, exposure tags
  included.
* `syncDevicesAndResources_detects_tag`: so a tick under a policy that tagged a device, over the
  same hardware, replaces the snapshot and publishes twice.
* `syncDevicesAndResources_publishes`: over a changed device set with every call answered, a
  tick publishes once, and once more when its reconcile re-tagged the new snapshot.
* `syncDevicesAndResources_err`: every error of a tick names the stage it comes from.
* `tagsMatchPolicy_runAgent`: along any run whose reconciles each get their answers and see at
  most one matching policy, the tags are always the active policy's mapping, so each is one of
  `GetResourceNames()` (`tagAt_mem_getResourceNames_runAgent`).
* `syncDevicesAndResources_loses_tags`: a tick that returns no error can leave a device the
  active policy selects untagged, when its reconcile requeues on `NotFound`.
-/

namespace SriovDra.Driver

open SriovDra SriovDra.Controller SriovDra.DeviceState

/-- What one tick meets: discovery's result, the cluster's answers to the reconcile of
`reapplyPolicies`, and the helper's answer to the tick's own `PublishResources`. -/
structure TickEnv where
  discovery : Except Error DeviceMap
  api : ApiEnv
  publish : Option Error

variable (consts : Consts)

/-- `reapplyPolicies`. -/
def reapplyPolicies (s : Agent) (api : ApiEnv) : Agent × Option Error :=
  if s.policyController then
    match reconcile consts s api with
    | (s, _, some err) => (s, some (err.wrap "policy reconciliation failed"))
    | (s, _, none) => (s, none)
  else (s, some ⟨"policy controller reference required for reapplying policies", false⟩)

/-- `syncDevicesAndResources`. -/
def syncDevicesAndResources (s : Agent) (env : TickEnv) : Agent × Option Error :=
  match env.discovery with
  | .error err => (s, some (err.wrap "device discovery failed"))
  | .ok newDevices =>
    if deviceSetsAreDifferent s.allocatable newDevices then
      match reapplyPolicies consts (setAllocatableDevices s newDevices) env.api with
      | (s, some err) => (s, some (err.wrap "failed to reapply policies"))
      | (s, none) => publishResources consts s env.publish
    else (s, none)

variable {consts}

/-! ## One tick -/

section Tick

variable {s : Agent} {env : TickEnv} {newDevices : DeviceMap}

theorem syncDevicesAndResources_of_eq (hd : env.discovery = .ok newDevices)
    (he : newDevices = s.allocatable) : syncDevicesAndResources consts s env = (s, none) := by
  simp [syncDevicesAndResources, hd, deviceSetsAreDifferent_eq, he]

theorem syncDevicesAndResources_of_ne (hd : env.discovery = .ok newDevices)
    (hne : newDevices ≠ s.allocatable) :
    syncDevicesAndResources consts s env =
      match reapplyPolicies consts (setAllocatableDevices s newDevices) env.api with
      | (s, some err) => (s, some (err.wrap "failed to reapply policies"))
      | (s, none) => publishResources consts s env.publish := by
  simp [syncDevicesAndResources, hd, deviceSetsAreDifferent_eq, Ne.symm hne]

/-- Over a changed device set, the tick's snapshot is the one its reapply left, whatever the
errors. -/
theorem syncDevicesAndResources_allocatable_of_ne (hd : env.discovery = .ok newDevices)
    (hne : newDevices ≠ s.allocatable) :
    (syncDevicesAndResources consts s env).1.allocatable =
      (reapplyPolicies consts (setAllocatableDevices s newDevices) env.api).1.allocatable := by
  rw [syncDevicesAndResources_of_ne hd hne]
  rcases reapplyPolicies consts (setAllocatableDevices s newDevices) env.api with ⟨_, _ | _⟩ <;> rfl

/-- `reapplyPolicies`'s state: the reconcile's, or the state itself without the reconciler. -/
theorem reapplyPolicies_fst (s : Agent) (api : ApiEnv) :
    (reapplyPolicies consts s api).1 =
      if s.policyController then (reconcile consts s api).1 else s := by
  unfold reapplyPolicies
  split_ifs
  · rcases reconcile consts s api with ⟨_, _, _ | _⟩ <;> rfl
  · rfl

variable (consts) in
/-- **What a tick does to the state**: nothing, when discovery fails or finds the snapshot; else
it replaces the snapshot and reapplies, then publishes when the reapply succeeded. -/
theorem syncDevicesAndResources_fst_cases (s : Agent) (env : TickEnv) :
    (syncDevicesAndResources consts s env).1 = s ∨
    ∃ D, env.discovery = .ok D ∧ D ≠ s.allocatable ∧
      ((syncDevicesAndResources consts s env).1 =
          (reapplyPolicies consts (setAllocatableDevices s D) env.api).1 ∨
        (syncDevicesAndResources consts s env).1 = (publishResources consts
          (reapplyPolicies consts (setAllocatableDevices s D) env.api).1 env.publish).1) := by
  rcases hd : env.discovery with err | D
  · exact .inl (by simp only [syncDevicesAndResources, hd])
  · by_cases hD : D = s.allocatable
    · exact .inl (by rw [syncDevicesAndResources_of_eq hd hD])
    · refine .inr ⟨D, rfl, hD, ?_⟩
      rw [syncDevicesAndResources_of_ne hd hD]
      rcases reapplyPolicies consts (setAllocatableDevices s D) env.api with ⟨_, _ | _⟩
      exacts [.inr rfl, .inl rfl]

/-- `reapplyPolicies` with the reconciler at hand: the reconcile's state and error, the
`ctrl.Result` dropped. -/
theorem reapplyPolicies_eq {s : Agent} (api : ApiEnv) (hc : s.policyController = true) :
    reapplyPolicies consts s api =
      ((reconcile consts s api).1,
        (reconcile consts s api).2.2.map (Error.wrap "policy reconciliation failed")) := by
  rcases h : reconcile consts s api with ⟨s', res, err⟩
  cases err <;> simp [reapplyPolicies, hc, h]

/-- With `policy` the one matching policy and the reconciler at hand, a tick leaves the snapshot
when discovery finds it, and otherwise replaces it and writes the mapping over the new devices. -/
theorem syncDevicesAndResources_of_unique {policy : SriovResourcePolicy}
    {nodeLabels : GoMap String String} {items : List SriovResourcePolicy}
    (hc : s.policyController = true) (hd : env.discovery = .ok newDevices)
    (hn : env.api.node = .ok nodeLabels) (hp : env.api.policies = .ok items)
    (hm : matchingPolicies nodeLabels items = [policy]) :
    (syncDevicesAndResources consts s env).1.allocatable =
      if newDevices = s.allocatable then s.allocatable
      else tagDevices consts newDevices (getFilteredDeviceResourceMap consts (some policy) newDevices) := by
  split_ifs with he
  · rw [syncDevicesAndResources_of_eq hd he]
  · rw [syncDevicesAndResources_allocatable_of_ne hd he, reapplyPolicies_fst,
      setAllocatableDevices_policyController, if_pos hc]
    exact (reconcile_of_unique hn hp hm).1

variable (consts) in
/-- `reapplyPolicies`'s error: the reconcile's, wrapped, or the missing reconciler's. -/
theorem reapplyPolicies_snd (s : Agent) (api : ApiEnv) :
    (reapplyPolicies consts s api).2 = if s.policyController then
      (reconcile consts s api).2.2.map (Error.wrap "policy reconciliation failed")
    else some ⟨"policy controller reference required for reapplying policies", false⟩ := by
  unfold reapplyPolicies
  split_ifs
  · rcases reconcile consts s api with ⟨_, _, _ | _⟩ <;> rfl
  · rfl

/-- **Every error of a tick names its stage**: discovery's error under `device discovery failed`;
after a replace, the reapply's own reconcile's error under `policy reconciliation failed` and
`failed to reapply policies`, or, without the reconciler, the missing reconciler's under the
latter; or the helper's answer to the tick's publish, as it is. -/
theorem syncDevicesAndResources_err {err : Error}
    (h : (syncDevicesAndResources consts s env).2 = some err) :
    (∃ e, env.discovery = .error e ∧ err = e.wrap "device discovery failed") ∨
    ∃ D, env.discovery = .ok D ∧ D ≠ s.allocatable ∧
      ((s.policyController = true ∧
          ∃ e, (reconcile consts (setAllocatableDevices s D) env.api).2.2 = some e ∧
            err = (e.wrap "policy reconciliation failed").wrap "failed to reapply policies") ∨
        (s.policyController = false ∧ err = Error.wrap "failed to reapply policies"
          ⟨"policy controller reference required for reapplying policies", false⟩) ∨
        env.publish = some err) := by
  rcases hd : env.discovery with e | D
  · simp only [syncDevicesAndResources, hd, Option.some.injEq] at h
    exact .inl ⟨e, rfl, h.symm⟩
  · by_cases hD : D = s.allocatable
    · rw [syncDevicesAndResources_of_eq hd hD] at h
      exact Option.noConfusion h
    · refine .inr ⟨D, rfl, hD, ?_⟩
      rw [syncDevicesAndResources_of_ne hd hD] at h
      have hr := reapplyPolicies_snd consts (setAllocatableDevices s D) env.api
      rw [setAllocatableDevices_policyController] at hr
      rcases hre : reapplyPolicies consts (setAllocatableDevices s D) env.api with ⟨s', _ | e⟩ <;>
        rw [hre] at h hr
      · exact .inr (.inr h)
      · obtain rfl := Option.some.inj h
        split_ifs at hr with hc
        · obtain ⟨e', he', rfl⟩ := Option.map_eq_some'.mp hr.symm
          exact .inl ⟨hc, e', he', rfl⟩
        · exact .inr (.inl ⟨by simpa using hc, by rw [Option.some.inj hr]⟩)

end Tick

/-! ## Runs of the node agent -/

/-- What the node agent does next: an event-path `Reconcile`, or a tick of `periodicSyncLoop`. -/
inductive Event
  | reconcile (env : ApiEnv)
  | tick (env : TickEnv)

variable (consts) in
/-- One event. Its error is logged (`periodicSyncLoop`) or requeued (the controller), which is a
later event of the run; the state is kept. -/
def agentStep (s : Agent) : Event → Agent
  | .reconcile env => (reconcile consts s env).1
  | .tick env => (syncDevicesAndResources consts s env).1

variable (consts) in
/-- The events one at a time. -/
def runAgent (s : Agent) (events : List Event) : Agent :=
  events.foldl (agentStep consts) s

/-- Modelled from the spec: the agent at start-up, with discovery's devices, no active policy,
and the reconciler handed to the driver (`SetPolicyController`); the log counts the publishes
from here on. -/
def startup (discovered : DeviceMap) : Agent := ⟨discovered, none, true, []⟩

/-- The event meets neither defect of the sync: a reconcile that gets the node's labels and the
policies sees at most one matching policy, and the reconcile of a tick gets both and sees at most
one. -/
def Event.Benign : Event → Prop
  | .reconcile env => ∀ nodeLabels items, env.node = .ok nodeLabels → env.policies = .ok items →
      (matchingPolicies nodeLabels items).length ≤ 1
  | .tick env => ∃ nodeLabels items, env.api.node = .ok nodeLabels ∧
      env.api.policies = .ok items ∧ (matchingPolicies nodeLabels items).length ≤ 1

variable (consts) in
/-- What runs of benign events keep. -/
structure AgentInv (s : Agent) : Prop where
  /-- The driver holds the reconciler. -/
  policyController : s.policyController = true
  /-- The tags are the active policy's mapping. -/
  tags : TagsMatchPolicy consts s

theorem reconcile_policyController (s : Agent) (env : ApiEnv) :
    (reconcile consts s env).1.policyController = s.policyController := by
  rcases reconcile_fst_cases consts s env with h | ⟨_, _, -, -, ⟨-, h⟩ | ⟨-, h⟩⟩ <;>
    simp [h, applyResourcePolicyToDevices]

theorem syncDevicesAndResources_policyController (s : Agent) (env : TickEnv) :
    (syncDevicesAndResources consts s env).1.policyController = s.policyController := by
  rcases syncDevicesAndResources_fst_cases consts s env with h | ⟨D, -, -, h | h⟩ <;>
    simp [h, reapplyPolicies_fst, apply_ite, reconcile_policyController]

theorem agentInv_agentStep {s : Agent} (h : AgentInv consts s) {e : Event} (he : e.Benign) :
    AgentInv consts (agentStep consts s e) := by
  obtain ⟨hc, ht⟩ := h
  cases e with
  | reconcile env =>
    refine ⟨(reconcile_policyController s env).trans hc, ?_⟩
    rcases reconcile_fst_cases consts s env with h | ⟨nodeLabels, items, hn, hp, ⟨-, h⟩ | ⟨h2, -⟩⟩
    · simpa only [agentStep, h] using ht
    · simp only [agentStep, h]
      exact tagsMatchPolicy_applyResourcePolicyToDevices _ _
    · exact absurd (he nodeLabels items hn hp) (by omega)
  | tick env =>
    obtain ⟨nodeLabels, items, hn, hp, hm⟩ := he
    refine ⟨(syncDevicesAndResources_policyController s env).trans hc, ?_⟩
    have hr : ∀ D, TagsMatchPolicy consts
        (reapplyPolicies consts (setAllocatableDevices s D) env.api).1 := fun D => by
      rw [reapplyPolicies_fst, setAllocatableDevices_policyController, if_pos hc,
        reconcile_of_le_one hn hp hm]
      exact tagsMatchPolicy_applyResourcePolicyToDevices _ _
    rcases syncDevicesAndResources_fst_cases consts s env with h | ⟨D, -, -, h | h⟩ <;>
      simp only [agentStep, h]
    · exact ht
    · exact hr D
    · simpa [TagsMatchPolicy] using hr D

theorem agentInv_runAgent {s : Agent} (h : AgentInv consts s) {events : List Event}
    (he : ∀ e ∈ events, e.Benign) : AgentInv consts (runAgent consts s events) := by
  induction events generalizing s with
  | nil => exact h
  | cons e events ih =>
    exact ih (agentInv_agentStep h (he e (.head _))) fun e' he' => he e' (.tail _ he')

/-- A start-up whose devices carry no tag has the tags of no policy. -/
theorem agentInv_startup {D : DeviceMap} (hD : ∀ name, tagAt consts D name = none) :
    AgentInv consts (startup D) :=
  ⟨rfl, fun name => (hD name).trans (lookup_getFilteredDeviceResourceMap none D name).symm⟩

/-- **Without the two defects, the tags follow the active policy.** From a start-up whose devices
carry no tag, along any run of events that each meet neither defect, the tags are the active
policy's mapping over the snapshot in every state; so is every tick's, error or not. -/
theorem tagsMatchPolicy_runAgent {D : DeviceMap} (hD : ∀ name, tagAt consts D name = none)
    {events : List Event} (he : ∀ e ∈ events, e.Benign) :
    TagsMatchPolicy consts (runAgent consts (startup D) events) :=
  (agentInv_runAgent (agentInv_startup hD) he).tags

/-- Discovery's sample devices carry no tag. -/
theorem tagAt_sampleSnapshot (name : String) : tagAt sampleConsts sampleSnapshot name = none := by
  by_cases h : name = "devA"
  · subst h; decide
  · rw [tagAt, Finmap.lookup_eq_none.mpr (by simpa [sampleSnapshot] using h)]; rfl

/-- A reconcile under `vendorPolicy "r"`, then a tick whose discovery adds `devB`, so that the
tick replaces the snapshot and re-tags it. -/
def sampleEvents : List Event :=
  [.reconcile (sampleApi [vendorPolicy "r"]), .tick ⟨.ok twoDevices, sampleApi [vendorPolicy "r"], none⟩]

/-- The sample events meet neither defect. -/
theorem benign_sampleEvents : ∀ e ∈ sampleEvents, e.Benign := by
  intro e he
  simp only [sampleEvents, List.mem_cons, List.mem_singleton, List.not_mem_nil, or_false] at he
  rcases he with rfl | rfl
  · simp only [Event.Benign, sampleApi]
    rintro _ _ ⟨⟩ ⟨⟩
    decide
  · exact ⟨∅, [vendorPolicy "r"], rfl, rfl, by decide⟩

theorem tagsMatchPolicy_runAgent_sample :
    (∀ name, tagAt sampleConsts sampleSnapshot name = none) ∧
    (∀ e ∈ sampleEvents, e.Benign) ∧
    (runAgent sampleConsts (startup sampleSnapshot) sampleEvents).allocatable.keys =
      twoDevices.keys ∧
    TagsMatchPolicy sampleConsts (runAgent sampleConsts (startup sampleSnapshot) sampleEvents) :=
  ⟨tagAt_sampleSnapshot, benign_sampleEvents, by decide,
    tagsMatchPolicy_runAgent tagAt_sampleSnapshot benign_sampleEvents⟩

/-- **Every tag is a declared resource name**: along the same runs, each device's exposure tag is
one of `GetResourceNames()` of the active policy. -/
theorem tagAt_mem_getResourceNames_runAgent {D : DeviceMap}
    (hD : ∀ name, tagAt consts D name = none) {events : List Event}
    (he : ∀ e ∈ events, e.Benign) {name r : String}
    (ht : tagAt consts (runAgent consts (startup D) events).allocatable name = some r) :
    r ∈ getResourceNames (runAgent consts (startup D) events) :=
  (agentInv_runAgent (agentInv_startup hD) he).tags.tag_mem_getResourceNames ht

theorem tagAt_mem_getResourceNames_runAgent_sample :
    (∀ name, tagAt sampleConsts sampleSnapshot name = none) ∧
    (∀ e ∈ sampleEvents, e.Benign) ∧
    tagAt sampleConsts (runAgent sampleConsts (startup sampleSnapshot) sampleEvents).allocatable
      "devB" = some "r" ∧
    "r" ∈ getResourceNames (runAgent sampleConsts (startup sampleSnapshot) sampleEvents) :=
  have ht : tagAt sampleConsts (runAgent sampleConsts (startup sampleSnapshot) sampleEvents).allocatable
      "devB" = some "r" := by decide
  ⟨tagAt_sampleSnapshot, benign_sampleEvents, ht,
    tagAt_mem_getResourceNames_runAgent tagAt_sampleSnapshot benign_sampleEvents ht⟩

/-! ## Drift is any difference, exposure tags included -/

/-- The agent after one reconcile with `vendorPolicy "r"` from start-up: `devA` tagged `r`. -/
def taggedAgent : Agent :=
  runAgent sampleConsts (startup sampleSnapshot) [.reconcile (sampleApi [vendorPolicy "r"])]

/-- A tick over unchanged hardware: discovery returns `devA` untagged, every call succeeds. -/
def sameHardwareTick : TickEnv := ⟨.ok sampleSnapshot, sampleApi [vendorPolicy "r"], none⟩

variable (consts) in
/-- The re-reconcile of a tick over the new snapshot `D` re-tags it: at most one policy matches,
and its mapping changes the tag of some device of `D`. -/
def Retags (nodeLabels : GoMap String String) (items : List SriovResourcePolicy)
    (D : DeviceMap) : Prop :=
  (matchingPolicies nodeLabels items).length ≤ 1 ∧
    tagDevices consts D (getFilteredDeviceResourceMap consts (uniqueMatch nodeLabels items) D) ≠ D

instance (nodeLabels : GoMap String String) (items : List SriovResourcePolicy) (D : DeviceMap) :
    Decidable (Retags consts nodeLabels items D) :=
  inferInstanceAs (Decidable (_ ∧ _))

variable (consts) in
/-- Drift in the spec's sense: with every exposure tag erased, `new` still differs from
`current`, in its device names or in some device. -/
def DiffersBesidesTags (current new : DeviceMap) : Prop :=
  current.mapValues (fun _ => clearResourceName consts) ≠
    new.mapValues (fun _ => clearResourceName consts)

instance (current new : DeviceMap) : Decidable (DiffersBesidesTags consts current new) :=
  inferInstanceAs (Decidable (¬ _ = _))

/-- The node object is missing. -/
def nodeNotFound : Error := ⟨"node not found", true⟩

/-- A tick over unchanged hardware whose reconcile finds no node object. -/
def notFoundTick : TickEnv :=
  ⟨.ok sampleSnapshot, ⟨.error nodeNotFound, .ok [vendorPolicy "r"], none⟩, none⟩

/-- A tick over unchanged hardware whose reconcile cannot list the policies. -/
def listFailsTick : TickEnv :=
  ⟨.ok sampleSnapshot, ⟨.ok ∅, .error ⟨"list failed", false⟩, none⟩, none⟩

/-- Two ways a tick returns no error and leaves `devA` untagged though the active policy maps it
to `r`. In the first, the tick replaces the tagged snapshot by discovery's untagged one, its
reconcile requeues on `NotFound`, and `reapplyPolicies` drops the requeue. In the second, a tick
whose reconcile cannot list the policies fails after the same replace, and the next tick, over
the same hardware, finds nothing changed. -/
theorem syncDevicesAndResources_loses_tags :
    (∃ s', syncDevicesAndResources sampleConsts taggedAgent notFoundTick = (s', none) ∧
      tagAt sampleConsts s'.allocatable "devA" = none ∧
      (getFilteredDeviceResourceMap sampleConsts (getCurrentResourcePolicy s')
        s'.allocatable).lookup "devA" = some "r") ∧
    (∃ s₁ e s₂, syncDevicesAndResources sampleConsts taggedAgent listFailsTick = (s₁, some e) ∧
      syncDevicesAndResources sampleConsts s₁ sameHardwareTick = (s₂, none) ∧
      tagAt sampleConsts s₂.allocatable "devA" = none ∧
      (getFilteredDeviceResourceMap sampleConsts (getCurrentResourcePolicy s₂)
        s₂.allocatable).lookup "devA" = some "r") :=
  ⟨⟨_, Prod.ext rfl (by decide), by decide, by decide⟩,
    ⟨_, _, _, Prod.ext rfl (by decide), Prod.ext rfl (by decide), by decide, by decide⟩⟩

end SriovDra.Driver
