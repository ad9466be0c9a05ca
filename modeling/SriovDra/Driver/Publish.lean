import SriovDra.Driver.Sync

/-!
# What the kubelet plugin's helper is told

`Driver.PublishResources` hands the kubelet plugin's helper the advertisable devices, and the
helper's ResourceSlice controller publishes the last set it was handed, retrying on its own. This
module models `Start` (`pkg/driver/driver.go`), which publishes before it returns the driver, the
`DriverResources` value `PublishResources` builds, and the last set handed over along runs of the
node agent.

`PublishResources` lists the advertisable devices by a `range` over `maps.Values`, in an order the
runtime picks: `driverResources` takes that order, an enumeration of the map, as an argument.
`readBack` is not in the source: it is what a reader of the node's pool finds, device by name.

Results:
* `fresh_reconcile`: every reconcile, whatever the cluster answers, keeps the last set handed
  over equal to the snapshot's advertisable devices: a tag update that changes the snapshot
  publishes.
* `fresh_syncDevicesAndResources`: so does a tick whose reconcile gets the node's labels (or
  `NotFound`) and the policies. Its reapply fails only on the republish, which has published.
* `fresh_runAgent`: from a started driver, along any run whose ticks' reconciles get these answers,
  the last set handed over is always the snapshot's advertisable devices.
* `syncDevicesAndResources_stale`: a tick whose reconcile cannot list the policies replaces the
  snapshot and publishes nothing, so the helper keeps advertising the old tags.
* `readBack_driverResources`: a set whose devices are stored under their names is listed in the
  node's pool once each, and reads back to itself, whatever the order.
* `getAdvertisableDevices_of_tagsMatchPolicy`: with the tags the active policy's mapping, the
  advertisable devices are the devices the policy selects.
-/

namespace SriovDra.Driver

open SriovDra SriovDra.Controller SriovDra.DeviceState

variable (consts : Consts)

/-- `Start`, once the kubelet plugin and the healthcheck have started: publish the advertisable
devices, answered `publish`; on an error no driver is returned. -/
def start (s : Agent) (publish : Option Error) : Except Error Agent :=
  match publishResources consts s publish with
  | (_, some err) => .error (err.wrap "failed to publish resources")
  | (s, none) => .ok s

/-- `resourceslice.Slice`: the field `PublishResources` sets. -/
structure ResourceSlice where
  devices : List Device

/-- `resourceslice.Pool`: the field `PublishResources` sets. -/
structure Pool where
  slices : List ResourceSlice

/-- `resourceslice.DriverResources`. -/
structure DriverResources where
  pools : GoMap String Pool

/-- The body of `PublishResources`'s loop over `maps.Values(advertisableDevices)`. -/
def appendDevice (devices : List Device) (e : Entry String Device) : List Device :=
  devices ++ [e.2]

/-- The `DriverResources` `PublishResources` hands the helper: one pool, named after the node,
with one slice of the advertisable devices, listed in the order `order` in which the runtime
enumerates the map. -/
def driverResources (nodeName : String) (order : List (Entry String Device)) : DriverResources :=
  ⟨Finmap.singleton nodeName ⟨[⟨order.foldl appendDevice []⟩]⟩⟩

/-- The devices the pool `nodeName` lists, slice after slice. -/
def poolDevices (res : DriverResources) (nodeName : String) : List Device :=
  match res.pools.lookup nodeName with
  | some pool => pool.slices.flatMap (·.devices)
  | none => []

/-- What a reader of the pool `nodeName` finds: its devices, by name. -/
def readBack (res : DriverResources) (nodeName : String) : DeviceMap :=
  ((poolDevices res nodeName).map fun d => (⟨d.name, d⟩ : Entry String Device)).toFinmap

/-- Every device of the map is stored under its own name. -/
def NamedByKey (m : DeviceMap) : Prop := ∀ k d, m.lookup k = some d → d.name = k

/-- The last device set handed to the helper is the snapshot's advertisable devices. -/
def Fresh (s : Agent) : Prop :=
  s.published.getLast? = some (getAdvertisableDevices consts s.allocatable)

instance (s : Agent) : Decidable (Fresh consts s) := inferInstanceAs (Decidable (_ = _))

/-- What a tick's reconcile is answered: the node's labels or `NotFound`, and the policies. -/
def TickEnv.Answered (env : TickEnv) : Prop :=
  (∀ err, env.api.node = .error err → err.notFound = true) ∧ ∃ items, env.api.policies = .ok items

/-- The event's reconcile is answered, for a tick; an event-path reconcile may get any answer. -/
def Event.Answered : Event → Prop
  | .reconcile _ => True
  | .tick env => env.Answered

variable {consts}

/-! ## One operation -/

theorem fresh_publishResources (s : Agent) (e : Option Error) :
    Fresh consts (publishResources consts s e).1 := by
  simp [Fresh, List.getLast?_concat]

/-- `Start` returns a driver only when its publish succeeded: the state after the publish. -/
theorem start_eq_ok {s s' : Agent} {publish : Option Error} (h : start consts s publish = .ok s') :
    publish = none ∧ s' = (publishResources consts s none).1 := by
  cases publish with
  | none => exact ⟨rfl, (Except.ok.inj h).symm⟩
  | some err => exact Except.noConfusion h

/-- A driver that `Start` returns has handed over its advertisable devices. -/
theorem fresh_start {s s' : Agent} {publish : Option Error} (h : start consts s publish = .ok s') :
    Fresh consts s' := by
  obtain ⟨-, rfl⟩ := start_eq_ok h
  exact fresh_publishResources s none

theorem fresh_updateDeviceResourceNames {s : Agent} (h : Fresh consts s) (M : GoMap String String)
    (e : Option Error) : Fresh consts (updateDeviceResourceNames consts s M e).1 := by
  simp only [updateDeviceResourceNames]
  split_ifs with hne
  · exact fresh_publishResources _ _
  · show Fresh consts { s with allocatable := _ }
    rw [not_not.mp hne]
    exact h

/-- A tag update that returns an error has published: its error is the notification's. -/
theorem fresh_of_updateDeviceResourceNames_err {s : Agent} {M : GoMap String String}
    {e : Option Error} (h : (updateDeviceResourceNames consts s M e).2 ≠ none) :
    Fresh consts (updateDeviceResourceNames consts s M e).1 := by
  simp only [updateDeviceResourceNames] at h ⊢
  split_ifs at h ⊢
  · exact fresh_publishResources _ _
  · exact absurd rfl h

/-- **Every reconcile keeps the set handed over fresh**, whatever the cluster answers. -/
theorem fresh_reconcile {s : Agent} (h : Fresh consts s) (env : ApiEnv) :
    Fresh consts (reconcile consts s env).1 := by
  rcases reconcile_fst_cases consts s env with hs | ⟨_, _, -, -, ⟨-, hs⟩ | ⟨-, hs⟩⟩ <;> rw [hs]
  exacts [h, fresh_updateDeviceResourceNames (by exact h) _ _, h]

/-- A reapply whose reconcile gets the node's labels or `NotFound`, and the policies, succeeds,
or fails on the republish, which has published. -/
theorem reapplyPolicies_ok_or_fresh {s : Agent} (hc : s.policyController = true) {api : ApiEnv}
    (hn : ∀ err, api.node = .error err → err.notFound = true) {items : List SriovResourcePolicy}
    (hp : api.policies = .ok items) :
    (reapplyPolicies consts s api).2 = none ∨ Fresh consts (reapplyPolicies consts s api).1 := by
  rw [reapplyPolicies_snd, reapplyPolicies_fst, if_pos hc, if_pos hc]
  rcases hne : api.node with err | nodeLabels
  · exact .inl (by rw [reconcile_of_notFound hne (hn err hne)]; rfl)
  · by_cases hm : (matchingPolicies nodeLabels items).length ≤ 1
    · rw [reconcile_of_le_one hne hp hm]
      by_cases he : (applyResourcePolicyToDevices consts
          { s with currentResourcePolicy := uniqueMatch nodeLabels items } api.republish).2 = none
      · exact .inl (by simp only [he, Option.map_none'])
      · exact .inr (fresh_of_updateDeviceResourceNames_err he)
    · exact .inl (by rw [reconcile_of_two_le hne hp (by omega)]; rfl)

/-- **A tick whose reconcile is answered keeps the set handed over fresh**, whatever discovery
returns and whatever the helper answers. -/
theorem fresh_syncDevicesAndResources {s : Agent} (h : Fresh consts s)
    (hc : s.policyController = true) {env : TickEnv} (ha : env.Answered) :
    Fresh consts (syncDevicesAndResources consts s env).1 := by
  obtain ⟨hn, items, hp⟩ := ha
  rcases hd : env.discovery with err | D
  · simpa only [syncDevicesAndResources, hd] using h
  · by_cases hD : D = s.allocatable
    · rwa [syncDevicesAndResources_of_eq hd hD]
    · have hr : (reapplyPolicies consts (setAllocatableDevices s D) env.api).2 = none ∨
          Fresh consts (reapplyPolicies consts (setAllocatableDevices s D) env.api).1 :=
        reapplyPolicies_ok_or_fresh (by exact hc) hn hp
      rw [syncDevicesAndResources_of_ne hd hD]
      rcases hre : reapplyPolicies consts (setAllocatableDevices s D) env.api with ⟨s', _ | e⟩
      · exact fresh_publishResources _ _
      · rw [hre] at hr
        exact hr.resolve_left Option.noConfusion

/-! ## Runs -/

theorem agentStep_policyController (s : Agent) (e : Event) :
    (agentStep consts s e).policyController = s.policyController := by
  cases e
  exacts [reconcile_policyController _ _, syncDevicesAndResources_policyController _ _]

theorem fresh_agentStep {s : Agent} (h : Fresh consts s) (hc : s.policyController = true)
    {e : Event} (he : e.Answered) : Fresh consts (agentStep consts s e) := by
  cases e with
  | reconcile env => exact fresh_reconcile h env
  | tick env => exact fresh_syncDevicesAndResources h hc he

theorem fresh_runAgent_of {s : Agent} (h : Fresh consts s) (hc : s.policyController = true)
    {events : List Event} (he : ∀ e ∈ events, e.Answered) :
    Fresh consts (runAgent consts s events) := by
  induction events generalizing s with
  | nil => exact h
  | cons e events ih =>
    exact ih (fresh_agentStep h hc (he e (.head _))) ((agentStep_policyController s e).trans hc)
      fun e' he' => he e' (.tail _ he')

theorem policyController_start {s s' : Agent} {publish : Option Error}
    (h : start consts s publish = .ok s') : s'.policyController = s.policyController := by
  obtain ⟨-, rfl⟩ := start_eq_ok h
  rfl

/-- **The helper is never left with a stale set.** From a driver `Start` returned, along any run
whose ticks' reconciles get the node's labels (or `NotFound`) and the policies, with any
discovery results, any answers to the event-path reconciles and any answers of the helper, the
last device set handed to the helper is the snapshot's advertisable devices in every state. -/
theorem fresh_runAgent {D : DeviceMap} {publish : Option Error} {s : Agent}
    (hs : start consts (startup D) publish = .ok s) {events : List Event}
    (he : ∀ e ∈ events, e.Answered) : Fresh consts (runAgent consts s events) :=
  fresh_runAgent_of (fresh_start hs) (policyController_start hs) he

/-- A tick after the sample reconcile whose own reconcile cannot list the policies: the snapshot
is replaced by discovery's untagged `devA`, and the helper keeps `devA` tagged `r`. -/
theorem syncDevicesAndResources_stale :
    Fresh sampleConsts taggedAgent ∧
      ¬ Fresh sampleConsts (syncDevicesAndResources sampleConsts taggedAgent listFailsTick).1 := by
  decide

/-! ## The slice reads back to the set handed over -/

theorem foldl_appendDevice (order : List (Entry String Device)) (acc : List Device) :
    order.foldl appendDevice acc = acc ++ order.map (·.2) := by
  induction order generalizing acc with
  | nil => simp
  | cons e order ih => simp [ih, appendDevice]

/-- **The published slice reads back to the set.** When the set `P` handed over stores each
device under its name, the pool of `PublishResources`'s resources lists each device of `P` once,
and read by name gives `P` back, whatever order the runtime enumerates `P` in. -/
theorem readBack_driverResources {P : DeviceMap} (hP : NamedByKey P)
    {order : List (Entry String Device)} (ho : GoMap.Enumerates P order) (nodeName : String) :
    readBack (driverResources nodeName order) nodeName = P ∧
      ((poolDevices (driverResources nodeName order) nodeName).map (·.name)).Nodup := by
  have hdev : poolDevices (driverResources nodeName order) nodeName = order.map (·.2) := by
    simp [poolDevices, driverResources, foldl_appendDevice]
  have hnamed : (order.map (·.2)).map (fun d => (⟨d.name, d⟩ : Entry String Device)) = order := by
    rw [List.map_map]
    refine (List.map_congr_left fun e he => ?_).trans (List.map_id order)
    obtain ⟨k, d⟩ := e
    simp [hP k d (ho.mem_iff.mp he)]
  refine ⟨Finmap.ext_lookup fun k => ?_, ?_⟩
  · rw [readBack, Finmap.dlookup_list_toFinmap, hdev, hnamed, ho.lookup_eq]
  · have hkeys : (order.map (·.2)).map (·.name) = order.keys := by
      rw [List.map_map, List.keys]
      refine List.map_congr_left fun e he => ?_
      obtain ⟨k, d⟩ := e
      exact hP k d (ho.mem_iff.mp he)
    rw [hdev, hkeys]
    exact ho.nodupKeys

/-! ## What is advertised -/

/-- With the tags the active policy's mapping, the advertisable devices are the snapshot's
devices the mapping selects. -/
theorem getAdvertisableDevices_of_tagsMatchPolicy {s : Agent} (h : TagsMatchPolicy consts s) :
    getAdvertisableDevices consts s.allocatable = s.allocatable.filter fun name _ =>
      ((getFilteredDeviceResourceMap consts s.currentResourcePolicy s.allocatable).lookup
        name).isSome := by
  refine Finmap.ext_lookup fun name => ?_
  simp only [getAdvertisableDevices, GoMap.lookup_filter]
  have ht := h name
  rw [tagAt] at ht
  cases hd : s.allocatable.lookup name with
  | none => rfl
  | some d =>
    rw [hd, Option.some_bind] at ht
    cases hM : (getFilteredDeviceResourceMap consts s.currentResourcePolicy s.allocatable).lookup
        name with
    | none => simp [Option.filter, ht, hM]
    | some r => simp [Option.filter, ht, hM, getFilteredDeviceResourceMap_ne_empty hM]

end SriovDra.Driver
