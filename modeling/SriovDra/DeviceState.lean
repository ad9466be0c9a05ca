import SriovDra.Controller.ResourceMap

/-!
# The device state table and the node agent

`pkg/devicestate/state.go` is outside the modelled sources: only its test is at hand. The table
operations the controller and the driver call are modelled from the spec (§4.1) and the
repository's design notes, each under a doc comment that says so:

* `GetAllocatableDevices` returns the snapshot (`Agent.allocatable`), `setAllocatableDevices`
  replaces it;
* `getAdvertisableDevices` keeps the devices whose tag is a non-empty string;
* `updateDeviceResourceNames` gives every device of the snapshot the mapping's non-empty value
  as its tag and clears the tag otherwise (`tagDevices`), and calls the republish notification,
  `Driver.PublishResources`, when the snapshot changed (a change of the snapshot, not of a tag
  as the spec words it; see `updateDeviceResourceNames`). Its error is the notification's; the
  tags are not rolled back.

`Agent` is the node agent's state, flat: the table's snapshot, the reconciler's
`currentResourcePolicy`, whether the driver holds the reconciler (`SetPolicyController`), and
every device set `PublishResources` has pushed, oldest first. The helper's answer to a publish
is an input.

Results:
* `resourceName_setResourceName`, `tagsAre_tagDevices`: after the update a device's tag is the
  mapping's non-empty value for it, and nothing else.
* `getFilteredDeviceResourceMap_tagDevices`: re-tagging leaves the policy's mapping unchanged.
* `tagDevices_tagDevices`: the update is idempotent, so a second call with the same mapping
  changes nothing and does not notify (`updateDeviceResourceNames_idem`).
-/

namespace SriovDra.DeviceState

open SriovDra SriovDra.Controller

section Table

variable (consts : Consts)

/-! ## One device's tag -/

/-- Modelled from the spec: clearing a device's tag deletes its `AttributeResourceName`
attribute when present. -/
def clearResourceName (device : Device) : Device :=
  if consts.attributeResourceName ∈ device.attributes then
    { device with attributes := device.attributes.erase consts.attributeResourceName }
  else device

/-- Modelled from the spec: the per-device step of `UpdateDeviceResourceNames`. A non-empty
value becomes the tag (`{StringValue: value}`) unless the tag already is that value; anything
else clears the tag. -/
def setResourceName (value : Option String) (device : Device) : Device :=
  match value with
  | some r =>
    if r ≠ "" then
      if device.resourceName consts = some r then device
      else
        { device with
          attributes := device.attributes.insert consts.attributeResourceName
            { stringValue := some r } }
    else clearResourceName consts device
  | none => clearResourceName consts device

variable {consts}

@[simp]
theorem resourceName_clearResourceName (d : Device) :
    (clearResourceName consts d).resourceName consts = none := by
  unfold clearResourceName Device.resourceName
  split_ifs with h
  · simp
  · simp [Finmap.lookup_eq_none.mpr h]

@[simp]
theorem resourceName_setResourceName (v : Option String) (d : Device) :
    (setResourceName consts v d).resourceName consts = v.filter (· ≠ "") := by
  unfold setResourceName
  split
  · split_ifs with hr h
    · simp [Option.filter, h, hr]
    · simp [Option.filter, Device.resourceName, hr]
    · simp [Option.filter, hr]
  · simp

theorem lookup_setResourceName_of_ne (v : Option String) (d : Device) {k : String}
    (hk : k ≠ consts.attributeResourceName) :
    (setResourceName consts v d).attributes.lookup k = d.attributes.lookup k := by
  unfold setResourceName clearResourceName
  split <;> split_ifs <;> simp [Finmap.lookup_erase_ne hk, Finmap.lookup_insert_of_ne _ hk]

theorem sameFilterAttributes_setResourceName (v : Option String) (d : Device) :
    SameFilterAttributes consts (setResourceName consts v d) d :=
  sameFilterAttributes_of_tag fun _ hk => lookup_setResourceName_of_ne v d hk

theorem setResourceName_of_resourceName {r : String} {d : Device} (hr : r ≠ "")
    (h : d.resourceName consts = some r) : setResourceName consts (some r) d = d := by
  simp [setResourceName, hr, h]

theorem clearResourceName_clearResourceName (d : Device) :
    clearResourceName consts (clearResourceName consts d) = clearResourceName consts d := by
  unfold clearResourceName
  split_ifs <;> simp_all

theorem setResourceName_setResourceName (v : Option String) (d : Device) :
    setResourceName consts v (setResourceName consts v d) = setResourceName consts v d := by
  match v with
  | some r =>
    by_cases hr : r ≠ ""
    · exact setResourceName_of_resourceName hr (by simp [Option.filter, hr])
    · simp only [setResourceName, hr, if_false, clearResourceName_clearResourceName]
  | none => simp only [setResourceName, clearResourceName_clearResourceName]

/-! ## The snapshot's tags -/

variable (consts)

/-- Modelled from the spec: the tag update of `UpdateDeviceResourceNames` over the whole
snapshot, devices absent from the mapping included. -/
def tagDevices (allocatable : DeviceMap) (deviceResourceMap : GoMap String String) : DeviceMap :=
  allocatable.mapValues fun name d => setResourceName consts (deviceResourceMap.lookup name) d

/-- Modelled from the spec: `GetAdvertisableDevices`, the devices with a non-empty tag. -/
def getAdvertisableDevices (allocatable : DeviceMap) : DeviceMap :=
  allocatable.filter fun _ d =>
    match d.resourceName consts with
    | some r => r != ""
    | none => false

variable {consts}

@[simp]
theorem lookup_tagDevices (m : DeviceMap) (M : GoMap String String) (k : String) :
    (tagDevices consts m M).lookup k = (m.lookup k).map (setResourceName consts (M.lookup k)) :=
  GoMap.lookup_mapValues _ m k

theorem tagAt_tagDevices (m : DeviceMap) (M : GoMap String String) (k : String) :
    tagAt consts (tagDevices consts m M) k = (m.lookup k).bind fun _ => (M.lookup k).filter (· ≠ "") := by
  simp only [tagAt, lookup_tagDevices]
  cases m.lookup k <;> simp

/-- **The update leaves exactly the mapping's tags**, when the mapping has no empty value. -/
theorem tagsAre_tagDevices (m : DeviceMap) {M : GoMap String String}
    (hM : ∀ k r, M.lookup k = some r → r ≠ "") : TagsAre consts (tagDevices consts m M) M := by
  intro k
  rw [tagAt_tagDevices, lookup_tagDevices]
  cases m.lookup k with
  | none => rfl
  | some d =>
    cases h : M.lookup k with
    | none => rfl
    | some r => simp [hM k r h]

theorem tagDevices_tagDevices (m : DeviceMap) (M : GoMap String String) :
    tagDevices consts (tagDevices consts m M) M = tagDevices consts m M :=
  Finmap.ext_lookup fun k => by
    simp only [lookup_tagDevices, Option.map_map]
    cases m.lookup k <;> simp [setResourceName_setResourceName]

theorem getFilteredDeviceResourceMap_tagDevices (policy : Option SriovResourcePolicy)
    (m : DeviceMap) (M : GoMap String String) :
    getFilteredDeviceResourceMap consts policy (tagDevices consts m M) =
      getFilteredDeviceResourceMap consts policy m :=
  getFilteredDeviceResourceMap_mapValues policy m fun _ _ =>
    sameFilterAttributes_setResourceName _ _

/-- The policy's mapping never holds an empty resource name. -/
theorem getFilteredDeviceResourceMap_ne_empty {policy : Option SriovResourcePolicy}
    {m : DeviceMap} {k r : String}
    (h : (getFilteredDeviceResourceMap consts policy m).lookup k = some r) : r ≠ "" := by
  rw [lookup_getFilteredDeviceResourceMap] at h
  obtain ⟨p, -, hp⟩ := Option.bind_eq_some.mp h
  obtain ⟨d, -, hd⟩ := Option.bind_eq_some.mp hp
  obtain ⟨c, -, hc⟩ := List.exists_of_findSome?_eq_some hd
  obtain ⟨⟨hne, -⟩, rfl⟩ := selectFor_eq_some_iff.mp hc
  exact hne

/-! ## The node agent -/

/-- The node agent's state. -/
structure Agent where
  /-- `Manager.allocatable`. -/
  allocatable : DeviceMap
  /-- `SriovResourcePolicyReconciler.currentResourcePolicy`. -/
  currentResourcePolicy : Option SriovResourcePolicy
  /-- `Driver.policyController != nil`. -/
  policyController : Bool
  /-- The device sets `PublishResources` has pushed, oldest first. -/
  published : List DeviceMap

/-- Setting the active policy to the one already active changes nothing. -/
theorem Agent.with_currentResourcePolicy {s : Agent} {p : Option SriovResourcePolicy}
    (h : s.currentResourcePolicy = p) : { s with currentResourcePolicy := p } = s := by
  subst h; rfl

variable (consts)

/-- Modelled from the spec: `SetAllocatableDevices` replaces the snapshot. -/
def setAllocatableDevices (s : Agent) (devices : DeviceMap) : Agent :=
  { s with allocatable := devices }

/-- `Driver.PublishResources`: push the advertisable devices; `outcome` is the helper's answer. -/
def publishResources (s : Agent) (outcome : Option Error) : Agent × Option Error :=
  ({ s with published := s.published ++ [getAdvertisableDevices consts s.allocatable] }, outcome)

/-- Modelled from the spec: `UpdateDeviceResourceNames`, whose republish notification is
`PublishResources`, answered `republish`. A change is detected as inequality of the snapshot,
where the spec asks whether any tag changed: the two differ only when an `AttributeResourceName`
attribute holding no non-empty string is erased, an attribute the updates themselves never
write. -/
def updateDeviceResourceNames (s : Agent) (deviceResourceMap : GoMap String String)
    (republish : Option Error) : Agent × Option Error :=
  let allocatable := tagDevices consts s.allocatable deviceResourceMap
  if allocatable ≠ s.allocatable then publishResources consts { s with allocatable } republish
  else ({ s with allocatable }, none)

variable {consts}

section Agent

variable (s : Agent) (M : GoMap String String) (e : Option Error)

@[simp] theorem setAllocatableDevices_allocatable (m : DeviceMap) :
    (setAllocatableDevices s m).allocatable = m := rfl
@[simp] theorem setAllocatableDevices_currentResourcePolicy (m : DeviceMap) :
    (setAllocatableDevices s m).currentResourcePolicy = s.currentResourcePolicy := rfl
@[simp] theorem setAllocatableDevices_policyController (m : DeviceMap) :
    (setAllocatableDevices s m).policyController = s.policyController := rfl
@[simp] theorem setAllocatableDevices_published (m : DeviceMap) :
    (setAllocatableDevices s m).published = s.published := rfl

@[simp] theorem publishResources_allocatable :
    (publishResources consts s e).1.allocatable = s.allocatable := rfl
@[simp] theorem publishResources_currentResourcePolicy :
    (publishResources consts s e).1.currentResourcePolicy = s.currentResourcePolicy := rfl
@[simp] theorem publishResources_policyController :
    (publishResources consts s e).1.policyController = s.policyController := rfl
@[simp] theorem publishResources_published :
    (publishResources consts s e).1.published =
      s.published ++ [getAdvertisableDevices consts s.allocatable] := rfl
@[simp] theorem publishResources_err : (publishResources consts s e).2 = e := rfl

@[simp] theorem updateDeviceResourceNames_allocatable :
    (updateDeviceResourceNames consts s M e).1.allocatable = tagDevices consts s.allocatable M := by
  simp only [updateDeviceResourceNames]; split_ifs <;> rfl
@[simp] theorem updateDeviceResourceNames_currentResourcePolicy :
    (updateDeviceResourceNames consts s M e).1.currentResourcePolicy = s.currentResourcePolicy := by
  simp only [updateDeviceResourceNames]; split_ifs <;> rfl
@[simp] theorem updateDeviceResourceNames_policyController :
    (updateDeviceResourceNames consts s M e).1.policyController = s.policyController := by
  simp only [updateDeviceResourceNames]; split_ifs <;> rfl

/-- The notification publishes once when a tag changed, never otherwise. -/
theorem updateDeviceResourceNames_published :
    (updateDeviceResourceNames consts s M e).1.published =
      if tagDevices consts s.allocatable M ≠ s.allocatable then
        s.published ++ [getAdvertisableDevices consts (tagDevices consts s.allocatable M)]
      else s.published := by
  simp only [updateDeviceResourceNames]; split_ifs <;> rfl

theorem updateDeviceResourceNames_err :
    (updateDeviceResourceNames consts s M e).2 =
      if tagDevices consts s.allocatable M ≠ s.allocatable then e else none := by
  simp only [updateDeviceResourceNames]; split_ifs <;> rfl

/-- The state the update leaves does not depend on the helper's answer to the notification. -/
theorem updateDeviceResourceNames_fst (e' : Option Error) :
    (updateDeviceResourceNames consts s M e).1 = (updateDeviceResourceNames consts s M e').1 := by
  simp only [updateDeviceResourceNames]; split_ifs <;> rfl

/-- **Idempotent tag update**: a second call with the same mapping changes nothing, publishes
nothing and succeeds. -/
theorem updateDeviceResourceNames_idem (e' : Option Error) :
    updateDeviceResourceNames consts (updateDeviceResourceNames consts s M e).1 M e' =
      ((updateDeviceResourceNames consts s M e).1, none) := by
  have h : tagDevices consts (updateDeviceResourceNames consts s M e).1.allocatable M =
      (updateDeviceResourceNames consts s M e).1.allocatable := by
    rw [updateDeviceResourceNames_allocatable, tagDevices_tagDevices]
  generalize (updateDeviceResourceNames consts s M e).1 = t at h ⊢
  simp only [updateDeviceResourceNames, h, ne_eq, not_true_eq_false, if_false]

/-- The test `adds, updates, and clears resource names correctly` of `state_test.go`, replayed on
the model: two devices without attributes; `devA` gets a name, the same name again changes
nothing and succeeds, then `devA` gets another name and `devB`'s empty one clears it. -/
example :
    let s : Agent := ⟨(Finmap.singleton "devA" ⟨"", ∅⟩).insert "devB" ⟨"", ∅⟩, none, true, []⟩
    let s₁ := updateDeviceResourceNames sampleConsts s (Finmap.singleton "devA" "vendor.com/resA") none
    let s₂ := updateDeviceResourceNames sampleConsts s₁.1
      (Finmap.singleton "devA" "vendor.com/resA") none
    let s₃ := updateDeviceResourceNames sampleConsts s₂.1
      ((Finmap.singleton "devA" "vendor.com/resA2").insert "devB" "") none
    s₁.2 = none ∧ tagAt sampleConsts s₁.1.allocatable "devA" = some "vendor.com/resA" ∧
      s₂.2 = none ∧ s₂.1.allocatable = s₁.1.allocatable ∧ s₃.2 = none ∧
      tagAt sampleConsts s₃.1.allocatable "devA" = some "vendor.com/resA2" ∧
      s₃.1.allocatable.lookup "devB" = some ⟨"", ∅⟩ := by
  decide

end Agent

end Table

end SriovDra.DeviceState
