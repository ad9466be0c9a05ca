import SriovDra.Types

/-!
# Matching a device against a policy's filters, and a node against its selector

Model of `deviceMatchesFilter`, `deviceMatchesFilters`, `stringSliceContains` and
`matchesNodeSelector` (`pkg/controller/resourcepolicycontroller.go`).

* The six attribute checks of `deviceMatchesFilter` are one definition, `attributeMatches`,
  applied to each list with the attribute it reads: the first five read the string value, the
  NUMA check reads the int value written in decimal (`strconv.FormatInt(v, 10)`). The early
  `return false`s of the source are the conjunction of the six checks. The `Drivers` list is
  only logged.
* `labels.Set(sel).AsSelector().Matches(labels.Set(l))` (apimachinery, a library) holds
  when every pair of `sel` is a label of `l`: the selector of a set is one equality requirement
  per pair, built without validation.

Results:
* `deviceMatchesFilter_drivers`: the `Drivers` list never changes the outcome.
* `deviceMatchesFilter_congr`, `deviceMatchesFilters_congr`: the outcome depends only on the six
  attributes a filter reads, so never on the exposure tag (`sameFilterAttributes_of_tag`).
* `matchesNodeSelector_iff`: the selector matches iff each of its pairs is a label of the node.
-/

namespace SriovDra.Controller

open SriovDra

/-- `stringSliceContains`. -/
def stringSliceContains (slice : List String) (item : String) : Bool :=
  slice.any (· == item)

@[simp]
theorem stringSliceContains_iff {slice : List String} {item : String} :
    stringSliceContains slice item = true ↔ item ∈ slice := by
  simp only [stringSliceContains, List.any_eq_true, beq_iff_eq, exists_eq_right]

/-- One check of `deviceMatchesFilter`: a non-empty `values` requires the attribute to exist,
its value as read by `value` to be set, and to be listed. -/
def attributeMatches (values : List String) (attr : Option DeviceAttribute)
    (value : DeviceAttribute → Option String) : Bool :=
  values.isEmpty ||
    match attr.bind value with
    | some v => stringSliceContains values v
    | none => false

/-- The value a NUMA check compares: `strconv.FormatInt(*IntValue, 10)`. -/
def numaValue (a : DeviceAttribute) : Option String :=
  a.intValue.map fun v => toString v

section Filters

variable (consts : Consts)

/-- `deviceMatchesFilter`. -/
def deviceMatchesFilter (device : Device) (filter : ResourceFilter) : Bool :=
  attributeMatches filter.vendors (device.attributes.lookup consts.attributeVendorID)
      (·.stringValue) &&
    attributeMatches filter.devices (device.attributes.lookup consts.attributeDeviceID)
      (·.stringValue) &&
    attributeMatches filter.pciAddresses (device.attributes.lookup consts.attributePciAddress)
      (·.stringValue) &&
    attributeMatches filter.pfNames (device.attributes.lookup consts.attributePFName)
      (·.stringValue) &&
    attributeMatches filter.rootDevices
      (device.attributes.lookup consts.attributeParentPciAddress) (·.stringValue) &&
    attributeMatches filter.numaNodes (device.attributes.lookup consts.attributeNumaNode)
      numaValue

/-- `deviceMatchesFilters`: no filter matches every device; otherwise any filter may. -/
def deviceMatchesFilters (device : Device) (filters : List ResourceFilter) : Bool :=
  filters.isEmpty || filters.any (deviceMatchesFilter consts device)

theorem deviceMatchesFilter_drivers (device : Device) (filter : ResourceFilter)
    (ds : List String) :
    deviceMatchesFilter consts device { filter with drivers := ds } =
      deviceMatchesFilter consts device filter := rfl

/-- Two devices whose attributes agree on the six names a filter reads. -/
def SameFilterAttributes (d₁ d₂ : Device) : Prop :=
  ∀ k ∈ [consts.attributeVendorID, consts.attributeDeviceID, consts.attributePciAddress,
    consts.attributePFName, consts.attributeParentPciAddress, consts.attributeNumaNode],
    d₁.attributes.lookup k = d₂.attributes.lookup k

variable {consts}

theorem deviceMatchesFilter_congr {d₁ d₂ : Device} (h : SameFilterAttributes consts d₁ d₂)
    (filter : ResourceFilter) :
    deviceMatchesFilter consts d₁ filter = deviceMatchesFilter consts d₂ filter := by
  simp only [SameFilterAttributes, List.mem_cons, List.mem_singleton, List.not_mem_nil,
    or_false, forall_eq_or_imp, forall_eq] at h
  obtain ⟨h1, h2, h3, h4, h5, h6⟩ := h
  simp only [deviceMatchesFilter, h1, h2, h3, h4, h5, h6]

theorem deviceMatchesFilters_congr {d₁ d₂ : Device} (h : SameFilterAttributes consts d₁ d₂)
    (filters : List ResourceFilter) :
    deviceMatchesFilters consts d₁ filters = deviceMatchesFilters consts d₂ filters := by
  rw [deviceMatchesFilters, deviceMatchesFilters, funext (deviceMatchesFilter_congr h)]

/-- Changing only the exposure tag attribute keeps the six a filter reads. -/
theorem sameFilterAttributes_of_tag {d₁ d₂ : Device}
    (h : ∀ k, k ≠ consts.attributeResourceName →
      d₁.attributes.lookup k = d₂.attributes.lookup k) :
    SameFilterAttributes consts d₁ d₂ := fun k hk =>
  h k fun e => consts.resourceName_fresh (e ▸ hk)

end Filters

/-- `labels.Set(selector).AsSelector().Matches(labels.Set(nodeLabels))`. -/
def selectorMatches (selector nodeLabels : GoMap String String) : Prop :=
  ∀ e ∈ selector.entries, nodeLabels.lookup e.1 = some e.2

instance (selector nodeLabels : GoMap String String) :
    Decidable (selectorMatches selector nodeLabels) :=
  inferInstanceAs (Decidable (∀ e ∈ selector.entries, _))

/-- `matchesNodeSelector`: an empty selector matches every node. -/
def matchesNodeSelector (nodeLabels nodeSelector : GoMap String String) : Bool :=
  GoMap.len nodeSelector == 0 || decide (selectorMatches nodeSelector nodeLabels)

theorem matchesNodeSelector_iff {nodeLabels nodeSelector : GoMap String String} :
    matchesNodeSelector nodeLabels nodeSelector = true ↔
      ∀ k v, nodeSelector.lookup k = some v → nodeLabels.lookup k = some v := by
  have hsel : selectorMatches nodeSelector nodeLabels ↔
      ∀ k v, nodeSelector.lookup k = some v → nodeLabels.lookup k = some v := by
    simp only [selectorMatches, Finmap.lookup_eq_some_iff]
    exact ⟨fun h k v hm => h _ hm, fun h e he => h e.1 e.2 he⟩
  simp only [matchesNodeSelector, Bool.or_eq_true, beq_iff_eq, decide_eq_true_eq, hsel]
  refine or_iff_right_of_imp fun h0 k v hk => ?_
  have hk' := Finmap.mem_keys.mpr (Finmap.mem_of_lookup_eq_some hk)
  rw [Finset.card_eq_zero.mp h0] at hk'
  exact absurd hk' (Finset.not_mem_empty k)

end SriovDra.Controller
