import SriovDra.Controller.Filter

/-!
# The device → resource-name mapping

Model of `getFilteredDeviceResourceMap` (`pkg/controller/resourcepolicycontroller.go`): for each
config of the active policy in declared order, skip it when its resource name is empty, else
range over the allocatable devices and give the config's resource name to every device not yet
assigned whose attributes match the config's filters.

Go enumerates the map in a fresh random order for each config, so the loop takes one enumeration
per config (`getFilteredDeviceResourceMapIn`, config `i` ranging over `enum i`).

Results:
* `lookup_getFilteredDeviceResourceMapIn`: for every policy, snapshot and choice of orders, the
  result sends a device to the resource name of the first config that selects it
  (`firstResourceName`), and omits it when none does; it is empty without a policy.
* `getFilteredDeviceResourceMap_spec`: the same, stated with the spec's own words
  (`SelectsSpec`: a non-empty resource name, and an empty filter list or some filter whose
  non-empty lists each contain the device's attribute), as the least index of a selecting config.
* `getFilteredDeviceResourceMap`: the result as a function of the snapshot, well defined since
  no order matters; `getFilteredDeviceResourceMapIn_eq` relates it to every run of the loop.
* `getFilteredDeviceResourceMap_mapValues`: it reads no exposure tag, so re-tagging the snapshot
  does not change it.
-/

namespace SriovDra.Controller

open SriovDra

/-- `List.findSome?` by index: the first hit is the least index at which `f` answers. -/
theorem findSome?_eq_some_iff_getElem? {α β : Type} {f : α → Option β} {l : List α} {b : β} :
    l.findSome? f = some b ↔
      ∃ (i : Nat) (a : α), l[i]? = some a ∧ f a = some b ∧
        ∀ j < i, ∀ a', l[j]? = some a' → f a' = none := by
  induction l with
  | nil => simp
  | cons x l ih =>
    simp only [List.findSome?_cons]
    cases hx : f x with
    | some b' =>
      simp only [Option.some.injEq]
      constructor
      · rintro rfl
        exact ⟨0, x, List.getElem?_cons_zero, hx, fun j hj => absurd hj (Nat.not_lt_zero j)⟩
      · rintro ⟨_ | i, a, hi, ha, hmin⟩
        · rw [List.getElem?_cons_zero, Option.some.injEq] at hi
          rwa [← hi, hx, Option.some.injEq] at ha
        · cases (hmin 0 i.succ_pos x List.getElem?_cons_zero).symm.trans hx
    | none =>
      rw [ih]
      constructor
      · rintro ⟨i, a, hi, ha, hmin⟩
        refine ⟨i + 1, a, by rwa [List.getElem?_cons_succ], ha, fun j hj a' ha' => ?_⟩
        cases j with
        | zero => rw [List.getElem?_cons_zero, Option.some.injEq] at ha'; rwa [← ha']
        | succ j => exact hmin j (by omega) a' (by rwa [List.getElem?_cons_succ] at ha')
      · rintro ⟨_ | i, a, hi, ha, hmin⟩
        · rw [List.getElem?_cons_zero, Option.some.injEq] at hi
          cases hx.symm.trans (hi ▸ ha)
        · rw [List.getElem?_cons_succ] at hi
          exact ⟨i, a, hi, ha, fun j hj a' ha' =>
            hmin (j + 1) (by omega) a' (by rwa [List.getElem?_cons_succ])⟩

section Mapping

variable (consts : Consts)

/-! ## The loops -/

/-- One iteration of the inner loop: skip a device already assigned, else assign it when it
matches the config's filters. -/
def assignStep (config : Config) (acc : GoMap String String) (e : Entry String Device) :
    GoMap String String :=
  if e.1 ∈ acc then acc
  else if deviceMatchesFilters consts e.2 config.resourceFilters then
    acc.insert e.1 config.resourceName
  else acc

/-- One iteration of the outer loop, the inner `range` visiting `devices` in order. -/
def applyConfig (config : Config) (acc : GoMap String String)
    (devices : List (Entry String Device)) : GoMap String String :=
  if config.resourceName = "" then acc else devices.foldl (assignStep consts config) acc

/-- The outer loop: the `i`-th config's inner `range` visits `enum i`. -/
def applyConfigs : List Config → (Nat → List (Entry String Device)) → GoMap String String →
    GoMap String String
  | [], _, acc => acc
  | c :: cs, enum, acc => applyConfigs cs (fun i => enum (i + 1)) (applyConfig consts c acc (enum 0))

/-- `getFilteredDeviceResourceMap`, given the order of each inner `range`. -/
def getFilteredDeviceResourceMapIn (currentResourcePolicy : Option SriovResourcePolicy)
    (enum : Nat → List (Entry String Device)) : GoMap String String :=
  match currentResourcePolicy with
  | none => ∅
  | some p => applyConfigs consts p.configs enum ∅

/-- The resource name config `c` gives device `d`, if it selects it. -/
def selectFor (d : Device) (c : Config) : Option String :=
  if c.resourceName ≠ "" ∧ deviceMatchesFilters consts d c.resourceFilters then
    some c.resourceName
  else none

/-- The resource name of the first config that selects `d`. -/
def firstResourceName (configs : List Config) (d : Device) : Option String :=
  configs.findSome? (selectFor consts d)

/-! ## The loops compute the first selecting config -/

variable {consts}

theorem firstResourceName_cons (c : Config) (cs : List Config) (d : Device) :
    firstResourceName consts (c :: cs) d =
      (selectFor consts d c).or (firstResourceName consts cs d) := by
  simp only [firstResourceName, List.findSome?_cons]
  cases selectFor consts d c <;> rfl

theorem lookup_foldl_assignStep (config : Config) {l : List (Entry String Device)}
    (hl : l.NodupKeys) (acc : GoMap String String) (k : String) :
    (l.foldl (assignStep consts config) acc).lookup k =
      (acc.lookup k).or ((l.dlookup k).bind fun d =>
        if deviceMatchesFilters consts d config.resourceFilters then some config.resourceName
        else none) := by
  induction l generalizing acc with
  | nil => simp
  | cons e l ih =>
    obtain ⟨k', d'⟩ := e
    rw [List.nodupKeys_cons] at hl
    rw [List.foldl_cons, ih hl.2]
    by_cases hk : k = k'
    · subst hk
      have hnone : l.dlookup k = none := List.dlookup_eq_none.mpr hl.1
      rw [hnone, List.dlookup_cons_eq]
      unfold assignStep
      by_cases hmem : k ∈ acc
      · obtain ⟨v, hv⟩ := Finmap.mem_iff.mp hmem
        simp [hmem, hv]
      · have hacc : acc.lookup k = none := Finmap.lookup_eq_none.mpr hmem
        by_cases hm : deviceMatchesFilters consts d' config.resourceFilters <;>
          simp [hmem, hacc, hm]
    · have hstep : (assignStep consts config acc ⟨k', d'⟩).lookup k = acc.lookup k := by
        unfold assignStep
        split_ifs <;> simp [Finmap.lookup_insert_of_ne _ hk]
      rw [hstep, List.dlookup_cons_ne _ _ hk]

variable {m : GoMap String Device}

theorem lookup_applyConfig (config : Config) {devices : List (Entry String Device)}
    (h : GoMap.Enumerates m devices) (acc : GoMap String String) (k : String) :
    (applyConfig consts config acc devices).lookup k =
      (acc.lookup k).or ((m.lookup k).bind fun d => selectFor consts d config) := by
  unfold applyConfig
  rw [h.lookup_eq]
  split_ifs with he
  · cases acc.lookup k <;> cases devices.dlookup k <;> simp [selectFor, he]
  · rw [lookup_foldl_assignStep config h.nodupKeys]
    cases acc.lookup k <;> cases devices.dlookup k <;> simp [selectFor, he]

theorem lookup_applyConfigs (configs : List Config) {enum : Nat → List (Entry String Device)}
    (h : ∀ i, GoMap.Enumerates m (enum i)) (acc : GoMap String String) (k : String) :
    (applyConfigs consts configs enum acc).lookup k =
      (acc.lookup k).or ((m.lookup k).bind (firstResourceName consts configs)) := by
  induction configs generalizing enum acc with
  | nil => cases m.lookup k <;> simp [applyConfigs, firstResourceName]
  | cons c cs ih =>
    rw [applyConfigs, ih (fun i => h (i + 1)), lookup_applyConfig c (h 0)]
    cases m.lookup k <;> simp [firstResourceName_cons, Option.or_assoc]

/-- **The loop computes the first selecting config**, for every enumeration order. -/
theorem lookup_getFilteredDeviceResourceMapIn (policy : Option SriovResourcePolicy)
    {enum : Nat → List (Entry String Device)} (h : ∀ i, GoMap.Enumerates m (enum i))
    (k : String) :
    (getFilteredDeviceResourceMapIn consts policy enum).lookup k =
      policy.bind fun p => (m.lookup k).bind (firstResourceName consts p.configs) := by
  cases policy with
  | none => rfl
  | some p =>
    simp only [getFilteredDeviceResourceMapIn, lookup_applyConfigs p.configs h,
      Finmap.lookup_empty, Option.none_or, Option.some_bind]

/-! ## The spec's words -/

variable (consts)

/-- A non-empty list of a filter requires the attribute's value to be present and listed. -/
def ListedSpec (values : List String) (value : Option String) : Prop :=
  values ≠ [] → ∃ v, value = some v ∧ v ∈ values

/-- A device satisfies a filter: each non-empty list contains the attribute it constrains, a
string value for the first five, an int value written in decimal for the NUMA node. -/
def FilterSpec (d : Device) (f : ResourceFilter) : Prop :=
  ListedSpec f.vendors ((d.attributes.lookup consts.attributeVendorID).bind (·.stringValue)) ∧
    ListedSpec f.devices ((d.attributes.lookup consts.attributeDeviceID).bind (·.stringValue)) ∧
    ListedSpec f.pciAddresses
      ((d.attributes.lookup consts.attributePciAddress).bind (·.stringValue)) ∧
    ListedSpec f.pfNames ((d.attributes.lookup consts.attributePFName).bind (·.stringValue)) ∧
    ListedSpec f.rootDevices
      ((d.attributes.lookup consts.attributeParentPciAddress).bind (·.stringValue)) ∧
    ListedSpec f.numaNodes ((d.attributes.lookup consts.attributeNumaNode).bind fun a =>
      a.intValue.map fun v => toString v)

/-- A config selects a device: its resource name is non-empty, and its filter list is empty or
holds a filter the device satisfies. -/
def SelectsSpec (c : Config) (d : Device) : Prop :=
  c.resourceName ≠ "" ∧ (c.resourceFilters = [] ∨ ∃ f ∈ c.resourceFilters, FilterSpec consts d f)

variable {consts}

theorem attributeMatches_iff (values : List String) (attr : Option DeviceAttribute)
    (value : DeviceAttribute → Option String) :
    attributeMatches values attr value = true ↔ ListedSpec values (attr.bind value) := by
  unfold attributeMatches ListedSpec
  cases attr.bind value <;> cases values <;> simp

theorem deviceMatchesFilter_iff (d : Device) (f : ResourceFilter) :
    deviceMatchesFilter consts d f = true ↔ FilterSpec consts d f := by
  simp only [deviceMatchesFilter, Bool.and_eq_true, attributeMatches_iff, FilterSpec, numaValue,
    and_assoc]

theorem deviceMatchesFilters_iff (d : Device) (filters : List ResourceFilter) :
    deviceMatchesFilters consts d filters = true ↔
      filters = [] ∨ ∃ f ∈ filters, FilterSpec consts d f := by
  simp only [deviceMatchesFilters, Bool.or_eq_true, List.isEmpty_iff, List.any_eq_true,
    deviceMatchesFilter_iff]

theorem selectFor_eq_some_iff {d : Device} {c : Config} {r : String} :
    selectFor consts d c = some r ↔ SelectsSpec consts c d ∧ c.resourceName = r := by
  unfold selectFor SelectsSpec
  rw [← deviceMatchesFilters_iff]
  split_ifs with h
  · simp [h]
  · exact ⟨fun h' => absurd h' (by simp), fun h' => absurd h'.1 h⟩

theorem selectFor_eq_none_iff {d : Device} {c : Config} :
    selectFor consts d c = none ↔ ¬ SelectsSpec consts c d := by
  cases h : selectFor consts d c with
  | none =>
    refine iff_of_true rfl fun hs => ?_
    have := selectFor_eq_some_iff.mpr ⟨hs, rfl⟩
    rw [h] at this
    cases this
  | some r => exact iff_of_false (by simp) (not_not.mpr (selectFor_eq_some_iff.mp h).1)

/-- **`getFilteredDeviceResourceMap`, in the spec's words**: for every policy, snapshot and order
of every inner `range`, a device is mapped to `r` iff a policy is active, the device is in the
snapshot, and `r` is the resource name of the config of least index that selects it. -/
theorem getFilteredDeviceResourceMap_spec (policy : Option SriovResourcePolicy) (m : DeviceMap)
    (enum : Nat → List (Entry String Device)) (h : ∀ i, GoMap.Enumerates m (enum i))
    (name r : String) :
    (getFilteredDeviceResourceMapIn consts policy enum).lookup name = some r ↔
      ∃ (p : SriovResourcePolicy) (d : Device), policy = some p ∧ m.lookup name = some d ∧
        ∃ (i : Nat) (c : Config), p.configs[i]? = some c ∧ c.resourceName = r ∧
          SelectsSpec consts c d ∧ ∀ j < i, ∀ c', p.configs[j]? = some c' →
            ¬ SelectsSpec consts c' d := by
  rw [lookup_getFilteredDeviceResourceMapIn policy h]
  cases policy with
  | none => simp
  | some p =>
    cases hd : m.lookup name with
    | none => simp
    | some d =>
      simp only [Option.some_bind, firstResourceName, findSome?_eq_some_iff_getElem?,
        selectFor_eq_some_iff, selectFor_eq_none_iff, Option.some.injEq, exists_eq_left',
        exists_and_left]
      constructor
      · rintro ⟨i, c, hi, ⟨hs, hr⟩, hmin⟩
        exact ⟨i, c, hi, hr, hs, hmin⟩
      · rintro ⟨i, c, hi, hr, hs, hmin⟩
        exact ⟨i, c, hi, ⟨hs, hr⟩, hmin⟩

/-- Config `0` of a policy ranges over `eth0Snapshot` with `devA` first, every later config with
`devB` first. -/
def eth0Orders : Nat → List (Entry String Device)
  | 0 => [⟨"devA", eth0Device "devA" "8086"⟩, ⟨"devB", eth0Device "devB" "15b3"⟩]
  | _ => [⟨"devB", eth0Device "devB" "15b3"⟩, ⟨"devA", eth0Device "devA" "8086"⟩]

theorem enumerates_eth0Orders (i : Nat) : GoMap.Enumerates eth0Snapshot (eth0Orders i) := by
  cases i <;> (simp only [eth0Orders, GoMap.Enumerates]; decide)

/-- Under the spec's first-match policy, `devA`, which both configs select, gets `A`, and `devB`,
which only the second selects, gets `B`: the config of least index that selects it. -/
theorem getFilteredDeviceResourceMap_spec_sample :
    (∀ i, GoMap.Enumerates eth0Snapshot (eth0Orders i)) ∧
    (getFilteredDeviceResourceMapIn sampleConsts (some firstMatchPolicy) eth0Orders).lookup "devA" =
      some "A" ∧
    (∃ (p : SriovResourcePolicy) (d : Device), some firstMatchPolicy = some p ∧
      eth0Snapshot.lookup "devA" = some d ∧
      ∃ (i : Nat) (c : Config), p.configs[i]? = some c ∧ c.resourceName = "A" ∧
        SelectsSpec sampleConsts c d ∧ ∀ j < i, ∀ c', p.configs[j]? = some c' →
          ¬ SelectsSpec sampleConsts c' d) ∧
    (getFilteredDeviceResourceMapIn sampleConsts (some firstMatchPolicy) eth0Orders).lookup "devB" =
      some "B" ∧
    (∃ (p : SriovResourcePolicy) (d : Device), some firstMatchPolicy = some p ∧
      eth0Snapshot.lookup "devB" = some d ∧
      ∃ (i : Nat) (c : Config), p.configs[i]? = some c ∧ c.resourceName = "B" ∧
        SelectsSpec sampleConsts c d ∧ ∀ j < i, ∀ c', p.configs[j]? = some c' →
          ¬ SelectsSpec sampleConsts c' d) :=
  have hA : (getFilteredDeviceResourceMapIn sampleConsts (some firstMatchPolicy)
      eth0Orders).lookup "devA" = some "A" := by decide
  have hB : (getFilteredDeviceResourceMapIn sampleConsts (some firstMatchPolicy)
      eth0Orders).lookup "devB" = some "B" := by decide
  ⟨enumerates_eth0Orders, hA,
    (getFilteredDeviceResourceMap_spec (some firstMatchPolicy) eth0Snapshot eth0Orders
      enumerates_eth0Orders "devA" "A").mp hA, hB,
    (getFilteredDeviceResourceMap_spec (some firstMatchPolicy) eth0Snapshot eth0Orders
      enumerates_eth0Orders "devB" "B").mp hB⟩

/-! ## The mapping of a snapshot -/

variable (consts)

/-- `getFilteredDeviceResourceMap` over the snapshot `m`: the loop over any enumeration of `m`,
the same for all of them (`lookup_getFilteredDeviceResourceMapIn`). -/
def getFilteredDeviceResourceMap (currentResourcePolicy : Option SriovResourcePolicy)
    (m : DeviceMap) : GoMap String String :=
  m.liftOn (fun l => getFilteredDeviceResourceMapIn consts currentResourcePolicy fun _ => l.entries)
    fun a b hab => Finmap.ext_lookup fun k => by
      have ha : ∀ _ : Nat, GoMap.Enumerates a.toFinmap a.entries := fun _ => rfl
      have hb : ∀ _ : Nat, GoMap.Enumerates a.toFinmap b.entries := fun _ =>
        Multiset.coe_eq_coe.mpr hab.symm
      rw [lookup_getFilteredDeviceResourceMapIn _ ha, lookup_getFilteredDeviceResourceMapIn _ hb]

variable {consts}

theorem lookup_getFilteredDeviceResourceMap (policy : Option SriovResourcePolicy)
    (m : DeviceMap) (k : String) :
    (getFilteredDeviceResourceMap consts policy m).lookup k =
      policy.bind fun p => (m.lookup k).bind (firstResourceName consts p.configs) :=
  Finmap.induction_on m fun a => by
    rw [getFilteredDeviceResourceMap, Finmap.liftOn_toFinmap]
    exact lookup_getFilteredDeviceResourceMapIn policy
      (show ∀ _ : Nat, GoMap.Enumerates a.toFinmap a.entries from fun _ => rfl) k

/-- Every run of the loop computes `getFilteredDeviceResourceMap`, whatever the orders. -/
theorem getFilteredDeviceResourceMapIn_eq (policy : Option SriovResourcePolicy)
    {enum : Nat → List (Entry String Device)} (h : ∀ i, GoMap.Enumerates m (enum i)) :
    getFilteredDeviceResourceMapIn consts policy enum = getFilteredDeviceResourceMap consts policy m :=
  Finmap.ext_lookup fun k => by
    rw [lookup_getFilteredDeviceResourceMapIn policy h, lookup_getFilteredDeviceResourceMap]

theorem getFilteredDeviceResourceMapIn_eq_sample :
    (∀ i, GoMap.Enumerates eth0Snapshot (eth0Orders i)) ∧
    getFilteredDeviceResourceMapIn sampleConsts (some firstMatchPolicy) eth0Orders =
      getFilteredDeviceResourceMap sampleConsts (some firstMatchPolicy) eth0Snapshot :=
  ⟨enumerates_eth0Orders,
    getFilteredDeviceResourceMapIn_eq (some firstMatchPolicy) enumerates_eth0Orders⟩

theorem firstResourceName_congr {d₁ d₂ : Device} (h : SameFilterAttributes consts d₁ d₂)
    (configs : List Config) :
    firstResourceName consts configs d₁ = firstResourceName consts configs d₂ := by
  have : selectFor consts d₁ = selectFor consts d₂ :=
    funext fun c => by simp only [selectFor, deviceMatchesFilters_congr h]
  rw [firstResourceName, firstResourceName, this]

/-- The mapping reads no exposure tag: a per-device change that keeps the attributes a filter
reads keeps it. -/
theorem getFilteredDeviceResourceMap_mapValues (policy : Option SriovResourcePolicy)
    (m : DeviceMap) {f : String → Device → Device}
    (hf : ∀ k d, SameFilterAttributes consts (f k d) d) :
    getFilteredDeviceResourceMap consts policy (m.mapValues f) =
      getFilteredDeviceResourceMap consts policy m :=
  Finmap.ext_lookup fun k => by
    simp only [lookup_getFilteredDeviceResourceMap, GoMap.lookup_mapValues]
    cases m.lookup k <;> simp [firstResourceName_congr (hf _ _)]

/-- A mapped device is a device of the snapshot. -/
theorem mem_of_lookup_getFilteredDeviceResourceMap {policy : Option SriovResourcePolicy}
    {m : DeviceMap} {k r : String}
    (h : (getFilteredDeviceResourceMap consts policy m).lookup k = some r) : k ∈ m := by
  rw [lookup_getFilteredDeviceResourceMap] at h
  cases hk : m.lookup k with
  | none => simp [hk] at h
  | some d => exact Finmap.mem_of_lookup_eq_some hk

end Mapping

end SriovDra.Controller
