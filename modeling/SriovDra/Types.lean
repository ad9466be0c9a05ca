import SriovDra.GoMap

/-!
# The data model

The values the controller and the driver pass around, as the source declares or uses them:

* `DeviceAttribute` and `Device` (`resourceapi.Device`): a device is its name and its attribute
  map. The other fields of `resourceapi.Device` are read by no modelled function except through
  `reflect.DeepEqual`, and discovery does not set them; they are left out. The attribute map is
  a `Finmap`, so a nil and an empty Go map are one value here, while `reflect.DeepEqual` tells
  them apart; discovery never yields a device with an empty attribute map.
* `Consts`: the attribute names of `pkg/consts`. That package is outside the modelled sources, so the names
  are a parameter. The one fact the model needs of them is a field: the exposure tag's name
  (`AttributeResourceName`) is none of the six names a filter reads.
* `ResourceFilter`, `Config`, `SriovResourcePolicy` (`pkg/api/sriovdra/v1alpha1`, the fields the
  controller reads).
* `Error` (a Go `error`: its text and whether `apierrors.IsNotFound` holds of it) and `Result`
  (`ctrl.Result`).
* Sample values for the concrete runs of later modules: attribute names, a device of vendor
  `8086`, and a policy that tags it.
-/

namespace SriovDra

/-- `resourceapi.DeviceAttribute`: a tagged value, of which the source reads the string and the
int alternative. -/
structure DeviceAttribute where
  intValue : Option Int := none
  boolValue : Option Bool := none
  stringValue : Option String := none
  versionValue : Option String := none
deriving DecidableEq

/-- `resourceapi.Device`: its name and its `Attributes` map. -/
structure Device where
  name : String
  attributes : GoMap String DeviceAttribute
deriving DecidableEq

/-- A snapshot of the table: device name ↦ device (`map[string]resourceapi.Device`). -/
abbrev DeviceMap := GoMap String Device

/-- The attribute names of `pkg/consts` that the source reads. -/
structure Consts where
  attributeVendorID : String
  attributeDeviceID : String
  attributePciAddress : String
  attributePFName : String
  attributeParentPciAddress : String
  attributeNumaNode : String
  attributeResourceName : String
  /-- The exposure tag is not an attribute a filter reads. -/
  resourceName_fresh : attributeResourceName ∉
    [attributeVendorID, attributeDeviceID, attributePciAddress, attributePFName,
      attributeParentPciAddress, attributeNumaNode]

/-- `v1alpha1.ResourceFilter`. -/
structure ResourceFilter where
  vendors : List String := []
  devices : List String := []
  pciAddresses : List String := []
  pfNames : List String := []
  rootDevices : List String := []
  numaNodes : List String := []
  drivers : List String := []
deriving DecidableEq

/-- `v1alpha1.Config`: one resource name and the filters that select its devices. -/
structure Config where
  resourceName : String
  resourceFilters : List ResourceFilter
deriving DecidableEq

/-- `v1alpha1.SriovResourcePolicy`, the fields of its `Spec`. -/
structure SriovResourcePolicy where
  nodeSelector : GoMap String String
  configs : List Config
deriving DecidableEq

/-- A Go `error`: its message, and whether `apierrors.IsNotFound` holds of it. -/
structure Error where
  msg : String
  notFound : Bool := false
deriving DecidableEq

/-- `fmt.Errorf(pre + ": %w", e)`: the message gains a prefix, `IsNotFound` still sees through. -/
def Error.wrap (pre : String) (e : Error) : Error :=
  { e with msg := pre ++ ": " ++ e.msg }

/-- `ctrl.Result`: the field the controller sets, in seconds. `{}` is `ctrl.Result{}`. -/
structure Result where
  requeueAfter : Nat := 0
deriving DecidableEq

section Tags

variable (consts : Consts)

/-- A device's exposure tag: the string value of its `AttributeResourceName` attribute. -/
def Device.resourceName (d : Device) : Option String :=
  (d.attributes.lookup consts.attributeResourceName).bind (·.stringValue)

/-- The tag of the device called `name` in a snapshot, `none` when it has none or is absent. -/
def tagAt (m : DeviceMap) (name : String) : Option String :=
  (m.lookup name).bind (Device.resourceName consts)

/-- The snapshot's exposure tags are the mapping `M`: each device carries `M`'s value for it,
and no other tag. -/
def TagsAre (m : DeviceMap) (M : GoMap String String) : Prop :=
  ∀ name, tagAt consts m name = (m.lookup name).bind fun _ => M.lookup name

variable {consts} in
/-- Tags that are a mapping of devices the snapshot all holds are read off the mapping. -/
theorem TagsAre.tagAt_eq {m : DeviceMap} {M : GoMap String String} (h : TagsAre consts m M)
    (hM : ∀ k r, M.lookup k = some r → k ∈ m) (name : String) :
    tagAt consts m name = M.lookup name := by
  rw [h name]
  cases hm : m.lookup name with
  | some _ => rfl
  | none =>
    cases hr : M.lookup name with
    | none => rfl
    | some r => exact absurd (hM name r hr) (Finmap.lookup_eq_none.mp hm)

end Tags

/-! ## Sample values for the concrete runs -/

/-- Attribute names for the concrete runs of this development; the real ones are in
`pkg/consts`. -/
def sampleConsts : Consts where
  attributeVendorID := "vendor"
  attributeDeviceID := "deviceID"
  attributePciAddress := "pciAddress"
  attributePFName := "pfName"
  attributeParentPciAddress := "parentPciAddress"
  attributeNumaNode := "numaNode"
  attributeResourceName := "resourceName"
  resourceName_fresh := by decide

/-- A VF of vendor `8086` on NUMA node 0, untagged. -/
def sampleDevice (name : String) : Device where
  name := name
  attributes := (Finmap.singleton "vendor" { stringValue := some "8086" }).insert "numaNode"
    { intValue := some 0 }

/-- The snapshot holding `devA` alone. -/
def sampleSnapshot : DeviceMap := Finmap.singleton "devA" (sampleDevice "devA")

/-- The devices `devA` and `devB`, untagged. -/
def twoDevices : DeviceMap := sampleSnapshot.insert "devB" (sampleDevice "devB")

/-- A VF of PF `eth0` of vendor `vendor`, untagged. -/
def eth0Device (name vendor : String) : Device where
  name := name
  attributes := (Finmap.singleton "vendor" { stringValue := some vendor }).insert "pfName"
    { stringValue := some "eth0" }

/-- Two VFs of `eth0`: `devA` of vendor `8086` and `devB` of vendor `15b3`. -/
def eth0Snapshot : DeviceMap :=
  (Finmap.singleton "devA" (eth0Device "devA" "8086")).insert "devB" (eth0Device "devB" "15b3")

/-- A policy for every node with one config: the devices of vendor `8086` get `r`. -/
def vendorPolicy (r : String) : SriovResourcePolicy where
  nodeSelector := ∅
  configs := [{ resourceName := r, resourceFilters := [{ vendors := ["8086"] }] }]

/-- The spec's first-match example: the devices of vendor `8086` get `A`, those of PF `eth0` get
`B`. -/
def firstMatchPolicy : SriovResourcePolicy where
  nodeSelector := ∅
  configs := [{ resourceName := "A", resourceFilters := [{ vendors := ["8086"] }] },
    { resourceName := "B", resourceFilters := [{ pfNames := ["eth0"] }] }]

end SriovDra
