import SriovDra.DeviceState

/-!
# The reconciler

Model of `SriovResourcePolicyReconciler.Reconcile`, `applyResourcePolicyToDevices`, and the
accessors `GetCurrentResourcePolicy`, `HasResourcePolicy`, `GetConfigs`, `GetResourceFilters` and
`GetResourceNames` (`pkg/controller/resourcepolicycontroller.go`).

A reconcile reads the node's labels (`Get`; a `NotFound` error requeues after 30 s and is no
error), lists the policies, and keeps those whose node selector matches:

* none: no active policy, and the tags are re-derived, which clears them all;
* one: it becomes the active policy, and the tags are re-derived from it;
* more: no active policy, and nothing else happens. The tags are **not** re-derived.

The request is not read. What the cluster answers is the input `ApiEnv`.

Results:
* `reconcile_of_le_one`, `reconcile_of_two_le`, `reconcile_of_notFound`: what one reconcile does
  in each case; `reconcile_fst_cases` gathers them, guards included, for the invariants of runs.
* `mem_getResourceNames_of_lookup`: every resource name the mapping assigns is one of
  `GetResourceNames()`.
* `reconcile_ok`: after a reconcile that returns `ctrl.Result{}` and no error, the active policy
  is the unique matching policy or none, and with at most one match the tags are the active
  policy's mapping over the snapshot.
* `reconcile_ambiguous_keeps_tags`: with two matching policies the tags an earlier reconcile set
  stay, although no policy is active.
-/

namespace SriovDra.Controller

open SriovDra SriovDra.DeviceState

/-- What the cluster answers during one `Reconcile`: the node's labels (`Get`), the policies in
the namespace (`List`), and the helper's answer to the publish the republish notification makes,
if any. -/
structure ApiEnv where
  node : Except Error (GoMap String String)
  policies : Except Error (List SriovResourcePolicy)
  republish : Option Error

/-- The listed policies whose node selector matches the node's labels, in list order. -/
def matchingPolicies (nodeLabels : GoMap String String) (items : List SriovResourcePolicy) :
    List SriovResourcePolicy :=
  items.filter fun policy => matchesNodeSelector nodeLabels policy.nodeSelector

/-- The policy the spec calls active: the matching policy when exactly one matches. -/
def uniqueMatch (nodeLabels : GoMap String String) (items : List SriovResourcePolicy) :
    Option SriovResourcePolicy :=
  match matchingPolicies nodeLabels items with
  | [policy] => some policy
  | _ => none

variable (consts : Consts)

/-- `applyResourcePolicyToDevices`. -/
def applyResourcePolicyToDevices (s : Agent) (republish : Option Error) : Agent × Option Error :=
  updateDeviceResourceNames consts s
    (getFilteredDeviceResourceMap consts s.currentResourcePolicy s.allocatable) republish

/-- `Reconcile`. -/
def reconcile (s : Agent) (env : ApiEnv) : Agent × Result × Option Error :=
  match env.node with
  | .error err => if err.notFound then (s, { requeueAfter := 30 }, none) else (s, {}, some err)
  | .ok nodeLabels =>
    match env.policies with
    | .error err => (s, {}, some err)
    | .ok items =>
      match matchingPolicies nodeLabels items with
      | [] =>
        match applyResourcePolicyToDevices consts
            { s with currentResourcePolicy := none } env.republish with
        | (s, err) => (s, {}, err)
      | [policy] =>
        match applyResourcePolicyToDevices consts
            { s with currentResourcePolicy := some policy } env.republish with
        | (s, err) => (s, {}, err)
      | _ => ({ s with currentResourcePolicy := none }, {}, none)

/-- `GetCurrentResourcePolicy`. -/
def getCurrentResourcePolicy (s : Agent) : Option SriovResourcePolicy :=
  s.currentResourcePolicy

/-- The body of `GetResourceNames`'s loop: keep a config's resource name when it is non-empty. -/
def appendResourceName (resourceNames : List String) (config : Config) : List String :=
  if config.resourceName ≠ "" then resourceNames ++ [config.resourceName] else resourceNames

/-- `GetResourceNames`, `nil` as `[]`. -/
def getResourceNames (s : Agent) : List String :=
  match s.currentResourcePolicy with
  | none => []
  | some policy => policy.configs.foldl appendResourceName []

/-- `HasResourcePolicy`. -/
def hasResourcePolicy (s : Agent) : Bool := s.currentResourcePolicy.isSome

/-- `GetConfigs`, `nil` as `[]`. -/
def getConfigs (s : Agent) : List Config :=
  match s.currentResourcePolicy with
  | none => []
  | some policy => policy.configs

/-- The body of `GetResourceFilters`'s loop: append a config's filters. -/
def appendResourceFilters (allFilters : List ResourceFilter) (config : Config) :
    List ResourceFilter :=
  allFilters ++ config.resourceFilters

/-- `GetResourceFilters` (deprecated in the source for `GetConfigs`), `nil` as `[]`. -/
def getResourceFilters (s : Agent) : List ResourceFilter :=
  match s.currentResourcePolicy with
  | none => []
  | some policy => policy.configs.foldl appendResourceFilters []

variable {consts}

theorem foldl_appendResourceName (configs : List Config) (acc : List String) :
    configs.foldl appendResourceName acc =
      acc ++ (configs.filter fun c => c.resourceName ≠ "").map (·.resourceName) := by
  induction configs generalizing acc with
  | nil => simp
  | cons c cs ih =>
    rw [List.foldl_cons, ih, appendResourceName]
    by_cases hc : c.resourceName = "" <;> simp [hc, List.filter_cons]

/-- `GetResourceNames` is the non-empty resource names of `GetConfigs`, in order. -/
theorem getResourceNames_eq (s : Agent) :
    getResourceNames s = ((getConfigs s).filter fun c => c.resourceName ≠ "").map (·.resourceName) := by
  unfold getResourceNames getConfigs
  split <;> simp [foldl_appendResourceName]

/-- `GetResourceFilters` is the filters of `GetConfigs`, config after config. -/
theorem getResourceFilters_eq (s : Agent) :
    getResourceFilters s = (getConfigs s).flatMap (·.resourceFilters) := by
  have h : ∀ (configs : List Config) acc,
      configs.foldl appendResourceFilters acc = acc ++ configs.flatMap (·.resourceFilters) := by
    intro configs
    induction configs with
    | nil => simp
    | cons c cs ih => intro acc; simp [ih, appendResourceFilters]
  unfold getResourceFilters getConfigs
  split <;> simp [h]

/-! ## One reconcile, case by case -/

section Cases

variable {s : Agent} {env : ApiEnv} {nodeLabels : GoMap String String}
  {items : List SriovResourcePolicy}

theorem uniqueMatch_of_le_one (hm : (matchingPolicies nodeLabels items).length ≤ 1) :
    uniqueMatch nodeLabels items = (matchingPolicies nodeLabels items).head? := by
  unfold uniqueMatch
  match h : matchingPolicies nodeLabels items with
  | [] => rfl
  | [p] => rfl
  | _ :: _ :: _ => rw [h] at hm; simp at hm

theorem uniqueMatch_of_two_le (hm : 2 ≤ (matchingPolicies nodeLabels items).length) :
    uniqueMatch nodeLabels items = none := by
  unfold uniqueMatch
  split
  · rename_i h; rw [h] at hm; simp at hm
  · rfl

theorem reconcile_of_notFound {err : Error} (hn : env.node = .error err) (hf : err.notFound) :
    reconcile consts s env = (s, { requeueAfter := 30 }, none) := by
  simp [reconcile, hn, hf]

/-- With at most one matching policy, the reconcile re-derives the tags from it. -/
theorem reconcile_of_le_one (hn : env.node = .ok nodeLabels) (hp : env.policies = .ok items)
    (hm : (matchingPolicies nodeLabels items).length ≤ 1) :
    reconcile consts s env =
      ((applyResourcePolicyToDevices consts
          { s with currentResourcePolicy := uniqueMatch nodeLabels items } env.republish).1, {},
        (applyResourcePolicyToDevices consts
          { s with currentResourcePolicy := uniqueMatch nodeLabels items } env.republish).2) := by
  rw [uniqueMatch_of_le_one hm]
  simp only [reconcile, hn, hp]
  match h : matchingPolicies nodeLabels items with
  | [] => rfl
  | [p] => rfl
  | _ :: _ :: _ => rw [h] at hm; simp at hm

/-- With `policy` the one matching policy, a reconcile makes it active and writes its mapping. -/
theorem reconcile_of_unique {policy : SriovResourcePolicy} (hn : env.node = .ok nodeLabels)
    (hp : env.policies = .ok items) (hm : matchingPolicies nodeLabels items = [policy]) :
    (reconcile consts s env).1.allocatable = tagDevices consts s.allocatable
        (getFilteredDeviceResourceMap consts (some policy) s.allocatable) ∧
      (reconcile consts s env).1.currentResourcePolicy = some policy := by
  have hu : uniqueMatch nodeLabels items = some policy := by simp [uniqueMatch, hm]
  rw [reconcile_of_le_one hn hp (by simp [hm]), hu]
  simp [applyResourcePolicyToDevices]

/-- With two matching policies or more, the reconcile only drops the active policy. -/
theorem reconcile_of_two_le (hn : env.node = .ok nodeLabels) (hp : env.policies = .ok items)
    (hm : 2 ≤ (matchingPolicies nodeLabels items).length) :
    reconcile consts s env = ({ s with currentResourcePolicy := none }, {}, none) := by
  simp only [reconcile, hn, hp]
  match h : matchingPolicies nodeLabels items with
  | [] => rw [h] at hm; simp at hm
  | [p] => rw [h] at hm; simp at hm
  | _ :: _ :: _ => rfl

variable (consts) in
/-- **What a reconcile does to the state**: nothing, when the node lookup or the listing fails
or finds no node; with the labels and the policies, re-derive the tags under the unique match
when at most one policy matches, and drop the active policy when more do. -/
theorem reconcile_fst_cases (s : Agent) (env : ApiEnv) :
    (reconcile consts s env).1 = s ∨
    ∃ nodeLabels items, env.node = .ok nodeLabels ∧ env.policies = .ok items ∧
      ((matchingPolicies nodeLabels items).length ≤ 1 ∧
        (reconcile consts s env).1 = (applyResourcePolicyToDevices consts
          { s with currentResourcePolicy := uniqueMatch nodeLabels items } env.republish).1 ∨
      2 ≤ (matchingPolicies nodeLabels items).length ∧
        (reconcile consts s env).1 = { s with currentResourcePolicy := none }) := by
  rcases hn : env.node with err | nodeLabels
  · left; simp only [reconcile, hn]; split_ifs <;> rfl
  · rcases hp : env.policies with err | items
    · left; simp only [reconcile, hn, hp]
    · refine .inr ⟨nodeLabels, items, rfl, rfl, ?_⟩
      by_cases hm : (matchingPolicies nodeLabels items).length ≤ 1
      · exact .inl ⟨hm, by rw [reconcile_of_le_one hn hp hm]⟩
      · exact .inr ⟨by omega, by rw [reconcile_of_two_le hn hp (by omega)]⟩

/-- A reconcile that does not requeue and returns no error got the labels and the policies. -/
theorem reconcile_ok_inputs {s' : Agent} (h : reconcile consts s env = (s', {}, none)) :
    ∃ nodeLabels items, env.node = .ok nodeLabels ∧ env.policies = .ok items := by
  unfold reconcile at h
  split at h
  · split at h <;> simp at h
  · split at h
    · simp at h
    · exact ⟨_, _, ‹_›, ‹_›⟩

end Cases

/-! ## The tags follow the active policy -/

/-- The agent at start-up: `devA` discovered, no active policy, nothing published. -/
def sampleAgent : Agent where
  allocatable := sampleSnapshot
  currentResourcePolicy := none
  policyController := true
  published := []

/-- The cluster answering every call of a reconcile: node labels `{}`, the policies `items`, a
successful publish. -/
def sampleApi (items : List SriovResourcePolicy) : ApiEnv := ⟨.ok ∅, .ok items, none⟩

variable (consts) in
/-- The snapshot's exposure tags are the active policy's mapping over it: the state the spec
says every reconcile leaves. -/
def TagsMatchPolicy (s : Agent) : Prop :=
  ∀ name, tagAt consts s.allocatable name =
    (getFilteredDeviceResourceMap consts s.currentResourcePolicy s.allocatable).lookup name

/-- Every resource name the active policy's mapping assigns is one of `GetResourceNames()`. -/
theorem mem_getResourceNames_of_lookup {s : Agent} {m : DeviceMap} {name r : String}
    (h : (getFilteredDeviceResourceMap consts s.currentResourcePolicy m).lookup name = some r) :
    r ∈ getResourceNames s := by
  rw [lookup_getFilteredDeviceResourceMap] at h
  obtain ⟨p, hp, hr⟩ := Option.bind_eq_some.mp h
  obtain ⟨d, -, hd⟩ := Option.bind_eq_some.mp hr
  obtain ⟨c, hc, hsel⟩ := List.exists_of_findSome?_eq_some hd
  obtain ⟨⟨hne, -⟩, rfl⟩ := selectFor_eq_some_iff.mp hsel
  simp only [getResourceNames, hp, foldl_appendResourceName, List.nil_append]
  exact List.mem_map.mpr ⟨c, List.mem_filter.mpr ⟨hc, by simpa using hne⟩, rfl⟩

/-- With the tags the active policy's mapping, every tag is one of `GetResourceNames()`. -/
theorem TagsMatchPolicy.tag_mem_getResourceNames {s : Agent} (h : TagsMatchPolicy consts s)
    {name r : String} (ht : tagAt consts s.allocatable name = some r) : r ∈ getResourceNames s :=
  mem_getResourceNames_of_lookup ((h name).symm.trans ht)

/-- Re-deriving the tags makes them the active policy's mapping, whatever the notification
answers. -/
theorem tagsMatchPolicy_applyResourcePolicyToDevices (s : Agent) (republish : Option Error) :
    TagsMatchPolicy consts (applyResourcePolicyToDevices consts s republish).1 := by
  intro name
  simp only [applyResourcePolicyToDevices, updateDeviceResourceNames_allocatable,
    updateDeviceResourceNames_currentResourcePolicy, getFilteredDeviceResourceMap_tagDevices,
    tagAt_tagDevices]
  cases hM : (getFilteredDeviceResourceMap consts s.currentResourcePolicy s.allocatable).lookup
      name with
  | none => cases s.allocatable.lookup name <;> rfl
  | some r =>
    obtain ⟨d, hd⟩ := Finmap.mem_iff.mp (mem_of_lookup_getFilteredDeviceResourceMap hM)
    simp [hd, getFilteredDeviceResourceMap_ne_empty hM]

/-- **What a successful reconcile leaves.** After a reconcile that returns `ctrl.Result{}` and no
error, the active policy is the unique listed policy whose selector matches the node's labels,
or none; with at most one match the tags are the active policy's mapping over the snapshot, and
with two or more the snapshot, tags included, is the one before. -/
theorem reconcile_ok {s s' : Agent} {env : ApiEnv} (h : reconcile consts s env = (s', {}, none)) :
    ∃ nodeLabels items, env.node = .ok nodeLabels ∧ env.policies = .ok items ∧
      getCurrentResourcePolicy s' = uniqueMatch nodeLabels items ∧
      ((matchingPolicies nodeLabels items).length ≤ 1 → TagsMatchPolicy consts s') ∧
      (2 ≤ (matchingPolicies nodeLabels items).length → s'.allocatable = s.allocatable) := by
  obtain ⟨nodeLabels, items, hn, hp⟩ := reconcile_ok_inputs h
  refine ⟨nodeLabels, items, hn, hp, ?_⟩
  by_cases hm : (matchingPolicies nodeLabels items).length ≤ 1
  · rw [reconcile_of_le_one hn hp hm] at h
    obtain ⟨rfl, -⟩ := Prod.mk.inj h
    refine ⟨?_, fun _ => tagsMatchPolicy_applyResourcePolicyToDevices _ _, fun h2 => by omega⟩
    simp [getCurrentResourcePolicy, applyResourcePolicyToDevices]
  · rw [reconcile_of_two_le hn hp (by omega)] at h
    obtain ⟨rfl, -⟩ := Prod.mk.inj h
    exact ⟨(uniqueMatch_of_two_le (by omega)).symm, fun h1 => absurd h1 hm, fun _ => rfl⟩

theorem reconcile_ok_sample :
    ∃ s', reconcile sampleConsts sampleAgent (sampleApi [vendorPolicy "r"]) = (s', {}, none) ∧
      ∃ nodeLabels items, (sampleApi [vendorPolicy "r"]).node = .ok nodeLabels ∧
        (sampleApi [vendorPolicy "r"]).policies = .ok items ∧
        getCurrentResourcePolicy s' = uniqueMatch nodeLabels items ∧
        ((matchingPolicies nodeLabels items).length ≤ 1 → TagsMatchPolicy sampleConsts s') ∧
        (2 ≤ (matchingPolicies nodeLabels items).length →
          s'.allocatable = sampleAgent.allocatable) :=
  have h : reconcile sampleConsts sampleAgent (sampleApi [vendorPolicy "r"]) =
      ((reconcile sampleConsts sampleAgent (sampleApi [vendorPolicy "r"])).1, {}, none) :=
    Prod.ext rfl (by decide)
  ⟨_, h, reconcile_ok h⟩

/-! ## A second reconcile changes nothing -/

/-- Re-deriving the tags a second time changes nothing, whatever the helper answers. -/
theorem applyResourcePolicyToDevices_idem (s : Agent) (e e' : Option Error) :
    (applyResourcePolicyToDevices consts (applyResourcePolicyToDevices consts s e).1 e').1 =
      (applyResourcePolicyToDevices consts s e).1 := by
  simp [applyResourcePolicyToDevices, getFilteredDeviceResourceMap_tagDevices,
    updateDeviceResourceNames_idem]

/-- The state a reconcile leaves does not depend on the helper's answer to the republish. -/
theorem reconcile_fst_republish (s : Agent) {env env' : ApiEnv} (hn : env'.node = env.node)
    (hp : env'.policies = env.policies) : (reconcile consts s env').1 = (reconcile consts s env).1 := by
  rcases hne : env.node with err | nodeLabels
  · simp only [reconcile, hne, hn]
  · rcases hpe : env.policies with err | items
    · simp only [reconcile, hne, hn, hpe, hp]
    · by_cases hm : (matchingPolicies nodeLabels items).length ≤ 1
      · rw [reconcile_of_le_one hne hpe hm, reconcile_of_le_one (hn.trans hne) (hp.trans hpe) hm]
        exact updateDeviceResourceNames_fst ..
      · rw [reconcile_of_two_le hne hpe (by omega),
          reconcile_of_two_le (hn.trans hne) (hp.trans hpe) (by omega)]

/-- **A second reconcile changes nothing.** After any reconcile, one that gets the same node
labels and policies leaves the state as it finds it: the same active policy, the same tags, and
nothing published, whatever the helper answers. A request reconciled twice, or a tick's reconcile
right after the worker's, does no harm. -/
theorem reconcile_reconcile (s : Agent) {env env' : ApiEnv} (hn : env'.node = env.node)
    (hp : env'.policies = env.policies) :
    (reconcile consts (reconcile consts s env).1 env').1 = (reconcile consts s env).1 := by
  rw [reconcile_fst_republish _ hn hp]
  rcases reconcile_fst_cases consts s env with h | ⟨nodeLabels, items, hne, hpe, ⟨hm, h⟩ | ⟨hm, h⟩⟩
  · rw [h, h]
  · rw [h, reconcile_of_le_one hne hpe hm]
    have hcur : (applyResourcePolicyToDevices consts
        { s with currentResourcePolicy := uniqueMatch nodeLabels items }
          env.republish).1.currentResourcePolicy = uniqueMatch nodeLabels items :=
      updateDeviceResourceNames_currentResourcePolicy ..
    rw [Agent.with_currentResourcePolicy hcur, applyResourcePolicyToDevices_idem]
  · rw [h, reconcile_of_two_le hne hpe hm]

theorem reconcile_reconcile_sample :
    (⟨.ok ∅, .ok [vendorPolicy "r"], some ⟨"publish failed", false⟩⟩ : ApiEnv).node =
        (sampleApi [vendorPolicy "r"]).node ∧
      (⟨.ok ∅, .ok [vendorPolicy "r"], some ⟨"publish failed", false⟩⟩ : ApiEnv).policies =
        (sampleApi [vendorPolicy "r"]).policies ∧
      (reconcile sampleConsts (reconcile sampleConsts sampleAgent (sampleApi [vendorPolicy "r"])).1
          ⟨.ok ∅, .ok [vendorPolicy "r"], some ⟨"publish failed", false⟩⟩).1 =
        (reconcile sampleConsts sampleAgent (sampleApi [vendorPolicy "r"])).1 :=
  ⟨rfl, rfl, reconcile_reconcile _ rfl rfl⟩

/-! ## Two matching policies -/

/-- A reconcile with one matching policy tags `devA` with `r`; a second reconcile, where a second
policy also matches, returns `ctrl.Result{}` and no error with no active policy, yet `devA` keeps
`r`, where the mapping of no policy (empty) gives it nothing. -/
theorem reconcile_ambiguous_keeps_tags :
    ∃ s₁ s₂, s₁ = (reconcile sampleConsts sampleAgent (sampleApi [vendorPolicy "r"])).1 ∧
      reconcile sampleConsts s₁ (sampleApi [vendorPolicy "r", vendorPolicy "s"]) = (s₂, {}, none) ∧
      getCurrentResourcePolicy s₂ = none ∧ tagAt sampleConsts s₂.allocatable "devA" = some "r" ∧
      (getFilteredDeviceResourceMap sampleConsts none s₂.allocatable).lookup "devA" = none :=
  ⟨_, _, rfl, Prod.ext rfl (by decide), by decide, by decide, by decide⟩

end SriovDra.Controller
