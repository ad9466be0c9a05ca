import SriovDra.Types

/-!
# Detecting drift: `deviceSetsAreDifferent`

Model of `deviceSetsAreDifferent` (`pkg/driver/driver.go`): different sizes are a change;
otherwise the loop over `current` reports a change at the first device missing from `new` or not
`reflect.DeepEqual` to its namesake there. `DeepEqual` on two devices is equality of the model:
the attribute maps are `Finmap`s, whose equality is that of Go maps. The order of `range current`
is the argument `order`.

The loop only looks up the names of `current` in `new`: that it nonetheless decides equality of
the two maps rests on the size check, since a map whose entries all lie in a map of the same size
is that map (`GoMap.eq_of_card_le_of_lookup`).

Results:
* `deviceSetsAreDifferentIn_eq`: for every order, the loop returns `current ≠ new`.
* `deviceSetsAreDifferent_spec`: it returns `false` iff the two maps have the same names and
  equal devices under each, and it is symmetric.
-/

namespace SriovDra.Driver

open SriovDra

/-- The loop of `deviceSetsAreDifferent` over the visited devices of `current`. -/
def missingOrChanged (new : DeviceMap) : List (Entry String Device) → Bool
  | [] => false
  | ⟨name, currentDevice⟩ :: rest =>
    match new.lookup name with
    | none => true
    | some newDevice => if currentDevice ≠ newDevice then true else missingOrChanged new rest

/-- `deviceSetsAreDifferent`, its `range current` visiting `order`. -/
def deviceSetsAreDifferentIn (current new : DeviceMap) (order : List (Entry String Device)) :
    Bool :=
  if GoMap.len current ≠ GoMap.len new then true else missingOrChanged new order

theorem missingOrChanged_eq_false_iff (new : DeviceMap) (l : List (Entry String Device)) :
    missingOrChanged new l = false ↔ ∀ e ∈ l, new.lookup e.1 = some e.2 := by
  induction l with
  | nil => simp [missingOrChanged]
  | cons e l ih =>
    obtain ⟨name, d⟩ := e
    simp only [missingOrChanged, List.mem_cons, forall_eq_or_imp]
    cases new.lookup name with
    | none => simp
    | some d' => by_cases h : d = d' <;> simp [h, ih, eq_comm]

theorem missingOrChanged_perm (new : DeviceMap) {l₁ l₂ : List (Entry String Device)}
    (h : l₁.Perm l₂) : missingOrChanged new l₁ = missingOrChanged new l₂ := by
  rw [Bool.eq_iff_iff, ← Bool.not_eq_false, ← Bool.not_eq_false, missingOrChanged_eq_false_iff,
    missingOrChanged_eq_false_iff]
  simp only [h.mem_iff]

/-- **The loop decides inequality of the two maps**, whatever the order of `range current`. -/
theorem deviceSetsAreDifferentIn_eq {current new : DeviceMap} {order : List (Entry String Device)}
    (h : GoMap.Enumerates current order) :
    deviceSetsAreDifferentIn current new order = decide (current ≠ new) := by
  unfold deviceSetsAreDifferentIn
  by_cases hlen : GoMap.len current = GoMap.len new
  · rw [if_neg (not_not.mpr hlen)]
    have hiff : missingOrChanged new order = false ↔ current = new := by
      rw [missingOrChanged_eq_false_iff]
      constructor
      · intro hall
        exact GoMap.eq_of_card_le_of_lookup hlen.ge fun k v hkv =>
          hall ⟨k, v⟩ (h.mem_iff.mpr hkv)
      · rintro rfl e he
        exact h.mem_iff.mp he
    cases hm : missingOrChanged new order <;> simp_all
  · rw [if_pos hlen]
    have hne : current ≠ new := fun he => hlen (by rw [he])
    simp [hne]

/-- **`deviceSetsAreDifferent` is map equality**: for every order of each `range`, it returns
false iff the two maps have the same device names and equal devices under each name, and it is
symmetric in its arguments. -/
theorem deviceSetsAreDifferent_spec (current new : DeviceMap)
    (o₁ o₂ : List (Entry String Device))
    (h₁ : GoMap.Enumerates current o₁) (h₂ : GoMap.Enumerates new o₂) :
    (deviceSetsAreDifferentIn current new o₁ = false ↔
      current.keys = new.keys ∧ ∀ name ∈ current.keys, current.lookup name = new.lookup name) ∧
    deviceSetsAreDifferentIn current new o₁ = deviceSetsAreDifferentIn new current o₂ := by
  rw [deviceSetsAreDifferentIn_eq h₁, deviceSetsAreDifferentIn_eq h₂]
  refine ⟨?_, by simp only [ne_comm]⟩
  simp only [decide_eq_false_iff_not, not_not]
  constructor
  · rintro rfl
    exact ⟨rfl, fun _ _ => rfl⟩
  · rintro ⟨hk, hl⟩
    refine Finmap.ext_lookup fun name => ?_
    by_cases hn : name ∈ current.keys
    · exact hl name hn
    · have hn' : name ∉ new.keys := hk ▸ hn
      rw [Finmap.lookup_eq_none.mpr (mt Finmap.mem_keys.mpr hn),
        Finmap.lookup_eq_none.mpr (mt Finmap.mem_keys.mpr hn')]

/-- `eth0Snapshot` with `devB` now of vendor `8086`: the same names, one device changed. -/
def eth0Changed : DeviceMap := eth0Snapshot.insert "devB" (eth0Device "devB" "8086")

/-- Two maps of two devices under the same names, one device differing, each ranged over in its
own order: the loop reports the change, from either side. -/
theorem deviceSetsAreDifferent_spec_sample :
    GoMap.Enumerates eth0Snapshot
      [⟨"devA", eth0Device "devA" "8086"⟩, ⟨"devB", eth0Device "devB" "15b3"⟩] ∧
    GoMap.Enumerates eth0Changed
      [⟨"devB", eth0Device "devB" "8086"⟩, ⟨"devA", eth0Device "devA" "8086"⟩] ∧
    eth0Snapshot.keys = eth0Changed.keys ∧
    deviceSetsAreDifferentIn eth0Snapshot eth0Changed
      [⟨"devA", eth0Device "devA" "8086"⟩, ⟨"devB", eth0Device "devB" "15b3"⟩] = true ∧
    ((deviceSetsAreDifferentIn eth0Snapshot eth0Changed
        [⟨"devA", eth0Device "devA" "8086"⟩, ⟨"devB", eth0Device "devB" "15b3"⟩] = false ↔
      eth0Snapshot.keys = eth0Changed.keys ∧
        ∀ name ∈ eth0Snapshot.keys, eth0Snapshot.lookup name = eth0Changed.lookup name) ∧
    deviceSetsAreDifferentIn eth0Snapshot eth0Changed
        [⟨"devA", eth0Device "devA" "8086"⟩, ⟨"devB", eth0Device "devB" "15b3"⟩] =
      deviceSetsAreDifferentIn eth0Changed eth0Snapshot
        [⟨"devB", eth0Device "devB" "8086"⟩, ⟨"devA", eth0Device "devA" "8086"⟩]) :=
  have h₁ : GoMap.Enumerates eth0Snapshot
      [⟨"devA", eth0Device "devA" "8086"⟩, ⟨"devB", eth0Device "devB" "15b3"⟩] := by
    unfold GoMap.Enumerates; decide
  have h₂ : GoMap.Enumerates eth0Changed
      [⟨"devB", eth0Device "devB" "8086"⟩, ⟨"devA", eth0Device "devA" "8086"⟩] := by
    unfold GoMap.Enumerates; decide
  ⟨h₁, h₂, by decide, by decide, deviceSetsAreDifferent_spec _ _ _ _ h₁ h₂⟩

/-- `deviceSetsAreDifferent current new`: the loop over any order of `range current`. -/
def deviceSetsAreDifferent (current new : DeviceMap) : Bool :=
  current.liftOn (fun a => deviceSetsAreDifferentIn current new a.entries) fun _ _ hab => by
    simp only [deviceSetsAreDifferentIn, missingOrChanged_perm new hab]

theorem deviceSetsAreDifferent_eq (current new : DeviceMap) :
    deviceSetsAreDifferent current new = decide (current ≠ new) :=
  Finmap.induction_on current fun a => by
    rw [deviceSetsAreDifferent, Finmap.liftOn_toFinmap]
    exact deviceSetsAreDifferentIn_eq rfl

end SriovDra.Driver
