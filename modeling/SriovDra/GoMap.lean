import Mathlib.Data.Finmap

/-!
# Go maps

Every map of the driver (the allocatable devices, a device's attributes, a node's labels, a
policy's node selector, the device → resource-name mapping) is a Go `map[K]V`. Its model is
Mathlib's `Finmap`: a finite map whose equality is extensional, as `reflect.DeepEqual` on two
maps is.

A `range` loop over a map visits the entries in an order the runtime picks afresh for every
loop. An *enumeration* of `m` is any list of its entries, each once (`Enumerates`), and a loop
is modelled as a fold over an enumeration its caller passes in: a theorem about the loop that
holds for every enumeration holds for every order the runtime may pick.

Beyond `lookup` / `insert` / `erase`, the table needs `mapValues` (the per-device tag update)
and `filter` (`GetAdvertisableDevices`); `len` is Go's `len(m)`.

* `lookup_mapValues`, `lookup_filter`: the two bulk operations, entry by entry.
* `Enumerates.lookup_eq`, `Enumerates.mem_iff`: an enumeration lists exactly the map.
* `eq_of_card_le_of_lookup`: a map whose entries all appear in a map of no larger size is that
  map (the cardinality argument behind `deviceSetsAreDifferent`).
-/

namespace SriovDra

/-- A Go `map[κ]ν`. -/
abbrev GoMap (κ ν : Type) := Finmap fun _ : κ => ν

/-- One entry of a `GoMap`, as `for k, v := range m` binds it. -/
abbrev Entry (κ ν : Type) := Σ _ : κ, ν

namespace GoMap

variable {κ ν μ : Type}

/-- `l` lists the entries of `m`, each once, in some order: one order of `range m`. -/
def Enumerates (m : GoMap κ ν) (l : List (Entry κ ν)) : Prop :=
  (l : Multiset (Entry κ ν)) = m.entries

/-- Go's `len(m)`. -/
def len (m : GoMap κ ν) : Nat := m.keys.card

/-- Replace every value `v` at key `k` by `f k v`; the keys stay. -/
def mapValues (f : κ → ν → μ) (m : GoMap κ ν) : GoMap κ μ :=
  ⟨m.entries.map fun e => ⟨e.1, f e.1 e.2⟩, by
    rw [← Multiset.nodup_keys]
    simpa [Multiset.keys, Multiset.map_map, Function.comp_def] using
      Multiset.nodup_keys.mpr m.nodupKeys⟩

/-- The entries whose key and value satisfy `p`. -/
def filter (p : κ → ν → Bool) (m : GoMap κ ν) : GoMap κ ν :=
  ⟨m.entries.filter fun e => p e.1 e.2, by
    rcases m with ⟨⟨l⟩, h⟩
    exact List.NodupKeys.sublist (List.filter_sublist _) h⟩

theorem Enumerates.nodupKeys {m : GoMap κ ν} {l : List (Entry κ ν)} (h : Enumerates m l) :
    l.NodupKeys := by
  have := m.nodupKeys
  rw [← h] at this
  exact Multiset.coe_nodupKeys.mp this

variable [DecidableEq κ]

@[simp]
theorem lookup_mapValues (f : κ → ν → μ) (m : GoMap κ ν) (k : κ) :
    (m.mapValues f).lookup k = (m.lookup k).map (f k) := by
  apply Option.ext
  intro b
  rw [Finmap.mem_lookup_iff]
  simp only [mapValues, Multiset.mem_map, Option.mem_def, Option.map_eq_some']
  constructor
  · rintro ⟨⟨k', v⟩, hv, h⟩
    simp only [Sigma.mk.inj_iff, heq_eq_eq] at h
    obtain ⟨rfl, rfl⟩ := h
    exact ⟨v, Finmap.mem_lookup_iff.mpr hv, rfl⟩
  · rintro ⟨v, hv, rfl⟩
    exact ⟨⟨k, v⟩, Finmap.mem_lookup_iff.mp hv, rfl⟩

@[simp]
theorem lookup_filter (p : κ → ν → Bool) (m : GoMap κ ν) (k : κ) :
    (m.filter p).lookup k = (m.lookup k).filter (p k) := by
  apply Option.ext
  intro b
  rw [Finmap.mem_lookup_iff]
  simp only [filter, Multiset.mem_filter, Option.mem_def, Option.filter_eq_some,
    ← Finmap.mem_lookup_iff]

theorem Enumerates.lookup_eq {m : GoMap κ ν} {l : List (Entry κ ν)} (h : Enumerates m l)
    (k : κ) : m.lookup k = l.dlookup k := by
  obtain ⟨e, he⟩ := m
  simp only [Enumerates] at h
  subst h
  rfl

theorem Enumerates.mem_iff {m : GoMap κ ν} {l : List (Entry κ ν)} (h : Enumerates m l)
    {k : κ} {v : ν} : (⟨k, v⟩ : Entry κ ν) ∈ l ↔ m.lookup k = some v := by
  rw [h.lookup_eq, ← Option.mem_def, List.mem_dlookup_iff h.nodupKeys]

/-- A map all of whose entries are entries of a map of no larger size is that map. -/
theorem eq_of_card_le_of_lookup {m₁ m₂ : GoMap κ ν} (hc : len m₂ ≤ len m₁)
    (h : ∀ k v, m₁.lookup k = some v → m₂.lookup k = some v) : m₁ = m₂ := by
  have hsub : m₁.keys ⊆ m₂.keys := fun k hk => by
    obtain ⟨v, hv⟩ := Finmap.mem_iff.mp (Finmap.mem_keys.mp hk)
    exact Finmap.mem_keys.mpr (Finmap.mem_of_lookup_eq_some (h k v hv))
  have hkeys := Finset.eq_of_subset_of_card_le hsub hc
  refine Finmap.ext_lookup fun k => ?_
  cases hv : m₁.lookup k with
  | some v => exact (h k v hv).symm
  | none =>
    have hk : k ∉ m₂.keys := by
      rw [← hkeys, Finmap.mem_keys, ← Finmap.lookup_eq_none]
      exact hv
    exact (Finmap.lookup_eq_none.mpr (mt Finmap.mem_keys.mpr hk)).symm

end GoMap

end SriovDra
