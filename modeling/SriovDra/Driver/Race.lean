import SriovDra.Driver.Sync

/-!
# The event path racing the periodic sync

The event path's `Reconcile` and a tick's `syncDevicesAndResources` run in two goroutines. The
table locks each of its operations, and nothing else: `GetAllocatableDevices`,
`SetAllocatableDevices`, `UpdateDeviceResourceNames` and `GetAdvertisableDevices` are the atomic
steps, and any interleaving of the two threads' steps is a run. Node labels and policies stay
fixed, one policy (`policy`) matches, every call succeeds, and discovery returns `D`; both
reconciles then set the same active policy, so the reconciler's field is left out.

* A reconcile (`Phase`) reads the snapshot, then writes the mapping it computed from what it
  read, then, when the write changed the table, reads it again for the notification's publish.
* The tick (`TickPc`) reads and compares, replaces the snapshot on a change, runs the reconcile
  of `reapplyPolicies`, then reads for its own publish.

`Race.lastWriter` is a ghost field, state of the proof and not of the program: the snapshot the
reconcile whose `UpdateDeviceResourceNames` ran last had read, reset by `SetAllocatableDevices`.

Results:
* `raceInv_runRace`: along every interleaving, the tags are the last writer's mapping, and while
  no write has followed the last replace one is still to come.
* `runRace_last_writer_wins`: once both threads finished, the table's tags are the mapping of the
  single matching policy over the snapshot the last writer read: last write wins. When the event
  path reads before the tick's replace and writes after every write of the tick, that snapshot
  is the start one (`EarlyRead`, `LastWrite`), so every device the tick added ends untagged.
* `runRace_stale_write`: such a schedule exists, and leaves a device the policy selects untagged.
* `runRace_serial`: a schedule that runs one thread to its end and then the other is the node
  agent's run of the two events in that order.
-/

namespace SriovDra.Driver

open SriovDra SriovDra.Controller SriovDra.DeviceState

/-- Where a reconcile stands in `applyResourcePolicyToDevices`. -/
inductive Phase
  /-- next: `GetAllocatableDevices` -/
  | read
  /-- read `snapshot`; next: `UpdateDeviceResourceNames` of the mapping over it -/
  | write (snapshot : DeviceMap)
  /-- the write changed the table; next: the notification's `GetAdvertisableDevices` -/
  | notify
  | finished
deriving DecidableEq

/-- Where the tick stands in `syncDevicesAndResources`. -/
inductive TickPc
  /-- next: `GetAllocatableDevices`, compared with discovery's devices -/
  | compare
  /-- next: `SetAllocatableDevices` -/
  | replace
  /-- in the reconcile of `reapplyPolicies` -/
  | reapply (phase : Phase)
  /-- next: `PublishResources`'s `GetAdvertisableDevices` -/
  | publish
  | done
deriving DecidableEq

/-- The table, the two threads, and the ghost `lastWriter`. -/
structure Race where
  table : DeviceMap
  event : Phase
  tick : TickPc
  lastWriter : Option DeviceMap

/-- Both threads at their start, over the snapshot `S₀`. -/
def Race.start (S₀ : DeviceMap) : Race := ⟨S₀, .read, .compare, none⟩

variable (consts : Consts) (policy : SriovResourcePolicy) (D : DeviceMap)

/-- One table operation of a reconcile: the table after it, the next phase, and the snapshot it
wrote from, when it wrote. -/
def phaseStep (table : DeviceMap) : Phase → DeviceMap × Phase × Option DeviceMap
  | .read => (table, .write table, none)
  | .write S =>
    let tagged := tagDevices consts table (getFilteredDeviceResourceMap consts (some policy) S)
    (tagged, if tagged ≠ table then .notify else .finished, some S)
  | .notify => (table, .finished, none)
  | .finished => (table, .finished, none)

/-- One step of the event path. -/
def eventStep (c : Race) : Race :=
  match phaseStep consts policy c.table c.event with
  | (table, event, wrote) => { c with table, event, lastWriter := wrote.or c.lastWriter }

/-- One step of the tick whose discovery returned `D`. -/
def tickStep (c : Race) : Race :=
  match c.tick with
  | .compare => { c with tick := if deviceSetsAreDifferent c.table D then .replace else .done }
  | .replace => { c with table := D, tick := .reapply .read, lastWriter := none }
  | .reapply p =>
    match phaseStep consts policy c.table p with
    | (table, .finished, wrote) =>
      { c with table, tick := .publish, lastWriter := wrote.or c.lastWriter }
    | (table, p', wrote) => { c with table, tick := .reapply p', lastWriter := wrote.or c.lastWriter }
  | .publish => { c with tick := .done }
  | .done => c

/-- The scheduler's choice: `true` runs the event path, `false` the tick. -/
def raceStep (c : Race) : Bool → Race
  | true => eventStep consts policy c
  | false => tickStep consts policy D c

/-- A run of the two threads under the schedule `sched`. -/
def runRace (c : Race) (sched : List Bool) : Race :=
  sched.foldl (raceStep consts policy D) c

variable {consts policy D}

/-! ## One operation at a time -/

section Steps

variable (T : DeviceMap) (event : Phase) (tick : TickPc) (lastWriter : Option DeviceMap)

@[simp] theorem eventStep_read :
    eventStep consts policy ⟨T, .read, tick, lastWriter⟩ = ⟨T, .write T, tick, lastWriter⟩ := rfl

@[simp] theorem eventStep_write (S : DeviceMap) :
    eventStep consts policy ⟨T, .write S, tick, lastWriter⟩ =
      ⟨tagDevices consts T (getFilteredDeviceResourceMap consts (some policy) S),
        if tagDevices consts T (getFilteredDeviceResourceMap consts (some policy) S) ≠ T then
          .notify else .finished, tick, some S⟩ := rfl

@[simp] theorem eventStep_notify :
    eventStep consts policy ⟨T, .notify, tick, lastWriter⟩ = ⟨T, .finished, tick, lastWriter⟩ :=
  rfl

@[simp] theorem tickStep_compare :
    tickStep consts policy D ⟨T, event, .compare, lastWriter⟩ =
      ⟨T, event, if deviceSetsAreDifferent T D then .replace else .done, lastWriter⟩ := rfl

@[simp] theorem tickStep_replace :
    tickStep consts policy D ⟨T, event, .replace, lastWriter⟩ =
      ⟨D, event, .reapply .read, none⟩ := rfl

@[simp] theorem tickStep_read :
    tickStep consts policy D ⟨T, event, .reapply .read, lastWriter⟩ =
      ⟨T, event, .reapply (.write T), lastWriter⟩ := rfl

@[simp] theorem tickStep_write (S : DeviceMap) :
    tickStep consts policy D ⟨T, event, .reapply (.write S), lastWriter⟩ =
      ⟨tagDevices consts T (getFilteredDeviceResourceMap consts (some policy) S), event,
        if tagDevices consts T (getFilteredDeviceResourceMap consts (some policy) S) ≠ T then
          .reapply .notify else .publish, some S⟩ := by
  simp only [tickStep, phaseStep]
  split_ifs <;> rfl

@[simp] theorem tickStep_notify :
    tickStep consts policy D ⟨T, event, .reapply .notify, lastWriter⟩ =
      ⟨T, event, .publish, lastWriter⟩ := rfl

@[simp] theorem tickStep_publish :
    tickStep consts policy D ⟨T, event, .publish, lastWriter⟩ = ⟨T, event, .done, lastWriter⟩ :=
  rfl

end Steps

/-! ## The invariant -/

/-- A write is still to come in this phase. -/
def Phase.Pending : Phase → Prop
  | .read => True
  | .write _ => True
  | _ => False

variable (consts policy) in
/-- What every run keeps. -/
structure RaceInv (c : Race) : Prop where
  /-- The tags are the mapping of the last writer. -/
  tags : ∀ S, c.lastWriter = some S →
    TagsAre consts c.table (getFilteredDeviceResourceMap consts (some policy) S)
  /-- With no write since the last replace (or at all), a write is still to come. -/
  pending : c.lastWriter = none → c.event.Pending ∨ ∃ p, c.tick = .reapply p ∧ p.Pending

theorem raceInv_start (S₀ : DeviceMap) : RaceInv consts policy (Race.start S₀) :=
  ⟨fun _ h => Option.noConfusion h, fun _ => .inl trivial⟩

/-- A write leaves the tags it wrote. -/
theorem tagsAre_written (T S : DeviceMap) :
    TagsAre consts (tagDevices consts T (getFilteredDeviceResourceMap consts (some policy) S))
      (getFilteredDeviceResourceMap consts (some policy) S) :=
  tagsAre_tagDevices T fun _ _ h => getFilteredDeviceResourceMap_ne_empty h

/-- Just after a write, the invariant holds, whatever the two threads do next. -/
theorem raceInv_written {T S : DeviceMap} {event : Phase} {tick : TickPc} :
    RaceInv consts policy
      ⟨tagDevices consts T (getFilteredDeviceResourceMap consts (some policy) S), event, tick, some S⟩ :=
  ⟨fun _ h => by cases h; exact tagsAre_written T S, fun h => Option.noConfusion h⟩

/-- With the tick at none of its writes, the pending write is the event path's. -/
theorem pending_event {event : Phase} {tick : TickPc}
    (h : event.Pending ∨ ∃ p, tick = .reapply p ∧ p.Pending)
    (ht : ∀ p, tick = .reapply p → ¬ p.Pending) : event.Pending :=
  h.resolve_right fun ⟨p, hp, hpp⟩ => ht p hp hpp

theorem raceInv_eventStep {c : Race} (h : RaceInv consts policy c) :
    RaceInv consts policy (eventStep consts policy c) := by
  obtain ⟨T, event, tick, lastWriter⟩ := c
  obtain ⟨h₁, h₂⟩ := h
  cases event with
  | read => exact ⟨h₁, fun _ => .inl trivial⟩
  | write S => rw [eventStep_write]; exact raceInv_written
  | notify => exact ⟨h₁, fun hn => .inr ((h₂ hn).resolve_left id)⟩
  | finished => exact ⟨h₁, h₂⟩

theorem raceInv_tickStep {c : Race} (h : RaceInv consts policy c) :
    RaceInv consts policy (tickStep consts policy D c) := by
  obtain ⟨T, event, tick, lastWriter⟩ := c
  obtain ⟨h₁, h₂⟩ := h
  cases tick with
  | compare => exact ⟨h₁, fun hn => .inl (pending_event (h₂ hn) fun _ h => TickPc.noConfusion h)⟩
  | replace => exact ⟨fun _ h => Option.noConfusion h, fun _ => .inr ⟨.read, rfl, trivial⟩⟩
  | reapply p =>
    cases p with
    | read => exact ⟨h₁, fun _ => .inr ⟨_, rfl, trivial⟩⟩
    | write S => rw [tickStep_write]; exact raceInv_written
    | notify => exact ⟨h₁, fun hn => .inl (pending_event (h₂ hn) fun _ h => by cases h; exact id)⟩
    | finished =>
      exact ⟨h₁, fun hn => .inl (pending_event (h₂ hn) fun _ h => by cases h; exact id)⟩
  | publish => exact ⟨h₁, fun hn => .inl (pending_event (h₂ hn) fun _ h => TickPc.noConfusion h)⟩
  | done => exact ⟨h₁, h₂⟩

theorem runRace_append (c : Race) (l₁ l₂ : List Bool) :
    runRace consts policy D c (l₁ ++ l₂) =
      runRace consts policy D (runRace consts policy D c l₁) l₂ :=
  List.foldl_append _ _ _ _

/-- What each thread's step keeps, every interleaving keeps. -/
theorem runRace_induction (P : Race → Prop) (he : ∀ c, P c → P (eventStep consts policy c))
    (ht : ∀ c, P c → P (tickStep consts policy D c)) {c : Race} (h : P c) (sched : List Bool) :
    P (runRace consts policy D c sched) := by
  induction sched generalizing c with
  | nil => exact h
  | cons b sched ih =>
    apply ih
    cases b
    exacts [ht c h, he c h]

/-- **Every interleaving keeps the invariant.** -/
theorem raceInv_runRace {c : Race} (h : RaceInv consts policy c) (sched : List Bool) :
    RaceInv consts policy (runRace consts policy D c sched) :=
  runRace_induction (RaceInv consts policy) (fun _ => raceInv_eventStep) (fun _ => raceInv_tickStep)
    h sched

/-! ## The event path's write, computed before the replace -/

instance : DecidablePred Phase.Pending := fun p =>
  match p with
  | .read | .write _ => isTrue trivial
  | .notify | .finished => isFalse id

/-- The tick has not replaced the snapshot yet. -/
def TickPc.BeforeReplace : TickPc → Prop
  | .compare | .replace => True
  | _ => False

instance : DecidablePred TickPc.BeforeReplace := fun t =>
  match t with
  | .compare | .replace => isTrue trivial
  | .reapply _ | .publish | .done => isFalse id

/-- The tick has no write to come: it is past its reconcile's write, or done. -/
def TickPc.PastWrite : TickPc → Prop
  | .reapply p => ¬ p.Pending
  | .publish | .done => True
  | _ => False

instance : DecidablePred TickPc.PastWrite := fun t =>
  match t with
  | .reapply p => inferInstanceAs (Decidable (¬ p.Pending))
  | .publish | .done => isTrue trivial
  | .compare | .replace => isFalse id

/-- Until the tick replaces the snapshot, the table is the start snapshot `S₀` while the event
path has not written, and a snapshot the event path holds is `S₀`. -/
def EarlyRead (S₀ : DeviceMap) (c : Race) : Prop :=
  c.tick.BeforeReplace → (c.event.Pending → c.table = S₀) ∧ ∀ S, c.event = .write S → S = S₀

/-- The event path holds its read of `S`, or has written from it and is past its write; the
tick has no write to come. -/
def LastWrite (S : DeviceMap) (c : Race) : Prop :=
  c.tick.PastWrite ∧ (c.event = .write S ∨ c.lastWriter = some S ∧ ¬ c.event.Pending)

theorem earlyRead_start (S₀ : DeviceMap) : EarlyRead S₀ (Race.start S₀) :=
  fun _ => ⟨fun _ => rfl, fun _ h => by cases h⟩

/-- From the reconcile of a tick, the tick goes on to its publish or stays in the reconcile. -/
theorem tickStep_reapply_tick (T : DeviceMap) (event p : Phase) (lastWriter : Option DeviceMap) :
    (tickStep consts policy D ⟨T, event, .reapply p, lastWriter⟩).tick = .publish ∨
      ∃ p', (tickStep consts policy D ⟨T, event, .reapply p, lastWriter⟩).tick = .reapply p' := by
  simp only [tickStep]
  split
  exacts [.inl rfl, .inr ⟨_, rfl⟩]

theorem earlyRead_eventStep {S₀ : DeviceMap} {c : Race} (h : EarlyRead S₀ c) :
    EarlyRead S₀ (eventStep consts policy c) := by
  obtain ⟨T, event, tick, lastWriter⟩ := c
  cases event with
  | read =>
    rw [eventStep_read]
    intro hb
    have hT : T = S₀ := (h hb).1 trivial
    exact ⟨fun _ => hT, fun S hS => by cases hS; exact hT⟩
  | write S =>
    rw [eventStep_write]
    intro _
    split_ifs <;> exact ⟨fun hp => absurd hp id, fun _ h => by cases h⟩
  | notify =>
    rw [eventStep_notify]
    exact fun _ => ⟨fun hp => absurd hp id, fun _ h => by cases h⟩
  | finished => exact h

theorem earlyRead_tickStep {S₀ : DeviceMap} {c : Race} (h : EarlyRead S₀ c) :
    EarlyRead S₀ (tickStep consts policy D c) := by
  obtain ⟨T, event, tick, lastWriter⟩ := c
  cases tick with
  | compare =>
    rw [tickStep_compare]
    exact fun _ => h trivial
  | replace | publish => exact fun hb => absurd hb id
  | reapply p =>
    intro hb
    rcases tickStep_reapply_tick T event p lastWriter with ht | ⟨_, ht⟩ <;> rw [ht] at hb <;>
      exact absurd hb id
  | done => exact h

theorem lastWrite_eventStep {S : DeviceMap} {c : Race} (h : LastWrite S c) :
    LastWrite S (eventStep consts policy c) := by
  obtain ⟨T, event, tick, lastWriter⟩ := c
  obtain ⟨ht, rfl | ⟨hl, hp⟩⟩ := h
  · rw [eventStep_write]
    exact ⟨ht, .inr ⟨rfl, by split_ifs <;> exact id⟩⟩
  · cases event with
    | read | write _ => exact absurd trivial hp
    | notify => exact ⟨ht, .inr ⟨hl, id⟩⟩
    | finished => exact ⟨ht, .inr ⟨hl, hp⟩⟩

theorem lastWrite_tickStep {S : DeviceMap} {c : Race} (h : LastWrite S c) :
    LastWrite S (tickStep consts policy D c) := by
  obtain ⟨T, event, tick, lastWriter⟩ := c
  obtain ⟨ht, hw⟩ := h
  cases tick with
  | compare | replace => exact absurd ht id
  | reapply p =>
    cases p with
    | read | write _ => exact absurd trivial ht
    | notify | finished => exact ⟨trivial, hw⟩
  | publish | done => exact ⟨trivial, hw⟩

/-! ## Last write wins -/

/-- A snapshot equal to the table up to exposure tags has the same mapping. -/
theorem getFilteredDeviceResourceMap_eq_of_not_differsBesidesTags {S T : DeviceMap}
    (h : ¬ DiffersBesidesTags consts S T) (p : Option SriovResourcePolicy) :
    getFilteredDeviceResourceMap consts p S = getFilteredDeviceResourceMap consts p T := by
  have hclear : ∀ m : DeviceMap, getFilteredDeviceResourceMap consts p
      (m.mapValues fun _ => clearResourceName consts) = getFilteredDeviceResourceMap consts p m :=
    fun m => getFilteredDeviceResourceMap_mapValues p m fun _ d =>
      sameFilterAttributes_setResourceName none d
  rw [← hclear S, ← hclear T, not_not.mp h]

/-- The event path reads the snapshot, the tick runs to its end, then the event path writes and
notifies. -/
def staleSchedule : List Bool := [true, false, false, false, false, false, false, true, true]

/-- `staleSchedule` from `sampleSnapshot` under `vendorPolicy "r"`, discovery returning
`twoDevices`. -/
def staleRun : Race :=
  runRace sampleConsts (vendorPolicy "r") twoDevices (Race.start sampleSnapshot) staleSchedule

/-- **Last write wins**: once both threads finished, whatever the interleaving, the tags are the
mapping of the single matching policy over the snapshot that the last writer read, on the
devices of the final table; it is the mapping over the final table when that snapshot equals the
final table up to exposure tags. So when the event path reads before the tick's replace and
writes after every write of the tick, the last writer read the start snapshot `S₀`, and every
device of the final table that `S₀` lacks, every device the tick added, ends untagged. -/
theorem runRace_last_writer_wins (S₀ : DeviceMap) (sched : List Bool) {c : Race}
    (hc : c = runRace consts policy D (Race.start S₀) sched)
    (hevent : c.event = .finished) (htick : c.tick = .done) :
    (∃ S, c.lastWriter = some S ∧
      TagsAre consts c.table (getFilteredDeviceResourceMap consts (some policy) S) ∧
      (¬ DiffersBesidesTags consts S c.table → ∀ name, tagAt consts c.table name =
        (getFilteredDeviceResourceMap consts (some policy) c.table).lookup name)) ∧
    ∀ l₁ l₂ l₃ S, sched = l₁ ++ l₂ ++ l₃ →
      (runRace consts policy D (Race.start S₀) l₁).event = .write S →
      (runRace consts policy D (Race.start S₀) l₁).tick.BeforeReplace →
      (runRace consts policy D (Race.start S₀) (l₁ ++ l₂)).event = .write S →
      (runRace consts policy D (Race.start S₀) (l₁ ++ l₂)).tick.PastWrite →
      c.lastWriter = some S₀ ∧ ∀ name, S₀.lookup name = none → tagAt consts c.table name = none := by
  obtain ⟨h₁, h₂⟩ := hc ▸ raceInv_runRace (raceInv_start S₀) sched
  refine ⟨?_, fun l₁ l₂ l₃ S hs hr hb hw hp => ?_⟩
  · cases hw : c.lastWriter with
    | none =>
      have := h₂ hw
      simp [hevent, htick, Phase.Pending] at this
    | some S =>
      refine ⟨S, rfl, h₁ S hw, fun hS => ?_⟩
      have htags := h₁ S hw
      rw [getFilteredDeviceResourceMap_eq_of_not_differsBesidesTags hS] at htags
      exact htags.tagAt_eq fun _ _ => mem_of_lookup_getFilteredDeviceResourceMap
  · obtain rfl : S = S₀ := (runRace_induction (EarlyRead S₀) (fun _ => earlyRead_eventStep)
      (fun _ => earlyRead_tickStep) (earlyRead_start S₀) l₁ hb).2 S hr
    have hlast : LastWrite S c := by
      rw [hc, hs, runRace_append]
      exact runRace_induction (LastWrite S) (fun _ => lastWrite_eventStep)
        (fun _ => lastWrite_tickStep) ⟨hp, .inl hw⟩ l₃
    have hS : c.lastWriter = some S := (hlast.2.resolve_left (by simp [hevent])).1
    refine ⟨hS, fun name hn => ?_⟩
    rw [h₁ S hS name, lookup_getFilteredDeviceResourceMap, hn]
    cases c.table.lookup name <;> rfl

/-- On `staleSchedule` the event path reads `sampleSnapshot` before the tick's replace and
writes after the tick is done: `devB`, which the tick added, ends untagged. -/
theorem runRace_last_writer_wins_stale :
    (staleRun.event = .finished ∧ staleRun.tick = .done) ∧
    (∃ S, staleRun.lastWriter = some S ∧
      TagsAre sampleConsts staleRun.table
        (getFilteredDeviceResourceMap sampleConsts (some (vendorPolicy "r")) S) ∧
      (¬ DiffersBesidesTags sampleConsts S staleRun.table → ∀ name,
        tagAt sampleConsts staleRun.table name =
          (getFilteredDeviceResourceMap sampleConsts (some (vendorPolicy "r")) staleRun.table).lookup
            name)) ∧
    staleRun.lastWriter = some sampleSnapshot ∧ tagAt sampleConsts staleRun.table "devB" = none :=
  have h := runRace_last_writer_wins sampleSnapshot staleSchedule (rfl : staleRun = _)
    (by decide) (by decide)
  have hstale := h.2 [true] (List.replicate 6 false) [true, true] sampleSnapshot rfl (by decide)
    (by decide) (by decide) (by decide)
  ⟨⟨by decide, by decide⟩, h.1, hstale.1, hstale.2 "devB" (by decide)⟩

/-- The event path's write, computed from `devA` alone, lands after the tick added and tagged
`devB`: both threads finish with `devB` untagged, though the policy maps it to `r` in the final
snapshot. -/
theorem runRace_stale_write :
    staleRun.event = .finished ∧ staleRun.tick = .done ∧
    tagAt sampleConsts staleRun.table "devB" = none ∧
    (getFilteredDeviceResourceMap sampleConsts (some (vendorPolicy "r")) staleRun.table).lookup
      "devB" = some "r" := by
  decide

/-! ## Serial schedules are the node agent's runs -/

/-- Run alone from its start, the event path writes the mapping over the table it read. -/
theorem runRace_event_alone (T : DeviceMap) (tick : TickPc) (lastWriter : Option DeviceMap) :
    runRace consts policy D ⟨T, .read, tick, lastWriter⟩ [true, true, true] =
      ⟨tagDevices consts T (getFilteredDeviceResourceMap consts (some policy) T), .finished, tick,
        some T⟩ := by
  simp only [runRace, List.foldl, raceStep, eventStep_read, eventStep_write]
  split_ifs <;> rfl

/-- Run alone from its start, the tick is done within six steps: it leaves the table when
discovery's devices are the table, and otherwise replaces it and writes the mapping over them. -/
theorem runRace_tick_alone (T : DeviceMap) (event : Phase) (lastWriter : Option DeviceMap) :
    runRace consts policy D ⟨T, event, .compare, lastWriter⟩ (List.replicate 6 false) =
      if D = T then ⟨T, event, .done, lastWriter⟩
      else ⟨tagDevices consts D (getFilteredDeviceResourceMap consts (some policy) D), event,
        .done, some D⟩ := by
  split_ifs with he
  · have hdiff : deviceSetsAreDifferent T D = false := by simp [deviceSetsAreDifferent_eq, he]
    simp only [runRace, List.replicate, List.foldl, raceStep, tickStep_compare, hdiff]
    rfl
  · have hdiff : deviceSetsAreDifferent T D = true := by
      simpa [deviceSetsAreDifferent_eq] using Ne.symm he
    simp only [runRace, List.replicate, List.foldl, raceStep, tickStep_compare, hdiff, if_true,
      tickStep_replace, tickStep_read, tickStep_write]
    split_ifs <;> rfl

/-- The event path to its end, then the tick. -/
def eventThenTick : List Bool := [true, true, true] ++ List.replicate 6 false

/-- The tick to its end, then the event path. -/
def tickThenEvent : List Bool := List.replicate 6 false ++ [true, true, true]

/-- **Serial schedules are the node agent's runs.** With one matching policy, every call
answered and the reconciler at hand, the event path run to its end and then the tick, or the tick
and then the event path, finish both threads and leave the table where the node agent's run of
the same two events, in the same order, leaves the snapshot. -/
theorem runRace_serial {s : Agent} {env : ApiEnv} {tick : TickEnv}
    {nodeLabels : GoMap String String} {items : List SriovResourcePolicy}
    (hc : s.policyController = true) (hn : env.node = .ok nodeLabels)
    (hp : env.policies = .ok items) (hd : tick.discovery = .ok D)
    (hn' : tick.api.node = .ok nodeLabels) (hp' : tick.api.policies = .ok items)
    (hm : matchingPolicies nodeLabels items = [policy]) :
    ((runRace consts policy D (Race.start s.allocatable) eventThenTick).table =
        (runAgent consts s [.reconcile env, .tick tick]).allocatable ∧
      (runRace consts policy D (Race.start s.allocatable) eventThenTick).event = .finished ∧
      (runRace consts policy D (Race.start s.allocatable) eventThenTick).tick = .done) ∧
    ((runRace consts policy D (Race.start s.allocatable) tickThenEvent).table =
        (runAgent consts s [.tick tick, .reconcile env]).allocatable ∧
      (runRace consts policy D (Race.start s.allocatable) tickThenEvent).event = .finished ∧
      (runRace consts policy D (Race.start s.allocatable) tickThenEvent).tick = .done) := by
  simp only [runAgent, List.foldl, agentStep]
  constructor
  · rw [eventThenTick, runRace_append, Race.start, runRace_event_alone, runRace_tick_alone,
      syncDevicesAndResources_of_unique ((reconcile_policyController s env).trans hc) hd hn' hp' hm,
      (reconcile_of_unique hn hp hm).1]
    split_ifs <;> exact ⟨rfl, rfl, rfl⟩
  · rw [tickThenEvent, runRace_append, Race.start, runRace_tick_alone,
      (reconcile_of_unique hn hp hm).1, syncDevicesAndResources_of_unique hc hd hn' hp' hm]
    split_ifs <;> rw [runRace_event_alone] <;> exact ⟨rfl, rfl, rfl⟩

theorem runRace_serial_sample :
    sampleAgent.policyController = true ∧
    matchingPolicies ∅ [vendorPolicy "r"] = [vendorPolicy "r"] ∧
    (((runRace sampleConsts (vendorPolicy "r") twoDevices (Race.start sampleAgent.allocatable)
          eventThenTick).table =
        (runAgent sampleConsts sampleAgent [.reconcile (sampleApi [vendorPolicy "r"]),
          .tick ⟨.ok twoDevices, sampleApi [vendorPolicy "r"], none⟩]).allocatable ∧
      (runRace sampleConsts (vendorPolicy "r") twoDevices (Race.start sampleAgent.allocatable)
          eventThenTick).event = .finished ∧
      (runRace sampleConsts (vendorPolicy "r") twoDevices (Race.start sampleAgent.allocatable)
          eventThenTick).tick = .done) ∧
    ((runRace sampleConsts (vendorPolicy "r") twoDevices (Race.start sampleAgent.allocatable)
          tickThenEvent).table =
        (runAgent sampleConsts sampleAgent [.tick ⟨.ok twoDevices, sampleApi [vendorPolicy "r"], none⟩,
          .reconcile (sampleApi [vendorPolicy "r"])]).allocatable ∧
      (runRace sampleConsts (vendorPolicy "r") twoDevices (Race.start sampleAgent.allocatable)
          tickThenEvent).event = .finished ∧
      (runRace sampleConsts (vendorPolicy "r") twoDevices (Race.start sampleAgent.allocatable)
          tickThenEvent).tick = .done)) :=
  ⟨rfl, by decide, runRace_serial rfl rfl rfl rfl rfl rfl (by decide)⟩

end SriovDra.Driver
