import EmissionsPlatform.Alerting
import EmissionsPlatform.Foundation.EvictionWindow
import EmissionsPlatform.Foundation.DoubleTenths

/-! How long the receiver remembers. Its store keeps `maxSize` keys at most and
makes room by dropping a tenth of them, rounded up: `(maxSize + 9) / 10`. A key
outlives as many insertions as are left of `maxSize`, and two alerts that are
delivered with one key are further apart than that.

The store is a set that evicts in batches (`add_eq_insert`), and the loop by
which it evicts, which deletes from the map it iterates over, drops what the
model drops (`addAll_add_eq_addByLoop`). `dedup_window_guaranteed` carries the
window of such a set over every sequence of calls, first of the store and then
of the service. -/
namespace EmissionsPlatform.Alerting
open Contracts EvictionWindow
set_option autoImplicit false

namespace DedupStore

/-- `has`. -/
def has (store : DedupStore) (key : String) : Bool := key ∈ store.keys

/-- `size`. -/
def size (store : DedupStore) : Nat := store.keys.length

/-! ## Eviction as the source runs it -/

/-- `add` with its loop: `Math.ceil(this.maxSize * 0.1)` in doubles, and a key
deleted at each turn of the iteration over the keys. -/
def addByLoop (store : DedupStore) (key : String) : DedupStore × Bool :=
  if key ∈ store.keys then (store, false)
  else
    let kept := if store.maxSize ≤ store.keys.length then
        (deleteOldest (NumberArithmetic.ceilTenth store.maxSize) (store.keys.map some) 0 0).reduceOption
      else store.keys
    ({ store with keys := kept ++ [key] }, true)

variable {store : DedupStore} {key : String} {maxSize : Nat}

/-- A map has room for 2 ^ 24 keys, so a store that ever evicts is smaller than
the bound here. -/
theorem add_eq_addByLoop (nodup : store.keys.Nodup) (small : store.maxSize < 2 ^ 48) :
    store.add key = store.addByLoop key := by
  have present : (store.keys.map some).reduceOption = store.keys := by
    rw [List.reduceOption, List.filterMap_map]
    exact List.filterMap_some
  have loop (limit : Nat) :
      (deleteOldest limit (store.keys.map some) 0 0).reduceOption = store.keys.drop (max 1 limit) := by
    have dropped := @deleteOldest_keys _ _ limit 0 0 (store.keys.map some) rfl (present.symm ▸ nodup)
    rwa [present] at dropped
  rw [add, addByLoop, loop, NumberArithmetic.ceilTenth_eq small]
  rfl

theorem evictCount_eq (positive : 1 ≤ maxSize) : evictCount maxSize = (maxSize + 9) / 10 := by
  unfold evictCount
  omega

theorem evictCount_bounds (positive : 1 ≤ maxSize) : 1 ≤ evictCount maxSize ∧ evictCount maxSize ≤ maxSize := by
  unfold evictCount
  omega

/-! ## Calls of the store -/

/-- The store after calls of `add`. -/
def addAll (store : DedupStore) (keys : List String) : DedupStore :=
  keys.foldl (fun store key => (store.add key).1) store

/-- The keys for which those calls returned true. -/
def added : DedupStore → List String → List String
  | _, [] => []
  | store, key :: rest =>
    if (store.add key).2 then key :: (store.add key).1.added rest else (store.add key).1.added rest

theorem add_eq_insert (store : DedupStore) (key : String) :
    store.add key =
      (⟨(EvictionWindow.insert store.maxSize (evictCount store.maxSize) store.keys key).1, store.maxSize⟩,
        (EvictionWindow.insert store.maxSize (evictCount store.maxSize) store.keys key).2) := by
  by_cases held : key ∈ store.keys
  · rw [add, if_pos held, insert_of_mem held]
  · rw [add, if_neg held, insert_of_not_mem held]
    by_cases full : store.maxSize ≤ store.keys.length
    · simp only [if_pos full]
    · simp only [if_neg full, List.drop_zero]

@[simp] theorem maxSize_add (store : DedupStore) (key : String) : (store.add key).1.maxSize = store.maxSize := by
  rw [add_eq_insert]

theorem add_of_mem (held : key ∈ store.keys) : store.add key = (store, false) := if_pos held

theorem add_returns (store : DedupStore) (key : String) : (store.add key).2 = true ↔ key ∉ store.keys := by
  by_cases held : key ∈ store.keys
  · simp [add_of_mem held, held]
  · simp [add, held]

/-- The store's keys are a window of those inserted into it. -/
def Remembers (maxSize : Nat) (inserted : List String) (store : DedupStore) : Prop :=
  store.maxSize = maxSize ∧ Window maxSize (evictCount maxSize) inserted store.keys

theorem remembers_nil : Remembers maxSize [] ⟨[], maxSize⟩ := ⟨rfl, window_nil⟩

variable {inserted : List String}

theorem Remembers.add (remembers : Remembers maxSize inserted store) (positive : 1 ≤ maxSize)
    (fresh : key ∉ store.keys) : Remembers maxSize (inserted ++ [key]) (store.add key).1 := by
  obtain ⟨rfl, window⟩ := remembers
  refine ⟨maxSize_add store key, ?_⟩
  rw [add_eq_insert]
  exact window.insert (evictCount_bounds positive) fresh

theorem Remembers.addAll (remembers : Remembers maxSize inserted store) (positive : 1 ≤ maxSize)
    (keys : List String) : Remembers maxSize (inserted ++ store.added keys) (store.addAll keys) := by
  induction keys generalizing store inserted with
  | nil => simpa [added, DedupStore.addAll] using remembers
  | cons key rest ih =>
    by_cases held : key ∈ store.keys
    · have same := add_of_mem held
      simpa [added, DedupStore.addAll, same] using ih remembers
    · have new := (add_returns store key).mpr held
      have next := ih (remembers.add positive held)
      rw [List.append_assoc] at next
      rw [added, if_pos new]
      exact next

/-- Whatever was added before, a call runs as the source's loop does. -/
theorem addAll_add_eq_addByLoop (positive : 1 ≤ maxSize) (small : maxSize < 2 ^ 48) (keys : List String)
    (key : String) :
    (DedupStore.addAll ⟨[], maxSize⟩ keys).add key = (DedupStore.addAll ⟨[], maxSize⟩ keys).addByLoop key := by
  obtain ⟨size, window⟩ := remembers_nil.addAll positive keys
  apply add_eq_addByLoop window.nodup
  rw [size]
  exact small

/-- What the store promises after calls for which `added` returned true. -/
structure Guarantees (maxSize : Nat) (added : List String) (store : DedupStore) : Prop where
  bounded : store.size ≤ maxSize
  nodup : store.keys.Nodup
  returns : ∀ key, (store.add key).2 = true ↔ store.has key = false
  /-- Adding a held key changes nothing, its place included. -/
  unchanged : ∀ key, store.has key = true → (store.add key).1 = store
  /-- A new key goes behind the others, and a full store evicts the earliest
  inserted of those. -/
  evicts : ∀ key, store.has key = false → ∃ gone evicted kept,
    added = gone ++ evicted ++ kept ∧ store.keys = evicted ++ kept ∧ (store.add key).1.keys = kept ++ [key] ∧
      evicted.length = if store.size = maxSize then (maxSize + 9) / 10 else 0
  /-- A key that is inserted outlives the next insertions. -/
  outlives : ∀ key later, store.has key = false →
    ((store.add key).1.added later).length ≤ maxSize - (maxSize + 9) / 10 →
      ((store.add key).1.addAll later).has key = true

/-- What a new key evicts: nothing while there is room. -/
theorem Remembers.evicts (remembers : Remembers maxSize inserted store) (positive : 1 ≤ maxSize)
    (fresh : key ∉ store.keys) :
    ∃ gone evicted kept, inserted = gone ++ evicted ++ kept ∧ store.keys = evicted ++ kept ∧
      (store.add key).1.keys = kept ++ [key] ∧
      evicted.length = if store.size = maxSize then (maxSize + 9) / 10 else 0 := by
  obtain ⟨rfl, window⟩ := remembers
  have bounds := evictCount_bounds positive
  have bounded : store.size ≤ store.maxSize := window.bounded
  have dropped : (store.add key).1.keys =
      store.keys.drop (if store.maxSize ≤ store.size then evictCount store.maxSize else 0) ++ [key] := by
    rw [add_eq_insert, insert_of_not_mem fresh]
    rfl
  obtain ⟨gone, shape⟩ := window.oldest (if store.maxSize ≤ store.size then evictCount store.maxSize else 0)
  refine ⟨gone, _, _, shape, (List.take_append_drop _ _).symm, dropped, ?_⟩
  rw [← evictCount_eq positive, List.length_take, ← size]
  split <;> split <;> omega

theorem Remembers.guarantees (remembers : Remembers maxSize inserted store) (positive : 1 ≤ maxSize) :
    Guarantees maxSize inserted store := by
  obtain ⟨same, window⟩ := id remembers
  refine ⟨window.bounded, window.nodup, ?_, ?_, ?_, ?_⟩
  · intro key
    rw [add_returns, has, decide_eq_false_iff_not]
  · intro key held
    rw [add_of_mem (of_decide_eq_true held)]
  · intro key new
    exact remembers.evicts positive (of_decide_eq_false new)
  · intro key later new few
    have after := ((remembers.add positive (of_decide_eq_false new)).addAll positive later).2
    rw [List.append_assoc] at after
    rw [← evictCount_eq positive] at few
    apply decide_eq_true
    exact after.mem_of_few (evictCount_bounds positive).2 few

end DedupStore

/-! ## Calls of the service -/

namespace AlertsService

/-- The service after alerts were handled one after the other. -/
def handleAll (service : AlertsService) (alerts : List AlertEnvelopeBusiness) : AlertsService :=
  alerts.foldl (fun service alert => (handleBusiness service alert).1) service

/-- The alerts it did not suppress. -/
def delivered (log : List (AlertEvent × AlertEnvelopeBusiness)) : List AlertEnvelopeBusiness :=
  (log.filter fun entry => entry.1 = .delivered).map Prod.snd

variable {service : AlertsService} {alert : AlertEnvelopeBusiness} {maxSize : Nat}

@[simp] theorem delivered_append (first rest : List (AlertEvent × AlertEnvelopeBusiness)) :
    delivered (first ++ rest) = delivered first ++ delivered rest := by
  rw [delivered, List.filter_append, List.map_append]
  rfl

@[simp] theorem delivered_cons (event : AlertEvent) (rest : List (AlertEvent × AlertEnvelopeBusiness)) :
    delivered ((event, alert) :: rest) =
      if event = .delivered then alert :: delivered rest else delivered rest := by
  by_cases is : event = .delivered
  · simp [delivered, is]
  · simp [delivered, is]

/-- The store remembers the keys of the alerts that were delivered. -/
def Remembers (maxSize : Nat) (service : AlertsService) : Prop :=
  service.dedupStore.Remembers maxSize ((delivered service.log).map dedupKey)

/-- An alert is suppressed and the store left as it is, or its key is new. -/
theorem handleBusiness_adds (service : AlertsService) (alert : AlertEnvelopeBusiness) :
    (∃ event, event ≠ .delivered ∧ (handleBusiness service alert).1 = service.record event alert) ∨
      dedupKey alert ∉ service.dedupStore.keys ∧ (handleBusiness service alert).1 =
        ⟨(service.dedupStore.add (dedupKey alert)).1, service.log ++ [(.delivered, alert)]⟩ := by
  unfold handleBusiness
  by_cases nothing : alert.payload.measurementsInserted = 0
  · rw [if_pos nothing]
    exact Or.inl ⟨.noopSuppressed, nofun, rfl⟩
  · rw [if_neg nothing]
    by_cases held : dedupKey alert ∈ service.dedupStore.keys
    · rw [DedupStore.add_of_mem held]
      exact Or.inl ⟨.duplicateSuppressed, nofun, rfl⟩
    · have new := (DedupStore.add_returns _ _).mpr held
      simp only [new, if_true]
      exact Or.inr ⟨held, rfl⟩

theorem Remembers.handleBusiness (remembers : Remembers maxSize service) (positive : 1 ≤ maxSize)
    (alert : AlertEnvelopeBusiness) : Remembers maxSize (handleBusiness service alert).1 := by
  rcases handleBusiness_adds service alert with ⟨event, suppressed, handled⟩ | ⟨fresh, handled⟩
  · rw [handled, Remembers, record, delivered_append, delivered_cons, if_neg suppressed]
    exact (List.append_nil _).symm ▸ remembers
  · rw [handled, Remembers, delivered_append, List.map_append]
    exact remembers.add positive fresh

theorem Remembers.handleAll (remembers : Remembers maxSize service) (positive : 1 ≤ maxSize)
    (alerts : List AlertEnvelopeBusiness) : Remembers maxSize (service.handleAll alerts) := by
  induction alerts generalizing service with
  | nil => exact remembers
  | cons alert rest ih => exact ih (remembers.handleBusiness positive alert)

/-- Two alerts with one key are delivered far apart. -/
theorem Remembers.apart (remembers : Remembers maxSize service) (positive : 1 ≤ maxSize)
    {first between rest : List (AlertEvent × AlertEnvelopeBusiness)} {second : AlertEnvelopeBusiness}
    (logged : service.log = first ++ (.delivered, alert) :: (between ++ (.delivered, second) :: rest))
    (same : dedupKey alert = dedupKey second) : maxSize - (maxSize + 9) / 10 < (delivered between).length := by
  have spaced := remembers.2.spaced ((delivered first).map dedupKey) (dedupKey alert)
    ((delivered between).map dedupKey) ((delivered rest).map dedupKey)
  rw [List.length_map, DedupStore.evictCount_eq positive] at spaced
  apply spaced
  simp [logged, same]

end AlertsService

/-- **The dedupe window.** Whatever is added, the store is bounded, holds no key
twice and evicts the tenth that was inserted first, so that a key outlives the
next `maxSize - (maxSize + 9) / 10` insertions. Whatever alerts are handled, two
that are delivered with the same event type and batch have more than as many
delivered ones between them. -/
theorem dedup_window_guaranteed {maxSize : Nat} (positive : 1 ≤ maxSize) :
    (∀ keys : List String, DedupStore.Guarantees maxSize
      (DedupStore.added ⟨[], maxSize⟩ keys) (DedupStore.addAll ⟨[], maxSize⟩ keys)) ∧
    ∀ (alerts : List AlertEnvelopeBusiness) (first between rest : List (AlertEvent × AlertEnvelopeBusiness))
      (alert second : AlertEnvelopeBusiness),
      (AlertsService.handleAll ⟨⟨[], maxSize⟩, []⟩ alerts).log =
        first ++ (.delivered, alert) :: (between ++ (.delivered, second) :: rest) →
      alert.eventType = second.eventType → alert.payload.batchId = second.payload.batchId →
        maxSize - (maxSize + 9) / 10 < (AlertsService.delivered between).length := by
  constructor
  · intro keys
    exact (DedupStore.remembers_nil.addAll positive keys).guarantees positive
  · intro alerts first between rest alert second logged event batch
    have started : AlertsService.Remembers maxSize ⟨⟨[], maxSize⟩, []⟩ := DedupStore.remembers_nil
    apply (started.handleAll positive alerts).apart positive logged
    rw [dedupKey, dedupKey, event, batch]

private def batchAlert (batchId : String) (inserted : Int) : AlertEnvelopeBusiness :=
  ⟨batchId, "ingest.batch.persisted", "plant", ⟨"plant", batchId, inserted, 1, "5.000000", 1, 2⟩⟩

/-- A store of two keys forgets a batch once two others were delivered, and not
for a repeated one or an empty one. -/
theorem two_keys_guaranteed :
    DedupStore.Guarantees 2 ["a", "b", "c"] ⟨["b", "c"], 2⟩ ∧ 2 - (2 + 9) / 10 < (AlertsService.delivered
      [(.delivered, batchAlert "b" 1), (.duplicateSuppressed, batchAlert "a" 1),
        (.noopSuppressed, batchAlert "d" 0), (.delivered, batchAlert "c" 1)]).length := by
  obtain ⟨store, service⟩ := @dedup_window_guaranteed 2 (by decide)
  constructor
  · have added : DedupStore.added ⟨[], 2⟩ ["a", "b", "a", "c"] = ["a", "b", "c"] := by decide
    have kept : DedupStore.addAll ⟨[], 2⟩ ["a", "b", "a", "c"] = ⟨["b", "c"], 2⟩ := by decide
    exact added ▸ kept ▸ store ["a", "b", "a", "c"]
  · exact service [batchAlert "a" 1, batchAlert "b" 1, batchAlert "a" 1, batchAlert "d" 0, batchAlert "c" 1,
      batchAlert "a" 1] [] _ [] (batchAlert "a" 1) (batchAlert "a" 1) (by decide) rfl rfl

end EmissionsPlatform.Alerting
