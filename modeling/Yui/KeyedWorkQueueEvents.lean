import Yui.KeyedWorkQueueRefinement

/-!
# Events of the keyed queue

The keys readied and leased by a list of events. Settling idle waiters changes no phase and no ready
key, and it readies and leases nothing.
-/

namespace KeyedWorkQueue

variable {Key : Type*}

@[simp] def Event.readyKey? : Event Key → Option Key
  | .ready key => some key
  | _ => none

@[simp] def Event.leasedKey? : Event Key → Option Key
  | .leased item => some item.key
  | _ => none

def readyKeys (events : List (Event Key)) : List Key := events.filterMap Event.readyKey?

def leasedKeys (events : List (Event Key)) : List Key := events.filterMap Event.leasedKey?

@[simp] theorem readyKeys_nil : readyKeys ([] : List (Event Key)) = [] := rfl

@[simp] theorem leasedKeys_nil : leasedKeys ([] : List (Event Key)) = [] := rfl

@[simp] theorem readyKeys_cons (event : Event Key) (events : List (Event Key)) :
    readyKeys (event :: events) = event.readyKey?.toList ++ readyKeys events := by
  cases event <;> rfl

@[simp] theorem leasedKeys_cons (event : Event Key) (events : List (Event Key)) :
    leasedKeys (event :: events) = event.leasedKey?.toList ++ leasedKeys events := by
  cases event <;> rfl

@[simp] theorem settle_phase (v : View Key) : v.settle.phase = v.phase := by
  unfold View.settle
  split_ifs <;> rfl

@[simp] theorem settle_ready (v : View Key) : v.settle.ready = v.ready := by
  unfold View.settle
  split_ifs <;> rfl

@[simp] theorem settle_aborted (v : View Key) : v.settle.aborted = v.aborted := by
  unfold View.settle
  split_ifs <;> rfl

theorem mem_settleEvents {v : View Key} {event : Event Key} (h : event ∈ v.settleEvents) :
    (∃ p, event = .drained p) ∨ (∃ p, event = .taken p none) ∨ event = .stopped := by
  unfold View.settleEvents at h
  split_ifs at h <;>
    simp only [List.mem_append, List.mem_map, List.mem_singleton, List.append_nil, List.not_mem_nil] at h
  · rcases h with ⟨p, _, rfl⟩ | ⟨p, _, rfl⟩ | rfl
    · exact .inl ⟨p, rfl⟩
    · exact .inr (.inl ⟨p, rfl⟩)
    · exact .inr (.inr rfl)
  · rcases h with ⟨p, _, rfl⟩ | ⟨p, _, rfl⟩
    · exact .inl ⟨p, rfl⟩
    · exact .inr (.inl ⟨p, rfl⟩)
  · obtain ⟨p, _, rfl⟩ := h
    exact .inl ⟨p, rfl⟩

@[simp] theorem readyKeys_settleEvents (v : View Key) : readyKeys v.settleEvents = [] := by
  refine List.filterMap_eq_nil_iff.2 fun event he => ?_
  rcases mem_settleEvents he with ⟨p, rfl⟩ | ⟨p, rfl⟩ | rfl <;> rfl

@[simp] theorem leasedKeys_settleEvents (v : View Key) : leasedKeys v.settleEvents = [] := by
  refine List.filterMap_eq_nil_iff.2 fun event he => ?_
  rcases mem_settleEvents he with ⟨p, rfl⟩ | ⟨p, rfl⟩ | rfl <;> rfl

theorem signalled_notMem_settleEvents (v : View Key) (k : Key) (b : Bool) :
    Event.signalled k b ∉ v.settleEvents := fun h => by
  rcases mem_settleEvents h with ⟨p, he⟩ | ⟨p, he⟩ | he <;> cases he

@[simp] theorem readyKeys_append (events more : List (Event Key)) :
    readyKeys (events ++ more) = readyKeys events ++ readyKeys more := List.filterMap_append

@[simp] theorem leasedKeys_append (events more : List (Event Key)) :
    leasedKeys (events ++ more) = leasedKeys events ++ leasedKeys more := List.filterMap_append

theorem mem_readyKeys {events : List (Event Key)} {k : Key} : k ∈ readyKeys events ↔ .ready k ∈ events := by
  simp only [readyKeys, List.mem_filterMap]
  constructor
  · rintro ⟨event, he, hk⟩
    cases event <;> simp only [Event.readyKey?, Option.some.injEq, reduceCtorEq] at hk
    exact hk ▸ he
  · exact fun h => ⟨_, h, rfl⟩

theorem mem_leasedKeys {events : List (Event Key)} {k : Key} :
    k ∈ leasedKeys events ↔ ∃ item : Item Key, item.key = k ∧ .leased item ∈ events := by
  simp only [leasedKeys, List.mem_filterMap]
  constructor
  · rintro ⟨event, he, hk⟩
    cases event <;> simp only [Event.leasedKey?, Option.some.injEq, reduceCtorEq] at hk
    exact ⟨_, hk, he⟩
  · rintro ⟨item, rfl, he⟩
    exact ⟨_, he, rfl⟩

@[simp] theorem readyKeys_takenNone (waiters : List ℕ) :
    readyKeys (waiters.map fun p => (.taken p none : Event Key)) = [] := by
  simp [readyKeys, List.filterMap_map, Function.comp_def, Event.readyKey?]

@[simp] theorem leasedKeys_takenNone (waiters : List ℕ) :
    leasedKeys (waiters.map fun p => (.taken p none : Event Key)) = [] := by
  simp [leasedKeys, List.filterMap_map, Function.comp_def, Event.leasedKey?]

end KeyedWorkQueue
