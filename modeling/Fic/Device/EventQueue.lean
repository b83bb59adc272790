import Fic.Lib.ListUpdate
import Fic.Lib.Lines
import Fic.Lib.OrderedMap

/-!
# The queue of device events

`DeviceEventQueue` holds the events of the udev helper until the daemon handles them.  A
`change` may take the place of a queued `change` of the same key; the place is found through
an index.  The index is always the one a rebuild gives (`indexed_step`), so what matters is
where the last queued change of a key stands: an event of the same device behind it is
overtaken.  `queue_history` says what a run keeps when no change overtakes,
`run_accounted` what every run keeps.
-/

namespace Fic.Device

open Fic.Lib

structure DeviceEventEnvelope where
  action : Bytes
  devpath : Bytes
  subsystem : Bytes
  env : OrderedMap Bytes
  enforcementExpected : Bool := true

namespace DeviceEventEnvelope

def isChange (event : DeviceEventEnvelope) : Bool := event.action = lit "change"

def eventKey (event : DeviceEventEnvelope) : Bytes := event.subsystem ++ [lf] ++ event.devpath

def device (event : DeviceEventEnvelope) : Bytes × Bytes := (event.subsystem, event.devpath)

def changes (key : Bytes) (event : DeviceEventEnvelope) : Bool :=
  event.isChange && event.eventKey = key

end DeviceEventEnvelope

def MAX_DEVICE_EVENT_QUEUE : Nat := 256

structure DeviceEventQueue where
  queue : List DeviceEventEnvelope := []
  pendingChangeByKey : Bytes → Option Nat := fun _ => none
  reconciliationRequired : Bool := false
  /-- The two counters wrap. -/
  coalesced : UInt64 := 0
  overflowed : UInt64 := 0

variable {event : DeviceEventEnvelope} {queue : List DeviceEventEnvelope} {key : Bytes} {i : Nat}

/-- `pendingChangeByKey_[event_key(event)] = i`, for a change. -/
def indexChange (index : Bytes → Option Nat) (event : DeviceEventEnvelope) (i : Nat) :
    Bytes → Option Nat :=
  fun key => if event.changes key then some i else index key

def rebuildChangeIndex (queue : List DeviceEventEnvelope) : Bytes → Option Nat :=
  queue.zipIdx.foldl (fun index entry => indexChange index entry.1 entry.2) fun _ => none

namespace DeviceEventQueue

variable {q : DeviceEventQueue}

def replaced (q : DeviceEventQueue) (event : DeviceEventEnvelope) : Option Nat :=
  if event.isChange then
    (q.pendingChangeByKey event.eventKey).filter fun i => q.queue[i]?.any (·.isChange)
  else none

def enqueue (q : DeviceEventQueue) (event : DeviceEventEnvelope) : Bool × DeviceEventQueue :=
  match q.replaced event with
  | some i => (true, { q with queue := q.queue.set i event, coalesced := q.coalesced + 1 })
  | none =>
    if MAX_DEVICE_EVENT_QUEUE ≤ q.queue.length then
      (false, { q with reconciliationRequired := true, overflowed := q.overflowed + 1 })
    else
      (true, { q with
        queue := q.queue ++ [event]
        pendingChangeByKey := indexChange q.pendingChangeByKey event q.queue.length })

def pop (q : DeviceEventQueue) : Option (DeviceEventEnvelope × DeviceEventQueue) :=
  match q.queue with
  | [] => none
  | event :: queue =>
    some (event, { q with queue, pendingChangeByKey := rebuildChangeIndex queue })

end DeviceEventQueue

/-! ## The index -/

theorem rebuildChangeIndex_concat (queue : List DeviceEventEnvelope) (event : DeviceEventEnvelope) :
    rebuildChangeIndex (queue ++ [event]) =
      indexChange (rebuildChangeIndex queue) event queue.length := by
  simp [rebuildChangeIndex, List.zipIdx_append]

theorem rebuildChangeIndex_some (h : rebuildChangeIndex queue key = some i) :
    ∃ a e b, queue = a ++ e :: b ∧ a.length = i ∧ e.changes key = true ∧
      ∀ x ∈ b, x.changes key = false := by
  induction queue using List.reverseRecOn with
  | nil => cases h
  | append_singleton queue event ih =>
    rw [rebuildChangeIndex_concat, indexChange] at h
    by_cases hevent : event.changes key = true
    · rw [if_pos hevent] at h
      exact ⟨queue, event, [], rfl, Option.some.inj h, hevent, nofun⟩
    · rw [if_neg hevent] at h
      obtain ⟨a, e, b, rfl, hlength, he, hb⟩ := ih h
      exact ⟨a, e, b ++ [event], by simp, hlength, he, List.forall_mem_append.mpr
        ⟨hb, List.forall_mem_singleton.mpr (Bool.eq_false_iff.mpr hevent)⟩⟩

theorem rebuildChangeIndex_none (h : rebuildChangeIndex queue key = none) :
    ∀ e ∈ queue, e.changes key = false := by
  induction queue using List.reverseRecOn with
  | nil => nofun
  | append_singleton queue event ih =>
    rw [rebuildChangeIndex_concat, indexChange] at h
    split_ifs at h with hevent
    exact List.forall_mem_append.mpr
      ⟨ih h, List.forall_mem_singleton.mpr (Bool.eq_false_iff.mpr hevent)⟩

theorem rebuildChangeIndex_replace {e : DeviceEventEnvelope} (a b : List DeviceEventEnvelope)
    (h : ∀ key, event.changes key = e.changes key) :
    rebuildChangeIndex (a ++ event :: b) = rebuildChangeIndex (a ++ e :: b) := by
  induction b using List.reverseRecOn with
  | nil =>
    rw [rebuildChangeIndex_concat, rebuildChangeIndex_concat]
    funext key
    rw [indexChange, indexChange, h key]
  | append_singleton b x ih =>
    rw [← List.cons_append, ← List.append_assoc, rebuildChangeIndex_concat, ih,
      ← List.cons_append, ← List.append_assoc, rebuildChangeIndex_concat]
    simp

namespace DeviceEventQueue

variable {q : DeviceEventQueue}

def Indexed (q : DeviceEventQueue) : Prop := q.pendingChangeByKey = rebuildChangeIndex q.queue

/-- No change of the key of this change is queued. -/
def New (q : DeviceEventQueue) (event : DeviceEventEnvelope) : Prop :=
  event.isChange = true → ∀ e ∈ q.queue, e.changes event.eventKey = false

/-- What becomes of an event.  A change takes the place of the last queued change of its key;
any other event is queued, or refused if the queue is full. -/
inductive Enqueued (q : DeviceEventQueue) (event : DeviceEventEnvelope) :
    Bool → DeviceEventQueue → Prop
  | replaced {a b : List DeviceEventEnvelope} {e : DeviceEventEnvelope}
      (queue : q.queue = a ++ e :: b) (change : event.isChange = true)
      (last : e.changes event.eventKey = true)
      (behind : ∀ x ∈ b, x.changes event.eventKey = false) :
      Enqueued q event true { q with queue := a ++ event :: b, coalesced := q.coalesced + 1 }
  | refused (new : q.New event) (full : MAX_DEVICE_EVENT_QUEUE ≤ q.queue.length) :
      Enqueued q event false
        { q with reconciliationRequired := true, overflowed := q.overflowed + 1 }
  | appended (new : q.New event) (room : q.queue.length < MAX_DEVICE_EVENT_QUEUE) :
      Enqueued q event true
        { q with
          queue := q.queue ++ [event]
          pendingChangeByKey := indexChange q.pendingChangeByKey event q.queue.length }

/-- A queued change that the index names is found. -/
theorem new_of_replaced (hq : q.Indexed) (h : q.replaced event = none) : q.New event := by
  intro hchange
  rw [replaced, if_pos hchange, hq] at h
  cases hindex : rebuildChangeIndex q.queue event.eventKey with
  | none => exact rebuildChangeIndex_none hindex
  | some i =>
    obtain ⟨a, e, b, hqueue, rfl, he, -⟩ := rebuildChangeIndex_some hindex
    rw [DeviceEventEnvelope.changes, Bool.and_eq_true] at he
    rw [hindex, hqueue] at h
    simp [he.1] at h

theorem enqueue_cases (hq : q.Indexed) (event : DeviceEventEnvelope) :
    Enqueued q event (q.enqueue event).1 (q.enqueue event).2 := by
  unfold enqueue
  cases hreplaced : q.replaced event with
  | none =>
    have hnew := new_of_replaced hq hreplaced
    dsimp only
    split
    · next hfull => exact .refused hnew hfull
    · next hroom => exact .appended hnew (not_le.mp hroom)
  | some i =>
    unfold replaced at hreplaced
    split at hreplaced
    · next hchange =>
      have hindex := (Option.filter_eq_some_iff.mp hreplaced).1
      rw [hq] at hindex
      obtain ⟨a, e, b, hqueue, hlength, he, hb⟩ := rebuildChangeIndex_some hindex
      have hset : q.queue.set i event = a ++ event :: b := by
        rw [hqueue, ← hlength]
        simp
      dsimp only
      rw [hset]
      exact .replaced hqueue hchange he hb
    · cases hreplaced

theorem indexed_enqueue (hq : q.Indexed) : (q.enqueue event).2.Indexed := by
  have hcases := enqueue_cases hq event
  generalize (q.enqueue event).1 = ok, (q.enqueue event).2 = q' at hcases
  cases hcases with
  | @replaced a b e queue change last =>
    simp only [DeviceEventEnvelope.changes, Bool.and_eq_true, decide_eq_true_eq] at last
    have hsame : ∀ key, event.changes key = e.changes key := by
      intro key
      simp only [DeviceEventEnvelope.changes, change, last.1, last.2]
    show q.pendingChangeByKey = rebuildChangeIndex (a ++ event :: b)
    rw [rebuildChangeIndex_replace a b hsame, ← queue]
    exact hq
  | refused => exact hq
  | appended =>
    show indexChange q.pendingChangeByKey event _ = rebuildChangeIndex (q.queue ++ [event])
    rw [rebuildChangeIndex_concat, hq]

end DeviceEventQueue

/-! ## Histories -/

/-- The second list is the first without some changes whose next event is again a change. -/
inductive Thinned : List DeviceEventEnvelope → List DeviceEventEnvelope → Prop
  | nil : Thinned [] []
  | keep (event : DeviceEventEnvelope) {all kept : List DeviceEventEnvelope}
      (h : Thinned all kept) : Thinned (event :: all) (event :: kept)
  | skip {event next : DeviceEventEnvelope} {all kept : List DeviceEventEnvelope}
      (change : event.isChange = true) (again : next.isChange = true)
      (h : Thinned (next :: all) kept) : Thinned (event :: next :: all) kept

variable {all kept : List DeviceEventEnvelope}

theorem Thinned.eq_nil (h : Thinned all kept) (hkept : kept = []) : all = [] := by
  induction h with
  | nil => rfl
  | keep => cases hkept
  | skip _ _ _ ih => cases ih hkept

theorem Thinned.concat (h : Thinned all kept) (event : DeviceEventEnvelope) :
    Thinned (all ++ [event]) (kept ++ [event]) := by
  induction h with
  | nil => exact .keep event .nil
  | keep e _ ih => exact .keep e ih
  | skip change again _ ih => exact .skip change again ih

theorem Thinned.replace {last : DeviceEventEnvelope} (h : Thinned all (kept ++ [last]))
    (hlast : last.isChange = true) (hevent : event.isChange = true) :
    Thinned (all ++ [event]) (kept ++ [event]) := by
  generalize hwhole : kept ++ [last] = whole at h
  induction h generalizing kept with
  | nil => cases kept <;> cases hwhole
  | keep e h ih =>
    cases kept with
    | nil =>
      obtain ⟨rfl, rfl⟩ := List.cons.inj hwhole
      rw [h.eq_nil rfl]
      exact .skip hlast hevent (.keep event .nil)
    | cons x kept =>
      obtain ⟨rfl, htail⟩ := List.cons.inj hwhole
      exact .keep x (ih htail)
  | skip change again _ ih => exact .skip change again (ih hwhole)

theorem Thinned.getLast? (h : Thinned all kept) : kept.getLast? = all.getLast? := by
  induction h with
  | nil => rfl
  | keep e h ih =>
    rw [List.getLast?_cons, List.getLast?_cons, ih]
  | skip _ _ _ ih => rw [ih, List.getLast?_cons_cons]

inductive QueueCall
  | enqueue (event : DeviceEventEnvelope)
  | pop
  | requestReconciliation
  | clearReconciliationRequired

/-- The queue with what has gone in and come out. -/
structure QueueRun where
  queue : DeviceEventQueue := {}
  enqueued : List DeviceEventEnvelope := []
  popped : List DeviceEventEnvelope := []

namespace QueueRun

variable {r : QueueRun}

def step (r : QueueRun) : QueueCall → QueueRun
  | .enqueue event =>
    { r with queue := (r.queue.enqueue event).2, enqueued := r.enqueued ++ [event] }
  | .pop =>
    match r.queue.pop with
    | none => r
    | some (event, queue) => { r with queue, popped := r.popped ++ [event] }
  | .requestReconciliation => { r with queue := { r.queue with reconciliationRequired := true } }
  | .clearReconciliationRequired =>
    { r with queue := { r.queue with reconciliationRequired := false } }

def run (calls : List QueueCall) : QueueRun := calls.foldl step {}

def arrived (r : QueueRun) (device : Bytes × Bytes) : List DeviceEventEnvelope :=
  r.enqueued.filter (·.device = device)

/-- The events of a device that were popped, followed by those still queued. -/
def handled (r : QueueRun) (device : Bytes × Bytes) : List DeviceEventEnvelope :=
  (r.popped ++ r.queue.queue).filter (·.device = device)

/-- A change does not overtake: the last queued change of its key is of the same device, and
no event of the device is queued behind it. -/
def Follows (q : DeviceEventQueue) (event : DeviceEventEnvelope) : Prop :=
  event.isChange = true → ∀ a e b, q.queue = a ++ e :: b → e.changes event.eventKey = true →
    (∀ x ∈ b, x.changes event.eventKey = false) →
      e.device = event.device ∧ ∀ x ∈ b, x.device ≠ event.device

/-- The runs in which every event is taken and no change overtakes. -/
def Orderly : QueueRun → List QueueCall → Prop
  | _, [] => True
  | r, .enqueue event :: calls =>
    (r.queue.enqueue event).1 = true ∧ Follows r.queue event ∧
      Orderly (r.step (.enqueue event)) calls
  | r, call :: calls => Orderly (r.step call) calls

structure Valid (r : QueueRun) : Prop where
  indexed : r.queue.Indexed
  thinned : ∀ device, Thinned (r.arrived device) (r.handled device)

theorem indexed_step (h : r.queue.Indexed) (call : QueueCall) : (r.step call).queue.Indexed := by
  cases call with
  | enqueue event => exact DeviceEventQueue.indexed_enqueue h
  | pop =>
    unfold step DeviceEventQueue.pop
    cases r.queue.queue with
    | nil => exact h
    | cons => rfl
  | requestReconciliation => exact h
  | clearReconciliationRequired => exact h

theorem handled_pop (r : QueueRun) (device : Bytes × Bytes) :
    (r.step .pop).handled device = r.handled device ∧
      (r.step .pop).arrived device = r.arrived device := by
  unfold step DeviceEventQueue.pop
  cases hqueue : r.queue.queue with
  | nil => exact ⟨rfl, rfl⟩
  | cons => simp [handled, arrived, hqueue]

theorem thinned_enqueue (h : r.Valid) (haccepted : (r.queue.enqueue event).1 = true)
    (hfollows : Follows r.queue event) (device : Bytes × Bytes) :
    Thinned ((r.step (.enqueue event)).arrived device)
      ((r.step (.enqueue event)).handled device) := by
  have hthinned := h.thinned device
  have hcases := DeviceEventQueue.enqueue_cases h.indexed event
  rw [haccepted] at hcases
  show Thinned ((r.enqueued ++ [event]).filter _)
    ((r.popped ++ (r.queue.enqueue event).2.queue).filter _)
  unfold arrived handled at hthinned
  generalize (r.queue.enqueue event).2 = q' at hcases ⊢
  by_cases hdevice : event.device = device
  · cases hcases with
    | @replaced a b e queue change last behind =>
      obtain ⟨he, hb⟩ := hfollows change a e b queue last behind
      simp only [DeviceEventEnvelope.changes, Bool.and_eq_true] at last
      -- the replaced change is the last event of its device
      have hnone : b.filter (·.device = device) = [] := by
        simpa [List.filter_eq_nil_iff, ← hdevice] using hb
      simp only [queue, List.filter_append, List.filter_cons, he, hdevice, decide_true, if_true,
        hnone, List.filter_nil, ← List.append_assoc] at hthinned ⊢
      exact hthinned.replace last.1 change
    | appended =>
      simp only [List.filter_append, List.filter_cons, hdevice, decide_true, if_true,
        List.filter_nil, ← List.append_assoc] at hthinned ⊢
      exact hthinned.concat event
  · cases hcases with
    | @replaced a b e queue change last behind =>
      have he := (hfollows change a e b queue last behind).1
      simpa [queue, List.filter_cons, he, hdevice] using hthinned
    | appended => simpa [List.filter_cons, hdevice] using hthinned

theorem valid_run (calls : List QueueCall) (h : r.Valid) (horderly : Orderly r calls) :
    (calls.foldl step r).Valid := by
  induction calls generalizing r with
  | nil => exact h
  | cons call calls ih =>
    cases call with
    | enqueue event =>
      obtain ⟨haccepted, hfollows, horderly⟩ := horderly
      exact ih ⟨indexed_step h.indexed _, thinned_enqueue h haccepted hfollows⟩ horderly
    | pop =>
      refine ih ⟨indexed_step h.indexed _, fun device => ?_⟩ horderly
      rw [(handled_pop r device).1, (handled_pop r device).2]
      exact h.thinned device
    | requestReconciliation => exact ih ⟨h.indexed, h.thinned⟩ horderly
    | clearReconciliationRequired => exact ih ⟨h.indexed, h.thinned⟩ horderly

/-- A refused event asks for a reconciliation, and no event takes the request back. -/
theorem required_enqueue {q : DeviceEventQueue}
    (h : q.reconciliationRequired = true ∨ (q.enqueue event).1 = false) :
    (q.enqueue event).2.reconciliationRequired = true := by
  unfold DeviceEventQueue.enqueue at h ⊢
  cases hreplaced : q.replaced event with
  | some i => simpa [hreplaced] using h
  | none =>
    by_cases hfull : MAX_DEVICE_EVENT_QUEUE ≤ q.queue.length
    · simp only [hfull, if_true]
    · simpa [hreplaced, hfull] using h

/-- Only clearing it takes the request for a reconciliation back. -/
theorem required_run (calls : List QueueCall) (h : r.queue.reconciliationRequired = true)
    (hclear : .clearReconciliationRequired ∉ calls) :
    (calls.foldl step r).queue.reconciliationRequired = true := by
  induction calls generalizing r with
  | nil => exact h
  | cons call calls ih =>
    rw [List.mem_cons, not_or] at hclear
    refine ih ?_ hclear.2
    cases call with
    | enqueue event => exact required_enqueue (.inl h)
    | pop =>
      unfold step DeviceEventQueue.pop
      cases r.queue.queue with
      | nil => exact h
      | cons => exact h
    | requestReconciliation => rfl
    | clearReconciliationRequired => exact absurd rfl hclear.1

/-- Along every orderly run the events of a device are handled in order, with only such
changes left out that the next event repeats, and the last one is handled last.  A refusal
is remembered until it is cleared. -/
theorem queue_history (calls : List QueueCall) :
    (Orderly {} calls → ∀ device,
      Thinned ((run calls).arrived device) ((run calls).handled device) ∧
        ((run calls).handled device).getLast? = ((run calls).arrived device).getLast?) ∧
      ∀ event, ((run calls).queue.enqueue event).1 = false →
        ∀ later : List QueueCall, .clearReconciliationRequired ∉ later →
          (later.foldl step ((run calls).step (.enqueue event))).queue.reconciliationRequired =
            true := by
  refine ⟨fun horderly device => ?_, fun event hrefused later hclear => ?_⟩
  · have hvalid : (run calls).Valid := valid_run calls ⟨rfl, fun _ => .nil⟩ horderly
    exact ⟨hvalid.thinned device, (hvalid.thinned device).getLast?⟩
  · exact required_run later (required_enqueue (.inr hrefused)) hclear

def sampleEvent (action : String) (expected : Bool) : DeviceEventEnvelope :=
  { action := lit action, devpath := lit "/devices/a", subsystem := lit "usb", env := .empty
    enforcementExpected := expected }

def sampleDevice : Bytes × Bytes := (lit "usb", lit "/devices/a")

def overtaking : List QueueCall :=
  [.enqueue (sampleEvent "change" true), .enqueue (sampleEvent "add" true),
    .enqueue (sampleEvent "change" false)]

/-- The second change is queued in the place of the first, ahead of the `add` that came
between them. -/
theorem change_overtakes_add :
    (run overtaking).queue.overflowed = 0 ∧
      ¬Thinned ((run overtaking).arrived sampleDevice) ((run overtaking).handled sampleDevice) := by
  refine ⟨by decide +kernel, fun h => ?_⟩
  have hlast := congrArg (Option.map (·.enforcementExpected)) h.getLast?
  revert hlast
  decide +kernel

def repeating : List QueueCall :=
  [.enqueue (sampleEvent "change" true), .enqueue (sampleEvent "change" false), .pop]

theorem queue_history_sample :
    Orderly {} repeating ∧ ((run repeating).handled sampleDevice).getLast? =
      ((run repeating).arrived sampleDevice).getLast? := by
  have horderly : Orderly {} repeating := by
    refine ⟨by decide +kernel, ?_, by decide +kernel, ?_, trivial⟩
    · intro _ a e b hqueue
      cases a <;> cases hqueue
    · intro _ a e b hqueue _ _
      have hsingle : [sampleEvent "change" true] = a ++ e :: b := hqueue
      cases a with
      | nil =>
        obtain ⟨rfl, rfl⟩ := List.cons.inj hsingle
        exact ⟨rfl, nofun⟩
      | cons x a => cases a <;> cases (List.cons.inj hsingle).2
  exact ⟨horderly, ((queue_history _).1 horderly sampleDevice).2⟩

/-! ## What a run has counted -/

/-- The queue is bounded, no event is handled more often than it was enqueued, and what is
not handled has been counted, as far as the counters go. -/
structure Accounted (r : QueueRun) : Prop where
  indexed : r.queue.Indexed
  bounded : r.queue.queue.length ≤ MAX_DEVICE_EVENT_QUEUE
  known : ∀ p, (r.popped ++ r.queue.queue).countP p ≤ r.enqueued.countP p
  counted : UInt64.ofNat r.enqueued.length =
    UInt64.ofNat (r.popped ++ r.queue.queue).length + r.queue.coalesced + r.queue.overflowed

theorem Accounted.enqueue (h : r.Accounted) : (r.step (.enqueue event)).Accounted := by
  obtain ⟨hindexed, hbounded, hknown, hcounted⟩ := h
  have hcases := DeviceEventQueue.enqueue_cases hindexed event
  have hnext := indexed_step hindexed (.enqueue event)
  simp only [step] at hnext ⊢
  generalize (r.queue.enqueue event).1 = taken, (r.queue.enqueue event).2 = q at *
  have hone (n : Nat) : UInt64.ofNat (n + 1) = UInt64.ofNat n + 1 := UInt64.ofNat_add n 1
  cases hcases with
  | @replaced a b e queue =>
    rw [queue] at hbounded hknown hcounted
    refine ⟨hnext, by grind, by grind, ?_⟩
    show UInt64.ofNat (r.enqueued ++ [event]).length = UInt64.ofNat
      (r.popped ++ (a ++ event :: b)).length + (r.queue.coalesced + 1) + r.queue.overflowed
    rw [List.length_append, List.length_singleton, hone, hcounted,
      show (r.popped ++ (a ++ event :: b)).length = (r.popped ++ (a ++ e :: b)).length by simp]
    ac_rfl
  | refused =>
    refine ⟨hnext, hbounded, by grind, ?_⟩
    show UInt64.ofNat (r.enqueued ++ [event]).length = UInt64.ofNat
      (r.popped ++ r.queue.queue).length + r.queue.coalesced + (r.queue.overflowed + 1)
    rw [List.length_append, List.length_singleton, hone, hcounted]
    ac_rfl
  | appended _ room =>
    refine ⟨hnext, by grind, by grind, ?_⟩
    show UInt64.ofNat (r.enqueued ++ [event]).length = UInt64.ofNat
      (r.popped ++ (r.queue.queue ++ [event])).length + r.queue.coalesced + r.queue.overflowed
    rw [← List.append_assoc, List.length_append, List.length_singleton, hone, hcounted,
      show (r.popped ++ r.queue.queue ++ [event]).length = (r.popped ++ r.queue.queue).length + 1
        from List.length_append, hone]
    ac_rfl

theorem Accounted.pop (h : r.Accounted) : (r.step .pop).Accounted := by
  obtain ⟨hindexed, hbounded, hknown, hcounted⟩ := h
  unfold step DeviceEventQueue.pop
  cases hqueue : r.queue.queue with
  | nil => exact ⟨hindexed, hbounded, hknown, hcounted⟩
  | cons event queue =>
    rw [hqueue] at hbounded hknown hcounted
    exact ⟨rfl, Nat.le_of_succ_le hbounded, by simpa using hknown, by simpa using hcounted⟩

/-- Every run is accounted for, and whatever event comes next takes the place of a change of
its key, is queued, or is refused by a full queue. -/
theorem run_accounted (calls : List QueueCall) :
    (run calls).Accounted ∧ ∀ event, DeviceEventQueue.Enqueued (run calls).queue event
      ((run calls).queue.enqueue event).1 ((run calls).queue.enqueue event).2 := by
  have haccounted : (run calls).Accounted := by
    refine List.foldlRecOn calls step ⟨rfl, Nat.zero_le _, fun _ => Nat.zero_le _, rfl⟩ ?_
    intro r h call _
    cases call with
    | enqueue event => exact h.enqueue
    | pop => exact h.pop
    | _ => exact ⟨h.indexed, h.bounded, h.known, h.counted⟩
  exact ⟨haccounted, DeviceEventQueue.enqueue_cases haccounted.indexed⟩

end QueueRun

end Fic.Device
