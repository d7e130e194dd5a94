import SnapshotFeed.Proofs.Steps
import SnapshotFeed.Queue.Delivery

/-! The delivery queue among its handles.

Producers offer and consumers take, each through a handle of its own, in any order; handles are
cloned and dropped in between. `keeps_order`: as long as a consumer is left, what was taken and what
is still there are the accepted payloads in their order, so none is lost and none is taken twice. A
take happens when there is something for it: one that has to wait happens later, or never. -/
namespace SnapshotFeed.Queue

/-! ### What a consumer finds -/

namespace Delivery
variable {q r : Delivery}

theorem eq_new_of_new {capacity : Nat} (h : new capacity = .ok q) : q = Bounded.new capacity := by
  unfold new at h
  split at h
  · cases h
  · split at h
    · cases h
    · exact (Except.ok.inj h).symm

/-- A payload is stored while there is room for it, and nobody misses it without a consumer. -/
theorem offer_eq_true_iff {p : Payload} : offer q p = (true, r) ↔
    q.receivers = 0 ∧ r = q ∨
      q.receivers ≠ 0 ∧ q.items.length < q.capacity ∧ r = {q with items := q.items ++ [p]} := by
  rw [← Bounded.send_eq_closed_iff (a := p), ← Bounded.send_eq_stored_iff, offer]
  generalize q.send p = sent
  obtain ⟨answer, rest⟩ := sent
  cases answer <;> simp

theorem offer_eq_false_iff {p : Payload} : offer q p = (false, r) ↔
    q.receivers ≠ 0 ∧ q.capacity ≤ q.items.length ∧ r = q := by
  rw [← Bounded.send_eq_full_iff (a := p), offer]
  generalize q.send p = sent
  obtain ⟨answer, rest⟩ := sent
  cases answer <;> simp

/-- One payload is gone, the first, or none is. -/
def Yields (found : Option Payload) (q r : Delivery) : Prop :=
  ∃ rest, q.items = found.toList ++ rest ∧ r = {q with items := rest}

/-- The payload that was received. -/
def item? : Received Payload → Option Payload
  | .item p => some p
  | .empty | .closed => none

theorem yields_of_receive {answer : Received Payload} (h : q.receive = (answer, r)) :
    Yields (item? answer) q r := by
  cases answer with
  | item p => exact Bounded.receive_eq_item_iff.mp h
  | empty =>
    obtain ⟨hitems, -, rfl⟩ := Bounded.receive_eq_empty_iff.mp h
    exact ⟨[], hitems, by rw [← hitems]⟩
  | closed =>
    obtain ⟨hitems, -, rfl⟩ := Bounded.receive_eq_closed_iff.mp h
    exact ⟨[], hitems, by rw [← hitems]⟩

theorem yields_of_take {found : Except Error Payload} (h : take q = (some found, r)) :
    Yields found.toOption q r := by
  unfold take at h
  cases hreceive : q.receive with
  | mk answer rest =>
    rw [hreceive] at h
    cases answer <;> cases h <;> exact yields_of_receive hreceive

theorem yields_of_tryTake {found : Option Payload} (h : tryTake q = (found, r)) :
    Yields found q r := by
  unfold tryTake at h
  cases hreceive : q.receive with
  | mk answer rest =>
    rw [hreceive] at h
    cases answer <;> cases h <;> exact yields_of_receive hreceive

theorem yields_of_takeTimeout {found : Except Error (Option Payload)}
    (h : takeTimeout q = (found, r)) : Yields found.toOption.join q r := by
  unfold takeTimeout at h
  cases hreceive : q.receive with
  | mk answer rest =>
    rw [hreceive] at h
    cases answer <;> cases h <;> exact yields_of_receive hreceive

theorem take_eq_ok_iff {p : Payload} :
    take q = (some (.ok p), r) ↔ q.receive = (.item p, r) := by
  unfold take
  generalize q.receive = received
  obtain ⟨answer, rest⟩ := received
  cases answer <;> simp

theorem take_eq_error_iff {cause : Error} :
    take q = (some (.error cause), r) ↔ cause = .streamClosed ∧ q.receive = (.closed, r) := by
  unfold take
  generalize q.receive = received
  obtain ⟨answer, rest⟩ := received
  cases answer <;> simp [eq_comm]

theorem takeTimeout_eq_error_iff {cause : Error} :
    takeTimeout q = (.error cause, r) ↔ cause = .streamClosed ∧ q.receive = (.closed, r) := by
  unfold takeTimeout
  generalize q.receive = received
  obtain ⟨answer, rest⟩ := received
  cases answer <;> simp [eq_comm]

theorem take_eq_none_iff : take q = (none, r) ↔ q.receive = (.empty, r) := by
  unfold take
  generalize q.receive = received
  obtain ⟨answer, rest⟩ := received
  cases answer <;> simp

theorem takeTimeout_eq_none_iff : takeTimeout q = (.ok none, r) ↔ q.receive = (.empty, r) := by
  unfold takeTimeout
  generalize q.receive = received
  obtain ⟨answer, rest⟩ := received
  cases answer <;> simp

theorem tryTake_eq_none_iff : tryTake q = (none, r) ↔ q.items = [] ∧ r = q := by
  have hanswers : tryTake q = (none, r) ↔ q.receive = (.empty, r) ∨ q.receive = (.closed, r) := by
    unfold tryTake
    generalize q.receive = received
    obtain ⟨answer, rest⟩ := received
    cases answer <;> simp
  rw [hanswers, Bounded.receive_eq_empty_iff, Bounded.receive_eq_closed_iff, ← and_or_left,
    ← or_and_right]
  simp only [ne_eq, Decidable.not_or_self, true_and]

end Delivery

/-! ### What any handle may do -/

/-- A queue, and who holds a handle to it. -/
structure Handles where
  queue : Delivery
  producers : List Nat
  consumers : List Nat
  deriving DecidableEq, Repr

namespace Handles

/-- A queue of this capacity with one handle at each end. -/
def new (capacity : Nat) : Handles := ⟨Bounded.new capacity, [0], [0]⟩

inductive Event where
  | offers (producer : Nat) (payload : Payload) (accepted : Bool)
  | takes (consumer : Nat) (found : Except Error Payload)
  /-- A consumer takes what is there at once. -/
  | triesToTake (consumer : Nat) (found : Option Payload)
  /-- A consumer takes what comes in time. -/
  | takesInTime (consumer : Nat) (found : Except Error (Option Payload))
  /-- A consumer goes on with all payloads to come, or is at their end. -/
  | iterates (consumer : Nat) (found : Option Payload)
  | clonesProducer (producer clone : Nat)
  | dropsProducer (producer : Nat)
  | clonesConsumer (consumer clone : Nat)
  | dropsConsumer (consumer : Nat)

namespace Event

/-- The payload that a consumer takes, and which consumer. -/
def taken? : Event → Option (Nat × Payload)
  | takes i found => found.toOption.map (i, ·)
  | triesToTake i found | iterates i found => found.map (i, ·)
  | takesInTime i found => found.toOption.join.map (i, ·)
  | _ => none

def accepted? : Event → Option Payload
  | offers _ p true => some p
  | _ => none

end Event

def taken (es : List Event) : List (Nat × Payload) := es.filterMap Event.taken?

def accepted (es : List Event) : List Payload := es.filterMap Event.accepted?

inductive Happens : Handles → Event → Handles → Prop where
  | offers {w : Handles} {i : Nat} {p : Payload} {accepted : Bool} {queue : Delivery} :
    i ∈ w.producers → Delivery.offer w.queue p = (accepted, queue) →
      Happens w (.offers i p accepted) {w with queue}
  | takes {w : Handles} {i : Nat} {found : Except Error Payload} {queue : Delivery} :
    i ∈ w.consumers → Delivery.take w.queue = (some found, queue) →
      Happens w (.takes i found) {w with queue}
  | triesToTake {w : Handles} {i : Nat} {found : Option Payload} {queue : Delivery} :
    i ∈ w.consumers → Delivery.tryTake w.queue = (found, queue) →
      Happens w (.triesToTake i found) {w with queue}
  | takesInTime {w : Handles} {i : Nat} {found : Except Error (Option Payload)}
    {queue : Delivery} : i ∈ w.consumers → Delivery.takeTimeout w.queue = (found, queue) →
      Happens w (.takesInTime i found) {w with queue}
  | iterates {w : Handles} {i : Nat} {found : Except Error Payload} {next : Option Payload}
    {queue : Delivery} : i ∈ w.consumers → Delivery.take w.queue = (some found, queue) →
      found.toOption = next → Happens w (.iterates i next) {w with queue}
  | clonesProducer {w : Handles} {i j : Nat} : i ∈ w.producers → j ∉ w.producers →
    Happens w (.clonesProducer i j)
      {w with queue := w.queue.cloneSender, producers := j :: w.producers}
  | dropsProducer {w : Handles} {i : Nat} : i ∈ w.producers →
    Happens w (.dropsProducer i)
      {w with queue := w.queue.dropSender, producers := w.producers.erase i}
  | clonesConsumer {w : Handles} {i j : Nat} : i ∈ w.consumers → j ∉ w.consumers →
    Happens w (.clonesConsumer i j)
      {w with queue := w.queue.cloneReceiver, consumers := j :: w.consumers}
  | dropsConsumer {w : Handles} {i : Nat} : i ∈ w.consumers →
    Happens w (.dropsConsumer i)
      {w with queue := w.queue.dropReceiver, consumers := w.consumers.erase i}

/-! ### What is kept -/

section
variable {n : Nat} {es : List Event} {e : Event} {w v : Handles}

theorem taken_snoc (es : List Event) (e : Event) :
    (taken (es ++ [e])).map Prod.snd =
      (taken es).map Prod.snd ++ (e.taken?.map Prod.snd).toList := by
  rw [taken, filterMap_snoc, List.map_append]
  cases e.taken? <;> rfl

theorem accepted_snoc (es : List Event) (e : Event) :
    accepted (es ++ [e]) = accepted es ++ e.accepted?.toList :=
  filterMap_snoc Event.accepted? es e

/-- The queue knows its handles, and while a consumer is left it holds what was accepted and not
taken. The last consumer to go takes that with it. -/
structure Kept (n : Nat) (es : List Event) (w : Handles) : Prop where
  capacity : w.queue.capacity = n
  senders : w.queue.senders = w.producers.length
  receivers : w.queue.receivers = w.consumers.length
  length_le : w.queue.items.length ≤ n
  account : w.consumers ≠ [] → (taken es).map Prod.snd ++ w.queue.items = accepted es

theorem kept_new (n : Nat) : Kept n [] (new n) :=
  ⟨rfl, rfl, rfl, Nat.zero_le _, fun _ => rfl⟩

/-- Whatever a consumer does, and whatever it finds. -/
theorem Kept.yields (h : Kept n es w) {found : Option Payload} {queue : Delivery}
    (hyields : Delivery.Yields found w.queue queue) {i : Nat}
    (htaken : e.taken? = found.map (i, ·)) (haccepted : e.accepted? = none) :
    Kept n (es ++ [e]) {w with queue} := by
  obtain ⟨rest, hitems, rfl⟩ := hyields
  refine ⟨h.capacity, h.senders, h.receivers, ?_, fun hconsumers => ?_⟩
  · have hle := h.length_le
    rw [hitems, List.length_append] at hle
    exact Nat.le_of_add_left_le hle
  · have hpayload : (found.map (i, ·)).map Prod.snd = found := by cases found <;> rfl
    rw [taken_snoc, accepted_snoc, htaken, hpayload, haccepted, List.append_assoc, ← hitems,
      h.account hconsumers, Option.toList_none, List.append_nil]

theorem Kept.offer (h : Kept n es w) {i : Nat} {p : Payload} {isAccepted : Bool}
    {queue : Delivery} (hoffer : Delivery.offer w.queue p = (isAccepted, queue)) :
    Kept n (es ++ [.offers i p isAccepted]) {w with queue} := by
  have htaken : (taken (es ++ [.offers i p isAccepted])).map Prod.snd = (taken es).map Prod.snd := by
    rw [taken_snoc]
    exact List.append_nil _
  cases isAccepted with
  | false =>
    obtain ⟨-, -, rfl⟩ := Delivery.offer_eq_false_iff.mp hoffer
    refine ⟨h.capacity, h.senders, h.receivers, h.length_le, fun hconsumers => ?_⟩
    rw [htaken, accepted_snoc, h.account hconsumers]
    exact (List.append_nil _).symm
  | true =>
    have hstored : accepted (es ++ [.offers i p true]) = accepted es ++ [p] := accepted_snoc _ _
    rcases Delivery.offer_eq_true_iff.mp hoffer with ⟨hnone, rfl⟩ | ⟨-, hroom, rfl⟩
    · -- Nobody is left to miss the payload, and nobody will come.
      refine ⟨h.capacity, h.senders, h.receivers, h.length_le, fun hconsumers => ?_⟩
      rw [h.receivers, List.length_eq_zero_iff] at hnone
      exact absurd hnone hconsumers
    · refine ⟨h.capacity, h.senders, h.receivers, ?_, fun hconsumers => ?_⟩
      · rw [h.capacity] at hroom
        rw [List.length_append]
        exact hroom
      · rw [htaken, hstored, ← h.account hconsumers, List.append_assoc]

/-- Handles come and go, and while a consumer is left the payloads stay. -/
theorem Kept.handles (h : Kept n es w) (htaken : e.taken? = none) (haccepted : e.accepted? = none)
    (hcapacity : v.queue.capacity = w.queue.capacity)
    (hsenders : v.queue.senders = v.producers.length)
    (hreceivers : v.queue.receivers = v.consumers.length)
    (hconsumers : v.consumers ≠ [] → w.consumers ≠ [])
    (hitems : v.queue.items = w.queue.items ∨ v.queue.items = [] ∧ v.consumers = []) :
    Kept n (es ++ [e]) v := by
  refine ⟨hcapacity.trans h.capacity, hsenders, hreceivers, ?_, fun hleft => ?_⟩
  · rcases hitems with hitems | ⟨hitems, -⟩
    · rw [hitems]
      exact h.length_le
    · rw [hitems]
      exact Nat.zero_le n
  · have hkept := hitems.resolve_right fun hnone => hleft hnone.2
    rw [taken_snoc, accepted_snoc, htaken, haccepted, hkept, ← h.account (hconsumers hleft)]
    simp

theorem Kept.dropsConsumer (h : Kept n es w) {i : Nat} (hmem : i ∈ w.consumers) :
    Kept n (es ++ [.dropsConsumer i])
      {w with queue := w.queue.dropReceiver, consumers := w.consumers.erase i} := by
  have hlength := List.length_erase_of_mem hmem
  have hreceivers := h.receivers
  refine h.handles rfl rfl rfl h.senders ?_ (fun _ => List.ne_nil_of_mem hmem) ?_
  · show w.queue.receivers - 1 = (w.consumers.erase i).length
    omega
  · by_cases hlast : w.queue.receivers ≤ 1
    · have hnone : (w.consumers.erase i).length = 0 := by omega
      exact .inr ⟨if_pos hlast, List.eq_nil_of_length_eq_zero hnone⟩
    · exact .inl (if_neg hlast)

theorem Happens.kept (h : Happens w e v) (hw : Kept n es w) : Kept n (es ++ [e]) v := by
  cases h with
  | offers _ hoffer => exact hw.offer hoffer
  | takes _ htake => exact hw.yields (Delivery.yields_of_take htake) rfl rfl
  | triesToTake _ htake => exact hw.yields (Delivery.yields_of_tryTake htake) rfl rfl
  | takesInTime _ htake => exact hw.yields (Delivery.yields_of_takeTimeout htake) rfl rfl
  | iterates _ htake hnext =>
    exact hw.yields (hnext ▸ Delivery.yields_of_take htake) rfl rfl
  | clonesProducer hmem _ =>
    have hsome : w.queue.senders ≠ 0 := by
      rw [hw.senders]
      exact Nat.ne_of_gt (List.length_pos_of_mem hmem)
    refine hw.handles rfl rfl rfl ?_ hw.receivers id (.inl rfl)
    exact (if_neg hsome).trans (congrArg (· + 1) hw.senders)
  | dropsProducer hmem =>
    refine hw.handles rfl rfl rfl ?_ hw.receivers id (.inl rfl)
    exact (congrArg (· - 1) hw.senders).trans (List.length_erase_of_mem hmem).symm
  | clonesConsumer hmem _ =>
    have hsome : w.queue.receivers ≠ 0 := by
      rw [hw.receivers]
      exact Nat.ne_of_gt (List.length_pos_of_mem hmem)
    refine hw.handles rfl rfl rfl hw.senders ?_ (fun _ => List.ne_nil_of_mem hmem) (.inl rfl)
    exact (if_neg hsome).trans (congrArg (· + 1) hw.receivers)
  | dropsConsumer hmem => exact hw.dropsConsumer hmem

theorem kept_of_steps (h : Steps Happens (new n) es w) : Kept n es w :=
  h.invariant_along (P := Kept n) (fun _ _ _ _ => Happens.kept) (kept_new n)

/-! ### A consumer that waits -/

section
variable {i : Nat}

theorem Kept.receive_eq_empty_iff (h : Kept n es w) {queue : Delivery} :
    w.queue.receive = (.empty, queue) ↔
      (w.queue.items = [] ∧ w.producers ≠ []) ∧ queue = w.queue := by
  rw [Bounded.receive_eq_empty_iff, h.senders, ne_eq, List.length_eq_zero_iff, and_assoc]

/-- A consumer waits while there is nothing and a producer is left. -/
theorem Kept.not_takes_iff (h : Kept n es w) (hmem : i ∈ w.consumers) :
    (∀ found v, ¬Happens w (.takes i found) v) ↔ w.queue.items = [] ∧ w.producers ≠ [] := by
  constructor
  · intro hwaits
    cases htake : Delivery.take w.queue with
    | mk found queue =>
      cases found with
      | none => exact (h.receive_eq_empty_iff.mp (Delivery.take_eq_none_iff.mp htake)).1
      | some found => exact absurd (.takes hmem htake) (hwaits found _)
  · intro hempty found v hv
    have hnone := Delivery.take_eq_none_iff.mpr (h.receive_eq_empty_iff.mpr ⟨hempty, rfl⟩)
    cases hv with
    | takes _ htake =>
      rw [hnone] at htake
      cases htake

theorem triesToTake_none_iff (hmem : i ∈ w.consumers) :
    (∃ v, Happens w (.triesToTake i none) v) ↔ w.queue.items = [] := by
  constructor
  · rintro ⟨v, hv⟩
    cases hv with
    | triesToTake _ htake => exact (Delivery.tryTake_eq_none_iff.mp htake).1
  · intro hempty
    exact ⟨_, .triesToTake hmem (Delivery.tryTake_eq_none_iff.mpr ⟨hempty, rfl⟩)⟩

theorem Kept.takesInTime_none_iff (h : Kept n es w) (hmem : i ∈ w.consumers) :
    (∃ v, Happens w (.takesInTime i (.ok none)) v) ↔ w.queue.items = [] ∧ w.producers ≠ [] := by
  constructor
  · rintro ⟨v, hv⟩
    cases hv with
    | takesInTime _ htake =>
      exact (h.receive_eq_empty_iff.mp (Delivery.takeTimeout_eq_none_iff.mp htake)).1
  · intro hempty
    exact ⟨_, .takesInTime hmem
      (Delivery.takeTimeout_eq_none_iff.mpr (h.receive_eq_empty_iff.mpr ⟨hempty, rfl⟩))⟩

end

/-! ### The end of the payloads -/

/-- No producer is left, and what was accepted was taken. -/
def Over (es : List Event) (w : Handles) : Prop :=
  w.producers = [] ∧ (taken es).map Prod.snd = accepted es

theorem Kept.receive_eq_closed_iff (h : Kept n es w) (hconsumers : w.consumers ≠ [])
    (queue : Delivery) : w.queue.receive = (.closed, queue) ↔ Over es w ∧ queue = w.queue := by
  have hempty : (taken es).map Prod.snd = accepted es ↔ w.queue.items = [] := by
    rw [← h.account hconsumers]
    simp
  rw [Bounded.receive_eq_closed_iff, h.senders, List.length_eq_zero_iff, Over, hempty]
  simp only [and_assoc, and_left_comm]

section
variable {i : Nat}

theorem Kept.takes_error_iff (h : Kept n es w) (hmem : i ∈ w.consumers) :
    (∃ v, Happens w (.takes i (.error .streamClosed)) v) ↔ Over es w := by
  have hclosed := h.receive_eq_closed_iff (List.ne_nil_of_mem hmem)
  constructor
  · rintro ⟨v, hv⟩
    cases hv with
    | takes _ htake => exact ((hclosed _).mp (Delivery.take_eq_error_iff.mp htake).2).1
  · intro hover
    exact ⟨_, .takes hmem (Delivery.take_eq_error_iff.mpr ⟨rfl, (hclosed _).mpr ⟨hover, rfl⟩⟩)⟩

theorem Kept.takesInTime_error_iff (h : Kept n es w) (hmem : i ∈ w.consumers) :
    (∃ v, Happens w (.takesInTime i (.error .streamClosed)) v) ↔ Over es w := by
  have hclosed := h.receive_eq_closed_iff (List.ne_nil_of_mem hmem)
  constructor
  · rintro ⟨v, hv⟩
    cases hv with
    | takesInTime _ htake => exact ((hclosed _).mp (Delivery.takeTimeout_eq_error_iff.mp htake).2).1
  · intro hover
    exact ⟨_, .takesInTime hmem
      (Delivery.takeTimeout_eq_error_iff.mpr ⟨rfl, (hclosed _).mpr ⟨hover, rfl⟩⟩)⟩

theorem Kept.iterates_none_iff (h : Kept n es w) (hmem : i ∈ w.consumers) :
    (∃ v, Happens w (.iterates i none) v) ↔ Over es w := by
  have hclosed := h.receive_eq_closed_iff (List.ne_nil_of_mem hmem)
  constructor
  · rintro ⟨v, hv⟩
    cases hv with
    | @iterates _ found _ _ _ htake hnext =>
      cases found with
      | ok p => cases hnext
      | error cause => exact ((hclosed _).mp (Delivery.take_eq_error_iff.mp htake).2).1
  · intro hover
    exact ⟨_, .iterates hmem
      (Delivery.take_eq_error_iff.mpr ⟨rfl, (hclosed _).mpr ⟨hover, rfl⟩⟩) rfl⟩

end

/-! ### A bounded queue that drops the newest -/

theorem Kept.offer_iff (h : Kept n es w) (hconsumers : w.consumers ≠ []) {p : Payload}
    {isAccepted : Bool} {queue : Delivery}
    (hoffer : Delivery.offer w.queue p = (isAccepted, queue)) :
    (isAccepted = true ↔ w.queue.items.length < n) ∧
      (isAccepted = false → {w with queue} = w) := by
  cases isAccepted with
  | false =>
    obtain ⟨-, hfull, rfl⟩ := Delivery.offer_eq_false_iff.mp hoffer
    rw [h.capacity] at hfull
    exact ⟨by simp [Nat.not_lt.mpr hfull], fun _ => rfl⟩
  | true =>
    have hsome : w.queue.receivers ≠ 0 := by
      rw [h.receivers]
      exact fun hnone => hconsumers (List.eq_nil_of_length_eq_zero hnone)
    obtain ⟨-, hroom, -⟩ :=
      (Delivery.offer_eq_true_iff.mp hoffer).resolve_left fun hnone => hsome hnone.1
    rw [h.capacity] at hroom
    exact ⟨by simp [hroom], nofun⟩

/-- **The delivery queue keeps the order, and drops what finds it full.** While a consumer is left,
whoever offers, takes, clones or drops in whatever order: there are never more payloads than the
capacity, an offer is dropped exactly if there is no room, and then nothing changes; what was taken,
each payload by one consumer, and what is still there are the accepted payloads in their order; a
consumer finds nothing exactly if nothing is there; and the queue is closed to it exactly if no
producer is left and everything was taken. -/
theorem keeps_order (h : Steps Happens (new n) es w) (hconsumers : w.consumers ≠ []) :
    w.queue.items.length ≤ n ∧
    (∀ i p isAccepted v, Happens w (.offers i p isAccepted) v →
      (isAccepted = true ↔ w.queue.items.length < n) ∧ (isAccepted = false → v = w)) ∧
    (taken es).map Prod.snd ++ w.queue.items = accepted es ∧
    (∀ i ∈ w.consumers,
      ((∀ found v, ¬Happens w (.takes i found) v) ↔ w.queue.items = [] ∧ w.producers ≠ []) ∧
      ((∃ v, Happens w (.triesToTake i none) v) ↔ w.queue.items = []) ∧
      ((∃ v, Happens w (.takesInTime i (.ok none)) v) ↔
        w.queue.items = [] ∧ w.producers ≠ [])) ∧
    (∀ i ∈ w.consumers,
      ((∃ v, Happens w (.takes i (.error .streamClosed)) v) ↔ Over es w) ∧
      ((∃ v, Happens w (.takesInTime i (.error .streamClosed)) v) ↔ Over es w) ∧
      ((∃ v, Happens w (.iterates i none) v) ↔ Over es w)) ∧
    ∀ queue, Delivery.new n = .ok queue → queue = (new n).queue := by
  have hkept := kept_of_steps h
  refine ⟨hkept.length_le, ?_, hkept.account hconsumers, ?_, ?_, fun _ => Delivery.eq_new_of_new⟩
  · intro i p isAccepted v hhappens
    cases hhappens with
    | offers _ hoffer => exact hkept.offer_iff hconsumers hoffer
  · intro i hmem
    exact ⟨hkept.not_takes_iff hmem, triesToTake_none_iff hmem, hkept.takesInTime_none_iff hmem⟩
  · intro i hmem
    exact ⟨hkept.takes_error_iff hmem, hkept.takesInTime_error_iff hmem,
      hkept.iterates_none_iff hmem⟩

end

/-- One consumer takes what two producers offered, and is at the end. The third payload found the
queue full. -/
theorem keeps_order_of_two_producers :
    let es : List Event := [.clonesProducer 0 1, .offers 0 (.snapshot "a") true,
      .offers 1 (.snapshot "b") true, .offers 0 (.snapshot "c") false, .clonesConsumer 0 1,
      .takes 1 (.ok (.snapshot "a")), .dropsConsumer 0, .dropsProducer 0, .dropsProducer 1,
      .takesInTime 1 (.ok (some (.snapshot "b")))]
    ∃ w, Steps Happens (new 2) es w ∧ w.consumers = [1] ∧
      (taken es).map Prod.snd ++ w.queue.items = [.snapshot "a", .snapshot "b"] ∧
        ∃ v, Happens w (.iterates 1 none) v := by
  intro es
  let w : Handles := ⟨⟨2, [], 0, 1⟩, [], [1]⟩
  have hsteps : Steps Happens (new 2) es w :=
    .cons (.clonesProducer List.mem_cons_self (by decide)) <|
      .cons (.offers (by decide) rfl) <| .cons (.offers (by decide) rfl) <|
        .cons (.offers (by decide) rfl) <|
          .cons (.clonesConsumer List.mem_cons_self (by decide)) <|
            .cons (.takes (by decide) rfl) <| .cons (.dropsConsumer (by decide)) <|
              .cons (.dropsProducer (by decide)) <| .cons (.dropsProducer (by decide)) <|
                .cons (.takesInTime (by decide) rfl) .nil
  have hconsumers : w.consumers ≠ [] := List.cons_ne_nil _ _
  obtain ⟨-, -, haccount, -, hclosed, -⟩ := keeps_order hsteps hconsumers
  obtain ⟨-, -, hend⟩ := hclosed 1 List.mem_cons_self
  exact ⟨w, hsteps, rfl, haccount, hend.mpr ⟨rfl, rfl⟩⟩

/-! ### An iterator -/

theorem steps_of_items {i : Nat} (items : List Payload) {w : Handles} (hmem : i ∈ w.consumers)
    (hitems : w.queue.items = items) :
    Steps Happens w (items.map fun p => .iterates i (some p))
      {w with queue := {w.queue with items := []}} := by
  induction items generalizing w with
  | nil =>
    obtain ⟨⟨capacity, held, senders, receivers⟩, producers, consumers⟩ := w
    cases hitems
    exact .nil
  | cons p rest ih =>
    have htake : Delivery.take w.queue = (some (.ok p), {w.queue with items := rest}) :=
      Delivery.take_eq_ok_iff.mpr (Bounded.receive_eq_item_iff.mpr ⟨rest, hitems, rfl⟩)
    exact .cons (.iterates hmem htake rfl)
      (ih (w := {w with queue := {w.queue with items := rest}}) hmem rfl)

/-- To drain the queue is to iterate over all that is there. -/
theorem steps_of_drain {w : Handles} {i : Nat} (hmem : i ∈ w.consumers) {ps : List Payload}
    {queue : Delivery} (h : Delivery.drain w.queue = (some ps, queue)) :
    Steps Happens w (ps.map fun p => .iterates i (some p)) {w with queue} := by
  unfold Delivery.drain at h
  split at h
  · cases h
  · cases h
    exact steps_of_items _ hmem rfl

end Handles

end SnapshotFeed.Queue
