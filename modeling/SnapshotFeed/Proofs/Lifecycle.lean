import SnapshotFeed.Connector
import SnapshotFeed.Proofs.Queue.Delivery
import SnapshotFeed.Proofs.Reconnect.LoopAndSwitch

/-! A connector from its start to its end.

The worker takes its turns on a thread of its own. When the loop is over, broken or not, the thread
lets go of the queue and of the switch and ends. Calls to stop come from anybody while the owner
holds the connector; then the owner shuts it down or drops it: either way a last call to stop is made,
and only a shutdown waits for the thread before. Consumers take throughout. `Happens` is any one step
of anybody, in no set order. -/
namespace SnapshotFeed

open Reconnect

namespace Queue.Handles

/-- Only consumers act, and the first handle stays where it is. -/
def Event.isConsumers : Event → Bool
  | offers .. | clonesProducer .. | dropsProducer _ => false
  | dropsConsumer i => i != 0
  | _ => true

def Event.keepsProducers : Event → Bool
  | clonesProducer .. | dropsProducer _ => false
  | _ => true

/-- What the next take finds if nothing is offered any more: the first accepted payload that was not
taken, and the end after the last. -/
def due (es : List Event) : Except Error Payload :=
  (accepted es)[(taken es).length]?.elim (.error .streamClosed) .ok

section
variable {n : Nat} {es : List Event} {w v : Handles} {e : Event} {i : Nat}

/-- Without a producer no take waits, and each finds what is due. -/
theorem Kept.takes_iff (h : Kept n es w) (hproducers : w.producers = []) (hmem : i ∈ w.consumers)
    {found : Except Error Payload} : (∃ v, Happens w (.takes i found) v) ↔ found = due es := by
  have haccount := h.account (List.ne_nil_of_mem hmem)
  have hsenders : w.queue.senders = 0 := by
    rw [h.senders, hproducers]
    rfl
  have hdue : due es = w.queue.items.head?.elim (.error .streamClosed) .ok := by
    have hlength : ((taken es).map Prod.snd).length = (taken es).length := List.length_map _
    rw [due, ← haccount, ← hlength, List.getElem?_append_right (Nat.le_refl _), Nat.sub_self,
      List.head?_eq_getElem?]
  have htake : ∃ queue, Delivery.take w.queue = (some (due es), queue) := by
    rw [hdue]
    cases hitems : w.queue.items with
    | nil =>
      have hclosed := Bounded.receive_eq_closed_iff.mpr ⟨hitems, hsenders, rfl⟩
      exact ⟨_, Delivery.take_eq_error_iff.mpr ⟨rfl, hclosed⟩⟩
    | cons p rest =>
      have hitem := Bounded.receive_eq_item_iff.mpr ⟨rest, hitems, rfl⟩
      exact ⟨_, Delivery.take_eq_ok_iff.mpr hitem⟩
  obtain ⟨queue, htake⟩ := htake
  constructor
  · rintro ⟨v, hv⟩
    cases hv with
    | takes _ htake' =>
      rw [htake] at htake'
      cases htake'
      rfl
  · rintro rfl
    exact ⟨_, .takes hmem htake⟩

theorem Happens.producers (h : Happens w e v) (hkeeps : e.keepsProducers = true) :
    v.producers = w.producers := by
  cases h with
  | clonesProducer | dropsProducer => cases hkeeps
  | _ => rfl

theorem Event.keepsProducers_of_isConsumers (h : e.isConsumers = true) :
    e.keepsProducers = true := by
  cases e with
  | clonesProducer | dropsProducer => cases h
  | _ => rfl

theorem Event.accepted?_of_isConsumers (h : e.isConsumers = true) : e.accepted? = none := by
  cases e with
  | offers => cases h
  | _ => rfl

end

end Queue.Handles

/-! ### Worker and owner -/

/-- What a shutdown returns once the loop is over. -/
def verdict : Phase → Except Error Unit
  | .crashed _ => .error .workerCrashed
  | _ => .ok ()

theorem Connector.shutdown_eq_verdict (c : Connector) :
    c.shutdown.1 = verdict c.stop.loop.phase := rfl

/-- Where the thread of the worker stands. -/
inductive Worker where
  | working
  /-- The loop is over, and its end of the queue is gone. -/
  | hungUp
  | over
  deriving DecidableEq, Repr

/-- Where the owner of the connector stands. -/
inductive Owner where
  | holds
  /-- A shutdown makes a call to stop. -/
  | stopping (call : Nat)
  /-- A shutdown waits for the thread. -/
  | joining
  /-- The connector is dropped, and makes a call to stop. -/
  | dropping (call : Nat) (result : Option (Except Error Unit))
  /-- The connector has let go of the switch. -/
  | parting (result : Option (Except Error Unit))
  | gone (result : Option (Except Error Unit))

namespace Owner

/-- What a shutdown is going to return, or has returned. -/
def result? : Owner → Option (Except Error Unit)
  | dropping _ result | parting result | gone result => result
  | _ => none

/-- The owner has its first call to stop behind it. -/
def hasStopped : Owner → Bool
  | joining | dropping _ (some _) | parting _ | gone _ => true
  | _ => false

/-- The owner's first call to stop, while it is made. -/
def call? : Owner → Option Nat
  | stopping i | dropping i none => some i
  | _ => none

end Owner

structure Lifecycle extends LoopAndSwitch where
  handles : Queue.Handles
  worker : Worker
  owner : Owner

namespace Lifecycle

/-- A connector that has been started with a configuration. -/
def start (c : Config) : Lifecycle where
  toLoopAndSwitch := .new c.initialBackoff c.maxBackoff c.receiveQueueCapacity 1
  handles := .new c.deliveryQueueCapacity
  worker := .working
  owner := .holds

/-- What starts is that, and goes on as far as it can. -/
theorem eq_settle_of_startWith {c : Config} {scenario : Queue.Delivery → Scenario} {k : Connector}
    (h : Connector.startWith c scenario = .ok k) :
    k = Connector.settle ⟨(start c).loop, scenario (start c).handles.queue, true⟩ := by
  unfold Connector.startWith at h
  cases hnew : Queue.Delivery.new c.deliveryQueueCapacity with
  | error cause =>
    rw [hnew] at h
    cases h
  | ok delivery =>
    rw [hnew] at h
    cases h
    rw [Queue.Delivery.eq_new_of_new hnew]
    rfl

inductive Event where
  | turn (t : Turn)
  /-- The worker lets go of the queue. -/
  | hangsUp
  /-- The worker lets go of the switch, and its thread ends. -/
  | ends
  /-- A call to stop takes a step, and then stands there. -/
  | calls (index : Nat) (stand : Call)
  /-- Somebody calls to stop. -/
  | begins
  | shutsDown
  /-- The call of a shutdown has returned. -/
  | waits
  | joins
  | drops
  /-- The call of a connector that is dropped has returned, and it lets go of the switch. -/
  | lets
  /-- The connector lets go of the queue. -/
  | leaves
  | consumes (e : Queue.Handles.Event)

/-- What an event is for the loop, the calls and the switch. -/
def Event.inner? : Event → Option LoopAndSwitch.Event
  | turn t => some (.turn t)
  | ends => some .retires
  | calls i stand => some (.calls i stand)
  | begins | shutsDown | joins | drops => some .begins
  | lets => some .drops
  | _ => none

/-- What an event is for the queue. The worker is its only producer. -/
def Event.handles? : Event → Option Queue.Handles.Event
  | turn ⟨⟨.delivering payload, _, _⟩, accepted⟩ | turn ⟨⟨.notifying payload, _, _⟩, accepted⟩ =>
    some (.offers 0 payload accepted)
  | hangsUp => some (.dropsProducer 0)
  | leaves => some (.dropsConsumer 0)
  | consumes e => some e
  | _ => none

def AllReturned (calls : List Call) : Prop := ∀ c ∈ calls, ∃ released, c = .returned released

/-- What an event is for the worker and the owner, among these calls and with the loop in this
phase. The owner parts with the connector when nobody else is in the middle of a call. -/
inductive Passes (calls : List Call) (phase : Phase) :
    Worker → Owner → Event → Worker → Owner → Prop where
  | turn {owner : Owner} {t : Turn} : Passes calls phase .working owner (.turn t) .working owner
  | hangsUp {owner : Owner} : phase.isFinal = true →
    Passes calls phase .working owner .hangsUp .hungUp owner
  | ends {owner : Owner} : Passes calls phase .hungUp owner .ends .over owner
  | calls {worker : Worker} {owner : Owner} {i : Nat} {stand : Call} :
    Passes calls phase worker owner (.calls i stand) worker owner
  | begins {worker : Worker} : Passes calls phase worker .holds .begins worker .holds
  | shutsDown {worker : Worker} : AllReturned calls →
    Passes calls phase worker .holds .shutsDown worker (.stopping calls.length)
  | waits {worker : Worker} {i : Nat} {released : Bool} : calls[i]? = some (.returned released) →
    Passes calls phase worker (.stopping i) .waits worker .joining
  | joins : Passes calls phase .over .joining .joins .over
    (.dropping calls.length (some (verdict phase)))
  | drops {worker : Worker} : AllReturned calls →
    Passes calls phase worker .holds .drops worker (.dropping calls.length none)
  | lets {worker : Worker} {i : Nat} {result : Option (Except Error Unit)} {released : Bool} :
    calls[i]? = some (.returned released) →
      Passes calls phase worker (.dropping i result) .lets worker (.parting result)
  | leaves {worker : Worker} {result : Option (Except Error Unit)} :
    Passes calls phase worker (.parting result) .leaves worker (.gone result)
  | consumes {worker : Worker} {owner : Owner} {e : Queue.Handles.Event} : e.isConsumers = true →
    Passes calls phase worker owner (.consumes e) worker owner

structure Happens (w : Lifecycle) (e : Event) (v : Lifecycle) : Prop where
  inner : Maybe LoopAndSwitch.Happens w.toLoopAndSwitch e.inner? v.toLoopAndSwitch
  handles : Maybe Queue.Handles.Happens w.handles e.handles? v.handles
  passes : Passes w.calls w.loop.phase w.worker w.owner e v.worker v.owner

theorem happens_of_parts {inner inner' : LoopAndSwitch} {handles handles' : Queue.Handles}
    {worker worker' : Worker} {owner owner' : Owner} {e : Event}
    (hinner : Maybe LoopAndSwitch.Happens inner e.inner? inner')
    (hhandles : Maybe Queue.Handles.Happens handles e.handles? handles')
    (hpasses : Passes inner.calls inner.loop.phase worker owner e worker' owner') :
    Happens ⟨inner, handles, worker, owner⟩ e ⟨inner', handles', worker', owner'⟩ :=
  ⟨hinner, hhandles, hpasses⟩

/-- What the queue sees. -/
def queueEvents (es : List Event) : List Queue.Handles.Event := es.filterMap Event.handles?

theorem handles_of_steps {w v : Lifecycle} {es : List Event} (h : Steps Happens w es v) :
    Steps Queue.Handles.Happens w.handles (queueEvents es) v.handles :=
  Steps.project (fun _ _ _ hstep => hstep.handles) h

/-! ### What is kept -/

/-- The worker lets go of the queue after the loop, the owner returns what it found the thread to
end with, and the transport is closed when a call of its own has returned. -/
structure Kept (w : Lifecycle) : Prop where
  inner : ∃ es, LoopAndSwitch.Kept es w.toLoopAndSwitch
  producers : w.handles.producers = if w.worker = .working then [0] else []
  final : w.worker ≠ .working → w.loop.phase.isFinal = true
  result : ∀ result, w.owner.result? = some result →
    w.worker = .over ∧ result = verdict w.loop.phase
  /-- While the owner's first call is made nobody else is in the middle of one. -/
  calling : ∀ i, w.owner.call? = some i → ∀ j c, w.calls[j]? = some c → j ≠ i →
    ∃ released, c = .returned released
  closed : w.owner.hasStopped = true → w.switch.closed = 1

section Kept
variable {c : Config} {w v : Lifecycle} {e : Event} {es : List Event}

theorem kept_start (c : Config) : Kept (start c) where
  inner := ⟨[], LoopAndSwitch.kept_new ..⟩
  producers := rfl
  final h := absurd rfl h
  result := nofun
  calling := nofun
  closed := nofun

theorem Kept.closed_of_returned (h : Kept w) {i : Nat} (hcall : w.owner.call? = some i)
    {released : Bool} (hreturned : w.calls[i]? = some (.returned released)) :
    w.switch.closed = 1 := by
  obtain ⟨es, hinner⟩ := h.inner
  obtain ⟨stopped, honce⟩ := hinner.once
  refine (honce.of_all_returned ?_ ?_).2
  · exact List.ne_nil_of_mem (List.mem_of_getElem? hreturned)
  · intro c hc
    obtain ⟨j, hj⟩ := List.getElem?_of_mem hc
    by_cases hij : j = i
    · rw [hij, hreturned] at hj
      cases hj
      exact ⟨_, rfl⟩
    · exact h.calling i hcall j c hj hij

/-- Only a turn moves the loop. -/
theorem Happens.loop_eq (hstep : Happens w e v) (hturn : ∀ t, e ≠ .turn t) :
    v.loop = w.loop := by
  have hmaybe := hstep.inner
  cases e with
  | turn t => exact absurd rfl (hturn t)
  | hangsUp | waits | leaves | consumes e => exact congrArg LoopAndSwitch.loop hmaybe
  | _ => exact LoopAndSwitch.Happens.loop_eq hmaybe nofun

/-- The calls are made by the events that are a matter of the switch. -/
theorem Happens.calls_eq (hstep : Happens w e v) :
    v.calls = (e.inner?.map (LoopAndSwitch.Event.callsAfter w.calls)).getD w.calls := by
  obtain ⟨hunseen, hsame⟩ | ⟨e', hseen, hhappens⟩ := hstep.inner.cases
  · rw [hunseen, hsame]
    rfl
  · rw [hseen]
    exact hhappens.calls_eq

theorem Happens.inner_kept (hstep : Happens w e v) (h : Kept w) :
    ∃ es, LoopAndSwitch.Kept es v.toLoopAndSwitch := by
  obtain ⟨-, hsame⟩ | ⟨e', -, hhappens⟩ := hstep.inner.cases
  · rw [hsame]
    exact h.inner
  · exact h.inner.imp' _ fun _ => hhappens.kept

theorem Happens.switch_le (hstep : Happens w e v) :
    (w.switch.isSet = true → v.switch.isSet = true) ∧
      w.switch.closed ≤ v.switch.closed := by
  obtain ⟨-, hsame⟩ | ⟨e', -, hhappens⟩ := hstep.inner.cases
  · rw [hsame]
    exact ⟨id, Nat.le_refl _⟩
  · exact hhappens.switch_le

/-- Only the worker lets go of the producer. -/
theorem Happens.producers_eq (hstep : Happens w e v) (hup : e ≠ .hangsUp) :
    v.handles.producers = w.handles.producers := by
  obtain ⟨inner, handles, worker, owner⟩ := w
  obtain ⟨inner', handles', worker', owner'⟩ := v
  obtain ⟨-, hhandles, hpasses⟩ := hstep
  cases e with
  | turn t =>
    obtain ⟨⟨phase, b, capacity⟩, answer⟩ := t
    cases phase with
    | delivering payload | notifying payload => exact Queue.Handles.Happens.producers hhandles rfl
    | _ => exact congrArg Queue.Handles.producers hhandles
  | hangsUp => exact absurd rfl hup
  | leaves => exact Queue.Handles.Happens.producers hhandles rfl
  | consumes e =>
    cases hpasses with
    | consumes hconsumers =>
      exact Queue.Handles.Happens.producers hhandles
        (Queue.Handles.Event.keepsProducers_of_isConsumers hconsumers)
  | _ => exact congrArg Queue.Handles.producers hhandles

theorem Happens.producers (hstep : Happens w e v) (h : Kept w) :
    v.handles.producers = if v.worker = .working then [0] else [] := by
  have hsame := hstep.producers_eq
  have hbefore := h.producers
  obtain ⟨inner, handles, worker, owner⟩ := w
  obtain ⟨inner', handles', worker', owner'⟩ := v
  obtain ⟨-, hhandles, hpasses⟩ := hstep
  cases hpasses with
  | hangsUp =>
    cases hhandles with
    | dropsProducer =>
      rw [hbefore]
      rfl
  | ends => exact (hsame nofun).trans hbefore
  | _ => exact (hsame nofun).trans hbefore

theorem Happens.final (hstep : Happens w e v) (h : Kept w) (hworker : v.worker ≠ .working) :
    v.loop.phase.isFinal = true := by
  have hsame := hstep.loop_eq
  have hbefore := h.final
  obtain ⟨inner, handles, worker, owner⟩ := w
  obtain ⟨inner', handles', worker', owner'⟩ := v
  obtain ⟨-, -, hpasses⟩ := hstep
  cases hpasses with
  | turn => exact absurd rfl hworker
  | hangsUp hfinal =>
    rw [hsame nofun]
    exact hfinal
  | ends =>
    rw [hsame nofun]
    exact hbefore nofun
  | joins =>
    rw [hsame nofun]
    exact hbefore nofun
  | _ =>
    rw [hsame nofun]
    exact hbefore hworker

theorem Happens.result (hstep : Happens w e v) (h : Kept w) (result : Except Error Unit)
    (hresult : v.owner.result? = some result) :
    v.worker = .over ∧ result = verdict v.loop.phase := by
  have hsame := hstep.loop_eq
  have hbefore := h.result result
  obtain ⟨inner, handles, worker, owner⟩ := w
  obtain ⟨inner', handles', worker', owner'⟩ := v
  obtain ⟨-, -, hpasses⟩ := hstep
  cases hpasses with
  | turn => exact absurd (hbefore hresult).1 nofun
  | hangsUp => exact absurd (hbefore hresult).1 nofun
  | ends => exact absurd (hbefore hresult).1 nofun
  | begins | shutsDown | waits | drops => cases hresult
  | joins =>
    cases hresult
    exact ⟨rfl, congrArg (fun s => verdict s.phase) (hsame nofun).symm⟩
  | _ =>
    rw [hsame nofun]
    exact hbefore hresult

theorem Happens.calling (hstep : Happens w e v) (h : Kept w) (i : Nat)
    (hcall : v.owner.call? = some i) (j : Nat) (c : Call) (hc : v.calls[j]? = some c)
    (hj : j ≠ i) : ∃ released, c = .returned released := by
  have hsame := hstep.calls_eq
  have hbefore := h.calling i
  obtain ⟨inner, handles, worker, owner⟩ := w
  obtain ⟨inner', handles', worker', owner'⟩ := v
  obtain ⟨hinner, -, hpasses⟩ := hstep
  cases hpasses with
  | @calls _ _ k stand =>
    obtain ⟨before, hk, hreturned⟩ := LoopAndSwitch.Happens.exists_call hinner
    rw [show inner'.calls = inner.calls.set k stand from hsame, List.getElem?_set] at hc
    by_cases hjk : k = j
    · obtain ⟨released, rfl⟩ := hbefore hcall k before hk (hjk ▸ hj)
      exact absurd rfl (hreturned released)
    · rw [if_neg hjk] at hc
      exact hbefore hcall j c hc hj
  | begins | waits | joins | lets | leaves => cases hcall
  | shutsDown hreturned | drops hreturned =>
    -- The owner's call is the last of them, and those before it have returned.
    cases hcall
    rw [show inner'.calls = inner.calls ++ [.setting] from hsame] at hc
    refine hreturned c (List.mem_of_getElem? (i := j) ?_)
    rcases Nat.lt_or_gt_of_ne hj with hlt | hgt
    · rwa [List.getElem?_append_left hlt] at hc
    · have hle : (inner.calls ++ [Call.setting]).length ≤ j := by
        rw [List.length_append]
        exact hgt
      rw [List.getElem?_eq_none hle] at hc
      cases hc
  | _ =>
    rw [hsame] at hc
    exact hbefore hcall j c hc hj

theorem Happens.closed_step (hstep : Happens w e v) (h : Kept w)
    (hclosed : w.switch.closed = 1) : v.switch.closed = 1 := by
  obtain ⟨es, hinner⟩ := hstep.inner_kept h
  refine Nat.le_antisymm hinner.closed_le_one ?_
  rw [← hclosed]
  exact hstep.switch_le.2

theorem Happens.closed (hstep : Happens w e v) (h : Kept w) (hstopped : v.owner.hasStopped = true) :
    v.switch.closed = 1 := by
  refine hstep.closed_step h ?_
  have hbefore := h.closed
  have hreturns : ∀ i released, w.owner.call? = some i →
      w.calls[i]? = some (.returned released) → w.switch.closed = 1 :=
    fun _ _ hcall => h.closed_of_returned hcall
  obtain ⟨inner, handles, worker, owner⟩ := w
  obtain ⟨inner', handles', worker', owner'⟩ := v
  obtain ⟨-, -, hpasses⟩ := hstep
  cases hpasses with
  | begins | shutsDown | drops => cases hstopped
  | waits hreturned => exact hreturns _ _ rfl hreturned
  | joins => exact hbefore rfl
  | @lets _ i result _ hreturned =>
    cases result with
    | none => exact hreturns _ _ rfl hreturned
    | some result =>
      -- The call is the second one, after a shutdown.
      exact hbefore rfl
  | leaves => exact hbefore rfl
  | _ => exact hbefore hstopped

theorem Happens.kept (hstep : Happens w e v) (h : Kept w) : Kept v where
  inner := hstep.inner_kept h
  producers := hstep.producers h
  final := hstep.final h
  result := hstep.result h
  calling := hstep.calling h
  closed := hstep.closed h

theorem kept_of_steps (h : Steps Happens (start c) es w) : Kept w :=
  h.invariant (fun _ _ _ => Happens.kept) (kept_start c)

/-- Once the thread is over nothing is offered any more. -/
theorem Happens.over (hstep : Happens w e v) (hover : w.worker = .over) :
    v.worker = .over ∧ e.handles?.bind Queue.Handles.Event.accepted? = none := by
  obtain ⟨inner, handles, worker, owner⟩ := w
  obtain ⟨inner', handles', worker', owner'⟩ := v
  obtain ⟨-, -, hpasses⟩ := hstep
  cases hpasses with
  | turn | hangsUp | ends => cases hover
  | consumes hconsumes =>
    exact ⟨hover, Queue.Handles.Event.accepted?_of_isConsumers hconsumes⟩
  | _ => exact ⟨hover, rfl⟩

theorem accepted_of_over (h : Steps Happens w es v) (hover : w.worker = .over) :
    v.worker = .over ∧ Queue.Handles.accepted (queueEvents es) = [] := by
  induction h with
  | nil => exact ⟨hover, rfl⟩
  | @cons w u v e es hstep _ ih =>
    obtain ⟨hnext, hnone⟩ := hstep.over hover
    obtain ⟨hlast, hrest⟩ := ih hnext
    refine ⟨hlast, ?_⟩
    cases hseen : e.handles? with
    | none =>
      rw [queueEvents, List.filterMap_cons_none hseen]
      exact hrest
    | some e' =>
      rw [hseen] at hnone
      rw [queueEvents, List.filterMap_cons_some hseen, Queue.Handles.accepted,
        List.filterMap_cons_none (show e'.accepted? = none from hnone)]
      exact hrest

theorem happens_takes_iff {i : Nat} {found : Except Error Payload} :
    (∃ v, Happens w (.consumes (.takes i found)) v) ↔
      ∃ handles, Queue.Handles.Happens w.handles (.takes i found) handles := by
  constructor
  · rintro ⟨v, hv⟩
    exact ⟨_, hv.handles⟩
  · rintro ⟨handles, htakes⟩
    exact ⟨{w with handles}, rfl, htakes, .consumes rfl⟩

theorem verdict_eq_error_iff {p : Phase} :
    verdict p = .error .workerCrashed ↔ ∃ cause, p = .crashed cause := by
  constructor
  · intro h
    cases p with
    | crashed cause => exact ⟨cause, rfl⟩
    | _ => cases h
  · rintro ⟨cause, rfl⟩
    rfl

theorem verdict_eq_ok_iff {p : Phase} (hfinal : p.isFinal = true) :
    verdict p = .ok () ↔ p = .ended := by
  cases p with
  | ended => exact ⟨fun _ => rfl, fun _ => rfl⟩
  | crashed cause => exact ⟨nofun, nofun⟩
  | _ => cases hfinal

/-- **A connector from its start to its end.** Whoever calls to stop it when, and whether it is shut
down or dropped then: the transport is closed once at most, by the time the call that stops the
connector returns, and by the time the owner has made a call of its own; the connector stays stopped;
a shutdown has a result only when the thread of the worker is over, and it is an error exactly if the
worker crashed. Once the thread is over nothing more is accepted, and no take waits: it finds the
accepted payloads in their order, and after the last one that the stream is closed. -/
theorem closes_joins_and_drains {before after : List Event} {x w : Lifecycle}
    (h : Steps Happens (start c) before x) (h' : Steps Happens x after w) :
    (w.switch.closed ≤ 1 ∧ (.returned true ∈ w.calls → w.switch.closed = 1) ∧
      (w.owner.hasStopped = true → w.switch.closed = 1)) ∧
    (x.switch.isSet = true → w.switch.isSet = true) ∧
    (∀ result, w.owner.result? = some result → w.worker = .over ∧
      (result = .error .workerCrashed ↔ ∃ cause, w.loop.phase = .crashed cause) ∧
      (result = .ok () ↔ w.loop.phase = .ended)) ∧
    (x.worker = .over →
      let seen := queueEvents (before ++ after)
      Queue.Handles.accepted seen = Queue.Handles.accepted (queueEvents before) ∧
      ∀ i ∈ w.handles.consumers,
        (Queue.Handles.taken seen).map Prod.snd <+: Queue.Handles.accepted seen ∧
        ∀ found, (∃ v, Happens w (.consumes (.takes i found)) v) ↔
          found = Queue.Handles.due seen) := by
  have hsteps : Steps Happens (start c) (before ++ after) w := Steps.append_iff.mpr ⟨x, h, h'⟩
  have hkept := kept_of_steps hsteps
  obtain ⟨es, hinner⟩ := hkept.inner
  refine ⟨⟨hinner.closed_le_one, hinner.closed_eq_one, hkept.closed⟩, ?_, ?_, ?_⟩
  · exact h'.invariant (P := fun w => w.switch.isSet = true) fun _ _ _ hstep => hstep.switch_le.1
  · intro result hresult
    obtain ⟨hover, rfl⟩ := hkept.result result hresult
    have hfinal := hkept.final (by rw [hover]; nofun)
    exact ⟨hover, verdict_eq_error_iff, verdict_eq_ok_iff hfinal⟩
  · intro hover seen
    obtain ⟨hend, hnone⟩ := accepted_of_over h' hover
    have hqueue := Queue.Handles.kept_of_steps (handles_of_steps hsteps)
    refine ⟨?_, fun i hmem => ⟨?_, fun found => ?_⟩⟩
    · show Queue.Handles.accepted (queueEvents (before ++ after)) = _
      rw [queueEvents, List.filterMap_append, Queue.Handles.accepted, List.filterMap_append]
      exact (congrArg _ hnone).trans (List.append_nil _)
    · exact ⟨_, hqueue.account (List.ne_nil_of_mem hmem)⟩
    · have hproducers : w.handles.producers = [] := by
        rw [hkept.producers, hend]
        rfl
      exact happens_takes_iff.trans (hqueue.takes_iff hproducers hmem)

end Kept

/-- The transport breaks the worker after a session that was refused. Somebody stops the connector
before it is shut down, and a consumer finds the notice of the refusal and then the end. -/
theorem closes_joins_and_drains_after_crash :
    let c : Config := {Config.standard with initialBackoff := .zero, maxBackoff := .zero}
    let s (phase : Phase) : State := ⟨phase, .new .zero .zero, 5⟩
    let attempt : List Event := [.turn ⟨s .connecting, false⟩, .turn ⟨s .preparing, ()⟩,
      .turn ⟨s (.reporting .opening .opening), ()⟩]
    let refusal : List Event := [.turn ⟨s .opening, .refused .transportClosed⟩,
      .turn ⟨s (.refused .transportClosed), false⟩,
      .turn ⟨s (.reporting (.openFailed .transportClosed) .failing), ()⟩,
      .turn ⟨s .failing, true⟩, .turn ⟨s .settling, ()⟩, .turn ⟨s .settled, false⟩,
      .turn ⟨s .drawing, .zero⟩, .turn ⟨s (.reporting (.waiting .zero) (.pausing .zero)), ()⟩,
      .turn ⟨s (.pausing .zero), .elapsed⟩]
    let crash : List Event := [.turn ⟨s .opening, .broke "boom"⟩, .hangsUp,
      .consumes (.clonesConsumer 0 1), .begins, .calls 0 .closing, .calls 0 .waking,
      .calls 0 (.returned true), .shutsDown, .calls 1 (.returned false), .ends]
    let parting : List Event := [.waits, .joins, .calls 2 (.returned false), .lets, .leaves,
      .consumes (.takes 1 (.ok .retryNotice))]
    ∃ x w, Steps Happens (start c) (attempt ++ refusal ++ attempt ++ crash) x ∧
      Steps Happens x parting w ∧ w.owner.result? = some (.error .workerCrashed) ∧
        w.switch.closed = 1 ∧ ∃ v, Happens w (.consumes (.takes 1 (.error .streamClosed))) v := by
  intro c s attempt refusal crash parting
  let q (items : List Payload) (senders receivers : Nat) : Queue.Delivery :=
    ⟨5, items, senders, receivers⟩
  let x : Lifecycle := ⟨⟨s (.crashed (.transport "boom")), [.returned true, .returned false],
    ⟨true, 1, 1, true⟩, 1, true⟩, ⟨q [.retryNotice] 0 2, [], [1, 0]⟩, .over, .stopping 1⟩
  let w : Lifecycle := ⟨⟨s (.crashed (.transport "boom")),
    [.returned true, .returned false, .returned false], ⟨true, 1, 1, false⟩, 0, true⟩,
    ⟨q [] 0 1, [], [1]⟩, .over, .gone (some (.error .workerCrashed))⟩
  let working (phase : Phase) (items : List Payload) : Lifecycle :=
    ⟨⟨s phase, [], .new, 1, false⟩, ⟨q items 1 1, [0], [0]⟩, .working, .holds⟩
  have hattempt (items : List Payload) :
      Steps Happens (working .connecting items) attempt (working .opening items) :=
    .cons (happens_of_parts (LoopAndSwitch.Happens.turn ⟨rfl, rfl⟩) rfl .turn) <|
      .cons (happens_of_parts (LoopAndSwitch.Happens.turn ⟨trivial, rfl⟩) rfl .turn) <|
        .cons (happens_of_parts (LoopAndSwitch.Happens.turn ⟨trivial, rfl⟩) rfl .turn) .nil
  have hrefusal : Steps Happens (working .opening []) refusal
      (working .connecting [.retryNotice]) :=
    .cons (happens_of_parts (LoopAndSwitch.Happens.turn ⟨trivial, rfl⟩) rfl .turn) <|
      .cons (happens_of_parts (LoopAndSwitch.Happens.turn ⟨rfl, rfl⟩) rfl .turn) <|
        .cons (happens_of_parts (LoopAndSwitch.Happens.turn ⟨trivial, rfl⟩) rfl .turn) <|
          .cons (happens_of_parts (LoopAndSwitch.Happens.turn ⟨trivial, rfl⟩)
            (Queue.Handles.Happens.offers List.mem_cons_self rfl) .turn) <|
            .cons (happens_of_parts (LoopAndSwitch.Happens.turn ⟨trivial, rfl⟩) rfl .turn) <|
              .cons (happens_of_parts (LoopAndSwitch.Happens.turn ⟨rfl, rfl⟩) rfl .turn) <|
                .cons (happens_of_parts (LoopAndSwitch.Happens.turn ⟨trivial, rfl⟩) rfl .turn) <|
                  .cons (happens_of_parts (LoopAndSwitch.Happens.turn ⟨trivial, rfl⟩) rfl .turn) <|
                    .cons (happens_of_parts (LoopAndSwitch.Happens.turn .elapsed) rfl .turn) .nil
  have hreturned : AllReturned [.returned true] := fun c hc => ⟨true, List.mem_singleton.mp hc⟩
  have hcrash : Steps Happens (working .opening [.retryNotice]) crash x :=
    .cons (happens_of_parts (LoopAndSwitch.Happens.turn ⟨trivial, rfl⟩) rfl .turn) <|
      .cons (happens_of_parts rfl (Queue.Handles.Happens.dropsProducer List.mem_cons_self)
        (.hangsUp rfl)) <|
        .cons (happens_of_parts rfl
          (Queue.Handles.Happens.clonesConsumer List.mem_cons_self (by decide)) (.consumes rfl)) <|
          .cons (happens_of_parts (LoopAndSwitch.Happens.begins rfl) rfl .begins) <|
            .cons (happens_of_parts (LoopAndSwitch.Happens.calls rfl rfl) rfl .calls) <|
              .cons (happens_of_parts (LoopAndSwitch.Happens.calls rfl rfl) rfl .calls) <|
                .cons (happens_of_parts (LoopAndSwitch.Happens.calls rfl rfl) rfl .calls) <|
                  .cons (happens_of_parts (LoopAndSwitch.Happens.begins rfl) rfl
                    (.shutsDown hreturned)) <|
                    .cons (happens_of_parts (LoopAndSwitch.Happens.calls rfl rfl) rfl .calls) <|
                      .cons (happens_of_parts (LoopAndSwitch.Happens.retires rfl) rfl .ends) .nil
  have hbefore : Steps Happens (start c) (attempt ++ refusal ++ attempt ++ crash) x :=
    Steps.append_iff.mpr ⟨_, Steps.append_iff.mpr ⟨_, Steps.append_iff.mpr
      ⟨_, hattempt [], hrefusal⟩, hattempt [.retryNotice]⟩, hcrash⟩
  have hparting : Steps Happens x parting w :=
    .cons (happens_of_parts rfl rfl (.waits rfl)) <|
      .cons (happens_of_parts (LoopAndSwitch.Happens.begins rfl) rfl .joins) <|
        .cons (happens_of_parts (LoopAndSwitch.Happens.calls rfl rfl) rfl .calls) <|
          .cons (happens_of_parts (LoopAndSwitch.Happens.drops Nat.zero_lt_one) rfl (.lets rfl)) <|
            .cons (happens_of_parts rfl
              (Queue.Handles.Happens.dropsConsumer (List.mem_cons_of_mem _ List.mem_cons_self))
              .leaves) <|
              .cons (happens_of_parts rfl (Queue.Handles.Happens.takes List.mem_cons_self rfl)
                (.consumes rfl)) .nil
  obtain ⟨⟨-, hclosed, -⟩, -, -, hdrain⟩ := closes_joins_and_drains hbefore hparting
  obtain ⟨-, htakes⟩ := hdrain rfl
  exact ⟨x, w, hbefore, hparting, rfl, hclosed List.mem_cons_self,
    ((htakes 1 List.mem_cons_self).2 _).mpr rfl⟩

end Lifecycle

end SnapshotFeed
