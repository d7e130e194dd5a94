import SnapshotFeed.Proofs.Queue.Session
import SnapshotFeed.Proofs.Steps

/-! The queue of a session among its ends.

Messages are sent through any number of sinks and received at one end. Sinks are cloned and dropped
in between, and the receiver is dropped at some time, before the last message or after it.
`forwards_in_order` says what each of them learns: it is all told by the messages accepted and
received so far, by the sinks that are left, and by whether the receiver is. A send happens when it
is answered: one that has to wait happens later, or never. -/
namespace SnapshotFeed.Queue

/-- The ways to send a message through a sink. -/
inductive Sending where
  | next (response : Response)
  | fails (cause : StreamError)
  | completes
  /-- Any message, from a thread that can be kept waiting. -/
  | blocking (m : Message)
  deriving DecidableEq, Repr

def Sending.message : Sending → Message
  | next response => .response response
  | fails cause => .error cause
  | completes => .complete
  | blocking m => m

/-- A queue, who holds a sink of it, and whether its receiver is there. -/
structure Channel where
  queue : Session
  sinks : List Nat
  hasReceiver : Bool
  deriving DecidableEq, Repr

namespace Channel

/-- An empty queue of this capacity with one sink. -/
def new (capacity : Nat) : Channel := ⟨Bounded.new capacity, [0], true⟩

inductive Event where
  /-- A message is sent, and answered with whether the receiver is there. -/
  | sends (sink : Nat) (sending : Sending) (answer : Bool)
  /-- Somebody asks whether the receiver is gone. -/
  | looks (sink : Nat) (isClosed : Bool)
  /-- Somebody who waits for the receiver to go waits no more. -/
  | wakes (sink : Nat)
  | clones (sink clone : Nat)
  | drops (sink : Nat)
  | receives (found : Option Message)
  /-- The receiver is dropped. -/
  | leaves
  deriving DecidableEq, Repr

namespace Event

def accepted? : Event → Option Message
  | sends _ sending true => some sending.message
  | _ => none

def received? : Event → Option Message
  | receives found => found
  | _ => none

end Event

def accepted (es : List Event) : List Message := es.filterMap Event.accepted?

def received (es : List Event) : List Message := es.filterMap Event.received?

inductive Happens : Channel → Event → Channel → Prop where
  | sends {w : Channel} {i : Nat} {sending : Sending} {answer : Bool} {queue : Session} :
    i ∈ w.sinks → Session.offer w.queue sending.message = (some answer, queue) →
      Happens w (.sends i sending answer) {w with queue}
  | looks {w : Channel} {i : Nat} : i ∈ w.sinks → Happens w (.looks i (Session.isClosed w.queue)) w
  | wakes {w : Channel} {i : Nat} : i ∈ w.sinks → Session.isClosed w.queue = true →
    Happens w (.wakes i) w
  | clones {w : Channel} {i j : Nat} : i ∈ w.sinks → j ∉ w.sinks →
    Happens w (.clones i j) {w with queue := w.queue.cloneSender, sinks := j :: w.sinks}
  | drops {w : Channel} {i : Nat} : i ∈ w.sinks →
    Happens w (.drops i) {w with queue := w.queue.dropSender, sinks := w.sinks.erase i}
  | receives {w : Channel} {found : Option Message} {queue : Session} : w.hasReceiver = true →
    Session.next w.queue = (some found, queue) → Happens w (.receives found) {w with queue}
  | leaves {w : Channel} : w.hasReceiver = true →
    Happens w .leaves {w with queue := w.queue.dropReceiver, hasReceiver := false}

/-! ### What is kept -/

section
variable {n : Nat} {es : List Event} {e : Event} {w v : Channel}

theorem accepted_snoc (es : List Event) (e : Event) :
    accepted (es ++ [e]) = accepted es ++ e.accepted?.toList :=
  filterMap_snoc Event.accepted? es e

theorem received_snoc (es : List Event) (e : Event) :
    received (es ++ [e]) = received es ++ e.received?.toList :=
  filterMap_snoc Event.received? es e

/-- The queue knows its ends. While the receiver is there it holds what was accepted and not
received; the receiver takes that with it. -/
structure Kept (n : Nat) (es : List Event) (w : Channel) : Prop where
  capacity : w.queue.capacity = n
  senders : w.queue.senders = w.sinks.length
  receivers : w.queue.receivers = w.hasReceiver.toNat
  length_le : w.queue.items.length ≤ n
  account : w.hasReceiver = true → received es ++ w.queue.items = accepted es
  heard : received es <+: accepted es

theorem kept_new (n : Nat) : Kept n [] (new n) :=
  ⟨rfl, rfl, rfl, Nat.zero_le _, fun _ => rfl, List.prefix_rfl⟩

/-- A receiver is there exactly if the queue has one. -/
theorem Kept.hasReceiver_iff (h : Kept n es w) : w.hasReceiver = true ↔ w.queue.receivers ≠ 0 := by
  rw [h.receivers]
  cases w.hasReceiver <;> simp

theorem Kept.isClosed_eq (h : Kept n es w) : Session.isClosed w.queue = !w.hasReceiver := by
  rw [Session.isClosed, h.receivers]
  cases w.hasReceiver <;> rfl

theorem Kept.sends (h : Kept n es w) {i : Nat} {sending : Sending} {answer : Bool}
    {queue : Session} (hoffer : Session.offer w.queue sending.message = (some answer, queue)) :
    Kept n (es ++ [.sends i sending answer]) {w with queue} := by
  have hreceived : received (es ++ [.sends i sending answer]) = received es := by
    rw [received_snoc]
    exact List.append_nil _
  cases answer with
  | false =>
    obtain ⟨-, rfl⟩ := Session.offer_eq_false_iff.mp hoffer
    have haccepted : accepted (es ++ [.sends i sending false]) = accepted es := by
      rw [accepted_snoc]
      exact List.append_nil _
    refine ⟨h.capacity, h.senders, h.receivers, h.length_le, ?_, ?_⟩
    · rw [hreceived, haccepted]
      exact h.account
    · rw [hreceived, haccepted]
      exact h.heard
  | true =>
    obtain ⟨-, hroom, rfl⟩ := Session.offer_eq_true_iff.mp hoffer
    have haccepted : accepted (es ++ [.sends i sending true]) =
        accepted es ++ [sending.message] := accepted_snoc _ _
    refine ⟨h.capacity, h.senders, h.receivers, ?_, fun hthere => ?_, ?_⟩
    · rw [h.capacity] at hroom
      rw [List.length_append]
      exact hroom
    · rw [hreceived, haccepted, ← h.account hthere, List.append_assoc]
    · rw [hreceived, haccepted]
      exact h.heard.trans (List.prefix_append _ _)

theorem Kept.receives (h : Kept n es w) (hthere : w.hasReceiver = true) {found : Option Message}
    {queue : Session} (hnext : Session.next w.queue = (some found, queue)) :
    Kept n (es ++ [.receives found]) {w with queue} := by
  have haccepted : accepted (es ++ [.receives found]) = accepted es := by
    rw [accepted_snoc]
    exact List.append_nil _
  have hreceived : received (es ++ [.receives found]) = received es ++ found.toList :=
    received_snoc _ _
  obtain ⟨rest, hitems, rfl⟩ : ∃ rest, w.queue.items = found.toList ++ rest ∧
      queue = {w.queue with items := rest} := by
    obtain ⟨m, rest, hitems, rfl, rfl⟩ | ⟨hitems, -, rfl, rfl⟩ := Session.next_eq_some_iff.mp hnext
    · exact ⟨rest, hitems, rfl⟩
    · exact ⟨[], hitems, by rw [← hitems]⟩
  have haccount : received (es ++ [.receives found]) ++ rest = accepted es := by
    rw [hreceived, List.append_assoc, ← hitems, h.account hthere]
  refine ⟨h.capacity, h.senders, h.receivers, ?_, fun _ => ?_, ?_⟩
  · have hle := h.length_le
    rw [hitems, List.length_append] at hle
    exact Nat.le_of_add_left_le hle
  · rw [haccepted, haccount]
  · rw [haccepted]
    exact ⟨rest, haccount⟩

/-- No message comes or goes, unless the receiver takes all of them with it. -/
theorem Kept.ends (h : Kept n es w) (haccepted : e.accepted? = none)
    (hreceived : e.received? = none)
    (hcapacity : v.queue.capacity = w.queue.capacity)
    (hsenders : v.queue.senders = v.sinks.length)
    (hreceivers : v.queue.receivers = v.hasReceiver.toNat)
    (hitems : v.queue.items = w.queue.items ∧ v.hasReceiver = w.hasReceiver ∨
      v.queue.items = [] ∧ v.hasReceiver = false) : Kept n (es ++ [e]) v := by
  have haccepted' : accepted (es ++ [e]) = accepted es := by
    rw [accepted_snoc, haccepted]
    exact List.append_nil _
  have hreceived' : received (es ++ [e]) = received es := by
    rw [received_snoc, hreceived]
    exact List.append_nil _
  refine ⟨hcapacity.trans h.capacity, hsenders, hreceivers, ?_, fun hthere => ?_, ?_⟩
  · rcases hitems with ⟨hitems, -⟩ | ⟨hitems, -⟩
    · rw [hitems]
      exact h.length_le
    · rw [hitems]
      exact Nat.zero_le n
  · obtain ⟨hitems, hsame⟩ := hitems.resolve_right fun hgone =>
      Bool.false_ne_true (hgone.2.symm.trans hthere)
    rw [haccepted', hreceived', hitems]
    exact h.account (hsame.symm.trans hthere)
  · rw [haccepted', hreceived']
    exact h.heard

theorem Happens.kept (h : Happens w e v) (hw : Kept n es w) : Kept n (es ++ [e]) v := by
  cases h with
  | sends _ hoffer => exact hw.sends hoffer
  | receives hthere hnext => exact hw.receives hthere hnext
  | looks | wakes => exact hw.ends rfl rfl rfl hw.senders hw.receivers (.inl ⟨rfl, rfl⟩)
  | clones hmem _ =>
    have hsome : w.queue.senders ≠ 0 := by
      rw [hw.senders]
      exact Nat.ne_of_gt (List.length_pos_of_mem hmem)
    refine hw.ends rfl rfl rfl ?_ hw.receivers (.inl ⟨rfl, rfl⟩)
    exact (if_neg hsome).trans (congrArg (· + 1) hw.senders)
  | drops hmem =>
    refine hw.ends rfl rfl rfl ?_ hw.receivers (.inl ⟨rfl, rfl⟩)
    exact (congrArg (· - 1) hw.senders).trans (List.length_erase_of_mem hmem).symm
  | leaves hthere =>
    have hone : w.queue.receivers = 1 := by rw [hw.receivers, hthere]; rfl
    refine hw.ends rfl rfl rfl hw.senders ?_ (.inr ⟨?_, rfl⟩)
    · exact congrArg (· - 1) hone
    · exact if_pos (Nat.le_of_eq hone)

theorem kept_of_steps (h : Steps Happens (new n) es w) : Kept n es w :=
  h.invariant_along (P := Kept n) (fun _ _ _ _ => Happens.kept) (kept_new n)

/-- A receiver that is gone does not come back. -/
theorem Happens.hasReceiver (h : Happens w e v) (hgone : w.hasReceiver = false) :
    v.hasReceiver = false := by
  cases h with
  | leaves => rfl
  | _ => exact hgone

/-! ### What is answered -/

section
variable {i : Nat} {sending : Sending} {answer : Bool}

/-- A send waits while the queue is full and the receiver is there, and is told which it is. -/
theorem Kept.sends_iff (h : Kept n es w) (hmem : i ∈ w.sinks) :
    (∃ v, Happens w (.sends i sending answer) v) ↔
      answer = w.hasReceiver ∧ (w.hasReceiver = true → w.queue.items.length < n) := by
  constructor
  · rintro ⟨v, hv⟩
    cases hv with
    | sends _ hoffer =>
      cases answer with
      | false =>
        obtain ⟨hnone, -⟩ := Session.offer_eq_false_iff.mp hoffer
        have hgone : w.hasReceiver = false :=
          Bool.eq_false_iff.mpr fun hthere => h.hasReceiver_iff.mp hthere hnone
        exact ⟨hgone.symm, fun hthere => absurd (hgone.symm.trans hthere) Bool.false_ne_true⟩
      | true =>
        obtain ⟨hsome, hroom, -⟩ := Session.offer_eq_true_iff.mp hoffer
        rw [h.capacity] at hroom
        exact ⟨(h.hasReceiver_iff.mpr hsome).symm, fun _ => hroom⟩
  · rintro ⟨rfl, hroom⟩
    cases hthere : w.hasReceiver with
    | false =>
      have hnone : w.queue.receivers = 0 := by rw [h.receivers, hthere]; rfl
      exact ⟨_, .sends hmem (Session.offer_eq_false_iff.mpr ⟨hnone, rfl⟩)⟩
    | true =>
      have hlt : w.queue.items.length < w.queue.capacity := by
        rw [h.capacity]
        exact hroom hthere
      exact ⟨_, .sends hmem
        (Session.offer_eq_true_iff.mpr ⟨h.hasReceiver_iff.mp hthere, hlt, rfl⟩)⟩

/-- Without a receiver nothing is stored. -/
theorem Kept.eq_of_sends (h : Kept n es w) (hgone : w.hasReceiver = false)
    (hsends : Happens w (.sends i sending answer) v) : v = w := by
  cases hsends with
  | sends hmem hoffer =>
    have hanswer := (h.sends_iff hmem).mp ⟨_, .sends hmem hoffer⟩
    obtain rfl : answer = false := hanswer.1.trans hgone
    obtain ⟨-, rfl⟩ := Session.offer_eq_false_iff.mp hoffer
    rfl

theorem Kept.looks_iff (h : Kept n es w) (hmem : i ∈ w.sinks) :
    (∃ v, Happens w (.looks i answer) v) ↔ answer = !w.hasReceiver := by
  rw [← h.isClosed_eq]
  constructor
  · rintro ⟨v, hv⟩
    cases hv
    rfl
  · rintro rfl
    exact ⟨w, .looks hmem⟩

theorem Kept.wakes_iff (h : Kept n es w) (hmem : i ∈ w.sinks) :
    (∃ v, Happens w (.wakes i) v) ↔ w.hasReceiver = false := by
  have hclosed : Session.isClosed w.queue = true ↔ w.hasReceiver = false := by
    rw [h.isClosed_eq, Bool.not_eq_true']
  rw [← hclosed]
  constructor
  · rintro ⟨v, hv⟩
    cases hv with
    | wakes _ hw => exact hw
  · exact fun hw => ⟨w, .wakes hmem hw⟩

end

/-- The next message is the first that was accepted and not received. -/
theorem Kept.receives_some_iff (h : Kept n es w) (hthere : w.hasReceiver = true) {m : Message} :
    (∃ v, Happens w (.receives (some m)) v) ↔ received es ++ [m] <+: accepted es := by
  rw [← h.account hthere, List.prefix_append_right_inj]
  constructor
  · rintro ⟨v, hv⟩
    cases hv with
    | receives _ hnext =>
      obtain ⟨m, rest, hitems, hfound, -⟩ | ⟨-, -, hfound, -⟩ := Session.next_eq_some_iff.mp hnext
      · cases hfound
        exact ⟨rest, hitems.symm⟩
      · cases hfound
  · rintro ⟨rest, hitems⟩
    exact ⟨_, .receives hthere (Session.next_eq_some_iff.mpr
      (.inl ⟨m, rest, hitems.symm, rfl, rfl⟩))⟩

theorem Kept.receives_none_iff (h : Kept n es w) (hthere : w.hasReceiver = true) :
    (∃ v, Happens w (.receives none) v) ↔ w.sinks = [] ∧ received es = accepted es := by
  have hempty : received es = accepted es ↔ w.queue.items = [] := by
    rw [← h.account hthere]
    simp
  rw [hempty]
  constructor
  · rintro ⟨v, hv⟩
    cases hv with
    | receives _ hnext =>
      obtain ⟨_, _, -, hfound, -⟩ | ⟨hitems, hsenders, -, -⟩ := Session.next_eq_some_iff.mp hnext
      · cases hfound
      · rw [h.senders] at hsenders
        exact ⟨List.eq_nil_of_length_eq_zero hsenders, hitems⟩
  · rintro ⟨hsinks, hitems⟩
    have hsenders : w.queue.senders = 0 := by
      rw [h.senders, hsinks]
      rfl
    exact ⟨_, .receives hthere (Session.next_eq_some_iff.mpr (.inr ⟨hitems, hsenders, rfl, rfl⟩))⟩

/-- **The queue of a session forwards what it accepts, in order, and each end learns of the other.**
Whoever sends, clones, drops and receives in whatever order: there are never more messages than the
capacity, and what was received is the first part of what was accepted. While the receiver is there
no send is told otherwise, and one waits only for room; the receiver finds what comes next, and an end
exactly if no sink is left and it has received everything. Once it is gone every send is told so and
stores nothing, whoever asks or waits for it learns of it, and so it stays. `Session.new` makes such a
queue for every capacity a queue can have. -/
theorem forwards_in_order (h : Steps Happens (new n) es w) :
    w.queue.items.length ≤ n ∧
    received es <+: accepted es ∧
    (∀ i ∈ w.sinks, ∀ sending answer, (∃ v, Happens w (.sends i sending answer) v) ↔
      answer = w.hasReceiver ∧ (w.hasReceiver = true → w.queue.items.length < n)) ∧
    (∀ i ∈ w.sinks, (∀ isClosed, (∃ v, Happens w (.looks i isClosed) v) ↔
        isClosed = !w.hasReceiver) ∧
      ((∃ v, Happens w (.wakes i) v) ↔ w.hasReceiver = false)) ∧
    (w.hasReceiver = true →
      (∀ m, (∃ v, Happens w (.receives (some m)) v) ↔ received es ++ [m] <+: accepted es) ∧
      ((∃ v, Happens w (.receives none) v) ↔ w.sinks = [] ∧ received es = accepted es)) ∧
    (w.hasReceiver = false →
      (∀ i sending answer v, Happens w (.sends i sending answer) v → v = w) ∧
      ∀ later v, Steps Happens w later v → v.hasReceiver = false) ∧
    ∀ queue, Session.new n = .ok queue ↔
      0 < n ∧ n ≤ largestCapacity ∧ queue = (new n).queue := by
  have hkept := kept_of_steps h
  refine ⟨hkept.length_le, hkept.heard, fun i hmem sending answer => hkept.sends_iff hmem,
    fun i hmem => ⟨fun isClosed => hkept.looks_iff hmem, hkept.wakes_iff hmem⟩, fun hthere => ?_,
    fun hgone => ⟨fun i sending answer v => hkept.eq_of_sends hgone, fun later v hlater => ?_⟩,
    fun queue => Session.new_eq_ok_iff⟩
  · exact ⟨fun m => hkept.receives_some_iff hthere, hkept.receives_none_iff hthere⟩
  · exact hlater.invariant (P := fun w => w.hasReceiver = false)
      (fun _ _ _ => Happens.hasReceiver) hgone

end

/-- Two sinks, and a receiver that leaves before the second message. -/
theorem forwards_in_order_to_early_leaver :
    let es : List Event := [.clones 0 1, .sends 1 (.next ⟨"v1", .all⟩) true, .drops 0,
      .receives (some (.response ⟨"v1", .all⟩)), .looks 1 false, .sends 1 .completes true, .leaves]
    ∃ w, Steps Happens (new 1) es w ∧ received es <+: accepted es ∧
      (∃ v, Happens w (.sends 1 .completes false) v) ∧ (∃ v, Happens w (.looks 1 true) v) ∧
        ∃ v, Happens w (.wakes 1) v := by
  intro es
  let w : Channel := ⟨⟨1, [], 1, 0⟩, [1], false⟩
  have hsteps : Steps Happens (new 1) es w :=
    .cons (.clones List.mem_cons_self (by decide)) <| .cons (.sends (by decide) rfl) <|
      .cons (.drops (by decide)) <| .cons (.receives rfl rfl) <| .cons (.looks (by decide)) <|
        .cons (.sends (by decide) rfl) <| .cons (.leaves rfl) .nil
  obtain ⟨-, hheard, hsends, hlearns, -⟩ := forwards_in_order hsteps
  obtain ⟨hlooks, hwakes⟩ := hlearns 1 List.mem_cons_self
  exact ⟨w, hsteps, hheard, (hsends 1 List.mem_cons_self _ _).mpr ⟨rfl, nofun⟩,
    (hlooks true).mpr rfl, hwakes.mpr rfl⟩

end Channel

end SnapshotFeed.Queue
