import SnapshotFeed.Proofs.Queue.Delivery
import SnapshotFeed.Proofs.Reconnect.History

/-! What consumers are owed, and what became of it.

Between two turns of the loop consumers take what they like, and clone and drop their handles. The
turns make a book (`entries`): what becomes due when the loop handles a message or a refusal, what
the queue accepts, and what the log is told was dropped. A phase says what may stand open in it
(`Phase.Owes`), and a turn closes what was open before anything else becomes due. `accounts_for_all`:
as long as a consumer is left, nothing is lost without a word. -/
namespace SnapshotFeed

/-- The consumer that does something. -/
def Queue.Handles.Event.consumer? : Queue.Handles.Event → Option Nat
  | takes i _ | triesToTake i _ | takesInTime i _ | iterates i _ => some i
  | clonesConsumer i _ | dropsConsumer i => some i
  | offers .. | clonesProducer .. | dropsProducer _ => none

/-- What consumers are owed for a message. -/
def Message.due? : Message → Option Payload
  | response r => if r.state = .all then some (.snapshot r.flagConfiguration) else none
  | error _ => some .retryNotice
  | complete => none

namespace Reconnect

/-- The kind of payload that the log is told was dropped. -/
def Notice.dropped? : Notice → Option Payload.Kind
  | snapshotDropped => some .data
  | failureDropped => some .error
  | _ => none

/-! ### The book -/

inductive Entry where
  | due (p : Payload)
  | accepted (p : Payload)
  | dropped (kind : Payload.Kind)
  deriving DecidableEq, Repr

namespace Entry

def due? : Entry → Option Payload
  | due p => some p
  | _ => none

def accepted? : Entry → Option Payload
  | accepted p => some p
  | _ => none

def dropped? : Entry → Option Payload.Kind
  | dropped kind => some kind
  | _ => none

end Entry

/-- What a turn adds to the book. A look at the switch that finds it set adds nothing. -/
def Turn.entry? (t : Turn) : Option Entry :=
  match t with
  | ⟨⟨.refused _, _, _⟩, isSet⟩ => bif isSet then none else some (.due .retryNotice)
  | ⟨⟨.received _, _, _⟩, _⟩ => (t.handled?.bind Message.due?).map .due
  | ⟨⟨.delivering p, _, _⟩, isAccepted⟩ | ⟨⟨.notifying p, _, _⟩, isAccepted⟩ =>
    bif isAccepted then some (.accepted p) else none
  | ⟨⟨.reporting notice _, _, _⟩, _⟩ => notice.dropped?.map .dropped
  | _ => none

def entries (ts : List Turn) : List Entry := ts.filterMap Turn.entry?

theorem entries_snoc (ts : List Turn) (t : Turn) :
    entries (ts ++ [t]) = entries ts ++ t.entry?.toList :=
  filterMap_snoc Turn.entry? ts t

/-- Everything due was accepted, or the log was told once, before the next was due. -/
inductive Settled : List Entry → Prop where
  | nil : Settled []
  | accepted {l : List Entry} {p : Payload} : Settled l → Settled (l ++ [.due p, .accepted p])
  | dropped {l : List Entry} {p : Payload} : Settled l → Settled (l ++ [.due p, .dropped p.kind])

/-- The payloads of a book by what is said of them. -/
def dues (l : List Entry) : List Payload := l.filterMap Entry.due?

def acceptances (l : List Entry) : List Payload := l.filterMap Entry.accepted?

def drops (l : List Entry) : List Payload.Kind := l.filterMap Entry.dropped?

theorem Settled.count {l : List Entry} (h : Settled l) (kind : Payload.Kind) :
    (dues l).countP (·.kind = kind) =
      (acceptances l).countP (·.kind = kind) + (drops l).count kind := by
  induction h with
  | nil => rfl
  | @accepted l p _ ih =>
    have hdues : dues (l ++ [.due p, .accepted p]) = dues l ++ [p] := List.filterMap_append
    have haccepted : acceptances (l ++ [.due p, .accepted p]) = acceptances l ++ [p] :=
      List.filterMap_append
    have hdropped : drops (l ++ [.due p, .accepted p]) = drops l ++ [] :=
      List.filterMap_append
    rw [hdues, haccepted, hdropped, List.countP_append, List.countP_append, List.append_nil, ih,
      Nat.add_right_comm]
  | @dropped l p _ ih =>
    have hdues : dues (l ++ [.due p, .dropped p.kind]) = dues l ++ [p] := List.filterMap_append
    have haccepted : acceptances (l ++ [.due p, .dropped p.kind]) = acceptances l ++ [] :=
      List.filterMap_append
    have hdropped : drops (l ++ [.due p, .dropped p.kind]) = drops l ++ [p.kind] :=
      List.filterMap_append
    have hkind : [p].countP (·.kind = kind) = [p.kind].count kind := by
      simp [List.count_singleton]
    rw [hdues, haccepted, hdropped, List.countP_append, List.append_nil, List.count_append, ih,
      hkind, Nat.add_assoc]

/-! ### What stands open -/

/-- What stands open in the book in a phase. -/
def Phase.Owes : Phase → List Entry → Prop
  | delivering p, rest => p.kind = .data ∧ rest = [.due p]
  | notifying p, rest => p.kind = .error ∧ rest = [.due p]
  | reporting notice after, rest =>
    match notice.dropped? with
    | some kind => after.Owes [] ∧ ∃ p : Payload, p.kind = kind ∧ rest = [.due p]
    | none => after.Owes rest
  | releasing after, rest => after.Owes rest
  | _, rest => rest = []

theorem Phase.Owes.eq_nil_or {phase : Phase} {rest : List Entry} (h : phase.Owes rest) :
    rest = [] ∨ ∃ p, rest = [.due p] := by
  induction phase with
  | delivering p | notifying p => exact .inr ⟨p, h.2⟩
  | reporting notice after ih =>
    unfold Owes at h
    split at h
    · obtain ⟨-, p, -, hrest⟩ := h
      exact .inr ⟨p, hrest⟩
    · exact ih h
  | releasing after ih => exact ih h
  | _ => exact .inl h

/-- A book that is settled but for what stands open in a phase. -/
def Phase.Keeps (phase : Phase) (l : List Entry) : Prop :=
  ∃ done rest, l = done ++ rest ∧ Settled done ∧ phase.Owes rest

section Turns
variable {phase : Phase} {l : List Entry}

/-- Nothing is entered, and the same stands open. -/
theorem Phase.Keeps.stays (h : phase.Keeps l) {after : Phase}
    (howes : ∀ rest, phase.Owes rest → after.Owes rest) : after.Keeps (l ++ []) := by
  obtain ⟨done, rest, hl, hdone, hrest⟩ := h
  exact ⟨done, rest, by rw [List.append_nil, hl], hdone, howes rest hrest⟩

theorem Phase.Keeps.settled (h : phase.Keeps l) (hclosed : ∀ rest, phase.Owes rest → rest = []) :
    Settled l := by
  obtain ⟨done, rest, hl, hdone, hrest⟩ := h
  rw [hclosed rest hrest, List.append_nil] at hl
  rwa [hl]

theorem Settled.due (h : Settled l) {p : Payload} {after : Phase} (howes : after.Owes [.due p]) :
    after.Keeps (l ++ [.due p]) :=
  ⟨l, [.due p], rfl, h, howes⟩

/-- What stood open is accepted. -/
theorem Phase.Keeps.accepted {p : Payload} (h : phase.Keeps l)
    (hopen : ∀ rest, phase.Owes rest → rest = [.due p]) {after : Phase} (howes : after.Owes []) :
    after.Keeps (l ++ [.accepted p]) := by
  obtain ⟨done, rest, hl, hdone, hrest⟩ := h
  rw [hopen rest hrest] at hl
  refine ⟨done ++ [.due p, .accepted p], [], ?_, hdone.accepted, howes⟩
  rw [hl, List.append_assoc, List.append_nil]
  rfl

/-- The log is told of what stood open. -/
theorem Phase.Keeps.reported {notice : Notice} {after : Phase}
    (h : (reporting notice after).Keeps l) :
    after.Keeps (l ++ (notice.dropped?.map .dropped).toList) := by
  obtain ⟨done, rest, hl, hdone, hrest⟩ := h
  unfold Phase.Owes at hrest
  -- A notice of no payload leaves open what stood open: a failure is reported before its notice is
  -- offered.
  split at hrest
  next kind hkind =>
    obtain ⟨howes, p, rfl, rfl⟩ := hrest
    refine ⟨done ++ [.due p, .dropped p.kind], [], ?_, hdone.dropped, howes⟩
    rw [hkind, hl, List.append_assoc, List.append_nil]
    rfl
  next hkind =>
    refine ⟨done, rest, ?_, hdone, hrest⟩
    rw [hkind, hl]
    exact List.append_nil _

/-- A message that is handled. -/
theorem Settled.handle (h : Settled l) (s : State) (m : Message) :
    (s.handle m).phase.Keeps (l ++ (m.due?.map .due).toList) := by
  cases m with
  | response r =>
    by_cases hall : r.state = .all
    · rw [s.handle_of_all hall, Message.due?, if_pos hall]
      exact h.due ⟨rfl, rfl⟩
    · rw [s.handle_of_ne_all hall, Message.due?, if_neg hall]
      exact ⟨l, [], rfl, h, rfl⟩
  | error cause => exact h.due ⟨rfl, rfl⟩
  | complete => exact ⟨l, [], rfl, h, rfl⟩

/-- A turn closes what stood open before anything else becomes due. -/
theorem Phase.Keeps.after {t : Turn} (h : t.state.phase.Keeps l) :
    t.after.phase.Keeps (l ++ t.entry?.toList) := by
  obtain ⟨⟨phase, b, capacity⟩, answer⟩ := t
  cases phase with
  | connecting | streaming | settled | opening | pausing delay =>
    cases answer <;> exact h.stays fun _ => id
  | receiving => exact h.stays fun _ => id
  | preparing =>
    simp only [Turn.after, State.next, State.prepare]
    split <;> exact h.stays fun _ => id
  | drawing =>
    simp only [Turn.after, State.next, State.pauseAfter]
    split <;> exact h.stays fun _ => id
  | releasing after => exact h.stays fun _ => id
  | reporting notice after => exact h.reported
  | refused cause =>
    cases answer with
    | true => exact h.stays fun _ => id
    | false => exact (h.settled fun _ => id).due ⟨rfl, rfl⟩
  | received message =>
    cases answer with
    | true => cases message <;> exact h.stays fun _ => id
    | false =>
      have hhandle := (h.settled fun _ => id).handle ⟨.received message, b, capacity⟩
        (message.getD (.error .disconnected))
      rw [← State.next_received_of_unset] at hhandle
      exact hhandle
  | delivering p | notifying p =>
    cases answer with
    | true => exact h.accepted (fun _ howes => howes.2) rfl
    | false => exact h.stays fun _ howes => ⟨rfl, p, howes⟩
  | ended | crashed cause => exact answer.elim

theorem History.keeps {initial longest : Duration} {capacity : Nat} {ts : List Turn} {u : State}
    (h : History (.start initial longest capacity) ts u) : u.phase.Keeps (entries ts) := by
  refine h.invariant_along (P := fun ts s => s.phase.Keeps (entries ts)) ?_ ⟨[], [], rfl, .nil, rfl⟩
  rintro ts _ t _ ⟨rfl, rfl⟩ hbefore
  rw [entries_snoc]
  exact hbefore.after

end Turns

/-- One stage of the loop is over, and the next has not begun. -/
def Phase.isTransition : Phase → Bool
  | connecting | streaming | settled | drawing | ended | crashed _ => true
  | phase => phase == leaving

theorem Phase.Keeps.settled_of_isTransition {phase : Phase} {l : List Entry} (h : phase.Keeps l)
    (htransition : phase.isTransition = true) : Settled l := by
  cases phase with
  | connecting | streaming | settled | drawing | ended | crashed cause =>
    exact h.settled fun _ => id
  | reporting notice after =>
    cases eq_of_beq htransition
    exact h.settled fun _ => id
  | _ => cases eq_of_beq htransition

/-! ### The loop among consumers -/

/-- A loop, and the queue between it and its consumers. -/
structure LoopAndQueue where
  loop : State
  handles : Queue.Handles

namespace LoopAndQueue

/-- A loop that has done nothing, and a queue with room for so many payloads. -/
def start (initial longest : Duration) (capacity room : Nat) : LoopAndQueue :=
  ⟨.start initial longest capacity, .new room⟩

inductive Event where
  | turn (t : Turn)
  | consumes (e : Queue.Handles.Event)

def Event.turn? : Event → Option Turn
  | turn t => some t
  | consumes _ => none

/-- What an event is for the queue. The loop is its only producer. -/
def Event.handles? : Event → Option Queue.Handles.Event
  | turn ⟨⟨.delivering payload, _, _⟩, accepted⟩ | turn ⟨⟨.notifying payload, _, _⟩, accepted⟩ =>
    some (.offers 0 payload accepted)
  | turn _ => none
  | consumes e => some e

def turns (es : List Event) : List Turn := es.filterMap Event.turn?

def queueEvents (es : List Event) : List Queue.Handles.Event := es.filterMap Event.handles?

/-- The loop takes a turn, with any answer but the queue's own to an offer, or a consumer does
something. -/
inductive Happens : LoopAndQueue → Event → LoopAndQueue → Prop where
  | turn {s : State} {answer : s.phase.Answer} {handles handles' : Queue.Handles} :
    Maybe Queue.Handles.Happens handles (Event.handles? (.turn ⟨s, answer⟩)) handles' →
      Happens ⟨s, handles⟩ (.turn ⟨s, answer⟩) ⟨s.next answer, handles'⟩
  | consumes {w : LoopAndQueue} {e : Queue.Handles.Event} {i : Nat} {handles : Queue.Handles} :
    e.consumer? = some i → Queue.Handles.Happens w.handles e handles →
      Happens w (.consumes e) {w with handles}

section
variable {w v : LoopAndQueue} {e : Event} {es : List Event}

theorem history_of_steps (h : Steps Happens w es v) : History w.loop (turns es) v.loop := by
  refine Steps.project (fun _ _ _ hstep => ?_) h
  cases hstep with
  | turn => exact ⟨rfl, rfl⟩
  | consumes => rfl

theorem handles_of_steps (h : Steps Happens w es v) :
    Steps Queue.Handles.Happens w.handles (queueEvents es) v.handles := by
  refine Steps.project (fun _ _ _ hstep => ?_) h
  cases hstep with
  | turn hhandles => exact hhandles
  | consumes _ hhandles => exact hhandles

/-- What the book says the queue accepted. -/
theorem Happens.accepted?_eq (hstep : Happens w e v) :
    (e.turn?.bind Turn.entry?).bind Entry.accepted? =
      e.handles?.bind Queue.Handles.Event.accepted? := by
  cases hstep with
  | @turn s answer =>
    obtain ⟨phase, b, capacity⟩ := s
    cases phase with
    | delivering p | notifying p | refused cause => cases answer <;> rfl
    | reporting notice after =>
      show (notice.dropped?.map Entry.dropped).bind Entry.accepted? = none
      cases notice.dropped? <;> rfl
    | received message =>
      show ((Turn.handled? _).bind Message.due? |>.map Entry.due).bind Entry.accepted? = none
      cases (Turn.handled? _).bind Message.due? <;> rfl
    | _ => rfl
  | @consumes _ e i _ hconsumer =>
    cases e with
    | offers => cases hconsumer
    | _ => rfl

theorem acceptances_of_steps (h : Steps Happens w es v) :
    acceptances (entries (turns es)) = Queue.Handles.accepted (queueEvents es) := by
  simp only [acceptances, entries, turns, Queue.Handles.accepted, queueEvents,
    List.filterMap_filterMap]
  induction h with
  | nil => rfl
  | cons hstep _ ih => rw [List.filterMap_cons, List.filterMap_cons, ih, hstep.accepted?_eq]

/-- **Nothing is lost without a word.** Whatever sessions and the switch answer, and however consumers
take in between: every full configuration that the loop handles, and the notice of every failure, is
accepted by the queue or the log is told once, in the words for its kind, before anything else
becomes due; the log is told of nothing else. So between two stages of the loop, and when it is over,
what was handled of each kind is what was accepted of it and what the log was told was dropped. While
a consumer is left, what was accepted was taken or is still in the queue. -/
theorem accounts_for_all {initial longest : Duration} {capacity room : Nat}
    (h : Steps Happens (start initial longest capacity room) es w)
    (hconsumers : w.handles.consumers ≠ []) :
    let book := entries (turns es)
    let seen := queueEvents es
    (∃ done rest, book = done ++ rest ∧ Settled done ∧ (rest = [] ∨ ∃ p, rest = [.due p])) ∧
    (w.loop.phase.isTransition = true → Settled book ∧ ∀ kind : Payload.Kind,
      (dues book).countP (·.kind = kind) =
        (Queue.Handles.accepted seen).countP (·.kind = kind) + (drops book).count kind) ∧
    acceptances book = Queue.Handles.accepted seen ∧
    (Queue.Handles.taken seen).map Prod.snd ++ w.handles.queue.items =
      Queue.Handles.accepted seen := by
  intro book seen
  have hkeeps : w.loop.phase.Keeps book := (history_of_steps h).keeps
  have haccepted : acceptances book = Queue.Handles.accepted seen := acceptances_of_steps h
  have hqueue := Queue.Handles.kept_of_steps (handles_of_steps h)
  refine ⟨?_, fun htransition => ?_, haccepted, hqueue.account hconsumers⟩
  · obtain ⟨done, rest, hbook, hdone, hrest⟩ := hkeeps
    exact ⟨done, rest, hbook, hdone, hrest.eq_nil_or⟩
  · have hsettled := hkeeps.settled_of_isTransition htransition
    refine ⟨hsettled, fun kind => ?_⟩
    rw [← haccepted]
    exact hsettled.count kind

end

/-- There is room for one payload, and the second configuration finds it taken. Then a consumer takes
the first, the session vanishes, and the notice is accepted. -/
theorem accounts_for_all_of_vanished_session :
    let s (phase : Phase) : State := ⟨phase, .new .zero .zero, 5⟩
    let r (configuration : String) : Message := .response ⟨configuration, .all⟩
    let arrival : List Event := [.turn ⟨s .connecting, false⟩, .turn ⟨s .preparing, ()⟩,
      .turn ⟨s (.reporting .opening .opening), ()⟩, .turn ⟨s .opening, .opened⟩]
    let responses : List Event := [.turn ⟨s .streaming, false⟩, .turn ⟨s .receiving, some (r "a")⟩,
      .turn ⟨s (.received (some (r "a"))), false⟩, .turn ⟨s (.delivering (.snapshot "a")), true⟩,
      .turn ⟨s .streaming, false⟩, .turn ⟨s .receiving, some (r "b")⟩,
      .turn ⟨s (.received (some (r "b"))), false⟩, .turn ⟨s (.delivering (.snapshot "b")), false⟩,
      .turn ⟨s (.reporting .snapshotDropped .streaming), ()⟩]
    let failure : List Event := [.consumes (.takes 0 (.ok (.snapshot "a"))),
      .turn ⟨s .streaming, false⟩, .turn ⟨s .receiving, none⟩, .turn ⟨s (.received none), false⟩,
      .turn ⟨s (.reporting (.streamFailed .disconnected .zero) .failing), ()⟩,
      .turn ⟨s .failing, true⟩, .turn ⟨s .settling, ()⟩]
    let es := arrival ++ responses ++ failure
    ∃ w, Steps Happens (start .zero .zero 5 1) es w ∧ w.handles.consumers ≠ [] ∧
      w.loop.phase.isTransition = true ∧
      (dues (entries (turns es))).countP (·.kind = .data) = 1 + 1 ∧
      (dues (entries (turns es))).countP (·.kind = .error) = 1 + 0 ∧
      (Queue.Handles.taken (queueEvents es)).map Prod.snd ++ w.handles.queue.items =
        [.snapshot "a", .retryNotice] := by
  intro s r arrival responses failure es
  let w (phase : Phase) (items : List Payload) : LoopAndQueue :=
    ⟨s phase, ⟨⟨1, items, 1, 1⟩, [0], [0]⟩⟩
  have harrival : Steps Happens (start .zero .zero 5 1) arrival (w .streaming []) :=
    .cons (.turn rfl) <| .cons (.turn rfl) <| .cons (.turn rfl) <| .cons (.turn rfl) .nil
  have hresponses : Steps Happens (w .streaming []) responses (w .streaming [.snapshot "a"]) :=
    .cons (.turn rfl) <| .cons (.turn rfl) <| .cons (.turn rfl) <|
      .cons (.turn (Queue.Handles.Happens.offers List.mem_cons_self rfl)) <|
        .cons (.turn rfl) <| .cons (.turn rfl) <| .cons (.turn rfl) <|
          .cons (.turn (Queue.Handles.Happens.offers List.mem_cons_self rfl)) <|
            .cons (.turn rfl) .nil
  have hfailure : Steps Happens (w .streaming [.snapshot "a"]) failure (w .settled [.retryNotice]) :=
    .cons (.consumes rfl (Queue.Handles.Happens.takes List.mem_cons_self rfl)) <|
      .cons (.turn rfl) <| .cons (.turn rfl) <| .cons (.turn rfl) <| .cons (.turn rfl) <|
        .cons (.turn (Queue.Handles.Happens.offers List.mem_cons_self rfl)) <|
          .cons (.turn rfl) .nil
  have hsteps : Steps Happens (start .zero .zero 5 1) es (w .settled [.retryNotice]) :=
    Steps.append_iff.mpr ⟨_, Steps.append_iff.mpr ⟨_, harrival, hresponses⟩, hfailure⟩
  have hconsumers : (w .settled [.retryNotice]).handles.consumers ≠ [] := List.cons_ne_nil _ _
  obtain ⟨-, hcounts, -, haccount⟩ := accounts_for_all hsteps hconsumers
  obtain ⟨-, hcount⟩ := hcounts rfl
  exact ⟨_, hsteps, hconsumers, rfl, hcount .data, hcount .error, haccount⟩

end LoopAndQueue

end Reconnect

end SnapshotFeed
