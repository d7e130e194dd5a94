import SnapshotFeed.Proofs.Reconnect.Account

/-! The queue between a session and the loop does not show.

Without a call for shutdown every order of the steps comes to the same: `deeds_without_calls`. A run
can always go on until nothing is owed (`owed_of_stuck`), and cannot go on for ever, since every
step uses up some of `workLeft`. The one thing about the queue that does show is a capacity that no
queue can have; then the loop stops at its first queue (`StopsAtQueue`). -/
namespace SnapshotFeed.Reconnect

/-- Nobody calls for shutdown. -/
structure Uncalled (w : Setting) : Prop where
  calls : w.calls = []
  switch : w.switch = .new

section Uncalled
variable {s t : State} {w v : Setting} {x y : State × Setting} {step : Option Turn}

theorem Uncalled.isSet (h : Uncalled w) : w.switch.isSet = false := by
  rw [h.switch]
  rfl

theorem Uncalled.goes (h : Uncalled x.2) (hgoes : Goes x step y) : Uncalled y.2 := by
  cases hgoes with
  | turn hanswer => exact ⟨hanswer.switch.1.trans h.calls, hanswer.switch_new h.switch⟩
  | move hmoves =>
    cases hmoves with
    | calls hstep =>
      rw [h.calls] at hstep
      exact (Call.not_stepOf_nil hstep).elim
    | _ => exact ⟨h.calls, h.switch⟩

theorem Uncalled.steps {steps : List (Option Turn)} (h : Uncalled x.2)
    (hsteps : Steps Goes x steps y) : Uncalled y.2 :=
  hsteps.invariant (P := fun x => Uncalled x.2) (fun _ _ _ hgoes hx => hx.goes hgoes) h

/-! ### A run can go on until nothing is owed -/

/-- The loop is told at once what it asks for, unless that is a session or a message. -/
theorem exists_answers (hfinal : s.phase.isFinal = false) (hopening : s.phase ≠ .opening)
    (hreceiving : s.phase ≠ .receiving) (w : Setting) :
    ∃ answer v, Setting.Answers s w answer v := by
  obtain ⟨phase, b, capacity⟩ := s
  cases phase with
  | connecting | refused cause | streaming | received message | settled =>
    exact ⟨w.switch.isSet, w, rfl, rfl⟩
  | preparing | reporting notice after => exact ⟨(), w, rfl⟩
  | opening => exact absurd rfl hopening
  | receiving => exact absurd rfl hreceiving
  | delivering payload | notifying payload => exact ⟨true, w, rfl⟩
  | releasing after => exact ⟨(), _, rfl⟩
  | drawing => exact ⟨b.middleDraw, w, b.admits_middleDraw, rfl⟩
  | pausing delay => exact ⟨.elapsed, w, _, .elapsed, rfl⟩
  | ended | crashed cause => cases hfinal

/-- With room in the queue, the loop waits for a session only if that keeps silent: else it finds
something, or the session has a step of its own. -/
theorem exists_next_or_moves {b : Backoff} {capacity : Nat}
    (h : Tended ⟨.receiving, b, capacity⟩ w) (hunheard : w.unheard ≠ []) :
    (∃ message queue, Queue.Session.next w.queue = (some message, queue)) ∨
      ∃ v, w.Moves v ∧ v.calls = w.calls := by
  obtain ⟨hcapacity, hreceivers, hsenders⟩ := h.joined rfl
  have hroom : 0 < capacity := h.roomy.1
  cases hitems : w.queue.items with
  | cons m rest =>
    exact .inl ⟨_, _, Queue.Session.next_eq_some_iff.mpr (.inl ⟨m, rest, hitems, rfl, rfl⟩)⟩
  | nil =>
    cases hsession : w.session with
    | none =>
      rw [hsession] at hsenders
      exact .inl ⟨_, _, Queue.Session.next_eq_some_iff.mpr (.inr ⟨hitems, hsenders, rfl, rfl⟩)⟩
    | some sender =>
      obtain ⟨sending, exit⟩ := sender
      cases sending with
      | cons m sending =>
        have hoffer := Queue.Session.offer_eq_true_iff (m := m) |>.mpr
          ⟨by rw [hreceivers]; nofun, by rw [hitems, hcapacity]; exact hroom, rfl⟩
        exact .inr ⟨_, .sends hsession hoffer, rfl⟩
      | nil =>
        cases exit with
        | leaves => exact .inr ⟨_, .leaves hsession, rfl⟩
        | stays =>
          simp [Setting.unheard, Setting.exit, Setting.stream, hitems, hsession, Exit.heard]
            at hunheard

/-- Where everybody waits, the loop has done it all. -/
theorem owed_of_stuck (h : Tended s w) (huncalled : Uncalled w) (hstuck : Stuck (s, w)) :
    w.owed s.backoff s.phase = [] := by
  have hturn : ∀ answer v, ¬Setting.Answers s w answer v := fun answer v hanswer =>
    hstuck _ _ (.turn hanswer)
  have hwaits : s.phase.isFinal = false → s.phase ≠ .opening → s.phase ≠ .receiving → False :=
    fun hfinal hopening hreceiving => by
      obtain ⟨answer, v, hanswer⟩ := exists_answers hfinal hopening hreceiving w
      exact hturn answer v hanswer
  obtain ⟨phase, b, capacity⟩ := s
  cases phase with
  | opening =>
    have hclosed : w.switch.closed = 0 := by rw [huncalled.switch]; rfl
    show course b w.coming = []
    cases hcoming : w.coming with
    | nil => rfl
    | cons visit coming =>
      cases visit with
      | refused cause => exact absurd (.refused hclosed hcoming) (hturn (.refused cause) _)
      | opened messages exit =>
        have hnew := Queue.Session.new_eq_ok_iff.mpr ⟨h.roomy.1, h.roomy.2, rfl⟩
        exact absurd (.opened hclosed hcoming hnew) (hturn .opened _)
  | receiving =>
    have hunheard : w.unheard = [] := Classical.byContradiction fun hunheard => by
      obtain ⟨_, _, hnext⟩ | ⟨_, hmoves, -⟩ := exists_next_or_moves h hunheard
      · exact hturn _ _ ⟨_, hnext, rfl⟩
      · exact hstuck _ _ (.move hmoves)
    show fromSession b w.unheard w.coming = []
    rw [hunheard]
    rfl
  | ended | crashed cause => rfl
  | _ => exact (hwaits rfl nofun nofun).elim

/-- A run has done the first of the course, and all of it where it cannot go on. -/
theorem Uncalled.deeds_of_steps {initial longest : Duration} {visits : List Visit}
    {steps : List (Option Turn)} (h : Uncalled x.2) (hx : Accounted initial longest visits [] x)
    (hsteps : Steps Goes x steps y) :
    deeds (turns steps) <+: course (.new initial longest) visits ∧
      (Stuck y → deeds (turns steps) = course (.new initial longest) visits) := by
  have haccounted := accounted_of_steps hsteps hx
  have hy := h.steps hsteps
  have hdeeds := haccounted.deeds hy.isSet
  refine ⟨⟨_, hdeeds⟩, fun hstuck => ?_⟩
  rwa [owed_of_stuck haccounted.tended hy hstuck, List.append_nil] at hdeeds

/-! ### A run cannot go on for ever -/

/-- The turns the loop may take before it asks for a session or waits for a message. -/
def Phase.workLeft : Phase → Nat
  | reporting _ after | releasing after => after.workLeft + 1
  | opening | ended | crashed _ => 0
  | preparing => 2
  | connecting => 3
  | pausing _ => 4
  | drawing => 6
  | settled => 7
  | notifying _ => 10
  | refused _ | received none => 12
  | receiving => 13
  | streaming => 14
  | delivering _ => 16
  | received (some _) => 17

/-- A message is sent, received and handled. -/
def Sender.workLeft (sender : Sender) : Nat := 6 * sender.sending.length + 1

def Visit.workLeft : Visit → Nat
  | refused _ => 16
  | opened messages _ => 6 * messages.length + 16

def Setting.workLeft (w : Setting) : Nat :=
  5 * w.queue.items.length + (w.session.map Sender.workLeft).getD 0 +
    w.coming.foldr (fun visit n => visit.workLeft + n) 0

theorem workLeft_handle (s : State) (m : Message) : (s.handle m).phase.workLeft < 17 := by
  obtain ⟨_, -, h⟩ | ⟨_, -, h⟩ | ⟨_, -, h⟩ | ⟨-, h⟩ := s.handle_cases m <;> rw [h]
  all_goals exact Nat.le_of_ble_eq_true rfl

theorem workLeft_opens {capacity : Nat} {opening : Opening} (hnew : w.switch = .new)
    (hopens : w.Opens capacity opening v) (b : Backoff) :
    (State.next ⟨.opening, b, capacity⟩ opening).phase.workLeft + v.workLeft < w.workLeft := by
  cases hopens with
  | closed _ hclosed =>
    rw [hnew] at hclosed
    cases hclosed
  | refused _ hcoming =>
    simp only [State.next, State.go, Phase.workLeft, Setting.workLeft, hcoming,
      List.foldr_cons, Visit.workLeft]
    omega
  | opened _ hcoming hok =>
    obtain ⟨-, -, rfl⟩ := Queue.Session.new_eq_ok_iff.mp hok
    simp only [State.next, State.go, Phase.workLeft, Setting.workLeft, hcoming,
      List.foldr_cons, Visit.workLeft, Queue.Bounded.new, Sender.workLeft, Option.map_some,
      Option.getD_some, List.length_nil]
    omega

/-- Whatever the switch is, a turn of the loop by itself uses up some of the work. -/
theorem workLeft_turn {answer : s.phase.Answer} (hopening : s.phase ≠ .opening)
    (hanswer : Setting.Answers s w answer v) :
    (s.next answer).phase.workLeft + v.workLeft < s.phase.workLeft + w.workLeft := by
  obtain ⟨phase, b, capacity⟩ := s
  cases phase with
  | connecting | refused cause | streaming | settled =>
    obtain ⟨-, rfl⟩ := hanswer
    cases answer <;> exact Nat.add_lt_add_right (Nat.le_of_ble_eq_true rfl) _
  | preparing =>
    cases hanswer
    refine Nat.add_lt_add_right ?_ _
    show (State.prepare _).phase.workLeft < 2
    unfold State.prepare
    split <;> exact Nat.le_of_ble_eq_true rfl
  | reporting notice after =>
    cases hanswer
    exact Nat.add_lt_add_right (Nat.lt_add_one after.workLeft) _
  | opening => exact absurd rfl hopening
  | receiving =>
    obtain ⟨queue, hnext, rfl⟩ := hanswer
    obtain ⟨m, rest, hitems, rfl, rfl⟩ | ⟨-, -, rfl, rfl⟩ := Queue.Session.next_eq_some_iff.mp hnext
    · simp only [State.next, State.go, Phase.workLeft, Setting.workLeft, hitems, List.length_cons]
      omega
    · exact Nat.add_lt_add_right (Nat.le_of_ble_eq_true rfl) _
  | received message =>
    obtain ⟨-, rfl⟩ := hanswer
    refine Nat.add_lt_add_right ?_ _
    cases message with
    | none => cases answer <;> exact Nat.le_of_ble_eq_true rfl
    | some m =>
      cases answer with
      | false => exact workLeft_handle _ m
      | true => exact Nat.le_of_ble_eq_true rfl
  | delivering payload | notifying payload =>
    cases hanswer
    cases answer <;> exact Nat.add_lt_add_right (Nat.le_of_ble_eq_true rfl) _
  | releasing after =>
    cases hanswer
    refine Nat.add_lt_add_of_lt_of_le (Nat.lt_add_one after.workLeft) ?_
    have hitems : w.queue.dropReceiver.items.length ≤ w.queue.items.length := by
      unfold Queue.Bounded.dropReceiver
      split
      · exact Nat.zero_le _
      · exact Nat.le_refl _
    simp only [Setting.workLeft]
    omega
  | drawing =>
    obtain ⟨-, rfl⟩ := hanswer
    refine Nat.add_lt_add_right ?_ _
    show (State.pauseAfter _ answer).phase.workLeft < 6
    unfold State.pauseAfter
    split <;> exact Nat.le_of_ble_eq_true rfl
  | pausing delay =>
    obtain ⟨_, -, rfl⟩ := hanswer
    cases answer <;> exact Nat.add_lt_add_right (Nat.le_of_ble_eq_true rfl) w.workLeft
  | ended | crashed cause => exact answer.elim

/-- A move uses up some of the work, unless it is a call that takes a step. -/
theorem workLeft_move (hmoves : w.Moves v) : v.calls = w.calls ∧ v.workLeft < w.workLeft ∨
    Call.StepOf w.calls w.switch v.calls v.switch ∧ v.workLeft = w.workLeft := by
  cases hmoves with
  | sends hsession hoffer =>
    obtain ⟨-, -, rfl⟩ := Queue.Session.offer_eq_true_iff.mp hoffer
    refine .inl ⟨rfl, ?_⟩
    simp only [Setting.workLeft, hsession, Sender.workLeft, List.length_append, List.length_cons,
      List.length_nil, Option.map_some, Option.getD_some]
    omega
  | isDeclined hsession hoffer =>
    obtain ⟨-, rfl⟩ := Queue.Session.offer_eq_false_iff.mp hoffer
    refine .inl ⟨rfl, ?_⟩
    simp only [Setting.workLeft, hsession, Sender.workLeft, Queue.Bounded.dropSender,
      Option.map_some, Option.map_none, Option.getD_some, Option.getD_none]
    omega
  | leaves hsession | isCut hsession =>
    refine .inl ⟨rfl, ?_⟩
    simp only [Setting.workLeft, hsession, Sender.workLeft, Queue.Bounded.dropSender,
      Option.map_some, Option.map_none, Option.getD_some, Option.getD_none]
    omega
  | calls hstep => exact .inr ⟨hstep, rfl⟩

theorem Uncalled.workLeft_turn {answer : s.phase.Answer} (h : Uncalled w)
    (hanswer : Setting.Answers s w answer v) :
    (s.next answer).phase.workLeft + v.workLeft < s.phase.workLeft + w.workLeft := by
  by_cases hopening : s.phase = .opening
  · obtain ⟨_, b, capacity⟩ := s
    cases hopening
    show _ < 0 + w.workLeft
    rw [Nat.zero_add]
    exact workLeft_opens h.switch hanswer b
  · exact Reconnect.workLeft_turn hopening hanswer

theorem Uncalled.workLeft_move (h : Uncalled w) (hmoves : w.Moves v) : v.workLeft < w.workLeft := by
  obtain ⟨-, hless⟩ | ⟨hstep, -⟩ := Reconnect.workLeft_move hmoves
  · exact hless
  · rw [h.calls] at hstep
    exact (Call.not_stepOf_nil hstep).elim

def workLeft (x : State × Setting) : Nat := x.1.phase.workLeft + x.2.workLeft

/-- Every step of anybody uses up some of the work. -/
theorem Uncalled.workLeft_goes (h : Uncalled x.2) (hgoes : Goes x step y) :
    workLeft y < workLeft x := by
  cases hgoes with
  | turn hanswer => exact h.workLeft_turn hanswer
  | move hmoves => exact Nat.add_lt_add_left (h.workLeft_move hmoves) _

theorem Uncalled.length_le {steps : List (Option Turn)} (h : Uncalled x.2)
    (hsteps : Steps Goes x steps y) : steps.length ≤ workLeft x :=
  Nat.le_of_add_right_le <| hsteps.length_add_le (P := fun x => Uncalled x.2)
    (fun _ _ _ hgoes hx => ⟨hx.goes hgoes, hx.workLeft_goes hgoes⟩) h

/-- A run can be taken to its end. -/
theorem Uncalled.exists_stuck {x : State × Setting} (h : Uncalled x.2) :
    ∃ steps y, Steps Goes x steps y ∧ Stuck y := by
  by_cases hstuck : Stuck x
  · exact ⟨[], x, .nil, hstuck⟩
  · simp only [Stuck, Classical.not_forall, Classical.not_not] at hstuck
    obtain ⟨step, y, hgoes⟩ := hstuck
    have hless := h.workLeft_goes hgoes
    obtain ⟨steps, z, hsteps, hz⟩ := Uncalled.exists_stuck (h.goes hgoes)
    exact ⟨step :: steps, z, .cons hgoes hsteps, hz⟩
termination_by workLeft x

end Uncalled

/-! ### A capacity no queue can have -/

/-- Where the loop gets if its sessions can have no queue: no further than to the making of one. -/
def Phase.StopsAtQueue (capacity : Nat) (isSet : Bool) : Phase → Prop
  | connecting | preparing => True
  | crashed cause =>
    ∃ fault, Queue.Session.new capacity = .error fault ∧ cause = .queue fault
  | reporting _ ended | ended => isSet = true
  | _ => False

structure StopsAtQueue (n : Nat) (x : State × Setting) : Prop where
  capacity : x.1.capacity = n
  phase : x.1.phase.StopsAtQueue n x.2.switch.isSet

section StopsAtQueue
variable {capacity : Nat} {x y : State × Setting} {step : Option Turn}

theorem exists_fault (h : ¬(0 < capacity ∧ capacity ≤ Queue.largestCapacity)) :
    ∃ fault, Queue.Session.new capacity = .error fault := by
  cases hnew : Queue.Session.new capacity with
  | error fault => exact ⟨fault, rfl⟩
  | ok queue =>
    obtain ⟨hpos, hle, -⟩ := Queue.Session.new_eq_ok_iff.mp hnew
    exact absurd ⟨hpos, hle⟩ h

theorem StopsAtQueue.goes (hbad : ¬(0 < capacity ∧ capacity ≤ Queue.largestCapacity))
    (h : StopsAtQueue capacity x) (hgoes : Goes x step y) :
    StopsAtQueue capacity y ∧ step.bind Turn.deed? = none := by
  obtain ⟨hcapacity, hphase⟩ := h
  cases hgoes with
  | @move s w v hmoves =>
    refine ⟨⟨hcapacity, ?_⟩, rfl⟩
    obtain ⟨phase, b, capacity⟩ := s
    cases phase with
    | connecting | preparing => trivial
    | reporting notice after =>
      cases after with
      | ended => exact hmoves.isSet hphase
      | _ => exact hphase.elim
    | ended => exact hmoves.isSet hphase
    | crashed cause => exact hphase
    | _ => exact hphase.elim
  | @turn s w v answer hanswer =>
    obtain ⟨phase, b, capacity⟩ := s
    obtain rfl : capacity = _ := hcapacity
    cases phase with
    | connecting =>
      obtain ⟨hset, rfl⟩ := hanswer
      cases answer with
      | false => exact ⟨⟨rfl, trivial⟩, rfl⟩
      | true => exact ⟨⟨rfl, hset.symm⟩, rfl⟩
    | preparing =>
      obtain ⟨fault, hfault⟩ := exists_fault hbad
      refine ⟨?_, rfl⟩
      show StopsAtQueue _ (State.prepare _, v)
      simp only [State.prepare, hfault]
      exact ⟨rfl, fault, hfault, rfl⟩
    | reporting notice after =>
      cases hanswer
      cases after with
      | ended => exact ⟨⟨rfl, hphase⟩, rfl⟩
      | _ => exact hphase.elim
    | ended | crashed cause => exact answer.elim
    | _ => exact hphase.elim

theorem StopsAtQueue.steps (hbad : ¬(0 < capacity ∧ capacity ≤ Queue.largestCapacity))
    {steps : List (Option Turn)} (h : StopsAtQueue capacity x) (hsteps : Steps Goes x steps y) :
    StopsAtQueue capacity y ∧ deeds (turns steps) = [] := by
  refine hsteps.invariant_along
    (P := fun steps x => StopsAtQueue capacity x ∧ deeds (turns steps) = []) ?_ ⟨h, rfl⟩
  rintro steps x step y hgoes ⟨hx, hdeeds⟩
  obtain ⟨hy, hnone⟩ := hx.goes hbad hgoes
  refine ⟨hy, ?_⟩
  rw [deeds_turns_snoc, hdeeds, hnone]
  rfl

/-- If nobody calls for shutdown, the worker breaks. -/
theorem StopsAtQueue.crashed_of_stuck (h : StopsAtQueue capacity x) (huncalled : Uncalled x.2)
    (hstuck : Stuck x) :
    ∃ fault, Queue.Session.new capacity = .error fault ∧ x.1.phase = .crashed (.queue fault) := by
  obtain ⟨⟨phase, b, _⟩, w⟩ := x
  obtain ⟨-, hphase⟩ := h
  have hunset : w.switch.isSet = false := huncalled.isSet
  cases phase with
  | connecting => exact absurd (.turn ⟨rfl, rfl⟩) (hstuck (some ⟨_, w.switch.isSet⟩) (_, w))
  | preparing => exact absurd (.turn rfl) (hstuck (some ⟨_, ()⟩) (_, w))
  | reporting notice after =>
    cases after with
    | ended => exact absurd (hunset.symm.trans hphase) Bool.false_ne_true
    | _ => exact hphase.elim
  | ended => exact absurd (hunset.symm.trans hphase) Bool.false_ne_true
  | crashed cause =>
    obtain ⟨fault, hfault, rfl⟩ := hphase
    exact ⟨fault, hfault, rfl⟩
  | _ => exact hphase.elim

end StopsAtQueue

/-! ### Every order of the steps -/

/-- **The queue is transparent, if there can be one.** Sessions send, let go and keep silent when
they like, the loop receives when it likes, and nobody calls for shutdown. If a queue can have the
capacity asked for, every run comes to an end: runs are bounded, and there is one that cannot go on.
By then it has done the course of its visits and nothing else: the sessions asked for, the messages
heard, the payloads offered and the delays before jitter are the same for every capacity and every
order of the steps. A capacity beyond the largest shows: the worker breaks, and has done nothing. -/
theorem deeds_without_calls {initial longest : Duration} (hfit : (Backoff.new initial longest).Fits)
    {capacity : Nat} (hpos : 0 < capacity) (visits : List Visit) :
    let start := (State.start initial longest capacity, Setting.new visits [])
    (capacity ≤ Queue.largestCapacity →
      (∃ steps x, Steps Goes start steps x ∧ Stuck x) ∧
      ∃ bound, ∀ steps x, Steps Goes start steps x → steps.length ≤ bound ∧
        deeds (turns steps) <+: course (.new initial longest) visits ∧
        (Stuck x → deeds (turns steps) = course (.new initial longest) visits)) ∧
    (Queue.largestCapacity < capacity → ∀ steps x, Steps Goes start steps x →
      deeds (turns steps) = [] ∧ (Stuck x → x.1.phase = .crashed (.queue .tooLarge))) := by
  intro start
  have huncalled : Uncalled start.2 := ⟨rfl, rfl⟩
  refine ⟨fun hle => ⟨huncalled.exists_stuck, _, fun steps x hsteps =>
    ⟨huncalled.length_le hsteps, ?_⟩⟩, fun hlt steps x hsteps => ?_⟩
  · exact huncalled.deeds_of_steps (accounted_start hfit hpos hle nofun) hsteps
  · have hstops : StopsAtQueue capacity start := ⟨rfl, trivial⟩
    obtain ⟨hx, hdeeds⟩ := hstops.steps (by omega) hsteps
    refine ⟨hdeeds, fun hstuck => ?_⟩
    obtain ⟨fault, hfault, hphase⟩ := hx.crashed_of_stuck (huncalled.steps hsteps) hstuck
    have hlarge : Queue.Session.new capacity = .error .tooLarge := by
      rw [Queue.Session.new, if_neg (by omega), if_pos hlt]
    rw [hlarge] at hfault
    cases hfault
    exact hphase

/-- The queue has room for one message only, so the session may have to wait with the second. -/
theorem deeds_of_two_visits :
    let visits := [.opened [.response ⟨"v1", .all⟩, .complete] .leaves, .refused .transportClosed]
    ∃ steps x, Steps Goes (.start (.ofSeconds 2) (.ofSeconds 120) 1, .new visits []) steps x ∧
      Stuck x ∧
      deeds (turns steps) = [.asks .opened, .hears (.response ⟨"v1", .all⟩), .offers (.snapshot "v1"),
        .hears .complete, .rests (.ofSeconds 2), .asks (.refused .transportClosed),
        .offers .retryNotice, .rests (.ofSeconds 4)] := by
  intro visits
  have hfit : (Backoff.new (.ofSeconds 2) (.ofSeconds 120)).Fits := Backoff.fits_of_le (by decide)
  obtain ⟨⟨steps, x, hsteps, hstuck⟩, _, h⟩ :=
    (deeds_without_calls hfit Nat.one_pos visits).1 (by decide)
  exact ⟨steps, x, hsteps, hstuck, (h steps x hsteps).2.2 hstuck⟩

/-- An accepted configuration whose queue cannot be made: the one visit there is goes by unheard. -/
theorem deeds_ne_of_oversized_queue :
    let c : Config := {Config.standard with receiveQueueCapacity := Queue.largestCapacity + 1}
    let visits := [.opened [.response ⟨"v1", .all⟩, .complete] .leaves]
    c.validate = .ok () ∧ (Backoff.new c.initialBackoff c.maxBackoff).Fits ∧
      ∃ steps x, Steps Goes
          (.start c.initialBackoff c.maxBackoff c.receiveQueueCapacity, .new visits []) steps x ∧
        Stuck x ∧
        deeds (turns steps) ≠ course (.new c.initialBackoff c.maxBackoff) visits := by
  intro c visits
  refine ⟨rfl, Backoff.fits_of_le (by decide), ?_⟩
  obtain ⟨steps, x, hsteps, hstuck⟩ := Uncalled.exists_stuck
    (x := (.start c.initialBackoff c.maxBackoff c.receiveQueueCapacity, .new visits [])) ⟨rfl, rfl⟩
  have hstops : StopsAtQueue c.receiveQueueCapacity
      (.start c.initialBackoff c.maxBackoff c.receiveQueueCapacity, .new visits []) :=
    ⟨rfl, trivial⟩
  obtain ⟨-, hdeeds⟩ := hstops.steps (by decide) hsteps
  refine ⟨steps, x, hsteps, hstuck, ?_⟩
  rw [hdeeds]
  nofun

end SnapshotFeed.Reconnect
