import SnapshotFeed.Proofs.Reconnect.LoopAndSwitch
import SnapshotFeed.Proofs.Reconnect.Requests
import SnapshotFeed.Proofs.Reconnect.Truncation

/-! The loop on a finite supply of sessions and pauses.

Sessions send what they have to send and let go, pauses end as they were told to. When no session is
left the transport refuses, and when no pause is left they are stopped; calls for shutdown come
whenever they like, or never. The loop asks for one session, and for one more after each pause that
elapsed, so a supply of pauses bounds it although a refusal takes nothing from the sessions
(`Supply.workLeft`). `ends_within_supply`: it comes to its end, unless its sessions can have no
queue. -/
namespace SnapshotFeed.Reconnect

/-! ### The loop is not broken -/

theorem State.isIntact_handle (s : State) (m : Message) : (s.handle m).phase.isIntact = true := by
  obtain ⟨_, -, h⟩ | ⟨_, -, h⟩ | ⟨_, -, h⟩ | ⟨-, h⟩ := s.handle_cases m <;> rw [h] <;> rfl

/-- A fair turn does not break a loop whose queue can be made and whose delays are durations. -/
theorem Tended.isIntact_next {s : State} {w : Setting} {answer : s.phase.Answer} (h : Tended s w)
    (hfair : Turn.IsFair ⟨s, answer⟩) (hintact : s.phase.isIntact = true) :
    (s.next answer).phase.isIntact = true := by
  obtain ⟨phase, b, capacity⟩ := s
  cases phase with
  | preparing =>
    show (State.prepare ⟨.preparing, b, capacity⟩).phase.isIntact = true
    rw [prepare_of_le h.roomy.1 h.roomy.2]
    rfl
  | reporting notice after | releasing after => exact hintact
  | opening =>
    cases answer with
    | broke reason => exact absurd rfl (hfair reason)
    | _ => rfl
  | receiving => rfl
  | received message =>
    cases answer with
    | true => cases message <;> rfl
    | false =>
      rw [State.next_received_of_unset]
      exact State.isIntact_handle _ _
  | drawing =>
    obtain ⟨delay, hnext⟩ := h.fits.next? hfair
    show (State.pauseAfter ⟨.drawing, b, capacity⟩ answer).phase.isIntact = true
    simp only [State.pauseAfter, hnext]
    rfl
  | ended | crashed cause => exact answer.elim
  | _ => cases answer <;> rfl

/-! ### The supply -/

/-- The message the loop finds in a turn. -/
def Turn.received? : Turn → Option Message
  | ⟨⟨.receiving, _, _⟩, message⟩ => message
  | _ => none

def received (ts : List Turn) : List Message := ts.filterMap Turn.received?

def Visit.messages : Visit → List Message
  | refused _ => []
  | opened messages _ => messages

def Outcome.messages : Outcome → List Message
  | refused _ => []
  | plays messages => messages

/-- An outcome as a visit: every session lets go in the end. -/
def Outcome.visit : Outcome → Visit
  | refused cause => .refused cause
  | plays messages => .opened messages .leaves

/-- A setting with the ends of the pauses yet to come. -/
structure Supply where
  setting : Setting
  pauses : List PauseEnd
  deriving DecidableEq, Repr

namespace Supply

/-- Nothing has happened. -/
def new (sessions : List Outcome) (pauses : List PauseEnd) (calls : List Call) : Supply :=
  ⟨.new (sessions.map Outcome.visit) calls, pauses⟩

/-- A session is asked for. With no session left the transport refuses; once it is closed it may. -/
inductive Opens (capacity : Nat) (w : Supply) : Opening → Supply → Prop where
  | declined (cause : Error) : w.setting.coming = [] ∨ 0 < w.setting.switch.closed →
    Opens capacity w (.refused cause) w
  | refused {cause : Error} {coming : List Visit} : w.setting.coming = .refused cause :: coming →
    Opens capacity w (.refused cause) {w with setting := {w.setting with coming}}
  | opened {messages : List Message} {exit : Exit} {coming : List Visit} {queue : Queue.Session} :
    w.setting.coming = .opened messages exit :: coming → Queue.Session.new capacity = .ok queue →
      Opens capacity w .opened
        {w with setting := {w.setting with coming, queue, session := some ⟨messages, exit⟩}}

/-- The setting does not answer here. -/
def isSupplied : Phase → Bool
  | .opening | .pausing _ => true
  | _ => false

/-- One step of anybody. -/
inductive Happens : State × Supply → Option Turn → State × Supply → Prop where
  | asks {b : Backoff} {capacity : Nat} {opening : Opening} {w v : Supply} :
    w.Opens capacity opening v →
      Happens (⟨.opening, b, capacity⟩, w) (some ⟨⟨.opening, b, capacity⟩, opening⟩)
        (State.next ⟨.opening, b, capacity⟩ opening, v)
  /-- With no pause left a pause is stopped. -/
  | pauses {delay : Duration} {b : Backoff} {capacity : Nat} {w : Supply} :
    Happens (⟨.pausing delay, b, capacity⟩, w)
      (some ⟨⟨.pausing delay, b, capacity⟩, w.pauses.headD .stopped⟩)
      (State.next ⟨.pausing delay, b, capacity⟩ (w.pauses.headD .stopped),
        {w with pauses := w.pauses.tail})
  | turn {s : State} {answer : s.phase.Answer} {w : Supply} {setting : Setting} :
    isSupplied s.phase = false → Setting.Answers s w.setting answer setting →
      Happens (s, w) (some ⟨s, answer⟩) (s.next answer, {w with setting})
  | move {s : State} {w : Supply} {setting : Setting} : w.setting.Moves setting →
    Happens (s, w) none (s, {w with setting})

section
variable {x y : State × Supply} {step : Option Turn} {steps : List (Option Turn)}

theorem turns_snoc (steps : List (Option Turn)) (step : Option Turn) :
    turns (steps ++ [step]) = turns steps ++ step.toList :=
  filterMap_snoc id steps step

/-- The loop sees a history. -/
theorem history_of_steps (h : Steps Happens x steps y) : History x.1 (turns steps) y.1 := by
  refine Steps.project (fun _ _ _ hstep => ?_) h
  cases hstep with
  | move => rfl
  | _ => exact ⟨rfl, rfl⟩

theorem counts_of_unsupplied {s : State} (hphase : isSupplied s.phase = false)
    (answer : s.phase.Answer) :
    Turn.isRequest ⟨s, answer⟩ = false ∧ Turn.isElapsed ⟨s, answer⟩ = false := by
  obtain ⟨phase, b, capacity⟩ := s
  cases phase with
  | opening | pausing delay => cases hphase
  | _ => exact ⟨rfl, rfl⟩

/-- The switch stays set. -/
theorem Happens.isSet (h : Happens x step y) (hset : x.2.setting.switch.isSet = true) :
    y.2.setting.switch.isSet = true := by
  cases h with
  | asks hopens => cases hopens <;> exact hset
  | pauses => exact hset
  | turn _ hanswer => exact hanswer.isSet.trans hset
  | move hmoves => exact hmoves.isSet hset

/-! ### Every step uses up some of the work -/

/-- What is left to do. A request is worth more than the way to the pause after a refusal, and every
pause left is worth a request. -/
def workLeft (x : State × Supply) : Nat :=
  x.1.phase.workLeft + x.2.setting.workLeft + Call.stepsLeftOf x.2.setting.calls +
    13 * (x.1.phase.asksNext.toNat + x.2.pauses.length)

theorem workLeft_asks {b : Backoff} {capacity : Nat} {opening : Opening} {w v : Supply}
    (h : w.Opens capacity opening v) :
    workLeft (State.next ⟨.opening, b, capacity⟩ opening, v) <
      workLeft (⟨.opening, b, capacity⟩, w) := by
  cases h with
  | declined cause =>
    simp only [workLeft, State.next, State.go, Phase.workLeft, Phase.asksNext, Bool.toNat_true,
      Bool.toNat_false]
    omega
  | refused hcoming =>
    simp only [workLeft, State.next, State.go, Phase.workLeft, Phase.asksNext, Bool.toNat_true,
      Bool.toNat_false, Setting.workLeft, hcoming, List.foldr_cons]
    omega
  | opened hcoming hnew =>
    obtain ⟨-, -, rfl⟩ := Queue.Session.new_eq_ok_iff.mp hnew
    simp only [workLeft, State.next, State.go, Phase.workLeft, Phase.asksNext, Bool.toNat_true,
      Bool.toNat_false, Setting.workLeft, hcoming, List.foldr_cons, Visit.workLeft,
      Queue.Bounded.new, Sender.workLeft, Option.map_some, Option.getD_some, List.length_nil]
    omega

theorem workLeft_pauses (delay : Duration) (b : Backoff) (capacity : Nat) (w : Supply) :
    workLeft (State.next ⟨.pausing delay, b, capacity⟩ (w.pauses.headD .stopped),
        {w with pauses := w.pauses.tail}) < workLeft (⟨.pausing delay, b, capacity⟩, w) := by
  obtain ⟨setting, pauses⟩ := w
  cases pauses with
  | nil =>
    simp only [workLeft, State.next, State.go, List.headD_nil, List.tail_nil, Phase.leaving,
      Phase.workLeft, Phase.asksNext]
    omega
  | cons ending rest =>
    cases ending <;>
      simp only [workLeft, State.next, State.go, List.headD_cons, List.tail_cons, List.length_cons,
        Phase.leaving, Phase.workLeft, Phase.asksNext, Bool.toNat_true, Bool.toNat_false] <;>
      omega

theorem Happens.workLeft_lt (h : Happens x step y) : workLeft y < workLeft x := by
  cases h with
  | asks hopens => exact workLeft_asks hopens
  | pauses => exact workLeft_pauses ..
  | @turn s answer w setting hphase hanswer =>
    have hopening : s.phase ≠ .opening := fun heq => by
      rw [heq] at hphase
      cases hphase
    have hless := workLeft_turn hopening hanswer
    have hcalls := congrArg Call.stepsLeftOf hanswer.switch.1
    -- No pause has elapsed, so no request has become due.
    have hasks := Turn.asksNext_after_le ⟨s, answer⟩
    rw [(counts_of_unsupplied hphase answer).2] at hasks
    simp only [Turn.after, Bool.toNat_false] at hasks
    simp only [workLeft]
    omega
  | move hmoves =>
    obtain ⟨hcalls, hless⟩ | ⟨hstep, hsame⟩ := workLeft_move hmoves
    · simp only [workLeft, hcalls]
      omega
    · have hless := hstep.stepsLeftOf_lt
      simp only [workLeft, hsame]
      omega

theorem length_le_workLeft (h : Steps Happens x steps y) : steps.length ≤ workLeft x :=
  Nat.le_of_add_right_le <| h.length_add_le (P := fun _ => True)
    (fun _ _ _ hstep _ => ⟨trivial, hstep.workLeft_lt⟩) trivial

/-! ### What a turn of the loop leaves alone -/

theorem answers_frame {s : State} {answer : s.phase.Answer} {w v : Setting}
    (hphase : isSupplied s.phase = false) (h : Setting.Answers s w answer v) :
    v.coming = w.coming ∧ v.session = w.session := by
  obtain ⟨phase, b, capacity⟩ := s
  cases phase with
  | connecting | refused cause | streaming | received message | settled | drawing =>
    obtain ⟨-, rfl⟩ := h
    exact ⟨rfl, rfl⟩
  | receiving =>
    obtain ⟨queue, -, rfl⟩ := h
    exact ⟨rfl, rfl⟩
  | opening | pausing delay => cases hphase
  | ended | crashed cause => exact answer.elim
  | _ =>
    cases h
    exact ⟨rfl, rfl⟩

theorem answers_isFair {s : State} {answer : s.phase.Answer} {w v : Setting}
    (hphase : isSupplied s.phase = false) (h : Setting.Answers s w answer v) :
    Turn.IsFair ⟨s, answer⟩ := by
  obtain ⟨phase, b, capacity⟩ := s
  cases phase with
  | drawing => exact h.1
  | opening => cases hphase
  | _ => trivial

/-! ### Somebody can always take a step -/

/-- Unless it asks for a session or waits for a message, the loop is told something at once. -/
theorem exists_turn {s : State} (hfinal : s.phase.isFinal = false) (hopening : s.phase ≠ .opening)
    (hreceiving : s.phase ≠ .receiving) (w : Supply) :
    ∃ step y, Happens (s, w) step y ∧ y.2.setting.calls = w.setting.calls := by
  cases hphase : isSupplied s.phase with
  | false =>
    obtain ⟨answer, v, hanswer⟩ := exists_answers hfinal hopening hreceiving w.setting
    exact ⟨_, _, .turn hphase hanswer, hanswer.switch.1⟩
  | true =>
    obtain ⟨phase, b, capacity⟩ := s
    cases phase with
    | pausing delay => exact ⟨_, _, .pauses, rfl⟩
    | opening => exact absurd rfl hopening
    | _ => cases hphase

/-- The loop fits its queue, nothing of it is broken, and every session lets go in the end. -/
structure Kept (x : State × Supply) : Prop where
  tended : Tended x.1 x.2.setting
  intact : x.1.phase.isIntact = true
  exit : x.2.setting.exit = .leaves
  coming : ∀ messages exit, .opened messages exit ∈ x.2.setting.coming → exit = .leaves

theorem kept_start {initial longest : Duration} (hfit : (Backoff.new initial longest).Fits)
    {capacity : Nat} (hroomy : 0 < capacity ∧ capacity ≤ Queue.largestCapacity)
    (sessions : List Outcome) (pauses : List PauseEnd) (calls : List Call) :
    Kept (.start initial longest capacity, .new sessions pauses calls) := by
  refine ⟨⟨rfl, hfit, hroomy, nofun⟩, rfl, rfl, fun messages exit hmem => ?_⟩
  obtain ⟨outcome, -, hvisit⟩ := List.mem_map.mp hmem
  cases outcome <;> cases hvisit
  rfl

theorem Kept.asks {b : Backoff} {capacity : Nat} {opening : Opening} {w v : Supply}
    (h : Kept (⟨.opening, b, capacity⟩, w)) (hopens : w.Opens capacity opening v) :
    Kept (State.next ⟨.opening, b, capacity⟩ opening, v) := by
  cases hopens with
  | declined => exact ⟨h.tended.closed rfl rfl, rfl, h.exit, h.coming⟩
  | refused hcoming =>
    refine ⟨h.tended.closed rfl rfl, rfl, h.exit, fun messages exit hmem =>
      h.coming messages exit ?_⟩
    rw [hcoming]
    exact List.mem_cons_of_mem _ hmem
  | opened hcoming hnew =>
    obtain ⟨-, -, rfl⟩ := Queue.Session.new_eq_ok_iff.mp hnew
    have hall := h.coming
    rw [hcoming] at hall
    exact ⟨⟨rfl, h.tended.fits, h.tended.roomy, fun _ => ⟨rfl, rfl, rfl⟩⟩, rfl,
      hall _ _ List.mem_cons_self, fun messages exit hmem =>
        hall messages exit (List.mem_cons_of_mem _ hmem)⟩

theorem Happens.kept (h : Happens x step y) (hx : Kept x) : Kept y := by
  cases h with
  | asks hopens => exact hx.asks hopens
  | @pauses delay b capacity w =>
    generalize w.pauses.headD .stopped = ending
    cases ending <;> exact ⟨hx.tended.closed rfl rfl, rfl, hx.exit, hx.coming⟩
  | @turn s answer w setting hphase hanswer =>
    obtain ⟨hcoming, hsession⟩ := answers_frame hphase hanswer
    have hintact := hx.tended.isIntact_next (answers_isFair hphase hanswer) hx.intact
    refine ⟨hx.tended.turn hanswer, hintact, ?_, ?_⟩
    · show setting.exit = .leaves
      rw [Setting.exit, hsession]
      exact hx.exit
    · show ∀ messages exit, .opened messages exit ∈ setting.coming → exit = .leaves
      rw [hcoming]
      exact hx.coming
  | @move s w setting hmoves =>
    refine ⟨hx.tended.move hmoves, hx.intact, ?_, ?_⟩
    · have hexit : w.setting.exit = .leaves := hx.exit
      cases hmoves with
      | sends hsession hoffer =>
        rw [Setting.exit, hsession] at hexit
        exact hexit
      | calls => exact hexit
      | _ => rfl
    · cases hmoves <;> exact hx.coming

theorem Kept.ended_of_isFinal {x : State × Supply} (h : Kept x) (hfinal : x.1.phase.isFinal = true) :
    x.1.phase = .ended := by
  have hintact := h.intact
  cases hphase : x.1.phase with
  | ended => rfl
  | crashed cause =>
    rw [hphase] at hintact
    cases hintact
  | _ =>
    rw [hphase] at hfinal
    cases hfinal

/-- Without any call the loop goes on until it is over. -/
theorem Kept.exists_step {x : State × Supply} (h : Kept x) (hfinal : x.1.phase.isFinal = false) :
    ∃ step y, Happens x step y ∧ y.2.setting.calls = x.2.setting.calls := by
  obtain ⟨s, w⟩ := x
  by_cases hopening : s.phase = .opening
  · obtain ⟨_, b, capacity⟩ := s
    cases hopening
    cases hcoming : w.setting.coming with
    | nil => exact ⟨_, _, .asks (.declined .transportClosed (.inl hcoming)), rfl⟩
    | cons visit coming =>
      cases visit with
      | refused cause => exact ⟨_, _, .asks (.refused hcoming), rfl⟩
      | opened messages exit =>
        have hroomy := h.tended.roomy
        have hnew := Queue.Session.new_eq_ok_iff.mpr ⟨hroomy.1, hroomy.2, rfl⟩
        exact ⟨_, _, .asks (.opened hcoming hnew), rfl⟩
  · by_cases hreceiving : s.phase = .receiving
    · obtain ⟨_, b, capacity⟩ := s
      cases hreceiving
      have hunheard : w.setting.unheard ≠ [] := fun hnil => by
        have hterminal := any_isTerminal_heard_leaves w.setting.stream
        have hexit : w.setting.exit = .leaves := h.exit
        rw [Setting.unheard, hexit] at hnil
        rw [hnil] at hterminal
        cases hterminal
      obtain ⟨message, queue, hnext⟩ | ⟨setting, hmoves, hcalls⟩ :=
        exists_next_or_moves h.tended hunheard
      · exact ⟨_, _, .turn rfl ⟨queue, hnext, rfl⟩, rfl⟩
      · exact ⟨_, _, .move hmoves, hcalls⟩
    · exact exists_turn hfinal hopening hreceiving w

/-! ### What is received was supplied -/

/-- What is on its way to the loop or yet to come. -/
def stock (w : Setting) : List Message := w.stream ++ w.coming.flatMap Visit.messages

theorem stock_new (sessions : List Outcome) (calls : List Call) :
    stock (.new (sessions.map Outcome.visit) calls) = sessions.flatMap Outcome.messages := by
  show (sessions.map Outcome.visit).flatMap Visit.messages = _
  rw [List.flatMap_map]
  congr 1
  funext outcome
  cases outcome <;> rfl

/-- Messages get lost with the queue they are in or with the session that has them to send. -/
theorem stock_sublist {w v : Setting} (hitems : v.queue.items.Sublist w.queue.items)
    (hsession : v.session = w.session ∨ v.session = none) (hcoming : v.coming = w.coming) :
    (stock v).Sublist (stock w) := by
  have hsending : ((v.session.map (·.sending)).getD []).Sublist
      ((w.session.map (·.sending)).getD []) := by
    rcases hsession with hsame | hnone
    · simp only [hsame, List.Sublist.refl]
    · simp only [hnone, Option.map_none, Option.getD_none, List.nil_sublist]
  rw [stock, stock, hcoming]
  exact (hitems.append hsending).append_right _

theorem dropReceiver_sublist (q : Queue.Session) : q.dropReceiver.items.Sublist q.items := by
  unfold Queue.Bounded.dropReceiver
  split
  · exact List.nil_sublist _
  · exact List.Sublist.refl _

theorem stock_turn {s : State} {answer : s.phase.Answer} {w v : Setting}
    (hphase : isSupplied s.phase = false) (h : Setting.Answers s w answer v) :
    ((Turn.received? ⟨s, answer⟩).toList ++ stock v).Sublist (stock w) := by
  obtain ⟨hcoming, hsession⟩ := answers_frame hphase h
  have hsame : v.queue.items.Sublist w.queue.items → (stock v).Sublist (stock w) :=
    fun hitems => stock_sublist hitems (.inl hsession) hcoming
  obtain ⟨phase, b, capacity⟩ := s
  cases phase with
  | receiving =>
    obtain ⟨queue, hnext, rfl⟩ := h
    obtain ⟨m, rest, hitems, rfl, rfl⟩ | ⟨-, -, rfl, rfl⟩ := Queue.Session.next_eq_some_iff.mp hnext
    · have hstock : stock w = m :: stock {w with queue := {w.queue with items := rest}} := by
        simp only [stock, Setting.stream, hitems, List.cons_append]
      rw [hstock]
      exact List.Sublist.refl _
    · exact List.Sublist.refl _
  | connecting | refused cause | streaming | received message | settled | drawing =>
    obtain ⟨-, rfl⟩ := h
    exact List.Sublist.refl _
  | releasing after =>
    cases h
    exact hsame (dropReceiver_sublist w.queue)
  | opening | pausing delay => cases hphase
  | ended | crashed cause => exact answer.elim
  | _ =>
    cases h
    exact List.Sublist.refl _

theorem stock_move {w v : Setting} (hmoves : w.Moves v) : (stock v).Sublist (stock w) := by
  cases hmoves with
  | sends hsession hoffer =>
    obtain ⟨-, -, rfl⟩ := Queue.Session.offer_eq_true_iff.mp hoffer
    simp [stock, Setting.stream, hsession]
  | isDeclined _ hoffer =>
    obtain ⟨-, rfl⟩ := Queue.Session.offer_eq_false_iff.mp hoffer
    exact stock_sublist (List.Sublist.refl _) (.inr rfl) rfl
  | leaves | isCut => exact stock_sublist (List.Sublist.refl _) (.inr rfl) rfl
  | calls => exact List.Sublist.refl _

theorem stock_asks {capacity : Nat} {opening : Opening} {w v : Supply}
    (h : w.Opens capacity opening v) : (stock v.setting).Sublist (stock w.setting) := by
  cases h with
  | declined => exact List.Sublist.refl _
  | refused hcoming =>
    simp only [stock, hcoming, List.flatMap_cons, Visit.messages, List.nil_append]
    exact List.Sublist.refl _
  | opened hcoming hnew =>
    obtain ⟨-, -, rfl⟩ := Queue.Session.new_eq_ok_iff.mp hnew
    simp only [stock, hcoming, List.flatMap_cons, Visit.messages]
    exact List.sublist_append_right _ _

theorem Happens.stock (h : Happens x step y) :
    ((step.bind Turn.received?).toList ++ stock y.2.setting).Sublist (stock x.2.setting) := by
  cases h with
  | asks hopens => exact stock_asks hopens
  | pauses => exact List.Sublist.refl _
  | turn hphase hanswer => exact stock_turn hphase hanswer
  | move hmoves => exact stock_move hmoves

theorem received_sublist (h : Steps Happens x steps y) :
    (received (turns steps) ++ Supply.stock y.2.setting).Sublist (Supply.stock x.2.setting) := by
  refine h.invariant_along (P := fun steps y =>
    (received (turns steps) ++ Supply.stock y.2.setting).Sublist (Supply.stock x.2.setting)) ?_
    (List.Sublist.refl _)
  intro steps y step z hstep hy
  have hseen : received (turns (steps ++ [step])) =
      received (turns steps) ++ (step.bind Turn.received?).toList := by
    rw [turns_snoc, received, List.filterMap_append]
    cases step with
    | none => rfl
    | some t => cases ht : t.received? <;> simp [received, ht]
  rw [hseen, List.append_assoc]
  exact (hstep.stock.append_left _).trans hy

/-! ### Shutdown in the last pause -/

/-- A pause that is going to be stopped. -/
def IsLast (x : State × Supply) : Prop :=
  (∃ delay, x.1.phase = .pausing delay) ∧ x.2.pauses.headD .stopped = .stopped

/-- One step of anybody, where shutdown is called for in a pause that is going to be stopped, or
not at all. -/
def Late (x : State × Supply) (step : Option Turn) (y : State × Supply) : Prop :=
  Happens x step y ∧
    (y.2.setting.switch.isSet = true → x.2.setting.switch.isSet = true ∨ IsLast x)

/-- What was due was asked for, or is due. Once the switch is set nothing is due any more. -/
structure Punctual (steps : List (Option Turn)) (x : State × Supply) : Prop where
  kept : Kept x
  due : (turns steps).countP Turn.isRequest + x.1.phase.asksNext.toNat = 1 + elapsed (turns steps)
  isSet : x.2.setting.switch.isSet = true → x.1.phase.isLeaving = true ∨ IsLast x

theorem Punctual.due_turn {s : State} {answer : s.phase.Answer} {w v : Supply}
    (h : Punctual steps (s, w)) (hunset : Turn.Finds false ⟨s, answer⟩)
    (hv : Kept (s.next answer, v)) :
    (turns (steps ++ [some ⟨s, answer⟩])).countP Turn.isRequest +
      (s.next answer).phase.asksNext.toNat = 1 + elapsed (turns (steps ++ [some ⟨s, answer⟩])) := by
  have hturn := Turn.asksNext_after_eq hunset hv.intact
  have hdue : _ + s.phase.asksNext.toNat = _ := h.due
  rw [elapsed] at hdue ⊢
  rw [turns_snoc, Option.toList_some, countP_snoc, countP_snoc]
  simp only [Turn.after] at hturn
  omega

/-- On its way out the loop does not look at the switch again. -/
theorem leaving_after {t : Turn} (h : t.state.phase.isLeaving = true) :
    t.Finds false ∧ t.after.phase.isLeaving = true := by
  obtain ⟨⟨phase, b, capacity⟩, answer⟩ := t
  cases phase with
  | reporting notice after | releasing after => exact ⟨trivial, h⟩
  | ended => exact answer.elim
  | _ => cases h

theorem Punctual.late (h : Punctual steps x) (hlate : Late x step y) :
    Punctual (steps ++ [step]) y := by
  obtain ⟨hhappens, hcause⟩ := hlate
  have hy := hhappens.kept h.kept
  have hset := h.isSet
  cases hhappens with
  | @asks b capacity opening w v hopens =>
    refine ⟨hy, h.due_turn trivial hy, fun hafter => ?_⟩
    have hbefore : w.setting.switch.isSet = true := by cases hopens <;> exact hafter
    rcases hset hbefore with hleaving | ⟨⟨_, hpausing⟩, -⟩
    · cases hleaving
    · cases hpausing
  | pauses =>
    refine ⟨hy, h.due_turn trivial hy, fun hafter => ?_⟩
    rcases hset hafter with hleaving | ⟨-, hstopped⟩
    · cases hleaving
    · refine .inl ?_
      rw [hstopped]
      rfl
  | @turn s answer w setting hphase hanswer =>
    cases hbefore : w.setting.switch.isSet with
    | false =>
      refine ⟨hy, h.due_turn (hbefore ▸ hanswer.finds) hy, fun hafter => ?_⟩
      exact absurd (hbefore.symm.trans (hanswer.isSet.symm.trans hafter)) Bool.false_ne_true
    | true =>
      rcases hset hbefore with hleaving | ⟨⟨delay, hpausing⟩, -⟩
      · obtain ⟨hfinds, hafter⟩ := leaving_after (t := ⟨s, answer⟩) hleaving
        exact ⟨hy, h.due_turn hfinds hy, fun _ => .inl hafter⟩
      · have hpausing : s.phase = .pausing delay := hpausing
        rw [hpausing] at hphase
        cases hphase
  | move hmoves =>
    refine ⟨hy, ?_, fun hafter => (hcause hafter).elim hset .inr⟩
    rw [turns_snoc, Option.toList_none, List.append_nil]
    exact h.due

/-! ### A capacity no queue can have -/

/-- The loop never gets as far as to depend on the supply. -/
theorem goes_of_stopsAtQueue {capacity : Nat} (hstops : StopsAtQueue capacity (x.1, x.2.setting))
    (h : Happens x step y) : Goes (x.1, x.2.setting) step (y.1, y.2.setting) := by
  cases h with
  | asks | pauses => exact hstops.phase.elim
  | turn _ hanswer => exact .turn hanswer
  | move hmoves => exact .move hmoves

theorem countP_isRequest_of_stopsAtQueue {capacity : Nat}
    (hstops : StopsAtQueue capacity (x.1, x.2.setting)) (h : Happens x step y) :
    (turns (steps ++ [step])).countP Turn.isRequest = (turns steps).countP Turn.isRequest := by
  rw [turns_snoc]
  cases h with
  | asks | pauses => exact hstops.phase.elim
  | @turn s answer w setting hphase =>
    rw [Option.toList_some, countP_snoc, (counts_of_unsupplied hphase answer).1]
    rfl
  | move => rw [Option.toList_none, List.append_nil]

/-- Nothing is asked for, and if shutdown is not called for the worker breaks. -/
theorem asked_of_stopsAtQueue {capacity : Nat}
    (hbad : ¬(0 < capacity ∧ capacity ≤ Queue.largestCapacity))
    (hx : StopsAtQueue capacity (x.1, x.2.setting)) (h : Steps Happens x steps y) :
    StopsAtQueue capacity (y.1, y.2.setting) ∧ asked (turns steps) y.1 = 0 := by
  obtain ⟨hstops, hcount⟩ := h.invariant_along
    (P := fun steps y => StopsAtQueue capacity (y.1, y.2.setting) ∧
      (turns steps).countP Turn.isRequest = 0)
    (fun steps y step z hstep hy => ⟨(hy.1.goes hbad (goes_of_stopsAtQueue hy.1 hstep)).1,
      (countP_isRequest_of_stopsAtQueue hy.1 hstep).trans hy.2⟩) ⟨hx, rfl⟩
  refine ⟨hstops, ?_⟩
  have hphase := hstops.phase
  rw [asked_eq, hcount]
  cases hlast : y.1.phase with
  | opening =>
    simp only [hlast] at hphase
    exact hphase.elim
  | _ => rfl

theorem exists_step_of_stopsAtQueue {capacity : Nat}
    (hstops : StopsAtQueue capacity (x.1, x.2.setting)) (hfinal : x.1.phase.isFinal = false) :
    ∃ step y, Happens x step y ∧ y.2.setting.calls = x.2.setting.calls := by
  have hphase := hstops.phase
  refine exists_turn hfinal (fun heq => ?_) (fun heq => ?_) x.2
  all_goals
    simp only [heq] at hphase
    exact hphase

theorem crashed_of_stopsAtQueue {capacity : Nat} (hstops : StopsAtQueue capacity (x.1, x.2.setting))
    (hfinal : x.1.phase.isFinal = true) (hunset : x.2.setting.switch.isSet = false) :
    ∃ fault, x.1.phase = .crashed (.queue fault) := by
  obtain ⟨⟨phase, b, _⟩, w⟩ := x
  have hphase := hstops.phase
  cases phase with
  | ended => exact absurd (hunset.symm.trans hphase) Bool.false_ne_true
  | crashed cause =>
    obtain ⟨fault, -, rfl⟩ := hphase
    exact ⟨fault, rfl⟩
  | _ => cases hfinal

end

/-! ### The whole run -/

section
variable {initial longest : Duration} {capacity : Nat} {sessions : List Outcome}
  {pauses : List PauseEnd} {calls : List Call} {x : State × Supply} {steps : List (Option Turn)}

theorem kept_of_steps (hfit : (Backoff.new initial longest).Fits)
    (hroomy : 0 < capacity ∧ capacity ≤ Queue.largestCapacity)
    (h : Steps Happens (.start initial longest capacity, new sessions pauses calls) steps x) :
    Kept x :=
  h.invariant (P := Kept) (fun _ _ _ => Happens.kept) (kept_start hfit hroomy sessions pauses calls)

theorem punctual_of_steps (hfit : (Backoff.new initial longest).Fits)
    (hroomy : 0 < capacity ∧ capacity ≤ Queue.largestCapacity)
    (h : Steps Late (.start initial longest capacity, new sessions pauses calls) steps x) :
    Punctual steps x :=
  h.invariant_along (P := Punctual) (fun _ _ _ _ hlate hx => hx.late hlate)
    ⟨kept_start hfit hroomy sessions pauses calls, rfl, nofun⟩

theorem asked_of_ended (h : Punctual steps x) (hended : x.1.phase = .ended) :
    asked (turns steps) x.1 = 1 + elapsed (turns steps) := by
  have hdue := h.due
  rw [hended] at hdue
  rw [asked_eq, hended]
  exact hdue

/-- **On a finite supply of sessions and pauses the loop ends, and asks for no more than it has
to.** However many calls for shutdown are made, whenever they take their steps, and however these
stand between those of the sessions and the loop: there is a bound on all steps, and until the loop
is over it or its session has one to take. It asks for one session, and for one more at most after
each pause that elapsed; what it receives is what the sessions have to send, less what is lost. If a
queue can have the capacity asked for, the loop is not over before it has ended, and if nothing but a
pause that is stopped calls for shutdown, every elapsed pause has had its request. If no queue can
have it, nothing is ever asked for, and without a call the worker breaks. -/
theorem ends_within_supply (hfit : (Backoff.new initial longest).Fits) (capacity : Nat)
    (sessions : List Outcome) (pauses : List PauseEnd) (n : Nat) :
    let start := (State.start initial longest capacity,
      Supply.new sessions pauses (.replicate n .setting))
    (∃ bound, ∀ steps x, Steps Happens start steps x → steps.length ≤ bound) ∧
    (∀ steps x, Steps Happens start steps x →
      (x.1.phase.isFinal = true ∨
        ∃ step y, Happens x step y ∧ y.2.setting.calls = x.2.setting.calls) ∧
      asked (turns steps) x.1 ≤ 1 + elapsed (turns steps) ∧
      (received (turns steps)).Sublist (sessions.flatMap Outcome.messages)) ∧
    (0 < capacity ∧ capacity ≤ Queue.largestCapacity →
      (∀ steps x, Steps Happens start steps x → x.1.phase.isFinal = true → x.1.phase = .ended) ∧
      ∀ steps x, Steps Late start steps x → x.1.phase = .ended →
        asked (turns steps) x.1 = 1 + elapsed (turns steps)) ∧
    (¬(0 < capacity ∧ capacity ≤ Queue.largestCapacity) →
      ∀ steps x, Steps Happens start steps x → asked (turns steps) x.1 = 0 ∧
        (x.1.phase.isFinal = true → x.2.setting.switch.isSet = false →
          ∃ fault, x.1.phase = .crashed (.queue fault))) := by
  intro start
  have hstops : StopsAtQueue capacity (start.1, start.2.setting) := ⟨rfl, trivial⟩
  refine ⟨⟨_, fun steps x => length_le_workLeft⟩, fun steps x h => ⟨?_, ?_, ?_⟩,
    fun hroomy => ⟨fun steps x h => (kept_of_steps hfit hroomy h).ended_of_isFinal,
      fun steps x h => asked_of_ended (punctual_of_steps hfit hroomy h)⟩,
    fun hbad steps x h => ?_⟩
  · cases hfinal : x.1.phase.isFinal with
    | true => exact .inl rfl
    | false =>
      refine .inr ?_
      by_cases hroomy : 0 < capacity ∧ capacity ≤ Queue.largestCapacity
      · exact (kept_of_steps hfit hroomy h).exists_step hfinal
      · exact exists_step_of_stopsAtQueue (asked_of_stopsAtQueue hroomy hstops h).1 hfinal
  · exact (history_of_steps h).asked_le
  · have hsublist := received_sublist h
    rw [← stock_new sessions (.replicate n .setting)]
    exact (List.sublist_append_left _ _).trans hsublist
  · obtain ⟨hx, hasked⟩ := asked_of_stopsAtQueue hbad hstops h
    exact ⟨hasked, crashed_of_stopsAtQueue hx⟩

end

/-- Where the switch is not set at the end, nobody has called for shutdown before. -/
theorem late_of_unset {x y : State × Supply} {steps : List (Option Turn)}
    (h : Steps Happens x steps y) (hunset : y.2.setting.switch.isSet = false) :
    Steps Late x steps y := by
  induction h with
  | nil => exact .nil
  | @cons s t u e es hstep hrest ih =>
    refine .cons ⟨hstep, fun hset => ?_⟩ (ih hunset)
    have hafter := hrest.invariant (P := fun x => x.2.setting.switch.isSet = true)
      (fun _ _ _ => Happens.isSet) hset
    exact absurd (hunset.symm.trans hafter) Bool.false_ne_true

/-- One session, which completes, and one pause that elapses. The second request is refused, and
shutdown is called for in the pause after it. -/
theorem asked_twice_of_one_elapsed :
    ∃ steps x, Steps Late (.start .zero .zero 1, new [.plays [.complete]] [.elapsed] [.setting])
        steps x ∧ x.1.phase = .ended ∧ elapsed (turns steps) = 1 ∧
      received (turns steps) = [.complete] ∧ asked (turns steps) x.1 = 2 := by
  have hfit : (Backoff.new .zero .zero).Fits := Backoff.fits_of_le (by decide)
  have hadmits : (Backoff.new .zero .zero).Admits .zero := .inr ⟨rfl, rfl⟩
  let t (phase : Phase) (answer : phase.Answer) : Option Turn :=
    some ⟨⟨phase, .new .zero .zero, 1⟩, answer⟩
  let requested := [t .connecting false, t .preparing (), t (.reporting .opening .opening) ()]
  let rested := [t .settled false, t .drawing .zero,
    t (.reporting (.waiting .zero) (.pausing .zero)) ()]
  let session := requested ++ [t .opening .opened, none, t .streaming false,
    t .receiving (some .complete), none, t (.received (some .complete)) false,
    t (.reporting .completed .settling) (), t .settling ()] ++ rested
  let refusal := requested ++ [t .opening (.refused .transportClosed),
    t (.refused .transportClosed) false,
    t (.reporting (.openFailed .transportClosed) .failing) (), t .failing true,
    t .settling ()] ++ rested
  let w : Setting := ⟨[], ⟨1, [], 0, 0⟩, none, .new, [.setting]⟩
  -- The session and the pause after it, then the refusal.
  have hunset : Steps Happens (.start .zero .zero 1, new [.plays [.complete]] [.elapsed] [.setting])
      (session ++ [t (.pausing .zero) .elapsed] ++ refusal)
      (⟨.pausing .zero, .new .zero .zero, 1⟩, ⟨w, []⟩) :=
    .cons (.turn rfl ⟨rfl, rfl⟩) <| .cons (.turn rfl rfl) <| .cons (.turn rfl rfl) <|
      .cons (.asks (.opened rfl rfl)) <| .cons (.move (.sends rfl rfl)) <|
        .cons (.turn rfl ⟨rfl, rfl⟩) <| .cons (.turn rfl ⟨_, rfl, rfl⟩) <|
          .cons (.move (.leaves rfl)) <| .cons (.turn rfl ⟨rfl, rfl⟩) <| .cons (.turn rfl rfl) <|
            .cons (.turn rfl rfl) <| .cons (.turn rfl ⟨rfl, rfl⟩) <|
              .cons (.turn rfl ⟨hadmits, rfl⟩) <| .cons (.turn rfl rfl) <| .cons .pauses <|
    .cons (.turn rfl ⟨rfl, rfl⟩) <| .cons (.turn rfl rfl) <| .cons (.turn rfl rfl) <|
      .cons (.asks (.declined .transportClosed (.inl rfl))) <|
        .cons (.turn rfl ⟨rfl, rfl⟩) <| .cons (.turn rfl rfl) <|
          .cons (.turn rfl rfl) <| .cons (.turn rfl rfl) <|
            .cons (.turn rfl ⟨rfl, rfl⟩) <| .cons (.turn rfl ⟨hadmits, rfl⟩) <|
              .cons (.turn rfl rfl) .nil
  have hlast : Steps Late (⟨.pausing .zero, .new .zero .zero, 1⟩, ⟨w, []⟩)
      [none, t (.pausing .zero) .stopped, t .leaving ()]
      (⟨.ended, .new .zero .zero, 1⟩,
        ⟨{w with switch := ⟨true, 0, 0, true⟩, calls := [.closing]}, []⟩) :=
    .cons ⟨.move (.calls ⟨0, _, _, rfl, rfl, rfl⟩), fun _ => .inr ⟨⟨_, rfl⟩, rfl⟩⟩ <|
      .cons ⟨.pauses, .inl⟩ <| .cons ⟨.turn rfl rfl, .inl⟩ .nil
  have hlate := Steps.append_iff.mpr ⟨_, late_of_unset hunset rfl, hlast⟩
  obtain ⟨-, -, hroomy, -⟩ := ends_within_supply hfit 1 [.plays [.complete]] [.elapsed] 1
  exact ⟨_, _, hlate, rfl, rfl, rfl, (hroomy ⟨Nat.one_pos, by decide⟩).2 _ _ hlate rfl⟩

/-- An accepted configuration whose queue cannot be made: with no session and no pause the loop
should ask once and end. -/
theorem not_ends_of_oversized_queue :
    let c : Config := {Config.standard with receiveQueueCapacity := Queue.largestCapacity + 1}
    c.validate = .ok () ∧ (Backoff.new c.initialBackoff c.maxBackoff).Fits ∧
      ∃ steps x, Steps Late (.ofConfig c, new [] [] []) steps x ∧
        (∀ step y, ¬Happens x step y) ∧ x.1.phase ≠ .ended ∧
          asked (turns steps) x.1 ≠ 1 + elapsed (turns steps) := by
  intro c
  let b : Backoff := .new c.initialBackoff c.maxBackoff
  have hbroken : Steps Happens (.ofConfig c, new [] [] [])
      [some ⟨⟨.connecting, b, c.receiveQueueCapacity⟩, false⟩,
        some ⟨⟨.preparing, b, c.receiveQueueCapacity⟩, ()⟩]
      (⟨.crashed (.queue .tooLarge), b, c.receiveQueueCapacity⟩, new [] [] []) :=
    .cons (.turn rfl ⟨rfl, rfl⟩) <| .cons (.turn rfl rfl) .nil
  refine ⟨rfl, Backoff.fits_of_le (by decide), _, _, late_of_unset hbroken rfl, ?_, nofun, nofun⟩
  intro step y h
  cases h with
  | @turn _ answer => exact answer.elim
  | move hmoves =>
    cases hmoves with
    | calls hstep => exact Call.not_stepOf_nil hstep
    | sends hsession | isDeclined hsession | leaves hsession | isCut hsession => cases hsession

end Supply

end SnapshotFeed.Reconnect
