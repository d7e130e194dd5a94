import SnapshotFeed.Proofs.Backoff
import SnapshotFeed.Proofs.Queue.Session
import SnapshotFeed.Proofs.Reconnect.Deeds

/-! What the loop has done and has still to do.

`Setting.owed` is the part of the course that is left in the midst of a run: what has come through
the queue, what waits in it and what the session has yet to send. While the switch is not set, what
is done and what is owed make up the course: a turn does the first of what is owed (`owed_turn`), and
no move changes it (`owed_move`). `Tended` says how the loop, its queue and the session fit together
for that; `Accounted` carries all of it through a run. -/
namespace SnapshotFeed.Reconnect

namespace Setting

/-- What is on its way to the loop. -/
def stream (w : Setting) : List Message :=
  w.queue.items ++ (w.session.map (·.sending)).getD []

/-- How the session ends; one that has let go leaves. -/
def exit (w : Setting) : Exit := (w.session.map (·.exit)).getD .leaves

/-- What is yet to be heard of the session. -/
def unheard (w : Setting) : List Message := w.exit.heard w.stream

/-- What the loop has still to do. -/
def owed (b : Backoff) (w : Setting) : Phase → List Deed
  | .reporting _ after | .releasing after => w.owed b after
  | .connecting | .preparing | .opening | .pausing _ => course b w.coming
  | .refused _ => .offers .retryNotice :: afterSession b w.coming
  | .streaming | .receiving => fromSession b w.unheard w.coming
  | .received none => Deed.onHearing (.error .disconnected) ++ afterSession b w.coming
  | .received (some (.response r)) =>
    Deed.onHearing (.response r) ++ fromSession b.reset w.unheard w.coming
  | .received (some m) => Deed.onHearing m ++ afterSession b w.coming
  | .delivering payload => .offers payload :: fromSession b.reset w.unheard w.coming
  | .notifying payload => .offers payload :: afterSession b w.coming
  | .settled | .drawing => afterSession b w.coming
  | .ended | .crashed _ => []

end Setting

/-- The loop leaves a session only for good. -/
def Phase.isTidy : Phase → Bool
  | reporting _ after => after.isTidy
  | releasing after => after == settled || after == leaving
  | _ => true

theorem Phase.isTidy_releasing {after : Phase} :
    (releasing after).isTidy = true ↔ after = settled ∨ after = leaving := by
  simp only [isTidy, Bool.or_eq_true, beq_iff_eq]

/-- The loop, its queue and the session fit together. -/
structure Tended (s : State) (w : Setting) : Prop where
  tidy : s.phase.isTidy = true
  fits : s.backoff.Fits
  /-- A queue can have the capacity asked for. -/
  roomy : 0 < s.capacity ∧ s.capacity ≤ Queue.largestCapacity
  /-- The queue of the session at hand has the loop at one end and the session at the other, until
  that lets go. -/
  joined : s.phase.isOpen = true → w.queue.capacity = s.capacity ∧ w.queue.receivers = 1 ∧
    w.queue.senders = w.session.toList.length

namespace Tended
variable {s : State} {w v : Setting}

/-- A turn that is no matter of the queue. -/
theorem go (h : Tended s w) {phase : Phase} (htidy : phase.isTidy = true)
    (hopen : phase.isOpen = true → s.phase.isOpen = true) : Tended (s.go phase) w :=
  ⟨htidy, h.fits, h.roomy, fun hphase => h.joined (hopen hphase)⟩

theorem healthy (h : Tended s w) {phase : Phase} (htidy : phase.isTidy = true)
    (hopen : s.phase.isOpen = true) : Tended (s.healthy phase) w :=
  ⟨htidy, h.fits.reset, h.roomy, fun _ => h.joined hopen⟩

/-- The phase does not look at the queue any more. -/
theorem closed (h : Tended s w) {phase : Phase} (htidy : phase.isTidy = true)
    (hclosed : phase.isOpen = false) : Tended (s.go phase) v :=
  ⟨htidy, h.fits, h.roomy, fun hphase => absurd (hclosed.symm.trans hphase) Bool.false_ne_true⟩

theorem handle (h : Tended s w) (m : Message)
    (hopen : ∀ r, m = .response r → s.phase.isOpen = true) : Tended (s.handle m) w := by
  obtain ⟨r, hm, hnext⟩ | ⟨r, hm, hnext⟩ | ⟨_, -, hnext⟩ | ⟨-, hnext⟩ := s.handle_cases m <;> rw [hnext]
  · exact h.go rfl fun _ => hopen r hm
  · exact h.healthy rfl (hopen r hm)
  · exact h.closed rfl rfl
  · exact h.closed rfl rfl

theorem opens {b : Backoff} {capacity : Nat} {opening : Opening}
    (h : Tended ⟨.opening, b, capacity⟩ w) (hopens : w.Opens capacity opening v) :
    Tended (State.next ⟨.opening, b, capacity⟩ opening) v := by
  cases hopens with
  | closed | refused => exact h.closed rfl rfl
  | opened _ _ hnew =>
    obtain ⟨-, -, rfl⟩ := Queue.Session.new_eq_ok_iff.mp hnew
    exact ⟨rfl, h.fits, h.roomy, fun _ => ⟨rfl, rfl, rfl⟩⟩

theorem pauseAfter {b : Backoff} {capacity : Nat} {jitter : Duration}
    (h : Tended ⟨.drawing, b, capacity⟩ w) (hjitter : b.Admits jitter) :
    Tended (State.pauseAfter ⟨.drawing, b, capacity⟩ jitter) w := by
  obtain ⟨delay, hnext⟩ := h.fits.next? hjitter
  simp only [State.pauseAfter, hnext]
  exact ⟨rfl, h.fits.grow, h.roomy, fun hphase => absurd hphase Bool.false_ne_true⟩

/-- The loop keeps up with its queue, whatever it is told. -/
theorem turn {answer : s.phase.Answer} (h : Tended s w) (hanswer : Setting.Answers s w answer v) :
    Tended (s.next answer) v := by
  obtain ⟨phase, b, capacity⟩ := s
  cases phase with
  | connecting | refused cause | settled =>
    obtain ⟨-, rfl⟩ := hanswer
    cases answer <;> exact h.closed rfl rfl
  | streaming =>
    obtain ⟨-, rfl⟩ := hanswer
    cases answer <;> exact h.go rfl fun _ => rfl
  | preparing =>
    show Tended (State.prepare ⟨.preparing, b, capacity⟩) v
    rw [prepare_of_le h.roomy.1 h.roomy.2]
    exact h.closed rfl rfl
  | reporting notice after =>
    cases hanswer
    exact h.go h.tidy id
  | opening => exact h.opens hanswer
  | receiving =>
    obtain ⟨queue, hnext, rfl⟩ := hanswer
    obtain ⟨m, rest, -, rfl, rfl⟩ | ⟨-, -, rfl, rfl⟩ := Queue.Session.next_eq_some_iff.mp hnext
    · exact ⟨rfl, h.fits, h.roomy, fun _ => h.joined rfl⟩
    · exact h.closed rfl rfl
  | received message =>
    obtain ⟨-, rfl⟩ := hanswer
    cases message with
    | none => cases answer <;> exact h.closed rfl rfl
    | some m =>
      cases answer
      · exact h.handle m fun r hm => by rw [hm]; rfl
      · exact h.closed rfl rfl
  | delivering payload =>
    cases hanswer
    cases answer <;> exact h.healthy rfl rfl
  | notifying payload =>
    cases answer <;> exact h.closed rfl rfl
  | releasing after =>
    obtain rfl | rfl := Phase.isTidy_releasing.mp h.tidy <;> exact h.closed rfl rfl
  | drawing =>
    obtain ⟨hjitter, rfl⟩ := hanswer
    exact h.pauseAfter hjitter
  | pausing delay => cases answer <;> exact h.closed rfl rfl
  | ended | crashed cause => exact answer.elim

/-- While the loop looks at the queue, nobody is told that it has left. -/
theorem offer_ne_false (h : Tended s w) (hopen : s.phase.isOpen = true) (m : Message)
    (queue : Queue.Session) : Queue.Session.offer w.queue m ≠ (some false, queue) := by
  intro hoffer
  have hreceivers := (h.joined hopen).2.1
  rw [(Queue.Session.offer_eq_false_iff.mp hoffer).1] at hreceivers
  cases hreceivers

theorem move (h : Tended s w) (hmoves : w.Moves v) : Tended s v := by
  refine ⟨h.tidy, h.fits, h.roomy, fun hphase => ?_⟩
  obtain ⟨hcapacity, hreceivers, hsenders⟩ := h.joined hphase
  cases hmoves with
  | sends hsession hoffer =>
    obtain ⟨-, -, rfl⟩ := Queue.Session.offer_eq_true_iff.mp hoffer
    rw [hsession] at hsenders
    exact ⟨hcapacity, hreceivers, hsenders⟩
  | isDeclined _ hoffer => exact absurd hoffer (h.offer_ne_false hphase _ _)
  | leaves hsession | isCut hsession =>
    rw [hsession] at hsenders
    refine ⟨hcapacity, hreceivers, ?_⟩
    show w.queue.senders - 1 = 0
    rw [hsenders]
    rfl
  | calls => exact ⟨hcapacity, hreceivers, hsenders⟩

end Tended

/-! ### While the switch is not set -/

section Owed
variable {s : State} {w v : Setting}

/-- What is on its way matters to an open phase only. -/
theorem owed_congr (hcoming : v.coming = w.coming) (b : Backoff) {phase : Phase}
    (hunheard : phase.isOpen = true → v.unheard = w.unheard) : v.owed b phase = w.owed b phase := by
  induction phase with
  | reporting _ _ ih | releasing _ ih => exact ih hunheard
  | streaming | receiving | delivering payload =>
    simp only [Setting.owed, hcoming, hunheard rfl]
  | received message =>
    rcases message with _ | (_ | _ | _)
    · simp only [Setting.owed, hcoming]
    · simp only [Setting.owed, hcoming, hunheard rfl]
    all_goals simp only [Setting.owed, hcoming]
  | _ => simp only [Setting.owed, hcoming]

/-- What a session sends is on its way until it is heard. -/
theorem owed_move (h : Tended s w) (hnew : w.switch = .new) (hmoves : w.Moves v) :
    v.owed s.backoff s.phase = w.owed s.backoff s.phase := by
  refine owed_congr (by cases hmoves <;> rfl) s.backoff fun hopen => ?_
  cases hmoves with
  | sends hsession hoffer =>
    obtain ⟨-, -, rfl⟩ := Queue.Session.offer_eq_true_iff.mp hoffer
    simp [Setting.unheard, Setting.exit, Setting.stream, hsession]
  | isDeclined _ hoffer => exact absurd hoffer (h.offer_ne_false hopen _ _)
  | leaves hsession =>
    simp [Setting.unheard, Setting.exit, Setting.stream, hsession, Queue.Bounded.dropSender]
  | isCut _ hclosed =>
    rw [hnew] at hclosed
    cases hclosed
  | calls => rfl

theorem owed_handle (m : Message) (s : State) (w : Setting) :
    .hears m :: w.owed (s.handle m).backoff (s.handle m).phase =
      w.owed s.backoff (.received (some m)) := by
  cases m with
  | response r =>
    obtain ⟨configuration, state⟩ := r
    cases state <;> rfl
  | error cause | complete => rfl

theorem owed_opens {b : Backoff} {capacity : Nat} {opening : Opening} (hnew : w.switch = .new)
    (hopens : w.Opens capacity opening v) :
    .asks opening :: v.owed (State.next ⟨.opening, b, capacity⟩ opening).backoff
      (State.next ⟨.opening, b, capacity⟩ opening).phase = course b w.coming := by
  cases hopens with
  | closed _ hclosed =>
    rw [hnew] at hclosed
    cases hclosed
  | refused _ hcoming =>
    rw [hcoming]
    rfl
  | opened _ hcoming hok =>
    obtain ⟨-, -, rfl⟩ := Queue.Session.new_eq_ok_iff.mp hok
    rw [hcoming]
    rfl

/-- The next message is the first that is owed, and none is left when there is none. -/
theorem owed_received {b : Backoff} {capacity : Nat} {message : Option Message}
    {queue : Queue.Session} (h : Tended ⟨.receiving, b, capacity⟩ w)
    (hnext : Queue.Session.next w.queue = (some message, queue)) :
    Setting.owed b {w with queue} (.received message) = w.owed b .receiving := by
  obtain ⟨m, rest, hitems, rfl, rfl⟩ | ⟨hitems, hsenders, rfl, rfl⟩ :=
    Queue.Session.next_eq_some_iff.mp hnext
  · have hunheard : w.unheard =
        w.exit.heard (m :: Setting.stream {w with queue := {w.queue with items := rest}}) := by
      simp only [Setting.unheard, Setting.stream, hitems, List.cons_append]
    show _ = fromSession b w.unheard w.coming
    cases m with
    | response r =>
      rw [hunheard, heard_response, fromSession_response]
      rfl
    | error cause | complete =>
      rw [hunheard, heard_terminal _ rfl, fromSession_terminal _ rfl]
      rfl
  · obtain ⟨-, -, hsession⟩ := h.joined rfl
    rw [hsenders] at hsession
    have hnone : w.session = none := by
      cases hw : w.session
      · rfl
      · rw [hw] at hsession
        cases hsession
    have hunheard : w.unheard = [.error .disconnected] := by
      simp [Setting.unheard, Setting.exit, Setting.stream, hitems, hnone, Exit.heard]
    rw [Setting.owed, Setting.owed, hunheard, fromSession_terminal _ rfl]

/-- A turn does the first of what is owed, or nothing yet. -/
theorem owed_turn {answer : s.phase.Answer} (h : Tended s w) (hnew : w.switch = .new)
    (hanswer : Setting.Answers s w answer v) :
    (Turn.deed? ⟨s, answer⟩).toList ++ v.owed (s.next answer).backoff (s.next answer).phase =
      w.owed s.backoff s.phase := by
  have hunset : w.switch.isSet = false := by rw [hnew]; rfl
  obtain ⟨phase, b, capacity⟩ := s
  cases phase with
  | connecting | refused cause | streaming | settled =>
    obtain ⟨hset, rfl⟩ := hanswer
    rw [hunset] at hset
    cases hset
    rfl
  | preparing =>
    cases hanswer
    show w.owed (State.prepare _).backoff (State.prepare _).phase = _
    rw [prepare_of_le h.roomy.1 h.roomy.2]
    rfl
  | reporting notice after =>
    cases hanswer
    rfl
  | opening => exact owed_opens hnew hanswer
  | receiving =>
    obtain ⟨queue, hnext, rfl⟩ := hanswer
    exact owed_received h hnext
  | received message =>
    obtain ⟨hset, rfl⟩ := hanswer
    rw [hunset] at hset
    cases hset
    cases message with
    | none => rfl
    | some m => exact owed_handle m ⟨.received (some m), b, capacity⟩ v
  | delivering payload | notifying payload =>
    cases hanswer
    cases answer <;> rfl
  | releasing after =>
    cases hanswer
    obtain rfl | rfl := Phase.isTidy_releasing.mp h.tidy <;> rfl
  | drawing =>
    obtain ⟨hjitter, rfl⟩ := hanswer
    obtain ⟨delay, hnext⟩ := h.fits.next? hjitter
    show .rests b.current :: v.owed (State.pauseAfter _ answer).backoff
      (State.pauseAfter _ answer).phase = _
    simp only [State.pauseAfter, hnext]
    rfl
  | pausing delay =>
    obtain ⟨switch, hends, rfl⟩ := hanswer
    cases hends with
    | elapsed => rfl
    | stopped hpause =>
      rw [hnew] at hpause
      cases hpause
  | ended | crashed cause => exact answer.elim

end Owed

/-! ### Runs -/

/-- Where a run stands: while the switch is not set, what was done and what is owed make up the
course. -/
structure Accounted (initial longest : Duration) (visits : List Visit) (ds : List Deed)
    (x : State × Setting) : Prop where
  tended : Tended x.1 x.2
  orderly : Call.Orderly x.2.calls x.2.switch
  deeds : x.2.switch.isSet = false →
    ds ++ x.2.owed x.1.backoff x.1.phase = course (.new initial longest) visits

section Runs
variable {initial longest : Duration} {capacity : Nat} {visits : List Visit} {calls : List Call}

theorem accounted_start (hfit : (Backoff.new initial longest).Fits) (hpos : 0 < capacity)
    (hle : capacity ≤ Queue.largestCapacity) (hcalls : ∀ c ∈ calls, c = .setting) :
    Accounted initial longest visits []
      (.start initial longest capacity, .new visits calls) := by
  refine ⟨⟨rfl, hfit, ⟨hpos, hle⟩, nofun⟩, fun _ => ⟨rfl, fun c hc => ?_⟩, fun _ => rfl⟩
  rw [hcalls c hc]
  exact ⟨nofun, nofun⟩

theorem Accounted.goes {ds : List Deed} {x y : State × Setting} {step : Option Turn}
    (h : Accounted initial longest visits ds x) (hgoes : Goes x step y) :
    Accounted initial longest visits (ds ++ (step.bind Turn.deed?).toList) y := by
  cases hgoes with
  | @turn s w v answer hanswer =>
    have hset := hanswer.isSet
    have hnew : v.switch.isSet = false → w.switch = .new := fun hunset =>
      (h.orderly (hset.symm.trans hunset)).1
    refine ⟨h.tended.turn hanswer, fun hunset => ⟨hanswer.switch_new (hnew hunset), ?_⟩,
      fun hunset => ?_⟩
    · show ∀ c ∈ v.calls, c ≠ .closing ∧ c ≠ .waking
      rw [hanswer.switch.1]
      exact (h.orderly (hset.symm.trans hunset)).2
    · rw [List.append_assoc]
      exact (congrArg _ (owed_turn h.tended (hnew hunset) hanswer)).trans
        (h.deeds (hset.symm.trans hunset))
  | @move s w v hmoves =>
    have hbefore : v.switch.isSet = false → w.switch.isSet = false := fun hunset => by
      cases hw : w.switch.isSet
      · rfl
      · rw [hmoves.isSet hw] at hunset
        cases hunset
    refine ⟨h.tended.move hmoves, ?_, fun hunset => ?_⟩
    · cases hmoves with
      | calls hstep => exact h.orderly.stepOf hstep
      | _ => exact h.orderly
    · have howed := owed_move h.tended (h.orderly (hbefore hunset)).1 hmoves
      rw [List.append_assoc]
      exact (congrArg _ howed).trans (h.deeds (hbefore hunset))

theorem deeds_turns_snoc (steps : List (Option Turn)) (step : Option Turn) :
    deeds (turns (steps ++ [step])) = deeds (turns steps) ++ (step.bind Turn.deed?).toList := by
  cases step with
  | none => simp [turns, deeds]
  | some t => cases h : t.deed? <;> simp [turns, deeds, h]

/-- Every run keeps account. -/
theorem accounted_of_steps {steps : List (Option Turn)} {x y : State × Setting}
    (h : Steps Goes x steps y) (hx : Accounted initial longest visits [] x) :
    Accounted initial longest visits (Reconnect.deeds (turns steps)) y := by
  refine h.invariant_along (P := fun steps y => Accounted initial longest visits
    (Reconnect.deeds (turns steps)) y) (fun steps x step y hgoes hx => ?_) hx
  rw [deeds_turns_snoc]
  exact hx.goes hgoes

end Runs

end SnapshotFeed.Reconnect
