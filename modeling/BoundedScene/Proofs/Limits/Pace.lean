import BoundedScene.Proofs.Settling

/-!
Contract: runs in which time passes only in cleanups and while nobody can go on.

Owns:
- `Occupied`, that a cleanup kept the thread busy at an instant, and `InTime`, that the clock
  has not gone beyond an instant but for such a cleanup;
- `Timely`, the runs in which the tasks take turns in any order, and the clock is moved on only
  while neither the backend nor a call is ready, up to the next alarm at most;
- `Paced`, a small step that takes no more time than the cleanups run in it, and `Timed`, the
  scenes that such steps and such moves of the clock lead to;
- the proof that the steps of the users make such a run of a scene without subscribers.

Main statement: `timely_performAll`.

Does not own: what holds along these runs.
-/

namespace BoundedScene

section Instants

variable {V : Type} {journal : List (Record V)}

/-- A cleanup was running at an instant: it had started by then and was not over. -/
def Occupied (journal : List (Record V)) (instant : Nat) : Prop :=
  ∃ finish run, { instant := finish, happening := .cleaned run } ∈ journal
    ∧ instant < finish ∧ finish ≤ instant + (Happening.cleaned run).duration

theorem Occupied.mono {instant : Nat} {later : List (Record V)}
    (occupied : Occupied journal instant) (kept : journal ⊆ later) : Occupied later instant := by
  obtain ⟨finish, run, member, unfinished, started⟩ := occupied
  exact ⟨finish, run, kept member, unfinished, started⟩

/-- Only a cleanup can take the clock beyond an instant. -/
theorem occupied_sequence {start instant : Nat} {log : List (Happening V)}
    (early : start ≤ instant) (late : instant < start + Happening.elapsed log) :
    Occupied (Record.sequence start log) instant := by
  induction log generalizing start with
  | nil => exact absurd late (Nat.not_lt.mpr early)
  | cons first rest inductionHypothesis =>
      have split : Happening.elapsed (first :: rest) = first.duration + Happening.elapsed rest :=
        rfl
      by_cases within : instant < start + first.duration
      · cases first with
        | cleaned run => exact ⟨_, run, List.mem_cons_self .., within, by omega⟩
        | _ => exact absurd within (Nat.not_lt.mpr early)
      · have tail : Occupied (Record.sequence (start + first.duration) rest) instant :=
          inductionHypothesis (Nat.not_lt.mp within) (by omega)
        exact tail.mono (List.subset_cons_self ..)

theorem instant_le_of_mem_sequence {start : Nat} {log : List (Happening V)} {record : Record V}
    (member : record ∈ Record.sequence start log) :
    record.instant ≤ start + Happening.elapsed log := by
  induction log generalizing start with
  | nil => cases member
  | cons first rest inductionHypothesis =>
      have split : Happening.elapsed (first :: rest) = first.duration + Happening.elapsed rest :=
        rfl
      rcases List.mem_cons.mp member with rfl | later
      · show start + first.duration ≤ _
        omega
      · have bound := inductionHypothesis later
        omega

/-- Records of what takes no time are made at once. -/
theorem instant_of_mem_sequence {start : Nat} {log : List (Happening V)}
    (brief : ∀ happening ∈ log, happening.duration = 0) {record : Record V}
    (member : record ∈ Record.sequence start log) : record.instant = start := by
  induction log generalizing start with
  | nil => cases member
  | cons first rest inductionHypothesis =>
      rw [List.forall_mem_cons] at brief
      rw [Record.sequence, brief.1, Nat.add_zero, List.mem_cons] at member
      rcases member with rfl | later
      · rfl
      · exact inductionHypothesis brief.2 later

/-- The last of some records is made when all of them are over. -/
theorem mem_sequence_concat (start : Nat) (log : List (Happening V)) {last : Happening V}
    (brief : last.duration = 0) :
    { instant := start + Happening.elapsed (log ++ [last]), happening := last }
      ∈ Record.sequence start (log ++ [last]) := by
  have time : start + Happening.elapsed (log ++ [last]) = start + Happening.elapsed log := by
    simp [Happening.elapsed, brief]
  rw [time, Record.sequence_append]
  refine List.mem_append_right _ (List.mem_singleton.mpr ?_)
  rw [brief, Nat.add_zero]

/-- The clock has not gone beyond an instant, but for cleanups that have kept the thread busy
ever since. -/
def InTime (journal : List (Record V)) (now instant : Nat) : Prop :=
  ∀ moment, instant ≤ moment → moment < now → Occupied journal moment

theorem InTime.of_le {now instant : Nat} (early : now ≤ instant) : InTime journal now instant :=
  fun _ since before => absurd (Nat.lt_of_lt_of_le before early) (Nat.not_lt.mpr since)

theorem InTime.le {now instant : Nat} (inTime : InTime journal now instant)
    (free : ¬Occupied journal instant) : now ≤ instant :=
  Nat.not_lt.mp fun late => free (inTime instant (Nat.le_refl _) late)

theorem InTime.mono {now earlier instant : Nat} {later : List (Record V)}
    (inTime : InTime journal now instant) (kept : journal ⊆ later) (before : earlier ≤ now) :
    InTime later earlier instant :=
  fun moment since past => (inTime moment since (Nat.lt_of_lt_of_le past before)).mono kept

theorem InTime.grow {now instant : Nat} (inTime : InTime journal now instant)
    (log : List (Happening V)) :
    InTime (journal ++ Record.sequence now log) (now + Happening.elapsed log) instant := by
  intro moment since before
  rcases Nat.lt_or_ge moment now with past | current
  · exact (inTime moment since past).mono (List.subset_append_left ..)
  · exact (occupied_sequence current before).mono (List.subset_append_right ..)

end Instants

namespace Session

variable {V : Type} {session before middle after : Session V}

/-! ## Timely runs -/

/-- No alarm that was not noticed lies before an instant, except in the past. -/
def Near (session : Session V) (instant : Nat) : Prop :=
  ∀ alarm ∈ Turns.alarms session, session.clock.noticed < alarm.due →
    instant ≤ max session.clock.now (Clock.instantOf alarm.due)

/-- The runs in which the tasks take turns in any order, ready or not, and the clock is moved
on only while neither the backend nor a call is ready, and not beyond the next alarm. -/
inductive Timely : Session V → Prop where
  | created {settings : Settings} {profiles : List Profile} {visiting : VisitingOrder V}
      {session : Session V} (created : create? settings profiles visiting = some session) :
      Timely session
  | moved {session : Session V} (timely : Timely session) (move : Move V)
      (immediate : ∀ instant, move ≠ .reach instant) : Timely (session.move move)
  | waited {session : Session V} (timely : Timely session) (instant : Nat)
      (rest : session.AtRest) (near : session.Near instant) :
      Timely (session.move (.reach instant))

theorem Timely.reachable (timely : Timely session) : Reachable session := by
  induction timely with
  | created created => exact .created created
  | moved _ move _ inductionHypothesis => exact .moved move inductionHypothesis
  | waited _ instant _ _ inductionHypothesis => exact .moved (.reach instant) inductionHypothesis

/-! ## Paced steps -/

/-- A small step that takes no more time than the cleanups run in it, and in which nothing is
noticed. -/
structure Paced (before after : Session V) : Prop where
  step : Advance before after
  clock : ∃ log, after.journal = before.journal ++ Record.sequence before.clock.now log
    ∧ after.clock.now = before.clock.now + Happening.elapsed log
    ∧ after.clock.noticed = before.clock.noticed

theorem paced_of_growth {log : List (Happening V)} {changes : List (CallChange V)}
    {events : List Event} {earlier : Session V} (step : Advance before after)
    (growth : Evolves log changes events earlier after) (journal : earlier.journal = before.journal)
    (clock : earlier.clock = before.clock) : Paced before after where
  step := step
  clock := by
    refine ⟨log, ?_, ?_, ?_⟩
    · rw [growth.journal, journal, clock]
    · rw [growth.now, clock]
    · rw [show after.clock.noticed = earlier.clock.noticed from growth.agenda.noticed, clock]

/-- A paced step in which nothing happens. -/
theorem paced_of_drift {agenda : Agenda SceneTask} {handles : List Bool}
    (growth : Evolves [] [] [] { before with agenda, handles } after)
    (clock : agenda.clock = before.clock) : Paced before after :=
  paced_of_growth (.drifts growth) growth rfl clock

theorem paced_turn {id : Nat} {call : Call V} (found : before.calls[id]? = some call) :
    Paced before (before.resumeCall id) := by
  obtain ⟨log, changes, mailbox, -, growth, -⟩ := before.resumeCall_turnsBy id call found
  exact paced_of_growth (.turns found) growth rfl rfl

theorem paced_serveOne {envelope : Envelope V} {rest : Mailbox (Envelope V) × Option Nat}
    (serving : before.isServing) (unstopped : before.control.stopRequested = false)
    (undue : before.dueDeadline? = none)
    (taken : before.mailbox.take? = some (envelope, rest)) :
    Paced before (before.serveOne envelope rest) := by
  obtain ⟨backend, -, growth⟩ := serveOne_evolves serving envelope rest
  exact paced_of_growth (.processes serving unstopped undue taken) growth rfl rfl

theorem happenings_of_journal {start : Nat} {log : List (Happening V)}
    (journal : after.journal = before.journal ++ Record.sequence start log) :
    after.happenings = before.happenings ++ log := by
  unfold happenings
  rw [journal, List.map_append, Record.happening_sequence]

/-- Any number of paced steps. -/
abbrev Paces : Session V → Session V → Prop :=
  Relation.ReflTransGen Paced

theorem Paces.noticed (run : Paces before after) :
    after.clock.noticed = before.clock.noticed := by
  induction run with
  | refl => rfl
  | tail _ step inductionHypothesis =>
      obtain ⟨log, -, -, noticed⟩ := step.clock
      exact noticed.trans inductionHypothesis

theorem serve_paces (commands : Nat) (serving : session.isServing) :
    Paces session (session.serve commands) :=
  serve_induction (Paces session)
    (fun held serving unstopped undue taken =>
      held.tail (paced_serveOne serving unstopped undue taken))
    (fun held serving cause =>
      held.tail (paced_of_growth (.ends serving cause) cause.evolves rfl rfl))
    commands serving .refl

theorem resumeBackend_paces (session : Session V) : Paces session session.resumeBackend := by
  unfold resumeBackend
  split
  case h_1 fresh =>
    have growth := session.openUp_evolves
    have opened : Paced session session.openUp :=
      paced_of_growth (.opens fresh) growth rfl rfl
    exact (Relation.ReflTransGen.single opened).trans (serve_paces _ ⟨_, _, growth.backend⟩)
  case h_2 absolute inactivity serving => exact serve_paces _ ⟨absolute, inactivity, serving⟩
  case h_3 => exact .refl

theorem resume_paces (task : SceneTask) (session : Session V) :
    Paces session (resume task session) := by
  cases task with
  | backend => exact session.resumeBackend_paces
  | delivery task => exact .single (paced_of_drift (session.resumeDelivery_evolves task) rfl)
  | call id =>
      cases found : session.calls[id]? with
      | some call => exact .single (paced_turn found)
      | none =>
          show Paces session (session.resumeCall id)
          unfold resumeCall
          rw [found]

theorem act_paces (deed : Deed V) (session : Session V) : Paces session (session.act deed) := by
  cases deed with
  | call request =>
      exact .single (paced_of_growth (.makes request) (session.makeCall_evolves request) rfl rfl)
  | cancel id =>
      show Paces session (session.cancel id)
      cases found : session.calls[id]? with
      | none =>
          unfold cancel
          rw [found]
      | some call =>
          cases unfinished : call.isUnfinished with
          | true =>
              exact .single (paced_of_growth (.cancels found unfinished)
                (session.cancel_evolves found unfinished).1 rfl rfl)
          | false =>
              unfold cancel
              simp only [found, unfinished]
              exact .refl
  | clone => exact .single (paced_of_drift (Evolves.refl _) rfl)
  | drop handle => exact .single (paced_of_drift (noteHandles_evolves _) rfl)
  | release lane count => exact .single (paced_of_drift (session.release_evolves lane count) rfl)
  | dropTasks => exact .single ⟨.loses, [], (List.append_nil _).symm, rfl, rfl⟩

/-- Every move but that of the clock is made of paced steps. -/
theorem move_paces (move : Move V) (immediate : ∀ instant, move ≠ .reach instant)
    (session : Session V) : Paces session (session.move move) := by
  cases move with
  | act deed => exact act_paces deed session
  | resume task =>
      have dequeued : Paced session (session.dequeue task) := paced_of_drift (Evolves.refl _) rfl
      exact (Relation.ReflTransGen.single dequeued).trans (resume_paces task _)
  | serve commands =>
      unfold Session.move
      dsimp only
      split
      case h_1 absolute inactivity serving =>
        exact (serve_paces commands ⟨absolute, inactivity, serving⟩).tail
          (paced_of_drift (wakeAll_evolves _ _) rfl)
      case h_2 => exact .refl
  | reach instant => exact absurd rfl (immediate instant)

/-- The scenes that timely runs pass through, those in the middle of a move included. -/
inductive Timed : Session V → Prop where
  | created {settings : Settings} {profiles : List Profile} {visiting : VisitingOrder V}
      {session : Session V} (created : create? settings profiles visiting = some session) :
      Timed session
  | paced {before after : Session V} (timed : Timed before) (step : Paced before after) :
      Timed after
  | waited {session : Session V} (timed : Timed session) (reachable : Reachable session)
      (instant : Nat) (rest : session.AtRest) (near : session.Near instant) :
      Timed (session.move (.reach instant))

theorem Timed.passed (timed : Timed session) : Passed session := by
  induction timed with
  | created created => exact .initial (isInitial_of_create? created)
  | paced _ step inductionHypothesis => exact inductionHypothesis.advance step.step
  | @waited session _ _ instant _ _ inductionHypothesis =>
      exact inductionHypothesis.advances (session.reach_advances instant)

theorem Timed.paces (timed : Timed before) (run : Paces before after) : Timed after := by
  induction run with
  | refl => exact timed
  | tail _ step inductionHypothesis => exact inductionHypothesis.paced step

theorem Timely.timed (timely : Timely session) : Timed session := by
  induction timely with
  | created created => exact .created created
  | @moved session _ move immediate inductionHypothesis =>
      exact inductionHypothesis.paces (move_paces move immediate session)
  | waited timely instant rest near inductionHypothesis =>
      exact inductionHypothesis.waited timely.reachable instant rest near

/-! ## The steps of the users -/

/-- A timely run of a scene without subscribers, which has noticed a millisecond. -/
structure Marches (millisecond : Nat) (session : Session V) : Prop where
  timely : Timely session
  unwatched : session.Unwatched
  noticed : millisecond ≤ session.clock.noticed

namespace Marches

variable {millisecond : Nat}

theorem move (marches : Marches millisecond session) (move : Move V)
    (immediate : ∀ instant, move ≠ .reach instant) : Marches millisecond (session.move move) where
  timely := marches.timely.moved move immediate
  unwatched := marches.unwatched.move move
  noticed := by
    rw [(move_paces move immediate session).noticed]
    exact marches.noticed

theorem wait (marches : Marches millisecond session) {instant : Nat} (rest : session.AtRest)
    (near : session.Near instant) :
    Marches (max millisecond (instant / Span.nanosecondsPerMillisecond))
      (Turns.reach instant session) where
  timely := marches.timely.waited instant rest near
  unwatched := marches.unwatched.move (.reach instant)
  noticed := by
    rw [noticed_reach]
    refine Nat.max_le.mpr ⟨Nat.le_trans marches.noticed (Nat.le_max_left ..), ?_⟩
    exact Nat.le_trans (Nat.div_le_div_right (Nat.le_max_right session.clock.now instant))
      (Nat.le_max_right ..)

theorem poll (marches : Marches millisecond before) (poll : Poll before after) :
    Marches millisecond after := by
  cases poll with
  | turn => exact marches.move _ (by simp)
  | cut => exact marches.move _ (by simp)
  | notices idle =>
      have near : before.Near before.clock.now := fun _ _ _ => Nat.le_max_left ..
      have caughtUp := marches.wait (atRest_of_idle idle) near
      exact ⟨caughtUp.timely, caughtUp.unwatched,
        Nat.le_trans (Nat.le_max_left ..) caughtUp.noticed⟩

theorem polled {polls : Nat} (marches : Marches millisecond before)
    (polled : Polled polls before after) : Marches millisecond after := by
  induction polled with
  | none => exact marches
  | more poll _ inductionHypothesis => exact inductionHypothesis (marches.poll poll)

/-- Without subscribers, a scene that settles comes to rest. -/
theorem settle (marches : Marches millisecond session) :
    Marches millisecond (Turns.settle session) ∧ (Turns.settle session).AtRest := by
  have orderly : session.Orderly := ⟨marches.timely.reachable, marches.unwatched⟩
  have enough : session.pending ≤ Turns.allowance session :=
    Nat.le_trans (pending_le_sceneAllowance orderly.reachable) (Nat.le_add_right _ _)
  obtain ⟨⟨polls, polled⟩, rests⟩ := orderly.run enough
  exact ⟨marches.polled polled, atRest_of_idle (Turns.idle_of_rest rests).1⟩

end Marches

theorem near_nextAlarm {target due : Nat} (follows : Turns.nextAlarm? target session = some due) :
    session.Near (Clock.instantOf due) := by
  obtain ⟨listed, least⟩ := List.min?_eq_some_iff.mp follows
  intro alarm armed waits
  refine Nat.le_trans ?_ (Nat.le_max_right ..)
  obtain ⟨entry, -, chosen⟩ := List.mem_filterMap.mp listed
  split at chosen
  case isFalse => cases chosen
  case isTrue pending =>
    cases chosen
    rcases Nat.le_total (Clock.instantOf alarm.due) target with close | far
    · exact Clock.instantOf_le_instantOf.mpr
        (least alarm.due (List.mem_filterMap.mpr ⟨alarm, armed, if_pos ⟨waits, close⟩⟩))
    · exact Nat.le_trans pending.2 far

theorem near_target {target : Nat} (none : Turns.nextAlarm? target session = none) :
    session.Near target := by
  intro alarm armed waits
  refine Nat.le_trans (Nat.le_of_lt (Nat.not_le.mp fun close => ?_)) (Nat.le_max_right ..)
  have pending : alarm.due ∈ (Turns.alarms session).filterMap fun alarm =>
      if (Turns.clock session).noticed < alarm.due
        ∧ alarm.due * Span.nanosecondsPerMillisecond ≤ target
      then some alarm.due else Option.none :=
    List.mem_filterMap.mpr ⟨alarm, armed, if_pos ⟨waits, close⟩⟩
  rw [List.min?_eq_none_iff.mp none] at pending
  cases pending

/-- Going from alarm to alarm ends at rest, near the target. -/
theorem Marches.followAlarms (target jumps : Nat) {millisecond : Nat}
    (marches : Marches millisecond session) (rest : session.AtRest)
    (enough : target / Span.nanosecondsPerMillisecond ≤ millisecond + jumps) :
    Marches millisecond (Turns.followAlarms target jumps session)
      ∧ (Turns.followAlarms target jumps session).AtRest
      ∧ (Turns.followAlarms target jumps session).Near target := by
  induction jumps generalizing session millisecond with
  | zero =>
      refine ⟨marches, rest, fun alarm _ waits => ?_⟩
      refine Nat.le_trans (Nat.le_of_lt (Nat.not_le.mp fun close => ?_)) (Nat.le_max_right ..)
      have seen := Clock.instantOf_le_iff.mp close
      have noticed := marches.noticed
      replace waits : session.clock.noticed < alarm.due := waits
      omega
  | succ jumps inductionHypothesis =>
      unfold Turns.followAlarms
      cases follows : Turns.nextAlarm? target session with
      | none => exact ⟨marches, rest, near_target follows⟩
      | some due =>
          have later : session.clock.noticed < due := (nextAlarm?_some follows).1
          have jumped := marches.wait rest (near_nextAlarm follows)
          obtain ⟨settled, rested⟩ := jumped.settle
          have noticed := marches.noticed
          have reached : due = Clock.instantOf due / Span.nanosecondsPerMillisecond :=
            (Nat.mul_div_cancel due (by decide)).symm
          obtain ⟨followed, still, near⟩ := inductionHypothesis settled rested (by omega)
          exact ⟨⟨followed.timely, followed.unwatched,
            Nat.le_trans (Nat.le_max_left ..) followed.noticed⟩, still, near⟩

theorem Marches.elapse (marches : Marches 0 session) (length : Span) :
    Marches 0 (Turns.elapse length session) := by
  obtain ⟨settled, rest⟩ := marches.settle
  let target := (Turns.clock (Turns.settle session)).now + length.nanoseconds
  have begun : Marches (Turns.settle session).clock.noticed (Turns.settle session) :=
    ⟨settled.timely, settled.unwatched, Nat.le_refl _⟩
  obtain ⟨followed, still, near⟩ := begun.followAlarms target
    (target / Span.nanosecondsPerMillisecond - (Turns.clock (Turns.settle session)).noticed) rest
    (by show _ ≤ (Turns.clock (Turns.settle session)).noticed + _; omega)
  have arrived := (followed.wait still near).settle.1
  exact ⟨arrived.timely, arrived.unwatched, Nat.zero_le _⟩

theorem Marches.perform (marches : Marches 0 session) (step : Step V) :
    Marches 0 (session.perform step) := by
  cases step with
  | elapse length => exact marches.elapse length
  | deeds deeds =>
      have acted : Marches 0 (session.actAll deeds) := by
        unfold actAll
        induction deeds generalizing session with
        | nil => exact marches
        | cons deed rest inductionHypothesis =>
            exact inductionHypothesis (marches.move (.act deed) (by simp))
      exact acted.settle.1

/-- Whatever the users do to a scene without subscribers is a timely run. -/
theorem timely_performAll {settings : Settings} {visiting : VisitingOrder V}
    (created : create? settings [] visiting = some session) (steps : List (Step V)) :
    Timely (session.performAll steps) := by
  have begun : Marches 0 session := ⟨.created created, unwatched_of_create? created, Nat.zero_le _⟩
  suffices marches : Marches 0 (session.performAll steps) from marches.timely
  clear created
  unfold performAll
  induction steps generalizing session with
  | nil => exact begun
  | cons first rest inductionHypothesis => exact inductionHypothesis (begun.perform first)

end Session

end BoundedScene
