import BoundedScene.Proofs.Absorption
import BoundedScene.Proofs.Waiting

/-!
Contract: what is left to wait for in a scene at rest.

Owns:
- `Heeded`: a call that only asks for the end is a `wait`, or a `stop` that was heard;
- `Awaits`, the two reasons that an unfinished call has in a scene at rest;
- `Quiescent`, a scene in which nobody is stranded.

Main statement: `AtRest.quiescent`.

Does not own: that a scene comes to rest.
-/

namespace BoundedScene

/-- Whoever registered and did not go is waiting, unless a signal took it. -/
theorem Reference.waits_or_taken {V : Type} {inputs early late : List (Input V)} {topic : String}
    {id : Nat}
    (split : inputs = early ++ .command { caller := id, command := .subscribe topic } :: late)
    (stays : .departure id ∉ inputs) :
    id ∈ (after inputs).waiting topic ∨ id ∈ (after inputs).taken := by
  have absent : .departure id ∉ early := fun gone => stays (split ▸ List.mem_append_left _ gone)
  cases freed : late.find? (Input.frees topic id) with
  | none =>
      have kept := List.find?_eq_none.mp freed
      exact .inl ((mem_waiting_after _ _ _).mpr
        ⟨early, late, split, absent, fun input member => by simpa using kept input member⟩)
  | some input =>
      -- Up to the first input that could free it, it waited.
      obtain ⟨frees, first, last, rfl, kept⟩ := List.find?_eq_some_iff_append.mp freed
      have waits := (mem_waiting_after _ topic id).mpr
        ⟨early, first, rfl, absent, fun input member => by simpa using kept input member⟩
      cases input with
      | departure caller =>
          obtain rfl : caller = id := by simpa [Input.frees] using frees
          exact absurd (split ▸ by simp) stays
      | command envelope =>
          cases signals : envelope.command with
          | signal name =>
              obtain rfl : name = topic := by simpa [Input.frees, signals] using frees
              exact .inr ((mem_taken_after _ _).mpr
                ⟨_, envelope, last, name, by simp [split], signals, waits⟩)
          | _ => simp [Input.frees, signals] at frees

namespace Session

variable {V : Type} {session before after : Session V} {id : Nat} {call : Call V}

/-! ## Who only asks for the end -/

/-- A call without a command that waits for the result asked for nothing else, or it asked
for a stop and the scene has started to end. -/
def Heeded (session : Session V) : Prop :=
  ∀ (id : Nat) (call : Call V), session.calls[id]? = some call →
    call.stage = .awaitingResult → call.request.command? = none →
      call.request = .wait ∨ call.request = .stop ∧ session.control.ending = true

/-- A step that brings no call to the wait for the result. -/
theorem Heeded.keep (heeded : before.Heeded) (later : Later before after)
    (known : ∀ (id : Nat) (call : Call V), after.calls[id]? = some call →
      call.stage = .awaitingResult → ∃ old : Call V, before.calls[id]? = some old
        ∧ old.stage = .awaitingResult ∧ old.request = call.request) : after.Heeded := by
  intro id call found waits plain
  obtain ⟨old, present, waited, same⟩ := known id call found waits
  rw [← same] at plain ⊢
  exact (heeded id old present waited plain).imp_right (And.imp_right later.ending)

/-- After its turn, a call without a command that waits for the result is one that waited
for it before, or a `wait` or a `stop` in its first turn. -/
theorem CallTurn.heeded {log : List (Happening V)} {changes : List (CallChange V)}
    {mailbox : Mailbox (Envelope V)} (turn : CallTurn before id call log changes mailbox)
    {records : List (Happening V)} (story : Story before id call records)
    (waits : (Call.applyAll id changes call).stage = .awaitingResult)
    (plain : call.request.command? = none) :
    call.stage = .awaitingResult ∨ call.request = .wait
      ∨ call.request = .stop ∧ .stopRequested ∈ log := by
  have sends (waiting : call.stage = .awaitingReply) : False := by
    obtain ⟨command, sends, -⟩ := story.of_awaitingReply waiting
    cases sends.symm.trans plain
  cases turn with
  | rests => exact .inl waits
  | strays => exact .inl waits
  | stops fresh asks turn => exact .inr (.inr ⟨asks, by simp⟩)
  | waits fresh asks turn => exact .inr (.inl asks)
  | aborts => simp [Call.apply] at waits
  | looks => simp [Call.apply] at waits
  | submits opens sends => cases sends.symm.trans plain
  | replied waiting => exact (sends waiting).elim
  | overtaken waiting => exact (sends waiting).elim
  | listens waiting asks =>
      rw [asks] at plain
      cases plain
  | asks waiting => exact .inl waiting

theorem Heeded.turn (heeded : before.Heeded) (chronicle : before.Chronicle)
    {turned : Nat} {turning : Call V} (present : before.calls[turned]? = some turning)
    (later : Later before (before.resumeCall turned)) : (before.resumeCall turned).Heeded := by
  obtain ⟨log, changes, mailbox, turn, growth, -⟩ := before.resumeCall_turnsBy _ _ present
  intro id call found waits plain
  by_cases own : turned = id
  · subst own
    rw [growth.calls, Option.map_eq_some_iff] at found
    obtain ⟨old, earlier, rfl⟩ := found
    obtain rfl : turning = old := Option.some.inj (present.symm.trans earlier)
    rw [Call.applyAll_request] at plain ⊢
    rcases turn.heeded (chronicle.stories _ _ present) waits plain
      with waited | asks | ⟨asks, heard⟩
    · exact (heeded _ _ present waited plain).imp_right (And.imp_right later.ending)
    · exact .inl asks
    · refine .inr ⟨asks, ?_⟩
      rw [growth.control, foldl_steer_ending]
      exact Bool.or_eq_true_iff.mpr (.inr (List.any_eq_true.mpr ⟨_, heard, rfl⟩))
  · obtain ⟨old, earlier, stage, request⟩ :=
      origin_of_unmoved growth.calls (turn.moves_own own) found
    rw [← request] at plain ⊢
    exact (heeded id old earlier (stage.trans waits) plain).imp_right (And.imp_right later.ending)

theorem Heeded.advance (heeded : before.Heeded) (passed : Passed before)
    (step : Advance before after) : after.Heeded := by
  have later := step.later passed.steered
  -- Neither the backend nor the subscribers move a call.
  have quiet {log : List (Happening V)} {changes : List (CallChange V)} {events : List Event}
      {earlier : Session V} (growth : Evolves log changes events earlier after)
      (calls : earlier.calls = before.calls)
      (unmoved : ∀ id, ∀ change ∈ changes, change.moved? ≠ some id) : after.Heeded := by
    refine heeded.keep later fun id call found waits => ?_
    obtain ⟨old, present, stage, request⟩ := origin_of_unmoved growth.calls (unmoved id) found
    exact ⟨old, calls ▸ present, stage.trans waits, request⟩
  cases step with
  | drifts growth => exact quiet growth rfl (by simp)
  | makes request =>
      refine heeded.keep later fun id call found waits => ?_
      obtain ⟨old, present, stage, asks⟩ := origin_of_makeCall found (by simp [waits])
      exact ⟨old, present, stage.trans waits, asks⟩
  | turns present => exact heeded.turn passed.chronicle present later
  | cancels found unfinished =>
      refine heeded.keep later fun id call left waits => ?_
      obtain ⟨old, present, stage, asks⟩ :=
        origin_of_cancel found unfinished left (by simp [waits])
      exact ⟨old, present, stage.trans waits, asks⟩
  | opens fresh => exact quiet before.openUp_evolves rfl (by simp)
  | @processes envelope rest serving unstopped undue taken =>
      obtain ⟨backend, -, growth⟩ := serveOne_evolves serving envelope rest
      exact quiet growth rfl (before.unmoved_serveChanges envelope)
  | ends serving cause => exact quiet cause.evolves rfl before.unmoved_endChanges
  | loses =>
      intro id call found waits
      have finished := isUnfinished_dropTasks found
      simp [Call.isUnfinished, waits] at finished

theorem Passed.heeded (passed : Passed session) : session.Heeded := by
  induction passed with
  | initial initial =>
      intro id call found
      simp [initial.calls] at found
  | advance passed step inductionHypothesis => exact inductionHypothesis.advance passed step

/-! ## At rest -/

/-- What an unfinished call waits for in a scene at rest: the end of the scene, or a signal,
as a waiter of the table that has not been told anything. -/
inductive Awaits (session : Session V) (id : Nat) (call : Call V) : Prop where
  | theEnd (asks : call.request = .wait) (waits : call.stage = .awaitingResult)
  | aSignal {topic : String} {limit : Span} {deadline : Option Nat}
      (asks : call.request = .waitSignal topic limit)
      (waits : call.stage = .awaitingSignal deadline) (silent : call.signal = .pending)
      (listed : id ∈ session.subscriptions.waiters topic)

/-- Nobody is stranded: no command and no sender is left in the mailbox, and a call is
unfinished only while the scene has not ended, for one of the two reasons. -/
structure Quiescent (session : Session V) : Prop where
  queued : session.mailbox.queued = []
  granted : session.mailbox.granted = []
  waiting : session.mailbox.waiting = []
  unfinished : ∀ (id : Nat) (call : Call V), session.calls[id]? = some call →
    call.isUnfinished = true → session.control.outcome = none ∧ session.Awaits id call

/-- A registered waiter that nobody told anything is in the table, as long as the scene has
not started to end. -/
theorem Passed.listed (passed : Passed session) (runs : session.backendRuns = true)
    (found : session.calls[id]? = some call)
    {topic : String} {reply : Reply V} (silent : call.signal = .pending)
    (told : session.recordsOf id = registeredStory id topic reply) :
    id ∈ session.subscriptions.waiters topic := by
  have listening := passed.listening runs topic
  suffices waits : id ∈ session.reference.waiting topic from
    (List.mem_filter.mp (listening ▸ waits)).1
  have registered : .processed { caller := id, command := .subscribe topic, response := .ok reply }
      ∈ session.happenings :=
    (mem_recordsOf rfl).mp (by simp [told, registeredStory, processedStory])
  obtain ⟨early, late, place⟩ := List.append_of_mem registered
  have stays : .departure id ∉ session.inputs := by
    intro gone
    obtain ⟨happening, recorded, departs⟩ := List.mem_filterMap.mp gone
    have own : happening ∈ session.recordsOf id :=
      (mem_recordsOf (subject?_of_input? departs)).mpr recorded
    simp only [told, registeredStory, processedStory, List.cons_append, List.nil_append,
      List.mem_cons, List.not_mem_nil, or_false] at own
    rcases own with rfl | rfl | rfl | rfl <;> cases departs
  have split : session.inputs = inputsOf early
      ++ .command { caller := id, command := .subscribe topic } :: inputsOf late :=
    (congrArg inputsOf place).trans (inputsOf_place rfl)
  refine (Reference.waits_or_taken split stays).resolve_right fun taken => ?_
  cases silent.symm.trans ((passed.accounted.signals id call found).mpr taken)

/-- In a scene at rest nobody is stranded. -/
theorem AtRest.quiescent (rest : session.AtRest) (reachable : Reachable session)
    (present : session.control.lost = false) : session.Quiescent := by
  have attentive := reachable.attentive
  have steered := reachable.passed.steered
  have chronicle := reachable.passed.chronicle
  have backend := rest.backend attentive steered present
  have unsought (id : Nat) : ¬session.Seeks id := rest.unsought attentive steered chronicle present
  have inLine : session.mailbox.granted ++ session.mailbox.waiting = [] :=
    List.eq_nil_iff_forall_not_mem.mpr fun id member =>
      unsought id (attentive.lines.sought id member)
  obtain ⟨granted, waiting⟩ := List.append_eq_nil_iff.mp inLine
  constructor
  case queued => exact backend.elim (·.2.2) fun halted => (chronicle.stopped halted.1).2
  case granted => exact granted
  case waiting => exact waiting
  case unfinished =>
    intro id call found unfinished
    have stuck : ¬session.CanGoOn id call := fun can =>
      rest.2 id (attentive.calls id call found can (by simp))
    -- Who waits for the result waits in vain only while there is none.
    have ongoing (waits : call.stage = .awaitingResult) :
        session.control.ending = false ∧ session.control.outcome = none := by
      rcases backend with ⟨runs, ongoing, -⟩ | ⟨-, -, set⟩
      · exact ⟨ongoing, (steered.running runs).1⟩
      · exact absurd (.ends waits set) stuck
    have story := chronicle.stories id call found
    have concluded {command : Command V} (sends : call.request.command? = some command)
        (kept : call.stage ≠ .dropped) :
        (∃ response, .replied id response ∈ session.recordsOf id)
          ∨ ∃ answer, .answered id answer ∈ session.recordsOf id := by
      refine
        (story.over_at_rest found attentive steered chronicle sends kept present rest).imp ?_ ?_
      · exact fun ⟨response, recorded⟩ => ⟨response, (mem_recordsOf rfl).mpr recorded⟩
      · exact fun ⟨answer, recorded⟩ => ⟨answer, (mem_recordsOf rfl).mpr recorded⟩
    generalize told : session.recordsOf id = records at story concluded
    cases story with
    | fresh => exact absurd (.starts rfl) stuck
    | seeking => exact absurd ⟨_, found, rfl⟩ (unsought id)
    | queued own => exact absurd (concluded own nofun) (by simp)
    | processed => exact absurd (.replies rfl (.inl (by simp))) stuck
    | overtaken own late => exact absurd (concluded own nofun) (by simp)
    | asking plain =>
        obtain ⟨ongoing, unset⟩ := ongoing rfl
        refine ⟨unset, ?_⟩
        rcases reachable.passed.heeded id _ found rfl plain with asks | ⟨-, ending⟩
        · exact .theEnd asks rfl
        · cases ongoing.symm.trans ending
    | @listening topic limit signal reply deadline =>
        have silent : signal = .pending := by
          by_contra heard
          exact stuck (.hears rfl (.inl heard))
        rcases backend with ⟨runs, -⟩ | ⟨-, ending, -⟩
        · have listed := reachable.passed.listed runs found silent told
          exact ⟨(steered.running runs).1, .aSignal rfl rfl silent listed⟩
        · exact absurd (.hears rfl (.inr ending)) stuck
    | deserted =>
        have overtaken : .overtaken id ∈ session.recordsOf id := by simp [told]
        have ending := reachable.passed.patient.overtaken id ((mem_recordsOf rfl).mp overtaken)
        cases (ongoing rfl).1.symm.trans ending
    | _ => cases unfinished

end Session

end BoundedScene
