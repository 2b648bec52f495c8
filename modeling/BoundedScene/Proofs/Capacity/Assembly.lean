import BoundedScene.Proofs.Capacity.Arrival

/-!
Contract: scenes to which their users have just done something.

Owns:
- `Assembled`, a scene that was at rest, or about to start, before its users made and gave up
  some calls;
- that what the users do keeps it assembled as long as the backend runs;
- that an assembled scene goes on, with the callers in line as they were numbered.

The run queue grows at its end only, and the backend is woken only when nobody is left that
could call.  So whoever calls stands behind a backend that was woken before.

Main statements: `Assembled.actAll` and `Assembled.going`.

Does not own: the turns of the tasks.
-/

namespace BoundedScene

section Callers

variable {V : Type} {calls others : List (Call V)} {test : Call V → Bool}

theorem callersAmong_sublist
    (fewer : ∀ id : Nat, others[id]?.any test = true → calls[id]?.any test = true)
    (tasks : List SceneTask) :
    (callersAmong others test tasks).Sublist (callersAmong calls test tasks) := by
  induction tasks with
  | nil => exact .slnil
  | cons task rest inductionHypothesis =>
      cases task with
      | backend => exact inductionHypothesis
      | delivery task => exact inductionHypothesis
      | call id =>
          cases passes : others[id]?.any test with
          | true =>
              rw [callersAmong_pass passes, callersAmong_pass (fewer id passes)]
              exact inductionHypothesis.cons_cons id
          | false =>
              rw [callersAmong_fail passes]
              cases passed : calls[id]?.any test with
              | true =>
                  rw [callersAmong_pass passed]
                  exact inductionHypothesis.cons id
              | false =>
                  rw [callersAmong_fail passed]
                  exact inductionHypothesis

end Callers

namespace Session

variable {V : Type} {session before after left right : Session V}
  {limits : TimeoutKind → Option Span}

/-- A scene in which nothing is under way but the calls that were just made.

- `front`: nobody that wants to enter the mailbox has its turn before the backend;
- `issued`: the callers are in line as they were numbered. -/
structure Assembled (session : Session V) : Prop where
  current : session.clock.isBehind = false
  undue : session.dueDeadline? = none
  early : ∀ (id : Nat) (call : Call V) (due : Nat), session.calls[id]? = some call →
    call.deadline? = some due → session.clock.noticed < due
  once : session.agenda.ready.Nodup
  known : ∀ id : Nat, .call id ∈ session.agenda.ready → id < session.calls.length
  blank : session.mailbox.IsBlank
  unsought : ∀ (id : Nat) (call : Call V), session.calls[id]? = some call →
    call.isSeeker = false
  front : ∀ front back, session.agenda.ready = front ++ .backend :: back →
    session.newcomers front = []
  issued : session.Issued

theorem line_of_blank (blank : session.mailbox.IsBlank) :
    session.line = session.newcomers session.agenda.ready := by
  unfold line
  rw [blank.queued, blank.granted, blank.waiting]
  rfl

theorem dueDeadline?_congr (backend : after.backend = before.backend)
    (clock : after.clock = before.clock) (absolute : after.absolute = before.absolute)
    (inactivity : after.inactivity = before.inactivity) :
    after.dueDeadline? = before.dueDeadline? := by
  unfold dueDeadline?
  rw [backend, clock, absolute, inactivity]

namespace Assembled

/-- A deed that does no more than end some calls, without waking anybody. -/
theorem ends (assembled : before.Assembled) (clock : after.clock = before.clock)
    (due : after.dueDeadline? = before.dueDeadline?)
    (ready : after.agenda.ready = before.agenda.ready)
    (mailbox : after.mailbox = before.mailbox) (ledger : after.ledger = before.ledger)
    (length : after.calls.length = before.calls.length)
    (calls : ∀ (id : Nat) (call : Call V), after.calls[id]? = some call →
      before.calls[id]? = some call ∨ call.isUnfinished = false) : after.Assembled := by
  have fewer (id : Nat) (isNewcomer : after.calls[id]?.any Call.isNewcomer = true) :
      before.calls[id]?.any Call.isNewcomer = true := by
    cases found : after.calls[id]? with
    | none =>
        rw [found] at isNewcomer
        cases isNewcomer
    | some call =>
        rcases calls id call found with same | ceased
        · rw [same, ← found]
          exact isNewcomer
        · rw [found, Option.any_some, (Call.not_newcomer_of_finished ceased).1] at isNewcomer
          cases isNewcomer
  have shorter (tasks : List SceneTask) :
      (after.newcomers tasks).Sublist (before.newcomers tasks) :=
    callersAmong_sublist fewer tasks
  have blank : after.mailbox.IsBlank := mailbox ▸ assembled.blank
  constructor
  case current => rw [clock, assembled.current]
  case undue => rw [due, assembled.undue]
  case early =>
    intro id call instant found waits
    rw [clock]
    rcases calls id call found with same | ceased
    · exact assembled.early id call instant same waits
    · unfold Call.deadline? at waits
      split at waits
      case h_1 deadline stage =>
        unfold Call.isUnfinished at ceased
        rw [stage] at ceased
        cases ceased
      case h_2 => cases waits
  case once => exact ready ▸ assembled.once
  case known =>
    rw [ready, length]
    exact assembled.known
  case blank => exact blank
  case unsought =>
    intro id call found
    rcases calls id call found with same | ceased
    · exact assembled.unsought id call same
    · exact (Call.not_newcomer_of_finished ceased).2
  case front =>
    intro front back split
    have nobody := assembled.front front back (ready ▸ split)
    exact List.sublist_nil.mp (nobody ▸ shorter front)
  case issued =>
    have issued := assembled.issued
    unfold Issued at issued ⊢
    rw [line_of_blank assembled.blank] at issued
    rw [ledger, line_of_blank blank, ready]
    exact issued.sublist ((List.Sublist.refl _).append (shorter _))

/-- The backend is woken when no caller is left. -/
theorem noteHandles (assembled : session.Assembled) : session.noteHandles.Assembled := by
  unfold Session.noteHandles
  split
  case isTrue => exact assembled
  case isFalse unheld =>
    rw [Bool.not_eq_true] at unheld
    have nobody := newcomers_of_unheld unheld
    have clock : (session.wakeAll [.backend]).clock = session.clock :=
      Agenda.clock_wakeAll session.agenda [.backend]
    have due : (session.wakeAll [.backend]).dueDeadline? = session.dueDeadline? :=
      dueDeadline?_congr rfl clock rfl rfl
    have blank : (session.wakeAll [.backend]).mailbox.IsBlank := assembled.blank
    constructor
    case current => rw [clock, assembled.current]
    case undue => rw [due, assembled.undue]
    case early =>
      rw [clock]
      exact assembled.early
    case once => exact Agenda.nodup_wakeAll assembled.once [.backend]
    case known =>
      intro id member
      rcases Agenda.mem_wakeAll.mp member with own | old
      · cases List.mem_singleton.mp own
      · exact assembled.known id old
    case blank => exact assembled.blank
    case unsought => exact assembled.unsought
    case front => exact fun front _ _ => nobody front
    case issued =>
      have issued := assembled.issued
      unfold Issued at issued ⊢
      rw [line_of_blank assembled.blank, nobody] at issued
      rw [line_of_blank blank]
      show (session.ledger.map Processed.caller ++ session.newcomers _).Pairwise _
      rw [nobody]
      exact issued

/-- A call is numbered last and stands last in the run queue. -/
theorem makeCall (assembled : session.Assembled)
    (numbered : ∀ entry ∈ session.ledger, entry.caller < session.calls.length)
    (request : Request V) : (session.makeCall request).Assembled := by
  let number := session.calls.length
  let grown : Session V := { session with calls := session.calls ++ [{ request }] }
  have unready : .call number ∉ session.agenda.ready :=
    fun member => Nat.lt_irrefl _ (assembled.known number member)
  have woken : session.agenda.wake (.call number)
      = { session.agenda with ready := session.agenda.ready ++ [.call number] } :=
    if_neg unready
  have agenda : (session.makeCall request).agenda
      = { session.agenda with ready := session.agenda.ready ++ [.call number] } := woken
  have clock : (session.makeCall request).clock = session.clock :=
    Agenda.clock_wakeAll session.agenda [.call number]
  have ready : (session.makeCall request).agenda.ready
      = session.agenda.ready ++ [.call number] := congrArg Agenda.ready agenda
  have due : (session.makeCall request).dueDeadline? = session.dueDeadline? :=
    dueDeadline?_congr rfl clock rfl rfl
  have blank : (session.makeCall request).mailbox.IsBlank := assembled.blank
  have found {id : Nat} {call : Call V} (present : grown.calls[id]? = some call) :
      session.calls[id]? = some call ∨ call.stage = .fresh := by
    replace present : (session.calls ++ [({ request } : Call V)])[id]? = some call := present
    rw [List.getElem?_append] at present
    split at present
    case isTrue => exact .inl present
    case isFalse =>
      rw [List.mem_singleton.mp (List.mem_of_getElem? present)]
      exact .inr rfl
  have same {tasks : List SceneTask} (among : ∀ task ∈ tasks, task ∈ session.agenda.ready) :
      grown.newcomers tasks = session.newcomers tasks := by
    refine callersAmong_congr fun id member => ?_
    show (session.calls ++ [_])[id]?.any _ = _
    rw [List.getElem?_append_left (assembled.known id (among _ member))]
  constructor
  case current => rw [clock, assembled.current]
  case undue => rw [due, assembled.undue]
  case early =>
    intro id call instant present waits
    rw [clock]
    rcases found present with old | fresh
    · exact assembled.early id call instant old waits
    · unfold Call.deadline? at waits
      rw [fresh] at waits
      cases waits
  case once =>
    rw [ready, List.nodup_append]
    refine ⟨assembled.once, List.nodup_singleton _, fun task member last own same => ?_⟩
    exact unready (List.mem_singleton.mp own ▸ same ▸ member)
  case known =>
    intro id member
    show id < (session.calls ++ [_]).length
    rw [List.length_append, List.length_singleton]
    rw [ready, List.mem_append, List.mem_singleton] at member
    rcases member with old | own
    · exact Nat.lt_succ_of_lt (assembled.known id old)
    · cases own
      exact Nat.lt_succ_self _
  case blank => exact blank
  case unsought =>
    intro id call present
    rcases found present with old | fresh
    · exact assembled.unsought id call old
    · unfold Call.isSeeker
      rw [fresh]
  case front =>
    -- The backend stands where it stood.
    intro front back split
    rw [ready] at split
    obtain ⟨-, ⟨⟩, -⟩ | ⟨others, -, placed⟩ := place_of_concat split
    refine (same fun task member => ?_).trans (assembled.front front others placed)
    rw [placed]
    exact List.mem_append_left _ member
  case issued =>
    have issued := assembled.issued
    unfold Issued at issued ⊢
    rw [line_of_blank assembled.blank] at issued
    have line : (session.makeCall request).line
        = session.newcomers session.agenda.ready ++ grown.newcomers [.call number] := by
      rw [line_of_blank blank, ready, ← same fun _ member => member]
      exact callersAmong_append _ _
    have ledger : (session.makeCall request).ledger = session.ledger := rfl
    have greatest : (session.ledger.map Processed.caller
        ++ session.newcomers session.agenda.ready ++ [number]).Pairwise (· < ·) := by
      refine List.pairwise_append.mpr
        ⟨issued, List.pairwise_singleton _ _, fun earlier before _ own => ?_⟩
      rw [List.mem_singleton.mp own]
      rcases List.mem_append.mp before with processed | waits
      · obtain ⟨entry, member, rfl⟩ := List.mem_map.mp processed
        exact numbered entry member
      · exact assembled.known earlier (mem_callersAmong.mp waits).1
    rw [line, ledger, ← List.append_assoc]
    exact greatest.sublist ((List.Sublist.refl _).append (callersAmong_call number))

/-- A call that is given up leaves its place. -/
theorem cancel (assembled : session.Assembled) (id : Nat) : (session.cancel id).Assembled := by
  unfold Session.cancel
  split
  case h_1 => exact assembled
  case h_2 call found =>
    split
    case isFalse => exact assembled
    case isTrue =>
      let dropped := (session.record (.cancelled id)).setStage id .dropped
      have calls : dropped.calls = session.calls.modify id fun call =>
        { call with stage := .dropped } := rfl
      have happenings : dropped.happenings = session.happenings ++ [.cancelled id] :=
        List.map_append ..
      have given : dropped.Assembled := by
        refine assembled.ends rfl rfl rfl rfl ?_ ?_ fun other call present => ?_
        · rw [ledger_of_happenings session happenings]
          exact List.append_nil _
        · rw [calls, List.length_modify]
        · rw [calls, List.getElem?_modify] at present
          by_cases own : id = other
          · simp only [own, if_true] at present
            obtain ⟨old, -, rfl⟩ := Option.map_eq_some_iff.mp present
            exact .inr rfl
          · simp only [own, if_false] at present
            obtain ⟨old, earlier, rfl⟩ := Option.map_eq_some_iff.mp present
            exact .inl earlier
      rw [leaveMailbox_of_blank given.blank]
      exact given.noteHandles

end Assembled

theorem Passed.numbered (passed : Passed session) :
    ∀ entry ∈ session.ledger, entry.caller < session.calls.length := by
  intro entry member
  have recorded : .processed entry ∈ session.recordsOf entry.caller :=
    (mem_recordsOf rfl).mpr (mem_ledger.mp member)
  obtain ⟨call, found, -⟩ := passed.chronicle.story_of_mem recorded
  exact (List.getElem?_eq_some_iff.mp found).1

/-- What the users do does not bring a backend back. -/
theorem runs_of_act {deed : Deed V} (runs : (session.act deed).backendRuns = true) :
    session.backendRuns = true := by
  by_cases lost : deed = .dropTasks
  · subst lost
    cases session.backendRuns_dropTasks.symm.trans runs
  · have same := (act_idles lost session).backend
    unfold backendRuns at runs ⊢
    rwa [← same]

theorem runs_of_actAll {deeds : List (Deed V)}
    (runs : (session.actAll deeds).backendRuns = true) : session.backendRuns = true := by
  unfold Session.actAll at runs
  induction deeds generalizing session with
  | nil => exact runs
  | cons first rest inductionHypothesis => exact runs_of_act (inductionHypothesis runs)

namespace Assembled

/-- As long as the backend runs, whatever the users do keeps the scene assembled. -/
theorem act (assembled : session.Assembled) (orderly : session.Orderly) {deed : Deed V}
    (runs : (session.act deed).backendRuns = true) : (session.act deed).Assembled := by
  cases deed with
  | call request => exact assembled.makeCall orderly.reachable.passed.numbered request
  | cancel id => exact assembled.cancel id
  | clone => exact assembled.ends rfl rfl rfl rfl rfl rfl fun _ _ => .inl
  | drop handle =>
      have given : ({ session with handles := session.handles.set handle false } :
          Session V).Assembled := assembled.ends rfl rfl rfl rfl rfl rfl fun _ _ => .inl
      exact given.noteHandles
  | release lane count =>
      have still : session.act (.release lane count) = session :=
        orderly.unwatched.still (fun delivery => delivery.permit lane count) rfl
      rw [still]
      exact assembled
  | dropTasks => cases session.backendRuns_dropTasks.symm.trans runs

theorem actAll (assembled : session.Assembled) (orderly : session.Orderly)
    {deeds : List (Deed V)} (runs : (session.actAll deeds).backendRuns = true) :
    (session.actAll deeds).Assembled := by
  unfold Session.actAll at runs ⊢
  induction deeds generalizing session with
  | nil => exact assembled
  | cons first rest inductionHypothesis =>
      have running : (session.act first).backendRuns = true := runs_of_actAll runs
      exact inductionHypothesis (assembled.act orderly running) (orderly.move (.act first)) runs

/-- An assembled scene goes on. -/
theorem going (assembled : session.Assembled) (onCourse : OnCourse limits session)
    (requests : ∀ request ∈ session.requests, request.isDocile = true)
    (runs : session.backendRuns = true) (lines : session.mailbox.Lines session.Seeks) :
    session.Going limits := by
  have nobody : session.seekers session.agenda.ready = [] := by
    refine callersAmong_eq_nil fun id _ => ?_
    cases found : session.calls[id]? with
    | none => rfl
    | some call => exact assembled.unsought id call found
  constructor
  case onCourse => exact onCourse
  case requests => exact requests
  case runs => exact runs
  case current => exact assembled.current
  case undue => exact assembled.undue
  case early => exact assembled.early
  case lines => exact lines
  case inOrder =>
    constructor
    case once => exact assembled.once
    case seekers => rw [nobody, assembled.blank.granted]
    case newcomers => exact fun _ => assembled.blank.granted
    case backend =>
      exact fun front back split => .inr
        ⟨assembled.front front back split, assembled.blank.queued, assembled.blank.waiting⟩

end Assembled

end Session

end BoundedScene
