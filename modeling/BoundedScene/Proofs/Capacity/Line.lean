import BoundedScene.Proofs.Capacity.Lockstep
import BoundedScene.Proofs.Capacity.Prospects

/-!
Contract: the line in which the callers of a scene stand for the backend.

Owns:
- `line`, the callers in the order in which their commands will be processed;
- `InOrder`, which says that the run queue and the mailbox agree with the line;
- that the turn of a call leaves the line as it is, and that a served command was its head.

Main statements: `InOrder.turn` and `InOrder.serveOne`.

Does not own: what processing a command comes to.
-/

namespace BoundedScene

open BoundedScene.Supervision (Control)

/-! ## Callers among tasks -/

section Callers

variable {V : Type} {calls others : List (Call V)} {test narrow : Call V → Bool}
  {tasks rest : List SceneTask} {id : Nat}

/-- The calls among some tasks that satisfy a test, in the order of the tasks. -/
def callersAmong (calls : List (Call V)) (test : Call V → Bool) (tasks : List SceneTask) :
    List Nat :=
  tasks.filterMap fun
    | .call id => if calls[id]?.any test then some id else none
    | _ => none

theorem mem_callersAmong :
    id ∈ callersAmong calls test tasks ↔ .call id ∈ tasks ∧ calls[id]?.any test = true := by
  unfold callersAmong
  rw [List.mem_filterMap]
  constructor
  · rintro ⟨task, member, named⟩
    cases task with
    | call other =>
        dsimp only at named
        split at named
        case isTrue passes =>
          cases named
          exact ⟨member, passes⟩
        case isFalse => cases named
    | backend => cases named
    | delivery task => cases named
  · rintro ⟨member, passes⟩
    exact ⟨.call id, member, if_pos passes⟩

theorem callersAmong_append (tasks rest : List SceneTask) :
    callersAmong calls test (tasks ++ rest)
      = callersAmong calls test tasks ++ callersAmong calls test rest :=
  List.filterMap_append

theorem callersAmong_pass (passes : calls[id]?.any test = true) :
    callersAmong calls test (.call id :: rest) = id :: callersAmong calls test rest :=
  List.filterMap_cons_some (if_pos passes)

theorem callersAmong_fail (fails : calls[id]?.any test = false) :
    callersAmong calls test (.call id :: rest) = callersAmong calls test rest :=
  List.filterMap_cons_none (if_neg (by rw [fails]; exact Bool.false_ne_true))

theorem callersAmong_call (id : Nat) : (callersAmong calls test [.call id]).Sublist [id] := by
  cases passes : calls[id]?.any test with
  | true =>
      rw [callersAmong_pass passes]
      exact .refl _
  | false =>
      rw [callersAmong_fail passes]
      exact List.nil_sublist _

theorem callersAmong_congr
    (same : ∀ id, .call id ∈ tasks → calls[id]?.any test = others[id]?.any test) :
    callersAmong calls test tasks = callersAmong others test tasks := by
  unfold callersAmong
  refine List.filterMap_congr fun task member => ?_
  cases task with
  | call id => dsimp only; rw [same id member]
  | _ => rfl

theorem callersAmong_eq_nil (none : ∀ id, .call id ∈ tasks → calls[id]?.any test = false) :
    callersAmong calls test tasks = [] := by
  apply List.eq_nil_iff_forall_not_mem.mpr
  intro id member
  have found := mem_callersAmong.mp member
  rw [none id found.1] at found
  cases found.2

theorem nodup_callersAmong (distinct : tasks.Nodup) : (callersAmong calls test tasks).Nodup := by
  induction tasks with
  | nil => exact List.nodup_nil
  | cons task later inductionHypothesis =>
      obtain ⟨absent, distinct⟩ := List.nodup_cons.mp distinct
      have tail := inductionHypothesis distinct
      cases task with
      | call id =>
          cases passes : calls[id]?.any test with
          | true =>
              rw [callersAmong_pass passes]
              exact List.nodup_cons.mpr ⟨fun member => absent (mem_callersAmong.mp member).1, tail⟩
          | false =>
              rw [callersAmong_fail passes]
              exact tail
      | backend => exact tail
      | delivery task => exact tail

end Callers

namespace Call

variable {V : Type}

/-- Has not had a turn and wants to enter the mailbox. -/
def isNewcomer (call : Call V) : Bool :=
  match call.stage with
  | .fresh => call.request.command?.isSome
  | _ => false

/-- Waits for a slot. -/
def isSeeker (call : Call V) : Bool :=
  match call.stage with
  | .seekingSlot => true
  | _ => false

theorem isNewcomer_congr {call other : Call V} (stage : other.stage = call.stage)
    (request : other.request = call.request) : other.isNewcomer = call.isNewcomer := by
  unfold isNewcomer
  rw [stage, request]

theorem isSeeker_congr {call other : Call V} (stage : other.stage = call.stage) :
    other.isSeeker = call.isSeeker := by
  unfold isSeeker
  rw [stage]

/-- A call that is over does not want to enter any more. -/
theorem not_newcomer_of_finished {call : Call V} (ceased : call.isUnfinished = false) :
    call.isNewcomer = false ∧ call.isSeeker = false := by
  unfold isUnfinished at ceased
  unfold isNewcomer isSeeker
  split at ceased
  case h_1 stage => simp only [stage, and_self]
  case h_2 stage => simp only [stage, and_self]
  case h_3 => cases ceased

end Call

namespace Session

variable {V : Type} {session before middle after : Session V} {id : Nat} {call : Call V}

/-! ## The line -/

/-- The tasks that are about to enter the mailbox for the first time. -/
def newcomers (session : Session V) (tasks : List SceneTask) : List Nat :=
  callersAmong session.calls Call.isNewcomer tasks

/-- The tasks that wait for a slot. -/
def seekers (session : Session V) (tasks : List SceneTask) : List Nat :=
  callersAmong session.calls Call.isSeeker tasks

/-- The callers in the order in which their commands will be processed: those whose command
is in the mailbox, those with a slot granted, those in line for one, and the newcomers. -/
def line (session : Session V) : List Nat :=
  session.mailbox.queued.map Envelope.caller ++ session.mailbox.granted
    ++ session.mailbox.waiting ++ session.newcomers session.agenda.ready

/-- The run queue agrees with the line.

- `seekers`: who has a slot granted will have its turn in that order;
- `newcomers`: nobody new has a turn before those;
- `backend`: nor before the backend has emptied the mailbox. -/
structure InOrder (session : Session V) : Prop where
  once : session.agenda.ready.Nodup
  seekers : session.seekers session.agenda.ready = session.mailbox.granted
  newcomers : session.newcomers session.agenda.ready ≠ [] → session.mailbox.granted = []
  backend : ∀ front back, session.agenda.ready = front ++ .backend :: back →
    session.newcomers back = []
      ∨ session.newcomers front = [] ∧ session.mailbox.queued = [] ∧ session.mailbox.waiting = []

theorem seeks_iff : session.Seeks id ↔ session.calls[id]?.any Call.isSeeker = true := by
  unfold Seeks
  cases found : session.calls[id]? with
  | none => simp
  | some call =>
      rw [Option.any_some]
      unfold Call.isSeeker
      constructor
      · rintro ⟨_, ⟨⟩, seeks⟩
        rw [seeks]
      · intro passes
        refine ⟨call, rfl, ?_⟩
        split at passes
        case h_1 seeks => exact seeks
        case h_2 => cases passes

theorem not_newcomer_of_seeks (seeks : session.Seeks id) :
    session.calls[id]?.any Call.isNewcomer = false := by
  obtain ⟨call, found, seeks⟩ := seeks
  rw [found, Option.any_some]
  unfold Call.isNewcomer
  rw [seeks]

/-- No task is woken twice, so at most the backend stands behind the others. -/
theorem Rouses.ready_of_backend (rouses : Rouses (· = .backend) before after) :
    after.agenda.ready = before.agenda.ready
      ∨ .backend ∉ before.agenda.ready
        ∧ after.agenda.ready = before.agenda.ready ++ [.backend] := by
  obtain ⟨woken, backends, ready⟩ := rouses
  rw [ready]
  generalize before.agenda = agenda
  clear ready
  -- Once the backend is ready, nothing happens any more.
  have still {agenda : Agenda SceneTask} (present : .backend ∈ agenda.ready)
      {woken : List SceneTask} (backends : ∀ task ∈ woken, task = .backend) :
      agenda.wakeAll woken = agenda := by
    induction woken with
    | nil => rfl
    | cons first rest inductionHypothesis =>
        obtain rfl := backends first (List.mem_cons_self ..)
        have first : agenda.wake .backend = agenda := if_pos present
        unfold Agenda.wakeAll
        rw [List.foldl_cons, first]
        exact inductionHypothesis fun task member => backends task (List.mem_cons_of_mem _ member)
  by_cases present : .backend ∈ agenda.ready
  · rw [still present backends]
    exact .inl rfl
  · cases woken with
    | nil => exact .inl rfl
    | cons first rest =>
        obtain rfl := backends first (List.mem_cons_self ..)
        have woken : agenda.wake .backend
            = { agenda with ready := agenda.ready ++ [.backend] } := if_neg present
        refine .inr ⟨present, ?_⟩
        show ((agenda.wake .backend).wakeAll rest).ready = _
        rw [woken, still (List.mem_append_right _ (List.mem_singleton_self _))
          fun task member => backends task (List.mem_cons_of_mem _ member)]

/-- Where a task stands in a run queue to which one was added. -/
theorem place_of_concat {tasks front back : List SceneTask} {task last : SceneTask}
    (split : tasks ++ [last] = front ++ task :: back) :
    back = [] ∧ task = last ∧ tasks = front
      ∨ ∃ others, back = others ++ [last] ∧ tasks = front ++ task :: others := by
  rcases List.eq_nil_or_concat back with rfl | ⟨others, final, rfl⟩
  · obtain ⟨same, own⟩ := List.append_inj' split rfl
    cases own
    exact .inl ⟨rfl, rfl, same⟩
  · rw [List.concat_eq_append, ← List.cons_append, ← List.append_assoc] at split
    obtain ⟨same, own⟩ := List.append_inj' split rfl
    cases own
    exact .inr ⟨others, List.concat_eq_append, same⟩

/-! ## The turn of a call -/

/-- The scene as the first ready task begins its turn. -/
def handOver (session : Session V) (later : List SceneTask) : Session V :=
  { session with agenda := { session.agenda with ready := later } }

section Turn

variable {later : List SceneTask}

/-- Where the backend stands when the first task has had its turn: it was ready before. -/
theorem InOrder.backend_of_ready (inOrder : session.InOrder)
    (ready : session.agenda.ready = .call id :: later) {front back : List SceneTask}
    (split : later = front ++ .backend :: back)
    (calm : session.newcomers [.call id] = [] → session.newcomers later = []
      ∨ after.mailbox.queued = session.mailbox.queued
        ∧ after.mailbox.waiting = session.mailbox.waiting) :
    session.newcomers back = []
      ∨ session.newcomers front = [] ∧ after.mailbox.queued = [] ∧ after.mailbox.waiting = [] := by
  have placed : session.agenda.ready = (.call id :: front) ++ .backend :: back := by
    rw [ready, split]
    rfl
  rcases inOrder.backend _ back placed with none | ⟨none, queued, waiting⟩
  · exact .inl none
  · have first : session.newcomers [.call id] = [] ∧ session.newcomers front = [] :=
      List.append_eq_nil_iff.mp ((callersAmong_append [.call id] front).symm.trans none)
    rcases calm first.1 with nobody | ⟨sameQueued, sameWaiting⟩
    · have among : session.newcomers later
          = session.newcomers (front ++ [.backend]) ++ session.newcomers back := by
        unfold Session.newcomers
        rw [← callersAmong_append, split, List.append_assoc]
        rfl
      rw [among] at nobody
      exact .inl (List.append_eq_nil_iff.mp nobody).2
    · exact .inr ⟨first.2, sameQueued.trans queued, sameWaiting.trans waiting⟩

/-- The first task has had its turn, in which nobody but perhaps the backend was woken. -/
theorem InOrder.pass (inOrder : session.InOrder) (ready : session.agenda.ready = .call id :: later)
    (elsewhere : ∀ other, id ≠ other → after.calls[other]? = session.calls[other]?)
    (woken : after.agenda.ready = later
      ∨ .backend ∉ later ∧ after.agenda.ready = later ++ [.backend])
    (granted : after.mailbox.granted = session.seekers later)
    (nobody : session.newcomers later ≠ [] → session.seekers later = [])
    (calm : session.newcomers [.call id] = [] → session.newcomers later = []
      ∨ after.mailbox.queued = session.mailbox.queued
        ∧ after.mailbox.waiting = session.mailbox.waiting) :
    after.InOrder ∧ after.newcomers after.agenda.ready = session.newcomers later := by
  have once := inOrder.once
  rw [ready] at once
  obtain ⟨absent, distinct⟩ := List.nodup_cons.mp once
  have known {test : Call V → Bool} {tasks : List SceneTask}
      (among : ∀ task ∈ tasks, task ∈ later) :
      callersAmong after.calls test tasks = callersAmong session.calls test tasks := by
    refine callersAmong_congr fun other member => ?_
    rw [elsewhere other fun own => absent (own ▸ among _ member)]
  have same {test : Call V → Bool} :
      callersAmong after.calls test after.agenda.ready = callersAmong session.calls test later := by
    rcases woken with still | ⟨-, behind⟩
    · rw [still, known fun _ member => member]
    · rw [behind, callersAmong_append, known fun _ member => member]
      exact List.append_nil _
  refine ⟨⟨?_, ?_, ?_, ?_⟩, same⟩
  · rcases woken with still | ⟨unready, behind⟩
    · rwa [still]
    · rw [behind, List.nodup_append]
      refine ⟨distinct, List.nodup_singleton _, ?_⟩
      intro task member last own same
      exact unready (List.mem_singleton.mp own ▸ same ▸ member)
  · rw [granted]
    exact same
  · intro some
    rw [granted]
    exact nobody fun none => some (same.trans none)
  · intro front back split
    rcases woken with still | ⟨unready, behind⟩
    · rw [still] at split
      have inFront : ∀ task ∈ front, task ∈ later := fun task member => by
        rw [split]
        exact List.mem_append_left _ member
      have inBack : ∀ task ∈ back, task ∈ later := fun task member => by
        rw [split]
        exact List.mem_append_right _ (List.mem_cons_of_mem _ member)
      have stands := inOrder.backend_of_ready ready split calm
      unfold Session.newcomers at stands ⊢
      rwa [known inFront, known inBack]
    · -- The backend was not ready, so it stands behind everybody.
      rw [behind] at split
      rcases place_of_concat split with ⟨rfl, -, -⟩ | ⟨others, -, place⟩
      · exact .inl rfl
      · exact absurd (place ▸ List.mem_append_right _ (List.mem_cons_self ..)) unready

/-- What a call does that wants to enter an open mailbox. -/
theorem CallTurn.entrance {log : List (Happening V)} {changes : List (CallChange V)}
    {mailbox : Mailbox (Envelope V)} (turn : CallTurn session id call log changes mailbox)
    {records : List (Happening V)} (story : Story session id call records)
    (ongoing : session.control.ending = false) (unclosed : session.mailbox.closed = false)
    (demands : call.submits = true) :
    ∃ command, call.request.command? = some command
      ∧ (session.mailbox.admits id = true
          ∧ mailbox = session.mailbox.enter id { caller := id, command }
        ∨ session.mailbox.admits id = false ∧ mailbox = session.mailbox.await id) := by
  unfold Call.submits at demands
  cases turn with
  | @submits opening log stage command mailbox opens sends turn =>
      refine ⟨command, sends, ?_⟩
      cases turn with
      | refused barred =>
          rw [ongoing, unclosed] at barred
          rcases barred with ending | closed
          · cases ending
          · cases closed
      | enters ongoing unclosed admitted => exact .inl ⟨admitted, rfl⟩
      | linesUp ongoing unclosed full => exact .inr ⟨full, rfl⟩
  | rests resting =>
      unfold Call.isUnfinished Call.awaitsReply at resting
      split at demands <;> simp_all
  | strays stray =>
      rcases stray with ⟨seeks, plain⟩ | ⟨deadline, waits, -⟩
      · cases story with
        | seeking sends => cases plain.symm.trans sends
        | _ => cases seeks
      · rw [waits] at demands
        cases demands
  | stops fresh asks => rw [fresh, asks] at demands; cases demands
  | waits fresh asks => rw [fresh, asks] at demands; cases demands
  | aborts fresh asks => rw [fresh, asks] at demands; cases demands
  | looks fresh asks => rw [fresh, asks] at demands; cases demands
  | replied waiting => rw [waiting] at demands; cases demands
  | overtaken waiting => rw [waiting] at demands; cases demands
  | listens waiting => rw [waiting] at demands; cases demands
  | asks waiting => rw [waiting] at demands; cases demands

/-- The turn of a call that does not want to enter the mailbox. -/
theorem InOrder.idle (inOrder : session.InOrder) (ready : session.agenda.ready = .call id :: later)
    (elsewhere : ∀ other, id ≠ other → after.calls[other]? = session.calls[other]?)
    (woken : after.agenda.ready = later
      ∨ .backend ∉ later ∧ after.agenda.ready = later ++ [.backend])
    (idle : session.calls[id]?.any Call.submits = false)
    (mailbox : after.mailbox = session.mailbox) : after.InOrder ∧ after.line = session.line := by
  have apart : session.calls[id]?.any Call.isNewcomer = false
      ∧ session.calls[id]?.any Call.isSeeker = false := by
    cases found : session.calls[id]? with
    | none => exact ⟨rfl, rfl⟩
    | some call =>
        rw [found, Option.any_some] at idle
        unfold Call.submits at idle
        rw [Option.any_some, Option.any_some]
        unfold Call.isNewcomer Call.isSeeker
        split at idle <;> simp_all
  have newcomers : session.newcomers session.agenda.ready = session.newcomers later := by
    rw [ready]
    exact callersAmong_fail apart.1
  have seekers : session.seekers session.agenda.ready = session.seekers later := by
    rw [ready]
    exact callersAmong_fail apart.2
  have granted := seekers.symm.trans inOrder.seekers
  obtain ⟨next, same⟩ := inOrder.pass ready elsewhere woken (mailbox ▸ granted.symm)
    (fun some => granted.trans (inOrder.newcomers (newcomers.symm ▸ some)))
    fun _ => .inr ⟨by rw [mailbox], by rw [mailbox]⟩
  refine ⟨next, ?_⟩
  unfold line
  rw [same, mailbox, newcomers]

/-- A newcomer has its turn. -/
theorem InOrder.arrive (inOrder : session.InOrder)
    (ready : session.agenda.ready = .call id :: later)
    (elsewhere : ∀ other, id ≠ other → after.calls[other]? = session.calls[other]?)
    (woken : after.agenda.ready = later
      ∨ .backend ∉ later ∧ after.agenda.ready = later ++ [.backend])
    (lines : session.mailbox.Lines session.Seeks)
    (fresh : session.calls[id]?.any Call.isNewcomer = true) {command : Command V}
    (entrance : session.mailbox.admits id = true
        ∧ after.mailbox = session.mailbox.enter id { caller := id, command }
      ∨ session.mailbox.admits id = false ∧ after.mailbox = session.mailbox.await id) :
    after.InOrder ∧ after.line = session.line := by
  have newcomers : session.newcomers session.agenda.ready = id :: session.newcomers later := by
    rw [ready]
    exact callersAmong_pass fresh
  have unsought : ¬session.Seeks id := fun seeks => by
    rw [not_newcomer_of_seeks seeks] at fresh
    cases fresh
  have seekers : session.seekers session.agenda.ready = session.seekers later := by
    rw [ready]
    exact callersAmong_fail (Bool.eq_false_iff.mpr (unsought ∘ seeks_iff.mpr))
  have ungranted : session.mailbox.granted = [] := inOrder.newcomers (by rw [newcomers]; simp)
  have none : session.seekers later = [] := (seekers.symm.trans inOrder.seekers).trans ungranted
  have first : session.newcomers [.call id] ≠ [] := by
    have alone : session.newcomers [.call id] = [id] := callersAmong_pass fresh
    rw [alone]
    simp
  have outside : id ∉ session.mailbox.waiting := fun waits =>
    unsought (lines.sought id (List.mem_append_right _ waits))
  rcases entrance with ⟨admitted, mailbox⟩ | ⟨-, mailbox⟩
  · have alone : session.mailbox.waiting = [] := by
      by_contra waiting
      have full := lines.full waiting
      simp [Mailbox.admits, ungranted, full] at admitted
    obtain ⟨next, same⟩ := inOrder.pass ready elsewhere woken
      (by rw [mailbox, none]; simp [Mailbox.enter, ungranted]) (fun _ => none)
      fun nobody => absurd nobody first
    refine ⟨next, ?_⟩
    unfold line
    rw [same, mailbox, newcomers, ungranted, alone]
    simp [Mailbox.enter, ungranted, alone]
  · have lined : session.mailbox.await id
        = { session.mailbox with waiting := session.mailbox.waiting ++ [id] } := if_neg outside
    rw [lined] at mailbox
    obtain ⟨next, same⟩ := inOrder.pass ready elsewhere woken
      (by rw [mailbox, none]; exact ungranted) (fun _ => none) fun nobody => absurd nobody first
    refine ⟨next, ?_⟩
    unfold line
    rw [same, mailbox, newcomers]
    simp

/-- A caller has its turn to which a slot was granted. -/
theorem InOrder.occupy (inOrder : session.InOrder)
    (ready : session.agenda.ready = .call id :: later)
    (elsewhere : ∀ other, id ≠ other → after.calls[other]? = session.calls[other]?)
    (woken : after.agenda.ready = later
      ∨ .backend ∉ later ∧ after.agenda.ready = later ++ [.backend])
    (seeks : session.Seeks id) {command : Command V}
    (entrance : session.mailbox.admits id = true
        ∧ after.mailbox = session.mailbox.enter id { caller := id, command }
      ∨ session.mailbox.admits id = false ∧ after.mailbox = session.mailbox.await id) :
    after.InOrder ∧ after.line = session.line := by
  have newcomers : session.newcomers session.agenda.ready = session.newcomers later := by
    rw [ready]
    exact callersAmong_fail (not_newcomer_of_seeks seeks)
  have seekers : session.seekers session.agenda.ready = id :: session.seekers later := by
    rw [ready]
    exact callersAmong_pass (seeks_iff.mp seeks)
  have granted : session.mailbox.granted = id :: session.seekers later :=
    inOrder.seekers.symm.trans seekers
  have nobody : session.newcomers later = [] := by
    by_contra some
    have ungranted := inOrder.newcomers (newcomers.symm ▸ some)
    rw [granted] at ungranted
    cases ungranted
  rcases entrance with ⟨-, mailbox⟩ | ⟨full, -⟩
  · obtain ⟨next, same⟩ := inOrder.pass ready elsewhere woken
      (by rw [mailbox]; simp [Mailbox.enter, granted]) (absurd nobody) fun _ => .inl nobody
    refine ⟨next, ?_⟩
    unfold line
    rw [same, mailbox, newcomers, nobody]
    simp [Mailbox.enter, granted]
  · simp [Mailbox.admits, granted] at full

/-- The turn of a call leaves the line as it is. -/
theorem InOrder.turn (inOrder : session.InOrder) (ready : session.agenda.ready = .call id :: later)
    (lines : session.mailbox.Lines session.Seeks) (passed : Passed (session.handOver later))
    (ongoing : session.control.ending = false) (unclosed : session.mailbox.closed = false)
    (rouses : Rouses (· = .backend) (session.handOver later)
      ((session.handOver later).resumeCall id)) :
    ((session.handOver later).resumeCall id).InOrder
      ∧ ((session.handOver later).resumeCall id).line = session.line := by
  have woken := rouses.ready_of_backend
  cases found : session.calls[id]? with
  | none =>
      have still : (session.handOver later).resumeCall id = session.handOver later := by
        unfold resumeCall
        rw [show (session.handOver later).calls[id]? = none from found]
      rw [still] at woken ⊢
      exact inOrder.idle ready (fun _ _ => rfl) woken (by rw [found]; rfl) rfl
  | some call =>
      obtain ⟨log, changes, mailbox, turn, growth, -⟩ :=
        (session.handOver later).resumeCall_turnsBy id call found
      have elsewhere (other : Nat) (different : id ≠ other) :
          ((session.handOver later).resumeCall id).calls[other]? = session.calls[other]? := by
        rw [growth.calls]
        show session.calls[other]?.map _ = _
        cases session.calls[other]? with
        | none => rfl
        | some old => exact congrArg some (turn.elsewhere different old)
      cases demands : call.submits with
      | false =>
          have mailbox := growth.mailbox.trans (turn.undemanding demands).2
          exact inOrder.idle ready elsewhere woken (by rw [found]; exact demands) mailbox
      | true =>
          have story := passed.chronicle.stories id call found
          obtain ⟨command, -, entrance⟩ := turn.entrance story ongoing unclosed demands
          rw [← show _ = mailbox from growth.mailbox] at entrance
          unfold Call.submits at demands
          split at demands
          case h_1 fresh =>
            refine inOrder.arrive ready elsewhere woken lines ?_ entrance
            rw [found, Option.any_some]
            unfold Call.isNewcomer
            rwa [fresh]
          case h_2 seeks => exact inOrder.occupy ready elsewhere woken ⟨call, found, seeks⟩ entrance
          case h_3 => cases demands

end Turn

/-! ## The turn of the backend -/

/-- Nobody has a turn before the backend that would leave something in the mailbox for it. -/
theorem InOrder.handOver {later : List SceneTask} (inOrder : session.InOrder)
    (ready : session.agenda.ready = .backend :: later) :
    (session.handOver later).InOrder ∧ (session.handOver later).line = session.line
      ∧ .backend ∉ later ∧ (session.newcomers later = [] ∨ session.mailbox.queued = []) := by
  have once := inOrder.once
  rw [ready] at once
  obtain ⟨absent, distinct⟩ := List.nodup_cons.mp once
  have newcomers : session.newcomers session.agenda.ready = session.newcomers later := by
    rw [ready]
    rfl
  have seekers : session.seekers session.agenda.ready = session.seekers later := by
    rw [ready]
    rfl
  refine ⟨⟨distinct, ?_, ?_, ?_⟩, ?_, absent, ?_⟩
  · exact seekers.symm.trans inOrder.seekers
  · exact fun some => inOrder.newcomers (newcomers.symm ▸ some)
  · intro front back split
    replace split : later = front ++ .backend :: back := split
    exact absurd (split ▸ List.mem_append_right _ (List.mem_cons_self ..)) absent
  · unfold line
    rw [newcomers]
    rfl
  · exact (inOrder.backend [] later ready).imp_right fun idle => idle.2.1

end Session

end BoundedScene
