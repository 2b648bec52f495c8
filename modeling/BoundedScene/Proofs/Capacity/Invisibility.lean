import BoundedScene.Proofs.Capacity.Repose

/-!
Contract: the capacity of the mailbox does not show.

Owns:
- `Matched`, twins between two steps of their users, which a brisk step leads to such twins;
- what scenes have in common that differ in the capacity of their mailboxes.

Between two steps nobody is in line, so the scenes are twins.  While they settle after a step
their callers line up differently, and they are no more than akin.

Main statement: `capacity_never_shows`.

Does not own: the small steps of a scene that settles.
-/

namespace BoundedScene

namespace Session

variable {V : Type} {session left right : Session V} {limits : TimeoutKind → Option Span}

/-! ## The same step of twins -/

/-- Twins between two steps of their users. -/
structure Matched (limits : TimeoutKind → Option Span) (left right : Session V) : Prop
    extends Twins True left right where
  leftPoised : left.Poised limits
  rightPoised : right.Poised limits

namespace Matched

theorem unattended (matched : Matched limits left right) : Unattended left right :=
  { matched.toTwins with
    undemanding := matched.leftPoised.undemanding
    leftOrderly := matched.leftPoised.orderly
    rightOrderly := matched.rightPoised.orderly }

/-- Whatever the users do at once, the scenes come to rest as twins. -/
theorem deeds (matched : Matched limits left right) {deeds : List (Deed V)}
    (docile : deeds.all Deed.isDocile = true) (brisk : (left.perform (.deeds deeds)).Brisk) :
    Twins True (left.perform (.deeds deeds)) (right.perform (.deeds deeds))
      ∧ (left.perform (.deeds deeds)).InIssueOrder := by
  have twins : Twins True (left.actAll deeds) (right.actAll deeds) := matched.toTwins.actAll deeds
  have leftOrderly := (leads_actAll left deeds).orderly matched.leftPoised.orderly
  have rightOrderly := (leads_actAll right deeds).orderly matched.rightPoised.orderly
  cases runs : (left.actAll deeds).backendRuns with
  | false =>
      have closed := (leftOrderly.reachable.passed.chronicle.stopped runs).1
      have undemanding : (left.actAll deeds).Undemanding := .inl closed
      have unattended : Unattended (left.actAll deeds) (right.actAll deeds) :=
        { twins with undemanding, leftOrderly, rightOrderly }
      have dormant := (keeps_dormant (left.actAll deeds).ledger).settle
        ⟨twins.leftBlank, undemanding, rfl⟩
      have ledger : (left.perform (.deeds deeds)).ledger = left.ledger :=
        dormant.ledger.trans (ledger_actAll deeds left)
      refine ⟨unattended.settle.toTwins, ?_⟩
      unfold InIssueOrder
      rw [ledger]
      exact matched.leftPoised.issued
  | true =>
      have rightRuns : (right.actAll deeds).backendRuns = true := by
        unfold backendRuns at runs ⊢
        rwa [← twins.backend]
      have leftAssembled := (matched.leftPoised.assembled matched.leftBlank
        (runs_of_actAll runs)).actAll matched.leftPoised.orderly runs
      have rightAssembled := (matched.rightPoised.assembled matched.rightBlank
        (runs_of_actAll rightRuns)).actAll matched.rightPoised.orderly rightRuns
      have leftGoing := leftAssembled.going (matched.leftPoised.alert.actAll deeds).onCourse
        (docile_actAll docile matched.leftPoised.requests) runs
        leftOrderly.reachable.attentive.lines
      have rightGoing := rightAssembled.going (matched.rightPoised.alert.actAll deeds).onCourse
        (docile_actAll docile matched.rightPoised.requests) rightRuns
        rightOrderly.reachable.attentive.lines
      exact twins.akin.run leftOrderly rightOrderly leftGoing rightGoing leftAssembled.issued
        leftOrderly.settles rightOrderly.settles brisk

/-- While time passes, nobody has anything processed. -/
theorem elapse (matched : Matched limits left right) (length : Span) :
    Twins True (left.perform (.elapse length)) (right.perform (.elapse length))
      ∧ (left.perform (.elapse length)).InIssueOrder := by
  have dormant := (keeps_dormant left.ledger).elapse length
    ⟨matched.leftBlank, matched.leftPoised.undemanding, rfl⟩
  have ledger : (left.perform (.elapse length)).ledger = left.ledger := dormant.ledger
  refine ⟨(matched.unattended.elapse length).toTwins, ?_⟩
  unfold InIssueOrder
  rw [ledger]
  exact matched.leftPoised.issued

theorem perform (matched : Matched limits left right) {step : Step V}
    (docile : step.isDocile = true) (brisk : (left.perform step).Brisk) :
    Matched limits (left.perform step) (right.perform step) := by
  have stepped : Twins True (left.perform step) (right.perform step)
      ∧ (left.perform step).InIssueOrder := by
    cases step with
    | deeds deeds => exact matched.deeds docile brisk
    | elapse length => exact matched.elapse length
  obtain ⟨twins, issued⟩ := stepped
  have same : (right.perform step).InIssueOrder := by
    unfold InIssueOrder at issued ⊢
    rwa [← twins.toKindred.ledger]
  exact
    { twins with
      leftPoised := matched.leftPoised.perform docile issued
      rightPoised := matched.rightPoised.perform docile same }

/-- A brisk run leads from twins to twins. -/
theorem performAll (matched : Matched limits left right) {steps : List (Step V)}
    (docile : ∀ step ∈ steps, step.isDocile = true) (brisk : (left.performAll steps).Brisk) :
    Matched limits (left.performAll steps) (right.performAll steps) := by
  induction steps generalizing left right with
  | nil => exact matched
  | cons first rest inductionHypothesis =>
      obtain ⟨own, later⟩ := List.forall_mem_cons.mp docile
      have within : (left.perform first).happenings
          <+: ((left.perform first).performAll rest).happenings := by
        obtain ⟨schedule, leads⟩ := leads_performAll rest (left.perform first)
        rw [leads]
        exact Advances.happenings (moves_advances _ schedule)
      have stepped := matched.perform own (Brisk.of_prefix brisk within)
      exact inductionHypothesis stepped later brisk

end Matched

/-! ## Scenes built alike -/

section Creation

variable {settings : Settings} {profiles : List Profile} {visiting : VisitingOrder V}

theorem unbegun_of_create? (created : create? settings [] visiting = some session) :
    session.Unbegun := by
  unfold create? at created
  split at created
  case isFalse => cases created
  case isTrue =>
    obtain ⟨feed, -, rfl⟩ := Option.map_eq_some_iff.mp created
    exact ⟨rfl, rfl, rfl, rfl⟩

theorem poised_of_create? (created : create? settings [] visiting = some session) :
    session.Poised settings.limits := by
  have initial := isInitial_of_create? created
  constructor
  case orderly => exact ⟨.created created, unwatched_of_create? created⟩
  case alert => exact alert_of_create? created
  case requests =>
    unfold requests
    rw [initial.calls]
    exact List.forall_mem_nil _
  case issued =>
    unfold InIssueOrder ledger happenings
    rw [initial.journal]
    exact .nil
  case pause => exact .inr (unbegun_of_create? created)

/-- Scenes without subscribers that are built alike but for the capacity of their mailboxes
are twins. -/
theorem matched_of_create? {leftCapacity rightCapacity : Nat}
    (leftCreated : create? { settings with commandCapacity := leftCapacity } [] visiting
      = some left)
    (rightCreated : create? { settings with commandCapacity := rightCapacity } [] visiting
      = some right) : Matched settings.limits left right := by
  have poised {capacity : Nat} {session : Session V}
      (created : create? { settings with commandCapacity := capacity } [] visiting = some session) :
      session.Poised settings.limits := by
    have same : { settings with commandCapacity := capacity }.limits = settings.limits := by
      funext kind
      cases kind <;> rfl
    exact same ▸ poised_of_create? created
  have leftPoised := poised leftCreated
  have rightPoised := poised rightCreated
  unfold create? at leftCreated rightCreated
  split at leftCreated
  case isFalse => cases leftCreated
  case isTrue =>
    split at rightCreated
    case isFalse => cases rightCreated
    case isTrue =>
      obtain ⟨leftFeed, leftFed, rfl⟩ := Option.map_eq_some_iff.mp leftCreated
      obtain ⟨rightFeed, rightFed, rfl⟩ := Option.map_eq_some_iff.mp rightCreated
      obtain rfl : leftFeed = rightFeed := Option.some.inj (leftFed.symm.trans rightFed)
      exact
        { Kindred.refl _ with
          calls := rfl
          ready := fun _ => rfl
          leftBlank := ⟨rfl, rfl, rfl⟩
          rightBlank := ⟨rfl, rfl, rfl⟩
          leftPoised
          rightPoised }

/-- A run of a scene is a run of its bare self. -/
theorem bare_performAll_of_create? (created : create? settings profiles visiting = some session)
    {steps : List (Step V)} (settles : session.SettlesThroughout steps) :
    (session.performAll steps).bare = session.bare.performAll steps := by
  have alone := bare_of_create? created
  have orderly : session.bare.Orderly := ⟨.created alone, unwatched_of_create? alone⟩
  have performed : (session.bare.performAll steps).Unwatched :=
    ((leads_performAll steps session.bare).orderly orderly).unwatched
  refine Eq.trans ?_ performed
  exact bare_performAll orderly.unwatched.symm rfl settles (orderly.settlesThroughout steps)

end Creation

/-! ## The main statement -/

/-- What two scenes show in which the same commands are processed.

- `calls`: the calls made, with what they were answered and in which millisecond;
- `ledger`, `issued`: the commands processed, in the order in which they were issued;
- `records`: what the backends did, among it the cleanups, and at which instants;
- `events`: the events published, without the reports about subscribers. -/
structure Indistinct (left right : Session V) : Prop where
  calls : left.calls = right.calls
  ledger : left.ledger = right.ledger
  issued : left.InIssueOrder
  records : left.backendRecords = right.backendRecords
  phase : left.phase = right.phase
  clock : left.clock = right.clock
  events : left.delivery.sceneEvents = right.delivery.sceneEvents

/-- The capacity of the mailbox never shows: two scenes that are built alike but for that
capacity, and used alike without a stop and an abort, process the same commands, in the order
in which they were issued, and give the same answers in the same milliseconds, the same
phases and, without the reports about subscribers, the same events.  Both have to come to rest
whenever they are settled, and no cleanup may let time pass before the scene starts to end. -/
theorem capacity_never_shows {settings : Settings} {profiles : List Profile}
    {visiting : VisitingOrder V} {leftCapacity rightCapacity : Nat}
    (leftCreated : create? { settings with commandCapacity := leftCapacity } profiles visiting
      = some left)
    (rightCreated : create? { settings with commandCapacity := rightCapacity } profiles visiting
      = some right)
    {steps : List (Step V)} (docile : ∀ step ∈ steps, step.isDocile = true)
    (leftSettles : left.SettlesThroughout steps) (rightSettles : right.SettlesThroughout steps)
    (brisk : (left.performAll steps).Brisk) :
    Indistinct (left.performAll steps) (right.performAll steps) := by
  have leftRun := bare_performAll_of_create? leftCreated leftSettles
  have rightRun := bare_performAll_of_create? rightCreated rightSettles
  have bareBrisk : (left.performAll steps).bare.Brisk := brisk
  rw [leftRun] at bareBrisk
  have matched :=
    (matched_of_create? (bare_of_create? leftCreated) (bare_of_create? rightCreated)).performAll
      docile bareBrisk
  rw [← leftRun, ← rightRun] at matched
  constructor
  case calls => exact matched.calls
  case ledger => exact matched.toKindred.ledger
  case issued => exact matched.leftPoised.issued
  case records => exact matched.records
  case phase => exact matched.phase
  case clock => exact matched.clock
  case events =>
    exact congrArg (fun delivery : Delivery => delivery.feed.published) matched.delivery

/-- A subscriber that takes in nothing. -/
def stalled : List Profile :=
  [{ name := "slow", capacity := 1, gated := true }]

/-- A scene with so many slots, under the eyes of that subscriber. -/
def slottedScene (capacity : Nat) : Session Nat :=
  { plain with
    agenda := { ready := [.delivery (.lane 0), .backend, .delivery .courier] }
    mailbox := { capacity }
    delivery :=
      { feed := .ofCapacity 1024
        lanes := stalled.map fun profile => { profile }
        courier := .forwarding } }

/-- Calls that line up for the backend, one of them given up; a signal for one of two waits,
and a dispose whose cleanup takes no time; then time for the other wait to expire, and the end
of the handles. -/
def linedUp : List (Step Nat) :=
  [.deeds [.call (.store "a" 1 (some {})), .call (.store "b" 2 none), .call (.fetch "a"),
      .call (.waitSignal "go" (.ofMilliseconds 20)), .call (.store "c" 3 none), .cancel 1],
    .deeds [.clone, .call (.signal "go"), .call (.dispose "a"),
      .call (.waitSignal "never" (.ofMilliseconds 5))],
    .elapse (.ofMilliseconds 30), .deeds [.drop 0, .drop 1]]

theorem capacity_never_shows_linedUp :
    create? { commandCapacity := 0 } stalled = some (slottedScene 1)
      ∧ create? { commandCapacity := 8 } stalled = some (slottedScene 8)
      ∧ ((slottedScene 1).performAll linedUp).ledger.map Processed.caller = [0, 2, 3, 4, 5, 6, 7]
      ∧ ((slottedScene 1).performAll linedUp).phase = .ended
      ∧ Indistinct ((slottedScene 1).performAll linedUp) ((slottedScene 8).performAll linedUp) := by
  have fewCreated : create? { commandCapacity := 0 } stalled = some (slottedScene 1) := rfl
  have manyCreated : create? { commandCapacity := 8 } stalled = some (slottedScene 8) := rfl
  have docile : ∀ step ∈ linedUp, step.isDocile = true := by decide
  have fewSettles : (slottedScene 1).SettlesThroughout linedUp := by decide +kernel
  have manySettles : (slottedScene 8).SettlesThroughout linedUp := by decide +kernel
  have brisk : ((slottedScene 1).performAll linedUp).Brisk := by decide +kernel
  exact ⟨fewCreated, manyCreated, by decide +kernel, by decide +kernel,
    @capacity_never_shows Nat _ _ {} _ _ 0 8 fewCreated manyCreated _ docile fewSettles
      manySettles brisk⟩

/-- Two props whose cleanups take 10 ms each, disposed together. -/
def slowDisposals : List (Step Nat) :=
  [.deeds [.call (.store "a" 1 (some { act := .pass (.ofMilliseconds 10) })),
      .call (.store "b" 2 (some { act := .pass (.ofMilliseconds 10) }))],
    .deeds [.call (.dispose "a"), .call (.dispose "b")]]

/-- The milliseconds in which the calls were answered. -/
def answeredAt (session : Session V) : List (Option Nat) :=
  session.calls.map fun call =>
    match call.stage with
    | .finished _ millisecond => some millisecond
    | _ => none

/-- With one slot, the first of two slow disposals is answered before the second is served;
with two slots, the backend serves both before either caller has its turn.  And among the
events, a subscriber that takes in nothing is reported at other places. -/
theorem capacity_told_apart :
    create? { commandCapacity := 1 } [] = some (plain : Session Nat)
      ∧ create? { commandCapacity := 2 } []
        = some { (plain : Session Nat) with mailbox := { capacity := 2 } }
      ∧ (∀ step ∈ slowDisposals, step.isDocile = true)
      ∧ ((plain : Session Nat).performAll slowDisposals).answeredAt
        = [some 0, some 0, some 10, some 20]
      ∧ ({ (plain : Session Nat) with mailbox := { capacity := 2 } }.performAll
          slowDisposals).answeredAt = [some 0, some 0, some 20, some 20]
      ∧ (∀ step ∈ linedUp, step.isDocile = true)
      ∧ ((slottedScene 1).performAll linedUp).delivery.feed.published.map Event.kind
        ≠ ((slottedScene 8).performAll linedUp).delivery.feed.published.map Event.kind :=
  ⟨rfl, rfl, by decide, by decide +kernel, by decide +kernel, by decide, by decide +kernel⟩

end Session

end BoundedScene
