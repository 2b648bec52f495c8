import BoundedScene.Proofs.Isolation.Independence
import Mathlib.Data.List.Nodup

/-!
Contract: subscribers have nothing to do with each other.

Owns:
- runs of a fan-out that look alike to a subscriber each;
- the reports of a run that are about one subscriber;
- what a subscriber that panics reports.

Main statement: `subscribers_are_isolated`.

Does not own: single turns and steps.
-/

namespace BoundedScene

namespace Fanout

variable {fanout : Fanout} {quiet : Bool} {index : Nat} {profile : Profile}

/-! ## Runs -/

theorem Steady.perform (steady : fanout.Steady) (step : Step) : (fanout.perform step).Steady := by
  have apart : (fanout.perform step).delivery.reports.isSome = true := by
    have told := @Watched.tells_perform ⟨fanout, []⟩ steady.apart step
    have kept := told.apart steady.apart
    rwa [Watched.fanout_perform] at kept
  cases step with
  | emit event times =>
      dsimp only [Fanout.perform] at apart ⊢
      split at apart
      case isTrue owned =>
        rw [if_pos owned]
        exact steady.update apart
      case isFalse given =>
        rw [if_neg given]
        exact steady
  | publish event times =>
      dsimp only [Fanout.perform] at apart ⊢
      split at apart
      case isTrue abandoned =>
        rw [if_pos abandoned]
        exact steady
      case isFalse open_ =>
        rw [if_neg open_]
        exact steady.update apart
  | isEmpty => exact steady
  | release subscriber count =>
      exact @Steady.update fanout steady (fun delivery => delivery.permit subscriber count) apart
  | settle => exact steady_keeps.settle steady
  | give errand =>
      dsimp only [Fanout.perform] at apart ⊢
      split at apart
      case isTrue owned =>
        rw [if_pos owned]
        have given : ({ fanout with errand := some errand } : Fanout).Steady :=
          ⟨steady.apart, steady.absorbed, steady.distinct, steady.current⟩
        unfold giveAway at apart ⊢
        exact given.update apart
      case isFalse given =>
        rw [if_neg given]
        exact steady
  | tellEnd => exact steady.update apart
  | dropFeed => exact steady.update apart
  | dropTasks => exact ⟨apart, rfl, List.nodup_nil, steady.current⟩

namespace Watched

variable {watched alone : Watched}

/-- A run looks to a subscriber like a run without the others. -/
theorem outlook_performs (steps : List Step) (steady : watched.fanout.Steady)
    (steadyAlone : alone.fanout.Steady)
    (same : watched.outlook quiet index = alone.outlook false 0) :
    (watched.performs steps).outlook quiet index
      = (alone.performs (steps.filterMap (Step.concerning index))).outlook false 0 := by
  induction steps generalizing watched alone with
  | nil => exact same
  | cons first rest inductionHypothesis =>
      have next : (watched.perform first).fanout.Steady := by
        rw [fanout_perform]
        exact steady.perform first
      show ((watched.perform first).performs rest).outlook quiet index = _
      cases concerns : first.concerning index with
      | none =>
          rw [List.filterMap_cons, concerns]
          exact inductionHypothesis next steadyAlone
            ((outlook_perform_unseen steady concerns).trans same)
      | some own =>
          have nextAlone : (alone.perform own).fanout.Steady := by
            rw [fanout_perform]
            exact steadyAlone.perform own
          rw [List.filterMap_cons, concerns]
          refine inductionHypothesis next nextAlone ?_
          by_cases settles : own = .settle
          · subst settles
            obtain rfl : first = .settle := by
              cases first with
              | release subscriber count => simp [Step.concerning] at concerns
              | settle => rfl
              | _ => cases concerns
            exact (shows_outlook quiet index).settle (shows_outlook false 0) steady steadyAlone same
              (settles_watched steady) (settles_watched steadyAlone)
          · rw [outlook_perform steady concerns settles, same,
              outlook_perform steadyAlone (concerning_own concerns) settles]

end Watched

/-! ## The beginning -/

/-- A fan-out in which nothing has happened yet. -/
def opened (profiles : List Profile) (feed reports : Bus) : Fanout :=
  let delivery : Delivery :=
    { feed, reports := some reports, lanes := profiles.map fun profile => { profile } }
  { agenda := { ready := delivery.workerTasks }, delivery }

theorem opened_of_create? {profiles : List Profile} {reportCapacity feedCapacity : Nat}
    (created : create? profiles reportCapacity feedCapacity false = some fanout) :
    ∃ feed reports, Bus.create? feedCapacity = some feed ∧ Bus.create? reportCapacity = some reports
      ∧ fanout = opened profiles feed reports := by
  unfold create? at created
  split at created
  case isFalse => cases created
  case isTrue =>
    obtain ⟨reports, withReports, created⟩ := Option.bind_eq_some_iff.mp created
    obtain ⟨feed, withFeed, created⟩ := Option.bind_eq_some_iff.mp created
    cases created
    exact ⟨feed, reports, withFeed, withReports, rfl⟩

theorem steady_opened (profiles : List Profile) (feed reports : Bus) :
    (opened profiles feed reports).Steady where
  apart := rfl
  absorbed := rfl
  distinct := List.nodup_range.map fun _ _ same => DeliveryTask.lane.inj same
  current := by
    show ({} : Clock).isBehind = false
    decide

/-- In the beginning a subscriber sees its own lane and the feed. -/
theorem outlook_opened {profiles : List Profile} (feed reports : Bus)
    (own : profiles[index]? = some profile) :
    Watched.outlook quiet index ⟨opened profiles feed reports, []⟩
      = { agenda := { ready := [.lane 0] }
          delivery :=
            { feed, reports := some ⟨1, []⟩, lanes := [{ profile := profile.hush quiet }] } } := by
  have found : (opened profiles feed reports).delivery.lanes[index]? = some { profile } := by
    rw [show (opened profiles feed reports).delivery.lanes
      = profiles.map fun profile => { profile } from rfl, List.getElem?_map, own]
    rfl
  have present : (opened profiles feed reports).delivery.departed = false := rfl
  have ready : (opened profiles feed reports).agenda.ready.filterMap
      (Watched.seenAs index (opened profiles feed reports).delivery) = [.lane 0] := by
    show List.filterMap _ ((List.range (profiles.map _).length).map DeliveryTask.lane) = _
    rw [List.length_map, List.range_eq_range', ← List.zipIdx_map_snd, List.map_map,
      List.filterMap_map, Delivery.filterMap_zipIdx, own]
    · simp [Watched.seenAs, Delivery.nameAlone, present]
    · intro item place other
      simp [Watched.seenAs, Delivery.nameAlone, other]
  have alone : ((opened profiles feed reports).delivery.alone quiet index []).forget
      = (opened profiles feed reports).delivery.alone quiet index [] :=
    Delivery.forget_of_present present
  rw [Watched.outlook_eq]
  dsimp only
  rw [alone]
  unfold Agenda.seen Delivery.alone
  rw [found, ready]
  rfl

/-! ## What a subscriber handles and reports -/

/-- The reports of a run, each with the lane that it is about. -/
def blames (fanout : Fanout) (steps : List Step) : List (Nat × Event) :=
  (Watched.performs ⟨fanout, []⟩ steps).told

/-- The reports of a run that are about one subscriber. -/
def reportsOf (index : Nat) (fanout : Fanout) (steps : List Step) : List Event :=
  Delivery.of index (fanout.blames steps)

/-- The events that a subscriber has handled after a run. -/
def handledBy (index : Nat) (fanout : Fanout) (steps : List Step) : List Event :=
  ((fanout.performs steps).delivery.lanes[index]?.map Lane.handled).getD []

/-- What a subscriber handles can be seen. -/
theorem handledBy_eq (quiet : Bool) (index : Nat) (fanout : Fanout) (steps : List Step) :
    handledBy index fanout steps
      = (((Watched.performs ⟨fanout, []⟩ steps).outlook quiet index).delivery.lanes.head?.map
          Lane.handled).getD [] := by
  have lanes (delivery : Delivery) : delivery.forget.lanes = delivery.lanes := by
    unfold Delivery.forget
    split <;> rfl
  rw [Watched.outlook_eq, handledBy, ← Watched.fanout_performs ⟨fanout, []⟩ steps]
  dsimp only
  rw [lanes]
  show _ = Option.getD (Option.map _ (List.map _ (Option.toList _)).head?) []
  cases (Watched.performs ⟨fanout, []⟩ steps).fanout.delivery.lanes[index]? <;> rfl

/-- What is told of a subscriber can be seen. -/
theorem reportsOf_eq (quiet : Bool) (index : Nat) (fanout : Fanout) (steps : List Step) :
    (reportsOf index fanout steps).filter (fun report => !(quiet && report.isPanic))
      = ((Watched.performs ⟨fanout, []⟩ steps).outlook quiet index).delivery.reported := by
  have reports (delivery : Delivery) : delivery.forget.reported = delivery.reported := by
    unfold Delivery.forget
    split <;> rfl
  rw [Watched.outlook_eq]
  dsimp only
  rw [reports]
  rfl

/-- A run looks to a subscriber like one in which it is the only subscriber. -/
theorem outlook_sole {profiles : List Profile} {feed reports : Bus}
    (own : profiles[index]? = some profile) (steps : List Step) :
    (Watched.performs ⟨opened profiles feed reports, []⟩ steps).outlook quiet index
      = (Watched.performs ⟨opened [profile.hush quiet] feed ⟨1, []⟩, []⟩
          (steps.filterMap (Step.concerning index))).outlook false 0 := by
  have sole : [profile.hush quiet][0]? = some (profile.hush quiet) := rfl
  refine Watched.outlook_performs steps (steady_opened ..) (steady_opened ..) ?_
  rw [outlook_opened feed reports own, outlook_opened feed ⟨1, []⟩ sole]
  rfl

/-! ## Whom the reports are about -/

/-- What is told of the lanes from the beginning. -/
theorem tells_opened (profiles : List Profile) (feed reports : Bus) (steps : List Step) :
    Delivery.Tells (opened profiles feed reports).delivery
      ((opened profiles feed reports).blames steps)
      ((opened profiles feed reports).performs steps).delivery := by
  obtain ⟨said, told, tells⟩ :=
    @Watched.tells_performs ⟨opened profiles feed reports, []⟩ rfl steps
  rw [Watched.fanout_performs] at tells
  rw [blames, told]
  exact tells

theorem lane_opened {profiles : List Profile} (feed reports : Bus)
    (own : profiles[index]? = some profile) :
    (opened profiles feed reports).delivery.lanes[index]? = some { profile } := by
  show (profiles.map fun profile => ({ profile } : Lane))[index]? = _
  rw [List.getElem?_map, own]
  rfl

/-- A subscriber that panics is reported once for each event at which it does. -/
theorem panics_opened {profiles : List Profile} (feed reports : Bus)
    (own : profiles[index]? = some profile) (steps : List Step) :
    (reportsOf index (opened profiles feed reports) steps).filter Event.isPanic
      = ((handledBy index (opened profiles feed reports) steps).filter
          fun event => decide (event.kind ∈ profile.panicOn)).map
            fun _ => Event.panicked profile.name profile.payload.describe := by
  have tells := tells_opened profiles feed reports steps
  have first := lane_opened feed reports own
  have inside : index < ((opened profiles feed reports).performs steps).delivery.lanes.length := by
    rw [tells.length]
    exact (List.getElem?_eq_some_iff.mp first).1
  have last := List.getElem?_eq_getElem inside
  obtain ⟨taken, handled, panics⟩ := (tells.lane first last).panics
  rw [List.nil_append] at handled
  rw [reportsOf, panics, handledBy, last, Option.map_some, Option.getD_some, handled,
    ← List.filterMap_eq_map, List.filterMap_filter]
  refine List.filterMap_congr fun event _ => ?_
  unfold Lane.panicReport?
  by_cases panicked : event.kind ∈ profile.panicOn <;> simp [panicked]

theorem attributed_opened {profiles : List Profile} (feed reports : Bus) (steps : List Step)
    {blame : Nat × Event} (told : blame ∈ (opened profiles feed reports).blames steps) :
    ∃ about : Profile, profiles[blame.1]? = some about
      ∧ blame.2.subscriber = some about.name := by
  have tells := tells_opened profiles feed reports steps
  have within := tells.within blame told
  have size : (opened profiles feed reports).delivery.lanes.length = profiles.length :=
    List.length_map _
  have own := List.getElem?_eq_getElem (size ▸ within)
  have inside :
      blame.1 < ((opened profiles feed reports).performs steps).delivery.lanes.length := by
    rw [tells.length]
    exact within
  refine ⟨_, own, (tells.lane (lane_opened feed reports own)
    (List.getElem?_eq_getElem inside)).named blame.2 ?_⟩
  exact List.mem_filterMap.mpr ⟨blame, told, if_pos rfl⟩

/-! ## Isolation -/

/-- Subscribers are isolated from each other.  Where a fan-out reports to a bus of its own, what
a subscriber handles and what is reported about it depend on its own profile, on the feed and
on the steps that concern it, not on the number, the names, the capacities, the gates and the
panics of the others.

- `handled`, `reported`: nothing changes with the others;
- `handledCalmly`, `overflows`: if other events made the subscriber panic, or none, it would
  handle the same events and be reported to have missed the same;
- `panics`: there is a report for each event at which it panicked, in order, and no other;
- `published`, `attributed`: the reports are those on the bus, and each is about the subscriber
  whose name it carries. -/
structure Isolated (index : Nat) (profile : Profile) (profiles : List Profile) (start : Fanout)
    (steps : List Step) (place : Nat) (others : List Profile) (other : Fanout)
    (otherSteps : List Step) : Prop where
  handled : others[place]? = some profile →
    handledBy index start steps = handledBy place other otherSteps
  reported : others[place]? = some profile →
    reportsOf index start steps = reportsOf place other otherSteps
  handledCalmly : ∀ (panicOn : List EventKind) (payload : PanicPayload),
    others[place]? = some { profile with panicOn, payload } →
      handledBy index start steps = handledBy place other otherSteps
  overflows : ∀ (panicOn : List EventKind) (payload : PanicPayload),
    others[place]? = some { profile with panicOn, payload } →
      (reportsOf index start steps).filter (fun report => !report.isPanic)
        = (reportsOf place other otherSteps).filter fun report => !report.isPanic
  panics : (reportsOf index start steps).filter Event.isPanic
    = ((handledBy index start steps).filter fun event => decide (event.kind ∈ profile.panicOn)).map
        fun _ => Event.panicked profile.name profile.payload.describe
  published : (start.blames steps).map Prod.snd = (start.performs steps).delivery.reported
  attributed : ∀ blame ∈ start.blames steps, ∃ about : Profile,
    profiles[blame.1]? = some about ∧ blame.2.subscriber = some about.name

theorem subscribers_are_isolated {profiles others : List Profile}
    {reportCapacity feedCapacity : Nat} {start other : Fanout} {index place : Nat}
    {profile : Profile} {steps otherSteps : List Step}
    (created : create? profiles reportCapacity feedCapacity false = some start)
    (createdOther : create? others reportCapacity feedCapacity false = some other)
    (own : profiles[index]? = some profile)
    (same : steps.filterMap (Step.concerning index)
      = otherSteps.filterMap (Step.concerning place)) :
    Isolated index profile profiles start steps place others other otherSteps := by
  obtain ⟨feed, reports, withFeed, withReports, rfl⟩ := opened_of_create? created
  obtain ⟨otherFeed, otherReports, withOther, -, rfl⟩ := opened_of_create? createdOther
  obtain rfl : feed = otherFeed := Option.some.inj (withFeed.symm.trans withOther)
  have alike (quiet : Bool) {otherProfile : Profile} (ownOther : others[place]? = some otherProfile)
      (hushed : profile.hush quiet = otherProfile.hush quiet) :
      (Watched.performs ⟨opened profiles feed reports, []⟩ steps).outlook quiet index
        = (Watched.performs ⟨opened others feed otherReports, []⟩ otherSteps).outlook quiet
            place := by
    rw [outlook_sole own, outlook_sole ownOther, hushed, same]
  have everything (said : List Event) :
      said.filter (fun report => !(false && report.isPanic)) = said :=
    List.filter_eq_self.mpr fun _ _ => rfl
  constructor
  case handled =>
    intro ownOther
    rw [handledBy_eq false, handledBy_eq false, alike false ownOther rfl]
  case reported =>
    intro ownOther
    rw [← everything (reportsOf index _ steps), ← everything (reportsOf place _ otherSteps),
      reportsOf_eq, reportsOf_eq, alike false ownOther rfl]
  case handledCalmly =>
    intro panicOn payload ownOther
    rw [handledBy_eq true, handledBy_eq true, alike true ownOther rfl]
  case overflows =>
    intro panicOn payload ownOther
    have seen := reportsOf_eq true index (opened profiles feed reports) steps
    rw [alike true ownOther rfl, ← reportsOf_eq] at seen
    simpa using seen
  case panics => exact panics_opened feed reports own steps
  case published =>
    have begins : Bus.published reports = [] := Bus.published_of_create? withReports
    have reported := (tells_opened profiles feed reports steps).reported
    rw [show (opened profiles feed reports).delivery.reported = reports.published from rfl, begins,
      List.nil_append] at reported
    exact reported.symm
  case attributed => exact fun blame told => attributed_opened feed reports steps told

/-- A subscriber that panics at props that are stored. -/
def exploder : Profile :=
  { name := "exploder", panicOn := [.propStored], payload := .fixed "torn" }

/-- Events are published faster than they are forwarded, while a subscriber at some place is
allowed to take in a number of events. -/
def hurriedRun (subscriber count : Nat) : List Step :=
  [.emit (Event.plain .propStored) 1, .give .forward, .publish (Event.plain .propStored) 3,
    .release subscriber count, .settle, .publish (Event.plain .propFetched) 1, .tellEnd, .settle]

/-- The exploder beside a recorder, and between two subscribers that wait for permits. -/
theorem exploder_is_isolated :
    ∃ start other, create? [exploder, { name := "recorder" }] 8 2 false = some start
      ∧ create? [{ name := "slow", gated := true }, exploder,
          { name := "exploder", capacity := 1, gated := true }] 8 2 false = some other
      ∧ (handledBy 0 start (hurriedRun 1 5)).map Event.kind
        = [.propStored, .propStored, .propStored, .propFetched]
      ∧ (reportsOf 0 start (hurriedRun 1 5)).map Event.kind
        = [.subscriberPanicked, .subscriberOverflow, .subscriberPanicked, .subscriberPanicked]
      ∧ handledBy 0 start (hurriedRun 1 5) = handledBy 1 other (hurriedRun 2 1)
      ∧ reportsOf 0 start (hurriedRun 1 5) = reportsOf 1 other (hurriedRun 2 1) := by
  refine ⟨_, _, rfl, rfl, by decide +kernel, by decide +kernel, ?_⟩
  have isolated := subscribers_are_isolated
    (show create? [exploder, { name := "recorder" }] 8 2 false = some _ from rfl)
    (show create? [{ name := "slow", gated := true }, exploder,
      { name := "exploder", capacity := 1, gated := true }] 8 2 false = some _ from rfl)
    (show [exploder, { name := "recorder" }][0]? = some exploder from rfl)
    (show (hurriedRun 1 5).filterMap (Step.concerning 0)
      = (hurriedRun 2 1).filterMap (Step.concerning 1) from rfl)
  exact ⟨isolated.handled rfl, isolated.reported rfl⟩

end Fanout

end BoundedScene
