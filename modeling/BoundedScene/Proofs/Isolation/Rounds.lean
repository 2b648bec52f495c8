import BoundedScene.Proofs.Carriage

/-!
Contract: what a delivery does in one round over all lanes, and what it tells of each.

Owns:
- `Delivery.serveAll`, a round in which every lane changes, reports and wakes its worker
  without regard to the others;
- the rounds of a delivery whose reports go to a bus of their own: an event that is emitted,
  a gap that is counted, queues that are closed;
- `Delivery.blames`, the reports of a turn, each with the lane that it is about;
- `Delivery.Tells`, what becomes of the lanes and the bus for reports meanwhile.

Main statements: `emit_eq`, `miss_eq`, `closeQueues_eq` and `tells_resume`.

Does not own: the order of turns.
-/

namespace BoundedScene

namespace Delivery

variable {delivery : Delivery}

/-! ## What the lanes say -/

/-- What the lanes say, each with its place. -/
def perLane {Saying : Type} (delivery : Delivery) (voice : Lane → Option Saying) :
    List (Nat × Saying) :=
  delivery.lanes.zipIdx.filterMap fun (lane, index) => (voice lane).map (index, ·)

/-- The workers of the lanes that are to be woken. -/
def wakers (delivery : Delivery) (wakes : Lane → Bool) : List DeliveryTask :=
  delivery.lanes.zipIdx.filterMap fun (lane, index) =>
    if wakes lane then some (.lane index) else none

/-- Publish reports on the bus that is for reports only. -/
def reportApart (delivery : Delivery) (events : List Event) : Delivery :=
  { delivery with
    reports := delivery.reports.map fun bus =>
      { bus with published := bus.published ++ events } }

/-- The reports on the bus that is for reports only. -/
def reported (delivery : Delivery) : List Event :=
  (delivery.reports.map Bus.published).getD []

theorem report_eq (apart : delivery.reports.isSome = true) (event : Event) :
    delivery.report event = delivery.reportApart [event] := by
  obtain ⟨bus, own⟩ := Option.isSome_iff_exists.mp apart
  simp [report, reportApart, own, Bus.publish]

@[simp] theorem reportApart_nil (delivery : Delivery) : delivery.reportApart [] = delivery := by
  unfold reportApart
  cases own : delivery.reports with
  | none => simp [← own]
  | some bus => simp [← own]

theorem reported_reportApart (apart : delivery.reports.isSome = true) (events : List Event) :
    (delivery.reportApart events).reported = delivery.reported ++ events := by
  obtain ⟨bus, own⟩ := Option.isSome_iff_exists.mp apart
  simp [reported, reportApart, own]

theorem foldl_report (apart : delivery.reports.isSome = true) (events : List Event) :
    events.foldl report delivery = delivery.reportApart events := by
  induction events generalizing delivery with
  | nil => exact delivery.reportApart_nil.symm
  | cons first rest inductionHypothesis =>
      rw [List.foldl_cons, report_eq apart,
        inductionHypothesis (by simp [reportApart, apart])]
      simp [reportApart, Function.comp_def]

/-! ## Rounds -/

variable (change : Lane → Lane) (tells : Lane → Option Event) (wakes : Lane → Bool)

/-- One lane changes, reports and wakes its worker. -/
def serve (delivery : Delivery) (index : Nat) : Delivery :=
  match delivery.lanes[index]? with
  | none => delivery
  | some lane =>
      ((delivery.setLane index (change lane)).reportApart (tells lane).toList).wakeIf
        (wakes lane) (.lane index)

/-- Every lane changes, reports and wakes its worker. -/
def serveAll (delivery : Delivery) : Delivery :=
  { (delivery.reportApart ((delivery.perLane tells).map Prod.snd)) with
    lanes := delivery.lanes.map change
    woken := delivery.woken ++ delivery.wakers wakes }

/-- What one lane does is not seen by those that are served later. -/
theorem foldl_serve (delivery : Delivery) :
    (List.range delivery.lanes.length).foldl (serve change tells wakes) delivery
      = delivery.serveAll change tells wakes := by
  have onward (rest served : List Lane) (reached : Delivery)
      (split : reached.lanes = served ++ rest) :
      (List.range' served.length rest.length).foldl (serve change tells wakes) reached
        = { (reached.reportApart ((rest.zipIdx served.length).filterMap fun (lane, _) =>
              tells lane)) with
            lanes := served ++ rest.map change
            woken := reached.woken ++ (rest.zipIdx served.length).filterMap fun (lane, index) =>
              if wakes lane then some (.lane index) else none } := by
    induction rest generalizing served reached with
    | nil => simp [← split, reportApart_nil]
    | cons lane rest inductionHypothesis =>
        have next : (serve change tells wakes reached served.length).lanes
            = (served ++ [change lane]) ++ rest := by
          simp [serve, split, setLane, reportApart]
        have onward := inductionHypothesis (served ++ [change lane]) _ next
        rw [List.length_append, List.length_singleton] at onward
        rw [List.length_cons, List.range'_succ, List.foldl_cons, onward, List.zipIdx_cons]
        cases told : tells lane <;> cases woken : wakes lane <;>
          simp [serve, split, setLane, reportApart, wakeIf, wake, told, woken, Function.comp_def]
  have whole := onward delivery.lanes [] delivery rfl
  rw [List.length_nil, ← List.range_eq_range'] at whole
  rw [whole, serveAll, perLane, List.map_filterMap]
  simp [wakers, Function.comp_def]

theorem apart_serve (delivery : Delivery) (index : Nat) :
    (delivery.serve change tells wakes index).reports.isSome = delivery.reports.isSome := by
  unfold serve reportApart wakeIf wake setLane
  split
  · rfl
  · split <;> exact Option.isSome_map

theorem apart_serveAll (delivery : Delivery) :
    (delivery.serveAll change tells wakes).reports.isSome = delivery.reports.isSome :=
  Option.isSome_map

/-- Where every step of a round serves one lane, the round serves them all. -/
theorem foldl_round {step : Delivery → Nat → Delivery}
    (one : ∀ (reached : Delivery) (index : Nat), reached.reports.isSome = true →
      step reached index = reached.serve change tells wakes index)
    (apart : delivery.reports.isSome = true) :
    (List.range delivery.lanes.length).foldl step delivery
      = delivery.serveAll change tells wakes := by
  rw [← foldl_serve]
  generalize List.range delivery.lanes.length = indices
  induction indices generalizing delivery with
  | nil => rfl
  | cons first rest inductionHypothesis =>
      rw [List.foldl_cons, List.foldl_cons, one delivery first apart]
      exact inductionHypothesis ((apart_serve ..).trans apart)

/-! ## The rounds of a delivery -/

/-- The report of a lane that refuses an event. -/
def refusal? (event : Event) (lane : Lane) : Option Event :=
  match lane.offer event with
  | (none, _) => none
  | (some refusal, lane) =>
      if event.isOverflow then none else some (overflowReport lane refusal.label)

/-- A worker that waits for its queue obtains an event. -/
def obtains (event : Event) (lane : Lane) : Bool :=
  (lane.offer event).1.isNone && (lane.offer event).2.isIdle

/-- The report of a lane that missed a gap. -/
def gapReport (missed : Nat) (lane : Lane) : Event :=
  overflowReport (lane.miss missed) "lagged"

theorem emit_eq (apart : delivery.reports.isSome = true) (event : Event) :
    delivery.emit event = delivery.serveAll (fun lane => (lane.offer event).2) (refusal? event)
      (obtains event) := by
  refine foldl_round _ _ _ (fun reached index apart => ?_) apart
  unfold offer serve refusal? obtains
  cases reached.lanes[index]? with
  | none => rfl
  | some lane =>
      rcases offered : lane.offer event with ⟨refused, next⟩
      simp only [offered]
      cases refused with
      | none => simp
      | some refusal =>
          cases overflow : event.isOverflow with
          | true => simp [wakeIf]
          | false =>
              simp only [Bool.false_eq_true, if_false]
              rw [@report_eq (reached.setLane index next) apart]
              rfl

theorem miss_eq (apart : delivery.reports.isSome = true) (missed : Nat) :
    delivery.miss missed = delivery.serveAll (fun lane => lane.miss missed)
      (fun lane => some (gapReport missed lane)) (fun _ => false) := by
  refine foldl_round _ _ _ (fun reached index apart => ?_) apart
  unfold missOne serve
  cases reached.lanes[index]? with
  | none => rfl
  | some lane => exact @report_eq (reached.setLane index (lane.miss missed)) apart _

theorem closeQueues_eq (delivery : Delivery) :
    delivery.closeQueues = delivery.serveAll Lane.close (fun _ => none) Lane.isIdle := by
  have silent : delivery.perLane (fun _ => (none : Option Event)) = [] := by
    simp [perLane]
  unfold serveAll
  rw [silent, List.map_nil, reportApart_nil]
  rfl

/-! ## Whom the reports are about -/

/-- The reports of events that are emitted in order. -/
def blamesOfEmits : List Event → Delivery → List (Nat × Event)
  | [], _ => []
  | first :: rest, delivery =>
      delivery.perLane (refusal? first) ++ blamesOfEmits rest (delivery.emit first)

/-- The reports of a courier that reads. -/
def blamesOfCarry : Nat → Delivery → List (Nat × Event)
  | 0, _ => []
  | reads + 1, delivery =>
      match delivery.feed.receive delivery.feedClosed delivery.position with
      | (.event event, position) =>
          let delivery := { delivery with position }
          delivery.perLane (refusal? event) ++ blamesOfCarry reads (delivery.emit event)
      | (.lagged missed, position) =>
          let delivery := { delivery with position }
          delivery.perLane (fun lane => some (gapReport missed lane))
            ++ blamesOfCarry reads (delivery.miss missed)
      | _ => []

/-- The reports of a turn, each with the lane that it is about. -/
def blames : DeliveryTask → Delivery → List (Nat × Event)
  | .lane index, delivery =>
      ((delivery.lanes[index]?.map fun lane => lane.work.2).getD []).map (index, ·)
  | .courier, delivery =>
      if delivery.isForwarding then
        blamesOfCarry delivery.reads { delivery with courier := .carrying }
      else []

/-! ## What is told of a lane -/

/-- What is said of one lane. -/
def of {Saying : Type} (index : Nat) (said : List (Nat × Saying)) : List Saying :=
  said.filterMap fun (place, saying) => if place = index then some saying else none

theorem of_append {Saying : Type} (index : Nat) (early late : List (Nat × Saying)) :
    of index (early ++ late) = of index early ++ of index late :=
  List.filterMap_append

theorem of_places {Saying : Type} (index place : Nat) (said : List Saying) :
    of index (said.map (place, ·)) = if place = index then said else [] := by
  unfold of
  rw [List.filterMap_map]
  split
  case isTrue same => simp [same]
  case isFalse other => simp [other]

/-- In a list with places, what is picked at one place only is picked once. -/
theorem filterMap_zipIdx {α β : Type} {index : Nat} {pick : α × Nat → Option β}
    (elsewhere : ∀ item place, place ≠ index → pick (item, place) = none) (items : List α) :
    items.zipIdx.filterMap pick = (items[index]?.bind fun item => pick (item, index)).toList := by
  have upTo (first : Nat) : (items.zipIdx first).filterMap pick
      = if index < first then []
        else (items[index - first]?.bind fun item => pick (item, index)).toList := by
    induction items generalizing first with
    | nil => simp
    | cons item rest inductionHypothesis =>
        rw [List.zipIdx_cons, List.filterMap_cons, inductionHypothesis]
        rcases Nat.lt_trichotomy first index with before | rfl | after
        · have position : index - first = index - (first + 1) + 1 := by omega
          rw [elsewhere item first (by omega), if_neg (by omega), if_neg (by omega), position,
            List.getElem?_cons_succ]
        · rw [if_pos (by omega), if_neg (by omega), Nat.sub_self]
          cases picked : pick (item, first) <;> simp [picked]
        · rw [elsewhere item first (by omega), if_pos (by omega), if_pos (by omega)]
  simpa using upTo 0

theorem of_perLane {Saying : Type} (voice : Lane → Option Saying) (index : Nat) :
    of index (delivery.perLane voice) = (delivery.lanes[index]?.bind voice).toList := by
  unfold of perLane
  rw [List.filterMap_filterMap, filterMap_zipIdx]
  · congr 2
    funext lane
    cases voiced : voice lane <;> simp [voiced]
  · intro lane place other
    cases voiced : voice lane <;> simp [voiced, other]

/-- What is told of a lane while it goes on: the reports are its own, and those of panics are
about the events that it takes in. -/
structure LaneTells (before : Lane) (said : List Event) (after : Lane) : Prop where
  profile : after.profile = before.profile
  named : ∀ report ∈ said, report.subscriber = some before.profile.name
  panics : ∃ taken, after.handled = before.handled ++ taken
    ∧ said.filter Event.isPanic = taken.filterMap before.panicReport?

theorem LaneTells.trans {before middle after : Lane} {early late : List Event}
    (first : LaneTells before early middle) (second : LaneTells middle late after) :
    LaneTells before (early ++ late) after := by
  obtain ⟨profile, named, taken, handled, panics⟩ := first
  obtain ⟨profileLater, namedLater, takenLater, handledLater, panicsLater⟩ := second
  refine ⟨profileLater.trans profile, ?_, taken ++ takenLater, ?_, ?_⟩
  · intro report member
    rcases List.mem_append.mp member with old | new
    · exact named report old
    · rw [← profile]
      exact namedLater report new
  · rw [handledLater, handled, List.append_assoc]
  · have same : middle.panicReport? = before.panicReport? := by
      unfold Lane.panicReport?
      rw [profile]
    rw [List.filter_append, List.filterMap_append, panics, panicsLater, same]

/-- A lane that takes nothing in has no panic to report. -/
theorem laneTells_of_quiet {before after : Lane} {said : List Event}
    (profile : after.profile = before.profile) (handled : after.handled = before.handled)
    (named : ∀ report ∈ said, report.subscriber = some before.profile.name)
    (calm : ∀ report ∈ said, report.isPanic = false) : LaneTells before said after where
  profile := profile
  named := named
  panics := ⟨[], by simp [handled], by simpa using calm⟩

theorem laneTells_of_silent {before after : Lane} (profile : after.profile = before.profile)
    (handled : after.handled = before.handled) : LaneTells before [] after :=
  laneTells_of_quiet profile handled (fun _ member => absurd member List.not_mem_nil)
    fun _ member => absurd member List.not_mem_nil

/-- A delivery goes on and publishes reports about its lanes. -/
structure Tells (before : Delivery) (said : List (Nat × Event)) (after : Delivery) : Prop where
  apart : after.reports.isSome = before.reports.isSome
  reported : after.reported = before.reported ++ said.map Prod.snd
  within : ∀ blame ∈ said, blame.1 < before.lanes.length
  length : after.lanes.length = before.lanes.length
  lane : ∀ {index : Nat} {old new : Lane}, before.lanes[index]? = some old →
    after.lanes[index]? = some new → LaneTells old (of index said) new

theorem Tells.trans {before middle after : Delivery} {early late : List (Nat × Event)}
    (first : Tells before early middle) (second : Tells middle late after) :
    Tells before (early ++ late) after where
  apart := second.apart.trans first.apart
  reported := by
    rw [second.reported, first.reported, List.map_append, List.append_assoc]
  within blame member := by
    rcases List.mem_append.mp member with old | new
    · exact first.within blame old
    · rw [← first.length]
      exact second.within blame new
  length := second.length.trans first.length
  lane {index old new} start reached := by
    have inside : index < middle.lanes.length := by
      rw [first.length]
      exact (List.getElem?_eq_some_iff.mp start).1
    have found := List.getElem?_eq_getElem inside
    rw [of_append]
    exact (first.lane start found).trans (second.lane found reached)

/-- Nothing is told where no lane takes anything in and nothing is reported. -/
theorem Tells.silent {before after : Delivery} (reports : after.reports = before.reports)
    (length : after.lanes.length = before.lanes.length)
    (lanes : ∀ {index : Nat} {old new : Lane}, before.lanes[index]? = some old →
      after.lanes[index]? = some new → new.profile = old.profile ∧ new.handled = old.handled) :
    Tells before [] after where
  apart := by rw [reports]
  reported := by simp [Delivery.reported, reports]
  within _ member := absurd member List.not_mem_nil
  length := length
  lane start reached := by
    obtain ⟨profile, handled⟩ := lanes start reached
    exact laneTells_of_silent profile handled

theorem Tells.still {before after : Delivery} (reports : after.reports = before.reports)
    (lanes : after.lanes = before.lanes) : Tells before [] after :=
  .silent reports (by rw [lanes]) fun start reached => by
    rw [lanes, start] at reached
    cases reached
    exact ⟨rfl, rfl⟩

theorem Tells.of_map {before after : Delivery} {change : Lane → Lane}
    (reports : after.reports = before.reports) (lanes : after.lanes = before.lanes.map change)
    (keeps : ∀ lane, (change lane).profile = lane.profile ∧ (change lane).handled = lane.handled) :
    Tells before [] after :=
  .silent reports (by rw [lanes, List.length_map]) fun start reached => by
    rw [lanes, List.getElem?_map, start] at reached
    cases reached
    exact keeps _

theorem tells_serveAll (apart : delivery.reports.isSome = true)
    (keeps : ∀ lane, (change lane).profile = lane.profile ∧ (change lane).handled = lane.handled)
    (own : ∀ lane report, tells lane = some report →
      report.subscriber = some lane.profile.name ∧ report.isPanic = false) :
    Tells delivery (delivery.perLane tells) (delivery.serveAll change tells wakes) where
  apart := apart_serveAll ..
  reported := reported_reportApart apart _
  within blame member := by
    obtain ⟨⟨lane, index⟩, present, told⟩ := List.mem_filterMap.mp member
    obtain ⟨report, -, rfl⟩ := Option.map_eq_some_iff.mp told
    simpa using (List.mem_zipIdx present).2.1
  length := List.length_map _
  lane {index old new} start reached := by
    rw [of_perLane, start, Option.bind_some]
    rw [show (delivery.serveAll change tells wakes).lanes = delivery.lanes.map change from rfl,
      List.getElem?_map, start] at reached
    cases reached
    exact laneTells_of_quiet (keeps old).1 (keeps old).2
      (fun report member => (own old report (Option.mem_toList.mp member)).1)
      (fun report member => (own old report (Option.mem_toList.mp member)).2)

/-! ## What the turns tell -/

theorem offer_keeps (lane : Lane) (event : Event) :
    (lane.offer event).2.profile = lane.profile ∧ (lane.offer event).2.handled = lane.handled := by
  unfold Lane.offer
  split
  · exact ⟨rfl, rfl⟩
  · split <;> exact ⟨rfl, rfl⟩

theorem refusal_own (event : Event) (lane : Lane) (report : Event)
    (refused : refusal? event lane = some report) :
    report.subscriber = some lane.profile.name ∧ report.isPanic = false := by
  have profile := (offer_keeps lane event).1
  unfold refusal? at refused
  split at refused
  case h_1 => cases refused
  case h_2 refusal next offered =>
    rw [offered] at profile
    split at refused
    · cases refused
    · cases refused
      exact ⟨congrArg (fun profile : Profile => some profile.name) profile, rfl⟩

theorem tells_emit (apart : delivery.reports.isSome = true) (event : Event) :
    Tells delivery (delivery.perLane (refusal? event)) (delivery.emit event) := by
  rw [emit_eq apart]
  exact tells_serveAll _ _ _ apart (fun lane => offer_keeps lane event) (refusal_own event)

theorem tells_miss (apart : delivery.reports.isSome = true) (missed : Nat) :
    Tells delivery (delivery.perLane fun lane => some (gapReport missed lane))
      (delivery.miss missed) := by
  rw [miss_eq apart]
  refine tells_serveAll _ _ _ apart (fun lane => ⟨rfl, rfl⟩) fun lane report told => ?_
  cases told
  exact ⟨rfl, rfl⟩

theorem tells_emits (apart : delivery.reports.isSome = true) (events : List Event) :
    Tells delivery (blamesOfEmits events delivery) (events.foldl emit delivery) := by
  induction events generalizing delivery with
  | nil => exact .still rfl rfl
  | cons first rest inductionHypothesis =>
      have told := tells_emit apart first
      exact told.trans (inductionHypothesis (told.apart.trans apart))

theorem tells_carry (reads : Nat) (apart : delivery.reports.isSome = true) :
    Tells delivery (blamesOfCarry reads delivery) (delivery.carry reads).2 := by
  induction reads generalizing delivery with
  | zero => exact .still rfl rfl
  | succ reads inductionHypothesis =>
      unfold carry blamesOfCarry
      rcases delivery.feed.receive delivery.feedClosed delivery.position with ⟨receipt, position⟩
      have moved : Tells delivery [] { delivery with position } := .still rfl rfl
      have further : ({ delivery with position } : Delivery).reports.isSome = true := apart
      cases receipt with
      | event event =>
          have told := moved.trans (tells_emit further event)
          exact told.trans (inductionHypothesis (told.apart.trans apart))
      | lagged missed =>
          have told := moved.trans (tells_miss further missed)
          exact told.trans (inductionHypothesis (told.apart.trans apart))
      | empty => exact .still rfl rfl
      | closed => exact .still rfl rfl

/-- In its turn a worker reports the panics at what it hands over. -/
theorem laneTells_work (lane : Lane) : LaneTells lane lane.work.2 lane.work.1 := by
  unfold Lane.work
  split
  · exact laneTells_of_silent rfl rfl
  · have own {event report : Event} (panicked : lane.panicReport? event = some report) :
        report.subscriber = some lane.profile.name ∧ report.isPanic = true := by
      unfold Lane.panicReport? at panicked
      split at panicked <;> cases panicked
      exact ⟨rfl, rfl⟩
    refine ⟨rfl, fun report member => ?_, _, rfl, List.filter_eq_self.mpr fun report member => ?_⟩
    all_goals obtain ⟨event, -, panicked⟩ := List.mem_filterMap.mp member
    · exact (own panicked).1
    · exact (own panicked).2

theorem tells_wakeIf (condition : Bool) (task : DeliveryTask) :
    Tells delivery [] (delivery.wakeIf condition task) := by
  unfold wakeIf
  split <;> exact .still rfl rfl

theorem tells_resumeLane (apart : delivery.reports.isSome = true) (index : Nat) :
    Tells delivery (blames (.lane index) delivery) (resumeLane index delivery) := by
  cases found : delivery.lanes[index]? with
  | none =>
      simp only [resumeLane, blames, found]
      exact .still rfl rfl
  | some lane =>
      have further : (delivery.setLane index lane.work.1).reports.isSome = true := apart
      have inside := (List.getElem?_eq_some_iff.mp found).1
      simp only [resumeLane, blames, found, foldl_report further, Option.map_some,
        Option.getD_some]
      refine List.append_nil (List.map _ _) ▸ Tells.trans ?_ (tells_wakeIf ..)
      refine ⟨Option.isSome_map, ?_, ?_, List.length_set, ?_⟩
      · rw [reported_reportApart further]
        simp [Function.comp_def, setLane, reported]
      · intro blame member
        obtain ⟨report, -, rfl⟩ := List.mem_map.mp member
        exact inside
      · intro place old new start reached
        rw [of_places]
        rw [show ((delivery.setLane index lane.work.1).reportApart lane.work.2).lanes
          = delivery.lanes.set index lane.work.1 from rfl, List.getElem?_set] at reached
        by_cases same : index = place
        · subst same
          rw [found] at start
          rw [if_pos rfl, if_pos inside] at reached
          cases start
          cases reached
          rw [if_pos rfl]
          exact laneTells_work lane
        · rw [if_neg same, start] at reached
          cases reached
          rw [if_neg same]
          exact laneTells_of_silent rfl rfl

theorem tells_closeQueues_join (delivery : Delivery) :
    Tells delivery [] delivery.closeQueues.join := by
  have reports : delivery.closeQueues.join.reports = delivery.reports := rfl
  have lanes : delivery.closeQueues.join.lanes = delivery.lanes.map Lane.close := rfl
  exact .of_map reports lanes fun _ => ⟨rfl, rfl⟩

/-- Every report of a turn is about a lane. -/
theorem tells_resume (apart : delivery.reports.isSome = true) (task : DeliveryTask) :
    Tells delivery (blames task delivery) (resume task delivery) := by
  cases task with
  | lane index => exact tells_resumeLane apart index
  | courier =>
      show Tells delivery (blames .courier delivery) delivery.resumeCourier
      unfold resumeCourier
      cases courier : delivery.courier with
      | forwarding =>
          have begun : Tells delivery [] { delivery with courier := .carrying } := .still rfl rfl
          have told : blames .courier delivery
              = blamesOfCarry delivery.reads { delivery with courier := .carrying } :=
            if_pos (by simp [isForwarding, courier])
          have carried := begun.trans
            (@tells_carry { delivery with courier := .carrying } delivery.reads apart)
          rw [told]
          dsimp only at carried ⊢
          generalize blamesOfCarry delivery.reads { delivery with courier := .carrying } = said
            at carried ⊢
          generalize ({ delivery with courier := .carrying } : Delivery).carry delivery.reads
            = result at carried ⊢
          obtain ⟨emptied, reached⟩ := result
          have waits : Tells reached [] { reached with courier := .forwarding } := .still rfl rfl
          have reads := carried.trans waits
          rw [List.nil_append, List.append_nil] at reads
          split
          · have closed := reads.trans (tells_closeQueues_join _)
            rwa [List.append_nil] at closed
          · exact reads
      | closing =>
          simpa [blames, isForwarding, courier] using tells_closeQueues_join delivery
      | _ =>
          simp only [blames, isForwarding, courier]
          exact .still rfl rfl

/-! ## What the owner does -/

theorem tells_publish (delivery : Delivery) (event : Event) :
    Tells delivery [] (delivery.publish event) := by
  have published : Tells delivery [] { delivery with feed := delivery.feed.publish event } :=
    .still rfl rfl
  exact published.trans (tells_wakeIf ..)

theorem tells_tellEnd (delivery : Delivery) : Tells delivery [] delivery.tellEnd := by
  have ended : Tells delivery [] { delivery with ended := true } := .still rfl rfl
  exact ended.trans (tells_wakeIf ..)

theorem tells_abandonFeed (delivery : Delivery) : Tells delivery [] delivery.abandonFeed := by
  have abandoned : Tells delivery [] { delivery with feedAbandoned := true } := .still rfl rfl
  exact abandoned.trans (tells_wakeIf ..)

theorem tells_permit (delivery : Delivery) (index count : Nat) :
    Tells delivery [] (delivery.permit index count) := by
  have keeps (lane : Lane) : (lane.permit count).profile = lane.profile
      ∧ (lane.permit count).handled = lane.handled := by
    unfold Lane.permit
    split <;> exact ⟨rfl, rfl⟩
  have reports : (delivery.permit index count).reports = delivery.reports := by
    unfold permit wakeIf
    split
    · rfl
    · split <;> rfl
  refine .silent reports (by rw [lanes_permit, List.length_modify])
    fun {place old new} start reached => ?_
  rw [lanes_permit, List.getElem?_modify, start] at reached
  cases reached
  split
  · exact keeps old
  · exact ⟨rfl, rfl⟩

theorem tells_lose (delivery : Delivery) : Tells delivery [] delivery.lose :=
  .of_map rfl rfl fun lane => by
    unfold Lane.lose
    split <;> exact ⟨rfl, rfl⟩

end Delivery

end BoundedScene
