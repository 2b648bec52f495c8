import BoundedScene.Proofs.Overflow.Publishing

/-!
Contract: the overflow reports of a delivery, told from what its queues met with.

Owns:
- `Incident`, an event that a queue refused or a gap, and `Incident.reports`, the reports that
  incidents call for;
- `Delivery.Sequel`, any number of emitted events and gaps, with anything in between that leaves
  the counts of dropped events alone;
- `Incident.CountsUp`, counts that increase until they cannot.

Main statement: `Delivery.Sequel.reports_exactly`.

A counter of dropped events stops at one number and the count of an event at a smaller one, so
that a report carries the number of events missed so far as far as it can carry one.

Does not own: which events are emitted and which gaps there are.
-/

namespace BoundedScene

/-! ## Incidents -/

/-- What makes a subscriber miss events. -/
inductive Incident where
  /-- Its queue refused an event. -/
  | refused (event : Event) (refusal : Refusal)
  /-- The courier was overtaken and skipped this many events. -/
  | gap (missed : Nat)
deriving DecidableEq, Repr

namespace Incident

/-- How many events are missed. -/
def weight : Incident → Nat
  | refused .. => 1
  | gap missed => missed

/-- The reason that is reported, if one is: an overflow event is not reported about. -/
def reason? : Incident → Option String
  | refused event refusal => if event.isOverflow then none else some refusal.label
  | gap _ => some "lagged"

/-- The report of an incident, with the number of events missed so far. -/
def report? (name : String) (total : Nat) (incident : Incident) : Option Event :=
  incident.reason?.map fun reason => (Event.overflow name reason).withCount total

/-- The reports of incidents in order, when some events were missed before. -/
def reports (name : String) : Nat → List Incident → List Event
  | _, [] => []
  | before, incident :: later =>
      (incident.report? name (before + incident.weight)).toList
        ++ reports name (before + incident.weight) later

/-- How many events are missed altogether. -/
def total : List Incident → Nat
  | [] => 0
  | incident :: later => incident.weight + total later

theorem total_concat (incidents : List Incident) (incident : Incident) :
    total (incidents ++ [incident]) = total incidents + incident.weight := by
  induction incidents with
  | nil => exact Nat.add_comm ..
  | cons first rest inductionHypothesis =>
      rw [List.cons_append, total, total, inductionHypothesis, Nat.add_assoc]

theorem reports_concat (name : String) (before : Nat) (incidents : List Incident)
    (incident : Incident) :
    reports name before (incidents ++ [incident])
      = reports name before incidents
        ++ (incident.report? name (before + total incidents + incident.weight)).toList := by
  induction incidents generalizing before with
  | nil => exact List.append_nil _
  | cons first rest inductionHypothesis =>
      have sum : before + first.weight + total rest = before + total (first :: rest) :=
        Nat.add_assoc ..
      rw [List.cons_append, reports, reports, inductionHypothesis, sum, List.append_assoc]

/-! ## Counts -/

/-- A later count is larger than an earlier one, unless neither can be larger. -/
def CountsUp (earlier later : Event) : Prop :=
  ∃ first second, earlier.count = some first ∧ later.count = some second
    ∧ (first < second ∨ first = Event.largestDetail ∧ second = Event.largestDetail)

theorem count_of_report {name : String} {total : Nat} {incident : Incident} {report : Event}
    (reported : incident.report? name total = some report) :
    report.count = some (Event.saturate total) := by
  obtain ⟨reason, -, rfl⟩ := Option.map_eq_some_iff.mp reported
  rfl

/-- Every report tells that more was missed than before. -/
theorem count_of_mem_reports {name : String} {before : Nat} {incidents : List Incident}
    (positive : ∀ incident ∈ incidents, 0 < incident.weight) {report : Event}
    (member : report ∈ reports name before incidents) :
    ∃ reached, before < reached ∧ report.count = some (Event.saturate reached) := by
  induction incidents generalizing before with
  | nil => cases member
  | cons first rest inductionHypothesis =>
      have weighs := positive first List.mem_cons_self
      rw [reports, List.mem_append] at member
      cases member with
      | inl own =>
          have reported := Option.mem_toList.mp own
          exact ⟨before + first.weight, by omega, count_of_report reported⟩
      | inr later =>
          obtain ⟨reached, beyond, count⟩ := inductionHypothesis
            (fun incident inside => positive incident (List.mem_cons_of_mem _ inside)) later
          exact ⟨reached, by omega, count⟩

/-- The counts of reports increase until they cannot. -/
theorem pairwise_reports (name : String) (before : Nat) {incidents : List Incident}
    (positive : ∀ incident ∈ incidents, 0 < incident.weight) :
    (reports name before incidents).Pairwise CountsUp := by
  induction incidents generalizing before with
  | nil => exact .nil
  | cons first rest inductionHypothesis =>
      have others : ∀ incident ∈ rest, 0 < incident.weight :=
        fun incident inside => positive incident (List.mem_cons_of_mem _ inside)
      rw [reports, List.pairwise_append]
      refine ⟨?_, inductionHypothesis _ others, ?_⟩
      · cases first.report? name (before + first.weight) with
        | none => exact .nil
        | some report => exact List.pairwise_singleton ..
      · intro report own later member
        obtain ⟨reached, beyond, count⟩ := count_of_mem_reports others member
        refine ⟨_, _, count_of_report (Option.mem_toList.mp own), count, ?_⟩
        unfold Event.saturate
        omega

end Incident

/-! ## One lane -/

namespace Lane

/-- Why the queue refuses what comes next: nobody takes from it any more, or it has no free
slot. -/
def obstacle? (lane : Lane) : Option Refusal :=
  if !lane.isLive then some .closed
  else if lane.queue.length < lane.profile.slots then none
  else some .full

/-- What an event that is emitted means to a lane. -/
def incident? (event : Event) (lane : Lane) : Option Incident :=
  lane.obstacle?.map (.refused event)

/-- An event goes into the queue unless there is an obstacle. -/
theorem offer_eq (lane : Lane) (event : Event) :
    lane.offer event
      = match lane.obstacle? with
        | none => (none, { lane with queue := lane.queue ++ [event] })
        | some refusal => (some refusal, lane.miss 1) := by
  unfold offer obstacle?
  by_cases gone : (!lane.isLive) = true
  · rw [if_pos gone, if_pos gone]
  · rw [if_neg gone, if_neg gone]
    by_cases free : lane.queue.length < lane.profile.slots
    · rw [if_pos free, if_pos free]
    · rw [if_neg free, if_neg free]

/-- What an incident, or none, does to the count of a lane, and what is told of it. -/
structure Meets (incident? : Option Incident) (before : Lane) (told : Option Event)
    (after : Lane) : Prop where
  name : after.profile.name = before.profile.name
  dropped : after.dropped
    = incident?.elim before.dropped fun incident =>
        min (before.dropped + incident.weight) largestDropped
  told : told = incident?.bind fun incident => incident.report? before.profile.name after.dropped

theorem meets_offer (lane : Lane) (event : Event) :
    Meets (lane.incident? event) lane (Delivery.refusal? event lane) (lane.offer event).2 := by
  rw [Delivery.refusal?_eq, incident?, offer_eq]
  cases lane.obstacle? with
  | none => exact ⟨rfl, rfl, ite_self _⟩
  | some refusal =>
      refine ⟨rfl, rfl, ?_⟩
      cases overflow : event.isOverflow with
      | true => simp [Incident.report?, Incident.reason?, overflow]
      | false => simp [Incident.report?, Incident.reason?, overflow, Delivery.overflowReport, miss]

theorem meets_miss (lane : Lane) (missed : Nat) :
    Meets (some (.gap missed)) lane (some (Delivery.gapReport missed lane)) (lane.miss missed) :=
  ⟨rfl, rfl, rfl⟩

/-- A lane after incidents, with what was told of it. -/
structure Tally (called : String) (incidents : List Incident) (told : List Event)
    (lane : Lane) : Prop where
  name : lane.profile.name = called
  dropped : lane.dropped = min (Incident.total incidents) largestDropped
  told : told = Incident.reports called 0 incidents

/-- A count that has stopped is as good as one that goes on, for what an event can carry. -/
theorem report?_min (name : String) (total : Nat) (incident : Incident) :
    incident.report? name (min total largestDropped) = incident.report? name total := by
  have same : Event.saturate (min total largestDropped) = Event.saturate total := by
    have room : Event.largestDetail ≤ largestDropped := by decide
    unfold Event.saturate
    omega
  unfold Incident.report? Event.withCount
  rw [same]

theorem Tally.meets {name : String} {incidents : List Incident} {told : List Event}
    {before after : Lane} {incident? : Option Incident} {report? : Option Event}
    (tally : Tally name incidents told before) (meets : Meets incident? before report? after) :
    Tally name (incidents ++ incident?.toList) (told ++ report?.toList) after := by
  have dropped := meets.dropped
  rw [tally.dropped] at dropped
  cases incident? with
  | none =>
      refine ⟨meets.name.trans tally.name, ?_, ?_⟩
      · rw [Option.toList_none, List.append_nil]
        exact dropped
      · rw [meets.told, tally.told]
        exact (List.append_nil _).trans (congrArg _ (List.append_nil _).symm)
  | some incident =>
      rw [Option.elim_some] at dropped
      refine ⟨meets.name.trans tally.name, ?_, ?_⟩
      · rw [Option.toList_some, Incident.total_concat, dropped]
        omega
      · have counted : min (min (Incident.total incidents) largestDropped + incident.weight)
              largestDropped
            = min (Incident.total incidents + incident.weight) largestDropped := by
          omega
        rw [meets.told, tally.told, Option.bind_some, tally.name, dropped, counted, report?_min,
          Option.toList_some, Incident.reports_concat, Nat.zero_add]

end Lane

/-! ## All lanes -/

namespace Delivery

variable {start before now after : Delivery} {incidents : List (Nat × Incident)}
  {told others : List Event}

/-- What was put on the bus for reports meanwhile. -/
def news (before after : Delivery) : List Event :=
  after.reportBus.published.drop before.reportBus.published.length

/-- The counts of dropped events are left alone, and nothing is taken off the bus for reports. -/
structure Spares (before after : Delivery) : Prop where
  lanes : after.lanes.map (fun lane => (lane.profile.name, lane.dropped))
    = before.lanes.map fun lane => (lane.profile.name, lane.dropped)
  published : before.reportBus.published <+: after.reportBus.published

/-- What becomes of a delivery that emits events and counts gaps, with anything in between that
spares the counts: the incidents of the lanes, what the delivery told of them, and what was
published in between.  A gap is of one event at least. -/
inductive Sequel (start : Delivery) :
    List (Nat × Incident) → List Event → List Event → Delivery → Prop where
  | refl : Sequel start [] [] [] start
  | emits {incidents : List (Nat × Incident)} {told others : List Event} {now : Delivery}
      (sequel : Sequel start incidents told others now) (event : Event) :
      Sequel start (incidents ++ now.perLane (Lane.incident? event))
        (told ++ now.news (now.emit event)) others (now.emit event)
  | skips {incidents : List (Nat × Incident)} {told others : List Event} {now : Delivery}
      (sequel : Sequel start incidents told others now) {missed : Nat} (positive : 0 < missed) :
      Sequel start (incidents ++ now.perLane fun _ => some (.gap missed))
        (told ++ now.news (now.miss missed)) others (now.miss missed)
  | passes {incidents : List (Nat × Incident)} {told others : List Event} {now next : Delivery}
      (sequel : Sequel start incidents told others now) (spares : Spares now next) :
      Sequel start incidents told (others ++ now.news next) next

theorem news_of_append {events : List Event}
    (published : after.reportBus.published = before.reportBus.published ++ events) :
    before.news after = events := by
  rw [news, published, List.drop_left]

theorem perLane_events (delivery : Delivery) (tells : Lane → Option Event) :
    (delivery.perLane tells).map Prod.snd = delivery.lanes.filterMap tells := by
  have places (first : Nat) (lanes : List Lane) :
      (lanes.zipIdx first).filterMap (fun entry => tells entry.1) = lanes.filterMap tells := by
    induction lanes generalizing first with
    | nil => rfl
    | cons lane rest inductionHypothesis =>
        rw [List.zipIdx_cons, List.filterMap_cons, List.filterMap_cons, inductionHypothesis]
  unfold perLane
  rw [List.map_filterMap, ← places 0]
  congr 1
  funext entry
  simp [Function.comp_def]

/-- What was told, entry by entry with the lane that it is about, agrees with the incidents. -/
structure Tallies (start : Delivery) (incidents : List (Nat × Incident))
    (said : List (Nat × Event)) (now : Delivery) : Prop where
  length : now.lanes.length = start.lanes.length
  lane : ∀ {index : Nat} {first lane : Lane}, start.lanes[index]? = some first →
    now.lanes[index]? = some lane →
      lane.Tally first.profile.name (of index incidents) (of index said)
  nowhere : ∀ {index : Nat}, start.lanes.length ≤ index → of index said = []

theorem Tallies.round {said : List (Nat × Event)} (tallies : Tallies start incidents said now)
    {change : Lane → Lane} {tells : Lane → Option Event} {incident? : Lane → Option Incident}
    (meets : ∀ lane, Lane.Meets (incident? lane) lane (tells lane) (change lane))
    (lanes : after.lanes = now.lanes.map change) :
    Tallies start (incidents ++ now.perLane incident?) (said ++ now.perLane tells) after := by
  constructor
  case length => rw [lanes, List.length_map, tallies.length]
  case lane =>
    intro index first lane found reached
    rw [lanes, List.getElem?_map] at reached
    obtain ⟨earlier, present, rfl⟩ := Option.map_eq_some_iff.mp reached
    rw [of_append, of_append, of_perLane, of_perLane, present]
    exact (tallies.lane found present).meets (meets earlier)
  case nowhere =>
    intro index beyond
    rw [of_append, tallies.nowhere beyond, of_perLane,
      List.getElem?_eq_none (by rw [tallies.length]; exact beyond)]
    rfl

theorem Tallies.passes {said : List (Nat × Event)} (tallies : Tallies start incidents said now)
    (spares : Spares now after) : Tallies start incidents said after := by
  have length : after.lanes.length = now.lanes.length := by
    simpa using congrArg List.length spares.lanes
  refine ⟨length.trans tallies.length, ?_, tallies.nowhere⟩
  intro index first lane found reached
  have same := congrArg (·[index]?) spares.lanes
  rw [List.getElem?_map, List.getElem?_map, reached, Option.map_some] at same
  obtain ⟨earlier, present, kept⟩ := Option.map_eq_some_iff.mp same.symm
  have tally := tallies.lane found present
  exact ⟨(congrArg Prod.fst kept).symm.trans tally.name,
    (congrArg Prod.snd kept).symm.trans tally.dropped, tally.told⟩

theorem Sequel.tallies (fresh : ∀ lane ∈ start.lanes, lane.dropped = 0)
    (sequel : Sequel start incidents told others now) :
    ∃ said, told = said.map Prod.snd ∧ Tallies start incidents said now := by
  induction sequel with
  | refl =>
      refine ⟨[], rfl, rfl, ?_, fun _ => rfl⟩
      intro index first lane found same
      cases found.symm.trans same
      exact ⟨rfl, fresh first (List.mem_of_getElem? found), rfl⟩
  | @emits incidents told others now sequel event inductionHypothesis =>
      obtain ⟨said, rfl, tallies⟩ := inductionHypothesis
      refine ⟨said ++ now.perLane (refusal? event), ?_, ?_⟩
      · rw [List.map_append, perLane_events, news_of_append (now.published_emit event)]
      · exact tallies.round (fun lane => lane.meets_offer event) (now.lanes_emit event)
  | @skips incidents told others now sequel missed positive inductionHypothesis =>
      obtain ⟨said, rfl, tallies⟩ := inductionHypothesis
      refine ⟨said ++ now.perLane fun lane => some (gapReport missed lane), ?_, ?_⟩
      · rw [List.map_append, perLane_events, news_of_append (now.published_miss missed)]
      · exact tallies.round (fun lane => lane.meets_miss missed) (now.lanes_miss missed)
  | passes sequel spares inductionHypothesis =>
      obtain ⟨said, told, tallies⟩ := inductionHypothesis
      exact ⟨said, told, tallies.passes spares⟩

/-- What is there of a lane after a round was there before, or the lane met it. -/
theorem mem_of_round {index : Nat} {incident? : Lane → Option Incident} {incident : Incident}
    (member : incident ∈ of index (incidents ++ now.perLane incident?)) :
    incident ∈ of index incidents ∨ ∃ lane, incident? lane = some incident := by
  rw [of_append, of_perLane, List.mem_append] at member
  refine member.imp_right fun met => ?_
  obtain ⟨lane, -, own⟩ := Option.bind_eq_some_iff.mp (Option.mem_toList.mp met)
  exact ⟨lane, own⟩

/-- Every incident makes somebody miss something. -/
theorem Sequel.weighs (sequel : Sequel start incidents told others now) (index : Nat) :
    ∀ incident ∈ of index incidents, 0 < incident.weight := by
  induction sequel with
  | refl => exact fun _ => nofun
  | @emits incidents told others now sequel event inductionHypothesis =>
      intro incident member
      rcases mem_of_round member with earlier | ⟨lane, refused⟩
      · exact inductionHypothesis incident earlier
      · obtain ⟨refusal, -, rfl⟩ := Option.map_eq_some_iff.mp refused
        exact Nat.one_pos
  | @skips incidents told others now sequel missed positive inductionHypothesis =>
      intro incident member
      rcases mem_of_round member with earlier | ⟨lane, skipped⟩
      · exact inductionHypothesis incident earlier
      · cases skipped
        exact positive
  | passes _ _ inductionHypothesis => exact inductionHypothesis

/-- The reports that a delivery published are those that the incidents of its lanes call for:
for each lane one for each gap and for each event refused that is not an overflow event, in this
order, with counts that increase until they cannot. -/
def ReportsExactly (start : Delivery) (incidents : List (Nat × Incident)) (told : List Event) :
    Prop :=
  ∃ said : List (Nat × Event), told = said.map Prod.snd
    ∧ (∀ index lane, start.lanes[index]? = some lane →
        of index said = Incident.reports lane.profile.name 0 (of index incidents)
          ∧ (of index said).Pairwise Incident.CountsUp)
    ∧ ∀ index, start.lanes.length ≤ index → of index said = []

theorem Sequel.reports_exactly (fresh : ∀ lane ∈ start.lanes, lane.dropped = 0)
    (sequel : Sequel start incidents told others now) : ReportsExactly start incidents told := by
  obtain ⟨said, told, tallies⟩ := sequel.tallies fresh
  refine ⟨said, told, ?_, fun index beyond => tallies.nowhere beyond⟩
  intro index lane found
  have inside : index < now.lanes.length := by
    rw [tallies.length]
    exact (List.getElem?_eq_some_iff.mp found).1
  have called := (tallies.lane found (List.getElem?_eq_getElem inside)).told
  rw [called]
  exact ⟨rfl, Incident.pairwise_reports _ _ (sequel.weighs index)⟩

end Delivery

end BoundedScene
