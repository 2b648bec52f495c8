import BoundedScene.Proofs.Accounting
import BoundedScene.Proofs.Overflow.Incidents

/-!
Contract: the overflow reports of a fan-out are exact in every run.

Owns:
- `Delivery.Leads`, that a delivery emits events and counts gaps and does nothing else that
  concerns its counts or its overflow reports;
- the turns of a delivery and the moves of a fan-out as such.

Main statement: `Fanout.overflow_reports_are_exact`.

Does not own: which reports incidents call for.
-/

namespace BoundedScene

/-! ## Turns of a delivery -/

namespace Delivery

variable {before middle after : Delivery}

theorem Sequel.trans {incidents further : List (Nat × Incident)}
    {told others toldLater othersLater : List Event}
    (first : Sequel before incidents told others middle)
    (second : Sequel middle further toldLater othersLater after) :
    Sequel before (incidents ++ further) (told ++ toldLater) (others ++ othersLater) after := by
  induction second with
  | refl => simpa using first
  | emits _ event inductionHypothesis =>
      simpa only [List.append_assoc] using inductionHypothesis.emits event
  | skips _ positive inductionHypothesis =>
      simpa only [List.append_assoc] using inductionHypothesis.skips positive
  | passes _ spares inductionHypothesis =>
      simpa only [List.append_assoc] using inductionHypothesis.passes spares

/-- A delivery emits events and counts gaps, and if its reports go to a bus of their own, nobody
else publishes overflow events there. -/
def Leads (before after : Delivery) : Prop :=
  ∃ incidents told others, Sequel before incidents told others after
    ∧ after.reports.isSome = before.reports.isSome
    ∧ (before.reports.isSome = true → ∀ event ∈ others, event.isOverflow = false)

theorem quiet_nil {own : Prop} : own → ∀ event ∈ ([] : List Event), event.isOverflow = false := by
  intro _ event member
  exact absurd member List.not_mem_nil

theorem Leads.refl (delivery : Delivery) : Leads delivery delivery :=
  ⟨[], [], [], .refl, rfl, quiet_nil⟩

theorem Leads.trans (first : Leads before middle) (second : Leads middle after) :
    Leads before after := by
  obtain ⟨incidents, told, others, sequel, apart, quiet⟩ := first
  obtain ⟨further, toldLater, othersLater, sequelLater, apartLater, quietLater⟩ := second
  refine ⟨_, _, _, sequel.trans sequelLater, apartLater.trans apart, ?_⟩
  intro own event member
  cases List.mem_append.mp member with
  | inl early => exact quiet own event early
  | inr late => exact quietLater (apart.trans own) event late

/-- Something is published, and the counts are left alone. -/
theorem leads_of_published (events : List Event)
    (lanes : after.lanes.map (fun lane => (lane.profile.name, lane.dropped))
      = before.lanes.map fun lane => (lane.profile.name, lane.dropped))
    (published : after.reportBus.published = before.reportBus.published ++ events)
    (apart : after.reports.isSome = before.reports.isSome)
    (quiet : before.reports.isSome = true → ∀ event ∈ events, event.isOverflow = false) :
    Leads before after := by
  have spares : Spares before after := ⟨lanes, published ▸ List.prefix_append ..⟩
  refine ⟨_, _, _, Sequel.refl.passes spares, apart, ?_⟩
  rw [List.nil_append, news_of_append published]
  exact quiet

/-- Nothing is published, and the counts are left alone. -/
theorem leads_of_still
    (lanes : after.lanes.map (fun lane => (lane.profile.name, lane.dropped))
      = before.lanes.map fun lane => (lane.profile.name, lane.dropped))
    (reports : after.reports = before.reports) (feed : after.feed = before.feed) :
    Leads before after := by
  have same : after.reportBus = before.reportBus := by rw [reportBus, reportBus, reports, feed]
  refine leads_of_published [] lanes ?_ (by rw [reports]) quiet_nil
  rw [same, List.append_nil]

theorem leads_emit (delivery : Delivery) (event : Event) :
    Leads delivery (delivery.emit event) :=
  ⟨_, _, _, Sequel.refl.emits event, (delivery.emit_reports event).apart, quiet_nil⟩

theorem leads_miss (delivery : Delivery) {missed : Nat} (positive : 0 < missed) :
    Leads delivery (delivery.miss missed) :=
  ⟨_, _, _, Sequel.refl.skips positive, (delivery.miss_reports missed).apart, quiet_nil⟩

theorem leads_carry (reads : Nat) (delivery : Delivery) :
    Leads delivery (delivery.carry reads).2 := by
  induction reads generalizing delivery with
  | zero => exact leads_of_still rfl rfl rfl
  | succ reads inductionHypothesis =>
      unfold carry Bus.receive
      by_cases overtaken : delivery.feed.slots < delivery.feed.backlog delivery.position
      · rw [if_pos overtaken]
        have moved : Leads delivery { delivery with
            position := ⟨delivery.feed.published.length - delivery.feed.slots⟩ } :=
          leads_of_still rfl rfl rfl
        exact (moved.trans (leads_miss _ (Nat.sub_pos_of_lt overtaken))).trans
          (inductionHypothesis _)
      · rw [if_neg overtaken]
        cases delivery.feed.published[delivery.position.position]? with
        | some event =>
            have moved : Leads delivery { delivery with
                position := ⟨delivery.position.position + 1⟩ } :=
              leads_of_still rfl rfl rfl
            exact (moved.trans (leads_emit _ event)).trans (inductionHypothesis _)
        | none => cases delivery.feedClosed <;> exact .refl delivery

theorem leads_wakeIf (delivery : Delivery) (condition : Bool) (task : DeliveryTask) :
    Leads delivery (delivery.wakeIf condition task) := by
  unfold wakeIf
  split
  · exact leads_of_still rfl rfl rfl
  · exact .refl delivery

theorem leads_setLane {delivery : Delivery} {index : Nat} {old new : Lane}
    (found : delivery.lanes[index]? = some old) (profile : new.profile = old.profile)
    (dropped : new.dropped = old.dropped) : Leads delivery (delivery.setLane index new) := by
  obtain ⟨inside, present⟩ := List.getElem?_eq_some_iff.mp found
  refine leads_of_still ?_ rfl rfl
  show (delivery.lanes.set index new).map _ = _
  rw [List.map_set, profile, dropped, ← present, ← List.map_set, List.set_getElem_self]

theorem leads_mapLanes (change : Lane → Lane) (lanes : after.lanes = before.lanes.map change)
    (kept : ∀ lane, (change lane).profile = lane.profile ∧ (change lane).dropped = lane.dropped)
    (reports : after.reports = before.reports) (feed : after.feed = before.feed) :
    Leads before after := by
  refine leads_of_still ?_ reports feed
  rw [lanes, List.map_map]
  congr 1
  funext lane
  rw [Function.comp_apply, (kept lane).1, (kept lane).2]

theorem leads_closeQueues_join (delivery : Delivery) :
    Leads delivery delivery.closeQueues.join :=
  leads_mapLanes Lane.close rfl (fun _ => ⟨rfl, rfl⟩) rfl rfl

theorem leads_readOn (reads : Nat) (delivery : Delivery) :
    Leads delivery (delivery.readOn reads) := by
  unfold readOn
  split
  · have begun : Leads delivery { delivery with courier := .carrying } :=
      leads_of_still rfl rfl rfl
    exact (begun.trans (leads_carry reads _)).trans (leads_of_still rfl rfl rfl)
  · exact .refl delivery

theorem leads_resumeCourier (delivery : Delivery) : Leads delivery delivery.resumeCourier := by
  unfold resumeCourier
  cases delivery.courier with
  | forwarding =>
      have begun : Leads delivery { delivery with courier := .carrying } :=
        leads_of_still rfl rfl rfl
      have carried := begun.trans (leads_carry delivery.reads _)
      dsimp only
      generalize ({ delivery with courier := .carrying } : Delivery).carry delivery.reads
        = result at carried ⊢
      have waits : Leads result.2 { result.2 with courier := .forwarding } :=
        leads_of_still rfl rfl rfl
      split
      · exact (carried.trans waits).trans (leads_closeQueues_join _)
      · exact carried.trans waits
  | closing => exact leads_closeQueues_join delivery
  | joining => exact leads_of_still rfl rfl rfl
  | _ => exact .refl delivery

theorem leads_panics {panics : List Event} (quiet : ∀ event ∈ panics, event.isOverflow = false)
    (delivery : Delivery) : Leads delivery (panics.foldl report delivery) := by
  induction panics generalizing delivery with
  | nil => exact .refl delivery
  | cons first rest inductionHypothesis =>
      have own := quiet first List.mem_cons_self
      have others := fun event inside => quiet event (List.mem_cons_of_mem _ inside)
      have told : Leads delivery (delivery.report first) := by
        apply leads_of_published [first] (by rw [lanes_report]) (delivery.published_report first)
        · exact (delivery.report_reports first).apart
        · intro _ event member
          rwa [List.mem_singleton.mp member]
      exact told.trans (inductionHypothesis others _)

theorem isOverflow_of_mem_work {lane : Lane} {event : Event} (member : event ∈ lane.work.2) :
    event.isOverflow = false := by
  unfold Lane.work at member
  split at member
  · cases member
  · obtain ⟨taken, -, panicked⟩ := List.mem_filterMap.mp member
    unfold Lane.panicReport? at panicked
    split at panicked <;> cases panicked
    rfl

theorem work_kept (lane : Lane) :
    lane.work.1.profile = lane.profile ∧ lane.work.1.dropped = lane.dropped := by
  unfold Lane.work
  split <;> exact ⟨rfl, rfl⟩

theorem leads_resumeLane (index : Nat) (delivery : Delivery) :
    Leads delivery (resumeLane index delivery) := by
  unfold resumeLane
  cases found : delivery.lanes[index]? with
  | none => exact .refl delivery
  | some lane =>
      obtain ⟨profile, dropped⟩ := work_kept lane
      have worked := leads_setLane found profile dropped
      have quiet : ∀ event ∈ lane.work.2, event.isOverflow = false :=
        fun event member => isOverflow_of_mem_work member
      have told := leads_panics quiet (delivery.setLane index lane.work.1)
      exact (worked.trans told).trans (leads_wakeIf ..)

theorem leads_resume (task : DeliveryTask) (delivery : Delivery) :
    Leads delivery (resume task delivery) := by
  cases task with
  | lane index => exact leads_resumeLane index delivery
  | courier => exact leads_resumeCourier delivery

/-! ## What the owner does -/

theorem leads_publish (delivery : Delivery) (event : Event) :
    Leads delivery (delivery.publish event) := by
  refine Leads.trans ?_ (leads_wakeIf ..)
  let next : Delivery := { delivery with feed := delivery.feed.publish event }
  show Leads delivery next
  by_cases apart : delivery.reports.isSome = true
  · have same : next.reportBus = delivery.reportBus := by
      obtain ⟨bus, own⟩ := Option.isSome_iff_exists.mp apart
      show next.reports.getD _ = delivery.reports.getD _
      rw [show next.reports = delivery.reports from rfl, own]
      rfl
    refine leads_of_published [] rfl ?_ rfl quiet_nil
    rw [same, List.append_nil]
  · refine leads_of_published [event] rfl ?_ rfl fun own => absurd own apart
    have own : delivery.reports = none := Option.not_isSome_iff_eq_none.mp apart
    show (next.reports.getD next.feed).published = (delivery.reports.getD _).published ++ _
    rw [show next.reports = delivery.reports from rfl, own]
    rfl

theorem leads_foldl {step : Delivery → Event → Delivery}
    (one : ∀ delivery event, Leads delivery (step delivery event)) (events : List Event)
    (delivery : Delivery) : Leads delivery (events.foldl step delivery) :=
  List.foldlRecOn (motive := Leads delivery) _ step (.refl delivery)
    fun reached soFar event _ => soFar.trans (one reached event)

theorem leads_permit (delivery : Delivery) (index count : Nat) :
    Leads delivery (delivery.permit index count) := by
  unfold permit
  cases found : delivery.lanes[index]? with
  | none => exact .refl delivery
  | some lane =>
      have kept : (lane.permit count).profile = lane.profile
          ∧ (lane.permit count).dropped = lane.dropped := by
        unfold Lane.permit
        split <;> exact ⟨rfl, rfl⟩
      exact (leads_setLane found kept.1 kept.2).trans (leads_wakeIf ..)

theorem leads_lose (delivery : Delivery) : Leads delivery delivery.lose := by
  refine leads_mapLanes Lane.lose rfl (fun lane => ?_) rfl rfl
  unfold Lane.lose
  split <;> exact ⟨rfl, rfl⟩

/-- On a bus of its own a delivery alone publishes overflow events. -/
theorem Sequel.overflows {incidents : List (Nat × Incident)} {told others : List Event}
    (sequel : Sequel before incidents told others after)
    (quiet : ∀ event ∈ others, event.isOverflow = false) :
    after.reportBus.published.filter Event.isOverflow
      = before.reportBus.published.filter Event.isOverflow ++ told := by
  induction sequel with
  | refl => exact (List.append_nil _).symm
  | @emits incidents told others now sequel event inductionHypothesis =>
      have published := now.published_emit event
      have reports : (now.lanes.filterMap (refusal? event)).filter Event.isOverflow
          = now.lanes.filterMap (refusal? event) :=
        List.filter_eq_self.mpr fun _ => isOverflow_of_mem_refusals
      rw [news_of_append published, published, List.filter_append, inductionHypothesis quiet,
        reports, List.append_assoc]
  | @skips incidents told others now sequel missed positive inductionHypothesis =>
      have published := now.published_miss missed
      have reports : (now.lanes.filterMap fun lane => some (gapReport missed lane)).filter
          Event.isOverflow = now.lanes.filterMap fun lane => some (gapReport missed lane) := by
        apply List.filter_eq_self.mpr
        intro report member
        obtain ⟨lane, -, same⟩ := List.mem_filterMap.mp member
        cases same
        rfl
      rw [news_of_append published, published, List.filter_append, inductionHypothesis quiet,
        reports, List.append_assoc]
  | @passes incidents told others now next sequel spares inductionHypothesis =>
      obtain ⟨events, published⟩ := spares.published
      have news := news_of_append published.symm
      have silent : events.filter Event.isOverflow = [] := by
        apply List.filter_eq_nil_iff.mpr
        intro event member
        have plain := quiet event (List.mem_append_right _ (news ▸ member))
        simp [plain]
      rw [← published, List.filter_append, silent, List.append_nil]
      exact inductionHypothesis fun event member => quiet event (List.mem_append_left _ member)

end Delivery

namespace Fanout

variable {fanout : Fanout}

theorem leads_settle (fanout : Fanout) :
    Delivery.Leads fanout.delivery (Turns.settle fanout).delivery := by
  have turn (task : DeliveryTask) (delivery : Delivery)
      (soFar : Delivery.Leads fanout.delivery delivery) :
      Delivery.Leads fanout.delivery { Delivery.resume task delivery with woken := [] } :=
    (soFar.trans (Delivery.leads_resume task delivery)).trans
      (Delivery.leads_of_still rfl rfl rfl)
  exact ((keeps_of_resume turn fanout.errand).settle ⟨rfl, .refl fanout.delivery⟩).2

theorem leads_update {change : Delivery → Delivery}
    (leads : Delivery.Leads fanout.delivery (change fanout.delivery)) :
    Delivery.Leads fanout.delivery (fanout.update change).delivery :=
  leads.trans (Delivery.leads_of_still rfl rfl rfl)

theorem leads_perform (fanout : Fanout) (step : Step) :
    Delivery.Leads fanout.delivery (fanout.perform step).delivery := by
  cases step with
  | emit event times =>
      dsimp only [perform]
      split
      · exact leads_update (Delivery.leads_foldl Delivery.leads_emit ..)
      · exact .refl _
  | publish event times =>
      dsimp only [perform]
      split
      · exact .refl _
      · exact leads_update (Delivery.leads_foldl Delivery.leads_publish ..)
  | isEmpty => exact .refl _
  | release subscriber count => exact leads_update (Delivery.leads_permit ..)
  | settle => exact leads_settle fanout
  | give errand =>
      dsimp only [perform]
      split
      · show Delivery.Leads fanout.delivery (fanout.giveAway errand).delivery
        exact Delivery.leads_of_still rfl rfl rfl
      · exact .refl _
  | tellEnd =>
      have told : Delivery.Leads fanout.delivery { fanout.delivery with ended := true } :=
        Delivery.leads_of_still rfl rfl rfl
      exact leads_update (told.trans (Delivery.leads_wakeIf ..))
  | dropFeed =>
      have dropped : Delivery.Leads fanout.delivery
          { fanout.delivery with feedAbandoned := true } := Delivery.leads_of_still rfl rfl rfl
      exact leads_update (dropped.trans (Delivery.leads_wakeIf ..))
  | dropTasks => exact Delivery.leads_lose _

theorem leads_move (fanout : Fanout) (move : Move) :
    Delivery.Leads fanout.delivery (fanout.move move).delivery := by
  cases move with
  | act step => exact leads_perform fanout step
  | resume task =>
      have resumed := (noteCompletion_frame
        ((fanout.dequeue task).update (Delivery.resume task))).2
      show Delivery.Leads fanout.delivery
        ((fanout.dequeue task).update (Delivery.resume task)).noteCompletion.delivery
      rw [resumed]
      exact @leads_update (fanout.dequeue task) _ (Delivery.leads_resume task fanout.delivery)
  | read reads => exact leads_update (Delivery.leads_readOn reads _)

theorem leads_moves (fanout : Fanout) (schedule : List Move) :
    Delivery.Leads fanout.delivery (fanout.moves schedule).delivery :=
  List.foldlRecOn (motive := fun reached => Delivery.Leads fanout.delivery reached.delivery)
    _ move (.refl _) fun reached soFar next _ => soFar.trans (leads_move reached next)

/-! ## Main statement -/

/-- A fan-out begins with nothing dropped and nothing published. -/
theorem unpublished_of_create? {profiles : List Profile} {reportCapacity feedCapacity : Nat}
    {sameBus : Bool} {start : Fanout}
    (created : create? profiles reportCapacity feedCapacity sameBus = some start) :
    (∀ lane ∈ start.delivery.lanes, lane.dropped = 0)
      ∧ start.delivery.reportBus.published = []
      ∧ start.delivery.reports.isSome = !sameBus := by
  have fresh : ∀ lane ∈ profiles.map fun profile : Profile => ({ profile } : Lane),
      lane.dropped = 0 := by
    intro lane member
    obtain ⟨profile, -, rfl⟩ := List.mem_map.mp member
    rfl
  unfold create? at created
  split at created
  case isFalse => cases created
  case isTrue =>
    obtain ⟨reports, opened, created⟩ := Option.bind_eq_some_iff.mp created
    have unpublished := Bus.published_of_create? opened
    cases sameBus with
    | true =>
        cases created
        exact ⟨fresh, unpublished, rfl⟩
    | false =>
        obtain ⟨feed, -, created⟩ := Option.bind_eq_some_iff.mp created
        cases created
        exact ⟨fresh, unpublished, rfl⟩

/-- For every set of subscribers:

- however events are emitted and gaps are counted, and whatever becomes of the queues in between,
  the overflow reports are those that the refusals and gaps of each subscriber call for;
- every run is such a course, and if the reports go to a bus of their own, these are all the
  overflow events there;
- an event that is emitted goes into every queue that is not closed or full, and is counted as
  dropped where it is;
- to emit an overflow event publishes nothing. -/
theorem overflow_reports_are_exact {profiles : List Profile} {reportCapacity feedCapacity : Nat}
    {sameBus : Bool} {start : Fanout}
    (created : create? profiles reportCapacity feedCapacity sameBus = some start) :
    (∀ incidents told others now,
        Delivery.Sequel start.delivery incidents told others now →
          Delivery.ReportsExactly start.delivery incidents told)
      ∧ (∀ schedule, ∃ incidents told others,
          Delivery.Sequel start.delivery incidents told others (start.moves schedule).delivery
            ∧ (sameBus = false →
              (start.moves schedule).delivery.reportBus.published.filter Event.isOverflow = told))
      ∧ (∀ (delivery : Delivery) (event : Event), (delivery.emit event).lanes
          = delivery.lanes.map fun lane =>
              match lane.obstacle? with
              | none => { lane with queue := lane.queue ++ [event] }
              | some _ => lane.miss 1)
      ∧ ∀ (delivery : Delivery) (event : Event), event.isOverflow = true →
          (delivery.emit event).feed = delivery.feed
            ∧ (delivery.emit event).reports = delivery.reports := by
  obtain ⟨fresh, unpublished, apart⟩ := unpublished_of_create? created
  refine ⟨?_, ?_, ?_, ?_⟩
  · intro incidents told others now sequel
    exact sequel.reports_exactly fresh
  · intro schedule
    obtain ⟨incidents, told, others, sequel, -, quiet⟩ := leads_moves start schedule
    refine ⟨incidents, told, others, sequel, ?_⟩
    rintro rfl
    rw [sequel.overflows (quiet apart), unpublished]
    rfl
  · intro delivery event
    rw [Delivery.lanes_emit]
    congr 1
    funext lane
    rw [Lane.offer_eq]
    cases lane.obstacle? <;> rfl
  · intro delivery event overflow
    exact Delivery.emit_quiet overflow delivery

/-- Four events for a queue with one slot, and a gap. -/
def overflowing (delivery : Delivery) : Delivery :=
  ([.plain .propStored, .plain .propFetched, .overflow "other" "full",
    .plain .propDisposed].foldl Delivery.emit delivery).miss 3

/-- Three events are refused, of which one is an overflow event, and three are skipped: the
reports count one, three and six. -/
theorem slow_subscriber_is_reported :
    ∃ start, create? [{ name := "slow", capacity := 1 }] 8 8 false = some start
      ∧ (∀ incidents told others now,
        Delivery.Sequel start.delivery incidents told others now →
          Delivery.ReportsExactly start.delivery incidents told)
      ∧ (overflowing start.delivery).reportBus.published.map (fun report =>
          (report.subscriber, report.reason, report.count))
        = [(some "slow", some "full", some 1), (some "slow", some "full", some 3),
          (some "slow", some "lagged", some 6)] := by
  refine ⟨_, rfl, ?_, by decide +kernel⟩
  exact (overflow_reports_are_exact
    (show create? [{ name := "slow", capacity := 1 }] 8 8 false = some _ from rfl)).1

end Fanout

end BoundedScene
