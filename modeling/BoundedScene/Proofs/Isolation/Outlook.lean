import BoundedScene.Proofs.Isolation.Attribution

/-!
Contract: what a fan-out looks like to one of its subscribers.

Owns:
- `Delivery.alone`, a delivery with one lane only, whose subscriber is kept from panicking if
  asked;
- `Delivery.forget`, a delivery that does not remember where its courier has gone;
- what the turns of a delivery look like when only one lane is seen.

Main statements: `forget_alone_resume` for a turn that is seen and `forget_alone_unseen` for a
turn that is not.

Does not own: the run queue.
-/

namespace BoundedScene

/-! ## A lane without panics -/

/-- The subscriber is kept from panicking, if asked. -/
def Profile.hush (quiet : Bool) (profile : Profile) : Profile :=
  if quiet then { profile with panicOn := [], payload := .other } else profile

def Lane.hush (quiet : Bool) (lane : Lane) : Lane :=
  { lane with profile := lane.profile.hush quiet }

namespace Lane

variable (quiet : Bool) (lane : Lane)

@[simp] theorem slots_hush : (lane.hush quiet).profile.slots = lane.profile.slots := by
  cases quiet <;> rfl

@[simp] theorem gated_hush : (lane.hush quiet).profile.gated = lane.profile.gated := by
  cases quiet <;> rfl

@[simp] theorem overflowReport_hush (reason : String) :
    Delivery.overflowReport (lane.hush quiet) reason = Delivery.overflowReport lane reason := by
  cases quiet <;> rfl

theorem hush_offer (event : Event) :
    (lane.hush quiet).offer event = ((lane.offer event).1, (lane.offer event).2.hush quiet) := by
  unfold offer
  rw [slots_hush]
  show (if !lane.isLive then _ else if lane.queue.length < lane.profile.slots then _ else _) = _
  split
  · rfl
  · split <;> rfl

theorem hush_permit (count : Nat) :
    (lane.hush quiet).permit count = (lane.permit count).hush quiet := by
  unfold permit
  rw [gated_hush]
  split <;> rfl

theorem hush_lose : (lane.hush quiet).lose = lane.lose.hush quiet := by
  unfold lose
  show (if lane.isLive then _ else _) = _
  split <;> rfl

/-- A worker whose subscriber does not panic hands over the same, and has nothing to report. -/
theorem hush_work :
    (lane.hush quiet).work
      = (lane.work.1.hush quiet, lane.work.2.filter fun report => !(quiet && report.isPanic)) := by
  have panics (event : Event) : (lane.hush quiet).panicReport? event
      = (lane.panicReport? event).filter fun report => !(quiet && report.isPanic) := by
    unfold panicReport? hush Profile.hush
    cases quiet with
    | false =>
        simp only [Bool.false_eq_true, if_false]
        split <;> rfl
    | true =>
        simp only [if_true, List.not_mem_nil, if_false]
        split <;> rfl
  have reach : (lane.hush quiet).reach = lane.reach := by
    unfold reach
    rw [gated_hush]
    rfl
  unfold work
  rw [reach, gated_hush]
  show (if !lane.isLive then _ else _) = _
  split
  · rfl
  · refine Prod.ext rfl ?_
    show (lane.pending.take lane.reach).filterMap (lane.hush quiet).panicReport? = _
    rw [List.filter_filterMap]
    exact List.filterMap_congr fun event _ => panics event

end Lane

namespace Delivery

variable {delivery : Delivery} {quiet : Bool} {index : Nat} {told : List (Nat × Event)}

/-! ## One lane only -/

/-- The task under the name that it has where there is one lane only. -/
def nameAlone (index : Nat) : DeliveryTask → Option DeliveryTask
  | .lane place => if place = index then some (.lane 0) else none
  | .courier => some .courier

theorem eq_of_nameAlone {place : Nat} {own : DeliveryTask}
    (named : nameAlone index (.lane place) = some own) : place = index ∧ .lane 0 = own := by
  simpa [nameAlone] using named

/-- What a lane reports, without its panics if asked. -/
def heard (quiet : Bool) (index : Nat) (told : List (Nat × Event)) : List Event :=
  (of index told).filter fun report => !(quiet && report.isPanic)

theorem heard_append (early late : List (Nat × Event)) :
    heard quiet index (early ++ late) = heard quiet index early ++ heard quiet index late := by
  rw [heard, of_append, List.filter_append]
  rfl

/-- The delivery with one lane only. -/
def alone (quiet : Bool) (index : Nat) (told : List (Nat × Event)) (delivery : Delivery) :
    Delivery :=
  { delivery with
    reports := some ⟨1, heard quiet index told⟩
    lanes := delivery.lanes[index]?.toList.map (Lane.hush quiet)
    woken := delivery.woken.filterMap (nameAlone index) }

/-- A round looks the same where there is one lane only. -/
theorem alone_serveAll {change : Lane → Lane} {tells : Lane → Option Event} {wakes : Lane → Bool}
    (changes : ∀ lane, change (lane.hush quiet) = (change lane).hush quiet)
    (tellsSame : ∀ lane, tells (lane.hush quiet) = tells lane)
    (calm : ∀ lane report, tells lane = some report → report.isPanic = false)
    (wakesSame : ∀ lane, wakes (lane.hush quiet) = wakes lane) :
    (delivery.serveAll change tells wakes).alone quiet index (told ++ delivery.perLane tells)
      = (delivery.alone quiet index told).serveAll change tells wakes := by
  have heardAlone : heard quiet index (delivery.perLane tells)
      = ((delivery.alone quiet index told).perLane tells).map Prod.snd := by
    rw [heard, of_perLane, List.filter_eq_self.mpr fun report member => ?_]
    · unfold perLane alone
      cases delivery.lanes[index]? with
      | none => rfl
      | some lane => cases told : tells lane <;> simp [tellsSame, told]
    · obtain ⟨lane, -, own⟩ := Option.bind_eq_some_iff.mp (Option.mem_toList.mp member)
      simp [calm lane report own]
  have wakersAlone : (delivery.wakers wakes).filterMap (nameAlone index)
      = (delivery.alone quiet index told).wakers wakes := by
    unfold wakers alone
    rw [List.filterMap_filterMap, filterMap_zipIdx]
    · cases delivery.lanes[index]? with
      | none => rfl
      | some lane => cases woken : wakes lane <;> simp [wakesSame, woken, nameAlone]
    · intro lane place other
      cases wakes lane <;> simp [nameAlone, other]
  have lanesAlone : (delivery.lanes.map change)[index]?.toList.map (Lane.hush quiet)
      = (delivery.lanes[index]?.toList.map (Lane.hush quiet)).map change := by
    rw [List.getElem?_map]
    cases delivery.lanes[index]? with
    | none => rfl
    | some lane => simp [changes]
  unfold serveAll reportApart
  rw [← heardAlone, ← wakersAlone]
  simp only [alone, heard_append, lanesAlone, Option.map_some, List.filterMap_append]

theorem alone_emit (apart : delivery.reports.isSome = true) (event : Event) :
    (delivery.emit event).alone quiet index (told ++ delivery.perLane (refusal? event))
      = (delivery.alone quiet index told).emit event := by
  rw [emit_eq apart, @emit_eq (delivery.alone quiet index told) rfl]
  refine alone_serveAll ?_ ?_ (fun lane report refused => (refusal_own event lane report refused).2)
    ?_
  · exact fun lane => congrArg Prod.snd (lane.hush_offer quiet event)
  · intro lane
    unfold refusal?
    rw [Lane.hush_offer]
    rcases lane.offer event with ⟨refused, next⟩
    cases refused with
    | none => rfl
    | some refusal => simp only [Lane.overflowReport_hush]
  · intro lane
    unfold obtains
    rw [Lane.hush_offer]
    rfl

theorem alone_miss (apart : delivery.reports.isSome = true) (missed : Nat) :
    (delivery.miss missed).alone quiet index
        (told ++ delivery.perLane fun lane => some (gapReport missed lane))
      = (delivery.alone quiet index told).miss missed := by
  rw [miss_eq apart, @miss_eq (delivery.alone quiet index told) rfl]
  refine alone_serveAll (fun _ => rfl) (fun lane => ?_) (fun lane report told => ?_) fun _ => rfl
  · exact congrArg some ((lane.miss missed).overflowReport_hush quiet "lagged")
  · cases told
    rfl

theorem alone_closeQueues (delivery : Delivery) :
    delivery.closeQueues.alone quiet index told
      = (delivery.alone quiet index told).closeQueues := by
  have silent : delivery.perLane (fun _ => (none : Option Event)) = [] := by simp [perLane]
  have round := @alone_serveAll delivery quiet index told Lane.close (fun _ => none) Lane.isIdle
    (fun _ => rfl) (fun _ => rfl) (fun _ _ told => by cases told) (fun _ => rfl)
  rw [silent, List.append_nil] at round
  rw [closeQueues_eq, closeQueues_eq, round]

theorem alone_emits (apart : delivery.reports.isSome = true) (events : List Event) :
    (events.foldl emit delivery).alone quiet index (told ++ blamesOfEmits events delivery)
      = events.foldl emit (delivery.alone quiet index told) := by
  induction events generalizing delivery told with
  | nil => simp [blamesOfEmits]
  | cons first rest inductionHypothesis =>
      have still : (delivery.emit first).reports.isSome = true :=
        (delivery.emit_reports first).apart.trans apart
      rw [List.foldl_cons, List.foldl_cons, blamesOfEmits, ← List.append_assoc,
        inductionHypothesis still, alone_emit apart]

/-! ## Reading -/

/-- Who reads an event or hears of a gap has less to read. -/
theorem backlog_receive {bus : Bus} {closed : Bool} {before after : Receiver} {receipt : Receipt}
    (obtained : bus.receive closed before = (receipt, after)) (more : receipt ≠ .empty)
    (open_ : receipt ≠ .closed) : bus.backlog after < bus.backlog before := by
  unfold Bus.receive at obtained
  split at obtained
  case isTrue overtaken =>
    cases obtained
    unfold Bus.backlog at overtaken ⊢
    dsimp only
    omega
  case isFalse =>
    split at obtained
    case h_1 event found =>
      cases obtained
      have within := (List.getElem?_eq_some_iff.mp found).1
      unfold Bus.backlog
      dsimp only
      omega
    case h_2 =>
      cases obtained
      cases closed with
      | false => exact absurd rfl more
      | true => exact absurd rfl open_

/-- Where the reports go to a bus of their own, a courier with enough reads reads everything,
however many lanes there are. -/
theorem alone_carry {reads other : Nat} (apart : delivery.reports.isSome = true)
    (enough : delivery.feed.backlog delivery.position < reads)
    (enoughAlone : delivery.feed.backlog delivery.position < other) :
    (delivery.carry reads).1 = true
      ∧ (delivery.alone quiet index told).carry other
        = (true,
          (delivery.carry reads).2.alone quiet index (told ++ blamesOfCarry reads delivery)) := by
  induction reads generalizing other delivery told with
  | zero => exact absurd enough (Nat.not_lt_zero _)
  | succ reads inductionHypothesis =>
      obtain ⟨other, rfl⟩ := Nat.exists_eq_succ_of_ne_zero (Nat.ne_zero_of_lt enoughAlone)
      have closedAlone : (delivery.alone quiet index told).feedClosed = delivery.feedClosed := by
        simp [feedClosed, alone, apart]
      obtain ⟨⟨receipt, position⟩, obtained⟩ :
          ∃ result, delivery.feed.receive delivery.feedClosed delivery.position = result := ⟨_, rfl⟩
      have obtainedAlone : (delivery.alone quiet index told).feed.receive
          (delivery.alone quiet index told).feedClosed (delivery.alone quiet index told).position
            = (receipt, position) := by
        rw [closedAlone]
        exact obtained
      have further : ({ delivery with position } : Delivery).reports.isSome = true := apart
      -- The feed is the same after a round, so that one read less suffices.
      have goOn (next : Delivery) (said : List (Nat × Event))
          (round : Reports { delivery with position } next)
          (shorter : delivery.feed.backlog position < delivery.feed.backlog delivery.position) :
          (next.carry reads).1 = true
            ∧ (next.alone quiet index (told ++ said)).carry other
              = (true, (next.carry reads).2.alone quiet index
                  (told ++ (said ++ blamesOfCarry reads next))) := by
        have less : next.feed.backlog next.position < delivery.feed.backlog delivery.position := by
          rw [round.untouched further, round.position]
          exact shorter
        rw [← List.append_assoc]
        exact inductionHypothesis (round.apart.trans further) (by omega) (by omega)
      simp only [carry, blamesOfCarry, obtained, obtainedAlone]
      cases receipt with
      | event event =>
          have rest := goOn _ (perLane { delivery with position } (refusal? event))
            (emit_reports _ event) (backlog_receive obtained (by simp) (by simp))
          rwa [alone_emit further] at rest
      | lagged missed =>
          have rest := goOn _
            (perLane { delivery with position } fun lane => some (gapReport missed lane))
            (miss_reports _ missed) (backlog_receive obtained (by simp) (by simp))
          rwa [alone_miss further] at rest
      | empty => exact ⟨rfl, by simp⟩
      | closed => exact ⟨rfl, by simp⟩

theorem enough_reads (delivery : Delivery) :
    delivery.feed.backlog delivery.position < delivery.reads := by
  have least := Nat.le_mul_of_pos_right (delivery.feed.backlog delivery.position + 1)
    (show 0 < delivery.lanes.length + 1 from Nat.succ_pos _)
  unfold reads
  omega

/-! ## A courier that has departed -/

/-- The courier has closed the queues, or was destroyed. -/
def departed (delivery : Delivery) : Bool :=
  match delivery.courier with
  | .joining => true
  | .finished => true
  | .lost => true
  | _ => false

/-- The task unless it is the courier's. -/
def nameDeparted : DeliveryTask → Option DeliveryTask
  | .lane place => some (.lane place)
  | .courier => none

/-- Nothing is remembered of a courier that has departed. -/
def forget (delivery : Delivery) : Delivery :=
  if delivery.departed then
    { delivery with courier := .finished, woken := delivery.woken.filterMap nameDeparted }
  else delivery

theorem forget_of_departed (departed : delivery.departed = true) :
    delivery.forget
      = { delivery with courier := .finished, woken := delivery.woken.filterMap nameDeparted } :=
  if_pos departed

theorem forget_of_present (present : delivery.departed = false) : delivery.forget = delivery :=
  if_neg (by simp [present])

@[simp] theorem departed_forget (delivery : Delivery) :
    delivery.forget.departed = delivery.departed := by
  cases departed : delivery.departed with
  | true => rw [forget_of_departed departed]; rfl
  | false => rw [forget_of_present departed, departed]

@[simp] theorem departed_join (delivery : Delivery) : delivery.join.departed = true := by
  unfold join departed
  dsimp only
  cases delivery.workersGone <;> rfl

/-- A courier that joins the workers has departed, however many of them are left. -/
theorem forget_join (delivery : Delivery) :
    delivery.join.forget
      = { delivery with courier := .finished, woken := delivery.woken.filterMap nameDeparted } := by
  rw [forget_of_departed delivery.departed_join]
  rfl

/-! ## Turns that are seen -/

theorem alone_resumeLane (apart : delivery.reports.isSome = true) :
    (resumeLane index delivery).alone quiet index (told ++ blames (.lane index) delivery)
      = resumeLane 0 (delivery.alone quiet index told) := by
  cases found : delivery.lanes[index]? with
  | none => simp [resumeLane, blames, alone, found]
  | some lane =>
      have further : (delivery.setLane index lane.work.1).reports.isSome = true := apart
      have inside := (List.getElem?_eq_some_iff.mp found).1
      have own : heard quiet index (lane.work.2.map (index, ·))
          = lane.work.2.filter fun report => !(quiet && report.isPanic) := by
        rw [heard, of_places, if_pos rfl]
      have foundAlone : (delivery.alone quiet index told).lanes[0]? = some (lane.hush quiet) := by
        simp [alone, found]
      have apartAlone : ((delivery.alone quiet index told).setLane 0
          (lane.work.1.hush quiet)).reports.isSome = true := rfl
      simp only [resumeLane, blames, found, foundAlone, foldl_report further, Lane.hush_work,
        foldl_report apartAlone, Option.map_some, Option.getD_some]
      show _ = wakeIf _ (lane.isLive && !lane.work.1.isLive && delivery.isJoining) _
      show alone _ _ _ (wakeIf _ (lane.isLive && !lane.work.1.isLive && delivery.isJoining) _) = _
      generalize (lane.isLive && !lane.work.1.isLive && delivery.isJoining) = woken
      cases woken <;>
        simp [alone, wakeIf, wake, setLane, reportApart, heard_append, own, inside, nameAlone]

theorem forget_alone_join (delivery : Delivery) :
    (delivery.join.alone quiet index told).forget
      = (delivery.alone quiet index told).join.forget := by
  have departed : (delivery.join.alone quiet index told).departed = true :=
    delivery.departed_join
  rw [forget_join, forget_of_departed departed]
  rfl

theorem forget_alone_closeQueues_join (delivery : Delivery) :
    (delivery.closeQueues.join.alone quiet index told).forget
      = (delivery.alone quiet index told).closeQueues.join.forget := by
  rw [forget_alone_join, alone_closeQueues]

theorem forget_alone_forwarding (apart : delivery.reports.isSome = true)
    (forwarding : delivery.courier = .forwarding) :
    (delivery.resumeCourier.alone quiet index (told ++ blames .courier delivery)).forget
      = (delivery.alone quiet index told).resumeCourier.forget := by
  let carrying : Delivery := { delivery with courier := .carrying }
  have further : carrying.reports.isSome = true := apart
  obtain ⟨whole, carriedAlone⟩ := @alone_carry carrying quiet index told delivery.reads
    (delivery.alone quiet index told).reads further delivery.enough_reads
    (delivery.alone quiet index told).enough_reads
  have kept := (tells_carry delivery.reads further).apart.trans further
  have blamed : blames .courier delivery = blamesOfCarry delivery.reads carrying :=
    if_pos (by simp [isForwarding, forwarding])
  obtain ⟨⟨emptied, reached⟩, carried⟩ : ∃ result, carrying.carry delivery.reads = result :=
    ⟨_, rfl⟩
  rw [carried] at whole carriedAlone kept
  cases whole
  have closedAlone : (reached.alone quiet index
      (told ++ blamesOfCarry delivery.reads carrying)).feedClosed = reached.feedClosed := by
    simp [feedClosed, alone, kept]
  rw [resumeCourier_forwarding forwarding carried,
    @resumeCourier_forwarding (delivery.alone quiet index told) _ forwarding carriedAlone,
    closedAlone, blamed]
  show _ = (if reached.ended || reached.feedClosed then _ else _ : Delivery).forget
  split
  · exact forget_alone_closeQueues_join _
  · rfl

theorem forget_alone_resumeCourier (apart : delivery.reports.isSome = true)
    (present : delivery.departed = false) :
    (delivery.resumeCourier.alone quiet index (told ++ blames .courier delivery)).forget
      = (delivery.alone quiet index told).resumeCourier.forget := by
  have courierAlone : (delivery.alone quiet index told).courier = delivery.courier := rfl
  unfold departed at present
  cases courier : delivery.courier with
  | forwarding => exact forget_alone_forwarding apart courier
  | closing =>
      rw [courier] at courierAlone
      have silent : blames .courier delivery = [] := if_neg (by simp [isForwarding, courier])
      rw [silent, List.append_nil]
      simp only [resumeCourier, courier, courierAlone]
      exact delivery.forget_alone_closeQueues_join
  | resting =>
      rw [courier] at courierAlone
      simp [resumeCourier, courier, courierAlone, blames, isForwarding]
  | carrying =>
      rw [courier] at courierAlone
      simp [resumeCourier, courier, courierAlone, blames, isForwarding]
  | joining => simp [courier] at present
  | finished => simp [courier] at present
  | lost => simp [courier] at present

/-- A turn that is seen looks the same where there is one lane only. -/
theorem forget_alone_resume (apart : delivery.reports.isSome = true) {task own : DeliveryTask}
    (named : nameAlone index task = some own)
    (present : task = .courier → delivery.departed = false) :
    ((resume task delivery).alone quiet index (told ++ blames task delivery)).forget
      = (resume own (delivery.alone quiet index told)).forget := by
  cases task with
  | courier =>
      cases named
      exact forget_alone_resumeCourier apart (present rfl)
  | lane place =>
      obtain ⟨rfl, rfl⟩ := eq_of_nameAlone named
      exact congrArg forget (alone_resumeLane apart)

/-! ## Turns that are not seen -/

theorem departed_of_isJoining (joining : delivery.isJoining = true) :
    delivery.departed = true := by
  unfold departed
  rw [show delivery.courier = .joining by simpa [isJoining] using joining]

theorem forget_wakeIf_courier {condition : Bool}
    (departed : condition = true → delivery.departed = true) :
    (delivery.wakeIf condition .courier).forget = delivery.forget := by
  cases condition with
  | false => rfl
  | true =>
      have departed := departed rfl
      have still : (delivery.wake .courier).departed = true := departed
      show (delivery.wake .courier).forget = _
      rw [forget_of_departed departed, forget_of_departed still]
      simp [wake, nameDeparted]

/-- The turn of another worker is not seen. -/
theorem forget_alone_resumeLane (apart : delivery.reports.isSome = true) {place : Nat}
    (other : place ≠ index) :
    ((resumeLane place delivery).alone quiet index (told ++ blames (.lane place) delivery)).forget
      = (delivery.alone quiet index told).forget := by
  cases found : delivery.lanes[place]? with
  | none => simp [resumeLane, blames, found]
  | some lane =>
      have further : (delivery.setLane place lane.work.1).reports.isSome = true := apart
      have own : heard quiet index (lane.work.2.map (place, ·)) = [] := by
        rw [heard, of_places, if_neg other]
        rfl
      have unseen : (resumeLane place delivery).alone quiet index
          (told ++ blames (.lane place) delivery)
          = (delivery.alone quiet index told).wakeIf
            (lane.isLive && !lane.work.1.isLive && delivery.isJoining) .courier := by
        simp only [resumeLane, blames, found, foldl_report further, Option.map_some,
          Option.getD_some]
        show alone _ _ _ (wakeIf _ (lane.isLive && !lane.work.1.isLive && delivery.isJoining) _)
          = _
        generalize (lane.isLive && !lane.work.1.isLive && delivery.isJoining) = woken
        cases woken <;>
          simp [alone, wakeIf, wake, setLane, reportApart, heard_append, own, nameAlone,
            List.getElem?_set_ne other]
      rw [unseen]
      refine forget_wakeIf_courier fun woken => ?_
      rw [Bool.and_eq_true] at woken
      exact @departed_of_isJoining (delivery.alone quiet index told) woken.2

/-- The turn of a courier that has departed is not seen. -/
theorem forget_alone_departed (departed : delivery.departed = true) :
    (delivery.resumeCourier.alone quiet index (told ++ blames .courier delivery)).forget
      = (delivery.alone quiet index told).forget := by
  have departedAlone : (delivery.alone quiet index told).departed = true := departed
  unfold Delivery.departed at departed
  have silent : blames .courier delivery = [] := by
    refine if_neg fun forwarding => ?_
    rw [show delivery.courier = .forwarding by simpa [isForwarding] using forwarding] at departed
    cases departed
  rw [silent, List.append_nil]
  cases courier : delivery.courier with
  | joining =>
      simp only [resumeCourier, courier]
      rw [forget_alone_join, forget_join, forget_of_departed departedAlone]
  | finished => simp only [resumeCourier, courier]
  | lost => simp only [resumeCourier, courier]
  | _ => simp [courier] at departed

/-! ## What the owner does -/

theorem alone_wakeIf_courier (condition : Bool) :
    (delivery.wakeIf condition .courier).alone quiet index told
      = (delivery.alone quiet index told).wakeIf condition .courier := by
  cases condition with
  | false => rfl
  | true => simp [wakeIf, wake, alone, nameAlone]

theorem alone_publish (event : Event) :
    (delivery.publish event).alone quiet index told
      = (delivery.alone quiet index told).publish event :=
  alone_wakeIf_courier _

theorem alone_publishes (events : List Event) :
    (events.foldl publish delivery).alone quiet index told
      = events.foldl publish (delivery.alone quiet index told) := by
  induction events generalizing delivery with
  | nil => rfl
  | cons first rest inductionHypothesis =>
      rw [List.foldl_cons, List.foldl_cons, inductionHypothesis, alone_publish]

theorem alone_tellEnd :
    delivery.tellEnd.alone quiet index told = (delivery.alone quiet index told).tellEnd :=
  alone_wakeIf_courier _

theorem alone_abandonFeed :
    delivery.abandonFeed.alone quiet index told
      = (delivery.alone quiet index told).abandonFeed :=
  alone_wakeIf_courier _

theorem alone_permit (count : Nat) :
    (delivery.permit index count).alone quiet index told
      = (delivery.alone quiet index told).permit 0 count := by
  cases found : delivery.lanes[index]? with
  | none => simp [permit, alone, found]
  | some lane =>
      have inside := (List.getElem?_eq_some_iff.mp found).1
      have foundAlone : (delivery.alone quiet index told).lanes[0]? = some (lane.hush quiet) := by
        simp [alone, found]
      have gate : (lane.hush quiet).isAtGate = lane.isAtGate := rfl
      simp only [permit, found, foundAlone, Lane.gated_hush, Lane.hush_permit, gate]
      generalize (lane.isAtGate && lane.profile.gated && decide (0 < count)) = woken
      cases woken <;> simp [alone, wakeIf, wake, setLane, inside, nameAlone]

/-- Nobody sees what another subscriber is allowed. -/
theorem alone_permit_other {place : Nat} (other : place ≠ index) (count : Nat) :
    (delivery.permit place count).alone quiet index told = delivery.alone quiet index told := by
  cases found : delivery.lanes[place]? with
  | none => simp [permit, found]
  | some lane =>
      simp only [permit, found]
      generalize (lane.isAtGate && lane.profile.gated && decide (0 < count)) = woken
      cases woken <;>
        simp [alone, wakeIf, wake, setLane, nameAlone, other, List.getElem?_set_ne other]

theorem alone_lose :
    delivery.lose.alone quiet index told = (delivery.alone quiet index told).lose := by
  have courier : (delivery.alone quiet index told).courierRuns = delivery.courierRuns := rfl
  unfold lose
  rw [courier]
  cases found : delivery.lanes[index]? with
  | none => simp [alone, found]
  | some lane => simp [alone, found, Lane.hush_lose]

/-! ## What does not depend on a courier that has departed -/

theorem nameDeparted_idem (tasks : List DeliveryTask) :
    (tasks.filterMap nameDeparted).filterMap nameDeparted = tasks.filterMap nameDeparted := by
  rw [List.filterMap_filterMap]
  refine List.filterMap_congr fun task _ => ?_
  cases task <;> rfl

/-- What comes of a change does not depend on where a departed courier has gone. -/
def Forgets (change : Delivery → Delivery) : Prop :=
  ∀ delivery, (change delivery.forget).forget = (change delivery).forget

theorem forgets_of_departed {change : Delivery → Delivery}
    (departed : ∀ delivery : Delivery, delivery.departed = true →
      (change { delivery with
          courier := .finished, woken := delivery.woken.filterMap nameDeparted }).forget
        = (change delivery).forget) : Forgets change := fun delivery => by
  cases gone : delivery.departed with
  | false => rw [forget_of_present gone]
  | true => rw [forget_of_departed gone, departed delivery gone]

theorem forget_idem (delivery : Delivery) : delivery.forget.forget = delivery.forget := by
  cases gone : delivery.departed with
  | false => rw [forget_of_present gone, forget_of_present gone]
  | true =>
      rw [forget_of_departed gone, forget_of_departed rfl, nameDeparted_idem]

theorem Forgets.comp {first second : Delivery → Delivery} (early : Forgets first)
    (late : Forgets second) : Forgets (second ∘ first) := fun delivery => by
  show (second (first delivery.forget)).forget = (second (first delivery)).forget
  rw [← late (first delivery.forget), early delivery, late (first delivery)]

/-- Without a courier at the feed nobody is woken there. -/
theorem forgets_wakeIf_forwarding {change : Delivery → Delivery}
    (courier : ∀ delivery, (change delivery).courier = delivery.courier)
    (others : ∀ delivery : Delivery, change { delivery with
        courier := .finished, woken := delivery.woken.filterMap nameDeparted }
      = { change delivery with
          courier := .finished, woken := (change delivery).woken.filterMap nameDeparted }) :
    Forgets fun delivery => (change delivery).wakeIf delivery.isForwarding .courier :=
  forgets_of_departed fun delivery gone => by
    have busy : delivery.isForwarding = false := by
      unfold departed at gone
      cases courier : delivery.courier <;> simp_all [isForwarding]
    have still : (change delivery).departed = true := by
      unfold departed at gone ⊢
      rwa [courier]
    rw [busy, others]
    show forget { change delivery with
      courier := .finished, woken := (change delivery).woken.filterMap nameDeparted }
        = (change delivery).forget
    rw [forget_of_departed still, forget_of_departed rfl, nameDeparted_idem]

theorem forgets_publish (event : Event) : Forgets (publish · event) :=
  @forgets_wakeIf_forwarding
    (fun delivery => { delivery with feed := delivery.feed.publish event })
    (fun _ => rfl) fun _ => rfl

theorem forgets_publishes (events : List Event) : Forgets (events.foldl publish) := by
  induction events with
  | nil => exact fun delivery => delivery.forget_idem
  | cons first rest inductionHypothesis =>
      exact (forgets_publish first).comp inductionHypothesis

theorem forgets_tellEnd : Forgets tellEnd :=
  @forgets_wakeIf_forwarding (fun delivery => { delivery with ended := true })
    (fun _ => rfl) fun _ => rfl

theorem forgets_abandonFeed : Forgets abandonFeed :=
  @forgets_wakeIf_forwarding (fun delivery => { delivery with feedAbandoned := true })
    (fun _ => rfl) fun _ => rfl

theorem departed_wakeIf (condition : Bool) (task : DeliveryTask) :
    (delivery.wakeIf condition task).departed = delivery.departed := by
  cases condition <;> rfl

theorem forget_congr {left right : Delivery} (leftGone : left.departed = true)
    (rightGone : right.departed = true)
    (same : { left with courier := .finished, woken := left.woken.filterMap nameDeparted }
      = { right with courier := .finished, woken := right.woken.filterMap nameDeparted }) :
    left.forget = right.forget := by
  rw [forget_of_departed leftGone, forget_of_departed rightGone, same]

theorem forgets_permit (index count : Nat) : Forgets (permit · index count) :=
  forgets_of_departed fun delivery gone => by
    unfold permit
    cases found : delivery.lanes[index]? with
    | none => rw [← forget_of_departed gone, forget_idem]
    | some lane =>
        dsimp only
        generalize (lane.isAtGate && lane.profile.gated && decide (0 < count)) = woken
        refine forget_congr ((departed_wakeIf ..).trans rfl) ((departed_wakeIf ..).trans gone) ?_
        cases woken <;> simp [wakeIf, wake, setLane, nameDeparted_idem]

/-- A worker that finishes calls for the courier, unless the courier has finished, too. -/
theorem forgets_resumeLane (index : Nat) (apart : delivery.reports.isSome = true) :
    (resumeLane index delivery.forget).forget = (resumeLane index delivery).forget := by
  cases gone : delivery.departed with
  | false => rw [forget_of_present gone]
  | true =>
      rw [forget_of_departed gone]
      unfold resumeLane
      cases found : delivery.lanes[index]? with
      | none => rw [← forget_of_departed gone, forget_idem]
      | some lane =>
          have further : (delivery.setLane index lane.work.1).reports.isSome = true := apart
          have wakes (condition : Bool) {reached : Delivery} (gone : reached.departed = true) :
              (reached.wakeIf condition .courier).forget = reached.forget :=
            forget_wakeIf_courier fun _ => gone
          dsimp only
          rw [foldl_report further, @foldl_report (setLane { delivery with
              courier := .finished, woken := delivery.woken.filterMap nameDeparted } index
                lane.work.1) further, wakes _ rfl,
            @wakes _ ((delivery.setLane index lane.work.1).reportApart lane.work.2) gone]
          refine forget_congr rfl gone ?_
          simp [setLane, reportApart, nameDeparted_idem]

theorem forgets_lose : Forgets lose :=
  forgets_of_departed fun delivery gone => by
    refine forget_congr rfl ?_ rfl
    unfold departed at gone ⊢
    unfold lose courierRuns
    cases courier : delivery.courier <;> simp_all

end Delivery

end BoundedScene
