import BoundedScene.Proofs.Exchange.Reading
import BoundedScene.Proofs.Overflow.Publishing

/-!
Contract: a delivery that reports to its own feed reads it empty.

Owns:
- `Delivery.burden`, the number of reads that suffice whatever the queues refuse;
- `Delivery.obtained`, what the courier obtains when it reads;
- `Delivery.Empties`, how the courier comes to the end of its feed.

Main statement: `Delivery.draining_ends`.

Each event that the courier reads may add one report for each lane to the feed, behind
everything that is there.  The burden counts an event with the reports that it may bring about.
An overflow report brings about none, so that every read takes something off the burden.

Does not own: a courier that is overtaken on its own feed, which may go on for ever.
-/

namespace BoundedScene

namespace Delivery

variable {delivery : Delivery}

/-! ## The burden -/

/-- The events that the courier has before it. -/
def unread (delivery : Delivery) : List Event :=
  delivery.feed.unread delivery.position

/-- How many of some events are not overflow reports. -/
def ordinary (events : List Event) : Nat :=
  events.countP fun event => !event.isOverflow

/-- The reads that suffice: one for each event before the courier, and for each of them that is
not an overflow report one for each lane that may refuse it. -/
def burden (delivery : Delivery) : Nat :=
  delivery.unread.length + ordinary delivery.unread * delivery.lanes.length

theorem ordinary_append (first second : List Event) :
    ordinary (first ++ second) = ordinary first + ordinary second :=
  List.countP_append

/-- What is told of a refused event is an overflow report. -/
theorem ordinary_refusals (event : Event) (lanes : List Lane) :
    ordinary (lanes.filterMap (refusal? event)) = 0 := by
  apply List.countP_eq_zero.mpr
  intro report member
  rw [isOverflow_of_mem_refusals member]
  decide

/-- Nothing is told of an overflow report that is refused. -/
theorem refusals_of_overflow {event : Event} (overflow : event.isOverflow = true)
    (lanes : List Lane) : lanes.filterMap (refusal? event) = [] := by
  apply List.filterMap_eq_nil_iff.mpr
  intro lane _
  rw [refusal?_eq, if_pos overflow]

theorem own_emit (own : delivery.reports = none) (event : Event) :
    (delivery.emit event).reports = none := by
  have apart := (delivery.emit_reports event).apart
  rw [own] at apart
  exact Option.isSome_eq_false_iff.mp apart |> Option.isNone_iff_eq_none.mp

/-- A delivery that reports to its own feed publishes the refusals there. -/
theorem feed_emit (own : delivery.reports = none) (event : Event) :
    (delivery.emit event).feed.published
      = delivery.feed.published ++ delivery.lanes.filterMap (refusal? event) := by
  have published := delivery.published_emit event
  simpa only [reportBus, own, own_emit own, Option.getD_none] using published

/-- The courier goes on to the next event and hands on the one before. -/
def handOn (delivery : Delivery) (event : Event) : Delivery :=
  ({ delivery with position := ⟨delivery.position.position + 1⟩ } : Delivery).emit event

/-- When an event is handed on, the reports that it brings about come behind the rest. -/
theorem unread_handOn (own : delivery.reports = none) {event : Event}
    (next : delivery.feed.published[delivery.position.position]? = some event) :
    ∃ rest, delivery.unread = event :: rest
      ∧ (delivery.handOn event).unread
        = rest ++ delivery.lanes.filterMap (refusal? event) := by
  obtain ⟨inside, present⟩ := List.getElem?_eq_some_iff.mp next
  refine ⟨delivery.feed.published.drop (delivery.position.position + 1), ?_, ?_⟩
  · rw [← present]
    exact List.drop_eq_getElem_cons inside
  · let reader : Delivery := { delivery with position := ⟨delivery.position.position + 1⟩ }
    show (reader.emit event).feed.published.drop (reader.emit event).position.position = _
    rw [@feed_emit reader own, (reader.emit_reports event).position]
    exact List.drop_append_of_le_length inside

/-- To hand on an event takes something off the burden. -/
theorem burden_handOn (own : delivery.reports = none) {event : Event}
    (next : delivery.feed.published[delivery.position.position]? = some event) :
    (delivery.handOn event).burden + 1 ≤ delivery.burden := by
  obtain ⟨rest, before, after⟩ := unread_handOn own next
  have lanes : (delivery.handOn event).lanes.length = delivery.lanes.length := by
    unfold handOn
    rw [lanes_emit, List.length_map]
  unfold burden
  rw [before, after, lanes, ordinary_append, ordinary_refusals, Nat.add_zero (ordinary rest),
    List.length_append, List.length_cons]
  cases overflow : event.isOverflow with
  | true =>
      have same : ordinary (event :: rest) = ordinary rest :=
        List.countP_cons_of_neg (by simp [overflow])
      rw [refusals_of_overflow overflow, same, List.length_nil]
      omega
  | false =>
      have more : ordinary (event :: rest) = ordinary rest + 1 :=
        List.countP_cons_of_pos (by simp [overflow])
      have few := List.length_filterMap_le (refusal? event) delivery.lanes
      rw [more, Nat.add_mul]
      omega

/-! ## Reading -/

/-- What the courier obtains in at most so many reads. -/
def obtained : Nat → Delivery → List Receipt
  | 0, _ => []
  | reads + 1, delivery =>
      match delivery.feed.receive delivery.feedClosed delivery.position with
      | (.event event, position) =>
          .event event :: obtained reads ({ delivery with position }.emit event)
      | (.lagged missed, position) =>
          .lagged missed :: obtained reads ({ delivery with position }.miss missed)
      | _ => []

/-- However long the courier reads, it is not overtaken. -/
def NeverOvertaken (delivery : Delivery) : Prop :=
  ∀ reads missed, .lagged missed ∉ delivery.obtained reads

/-- One read of a courier: it is overtaken, or hands on an event, or has nothing to read. -/
inductive Reading (delivery : Delivery) : Prop where
  | overtaken (missed : Nat) (beyond : delivery.feed.slots < delivery.unread.length)
      (told : ∀ reads, .lagged missed ∈ delivery.obtained (reads + 1)) : Reading delivery
  | hands {event : Event} (kept : delivery.unread.length ≤ delivery.feed.slots)
      (next : delivery.feed.published[delivery.position.position]? = some event)
      (obtained : ∀ reads, delivery.obtained (reads + 1)
        = .event event :: (delivery.handOn event).obtained reads)
      (carried : ∀ reads, delivery.carry (reads + 1) = (delivery.handOn event).carry reads) :
      Reading delivery
  | nothing (empty : delivery.unread = [])
      (obtained : ∀ reads, delivery.obtained reads = [])
      (carried : ∀ reads, delivery.carry (reads + 1) = (true, delivery)) : Reading delivery

theorem reading (delivery : Delivery) : delivery.Reading := by
  have length : delivery.unread.length = delivery.feed.backlog delivery.position :=
    Bus.length_unread ..
  by_cases beyond : delivery.feed.slots < delivery.feed.backlog delivery.position
  · let missed := delivery.feed.backlog delivery.position - delivery.feed.slots
    refine .overtaken missed (by omega) ?_
    intro reads
    simp only [obtained, Bus.receive, if_pos beyond]
    exact List.mem_cons_self
  · cases next : delivery.feed.published[delivery.position.position]? with
    | some event =>
        refine .hands (by omega) next ?_ ?_
        · intro reads
          simp only [obtained, Bus.receive, if_neg beyond, next]
          rfl
        · intro reads
          simp only [carry, Bus.receive, if_neg beyond, next]
          rfl
    | none =>
        have empty : delivery.unread = [] :=
          List.drop_eq_nil_of_le (List.getElem?_eq_none_iff.mp next)
        refine .nothing empty ?_ ?_
        · intro reads
          cases reads with
          | zero => rfl
          | succ reads =>
              simp only [obtained, Bus.receive, if_neg beyond, next]
              cases delivery.feedClosed <;> rfl
        · intro reads
          simp only [carry, Bus.receive, if_neg beyond, next]
          cases delivery.feedClosed <;> rfl

theorem own_handOn (own : delivery.reports = none) (event : Event) :
    (delivery.handOn event).reports = none :=
  @own_emit { delivery with position := ⟨delivery.position.position + 1⟩ } own event

theorem carried_handOn (own : delivery.reports = none) {event : Event}
    (next : delivery.feed.published[delivery.position.position]? = some event) :
    (delivery.handOn event).carried = delivery.carried ++ [event] := by
  obtain ⟨inside, present⟩ := List.getElem?_eq_some_iff.mp next
  let reader : Delivery := { delivery with position := ⟨delivery.position.position + 1⟩ }
  show (reader.emit event).feed.published.take (reader.emit event).position.position = _
  rw [@feed_emit reader own, (reader.emit_reports event).position,
    List.take_append_of_le_length inside, ← present]
  exact List.take_succ_eq_append_getElem inside

/-- How far a courier comes that is not overtaken. -/
structure Carries (before : Delivery) (reads : Nat) (events : List Event) (emptied : Bool)
    (after : Delivery) : Prop where
  obtained : before.obtained reads = events.map Receipt.event
  carried : after.carried = before.carried ++ events
  burden : events.length + after.burden ≤ before.burden
  /-- It read until nothing was there, or as often as it was to. -/
  outcome : if emptied then after.unread = [] else events.length = reads

theorem carries (own : delivery.reports = none) {reads : Nat}
    (kept : ∀ missed, .lagged missed ∉ delivery.obtained reads) :
    ∃ events, Carries delivery reads events (delivery.carry reads).1
      (delivery.carry reads).2 := by
  induction reads generalizing delivery with
  | zero => exact ⟨[], rfl, (List.append_nil _).symm, Nat.le_of_eq (Nat.zero_add _), rfl⟩
  | succ reads inductionHypothesis =>
      cases delivery.reading with
      | overtaken missed beyond told => exact absurd (told reads) (kept missed)
      | nothing empty obtained carried =>
          rw [carried]
          exact ⟨[], obtained _, (List.append_nil _).symm, Nat.le_of_eq (Nat.zero_add _), empty⟩
      | @hands event near next obtained carried =>
          rw [obtained] at kept
          obtain ⟨events, later⟩ := inductionHypothesis (own_handOn own event) fun missed =>
            fun member => kept missed (List.mem_cons_of_mem _ member)
          have less := burden_handOn own next
          have rest := later.burden
          have outcome := later.outcome
          rw [carried]
          refine ⟨event :: events, ?_, ?_, ?_, ?_⟩
          · rw [obtained, later.obtained]
            rfl
          · rw [later.carried, carried_handOn own next, List.append_assoc]
            rfl
          · rw [List.length_cons]
            omega
          · generalize (carry reads (delivery.handOn event)).1 = emptied at outcome
            cases emptied with
            | true => exact outcome
            | false => exact congrArg (· + 1) outcome

/-- Who has room for the burden is not overtaken. -/
theorem neverOvertaken (own : delivery.reports = none)
    (room : delivery.burden ≤ delivery.feed.slots) : delivery.NeverOvertaken := by
  intro reads
  induction reads generalizing delivery with
  | zero => exact fun _ => List.not_mem_nil
  | succ reads inductionHypothesis =>
      intro lost
      cases delivery.reading with
      | overtaken missed beyond told =>
          have few : delivery.unread.length ≤ delivery.burden := Nat.le_add_right ..
          omega
      | nothing empty obtained =>
          rw [obtained]
          exact List.not_mem_nil
      | @hands event near next obtained =>
          have less := burden_handOn own next
          have slots : (delivery.handOn event).feed.slots = delivery.feed.slots :=
            (emit_reports _ event).slots
          have later := inductionHypothesis (own_handOn own event) (by omega) lost
          rw [obtained, List.mem_cons]
          exact not_or.mpr ⟨nofun, later⟩

/-! ## Turns of the courier -/

/-- The delivery while the courier has its turn. -/
def onTurn (delivery : Delivery) : Delivery :=
  { delivery with courier := .carrying }

/-- A turn reads often enough. -/
theorem burden_lt_reads (delivery : Delivery) : delivery.burden < delivery.reads := by
  have length : delivery.unread.length = delivery.feed.backlog delivery.position :=
    Bus.length_unread ..
  have few : ordinary delivery.unread ≤ delivery.feed.backlog delivery.position := by
    rw [← length]
    exact List.countP_le_length
  have most := Nat.mul_le_mul_right delivery.lanes.length few
  have room : (delivery.feed.backlog delivery.position + 1) * (delivery.lanes.length + 1)
      = delivery.feed.backlog delivery.position * delivery.lanes.length
        + delivery.feed.backlog delivery.position + delivery.lanes.length + 1 := by
    rw [Nat.add_mul, Nat.mul_add, Nat.mul_one, Nat.one_mul]
    omega
  unfold burden reads
  omega

theorem isDone_join (delivery : Delivery) : delivery.join.isDone := by
  unfold isDone join
  cases delivery.workersGone with
  | true => exact .inr rfl
  | false => exact .inl rfl

theorem closed_closeQueues (delivery : Delivery) :
    ∀ lane ∈ delivery.closeQueues.lanes, lane.closed = true := by
  intro lane member
  obtain ⟨before, -, rfl⟩ := List.mem_map.mp member
  rfl

/-- How the courier of a delivery that reports to its own feed comes to the end of it. -/
structure Empties (delivery : Delivery) : Prop where
  /-- However often it reads, it obtains consecutive events, no more than the burden. -/
  reads : ∀ reads, ∃ events,
    delivery.onTurn.obtained reads = events.map Receipt.event
      ∧ (delivery.onTurn.carry reads).2.carried = delivery.carried ++ events
      ∧ events.length
        ≤ delivery.unread.length + ordinary delivery.unread * delivery.lanes.length
  /-- If it may read more than that, it finds the feed empty. -/
  empties : ∀ reads,
    delivery.unread.length + ordinary delivery.unread * delivery.lanes.length < reads →
      (delivery.onTurn.carry reads).1 = true ∧ (delivery.onTurn.carry reads).2.unread = []
  /-- In one turn it reads everything.  Then it shuts down if it was told to end, with all
  queues closed, and otherwise it waits at the feed. -/
  turn : delivery.courier = .forwarding → ∃ events,
    delivery.onTurn.obtained delivery.reads = events.map Receipt.event
      ∧ delivery.resumeCourier.carried = delivery.carried ++ events
      ∧ events.length
        ≤ delivery.unread.length + ordinary delivery.unread * delivery.lanes.length
      ∧ delivery.resumeCourier.unread = []
      ∧ if delivery.ended then
          delivery.resumeCourier.isDone
            ∧ ∀ lane ∈ delivery.resumeCourier.lanes, lane.closed = true
        else delivery.resumeCourier.courier = .forwarding

theorem empties_of_neverOvertaken (own : delivery.reports = none)
    (kept : delivery.onTurn.NeverOvertaken) : delivery.Empties := by
  have whole (reads : Nat) (enough : delivery.burden < reads) :
      (delivery.onTurn.carry reads).1 = true ∧ (delivery.onTurn.carry reads).2.unread = [] := by
    obtain ⟨events, carries⟩ := @carries delivery.onTurn own reads (kept reads)
    have bound : events.length + _ ≤ delivery.burden := carries.burden
    have outcome := carries.outcome
    generalize (delivery.onTurn.carry reads).1 = emptied at outcome ⊢
    cases emptied with
    | true => exact ⟨rfl, outcome⟩
    | false =>
        have all : events.length = reads := outcome
        omega
  constructor
  case reads =>
    intro reads
    obtain ⟨events, carries⟩ := @carries delivery.onTurn own reads (kept reads)
    have bound : events.length + _ ≤ delivery.burden := carries.burden
    exact ⟨events, carries.obtained, carries.carried, Nat.le_of_add_right_le bound⟩
  case empties => exact whole
  case turn =>
    intro forwarding
    obtain ⟨events, carries⟩ := @carries delivery.onTurn own delivery.reads (kept _)
    have bound : events.length + _ ≤ delivery.burden := carries.burden
    obtain ⟨emptied, empty⟩ := whole delivery.reads delivery.burden_lt_reads
    have carried := carries.carried
    obtain ⟨position, framed⟩ := delivery.onTurn.carry_frame delivery.reads
    have turn : delivery.onTurn.carry delivery.reads
        = (true, (delivery.onTurn.carry delivery.reads).2) := Prod.ext emptied rfl
    have resumed := resumeCourier_forwarding forwarding turn
    generalize (delivery.onTurn.carry delivery.reads).2 = reached at *
    have open_ : reached.feedClosed = false := by
      have apart : reached.reports.isSome = false := by
        rw [framed.apart]
        exact congrArg Option.isSome own
      rw [feedClosed, apart, Bool.and_false]
    have ended : reached.ended = delivery.ended := framed.ended
    rw [open_, Bool.or_false, ended] at resumed
    refine ⟨events, carries.obtained, ?_⟩
    rw [resumed]
    cases delivery.ended with
    | true =>
        exact ⟨carried, Nat.le_of_add_right_le bound, empty, isDone_join _, closed_closeQueues _⟩
    | false => exact ⟨carried, Nat.le_of_add_right_le bound, empty, rfl⟩

/-- A delivery that reports to its own feed reads it empty, whatever its queues refuse, unless it
is overtaken there, and it is not if the feed has room for what may come. -/
theorem draining_ends (own : delivery.reports = none) :
    (delivery.burden ≤ delivery.feed.slots → delivery.onTurn.NeverOvertaken)
      ∧ (delivery.onTurn.NeverOvertaken → delivery.Empties) :=
  ⟨@neverOvertaken delivery.onTurn own, empties_of_neverOvertaken own⟩

/-- A delivery that was told to end, with two events to read, a queue for one event and a queue
that is gone. -/
def crowded : Delivery :=
  { feed := { slots := 8, published := [.plain .propStored, .plain .propFetched] }
    lanes := [{ profile := { name := "slow", capacity := 1 } },
      { profile := { name := "gone" }, worker := .lost }]
    courier := .forwarding
    ended := true }

/-- Three refusals are read after the two events, and are refused themselves. -/
theorem crowded_empties :
    crowded.reports = none ∧ crowded.Empties
      ∧ crowded.resumeCourier.carried.map Event.subscriber
        = [none, none, some "gone", some "slow", some "gone"] :=
  have ends := draining_ends (show crowded.reports = none from rfl)
  ⟨rfl, ends.2 (ends.1 (by decide)), by decide⟩

end Delivery

end BoundedScene
