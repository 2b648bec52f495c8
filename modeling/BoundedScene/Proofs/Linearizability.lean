import BoundedScene.Proofs.Account
import BoundedScene.Proofs.Places

/-!
Contract: the calls on a scene are linearizable.

Owns:
- what a caller can conclude from its reply and its answer;
- the order of two calls one of which returned before the other started;
- `Linearizable`, and the proof that every reachable scene is.

Main statement: `Session.linearizable`.

Does not own: the reference, and which calls get no reply.
-/

namespace BoundedScene

namespace Session

variable {V : Type} {session : Session V} {id : Nat} {call : Call V}
  {records : List (Happening V)}

/-! ## What a story says of replies -/

theorem Story.sends_of_entered (story : Story session id call records) {envelope : Envelope V}
    (entered : .entered envelope ∈ records) :
    call.request.command? = some envelope.command := by
  induction story with
  | cancelled lived unfinished inductionHypothesis =>
      rw [List.mem_append, List.mem_singleton] at entered
      rcases entered with earlier | last
      · exact inductionHypothesis earlier
      · cases last
  | destroyed lived unfinished stopped inductionHypothesis => exact inductionHypothesis entered
  | fresh => cases entered
  | seeking => simp at entered
  | asking => simp at entered
  | answered => simp at entered
  | refused => simp at entered
  | queued sends => simp_all
  | processed sends => simp_all [processedStory]
  | overtaken sends => simp_all
  | replied sends => simp_all [processedStory]
  | overtakenTold sends => simp_all
  | processedLate sends => simp_all
  | _ => simp_all [registeredStory, processedStory, Request.command?]

theorem Story.processed_of_replied (story : Story session id call records)
    {response : Response V} (replied : .replied id response ∈ records) :
    ∃ command, call.request.command? = some command
      ∧ .processed { caller := id, command, response } ∈ records := by
  induction story with
  | cancelled lived unfinished inductionHypothesis =>
      rw [List.mem_append, List.mem_singleton] at replied
      rcases replied with earlier | last
      · obtain ⟨command, sends, processed⟩ := inductionHypothesis earlier
        exact ⟨command, sends, List.mem_append_left _ processed⟩
      · cases last
  | destroyed lived unfinished stopped inductionHypothesis => exact inductionHypothesis replied
  | replied sends final =>
      obtain rfl : response = _ := by simpa [processedStory] using replied
      exact ⟨_, sends, by simp [processedStory]⟩
  | listening =>
      obtain rfl : response = _ := by simpa [registeredStory, processedStory] using replied
      exact ⟨_, rfl, by simp [registeredStory, processedStory]⟩
  | deserted =>
      obtain rfl : response = _ := by simpa [registeredStory, processedStory] using replied
      exact ⟨_, rfl, by simp [registeredStory, processedStory]⟩
  | signalled =>
      obtain rfl : response = _ := by simpa [registeredStory, processedStory] using replied
      exact ⟨_, rfl, by simp [registeredStory, processedStory]⟩
  | expired =>
      obtain rfl : response = _ := by simpa [registeredStory, processedStory] using replied
      exact ⟨_, rfl, by simp [registeredStory, processedStory]⟩
  | desertedTold =>
      obtain rfl : response = _ := by simpa [registeredStory, processedStory] using replied
      exact ⟨_, rfl, by simp [registeredStory, processedStory]⟩
  | _ => simp [processedStory] at replied

/-- A call that waits for nothing but its reply is answered with it. -/
theorem Story.answer_of_replied (story : Story session id call records) {answer : Answer V}
    {millisecond : Nat} (finished : call.stage = .finished answer millisecond)
    {response : Response V} (replied : .replied id response ∈ records)
    (final : ∀ topic limit, call.request ≠ .waitSignal topic limit) :
    answer = responseAnswer response := by
  cases story with
  | replied sends direct =>
      obtain rfl : response = _ := by simpa [processedStory] using replied
      cases finished
      rfl
  | answered => simp at replied
  | refused => simp at replied
  | overtakenTold => simp at replied
  | @signalled topic limit => exact absurd rfl (final topic limit)
  | @expired topic limit => exact absurd rfl (final topic limit)
  | @desertedTold topic limit => exact absurd rfl (final topic limit)
  | _ => cases finished

/-- A wait for a signal comes to a good end just if a signal reached it. -/
theorem Story.done_iff (story : Story session id call records) {topic : String} {limit : Span}
    (waits : call.request = .waitSignal topic limit) {answer : Answer V} {millisecond : Nat}
    (finished : call.stage = .finished answer millisecond) :
    answer = .done
      ↔ call.signal = .raised ∧ records.filterMap Happening.processed? ≠ [] := by
  have unsettled (result : Except SceneError Unit) :
      terminalAnswer (.waitSignal topic limit : Request V) result ≠ .done := by
    cases result <;> simp [terminalAnswer]
  cases story with
  | answered plain =>
      cases waits
      cases plain
  | refused sends late =>
      cases finished
      simp [Happening.processed?]
  | replied sends direct => exact absurd waits (direct topic limit)
  | overtakenTold sends late set =>
      cases waits
      cases finished
      simp [Happening.processed?, unsettled]
  | signalled =>
      cases finished
      simp [registeredStory, processedStory, Happening.processed?]
  | expired =>
      cases finished
      simp
  | desertedTold unsignalled set =>
      cases waits
      cases finished
      simp [unsettled, unsignalled]
  | _ => cases finished

/-! ## What a story says of time -/

/-- Nothing happens to a call before it starts, and it starts once. -/
theorem Story.started_first (story : Story session id call records)
    (started : .started id ∈ records) :
    ∃ rest, records = .started id :: rest ∧ .started id ∉ rest := by
  induction story with
  | fresh => cases started
  | destroyed lived unfinished stopped inductionHypothesis => exact inductionHypothesis started
  | cancelled lived unfinished inductionHypothesis =>
      obtain ⟨rest, rfl, unrepeated⟩ := inductionHypothesis (by simpa using started)
      exact ⟨_, rfl, by simpa using unrepeated⟩
  | _ => exact ⟨_, rfl, by simp⟩

/-- Nothing happens to a call after its answer, and it is answered once. -/
theorem Story.answered_last (story : Story session id call records) {answer : Answer V}
    (answered : .answered id answer ∈ records) :
    call.isUnfinished = false
      ∧ ∃ first, records = first ++ [.answered id answer]
          ∧ ∀ other, .answered id other ∉ first := by
  induction story with
  | destroyed lived unfinished stopped inductionHypothesis =>
      rw [(inductionHypothesis answered).1] at unfinished
      cases unfinished
  | cancelled lived unfinished inductionHypothesis =>
      have earlier := by simpa using answered
      rw [(inductionHypothesis earlier).1] at unfinished
      cases unfinished
  | @answered request signal told millisecond plain =>
      obtain rfl : answer = told := by simpa using answered
      exact ⟨rfl, [.started id], rfl, by simp⟩
  | refused sends late =>
      obtain rfl : answer = .failed .ended := by simpa using answered
      exact ⟨rfl, [.started id], rfl, by simp⟩
  | @replied request signal command response millisecond sends final =>
      obtain rfl : answer = responseAnswer response := by simpa [processedStory] using answered
      refine ⟨rfl, processedStory id command response ++ [.replied id response], ?_, ?_⟩
      · simp
      · simp [processedStory]
  | @overtakenTold request signal command result millisecond sends late set =>
      obtain rfl : answer = terminalAnswer request result := by simpa using answered
      exact ⟨rfl, [.started id, .entered { caller := id, command }, .overtaken id], rfl, by simp⟩
  | @signalled topic limit reply millisecond =>
      obtain rfl : answer = .done := by
        simpa [registeredStory, processedStory] using answered
      exact ⟨rfl, registeredStory id topic reply, rfl, by simp [registeredStory, processedStory]⟩
  | @expired topic limit reply millisecond =>
      obtain rfl : answer = .failed (.waitedTooLong topic) := by
        simpa [registeredStory, processedStory] using answered
      exact ⟨rfl, registeredStory id topic reply, rfl, by simp [registeredStory, processedStory]⟩
  | @desertedTold topic limit signal reply result millisecond unsignalled set =>
      obtain rfl : answer = terminalAnswer (.waitSignal topic limit) result := by
        simpa [registeredStory, processedStory] using answered
      refine ⟨rfl, registeredStory id topic reply ++ [.overtaken id], ?_, ?_⟩
      · simp
      · simp [registeredStory, processedStory]
  | fresh => cases answered
  | _ => simp [registeredStory, processedStory] at answered

/-! ## Two calls -/

theorem Chronicle.story_of_mem (chronicle : session.Chronicle) {happening : Happening V}
    (recorded : happening ∈ session.recordsOf id) :
    ∃ call, session.calls[id]? = some call ∧ Story session id call (session.recordsOf id) := by
  cases found : session.calls[id]? with
  | some call => exact ⟨call, rfl, chronicle.stories id call found⟩
  | none =>
      rw [chronicle.unborn id found] at recorded
      cases recorded

/-- Nothing about a call is recorded after its answer. -/
theorem Chronicle.silent_after_answer (chronicle : session.Chronicle)
    {early late : List (Happening V)} {answer : Answer V}
    (split : session.happenings = early ++ .answered id answer :: late) :
    late.filter (Happening.isAbout id) = [] := by
  have records := recordsOf_of_split rfl split
  have answered : .answered id answer ∈ session.recordsOf id := by
    rw [records]
    exact List.mem_append_right _ (List.mem_cons_self ..)
  obtain ⟨call, -, story⟩ := chronicle.story_of_mem answered
  obtain ⟨-, first, same, unrepeated⟩ := story.answered_last answered
  rw [records] at same
  by_contra more
  have shorter := congrArg List.dropLast same
  rw [List.dropLast_concat, List.dropLast_append_of_ne_nil (List.cons_ne_nil _ _),
    List.dropLast_cons_of_ne_nil more] at shorter
  exact unrepeated answer (shorter ▸ List.mem_append_right _ (List.mem_cons_self ..))

/-- Nothing about a call is recorded before its start. -/
theorem Chronicle.silent_before_start (chronicle : session.Chronicle)
    {early late : List (Happening V)}
    (split : session.happenings = early ++ .started id :: late) :
    early.filter (Happening.isAbout id) = [] := by
  have records := recordsOf_of_split rfl split
  have started : .started id ∈ session.recordsOf id := by
    rw [records]
    exact List.mem_append_right _ (List.mem_cons_self ..)
  obtain ⟨call, -, story⟩ := chronicle.story_of_mem started
  obtain ⟨rest, same, unrepeated⟩ := story.started_first started
  rw [records] at same
  cases before : early.filter (Happening.isAbout id) with
  | nil => rfl
  | cons head tail =>
      rw [before, List.cons_append] at same
      obtain ⟨-, tails⟩ := List.cons.inj same
      exact absurd (tails ▸ List.mem_append_right _ (List.mem_cons_self ..)) unrepeated

/-- If a call returned before another started, its command was processed first. -/
theorem Chronicle.realTime (chronicle : session.Chronicle) {first second : Processed V}
    (processedFirst : first ∈ session.ledger) (processedSecond : second ∈ session.ledger)
    {answer : Answer V}
    (precedes : [.answered first.caller answer, .started second.caller].Sublist
      session.happenings) : [first, second].Sublist session.ledger := by
  have about (entry : Processed V) :
      (Happening.processed entry).isAbout entry.caller = true := by
    simp [Happening.isAbout, Happening.subject?]
  obtain ⟨early, middle, late, split⟩ := exists_split_of_sublist precedes
  have again : session.happenings
      = (early ++ .answered first.caller answer :: middle) ++ .started second.caller :: late := by
    rw [split]
    simp
  have firstEarly : .processed first ∈ early := by
    have member := mem_ledger.mp processedFirst
    rw [split, List.mem_append, List.mem_cons] at member
    rcases member with before | same | after
    · exact before
    · cases same
    · have listed := List.mem_filter.mpr ⟨after, about first⟩
      rw [chronicle.silent_after_answer split] at listed
      cases listed
  have secondLate : .processed second ∈ late := by
    have member := mem_ledger.mp processedSecond
    rw [again, List.mem_append, List.mem_cons] at member
    rcases member with before | same | after
    · have listed := List.mem_filter.mpr ⟨before, about second⟩
      rw [chronicle.silent_before_start again] at listed
      cases listed
    · cases same
    · exact after
  have listedFirst : first ∈ early.filterMap Happening.processed? :=
    List.mem_filterMap.mpr ⟨_, firstEarly, rfl⟩
  have listedSecond : second ∈ (middle ++ .started second.caller :: late).filterMap
      Happening.processed? :=
    List.mem_filterMap.mpr
      ⟨_, List.mem_append_right _ (List.mem_cons_of_mem _ secondLate), rfl⟩
  unfold ledger
  rw [split, List.filterMap_append]
  exact (List.singleton_sublist.mpr listedFirst).append (List.singleton_sublist.mpr listedSecond)

/-! ## The main statement -/

/-- The calls on a scene so far are linearizable: the processed commands are in the order
in which they entered the mailbox, every caller has what the sequential reference gives
for its command, a caller is gone from the reference just if it listens no more, and a call
that returned before another started comes first. -/
structure Linearizable (session : Session V) : Prop where
  ordered : session.ledger.map Processed.envelope <+: session.arrivals
  once : (session.arrivals.map Envelope.caller).Nodup
  own : ∀ envelope ∈ session.arrivals, ∃ call, session.calls[envelope.caller]? = some call
    ∧ call.request.command? = some envelope.command
  sequential : session.ledger = (Reference.outcomes session.inputs).map Outcome.entry
  replies : ∀ id response, .replied id response ∈ session.happenings → ∃ call command,
    session.calls[id]? = some call ∧ call.request.command? = some command
      ∧ { caller := id, command, response } ∈ session.ledger
  answers : ∀ id call answer millisecond response, session.calls[id]? = some call →
    call.stage = .finished answer millisecond → .replied id response ∈ session.happenings →
      (∀ topic limit, call.request ≠ .waitSignal topic limit) → answer = responseAnswer response
  signals : ∀ id call topic limit answer millisecond, session.calls[id]? = some call →
    call.request = .waitSignal topic limit → call.stage = .finished answer millisecond →
      (answer = .done ↔ id ∈ session.reference.taken)
  listeners : session.backendRuns = true → ∀ entry ∈ session.ledger,
    (session.listens entry.caller = true ↔ entry.caller ∉ session.reference.gone)
  realTime : ∀ first ∈ session.ledger, ∀ second ∈ session.ledger, ∀ answer,
    [.answered first.caller answer, .started second.caller].Sublist session.happenings →
      [first, second].Sublist session.ledger

/-- Every run of every scene is linearizable at every moment. -/
theorem linearizable {session : Session V} (reachable : Reachable session) :
    session.Linearizable := by
  have chronicle := reachable.passed.chronicle
  have accounted := reachable.passed.accounted
  have replied {id : Nat} {response : Response V}
      (recorded : .replied id response ∈ session.happenings) :
      .replied id response ∈ session.recordsOf id := (mem_recordsOf rfl).mpr recorded
  constructor
  case ordered =>
    exact chronicle.ordered
  case once =>
    exact chronicle.distinct
  case own =>
    intro envelope arrived
    have entered := entered_mem_recordsOf arrived
    obtain ⟨call, found, story⟩ := chronicle.story_of_mem entered
    exact ⟨call, found, story.sends_of_entered entered⟩
  case sequential =>
    exact accounted.ledger
  case replies =>
    intro id response recorded
    obtain ⟨call, found, story⟩ := chronicle.story_of_mem (replied recorded)
    obtain ⟨command, sends, processed⟩ := story.processed_of_replied (replied recorded)
    exact ⟨call, command, found, sends, mem_ledger.mpr ((mem_recordsOf rfl).mp processed)⟩
  case answers =>
    intro id call answer millisecond response found finished recorded final
    exact (chronicle.stories id call found).answer_of_replied finished (replied recorded) final
  case signals =>
    intro id call topic limit answer millisecond found waits finished
    have signalled := accounted.signals id call found
    rw [(chronicle.stories id call found).done_iff waits finished, signalled]
    refine ⟨And.left, fun taken => ⟨taken, ?_⟩⟩
    exact (chronicle.processed (accounted.known id (List.mem_append_left _ taken))).2
  case listeners =>
    intro runs entry processed
    rw [chronicle.listens runs (List.mem_map_of_mem processed), decide_eq_true_iff]
  case realTime =>
    intro first processedFirst second processedSecond answer precedes
    exact chronicle.realTime processedFirst processedSecond precedes

/-- Two callers store under one key; the second one has to wait for the only slot. -/
def raceOfStores : List (Move Nat) :=
  [.act (.call (.store "n" 1 none)), .act (.call (.store "n" 2 none)), .resume (.call 0),
    .resume (.call 1), .resume .backend, .resume (.call 1), .resume .backend]

theorem linearizable_raceOfStores :
    (plain.moves raceOfStores).ledger.map Processed.response
        = [.ok .done, .error (.propAlreadyExists "n")]
      ∧ (plain.moves raceOfStores).Linearizable :=
  ⟨rfl, linearizable (reachable_plain.moves raceOfStores)⟩

end Session

end BoundedScene
