import BoundedScene.Proofs.EventStream
import Mathlib.Data.List.Induction

/-!
Contract: who waits for a signal, read off the journal.

Owns:
- the waiters and the taken callers of the reference, by the inputs that put them there;
- `StillWaits`, that a caller waits for a topic, in terms of the records alone;
- the moment at which a command was processed, as a scene of the same run;
- `Patient`, that nobody turns to the end of a scene before it starts to end.

Main statement: `Passed.mem_waiting_iff`.

Does not own: what becomes of a waiter that a signal took.
-/

namespace BoundedScene

open BoundedScene.Supervision (Control)

/-! ## The waiters of the reference -/

/-- An input after which a caller does not wait for a topic any more. -/
def Input.frees {V : Type} (topic : String) (id : Nat) : Input V → Bool
  | .command envelope =>
      match envelope.command with
      | .signal name => name == topic
      | _ => false
  | .departure caller => caller == id

namespace Reference

variable {V : Type}

/-- Whoever waits after an input waited before and is not freed by it, or registers with
it in time. -/
theorem mem_waiting_next (reference : Reference V) (input : Input V) (topic : String) (id : Nat) :
    id ∈ (reference.next input).waiting topic
      ↔ id ∈ reference.waiting topic ∧ input.frees topic id = false
        ∨ input = .command { caller := id, command := .subscribe topic }
          ∧ id ∉ reference.gone := by
  cases input with
  | departure caller =>
      have differs : id ≠ caller ↔ caller ≠ id := ne_comm
      simp [next, depart, Input.frees, differs]
  | command envelope =>
      obtain ⟨caller, command⟩ := envelope
      cases command with
      | store prop => unfold next perform; dsimp only; split <;> simp [Input.frees]
      | fetch key => unfold next perform; dsimp only; split <;> simp [Input.frees]
      | dispose key => unfold next perform; dsimp only; split <;> simp [Input.frees]
      | signal name =>
          unfold next perform
          dsimp only
          by_cases same : topic = name
          · subst same
            split
            case h_1 none => simp [none, Input.frees]
            case h_2 => simp [Input.frees]
          · have other : ¬name = topic := fun equal => same equal.symm
            split <;> simp [Function.update_of_ne same, Input.frees, other]
      | subscribe name =>
          unfold next perform
          dsimp only
          by_cases same : topic = name
          · subst same
            have own : caller = id ↔ id = caller := eq_comm
            split
            case isTrue gone =>
              refine ⟨fun member => .inl ⟨member, rfl⟩, ?_⟩
              rintro (⟨member, -⟩ | ⟨equal, present⟩)
              · exact member
              · cases equal
                exact absurd gone present
            case isFalse present =>
              simp only [Function.update_self, List.mem_append, List.mem_singleton, Input.frees]
              refine or_congr (by simp) ⟨?_, ?_⟩
              · rintro rfl
                exact ⟨rfl, present⟩
              · rintro ⟨equal, -⟩
                cases equal
                rfl
          · have other : ¬name = topic := fun equal => same equal.symm
            split <;> simp [Function.update_of_ne same, Input.frees, other]

theorem after_concat (inputs : List (Input V)) (input : Input V) :
    after (inputs ++ [input]) = (after inputs).next input := by
  rw [after_append]
  rfl

/-- Whoever waits has registered in time and was not freed since. -/
theorem mem_waiting_after (inputs : List (Input V)) (topic : String) (id : Nat) :
    id ∈ (after inputs).waiting topic
      ↔ ∃ early late,
        inputs = early ++ .command { caller := id, command := .subscribe topic } :: late
          ∧ .departure id ∉ early ∧ ∀ input ∈ late, input.frees topic id = false := by
  induction inputs using List.reverseRecOn with
  | nil => simp [after]
  | append_singleton inputs input inductionHypothesis =>
      rw [after_concat, mem_waiting_next, inductionHypothesis, mem_gone_after]
      constructor
      · rintro (⟨⟨early, late, rfl, present, kept⟩, still⟩ | ⟨rfl, present⟩)
        · refine ⟨early, late ++ [input], by simp, present, fun other member => ?_⟩
          rcases List.mem_append.mp member with before | last
          · exact kept other before
          · exact List.mem_singleton.mp last ▸ still
        · exact ⟨inputs, [], rfl, present, by simp⟩
      · rintro ⟨early, late, split, present, kept⟩
        rcases place_of_append split with ⟨rest, before, rfl⟩ | ⟨opening, rfl, last⟩
        · exact .inl ⟨⟨early, rest, before, present, fun other member =>
            kept other (List.mem_append_left _ member)⟩, kept input (by simp)⟩
        · cases opening with
          | nil =>
              obtain ⟨rfl, -⟩ := List.cons.inj last
              exact .inr ⟨rfl, by simpa using present⟩
          | cons head tail => simp at last

/-- A signal takes every waiter of its topic, and none of another. -/
theorem perform_signal (reference : Reference V) (caller : Nat) (topic : String) :
    (reference.perform caller (.signal topic)).1.woken = reference.waiting topic
      ∧ (reference.perform caller (.signal topic)).1.response
        = (if reference.waiting topic = [] then .error (.noSubscriber topic) else .ok .done)
      ∧ ∀ name, name ≠ topic →
        (reference.perform caller (.signal topic)).2.waiting name = reference.waiting name := by
  unfold perform
  dsimp only
  split
  case h_1 none => simp [none]
  case h_2 some =>
    exact ⟨rfl, (if_neg some).symm, fun name other => Function.update_of_ne other _ _⟩

theorem mem_woken_perform (reference : Reference V) (caller : Nat) (command : Command V)
    (id : Nat) : id ∈ (reference.perform caller command).1.woken
      ↔ ∃ topic, command = .signal topic ∧ id ∈ reference.waiting topic := by
  cases command with
  | store prop => unfold perform; dsimp only; split <;> simp
  | fetch key => unfold perform; dsimp only; split <;> simp
  | dispose key => unfold perform; dsimp only; split <;> simp
  | signal topic => unfold perform; dsimp only; split <;> simp_all
  | subscribe topic => simp [perform]

/-- Whoever was taken waited when some signal came. -/
theorem mem_taken_after (inputs : List (Input V)) (id : Nat) :
    id ∈ (after inputs).taken
      ↔ ∃ early envelope late topic, inputs = early ++ .command envelope :: late
        ∧ envelope.command = .signal topic ∧ id ∈ (after early).waiting topic := by
  induction inputs using List.reverseRecOn with
  | nil => simp [after]
  | append_singleton inputs input inductionHypothesis =>
      have earlier (taken : id ∈ (after inputs).taken) :
          ∃ early envelope late topic, inputs ++ [input] = early ++ .command envelope :: late
            ∧ envelope.command = .signal topic ∧ id ∈ (after early).waiting topic := by
        obtain ⟨early, envelope, late, topic, rfl, signals, waits⟩ := inductionHypothesis.mp taken
        exact ⟨early, envelope, late ++ [input], topic, by simp, signals, waits⟩
      rw [after_concat]
      constructor
      · intro taken
        cases input with
        | departure caller => exact earlier taken
        | command envelope =>
            rw [next, taken_perform, List.mem_append, mem_woken_perform] at taken
            rcases taken with before | ⟨topic, signals, waits⟩
            · exact earlier before
            · exact ⟨inputs, envelope, [], topic, rfl, signals, waits⟩
      · rintro ⟨early, envelope, late, topic, split, signals, waits⟩
        rcases place_of_append split with ⟨rest, before, rfl⟩ | ⟨opening, rfl, last⟩
        · have taken : id ∈ (after inputs).taken :=
            inductionHypothesis.mpr ⟨early, envelope, rest, topic, before, signals, waits⟩
          cases input with
          | departure caller => exact taken
          | command other =>
              rw [next, taken_perform]
              exact List.mem_append_left _ taken
        · cases opening with
          | nil =>
              obtain ⟨rfl, -⟩ := List.cons.inj last
              rw [List.append_nil] at waits
              rw [next, taken_perform, List.mem_append, mem_woken_perform]
              exact .inr ⟨topic, signals, waits⟩
          | cons head tail => simp at last

end Reference

/-! ## Waiting by the records -/

namespace Happening

variable {V : Type}

/-- A signal on a topic was processed. -/
def signals (topic : String) : Happening V → Bool
  | .processed entry =>
      match entry.command with
      | .signal name => name == topic
      | _ => false
  | _ => false

theorem signals_eq_true {happening : Happening V} {topic : String} :
    happening.signals topic = true
      ↔ ∃ entry, happening = .processed entry ∧ entry.command = .signal topic := by
  cases happening with
  | processed entry => cases command : entry.command <;> simp [signals, command]
  | _ => simp [signals]

/-- The caller whose command was processed. -/
def served? (happening : Happening V) : Option Nat :=
  happening.processed?.map Processed.caller

theorem input?_eq_command {happening : Happening V} {envelope : Envelope V} :
    happening.input? = some (.command envelope)
      ↔ ∃ entry : Processed V, happening = .processed entry ∧ entry.envelope = envelope := by
  cases happening <;> simp [input?]

theorem signals_eq_frees {happening : Happening V} {input : Input V} {topic : String} {id : Nat}
    (told : happening.input? = some input) (stays : input ≠ .departure id) :
    input.frees topic id = happening.signals topic := by
  cases happening with
  | processed entry =>
      obtain rfl := Option.some.inj told
      cases command : entry.command <;> simp [Input.frees, signals, Processed.envelope, command]
  | overtaken other =>
      obtain rfl := Option.some.inj told
      simpa [Input.frees, signals] using stays
  | answered other answer =>
      obtain rfl := Option.some.inj told
      simpa [Input.frees, signals] using stays
  | cancelled other =>
      obtain rfl := Option.some.inj told
      simpa [Input.frees, signals] using stays
  | _ => cases told

end Happening

/-- A registration that was processed. -/
def Processed.registration {V : Type} (topic : String) (id : Nat) : Processed V where
  caller := id
  command := .subscribe topic
  response := .ok .done

/-- A caller waits for a signal on a topic at the end of a history.

- `registered`: its registration was processed, and no signal on the topic since then;
- `patient`: it has not been told that it waited too long;
- `kept`: it was not cancelled. -/
structure StillWaits {V : Type} (topic : String) (history : List (Happening V)) (id : Nat) :
    Prop where
  registered : ∃ early late,
    history = early ++ .processed (.registration topic id) :: late
      ∧ late.any (Happening.signals topic) = false
  patient : .answered id (.failed (.waitedTooLong topic)) ∉ history
  kept : .cancelled id ∉ history

section Inputs

variable {V : Type}

theorem inputsOf_place {early late : List (Happening V)} {happening : Happening V}
    {input : Input V} (told : happening.input? = some input) :
    inputsOf (early ++ happening :: late) = inputsOf early ++ input :: inputsOf late := by
  unfold inputsOf
  rw [List.filterMap_append, List.filterMap_cons_some told]

theorem place_of_input {history : List (Happening V)} {early late : List (Input V)}
    {input : Input V} (split : inputsOf history = early ++ input :: late) :
    ∃ first happening last, history = first ++ happening :: last
      ∧ happening.input? = some input ∧ inputsOf first = early ∧ inputsOf last = late := by
  obtain ⟨opening, closing, rfl, opened, closed⟩ := List.filterMap_eq_append_iff.mp split
  obtain ⟨skipped, happening, last, rfl, silent, told, rest⟩ :=
    List.filterMap_eq_cons_iff.mp closed
  refine ⟨opening ++ skipped, happening, last, by simp, told, ?_, rest⟩
  unfold inputsOf
  rw [List.filterMap_append, opened, List.filterMap_eq_nil_iff.mpr silent, List.append_nil]

theorem mem_inputsOf {history : List (Happening V)} {happening : Happening V} {input : Input V}
    (recorded : happening ∈ history) (told : happening.input? = some input) :
    input ∈ inputsOf history :=
  List.mem_filterMap.mpr ⟨happening, recorded, told⟩

/-- Whoever was taken waited when some signal was processed. -/
theorem mem_taken_inputsOf (history : List (Happening V)) (id : Nat) :
    id ∈ (Reference.after (inputsOf history)).taken
      ↔ ∃ early entry late topic, history = early ++ .processed entry :: late
        ∧ entry.command = .signal topic
        ∧ id ∈ (Reference.after (inputsOf early)).waiting topic := by
  rw [Reference.mem_taken_after]
  constructor
  · rintro ⟨early, envelope, late, topic, split, signals, waits⟩
    obtain ⟨first, happening, last, rfl, told, rfl, rfl⟩ := place_of_input split
    obtain ⟨entry, rfl, rfl⟩ := Happening.input?_eq_command.mp told
    exact ⟨first, entry, last, topic, rfl, signals, waits⟩
  · rintro ⟨early, entry, late, topic, rfl, signals, waits⟩
    exact ⟨inputsOf early, entry.envelope, inputsOf late, topic, inputsOf_place rfl, signals, waits⟩

end Inputs

namespace Session

variable {V : Type} {session before after : Session V} {id : Nat}

/-! ## Nobody turns to the end too early -/

/-- Nobody has turned to the end of a scene, or was let go of, before it started to end. -/
structure Patient (session : Session V) : Prop where
  overtaken : ∀ id, .overtaken id ∈ session.happenings → session.control.ending = true
  released : ∀ (id : Nat) (call : Call V), session.calls[id]? = some call →
    call.signal = .released → session.control.ending = true

theorem ResultTurn.unovertaken {control : Control SceneError} {request : Request V}
    {log : List (Happening V)} {stage : Stage V} (turn : ResultTurn control id request log stage)
    (other : Nat) : .overtaken other ∉ log := by
  cases turn <;> simp

theorem SignalTurn.ending_of_overtaken {control : Control SceneError} {clock : Clock}
    {call : Call V} {topic : String} {deadline : Option Nat} {log : List (Happening V)}
    {stage : Stage V} (turn : SignalTurn control clock id call topic deadline log stage)
    (released : call.signal = .released → control.ending = true) {other : Nat}
    (overtaken : .overtaken other ∈ log) : control.ending = true := by
  cases turn with
  | overtaken lapsed turn => exact lapsed.elim released And.right
  | _ => simp at overtaken

/-- A call turns to the end of the scene only once that has started. -/
theorem CallTurn.ending_of_overtaken {call : Call V} {log : List (Happening V)}
    {changes : List (CallChange V)} {mailbox : Mailbox (Envelope V)}
    (turn : CallTurn before id call log changes mailbox) {records : List (Happening V)}
    (story : Story before id call records)
    (released : call.signal = .released → before.control.ending = true) {other : Nat}
    (overtaken : .overtaken other ∈ log) : before.control.ending = true := by
  cases turn with
  | overtaken waiting lapsed turn =>
      exact lapsed.elim (story.ending_of_closed waiting) And.right
  | replied waiting filled turn =>
      cases turn with
      | answered => simp at overtaken
      | registered deadline asks accepted turn =>
          exact turn.ending_of_overtaken released (by simpa using overtaken)
  | listens waiting asks turn => exact turn.ending_of_overtaken released overtaken
  | stops fresh asks turn => exact absurd (by simpa using overtaken) (turn.unovertaken other)
  | waits fresh asks turn => exact absurd (by simpa using overtaken) (turn.unovertaken other)
  | asks waiting turn => exact absurd overtaken (turn.unovertaken other)
  | submits opens sends turn =>
      generalize call.stage = stage at opens
      cases opens <;> cases turn <;> simp at overtaken
  | _ => simp at overtaken

/-- A step that lets nobody go, and after which nobody has turned to the end who should
not. -/
theorem Patient.keep (patient : before.Patient) (later : Later before after)
    {log : List (Happening V)} (happenings : after.happenings = before.happenings ++ log)
    (told : ∀ id, .overtaken id ∈ log → before.control.ending = true)
    (signals : ∀ (id : Nat) (call : Call V), after.calls[id]? = some call →
      call.signal = .released →
        ∃ old : Call V, before.calls[id]? = some old ∧ old.signal = .released) :
    after.Patient where
  overtaken id recorded := by
    rw [happenings, List.mem_append] at recorded
    exact later.ending (recorded.elim (patient.overtaken id) (told id))
  released id call found gone := by
    obtain ⟨old, present, before⟩ := signals id call found gone
    exact later.ending (patient.released id old present before)

theorem released_of_silent {changes : List (CallChange V)}
    (calls : ∀ id : Nat, after.calls[id]? = before.calls[id]?.map (Call.applyAll id changes))
    (silent : ∀ change ∈ changes, ∀ target slot, change ≠ .signal target slot) (id : Nat)
    (call : Call V) (found : after.calls[id]? = some call) (gone : call.signal = .released) :
    ∃ old : Call V, before.calls[id]? = some old ∧ old.signal = .released := by
  rw [calls] at found
  obtain ⟨old, present, rfl⟩ := Option.map_eq_some_iff.mp found
  rw [signal_applyAll silent] at gone
  exact ⟨old, present, gone⟩

theorem Patient.advance (patient : before.Patient) (steered : before.Steered)
    (chronicle : before.Chronicle) (step : Advance before after) : after.Patient := by
  have later := step.later steered
  cases step with
  | drifts growth =>
      exact patient.keep later growth.happenings (by simp)
        (released_of_silent growth.calls (by simp))
  | makes request =>
      refine patient.keep later (before.makeCall_evolves request).happenings (by simp)
        fun id call found gone => ?_
      obtain ⟨old, present, same⟩ := released_of_silent
        (before.makeCall_evolves request).calls (by simp) id call found gone
      replace present : (before.calls ++ [({ request } : Call V)])[id]? = some old := present
      rw [List.getElem?_append] at present
      split at present
      · exact ⟨old, present, same⟩
      · rw [List.mem_singleton.mp (List.mem_of_getElem? present)] at same
        cases same
  | turns found =>
      obtain ⟨log, changes, mailbox, turn, growth, -⟩ := before.resumeCall_turnsBy _ _ found
      exact patient.keep later growth.happenings
        (fun _ => turn.ending_of_overtaken (chronicle.stories _ _ found)
          (patient.released _ _ found))
        (released_of_silent growth.calls turn.silent)
  | cancels found unfinished =>
      obtain ⟨growth, -⟩ := before.cancel_evolves found unfinished
      exact patient.keep later growth.happenings (by simp)
        (released_of_silent growth.calls (by simp))
  | opens fresh =>
      have growth := before.openUp_evolves
      exact patient.keep later growth.happenings (by simp)
        (released_of_silent growth.calls (by simp))
  | @processes envelope rest serving unstopped undue taken =>
      obtain ⟨backend, -, growth⟩ := serveOne_evolves serving envelope rest
      refine patient.keep later growth.happenings (fun other told => ?_)
        fun id call found gone => ?_
      · rcases List.mem_append.mp told with cleaned | served
        · exact (isByCleanup_of_mem_effect_log cleaned).elim
        · cases List.mem_singleton.mp served
      · rw [growth.calls] at found
        obtain ⟨old, present, rfl⟩ := Option.map_eq_some_iff.mp found
        rw [serveChanges, Call.applyAll_append, signal_applyAll (by simp), signal_notified] at gone
        split at gone
        · cases gone
        · exact ⟨old, present, gone⟩
  | ends serving cause =>
      exact ⟨fun _ _ => cause.ending, fun _ _ _ _ => cause.ending⟩
  | loses =>
      refine patient.keep later (List.append_nil _).symm (by simp) fun id call found gone => ?_
      obtain ⟨old, present, rfl⟩ := origin_of_dropTasks found
      refine ⟨old, present, ?_⟩
      split at gone <;> exact gone

theorem Passed.patient {session : Session V} (passed : Passed session) : session.Patient := by
  induction passed with
  | initial initial =>
      constructor
      · simp [happenings, initial.journal]
      · simp [initial.calls]
  | advance passed step inductionHypothesis =>
      exact inductionHypothesis.advance passed.steered passed.chronicle step

/-! ## The moment of a command -/

/-- The scene `before` in which the backend took a processed command out of the mailbox,
after the records `early`. -/
structure Moment (session : Session V) (early : List (Happening V)) (entry : Processed V)
    (before : Session V) (rest : Mailbox (Envelope V) × Option Nat) : Prop where
  passed : Passed before
  serving : before.isServing
  ongoing : before.control.ending = false
  taken : before.mailbox.take? = some (entry.envelope, rest)
  step : Advance before (before.serveOne entry.envelope rest)
  dealt : entry = before.entryFor entry.envelope
  early : early = before.happenings ++ (before.effect entry.caller entry.command).log
  later : Advances (before.serveOne entry.envelope rest) session

/-- Every processed command has its moment. -/
theorem Passed.moment (passed : Passed session) {early late : List (Happening V)}
    {entry : Processed V} (split : session.happenings = early ++ .processed entry :: late) :
    ∃ before rest, session.Moment early entry before rest := by
  induction passed generalizing late with
  | initial initial => simp [happenings, initial.journal] at split
  | @advance before after passed step inductionHypothesis =>
      -- A record that is not new has its moment already.
      have recent {log : List (Happening V)}
          (happenings : after.happenings = before.happenings ++ log)
          (fresh : ∀ opening, early = before.happenings ++ opening →
            log = opening ++ .processed entry :: late →
              ∃ moment rest, after.Moment early entry moment rest) :
          ∃ moment rest, after.Moment early entry moment rest := by
        rcases place_of_append (happenings.symm.trans split) with
          ⟨later, old, -⟩ | ⟨opening, same, new⟩
        · obtain ⟨moment, rest, known⟩ := inductionHypothesis old
          exact ⟨moment, rest, { known with later := known.later.tail step }⟩
        · exact fresh opening same new
      have unprocessed {log : List (Happening V)}
          (happenings : after.happenings = before.happenings ++ log)
          (none : log.filterMap Happening.processed? = []) :
          ∃ moment rest, after.Moment early entry moment rest := by
        refine recent happenings fun opening _ new => ?_
        rw [new] at none
        simp [Happening.processed?] at none
      cases step.course with
      | calm calm happenings => exact unprocessed happenings (Happening.processed_of_calm calm)
      | @serves envelope rest serving unstopped taken served =>
          obtain ⟨backend, -, growth⟩ := serveOne_evolves serving envelope rest
          subst served
          refine recent growth.happenings fun opening same new => ?_
          have cleaned : (before.effect envelope.caller envelope.command).log.filterMap
              Happening.processed? = [] :=
            Happening.processed_of_isByCleanup fun _ member => isByCleanup_of_mem_effect_log member
          rw [serveLog] at new
          rcases place_of_append new with ⟨tail, effect, -⟩ | ⟨middle, same', last⟩
          · rw [effect] at cleaned
            simp [Happening.processed?] at cleaned
          · cases middle with
            | nil =>
                obtain ⟨processed, -⟩ := List.cons.inj last
                obtain rfl : before.entryFor envelope = entry := Happening.processed.inj processed
                refine ⟨before, rest, passed, serving,
                  passed.steered.ongoing serving.runs unstopped, taken, step, rfl, ?_, .refl⟩
                rw [same, same', List.append_nil]
                rfl
            | cons head tail => simp at last
      | ends serving cause => exact unprocessed cause.evolves.happenings cause.processed_endLog
      | loses lost =>
          subst lost
          exact unprocessed (List.append_nil _).symm rfl

/-- The response to a registration. -/
theorem Passed.registers (passed : Passed session) {topic : String} {response : Response V}
    (processed : .processed { caller := id, command := .subscribe topic, response }
      ∈ session.happenings) : response = .ok .done := by
  obtain ⟨early, late, split⟩ := List.append_of_mem processed
  obtain ⟨before, rest, moment⟩ := passed.moment split
  exact congrArg Processed.response moment.dealt

/-- No caller has two commands processed. -/
theorem Chronicle.served_once (chronicle : session.Chronicle) :
    (session.happenings.filterMap Happening.served?).Nodup := by
  have callers : session.happenings.filterMap Happening.served?
      = (session.ledger.map Processed.envelope).map Envelope.caller := by
    unfold ledger
    rw [List.map_map, List.map_filterMap]
    rfl
  rw [callers]
  exact chronicle.distinct.sublist (chronicle.ordered.sublist.map _)

/-- A caller whose command was processed at two places of the journal: the two are one. -/
theorem Chronicle.place_unique (chronicle : session.Chronicle)
    {early late early' late' : List (Happening V)} {entry entry' : Processed V}
    (place : session.happenings = early ++ .processed entry :: late)
    (place' : session.happenings = early' ++ .processed entry' :: late')
    (own : entry'.caller = entry.caller) : early = early' ∧ entry = entry' ∧ late = late' := by
  have mark : Happening.served? (.processed entry) = some entry.caller := rfl
  have mark' : Happening.served? (.processed entry') = some entry.caller := congrArg some own
  obtain ⟨same, processed, rest⟩ :=
    BoundedScene.place_unique chronicle.served_once mark place mark' place'
  exact ⟨same, Happening.processed.inj processed, rest⟩

/-! ## The waiters of a scene -/

/-- The waiters of a running scene that listen are those that the reference lists. -/
theorem Passed.listening (passed : Passed session) (runs : session.backendRuns = true)
    (topic : String) : (session.subscriptions.waiters topic).filter session.listens
      = session.reference.waiting topic :=
  (passed.accounted.simulates runs).listening (fun waiter member =>
    passed.chronicle.listens runs
      (passed.accounted.known waiter (List.mem_append_right _ member))) topic

/-- Whoever the reference lists as a waiter still waits, as far as the records tell. -/
theorem Passed.stillWaits (passed : Passed session) {topic : String}
    (waits : id ∈ session.reference.waiting topic) : StillWaits topic session.happenings id := by
  obtain ⟨early, late, split, present, kept⟩ := (Reference.mem_waiting_after _ _ _).mp waits
  obtain ⟨first, happening, last, place, told, rfl, rfl⟩ := place_of_input split
  obtain ⟨⟨caller, command, response⟩, rfl, same⟩ := Happening.input?_eq_command.mp told
  obtain rfl : id = caller := (congrArg Envelope.caller same).symm
  obtain rfl : .subscribe topic = command := (congrArg Envelope.command same).symm
  obtain rfl := passed.registers (place ▸ List.mem_append_right _ (List.mem_cons_self ..))
  have stays : .departure id ∉ session.inputs := by
    rw [split, List.mem_append, List.mem_cons]
    rintro (before | same | after)
    · exact present before
    · cases same
    · simpa [Input.frees] using kept _ after
  constructor
  case registered =>
    refine ⟨first, last, place, List.any_eq_false.mpr fun happening member signals => ?_⟩
    cases happening with
    | processed entry =>
        have told : (Happening.processed entry).input? = some (.command entry.envelope) := rfl
        have freed := kept _ (mem_inputsOf member told)
        rw [Happening.signals_eq_frees told (by simp), signals] at freed
        cases freed
    | _ => cases signals
  case patient => exact fun answered => stays (mem_inputsOf answered rfl)
  case kept => exact fun cancelled => stays (mem_inputsOf cancelled rfl)

/-- A signal on a topic leaves no traces but its own record. -/
theorem Moment.early_of_signal {early : List (Happening V)} {entry : Processed V}
    {rest : Mailbox (Envelope V) × Option Nat} (moment : session.Moment early entry before rest)
    {topic : String} (signals : entry.command = .signal topic) : early = before.happenings := by
  have silent : (before.effect entry.caller entry.command).log = [] := by
    rw [signals]
    unfold effect
    dsimp only
    split <;> rfl
  rw [moment.early, silent, List.append_nil]

/-- Whom a signal freed does not wait any more at a later moment. -/
theorem Chronicle.freed (chronicle : session.Chronicle) {early middle late : List (Happening V)}
    {entry : Processed V}
    (split : session.happenings = (early ++ .processed entry :: middle) ++ late) {topic : String}
    (signals : entry.command = .signal topic) (counted : StillWaits topic early id)
    {other : String} : ¬StillWaits other (early ++ .processed entry :: middle) id := by
  rintro ⟨⟨first, last, place, silent⟩, -, -⟩
  obtain ⟨opening, closing, rfl, -⟩ := counted.registered
  have again : session.happenings
      = first ++ .processed (.registration other id) :: (last ++ late) := by
    rw [split, place]
    simp
  have before : session.happenings
      = opening ++ .processed (.registration topic id)
        :: (closing ++ .processed entry :: middle ++ late) := by
    rw [split]
    simp
  obtain ⟨-, same, rest⟩ := chronicle.place_unique before again rfl
  cases same
  obtain rfl := List.append_cancel_right rest
  simp [Happening.signals, signals] at silent

/-- A registered waiter that was answered was signalled, or gave up, or the end overtook
it. -/
theorem Story.answer_of_registered {call : Call V} {records : List (Happening V)}
    (story : Story session id call records) {topic : String} {response : Response V}
    (registered : .processed { caller := id, command := .subscribe topic, response } ∈ records)
    {answer : Answer V} (answered : .answered id answer ∈ records) :
    call.signal = .raised ∨ answer = .failed (.waitedTooLong topic)
      ∨ .overtaken id ∈ records := by
  obtain ⟨millisecond, finished⟩ := story.finished_of_answered answered
  cases story with
  | answered => simp at registered
  | refused => simp at registered
  | @replied request signal command response millisecond sends final =>
      obtain ⟨rfl, -⟩ : .subscribe topic = command ∧ _ := by
        simpa [processedStory] using registered
      cases request <;> cases sends
      exact absurd rfl (final _ _)
  | overtakenTold => simp at registered
  | signalled => exact .inl rfl
  | @expired name limit reply millisecond =>
      obtain ⟨rfl, -⟩ : topic = name ∧ _ := by
        simpa [registeredStory, processedStory] using registered
      cases finished
      exact .inr (.inl rfl)
  | desertedTold => exact .inr (.inr (by simp))
  | _ => cases finished

/-- A caller that still waits, as far as the records tell, has not gone, as long as the
scene has not started to end. -/
theorem Passed.stays (passed : Passed session) (ongoing : session.control.ending = false)
    {topic : String} (waits : StillWaits topic session.happenings id) :
    .departure id ∉ session.inputs := by
  have unovertaken : .overtaken id ∉ session.happenings := fun recorded => by
    have ending := passed.patient.overtaken id recorded
    rw [ongoing] at ending
    cases ending
  intro gone
  obtain ⟨happening, recorded, told⟩ := List.mem_filterMap.mp gone
  cases happening with
  | overtaken other =>
      cases told
      exact unovertaken recorded
  | cancelled other =>
      cases told
      exact waits.kept recorded
  | answered other answer =>
      cases told
      have own : .answered id answer ∈ session.recordsOf id := (mem_recordsOf rfl).mpr recorded
      obtain ⟨call, found, story⟩ := passed.chronicle.story_of_mem own
      obtain ⟨early, late, place, -⟩ := waits.registered
      have registered : .processed (.registration topic id) ∈ session.recordsOf id :=
        (mem_recordsOf rfl).mpr (place ▸ List.mem_append_right _ (List.mem_cons_self ..))
      rcases story.answer_of_registered registered own with raised | rfl | overtaken
      · -- The signal that it heard came after its registration.
        have taken := (passed.accounted.signals id call found).mp raised
        obtain ⟨early, entry, late, name, split, signals, counted⟩ :=
          (mem_taken_inputsOf _ _).mp taken
        obtain ⟨before, rest, moment⟩ := passed.moment split
        rw [moment.early_of_signal signals] at split counted
        have whole : session.happenings
            = (before.happenings ++ .processed entry :: late) ++ [] := by
          rw [split, List.append_nil]
        have freed : ¬StillWaits topic (before.happenings ++ .processed entry :: late) id :=
          passed.chronicle.freed whole signals (moment.passed.stillWaits counted)
        exact freed (split ▸ waits)
      · exact waits.patient recorded
      · exact unovertaken ((mem_recordsOf rfl).mp overtaken)
  | _ => cases told

/-- The reference lists the callers that still wait, as long as the scene has not started
to end. -/
theorem Passed.mem_waiting_iff (passed : Passed session)
    (ongoing : session.control.ending = false) (topic : String) (id : Nat) :
    id ∈ session.reference.waiting topic ↔ StillWaits topic session.happenings id := by
  refine ⟨passed.stillWaits, fun waits => (Reference.mem_waiting_after _ _ _).mpr ?_⟩
  have stays := passed.stays ongoing waits
  obtain ⟨early, late, place, silent⟩ := waits.registered
  have split : session.inputs = inputsOf early
      ++ .command { caller := id, command := .subscribe topic } :: inputsOf late := by
    unfold inputs
    rw [place]
    exact inputsOf_place rfl
  refine ⟨_, _, split, fun gone => stays (split ▸ List.mem_append_left _ gone), ?_⟩
  intro input member
  have other : input ≠ .departure id := fun same =>
    stays (split ▸ List.mem_append_right _ (List.mem_cons_of_mem _ (same ▸ member)))
  obtain ⟨happening, recorded, told⟩ := List.mem_filterMap.mp member
  rw [Happening.signals_eq_frees told other]
  simpa using List.any_eq_false.mp silent happening recorded

end Session

end BoundedScene
