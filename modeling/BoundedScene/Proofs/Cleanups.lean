import BoundedScene.Proofs.Ending
import Mathlib.Data.List.Nodup
import Mathlib.Data.List.Perm.Subperm

/-!
Contract: every cleanup runs exactly once, and only for a prop that was stored.

Owns:
- `leftover`, the props that a ledger leaves in the table;
- `Holding`, the invariant that accounts for every accepted cleanup: it was run, or
  its prop is still in the table.

Main statement: `cleanups_run_exactly_once`.

Does not own: what a failing cleanup does to the terminal result.
-/

namespace BoundedScene

/-! ## The props that a ledger leaves -/

def StoredProp.hasCleanup {V : Type} (prop : StoredProp V) : Bool :=
  prop.cleanup.isSome

namespace Processed

variable {V : Type}

/-- The prop of a store that was accepted together with its cleanup. -/
def acceptedCleanup? (entry : Processed V) : Option (StoredProp V) :=
  match entry.command, entry.response with
  | .store prop, .ok _ => if prop.hasCleanup then some prop else none
  | _, _ => none

/-- The props after a processed command. -/
def keep (props : List (StoredProp V)) (entry : Processed V) : List (StoredProp V) :=
  match entry.command, entry.response with
  | .store prop, .ok _ => props ++ [prop]
  | .dispose key, _ => props.filter fun prop => prop.key != key
  | _, _ => props

/-- The props that are left after processed commands, oldest first. -/
def leftover (ledger : List (Processed V)) : List (StoredProp V) :=
  ledger.foldl keep []

end Processed

namespace PropTable

variable {V : Type}

theorem perm_cons_filter {props : List (StoredProp V)} {key : String} {prop : StoredProp V}
    (distinct : (props.map StoredProp.key).Nodup)
    (found : props.find? (fun prop => prop.key == key) = some prop) :
    props.Perm (prop :: props.filter fun other => other.key != key) := by
  induction props with
  | nil => cases found
  | cons first rest inductionHypothesis =>
      obtain ⟨unseen, later⟩ := List.nodup_cons.mp distinct
      by_cases hit : first.key = key
      · have same : first = prop := by simpa [hit] using found
        have untouched : rest.filter (fun other => other.key != key) = rest := by
          refine List.filter_eq_self.mpr fun other member => ?_
          have differs : other.key ≠ key := fun equal =>
            unseen (hit.trans equal.symm ▸ List.mem_map_of_mem member)
          simpa using differs
        rw [same, List.filter_cons_of_neg (by simp [← same, hit]), untouched]
      · have located : rest.find? (fun prop => prop.key == key) = some prop := by
          simpa [hit] using found
        rw [List.filter_cons_of_pos (by simpa using hit)]
        exact ((inductionHypothesis later located).cons first).trans (List.Perm.swap ..)

theorem filter_key_of_find?_none {props : List (StoredProp V)} {key : String}
    (missing : props.find? (fun prop => prop.key == key) = none) :
    props.filter (fun prop => prop.key != key) = props := by
  refine List.filter_eq_self.mpr fun prop member => ?_
  have differs := List.find?_eq_none.mp missing prop member
  simpa using differs

end PropTable

namespace Session

variable {V : Type}

/-! ## The effect of a command on the props -/

theorem effect_props (session : Session V) (envelope : Envelope V) :
    (session.effect envelope.caller envelope.command).props.props
      = Processed.keep session.props.props (session.entryFor envelope) := by
  unfold entryFor Processed.keep
  cases command : envelope.command with
  | store prop =>
      cases found : session.props.find? prop.key <;>
        simp only [effect, PropTable.store, found]
  | fetch key => rfl
  | dispose key =>
      cases found : session.props.find? key with
      | none =>
          simp only [effect, PropTable.remove, found]
          exact (PropTable.filter_key_of_find?_none found).symm
      | some prop => simp only [effect, PropTable.remove, found, PropTable.erase]
  | signal topic =>
      unfold effect
      dsimp only
      split <;> rfl
  | subscribe topic => rfl

/-- No command puts a second prop under a key. -/
theorem effect_distinct (session : Session V) (caller : Nat) (command : Command V)
    (distinct : (session.props.props.map StoredProp.key).Nodup) :
    ((session.effect caller command).props.props.map StoredProp.key).Nodup := by
  cases command with
  | store prop =>
      cases found : session.props.find? prop.key with
      | some _ => simpa only [effect, PropTable.store, found] using distinct
      | none =>
          have unused : prop.key ∉ session.props.props.map StoredProp.key := by
            intro member
            obtain ⟨other, stored, same⟩ := List.mem_map.mp member
            have differs := List.find?_eq_none.mp found other stored
            simp [same] at differs
          simp only [effect, PropTable.store, found, List.map_append, List.map_cons, List.map_nil]
          refine List.nodup_append.mpr ⟨distinct, List.nodup_singleton _, ?_⟩
          rintro key stored other last rfl
          exact unused (List.mem_singleton.mp last ▸ stored)
  | fetch key => exact distinct
  | dispose key =>
      cases found : session.props.find? key with
      | none => simpa only [effect, PropTable.remove, found] using distinct
      | some prop =>
          simp only [effect, PropTable.remove, found, PropTable.erase]
          exact distinct.sublist (List.filter_sublist.map _)
  | signal topic =>
      unfold effect
      dsimp only
      split <;> exact distinct
  | subscribe topic => exact distinct

/-- The cleanup of a removed prop is run if there is one. -/
theorem cleaned_cleanupLog (phase : Phase) (prop : StoredProp V) :
    ((cleanupLog phase prop).filterMap Happening.cleaned?).map CleanupRun.prop
      = [prop].filter StoredProp.hasCleanup := by
  unfold cleanupLog
  cases prop with
  | mk key value cleanup =>
      cases cleanup with
      | none => rfl
      | some cleanup =>
          cases cleanup with
          | mk act outcome => cases act <;> rfl

theorem cleaned_teardownLog (phase : Phase) (props : List (StoredProp V)) :
    ((props.flatMap (cleanupLog phase)).filterMap Happening.cleaned?).map CleanupRun.prop
      = props.filter StoredProp.hasCleanup := by
  induction props with
  | nil => rfl
  | cons prop rest inductionHypothesis =>
      rw [List.flatMap_cons, List.filterMap_append, List.map_append, inductionHypothesis,
        cleaned_cleanupLog, ← List.filter_append, List.singleton_append]

/-- A command runs a cleanup or leaves it with its prop, and takes up at most the one
of its own prop. -/
theorem effect_cleanups (session : Session V) (envelope : Envelope V)
    (distinct : (session.props.props.map StoredProp.key).Nodup) :
    (((session.effect envelope.caller envelope.command).log.filterMap
        Happening.cleaned?).map CleanupRun.prop
      ++ (session.effect envelope.caller envelope.command).props.props.filter
        StoredProp.hasCleanup).Perm
      (session.props.props.filter StoredProp.hasCleanup
        ++ (session.entryFor envelope).acceptedCleanup?.toList) := by
  unfold entryFor Processed.acceptedCleanup?
  cases command : envelope.command with
  | store prop =>
      cases found : session.props.find? prop.key with
      | some _ => simp [effect, PropTable.store, found]
      | none =>
          cases cleanup : prop.hasCleanup <;> simp [effect, PropTable.store, found, cleanup]
  | fetch key => simp [effect]
  | dispose key =>
      cases found : session.props.find? key with
      | none => simp [effect, PropTable.remove, found]
      | some prop =>
          have split := (PropTable.perm_cons_filter distinct found).filter StoredProp.hasCleanup
          simp only [effect, PropTable.remove, found, PropTable.erase, cleaned_cleanupLog,
            Option.toList_none, List.append_nil]
          rw [← List.filter_append, List.singleton_append]
          exact split.symm
  | signal topic =>
      unfold effect
      dsimp only
      split <;> simp
  | subscribe topic => simp [effect]

/-! ## The ledger and the cleanups along a run -/

theorem ledger_of_happenings (before : Session V) {after : Session V} {log : List (Happening V)}
    (happenings : after.happenings = before.happenings ++ log) :
    after.ledger = before.ledger ++ log.filterMap Happening.processed? := by
  unfold ledger
  rw [happenings, List.filterMap_append]

theorem cleanups_of_happenings (before : Session V) {after : Session V} {log : List (Happening V)}
    (happenings : after.happenings = before.happenings ++ log) :
    after.cleanups = before.cleanups ++ log.filterMap Happening.cleaned? := by
  unfold cleanups
  rw [happenings, List.filterMap_append]

theorem processed_serveLog (session : Session V) (envelope : Envelope V) :
    (session.serveLog envelope).filterMap Happening.processed? = [session.entryFor envelope] := by
  have none : (session.effect envelope.caller envelope.command).log.filterMap
      Happening.processed? = [] :=
    Happening.processed_of_isByCleanup fun _ member => isByCleanup_of_mem_effect_log member
  unfold serveLog
  rw [List.filterMap_append, none]
  rfl

theorem cleaned_serveLog (session : Session V) (envelope : Envelope V) :
    (session.serveLog envelope).filterMap Happening.cleaned?
      = (session.effect envelope.caller envelope.command).log.filterMap Happening.cleaned? := by
  simp [serveLog, Happening.cleaned?]

/-- The prelude of an end names at most a conclusion. -/
theorem EndCause.processed_endLog {before after : Session V} {log : List (Happening V)}
    {heralds : List Event} {error : Option SceneError}
    (cause : EndCause before log heralds error after) :
    (before.endLog log error).filterMap Happening.processed? = [] := by
  have torn : before.teardownLog.filterMap Happening.processed? = [] :=
    Happening.processed_of_isByCleanup fun _ member => isByCleanup_of_mem_teardownLog member
  unfold endLog
  rw [List.filterMap_append, List.filterMap_append, torn]
  cases cause <;> rfl

/-- Nothing is processed when a scene ends. -/
theorem EndCause.ledger {before after : Session V} {log : List (Happening V)}
    {heralds : List Event} {error : Option SceneError}
    (cause : EndCause before log heralds error after) : after.ledger = before.ledger := by
  rw [ledger_of_happenings before cause.happenings, cause.processed_endLog, List.append_nil]

theorem EndCause.cleaned_endLog {before after : Session V} {log : List (Happening V)}
    {heralds : List Event} {error : Option SceneError}
    (cause : EndCause before log heralds error after) :
    ((before.endLog log error).filterMap Happening.cleaned?).map CleanupRun.prop
      = (before.visiting.arrange before.props.props).filter StoredProp.hasCleanup := by
  have torn := cleaned_teardownLog (before.phase.later .ending)
    (before.visiting.arrange before.props.props)
  unfold endLog teardownLog
  rw [List.filterMap_append, List.filterMap_append, List.map_append, List.map_append, torn]
  cases cause <;> simp [Happening.cleaned?, List.filterMap_cons]

/-! ## The invariant -/

/-- Every accepted cleanup was run, or waits in the table to be run. -/
structure Holding (session : Session V) : Prop where
  distinct : (session.props.props.map StoredProp.key).Nodup
  kept : session.backendRuns = true → session.props.props = Processed.leftover session.ledger
  emptied : session.backendRuns = false → session.props = {}
  accounted : session.backend ≠ .lost →
    (session.cleanups.map CleanupRun.prop
      ++ session.props.props.filter StoredProp.hasCleanup).Perm
        (session.ledger.filterMap Processed.acceptedCleanup?)
  bounded : (session.cleanups.map CleanupRun.prop).Subperm
    (session.ledger.filterMap Processed.acceptedCleanup?)

theorem IsInitial.holding {session : Session V} (initial : session.IsInitial) :
    session.Holding := by
  have silent : session.happenings = [] := by simp [happenings, initial.journal]
  constructor
  case distinct =>
    simp [initial.props]
  case kept =>
    intro _
    simp [initial.props, ledger, silent, Processed.leftover]
  case emptied =>
    intro _
    exact initial.props
  case accounted =>
    intro _
    simp [cleanups, ledger, silent, initial.props]
  case bounded =>
    simp [cleanups, ledger, silent]

theorem subperm_of_accounted {session : Session V}
    (accounted : (session.cleanups.map CleanupRun.prop
      ++ session.props.props.filter StoredProp.hasCleanup).Perm
        (session.ledger.filterMap Processed.acceptedCleanup?)) :
    (session.cleanups.map CleanupRun.prop).Subperm
      (session.ledger.filterMap Processed.acceptedCleanup?) :=
  (List.sublist_append_left _ _).subperm.trans accounted.subperm

theorem Holding.serve {before : Session V} (holding : before.Holding)
    (serving : before.isServing) (envelope : Envelope V)
    (rest : Mailbox (Envelope V) × Option Nat) : (before.serveOne envelope rest).Holding := by
  obtain ⟨backend, ⟨absolute, inactivity, rfl⟩, growth⟩ := serveOne_evolves serving envelope rest
  have runs := (serveOne_isServing serving envelope rest).runs
  generalize before.serveOne envelope rest = after at growth runs ⊢
  have ledgers := ledger_of_happenings before growth.happenings
  rw [before.processed_serveLog] at ledgers
  have runsNow := cleanups_of_happenings before growth.happenings
  have table : after.props = (before.effect envelope.caller envelope.command).props := growth.props
  have swept := before.cleaned_serveLog envelope
  have accounted : (after.cleanups.map CleanupRun.prop
      ++ after.props.props.filter StoredProp.hasCleanup).Perm
        (after.ledger.filterMap Processed.acceptedCleanup?) := by
    have step := before.effect_cleanups envelope holding.distinct
    rw [ledgers, runsNow, swept, table, List.map_append, List.filterMap_append,
      List.append_assoc]
    have taken : [before.entryFor envelope].filterMap Processed.acceptedCleanup?
        = (before.entryFor envelope).acceptedCleanup?.toList := by
      rw [List.filterMap_cons]
      cases (before.entryFor envelope).acceptedCleanup? <;> rfl
    rw [taken]
    refine (step.append_left _).trans ?_
    rw [← List.append_assoc]
    exact (holding.accounted serving.ne_lost).append_right _
  exact {
    distinct := table ▸ before.effect_distinct _ _ holding.distinct
    kept := fun _ => by
      rw [table, before.effect_props envelope, holding.kept serving.runs, ledgers]
      simp [Processed.leftover]
    emptied := fun stopped => by simp [runs] at stopped
    accounted := fun _ => accounted
    bounded := subperm_of_accounted accounted }

theorem Holding.finish {before after : Session V} (holding : before.Holding)
    (serving : before.isServing) {log : List (Happening V)} {heralds : List Event}
    {error : Option SceneError} (cause : EndCause before log heralds error after) :
    after.Holding := by
  have ledgers := cause.ledger
  have runsNow := cleanups_of_happenings before cause.happenings
  have table : after.props = {} := cause.evolves.props
  have accounted : (after.cleanups.map CleanupRun.prop
      ++ after.props.props.filter StoredProp.hasCleanup).Perm
        (after.ledger.filterMap Processed.acceptedCleanup?) := by
    have visited := (before.visiting.perm before.props.props).filter StoredProp.hasCleanup
    rw [ledgers, runsNow, table, List.map_append, cause.cleaned_endLog, List.filter_nil,
      List.append_nil]
    exact (visited.append_left _).trans (holding.accounted serving.ne_lost)
  exact {
    distinct := by simp [table]
    kept := fun runs => by simp [backendRuns, cause.backend] at runs
    emptied := fun _ => table
    accounted := fun _ => accounted
    bounded := subperm_of_accounted accounted }

theorem Holding.advance {before after : Session V} (holding : before.Holding)
    (step : Advance before after) : after.Holding := by
  cases step.course with
  | @calm log calm happenings control visiting limits props subscriptions backend =>
      have ledgers : after.ledger = before.ledger := by
        rw [ledger_of_happenings before happenings, Happening.processed_of_calm calm,
          List.append_nil]
      have runsNow : after.cleanups = before.cleanups := by
        rw [cleanups_of_happenings before happenings, Happening.cleaned_of_calm calm,
          List.append_nil]
      have sameRuns : after.backendRuns = before.backendRuns := by
        rcases backend with same | ⟨ran, runs⟩
        · simp only [backendRuns, same]
        · rw [ran, runs]
      exact {
        distinct := by rw [props]; exact holding.distinct
        kept := fun runs => by rw [props, ledgers]; exact holding.kept (sameRuns ▸ runs)
        emptied := fun stopped => by rw [props]; exact holding.emptied (sameRuns ▸ stopped)
        accounted := fun present => by
          rw [ledgers, runsNow, props]
          refine holding.accounted fun gone => ?_
          rcases backend with same | ⟨ran, -⟩
          · exact present (same.trans gone)
          · simp [backendRuns, gone] at ran
        bounded := by rw [ledgers, runsNow]; exact holding.bounded }
  | @serves envelope rest serving unstopped taken served =>
      subst served
      exact holding.serve serving envelope rest
  | ends serving cause => exact holding.finish serving cause
  | loses lost =>
      subst lost
      exact {
        distinct := List.nodup_nil
        kept := fun runs => absurd runs (by simp [backendRuns_dropTasks])
        emptied := fun _ => rfl
        accounted := fun present => by
          have stopped : before.backendRuns = false := by
            cases runs : before.backendRuns with
            | false => rfl
            | true => exact absurd (by simp [dropTasks, runs]) present
          have same := backend_dropTasks_of_halted stopped
          have accounted := holding.accounted fun gone => present (same.trans gone)
          rwa [holding.emptied stopped] at accounted
        bounded := holding.bounded }

theorem Passed.holding {session : Session V} (passed : Passed session) :
    session.Holding := by
  induction passed with
  | initial initial => exact initial.holding
  | advance passed step inductionHypothesis =>
      exact inductionHypothesis.advance step

/-- However a scene ends, the cleanups that were run are those of the stores that were
accepted with a cleanup, each as often as it was accepted, with the key and the value of
its own store; and the table is empty.  Before the end none of them was run that is not
accounted for by a store of its own.  Values that tell the stores apart tell the runs of
their cleanups apart. -/
theorem cleanups_run_exactly_once {session : Session V} (reachable : Reachable session) :
    (session.cleanups.map CleanupRun.prop).Subperm
        (session.ledger.filterMap Processed.acceptedCleanup?)
      ∧ (session.backend = .returned →
        (session.cleanups.map CleanupRun.prop).Perm
            (session.ledger.filterMap Processed.acceptedCleanup?)
          ∧ session.props = {}) := by
  have holding := reachable.passed.holding
  refine ⟨holding.bounded, fun returned => ?_⟩
  have empty : session.props = {} := holding.emptied (by simp [backendRuns, returned])
  have accounted := holding.accounted (by simp [returned])
  rw [empty, List.filter_nil, List.append_nil] at accounted
  exact ⟨accounted, empty⟩

/-- A prop is stored, refused, disposed of and stored anew under one key, always with a
failing cleanup, and a stop overtakes one more store. -/
def storesAndStop : List (Move Nat) :=
  let failing : Cleanup := { outcome := .fail (.foreign "jammed") }
  [.act (.call (.store "n" 1 (some failing))), .resume (.call 0), .resume .backend,
    .act (.call (.store "n" 2 (some failing))), .resume (.call 1), .resume .backend,
    .act (.call (.dispose "n")), .resume (.call 2), .resume .backend,
    .act (.call (.store "n" 3 (some failing))), .resume (.call 3), .resume .backend,
    .act (.call (.store "m" 4 (some failing))), .resume (.call 4),
    .act (.call .stop), .resume (.call 5), .resume .backend]

theorem cleanups_storesAndStop :
    (plain.moves storesAndStop).cleanups.map CleanupRun.value = [1, 3]
      ∧ ((plain.moves storesAndStop).cleanups.map CleanupRun.prop).Perm
          ((plain.moves storesAndStop).ledger.filterMap Processed.acceptedCleanup?)
      ∧ (plain.moves storesAndStop).props = {} := by
  have returned : (plain.moves storesAndStop).backend = .returned := by decide +kernel
  refine ⟨by decide +kernel, ?_⟩
  exact (cleanups_run_exactly_once (reachable_plain.moves storesAndStop)).2 returned

end Session

end BoundedScene
