import BoundedScene.Proofs.Moves

/-!
Contract: what the subscribers of a scene get of its events.

Owns:
- the small steps of the delivery in each small step of a scene;
- the balance of every subscriber of a scene against the events on its bus.

Does not own: what a subscriber makes of the events it handles.
-/

namespace BoundedScene.Session

variable {V : Type} {session before after : Session V}

/-- In a small step of a scene its delivery goes on, unless every task is destroyed. -/
theorem Advance.delivery (step : Advance before after) :
    Delivery.Changes before.delivery after.delivery
      ∨ after.delivery = before.delivery.lose := by
  cases step with
  | drifts growth => exact .inl growth.delivery
  | makes request => exact .inl (before.makeCall_evolves request).delivery
  | turns found =>
      obtain ⟨_, _, _, _, growth, -⟩ := before.resumeCall_turnsBy _ _ found
      exact .inl growth.delivery
  | cancels found unfinished => exact .inl (before.cancel_evolves found unfinished).1.delivery
  | opens => exact .inl before.openUp_evolves.delivery
  | processes serving =>
      obtain ⟨_, -, growth⟩ := serveOne_evolves serving _ _
      exact .inl growth.delivery
  | ends serving cause => exact .inl cause.evolves.delivery
  | loses => exact .inr rfl

/-- What was published stays published. -/
theorem Advance.published (step : Advance before after) :
    before.delivery.feed.published <+: after.delivery.feed.published := by
  rcases step.delivery with changes | lost
  · exact changes.buses.1
  · rw [lost]
    exact List.prefix_rfl

/-- Every event that the courier of a scene has read, or was told to have missed, is
accounted for by every subscriber. -/
theorem Passed.accounts (passed : Passed session) : session.delivery.Accounts [] := by
  induction passed with
  | initial initial =>
      obtain ⟨profiles, fresh⟩ := initial.delivery
      exact fresh.accounts
  | advance passed step inductionHypothesis =>
      rcases step.delivery with changes | lost
      · exact inductionHypothesis.changes changes
      · rw [lost]
        exact inductionHypothesis.lose

/-- The subscribers of a scene stay who they are. -/
theorem Advance.profiles (step : Advance before after) :
    after.delivery.lanes.map Lane.profile = before.delivery.lanes.map Lane.profile := by
  rcases step.delivery with changes | lost
  · exact changes.follows.profiles
  · rw [lost]
    exact before.delivery.profiles_lose

theorem moves_profiles (session : Session V) (schedule : List (Move V)) :
    (session.moves schedule).delivery.lanes.map Lane.profile
      = session.delivery.lanes.map Lane.profile := by
  have run := session.moves_advances schedule
  generalize session.moves schedule = reached at run
  induction run with
  | refl => rfl
  | tail _ last inductionHypothesis => exact last.profiles.trans inductionHypothesis

/-- A subscriber that has handled as many events as were published has handled these. -/
theorem Passed.handled_all (passed : Passed session) {lane : Lane}
    (member : lane ∈ session.delivery.lanes)
    (all : lane.handled.length = session.delivery.feed.published.length) :
    lane.handled = session.delivery.feed.published := by
  obtain ⟨missed, discarded, account⟩ := passed.accounts.lanes lane member
  have onBus : session.delivery.carried.Sublist session.delivery.feed.published :=
    List.take_sublist ..
  have inOrder : lane.handled.Sublist session.delivery.feed.published :=
    ((List.sublist_append_left _ _).trans account.order).trans onBus
  exact inOrder.eq_of_length all

end BoundedScene.Session
