/-
Whose a request is.

A request is its team's from the moment it is authenticated, and it looks itself up
once: by that team, by the key that its client has sent, and by the fingerprint of
its payload.  The transaction that reserves its row uses the same three.
-/

import ModelBudget.SingleExecution
import ModelBudget.TransactionOutcome

set_option autoImplicit false

namespace ModelBudget

open Foundation

/-- The team, key and fingerprint of a request are its own. -/
structure Identified (thread : RequestThread) : Prop where
  arriving : (ghostOf thread).stage = .arriving → slotOf thread = none
  slot : ∀ slot, slotOf thread = some slot → (ghostOf thread).teamId = some slot.teamId ∧
    (ghostOf thread).Fingerprinted slot.idempotencyKey slot.requestHash

/-- What an answer can change of that. -/
inductive IdentityStep (ghost after : RequestGhost) : Prop
  | same (slot : after.slot = ghost.slot) (teamId : after.teamId = ghost.teamId)
      (stage : after.stage = .arriving → ghost.stage = .arriving)
  | authenticated (arriving : ghost.stage = .arriving) (slot : after.slot = ghost.slot)
  | lookedUp (arriving : ghost.stage = .arriving) (slot : Slot) (found : after.slot = some slot)
      (teamId : after.teamId = ghost.teamId) (own : ghost.teamId = some slot.teamId)
      (fingerprinted : ghost.Fingerprinted slot.idempotencyKey slot.requestHash)
      (stage : after.stage ≠ .arriving)

theorem RequestGhost.identity_step {ghost : RequestGhost} {op : GatewayOp} (world : World)
    (reply : Except PyException op.Answer) (permitted : ghost.Permits op) :
    IdentityStep ghost (ghost.step world op reply) := by
  unfold RequestGhost.step
  split
  · split
    · exact .same rfl rfl nofun
    · exact .same rfl rfl nofun
  have stopped : ∀ (handled : Bool) (problem : PyException), IdentityStep ghost
      { ghost with stage := if handled then .refusing else .faulted problem } := by
    intro handled problem
    refine .same rfl rfl ?_
    cases handled with
    | true => nofun
    | false => nofun
  cases op with
  | authenticate authorization =>
      cases reply with
      | error problem => exact stopped false problem
      | ok auth => exact .authenticated permitted.1 rfl
  | resolveExistingRow teamId key requestHash =>
      cases reply with
      | error problem => exact stopped false problem
      | ok found =>
          refine .lookedUp permitted.1 ⟨teamId, key, requestHash⟩ rfl rfl permitted.2.1
            permitted.2.2 ?_
          cases found <;> nofun
  | runTxn1 arguments =>
      cases reply with
      | error problem => exact stopped false problem
      | ok result =>
          cases result with
          | acquired id => exact .same rfl rfl nofun
          | response body => exact .same rfl rfl nofun
  | routeEntered call =>
      cases reply with
      | error problem => exact stopped false problem
      | ok done => exact .same rfl rfl nofun
  | settle id settlement =>
      refine .same rfl rfl ?_
      obtain ⟨outcome, _, left, _⟩ := permitted
      change Stage.settle ghost.stage reply = .arriving → _
      rw [left]
      cases reply with
      | ok result => nofun
      | error problem =>
          dsimp only [Stage.settle]
          split <;> nofun
  | _ =>
      cases reply with
      | error problem => exact stopped _ problem
      | ok value => exact .same rfl rfl id

variable {lib : Libraries}

theorem identified_all {first last : GatewayConfig}
    {labels : List (Label GatewayInput Choice Drift)} (initial : System.Initial first)
    (run : Run (gateway lib).step first labels last) :
    ∀ index thread, last.threads index = some thread → Identified thread := by
  refine requests_keep Identified (fun _ => ⟨fun _ => rfl, nofun⟩) ?_ initial run
  intro before after index choice answered owning checked held
  rcases answered with ⟨input, past, op, resume, reply, awaited, responded, _⟩
  dsimp only at held ⊢
  have permitted : (requestConduct.after input.start past).Permits op :=
    checked.permitted awaited
  have own : ∀ key hash, ((requestConduct.after input.start past).step before.world op
      reply).Fingerprinted key hash ↔
        (requestConduct.after input.start past).Fingerprinted key hash := by
    intro key hash
    unfold RequestGhost.Fingerprinted
    rw [RequestGhost.input_step]
  have arriving : (requestConduct.after input.start past).stage = .arriving →
      (requestConduct.after input.start past).slot = none := held.arriving
  have slot : ∀ slot, (requestConduct.after input.start past).slot = some slot →
      (requestConduct.after input.start past).teamId = some slot.teamId ∧
        (requestConduct.after input.start past).Fingerprinted slot.idempotencyKey
          slot.requestHash := held.slot
  constructor
  · unfold slotOf
    rw [ghostOf_snoc]
    intro still
    cases RequestGhost.identity_step before.world reply permitted with
    | same same _ stage =>
        rw [same]
        exact arriving (stage still)
    | authenticated before same =>
        rw [same]
        exact arriving before
    | lookedUp _ slot _ _ _ _ stage => exact absurd still stage
  · unfold slotOf
    rw [ghostOf_snoc]
    intro found located
    rw [own]
    cases RequestGhost.identity_step before.world reply permitted with
    | same same team _ =>
        rw [same] at located
        rw [team]
        exact slot found located
    | authenticated before same =>
        rw [same, arriving before] at located
        cases located
    | lookedUp _ other same team mine fingerprinted _ =>
        rw [same] at located
        cases located
        rw [team]
        exact ⟨mine, fingerprinted⟩

theorem ghostOf_input (thread : RequestThread) : (ghostOf thread).input = thread.input := by
  rcases thread with ⟨input, past, program⟩
  change (requestConduct.after input.start past).input = input
  induction past using List.reverseRecOn with
  | nil => rfl
  | append_singleton past event ih =>
      rw [Contract.after_snoc]
      exact (RequestGhost.input_step _ _ _).trans ih

/-- A request starts its transaction with arguments that have been checked. -/
theorem reservation_checked {first last : GatewayConfig}
    {labels : List (Label GatewayInput Choice Drift)} (initial : System.Initial first)
    (run : Run (gateway lib).step first labels last) {index : Nat} {thread : RequestThread}
    (located : last.threads index = some thread) {arguments : ReservationArguments}
    (permitted : (ghostOf thread).Permits (.runTxn1 arguments)) : arguments.Checked := by
  obtain ⟨_, slot, cost⟩ := permitted
  obtain ⟨_, _, formed, hashed⟩ := (identified_all initial run index thread located).slot _ slot
  exact ⟨formed, computeRequestFingerprint_isHash hashed, cost.monetary⟩

end ModelBudget
