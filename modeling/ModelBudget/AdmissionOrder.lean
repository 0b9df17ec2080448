/-
The order of admission, over every interleaving of requests.

The journals of all requests keep to their contract in every run, so what a request has
issued tells what it has been through.  Nothing is issued for a request that has been
refused, and no provider is called before everything that protects the budget is done.
-/

import ModelBudget.Replay
import ModelBudget.RequestIdentity
import ModelBudget.RequestJournal

set_option autoImplicit false

namespace ModelBudget

open Foundation

/-! ### Journals of histories -/

def milestonesOf (past : List (GatewayEvent World)) : List Milestone :=
  past.filterMap fun event => event.op.milestone event.reply

def mistakenIn (past : List (GatewayEvent World)) : Bool :=
  past.any fun event => event.op.mistakes event.reply

/-- The journal that a history leaves. -/
def journalOf (input : GatewayInput) (past : List (GatewayEvent World)) : Journal :=
  ⟨input, milestonesOf past, mistakenIn past⟩

theorem journalOf_snoc (input : GatewayInput) (past : List (GatewayEvent World))
    (event : GatewayEvent World) :
    journalOf input (past ++ [event]) = (journalOf input past).note event.op event.reply := by
  unfold journalOf Journal.note milestonesOf mistakenIn
  rw [List.filterMap_append, List.any_append]
  cases milestone : event.op.milestone event.reply with
  | none => simp [milestone]
  | some added => simp [milestone]

theorem after_eq_journalOf (input : GatewayInput) (past : List (GatewayEvent World)) :
    requestJournal.after input.journal past = journalOf input past := by
  induction past using List.reverseRecOn with
  | nil => rfl
  | append_singleton past event ih =>
      rw [Contract.after_snoc, ih, journalOf_snoc]
      rfl

theorem milestone_event {past : List (GatewayEvent World)} {milestone : Milestone}
    (member : milestone ∈ milestonesOf past) :
    ∃ earlier event later, past = earlier ++ event :: later ∧
      event.op.milestone event.reply = some milestone := by
  obtain ⟨event, eventIn, same⟩ := List.mem_filterMap.mp member
  obtain ⟨earlier, later, split⟩ := List.append_of_mem eventIn
  exact ⟨earlier, event, later, split, same⟩

/-! ### All journals keep to their contract -/

variable {lib : Libraries} {first last : GatewayConfig}
  {labels : List (Label GatewayInput Choice Drift)}

theorem resolveExistingRow_known {db : Database} {now : DateTime} {teamId : UUID}
    {idempotencyKey requestHash : String} {refusal : HTTPException}
    (told : resolveExistingRow lib db now teamId idempotencyKey requestHash =
      .ok (.error refusal)) : refusal.code.getD "" ∈ outcomeLabels := by
  unfold resolveExistingRow at told
  split at told
  · cases told
  · cases told
  split at told
  · cases told
    decide
  split at told
  · rename_i row _ _ _ _
    cases loaded : ChatCompletionResponseBody.load lib row.responseSnapshot with
    | ok body =>
        rw [loaded] at told
        cases told
    | error problem =>
        rw [loaded] at told
        cases told
  · cases told
    change "provider_error" ∈ outcomeLabels
    decide
  split at told
  · cases told
    decide
  · cases told
    decide

private theorem candid {before after : GatewayConfig} {index : Nat} {choice : Choice}
    (owning : Owning lib before) (checked : RequestVerified before)
    (answered : (gateway lib).Answered before after index choice) :
    Candid answered.op answered.reply := by
  refine ⟨owning.trusted checked answered, ?_⟩
  rcases answered with ⟨input, past, op, resume, reply, awaited, responded, advanced⟩
  cases op with
  | resolveExistingRow teamId idempotencyKey requestHash =>
      cases reply with
      | error problem => trivial
      | ok found =>
          cases found with
          | error refusal =>
              obtain ⟨freshId, served⟩ := World.respond_value rfl responded
              exact resolveExistingRow_known (Prod.mk.inj (Option.some.inj served)).1
          | _ => trivial
  | _ => cases reply <;> trivial

/-- In every reachable configuration the journals keep to their contract. -/
theorem journal_verified (initial : System.Initial first)
    (run : Run (gateway lib).step first labels last) :
    System.Verified requestJournal GatewayInput.journal
      (fun _ outcome journal => journal.Ended outcome) last := by
  refine run.invariant_along (System.Verified requestJournal GatewayInput.journal
    (fun _ outcome journal => journal.Ended outcome)) (System.verified_initial initial) ?_
  intro taken before label after earlier verified moved
  obtain ⟨owning, checked⟩ := gateway_owning initial earlier
  refine verified.step (createChatCompletion_journal lib) ?_ moved
  intro thread choice answered _
  exact candid owning checked answered

/-- Whatever a request has issued, its journal at the time allowed it. -/
theorem issued_permits (initial : System.Initial first)
    (run : Run (gateway lib).step first labels last) {index : Nat} {thread : RequestThread}
    (located : last.threads index = some thread) {earlier : List (GatewayEvent World)}
    {op : GatewayOp} (issued : System.Issued thread earlier op) :
    (journalOf thread.input earlier).Permits op := by
  have permitted := System.permitted_all (fun _ _ _ taken => taken) initial run
    (fun taken config reached => journal_verified initial reached) index thread located earlier op
    issued
  rw [after_eq_journalOf] at permitted
  exact permitted

theorem returned_journal (initial : System.Initial first)
    (run : Run (gateway lib).step first labels last) {index : Nat} {thread : RequestThread}
    (located : last.threads index = some thread) {reply : ChatReply}
    (replied : thread.program = .done reply) :
    (journalOf thread.input thread.past).Returns reply.body := by
  rcases thread with ⟨input, past, program⟩
  dsimp only at replied
  subst replied
  have returned : (requestJournal.after input.journal past).Ended (.ok reply) :=
    journal_verified initial run index _ located
  rw [after_eq_journalOf] at returned
  exact returned

/-- Every answer that a request has got is one that the world gave it. -/
def AnsweredByWorld (lib : Libraries) (thread : RequestThread) : Prop :=
  ∀ event ∈ thread.past, ∃ choice after,
    event.before.respond lib event.op choice = some (event.reply, after)

theorem past_answered (initial : System.Initial first)
    (run : Run (gateway lib).step first labels last) :
    ∀ index thread, last.threads index = some thread → AnsweredByWorld lib thread := by
  refine requests_keep (AnsweredByWorld lib) ?_ ?_ initial run
  · intro input event member
    cases member
  · intro before after index choice answered _ _ held event member
    rcases List.mem_append.mp member with earlier | new
    · exact held event earlier
    · rw [List.mem_singleton.mp new]
      exact ⟨choice, after.world, answered.responded⟩

/-! ### What a request has been through -/

/-- The operations behind the milestones of a preparation, each answered by the world as it
then was. -/
structure Preparation.Grounded (preparation : Preparation) (lib : Libraries)
    (input : GatewayInput) (past : List (GatewayEvent World)) : Prop where
  authenticated : ∃ event ∈ past, authenticate lib event.before.database event.before.wall
    input.request.authorization = .ok preparation.prompted.entry.auth
  unknown : ∃ event ∈ past, resolveExistingRow lib event.before.database event.before.wall
    preparation.prompted.entry.slot.teamId preparation.prompted.entry.slot.idempotencyKey
      preparation.prompted.entry.slot.requestHash = .ok .none
  limited : ∃ event ∈ past, ∃ member, (RedisRateLimiter.check event.before.redis
    event.before.redisNow preparation.prompted.entry.slot.teamId.text
      input.settings.rateLimitWindowSeconds input.settings.rateLimitMaxRequests member).1 =
        .ok preparation.prompted.entry.rate
  read : ∀ version ∈ preparation.prompted.version, ∃ event ∈ past, ∃ id,
    input.selected = some id ∧ resolvePromptVersion event.before.database id = some version

theorem milestonesOf_earlier {earlier past : List (GatewayEvent World)} (part : earlier <+: past) :
    milestonesOf earlier <+: milestonesOf past := by
  obtain ⟨rest, rfl⟩ := part
  unfold milestonesOf
  rw [List.filterMap_append]
  exact List.prefix_append _ _

/-- A milestone of the past was an operation that the journal allowed, and that the world
answered. -/
private theorem milestone_grounded (initial : System.Initial first)
    (run : Run (gateway lib).step first labels last) {index : Nat} {thread : RequestThread}
    (located : last.threads index = some thread) {earlier : List (GatewayEvent World)}
    (part : earlier <+: thread.past) {milestone : Milestone}
    (member : milestone ∈ milestonesOf earlier) :
    ∃ event ∈ earlier, ∃ before, before <+: earlier ∧
      event.op.milestone event.reply = some milestone ∧
        (journalOf thread.input before).Permits event.op ∧ ∃ choice after,
          event.before.respond lib event.op choice = some (event.reply, after) := by
  obtain ⟨before, event, later, rfl, same⟩ := milestone_event member
  obtain ⟨rest, split⟩ := part
  have eventIn : event ∈ before ++ event :: later :=
    List.mem_append_right _ List.mem_cons_self
  refine ⟨event, eventIn, before, List.prefix_append _ _, same, ?_, ?_⟩
  · apply issued_permits initial run located
    rw [List.append_assoc, List.cons_append] at split
    exact .answered event.before event.reply (later ++ rest) split.symm
  · apply past_answered initial run index thread located event
    rw [← split]
    exact List.mem_append_left _ eventIn

/-- A service's own answer. -/
private theorem served_reply {world after : World} {op : GatewayOp} {choice : Choice}
    {value : op.Answer} (own : op.isForeign = false)
    (responded : world.respond lib op choice = some (.ok value, after)) :
    ∃ freshId, (world.serve lib freshId op).map Prod.fst = some (.ok value) := by
  obtain ⟨freshId, served⟩ := World.respond_value own responded
  exact ⟨freshId, by rw [served, Option.map_some]⟩

/-- The first of milestones that agree where they must. -/
private theorem authenticated_inj {auth other : AuthContext} {later more : List Milestone}
    (same : Milestone.authenticated (.ok auth) :: later = .authenticated (.ok other) :: more) :
    auth = other := by
  cases same
  rfl

theorem preparation_grounded (initial : System.Initial first)
    (run : Run (gateway lib).step first labels last) {index : Nat} {thread : RequestThread}
    (located : last.threads index = some thread) {earlier : List (GatewayEvent World)}
    (part : earlier <+: thread.past) {preparation : Preparation}
    (fits : preparation.Fits thread.input) (later : List Milestone)
    (milestones : milestonesOf earlier = preparation.milestones thread.input ++ later) :
    preparation.Grounded lib thread.input earlier := by
  have prompted : ∀ milestone ∈ preparation.prompted.milestones,
      milestone ∈ milestonesOf earlier := by
    intro milestone member
    rw [milestones]
    exact List.mem_append_left _ (List.mem_append_left _ member)
  have entry : ∀ milestone ∈ preparation.prompted.entry.milestones,
      milestone ∈ milestonesOf earlier := fun milestone member =>
    prompted milestone (List.mem_append_left _ member)
  constructor
  · obtain ⟨⟨before, op, reply⟩, eventIn, past, _, same, permitted, choice, after, responded⟩ :=
      milestone_grounded initial run located part (entry _ List.mem_cons_self)
    cases op with
    | authenticate authorization =>
        cases same
        obtain ⟨_, served⟩ := served_reply rfl responded
        obtain ⟨_, _, own⟩ := permitted
        refine ⟨_, eventIn, ?_⟩
        rw [← show authorization = thread.input.request.authorization from own]
        exact Option.some.inj served
    | _ => cases same
  · obtain ⟨⟨before, op, reply⟩, eventIn, past, _, same, permitted, choice, after, responded⟩ :=
      milestone_grounded initial run located part
        (entry _ (List.mem_cons_of_mem _ List.mem_cons_self))
    cases op with
    | resolveExistingRow teamId idempotencyKey requestHash =>
        obtain ⟨slot, told⟩ := Milestone.lookedUp.inj (Option.some.inj same)
        subst told
        obtain ⟨_, served⟩ := served_reply rfl responded
        refine ⟨_, eventIn, ?_⟩
        rw [← slot]
        exact Option.some.inj served
    | _ => cases same
  · obtain ⟨⟨before, op, reply⟩, eventIn, past, inside, same, permitted, choice, after, responded⟩ :=
      milestone_grounded initial run located part
        (entry _ (List.mem_cons_of_mem _ (List.mem_cons_of_mem _ List.mem_cons_self)))
    cases op with
    | checkRateLimit teamId windowSeconds limit member =>
        have told := Milestone.limited.inj (Option.some.inj same)
        dsimp only at told
        subst told
        obtain ⟨_, served⟩ := served_reply rfl responded
        obtain ⟨auth, slot, sofar, team, named, window, bound⟩ := permitted
        have own : auth = preparation.prompted.entry.auth := by
          have part := milestonesOf_earlier inside
          rw [show milestonesOf past = _ from sofar, milestones] at part
          obtain ⟨rest, split⟩ := part
          exact authenticated_inj split
        refine ⟨_, eventIn, member, ?_⟩
        rw [fits.prompted.entry.team, ← own, ← named]
        change windowSeconds = thread.input.settings.rateLimitWindowSeconds at window
        change limit = thread.input.settings.rateLimitMaxRequests at bound
        rw [← window, ← bound]
        exact Option.some.inj served
    | _ => cases same
  · intro version selected
    have reading : Milestone.read (.ok (some version)) ∈ preparation.prompted.milestones := by
      apply List.mem_append_right
      exact List.mem_map.mpr ⟨version, Option.mem_toList.mpr selected, rfl⟩
    obtain ⟨⟨before, op, reply⟩, eventIn, past, _, same, permitted, choice, after, responded⟩ :=
      milestone_grounded initial run located part (prompted _ reading)
    cases op with
    | resolvePromptVersion id =>
        have told := Milestone.read.inj (Option.some.inj same)
        dsimp only at told
        subst told
        obtain ⟨_, served⟩ := served_reply rfl responded
        obtain ⟨_, _, _, own⟩ := permitted
        exact ⟨_, eventIn, id, own, Except.ok.inj (Option.some.inj served)⟩
    | _ => cases same

/-! ### The reserved row -/

/-- A row that a request has been told of is the one it owns. -/
def Acquired (thread : RequestThread) : Prop :=
  ∀ arguments id, Milestone.transacted arguments (.ok (.acquired id)) ∈ milestonesOf thread.past →
    (ghostOf thread).owned = some ⟨id, arguments.reservedCost⟩ ∧
      (ghostOf thread).slot =
        some ⟨arguments.teamId, arguments.idempotencyKey, arguments.requestHash⟩

private theorem acquired_kept {ghost : RequestGhost} {op : GatewayOp} {db : Database}
    (kept : ghost.Kept lib db) (permitted : ghost.Permits op) {owned : Owned}
    (owns : ghost.owned = some owned) (world : World) (reply : Except PyException op.Answer) :
    (ghost.step world op reply).owned = ghost.owned ∧
      (ghost.step world op reply).slot = ghost.slot := by
  refine ⟨ghost.owned_step_of_other world reply (kept.reserves_nothing permitted owns), ?_⟩
  cases RequestGhost.identity_step world reply permitted with
  | same slot _ _ => exact slot
  | authenticated _ slot => exact slot
  | lookedUp arriving _ _ _ _ _ _ =>
      have late := kept.late owns
      rw [arriving] at late
      cases late

theorem acquired_all (initial : System.Initial first)
    (run : Run (gateway lib).step first labels last) :
    ∀ index thread, last.threads index = some thread → Acquired thread := by
  refine requests_keep Acquired ?_ ?_ initial run
  · intro input arguments id member
    cases member
  rintro before after index choice ⟨input, past, op, resume, reply, awaited, responded, _⟩ owning
    checked held arguments id member
  dsimp only at held member ⊢
  have permitted : (requestConduct.after input.start past).Permits op :=
    checked.permitted awaited
  have kept := owning.kept index _ awaited
  rw [ghostOf_snoc]
  unfold milestonesOf at member
  rw [List.filterMap_append, List.mem_append] at member
  rcases member with earlier | new
  · obtain ⟨owns, slot⟩ := held arguments id earlier
    obtain ⟨sameOwned, sameSlot⟩ := acquired_kept kept permitted owns before.world reply
    exact ⟨sameOwned.trans owns, sameSlot.trans slot⟩
  · obtain ⟨event, eventIn, same⟩ := List.mem_filterMap.mp new
    rw [List.mem_singleton.mp eventIn] at same
    cases op with
    | runTxn1 tried =>
        obtain ⟨rfl, told⟩ := Milestone.transacted.inj (Option.some.inj same)
        dsimp only at told
        subst told
        have outside : (requestConduct.after input.start past).stage.isRouting = false := by
          rw [permitted.1]
          rfl
        rw [RequestGhost.step_outside outside]
        exact ⟨rfl, permitted.2.1⟩
    | _ => cases same

/-- The row that a request has reserved is in the database, for its slot and its cost. -/
theorem acquired_row (initial : System.Initial first)
    (run : Run (gateway lib).step first labels last) {index : Nat} {thread : RequestThread}
    (located : last.threads index = some thread) {arguments : ReservationArguments} {id : UUID}
    (member : .transacted arguments (.ok (.acquired id)) ∈ milestonesOf thread.past) :
    ∃ row ∈ last.world.database.idempotencyKeys.rows, row.id = id ∧
      row.IsOf ⟨arguments.teamId, arguments.idempotencyKey, arguments.requestHash⟩ ∧
        row.reservedCost = micros arguments.reservedCost := by
  obtain ⟨owns, looked⟩ := acquired_all initial run index thread located arguments id member
  obtain ⟨owning, _⟩ := gateway_owning initial run
  obtain ⟨row, owner⟩ := (owning.kept index thread located).row _ owns
  obtain ⟨slot, same, isOf⟩ := owner.slot
  rw [looked] at same
  cases same
  exact ⟨row, owner.member, owner.id, isOf, owner.reservedCost⟩

/-- Over every interleaving, an adapter is called only after the client was authenticated, its
key was unknown, its team was within the rate, the selected version was approved, the tokens of
the very prompt were counted and the cost of every attempt was reserved, each once and in this
order; and it is called with no more than was reserved for. -/
theorem provider_called_prepared (initial : System.Initial first)
    (run : Run (gateway lib).step first labels last) {index : Nat} {thread : RequestThread}
    (located : last.threads index = some thread) {earlier : List (GatewayEvent World)}
    (dispatch : Dispatch) (issued : System.Issued thread earlier
      (.complete dispatch.candidate dispatch.request dispatch.timeoutMs)) :
    ∃ preparation id calls, Preparation.Fits preparation thread.input ∧
      preparation.Grounded lib thread.input earlier ∧
      milestonesOf earlier = preparation.routing thread.input id calls ∧
      calls.length < preparation.callLimit thread.input ∧
      dispatch.Serves thread.input.settings.route preparation.prompted.admission.route
        preparation.prompted.prompt thread.input.request.body.maxTokens ∧
      ∃ row ∈ last.world.database.idempotencyKeys.rows, row.id = id ∧
        row.IsOf preparation.prompted.entry.slot ∧
          row.reservedCost = micros preparation.reservedCost := by
  obtain ⟨preparation, id, calls, fits, milestones, permitted⟩ :=
    issued_permits initial run located issued
  obtain ⟨serves, room⟩ := permitted.dispatched dispatch rfl
  have sofar : milestonesOf earlier = preparation.routing thread.input id calls := milestones
  have within := milestonesOf_earlier issued.prefix_past
  have reserved : Milestone.transacted preparation.arguments (.ok (.acquired id)) ∈
      milestonesOf thread.past := by
    apply within.subset
    rw [sofar]
    exact List.mem_append_left _ (List.mem_append_right _ (List.mem_singleton_self _))
  refine ⟨preparation, id, calls, fits, ?_, sofar, room, serves,
    acquired_row initial run located reserved⟩
  refine preparation_grounded initial run located issued.prefix_past fits
    (.transacted preparation.arguments (.ok (.acquired id)) ::
      .entered (preparation.call thread.input) :: calls.map .called) ?_
  rw [sofar]
  unfold Preparation.routing Preparation.owning
  rw [List.append_assoc]
  rfl

/-- A request that awaits the provider's answer. -/
def smallDispatch : List (Label GatewayInput Choice Drift) :=
  smallAdmission ++ [answers 0 10, answers 0 0, answers 0 0, answers 0 0, answers 0 0]

def isCompletion : GatewayOp → Bool
  | .complete _ _ _ => true
  | _ => false

private def smallDispatches : Bool :=
  (execute smallGateway.next smallOffice smallDispatch).isSome &&
    (System.awaited (officeAt smallDispatch) 0).any isCompletion

private theorem small_dispatches : smallDispatches = true := by
  decide +kernel

theorem awaited_issued {config : GatewayConfig} {index : Nat} {op : GatewayOp}
    (awaits : System.awaited config index = some op) :
    ∃ thread, config.threads index = some thread ∧ System.Issued thread thread.past op := by
  unfold System.awaited at awaits
  split at awaits
  · rename_i input past other resume located
    cases awaits
    exact ⟨_, located, .awaited resume rfl rfl⟩
  · cases awaits

theorem provider_called_prepared_small :
    ∃ last thread dispatch preparation id, Run smallGateway.step smallOffice smallDispatch last ∧
      last.threads 0 = some thread ∧
      System.Issued thread thread.past (.complete (Dispatch.candidate dispatch) dispatch.request
        dispatch.timeoutMs) ∧
      Preparation.Grounded preparation smallLibraries thread.input thread.past ∧
      ∃ row ∈ last.world.database.idempotencyKeys.rows, row.id = id ∧
        row.reservedCost = micros preparation.reservedCost := by
  have checked := small_dispatches
  unfold smallDispatches at checked
  obtain ⟨executes, awaits⟩ := (Bool.and_eq_true_iff).mp checked
  have run : Run smallGateway.step smallOffice smallDispatch (officeAt smallDispatch) :=
    run_between [] smallDispatch executes
  obtain ⟨op, awaited, completes⟩ := (Option.any_eq_true ..).mp awaits
  obtain ⟨thread, located, issued⟩ := awaited_issued awaited
  cases op with
  | complete candidate request timeoutMs =>
      obtain ⟨preparation, id, _, _, grounded, _, _, _, row, member, rowId, _, cost⟩ :=
        provider_called_prepared (fun _ => rfl) run located ⟨candidate, request, timeoutMs⟩ issued
      exact ⟨_, thread, ⟨candidate, request, timeoutMs⟩, preparation, id, run, located, issued,
        grounded, row, member, rowId, cost⟩
  | _ => cases completes

/-! ### Nothing is taken for a request that is stopped -/

/-- The milestones after which a request only records its outcome. -/
def Milestone.stops : Milestone → Bool
  | .authenticated reply => !reply.isOk
  | .lookedUp _ (.ok .none) => false
  | .lookedUp _ _ => true
  | .limited (.ok result) => !result.allowed
  | .limited (.error _) => true
  | .read (.ok (some version)) => version.status ≠ .approved
  | .read _ => true
  | .counted _ _ reply => !reply.isOk
  | .transacted _ (.ok (.acquired _)) => false
  | .transacted _ _ => true
  | .entered _ | .called _ | .left _ => false
  | .settled _ _ reply => !reply.isOk

section Going

variable {input : GatewayInput} {milestone : Milestone}

theorem Entry.Fits.going {entry : Entry} (fits : entry.Fits input)
    (member : milestone ∈ entry.milestones) : milestone.stops = false := by
  simp only [Entry.milestones, List.mem_cons, List.not_mem_nil, or_false] at member
  rcases member with rfl | rfl | rfl
  · rfl
  · rfl
  · simp [Milestone.stops, fits.allowed]

theorem Prompted.Fits.going {prompted : Prompted} (fits : prompted.Fits input)
    (member : milestone ∈ prompted.milestones) : milestone.stops = false := by
  rcases List.mem_append.mp member with entry | reading
  · exact fits.entry.going entry
  · obtain ⟨version, selected, rfl⟩ := List.mem_map.mp reading
    simp [Milestone.stops, fits.approved version (Option.mem_toList.mp selected)]

theorem Preparation.Fits.going {preparation : Preparation} (fits : preparation.Fits input)
    (member : milestone ∈ preparation.milestones input) : milestone.stops = false := by
  rcases List.mem_append.mp member with prompted | counting
  · exact fits.prompted.going prompted
  · unfold Preparation.counting at counting
    split at counting
    · rw [List.mem_singleton.mp counting]
      rfl
    · cases counting

theorem Preparation.Fits.going_owning {preparation : Preparation} (fits : preparation.Fits input)
    {id : UUID} (member : milestone ∈ preparation.owning input id) : milestone.stops = false := by
  rcases List.mem_append.mp member with before | acquired
  · exact fits.going before
  · rw [List.mem_singleton.mp acquired]
    rfl

theorem Preparation.Fits.going_routing {preparation : Preparation} (fits : preparation.Fits input)
    {id : UUID} {calls : List ProviderCall}
    (member : milestone ∈ preparation.routing input id calls) : milestone.stops = false := by
  rcases List.mem_append.mp member with before | route
  · exact fits.going_owning before
  rcases List.mem_cons.mp route with entered | called
  · rw [entered]
    rfl
  · obtain ⟨call, _, rfl⟩ := List.mem_map.mp called
    rfl

end Going

/-- A request that goes on with anything but a metric has met nothing that stops it. -/
theorem Journal.Permits.going {journal : Journal} {op : GatewayOp} (permitted : journal.Permits op)
    (goesOn : ∀ label, op ≠ .recordOutcome label) {milestone : Milestone}
    (member : milestone ∈ journal.milestones) : milestone.stops = false := by
  have routed : ∀ (preparation : Preparation) id calls, preparation.Fits journal.input →
      journal.milestones = preparation.routing journal.input id calls →
        milestone.stops = false := by
    intro preparation id calls fits sofar
    rw [sofar] at member
    exact fits.going_routing member
  cases op with
  | recordOutcome label => exact absurd rfl (goesOn label)
  | recordCost model actualCost reservedCost =>
      obtain ⟨preparation, id, calls, result, settlement, reply, leaves, _⟩ := permitted
      rw [leaves.milestones] at member
      rcases List.mem_append.mp member with before | after
      · exact leaves.fits.going_routing before
      · simp only [List.mem_cons, List.not_mem_nil, or_false] at after
        rcases after with rfl | rfl <;> rfl
  | authenticate authorization =>
      rw [permitted.1] at member
      cases member
  | resolveExistingRow teamId idempotencyKey requestHash =>
      obtain ⟨auth, sofar, _⟩ := permitted
      rw [sofar] at member
      rw [List.mem_singleton.mp member]
      rfl
  | checkRateLimit teamId windowSeconds limit client =>
      obtain ⟨auth, slot, sofar, _⟩ := permitted
      rw [sofar] at member
      simp only [List.mem_cons, List.not_mem_nil, or_false] at member
      rcases member with rfl | rfl <;> rfl
  | resolvePromptVersion id =>
      obtain ⟨entry, fits, sofar, _⟩ := permitted
      rw [sofar] at member
      exact fits.going member
  | countInputTokens model prompt =>
      obtain ⟨prompted, fits, sofar, _⟩ := permitted
      rw [sofar] at member
      exact fits.going member
  | runTxn1 arguments =>
      obtain ⟨preparation, fits, sofar, _⟩ := permitted
      rw [sofar] at member
      exact fits.going member
  | routeEntered call =>
      obtain ⟨preparation, id, fits, sofar, _⟩ := permitted
      rw [sofar] at member
      exact fits.going_owning member
  | routeLeft outcome =>
      obtain ⟨preparation, id, calls, leaves⟩ := permitted
      exact routed preparation id calls leaves.fits
        (leaves.milestones.trans (List.append_nil _))
  | settle id settlement =>
      obtain ⟨preparation, calls, outcome, leaves, _⟩ := permitted
      rw [leaves.milestones] at member
      rcases List.mem_append.mp member with before | after
      · exact leaves.fits.going_routing before
      · rw [List.mem_singleton.mp after]
        rfl
  | fetchAuthoritativeState id => exact permitted.elim
  | _ =>
      obtain ⟨preparation, id, calls, fits, sofar, _⟩ := permitted
      exact routed preparation id calls fits sofar

/-- Over every interleaving, a request that was refused, that is over its rate, or that was
answered from a stored row asks for nothing more: no slot of the rate limit, no count of its
tokens, no reservation and no call of a provider. -/
theorem stopped_takes_nothing (initial : System.Initial first)
    (run : Run (gateway lib).step first labels last) {index : Nat} {thread : RequestThread}
    (located : last.threads index = some thread) {earlier : List (GatewayEvent World)}
    {op : GatewayOp} (issued : System.Issued thread earlier op) {milestone : Milestone}
    (member : milestone ∈ milestonesOf earlier) (stops : milestone.stops = true) :
    ∃ label ∈ outcomeLabels, op = .recordOutcome label := by
  have permitted := issued_permits initial run located issued
  by_contra other
  have goesOn : ∀ label, op ≠ .recordOutcome label := by
    rintro label rfl
    exact other ⟨label, permitted, rfl⟩
  rw [permitted.going goesOn member] at stops
  contradiction

/-- A request whose key has a row already. -/
def smallReplay : List (Label GatewayInput Choice Drift) :=
  smallCompletion ++ [answers 0 11] ++ smallRepetition ++ [answers 1 0]

private def smallStops : Bool :=
  (execute smallGateway.next smallOffice smallReplay).isSome &&
    (System.awaited (officeAt smallReplay) 1).isSome &&
      match (officeAt smallReplay).threads 1 with
      | some thread => (milestonesOf thread.past).any Milestone.stops
      | none => false

private theorem small_stops : smallStops = true := by
  decide +kernel

theorem stopped_takes_nothing_small :
    ∃ last thread milestone op label, Run smallGateway.step smallOffice smallReplay last ∧
      last.threads 1 = some thread ∧ milestone ∈ milestonesOf (Thread.past thread) ∧
      Milestone.stops milestone = true ∧ System.Issued thread thread.past op ∧
      op = .recordOutcome label := by
  have checked := small_stops
  unfold smallStops at checked
  obtain ⟨awaiting, stopped⟩ := (Bool.and_eq_true_iff).mp checked
  obtain ⟨executes, awaits⟩ := (Bool.and_eq_true_iff).mp awaiting
  have run : Run smallGateway.step smallOffice smallReplay (officeAt smallReplay) :=
    run_between [] smallReplay executes
  obtain ⟨op, awaited⟩ := Option.isSome_iff_exists.mp awaits
  obtain ⟨thread, located, issued⟩ := awaited_issued awaited
  rw [located] at stopped
  obtain ⟨milestone, member, stops⟩ := List.any_eq_true.mp stopped
  obtain ⟨label, _, same⟩ :=
    stopped_takes_nothing (fun _ => rfl) run located issued member stops
  exact ⟨_, thread, milestone, op, label, run, located, member, stops, issued, same⟩

/-! ### What is recorded and returned -/

/-- The calls of the provider that a history holds. -/
def callsOf (past : List (GatewayEvent World)) : List ProviderCall :=
  past.filterMap fun event => event.op.providerCall event.reply

def Milestone.providerCall : Milestone → Option ProviderCall
  | .called call => some call
  | _ => none

theorem callsOf_eq (past : List (GatewayEvent World)) :
    callsOf past = (milestonesOf past).filterMap Milestone.providerCall := by
  unfold callsOf milestonesOf
  rw [List.filterMap_filterMap]
  apply List.filterMap_congr
  rintro ⟨before, op, reply⟩ _
  cases op <;> rfl

/-- The milestones of a request before its reservation. -/
def Milestone.isEarly : Milestone → Bool
  | .authenticated _ | .lookedUp _ _ | .limited _ | .read _ | .counted _ _ _ => true
  | _ => false

theorem Preparation.milestones_early (preparation : Preparation) (input : GatewayInput)
    {milestone : Milestone} (member : milestone ∈ preparation.milestones input) :
    milestone.isEarly = true := by
  rcases List.mem_append.mp member with prompted | counting
  · rcases List.mem_append.mp prompted with entry | reading
    · simp only [Entry.milestones, List.mem_cons, List.not_mem_nil, or_false] at entry
      rcases entry with rfl | rfl | rfl <;> rfl
    · obtain ⟨version, _, rfl⟩ := List.mem_map.mp reading
      rfl
  · unfold Preparation.counting at counting
    split at counting
    · rw [List.mem_singleton.mp counting]
      rfl
    · cases counting

/-- Nothing that is looked for later stands before the reservation. -/
theorem Preparation.milestones_filterMap {α : Type} {look : Milestone → Option α}
    (late : ∀ milestone : Milestone, milestone.isEarly = true → look milestone = none)
    (preparation : Preparation) (input : GatewayInput) :
    (preparation.milestones input).filterMap look = [] := by
  rw [List.filterMap_eq_nil_iff]
  intro milestone member
  exact late milestone (preparation.milestones_early input member)

theorem Milestone.providerCall_early {milestone : Milestone} (early : milestone.isEarly = true) :
    milestone.providerCall = none := by
  cases milestone with
  | called call => cases early
  | _ => rfl

theorem Preparation.routing_calls (preparation : Preparation) (input : GatewayInput) (id : UUID)
    (calls : List ProviderCall) :
    (preparation.routing input id calls).filterMap Milestone.providerCall = calls := by
  unfold Preparation.routing Preparation.owning
  rw [List.filterMap_append, List.filterMap_append,
    Preparation.milestones_filterMap fun _ early => Milestone.providerCall_early early]
  change (calls.map Milestone.called).filterMap Milestone.providerCall = calls
  rw [List.filterMap_map]
  exact List.filterMap_some

theorem Journal.Leaves.calls {past : List (GatewayEvent World)} {input : GatewayInput}
    {preparation : Preparation} {id : UUID} {calls : List ProviderCall}
    {outcome : Except PyException RouteResult} {later : List Milestone}
    (leaves : (journalOf input past).Leaves preparation id calls outcome later)
    (quiet : later.filterMap Milestone.providerCall = []) : callsOf past = calls := by
  have sofar : milestonesOf past = preparation.routing input id calls ++ later := leaves.milestones
  rw [callsOf_eq, sofar, List.filterMap_append, Preparation.routing_calls, quiet, List.append_nil]

/-- Where a body does not come from a stored row, it is made from the answer to the last call
of the provider that this very request has made, and from nothing else. -/
theorem response_from_last_call (initial : System.Initial first)
    (run : Run (gateway lib).step first labels last) {index : Nat} {thread : RequestThread}
    (located : last.threads index = some thread) {reply : ChatReply}
    (replied : thread.program = .done reply) :
    (callsOf thread.past = [] ∧
      ((∃ slot, .lookedUp slot (.ok (.response reply.body)) ∈ milestonesOf thread.past) ∨
        ∃ arguments, .transacted arguments (.ok (.response reply.body)) ∈
          milestonesOf thread.past)) ∨
    ∃ preparation id call routed actualCost, Preparation.Fits preparation thread.input ∧
      .transacted preparation.arguments (.ok (.acquired id)) ∈ milestonesOf thread.past ∧
      (callsOf thread.past).getLast? = some call ∧
      call.reply = .ok (some (CompletionResult.raw (RouteResult.result routed))) ∧
      call.dispatch.Serves thread.input.settings.route preparation.prompted.admission.route
        preparation.prompted.prompt thread.input.request.body.maxTokens ∧
      calculateActualCost "openai" preparation.prompted.admission.model
        (RouteResult.result routed).promptTokens (RouteResult.result routed).completionTokens =
          .ok actualCost ∧
      (preparation.reservation thread.input id).responseBody routed actualCost =
        .ok reply.body := by
  cases returned_journal initial run located replied with
  | found auth slot team milestones =>
      have sofar : milestonesOf thread.past = _ := milestones
      left
      refine ⟨by rw [callsOf_eq, sofar]; rfl, .inl ⟨slot, ?_⟩⟩
      rw [sofar]
      simp
  | raced preparation fits milestones =>
      have sofar : milestonesOf thread.past = _ := milestones
      left
      constructor
      · rw [callsOf_eq, sofar, List.filterMap_append,
          Preparation.milestones_filterMap fun _ early => Milestone.providerCall_early early]
        rfl
      · right
        refine ⟨preparation.arguments, ?_⟩
        rw [sofar]
        simp
  | built preparation id calls routed settlement settled leaves response =>
      right
      have sofar : milestonesOf thread.past = _ := leaves.milestones
      obtain ⟨_, call, candidate, lastCall, returned, _, _⟩ := leaves.reports
      have made : callsOf thread.past = calls := leaves.calls rfl
      unfold Reservation.response at response
      split at response
      · rename_i actualCost costed
        refine ⟨preparation, id, call, routed, actualCost, leaves.fits, ?_, ?_, returned.reply, ?_,
          costed, ?_⟩
        · rw [sofar]
          simp [Preparation.routing, Preparation.owning]
        · rw [made]
          exact lastCall
        · exact leaves.serves.serves call (List.mem_of_mem_getLast? lastCall)
        · cases built : (preparation.reservation thread.input id).responseBody routed actualCost with
          | ok body =>
              have same : (preparation.reservation thread.input id).responseBody routed actualCost =
                .ok body := built
              change ((preparation.reservation thread.input id).responseBody routed
                actualCost).toOption = some reply.body at response
              rw [same] at response
              rw [Option.some.inj response]
          | error problem =>
              change ((preparation.reservation thread.input id).responseBody routed
                actualCost).toOption = some reply.body at response
              rw [built] at response
              cases response
      · cases response

private def hasReturned (thread : RequestThread) : Bool :=
  match thread.program with
  | .done _ => !(callsOf thread.past).isEmpty
  | _ => false

private def smallReturns : Bool :=
  (execute smallGateway.next smallOffice smallAnswer).isSome &&
    ((officeAt smallAnswer).threads 0).any hasReturned

private theorem small_returns : smallReturns = true := by
  decide +kernel

theorem response_from_last_call_small :
    ∃ last thread reply call preparation id routed actualCost,
      Run smallGateway.step smallOffice smallAnswer last ∧
      last.threads 0 = some thread ∧ Thread.program thread = .done reply ∧
      (callsOf thread.past).getLast? = some call ∧
      call.reply = .ok (some (CompletionResult.raw (RouteResult.result routed))) ∧
      (Preparation.reservation preparation thread.input id).responseBody routed actualCost =
        .ok (ChatReply.body reply) := by
  have checked := small_returns
  unfold smallReturns at checked
  obtain ⟨executes, ended⟩ := (Bool.and_eq_true_iff).mp checked
  have run : Run smallGateway.step smallOffice smallAnswer (officeAt smallAnswer) :=
    run_between [] smallAnswer executes
  obtain ⟨thread, located, returned⟩ := (Option.any_eq_true ..).mp ended
  unfold hasReturned at returned
  split at returned
  · rename_i reply replied
    rcases response_from_last_call (fun _ => rfl) run located replied with ⟨none, _⟩ |
      ⟨preparation, id, call, routed, actualCost, _, _, lastCall, answer, _, _, body⟩
    · rw [none] at returned
      cases returned
    · exact ⟨_, thread, reply, call, preparation, id, routed, actualCost, run, located, replied,
        lastCall, answer, body⟩
  · cases returned

end ModelBudget
