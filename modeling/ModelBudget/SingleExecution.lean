/-
At most one provider execution for a key.

Requests look their key up, reserve a row and call the provider in many steps,
between which any others may take theirs.  The row that the first reservation
leaves behind is what keeps all the others out.
-/

import ModelBudget.BreakerSteps
import ModelBudget.BudgetConservation
import ModelBudget.RequestOwnership

set_option autoImplicit false

namespace ModelBudget

open Foundation

abbrev RequestThread := Thread gatewayInterface PyException World ChatReply GatewayInput

/-- The team, key and fingerprint that a request has looked itself up by. -/
def slotOf (thread : RequestThread) : Option Slot := (ghostOf thread).slot

/-- The request is one of the team with the key. -/
def IsFor (teamId : UUID) (idempotencyKey : String) (thread : RequestThread) : Prop :=
  ∃ slot, slotOf thread = some slot ∧ slot.teamId = teamId ∧
    slot.idempotencyKey = idempotencyKey

/-- How often a request has called `execute_route`. -/
def executions (thread : RequestThread) : Nat :=
  thread.past.countP fun event => event.op.isExecution

/-- A reservation for the key is committed between the two states. -/
def CommitsReservation (before after : Database) (teamId : UUID) (idempotencyKey : String) :
    Prop :=
  ∃ row ∈ after.idempotencyKeys.rows, row.teamId = teamId ∧
    row.idempotencyKey = idempotencyKey ∧ ∀ old ∈ before.idempotencyKeys.rows, old.id ≠ row.id

variable {lib : Libraries}

/-- A request that has called the provider has a reservation, and has called it once. -/
def Executed (thread : RequestThread) : Prop :=
  executions thread = if (ghostOf thread).entered.isSome then 1 else 0

private theorem executed_all {first last : GatewayConfig}
    {labels : List (Label GatewayInput Choice Drift)} (initial : System.Initial first)
    (run : Run (gateway lib).step first labels last) :
    ∀ index thread, last.threads index = some thread → Executed thread := by
  refine requests_keep Executed (fun _ => rfl) ?_ initial run
  rintro before after index choice ⟨input, past, op, resume, reply, awaited, responded, _⟩ owning
    checked held
  dsimp only at held ⊢
  have permitted : (requestConduct.after input.start past).Permits op :=
    checked.permitted awaited
  have kept := owning.kept index _ awaited
  unfold Executed executions at held ⊢
  rw [ghostOf_snoc, List.countP_append, List.countP_singleton]
  dsimp only at held ⊢
  rw [held]
  change _ = if ((requestConduct.after input.start past).step before.world op reply).entered.isSome
    then 1 else 0
  cases executes : op.isExecution with
  | false =>
      rw [RequestGhost.entered_step _ _ reply executes]
      rfl
  | true =>
      cases op with
      | routeEntered call =>
          have unentered : (ghostOf ⟨input, past, .await (.routeEntered call) resume⟩).entered =
              none := kept.reserved permitted.1
          have outside : (requestConduct.after input.start past).stage.isRouting = false := by
            rw [permitted.1]
            rfl
          cases reply with
          | error problem => exact absurd responded (World.respond_prompt rfl)
          | ok done =>
              rw [unentered, RequestGhost.step_outside outside]
              rfl
      | _ => contradiction

/-- An owned row is the only one with the key of its owner. -/
private theorem owned_row {config : GatewayConfig} (owning : Owning lib config) {index : Nat}
    {thread : RequestThread} (located : config.threads index = some thread) {slot : Slot}
    (looked : slotOf thread = some slot) (owns : (ghostOf thread).owned ≠ none)
    {row : IdempotencyKey} (member : row ∈ config.world.database.idempotencyKeys.rows)
    (team : row.teamId = slot.teamId) (key : row.idempotencyKey = slot.idempotencyKey) :
    ∃ owned, (ghostOf thread).owned = some owned ∧ row.id = owned.id ∧ row.IsOf slot := by
  obtain ⟨owned, same⟩ := Option.ne_none_iff_exists'.mp owns
  obtain ⟨own, owner⟩ := (owning.kept index thread located).row owned same
  obtain ⟨other, looked', isOf⟩ := owner.slot
  have agree : other = slot := Option.some.inj (looked'.symm.trans looked)
  subst agree
  have one := config.world.database.slot_unique member owner.member
    (team.trans isOf.teamId.symm) (key.trans isOf.idempotencyKey.symm)
  rw [one]
  exact ⟨owned, same, owner.id, isOf⟩

private theorem executed_owns {config : GatewayConfig} (owning : Owning lib config) {index : Nat}
    {thread : RequestThread} (located : config.threads index = some thread)
    (executed : Executed thread) (once : executions thread ≠ 0) :
    (ghostOf thread).owned ≠ none := by
  apply (owning.kept index thread located).entered
  intro unentered
  unfold Executed at executed
  rw [unentered] at executed
  exact once executed

/-- A request returns the response that it has found, or the one that it has settled. -/
private theorem ended_ok {ghost : RequestGhost} {reply : ChatReply}
    (ended : ghost.Ended (.ok reply)) :
    ghost.stage = .answered (.ok reply.body) ∨ ghost.owned ≠ none := by
  unfold RequestGhost.Ended at ended
  cases stage : ghost.stage with
  | answered found =>
      rw [stage] at ended
      cases found with
      | ok body =>
          left
          rw [ended]
      | error refusal => exact ended.elim
  | settled outcome =>
      rw [stage] at ended
      obtain ⟨result, reservation, _, holds, _⟩ := ended
      right
      rw [holds.owned]
      nofun
  | _ =>
      rw [stage] at ended
      exact ended.elim

/-- A request that gets a body without a row of its own gets that of a row with its key and
payload. -/
theorem replied_stored {config : GatewayConfig} (owning : Owning lib config)
    (checked : RequestVerified config) {index : Nat} {thread : RequestThread}
    (located : config.threads index = some thread) {reply : ChatReply}
    (replied : thread.program = .done reply) :
    (ghostOf thread).owned ≠ none ∨
      ∃ slot row, slotOf thread = some slot ∧
        StoredResponse lib config.world.database slot.teamId slot.idempotencyKey slot.requestHash
          reply.body row := by
  rcases thread with ⟨input, past, program⟩
  dsimp only at replied
  subst replied
  rcases ended_ok (checked.returned located) with stage | owns
  · exact .inr ((owning.kept index _ located).answered reply.body stage)
  · exact .inl owns

/-- Over every interleaving, the requests of a team with one key call the provider at
most once between them, at most one reservation is ever committed for the key, and a
request with another payload than the stored one neither calls the provider nor gets
a response. -/
theorem single_execution {first before after later last : GatewayConfig}
    {earlier between : List (Label GatewayInput Choice Drift)}
    {label final : Label GatewayInput Choice Drift} (initial : System.Initial first)
    (started : Run (gateway lib).step first earlier before)
    (taken : (gateway lib).step before label after)
    (continued : Run (gateway lib).step after between later)
    (ended : (gateway lib).step later final last) (teamId : UUID) (idempotencyKey : String) :
    (∀ index thread, last.threads index = some thread → executions thread ≤ 1) ∧
    (∀ index other thread otherThread, last.threads index = some thread →
      last.threads other = some otherThread → IsFor teamId idempotencyKey thread →
        IsFor teamId idempotencyKey otherThread → executions thread ≠ 0 →
          executions otherThread ≠ 0 → index = other) ∧
    ¬ (CommitsReservation before.world.database after.world.database teamId idempotencyKey ∧
      CommitsReservation later.world.database last.world.database teamId idempotencyKey) ∧
    ∀ index thread slot row, last.threads index = some thread → slotOf thread = some slot →
      row ∈ last.world.database.idempotencyKeys.rows → row.teamId = slot.teamId →
        row.idempotencyKey = slot.idempotencyKey → row.requestHash ≠ slot.requestHash →
          executions thread = 0 ∧ ∀ reply, thread.program ≠ .done reply := by
  have whole : Run (gateway lib).step first (earlier ++ [label] ++ between ++ [final]) last :=
    ((started.snoc taken).append continued).snoc ended
  obtain ⟨owning, checked⟩ := gateway_owning initial whole
  have executed := executed_all initial whole
  refine ⟨?_, ?_, ?_, ?_⟩
  · intro index thread located
    have count := executed index thread located
    unfold Executed at count
    rw [count]
    split
    · exact le_refl 1
    · exact Nat.zero_le 1
  · rintro index other thread otherThread located otherLocated ⟨slot, looked, team, key⟩
      ⟨otherSlot, otherLooked, otherTeam, otherKey⟩ once otherOnce
    obtain ⟨owned, owns⟩ := Option.ne_none_iff_exists'.mp
      (executed_owns owning located (executed index thread located) once)
    obtain ⟨row, owner⟩ := (owning.kept index thread located).row owned owns
    obtain ⟨same, lookedSame, isOf⟩ := owner.slot
    have agree : same = slot := Option.some.inj (lookedSame.symm.trans looked)
    subst agree
    obtain ⟨otherOwned, otherOwns, rowId, _⟩ := owned_row owning otherLocated otherLooked
      (executed_owns owning otherLocated (executed other otherThread otherLocated) otherOnce)
      owner.member (isOf.teamId.trans (team.trans otherTeam.symm))
      (isOf.idempotencyKey.trans (key.trans otherKey.symm))
    exact owning.single index other thread otherThread owned otherOwned located otherLocated owns
      otherOwns (owner.id.symm.trans rowId)
  · rintro ⟨⟨row, member, team, key, _⟩, ⟨again, againIn, againTeam, againKey, new⟩⟩
    obtain ⟨kept, keptIn, becomes⟩ := gateway_continues continued row member
    obtain ⟨still, stillIn, further⟩ := gateway_continues (Run.single ended) kept keptIn
    have both := becomes.trans further
    have one := last.world.database.slot_unique stillIn againIn
      ((both.request.teamId.trans team).trans againTeam.symm)
      ((both.request.idempotencyKey.trans key).trans againKey.symm)
    rw [← one] at new
    exact new kept keptIn further.request.id.symm
  · intro index thread slot row located looked member team key different
    have unowned : (ghostOf thread).owned = none := by
      by_contra owns
      obtain ⟨_, _, _, isOf⟩ := owned_row owning located looked owns member team key
      exact different isOf.requestHash
    constructor
    · by_contra once
      exact executed_owns owning located (executed index thread located) once unowned
    · intro reply replied
      rcases replied_stored owning checked located replied with owns |
        ⟨other, row', otherLooked, stored⟩
      · exact owns unowned
      · have agree : other = slot := Option.some.inj (otherLooked.symm.trans looked)
        subst agree
        have one := last.world.database.slot_unique member stored.member
          (team.trans stored.teamId.symm) (key.trans stored.idempotencyKey.symm)
        rw [one] at different
        exact different stored.requestHash

/-! ### A small gateway -/

def smallRequest : ChatRequest where
  body := ⟨none, "hello", 16, false, none⟩
  authorization := some "Bearer mb_0123456789abcdef.aaaaaaaaaaaaaaaaaaaaaaaaaaaaaaaaaaaaaaaaaaa"
  idempotencyKey := some "key"
  requestIdHeader := none
  newRequestId := "request"

def smallInput : GatewayInput := ⟨⟨smallRouteSettings, 5, 60⟩, smallRequest⟩

def smallGateway : System gatewayInterface PyException World Choice Drift ChatReply GatewayInput :=
  gateway smallLibraries

/-- The breakers are closed, and one team has a budget and a key. -/
def smallOffice : GatewayConfig := ⟨smallWorld.withDatabase smallDatabase, fun _ => none⟩

/-- The service answers the operation that the request awaits; an id that it draws is
the given one. -/
def answers (index freshId : Nat) : Label GatewayInput Choice Drift :=
  .answer index (.answers ⟨Fin.ofNat _ freshId⟩)

/-- A request comes in, is looked up and let past the limiter. -/
def smallAdmission : List (Label GatewayInput Choice Drift) :=
  [.spawn 0 smallInput, answers 0 0, answers 0 0, answers 0 0]

def officeAt (labels : List (Label GatewayInput Choice Drift)) : GatewayConfig :=
  reached smallGateway.next smallOffice labels

/-- Another request of the client, under the same key. -/
def farewellInput : GatewayInput :=
  { smallInput with request := { smallRequest with body := ⟨none, "bye", 16, false, none⟩ } }

/-- Three requests with one key come as far as their reservations, one with another payload. -/
def contenders : List (Label GatewayInput Choice Drift) :=
  smallAdmission ++ [.spawn 1 smallInput, answers 1 0, answers 1 0, answers 1 0,
    .spawn 2 farewellInput, answers 2 0, answers 2 0, answers 2 0]

/-- The first calls the provider when the second is told of it. -/
def contested : List (Label GatewayInput Choice Drift) := [answers 0 0, answers 1 11]

private def contention : List (Label GatewayInput Choice Drift) :=
  contenders ++ [answers 0 10] ++ contested ++ [answers 2 12]

private def sharesKey (thread : RequestThread) : Bool :=
  (slotOf thread).any fun slot => slot.teamId = ⟨1⟩ && slot.idempotencyKey = "key"

private def differsFrom (thread : RequestThread) (row : IdempotencyKey) : Bool :=
  (slotOf thread).any fun slot => row.teamId = slot.teamId &&
    row.idempotencyKey = slot.idempotencyKey && row.requestHash ≠ slot.requestHash

private def contends : Bool :=
  (execute smallGateway.next smallOffice contention).isSome &&
  match (officeAt contention).threads 0, (officeAt contention).threads 1,
      (officeAt contention).threads 2, (officeAt contention).world.database.idempotencyKeys.rows with
  | some owner, some second, some other, [row] =>
      sharesKey owner && sharesKey second && differsFrom other row && executions owner ≠ 0
  | _, _, _, _ => false

private theorem small_contends : contends = true := by
  decide +kernel

private theorem sharesKey_isFor {thread : RequestThread} (shares : sharesKey thread = true) :
    IsFor ⟨1⟩ "key" thread := by
  obtain ⟨slot, looked, same⟩ := (Option.any_eq_true ..).mp shares
  simp only [Bool.and_eq_true, decide_eq_true_eq] at same
  exact ⟨slot, looked, same.1, same.2⟩

/-- The first request reserves a row and calls the provider; the second and the one with the
other payload are kept out. -/
theorem single_execution_small :
    ∃ before after later last owner second other,
      Run smallGateway.step smallOffice contenders before ∧
      smallGateway.step before (answers 0 10) after ∧ Run smallGateway.step after contested later ∧
      smallGateway.step later (answers 2 12) last ∧
      last.threads 0 = some owner ∧ last.threads 1 = some second ∧ last.threads 2 = some other ∧
      executions owner = 1 ∧ executions second = 0 ∧ executions other = 0 ∧
      (∀ reply, Thread.program other ≠ .done reply) ∧
      ¬ (CommitsReservation before.world.database after.world.database ⟨1⟩ "key" ∧
        CommitsReservation later.world.database last.world.database ⟨1⟩ "key") := by
  have checked := small_contends
  unfold contends at checked
  obtain ⟨executes, checked⟩ := (Bool.and_eq_true_iff).mp checked
  have began := execute_first executes
  have started : Run smallGateway.step smallOffice contenders (officeAt contenders) :=
    run_between [] contenders (execute_first (execute_first began))
  have taken : smallGateway.step (officeAt contenders) (answers 0 10)
      (officeAt (contenders ++ [answers 0 10])) :=
    (run_between _ _ (execute_first began)).step_of_single
  have continued : Run smallGateway.step (officeAt (contenders ++ [answers 0 10])) contested
      (officeAt (contenders ++ [answers 0 10] ++ contested)) := run_between _ _ began
  have ended : smallGateway.step (officeAt (contenders ++ [answers 0 10] ++ contested))
      (answers 2 12) (officeAt contention) := (run_between _ _ executes).step_of_single
  obtain ⟨single, alone, once, others⟩ :=
    single_execution (fun _ => rfl) started taken continued ended ⟨1⟩ "key"
  split at checked
  · rename_i owner second other row located secondLocated otherLocated rows
    simp only [Bool.and_eq_true, decide_eq_true_eq] at checked
    obtain ⟨⟨⟨shares, secondShares⟩, differs⟩, calls⟩ := checked
    obtain ⟨slot, looked, differs⟩ := (Option.any_eq_true ..).mp differs
    simp only [Bool.and_eq_true, decide_eq_true_eq] at differs
    have member : row ∈ (officeAt contention).world.database.idempotencyKeys.rows := by
      rw [rows]
      exact List.mem_singleton_self _
    have atMost := single 0 owner located
    have kept := others 2 other slot row otherLocated looked member differs.1.1 differs.1.2
      differs.2
    refine ⟨_, _, _, _, owner, second, other, started, taken, continued, ended, located,
      secondLocated, otherLocated, by omega, ?_, kept.1, kept.2, once⟩
    by_contra again
    have same := alone 0 1 owner second located secondLocated (sharesKey_isFor shares)
      (sharesKey_isFor secondShares) calls again
    cases same
  · cases checked

end ModelBudget
