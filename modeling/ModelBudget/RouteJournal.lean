/-
The provider calls of a route, and the attempts that it reports.

Every call of an adapter is for a candidate of the route and carries exactly what the
route was called with.  There are never more of them than the policy gives to all
candidates together, and the records of a finished route count them one by one.
-/

import ModelBudget.RouteConduct

set_option autoImplicit false

namespace ModelBudget

open Foundation

/-- What an adapter is called with. -/
structure Dispatch where
  candidate : RouteCandidate
  request : CompletionRequest
  timeoutMs : Int

structure ProviderCall where
  dispatch : Dispatch
  reply : Except PyException AdapterValue

def GatewayOp.dispatch : GatewayOp → Option Dispatch
  | .complete candidate request timeoutMs => some ⟨candidate, request, timeoutMs⟩
  | _ => none

/-- The call that an answered operation is, if it is one. -/
def GatewayOp.providerCall : (op : GatewayOp) → Except PyException op.Answer → Option ProviderCall
  | .complete candidate request timeoutMs, reply => some ⟨⟨candidate, request, timeoutMs⟩, reply⟩
  | _, _ => none

/-- The operations of `execute_route`. -/
def GatewayOp.isOfRoute : GatewayOp → Bool
  | .perfCounter | .shouldAllow _ | .recordSuccess _ | .recordFailure _ => true
  | .complete _ _ _ | .sleep _ | .randint _ _ => true
  | _ => false

/-- The exception that an exhausted route raises. -/
def PyException.isExhausted : PyException → Bool
  | .allCandidatesFailed _ _ => true
  | _ => false

/-- An operation of the route has itself raised the exception of an exhausted route. -/
def GatewayOp.mistakes (op : GatewayOp) : Except PyException op.Answer → Bool
  | .error problem => op.isOfRoute && problem.isExhausted
  | .ok _ => false

structure CallLog where
  calls : List ProviderCall
  mistaken : Bool

def CallLog.note (log : CallLog) (op : GatewayOp) (reply : Except PyException op.Answer) :
    CallLog :=
  ⟨log.calls ++ (op.providerCall reply).toList, log.mistaken || op.mistakes reply⟩

/-- How often the policy lets all candidates of a route be called together. -/
def callLimit (settings : RouteSettings) (route : Route) : Nat :=
  settings.policy.maxAttemptsPerCandidate * route.candidates.length

/-- A call of one candidate for the prompt and the bound that the route was called with. -/
structure Dispatch.Serves (dispatch : Dispatch) (settings : RouteSettings) (route : Route)
    (prompt : String) (maxTokens : Int) : Prop where
  candidate : dispatch.candidate ∈ route.candidates
  request : dispatch.request = ⟨dispatch.candidate.model.val, prompt, maxTokens⟩
  timeoutMs : dispatch.timeoutMs = settings.timeoutMs

structure CallLog.Permits (log : CallLog) (settings : RouteSettings) (route : Route)
    (prompt : String) (maxTokens : Int) (op : GatewayOp) : Prop where
  ofRoute : op.isOfRoute = true
  dispatched : ∀ dispatch ∈ op.dispatch, dispatch.Serves settings route prompt maxTokens ∧
    log.calls.length < callLimit settings route

def routeJournal (settings : RouteSettings) (route : Route) (prompt : String)
    (maxTokens : Int) : Contract gatewayInterface PyException World CallLog where
  may log op := log.Permits settings route prompt maxTokens op
  expects _ _ := True
  next log event := log.note event.op event.reply

/-- The calls that the route may make, and no more of them than it may. -/
structure CallLog.Serves (log : CallLog) (settings : RouteSettings) (route : Route)
    (prompt : String) (maxTokens : Int) : Prop where
  serves : ∀ call ∈ log.calls, call.dispatch.Serves settings route prompt maxTokens
  bounded : log.calls.length ≤ callLimit settings route

/-- The attempts that were made, all but the skipped candidates. -/
def attemptsMade (attempts : List AttemptRecord) : Nat :=
  attempts.countP fun attempt => attempt.outcome ≠ .skipped

/-- A call has answered with the result. -/
structure ProviderCall.Returned (call : ProviderCall) (candidate : RouteCandidate)
    (result : CompletionResult) : Prop where
  served : call.dispatch.candidate = candidate
  reply : call.reply = .ok (some result.raw)
  accepted : result.Accepted candidate

/-- A call has timed out or has been answered by an error of the provider. -/
def ProviderCall.Failed (call : ProviderCall) : Prop :=
  ∃ problem, call.reply = .error problem ∧ (failureCategory problem).isSome = true

/-- An exhausted route has reported every call, and all of them have failed. -/
structure CallLog.Exhausts (log : CallLog) (attempts : List AttemptRecord) : Prop where
  recorded : attempts ≠ []
  counted : attemptsMade attempts = log.calls.length
  failed : ∀ call ∈ log.calls, call.Failed

/-- The calls of a finished route are the attempts that it reports. -/
def CallLog.Reports (log : CallLog) : Except PyException RouteResult → Prop
  | .ok result => attemptsMade result.attempts = log.calls.length ∧
      ∃ call candidate, log.calls.getLast? = some call ∧
        call.Returned candidate result.result ∧
          result.finalProvider = candidate.provider.val ∧ result.finalModel = candidate.model.val
  | .error problem => ∀ message attempts, problem = .allCandidatesFailed message attempts →
      log.mistaken = true ∨ log.Exhausts attempts

/-! ### One operation -/

variable {settings : RouteSettings} {route : Route} {prompt : String} {maxTokens : Int}
  {log : CallLog}

theorem CallLog.note_ok {op : GatewayOp} (value : op.Answer) (other : op.dispatch = none) :
    log.note op (.ok value) = log := by
  unfold note
  have quiet : op.providerCall (.ok value) = none := by
    cases op with
    | complete candidate request timeoutMs => contradiction
    | _ => rfl
  rw [quiet]
  simp [GatewayOp.mistakes]

theorem CallLog.note_exhausted {op : GatewayOp} (ofRoute : op.isOfRoute = true)
    {problem : PyException} (exhausted : problem.isExhausted = true) :
    (log.note op (.error problem)).mistaken = true := by
  simp [note, GatewayOp.mistakes, ofRoute, exhausted]

/-- An exception on its way out of the route. -/
def CallLog.Raised (log : CallLog) (problem : PyException) : Prop :=
  problem.isExhausted = true → log.mistaken = true

theorem CallLog.Raised.reports {problem : PyException} (raised : log.Raised problem) :
    log.Reports (.error problem) := by
  intro message attempts same
  subst same
  exact .inl (raised rfl)

/-- The rule for an operation of the route that calls no adapter. -/
private theorem quiet_journal {α : Type} {op : GatewayOp} {next : op.Answer → Gateway α}
    {post : Except PyException α → CallLog → Prop} (ofRoute : op.isOfRoute = true)
    (other : op.dispatch = none)
    (returned : ∀ value, (next value).Obeys (routeJournal settings route prompt maxTokens) log post)
    (failed : ∀ problem after, after.Raised problem → post (.error problem) after) :
    (ask op >>= next).Obeys (routeJournal settings route prompt maxTokens) log post := by
  refine obeys_ask_bind ⟨ofRoute, by simp [other]⟩ ?_ ?_
  · intro before value _
    change (next value).Obeys _ (log.note op (.ok value)) post
    rw [CallLog.note_ok value other]
    exact returned value
  · intro before problem _
    exact failed problem _ fun exhausted => CallLog.note_exhausted ofRoute exhausted

/-- An exception that the code of the route raises by itself, except at its end. -/
theorem validateCompletionResult_calm (candidate : RouteCandidate) (value : AdapterValue) :
    RaisesOnly (fun problem => problem.isExhausted = false)
      (validateCompletionResult candidate value) := by
  have counts : ∀ label field, RaisesOnly (fun problem => problem.isExhausted = false)
      (validateNonnegPlainInt label field) := by
    intro label field
    unfold validateNonnegPlainInt
    split
    · exact .error rfl
    split
    · exact .error rfl
    · exact .ok _
  unfold validateCompletionResult
  cases value with
  | none => exact .error rfl
  | some result =>
      have names : ∀ message expected field, RaisesOnly
          (fun problem => problem.isExhausted = false) (validateName message expected field) := by
        intro message expected field
        unfold validateName
        split
        · exact .ok _
        · exact .error rfl
      refine .bind (names _ _ _) fun _ _ => .bind (names _ _ _) fun _ _ => .bind ?_ fun _ _ => ?_
      · unfold validateText
        split
        · exact .ok _
        · exact .error rfl
      · refine .bind (counts _ _) fun _ _ => .bind (counts _ _) fun _ _ => ?_
        exact .bind (counts _ _) fun _ _ => .ok _

private theorem CompletionRequest.make_calm (model : String) :
    RaisesOnly (fun problem => problem.isExhausted = false)
      (CompletionRequest.make model prompt maxTokens) := by
  unfold CompletionRequest.make
  split
  · exact .error rfl
  split
  · exact .error rfl
  split
  · exact .error rfl
  · exact .ok _

private theorem CompletionRequest.make_eq {model : String} {request : CompletionRequest}
    (made : CompletionRequest.make model prompt maxTokens = .ok request) :
    request = ⟨model, prompt, maxTokens⟩ := by
  unfold CompletionRequest.make at made
  split at made
  · contradiction
  split at made
  · contradiction
  split at made
  · contradiction
  · exact (Except.ok.inj made).symm

private theorem raised_of_calm {α : Type} {computation : Except PyException α}
    (calm : RaisesOnly (fun problem => problem.isExhausted = false) computation)
    {problem : PyException} (failed : computation = .error problem) : log.Raised problem := by
  intro exhausted
  rw [calm problem failed] at exhausted
  contradiction

/-! ### One candidate -/

/-- The attempts on a candidate, each with the call that it reports. -/
structure CallLog.Tried (before : CallLog) (attempts records : List AttemptRecord)
    (left : Nat) (after : CallLog) : Prop where
  added : ∃ added, records = attempts ++ added ∧ (∀ record ∈ added, record.outcome ≠ .skipped) ∧
    after.calls.length = before.calls.length + added.length ∧ added.length ≤ left ∧
      (left ≠ 0 → added ≠ [])

/-- One more attempt, and then the others. -/
private theorem CallLog.Tried.cons {middle after : CallLog} {attempts records : List AttemptRecord}
    {record : AttemptRecord} {left : Nat}
    (rest : middle.Tried (attempts ++ [record]) records left after)
    (called : middle.calls.length = log.calls.length + 1)
    (made : record.outcome ≠ .skipped) : log.Tried attempts records (left + 1) after := by
  obtain ⟨added, same, outcomes, counted, bounded, _⟩ := rest
  refine ⟨record :: added, ?_, ?_, ?_, ?_, fun _ => List.cons_ne_nil _ _⟩
  · rw [same, List.append_assoc]
    rfl
  · intro other member
    rcases List.mem_cons.mp member with first | later
    · rw [first]
      exact made
    · exact outcomes other later
  · rw [counted, called, List.length_cons]
    omega
  · rw [List.length_cons]
    omega

private theorem CallLog.Tried.last (attempts : List AttemptRecord) {middle : CallLog}
    {record : AttemptRecord} (left : Nat) (called : middle.calls.length = log.calls.length + 1)
    (made : record.outcome ≠ .skipped) :
    log.Tried attempts (attempts ++ [record]) (left + 1) middle := by
  refine ⟨[record], rfl, ?_, called, by simp, fun _ => List.cons_ne_nil _ _⟩
  intro other member
  rw [List.mem_singleton.mp member]
  exact made

/-- The pause before the next attempt. -/
private theorem backoff_journal {α : Type} (policy : RetryPolicy) (attemptNumber : Nat)
    {again : Gateway α} {post : Except PyException α → CallLog → Prop}
    (continued : again.Obeys (routeJournal settings route prompt maxTokens) log post)
    (failed : ∀ problem after, after.Raised problem → post (.error problem) after) :
    (computeBackoffMs policy attemptNumber >>= fun backoff =>
      ask (.sleep backoff) >>= fun _ => again).Obeys
        (routeJournal settings route prompt maxTokens) log post := by
  have slept : ∀ backoff : Int, (ask (.sleep backoff) >>= fun _ => again).Obeys
      (routeJournal settings route prompt maxTokens) log post :=
    fun backoff => quiet_journal rfl rfl (fun _ => continued) failed
  unfold computeBackoffMs
  split
  · exact failed _ _ fun exhausted => by cases exhausted
  split
  · exact failed _ _ fun exhausted => by cases exhausted
  · dsimp only
    split
    · exact quiet_journal rfl rfl slept failed
    · exact slept _

theorem runCandidate_journal {candidate : RouteCandidate} (member : candidate ∈ route.candidates)
    (left attemptNumber : Nat) (attempts : List AttemptRecord) (log : CallLog)
    (failed : ∀ call ∈ log.calls, call.Failed)
    (room : log.calls.length + left ≤ callLimit settings route) :
    (runCandidate settings candidate prompt maxTokens left attemptNumber attempts).Obeys
      (routeJournal settings route prompt maxTokens) log fun outcome after =>
        match outcome with
        | .ok (result, records) => log.Tried attempts records left after ∧
            (result = none → ∀ call ∈ after.calls, call.Failed) ∧
            ∀ returned ∈ result, ∃ call, after.calls.getLast? = some call ∧
              call.Returned candidate returned
        | .error problem => after.Raised problem := by
  induction left generalizing attemptNumber attempts log with
  | zero =>
      exact ⟨⟨[], (List.append_nil _).symm, by simp, by simp, by simp, by simp⟩, fun _ => failed,
        by simp⟩
  | succ left ih =>
      unfold runCandidate
      rw [Program.obeys_bind, Program.obeys_ofExcept]
      cases made : CompletionRequest.make candidate.model.val prompt maxTokens with
      | error problem => exact raised_of_calm (CompletionRequest.make_calm _) made
      | ok request =>
          have same := CompletionRequest.make_eq made
          subst same
          refine quiet_journal rfl rfl ?_ fun _ _ raised => raised
          intro start
          refine obeys_attempt_ask_bind ⟨rfl, ?_⟩ ?_
          · rintro dispatch (same : dispatch ∈ some _)
            cases same
            exact ⟨⟨member, rfl, rfl⟩, by omega⟩
          intro before reply _
          have called : ((routeJournal settings route prompt maxTokens).next log
              ⟨before, .complete candidate ⟨candidate.model.val, prompt, maxTokens⟩
                settings.timeoutMs, reply⟩).calls =
                log.calls ++ [⟨⟨candidate, ⟨candidate.model.val, prompt, maxTokens⟩,
                  settings.timeoutMs⟩, reply⟩] := rfl
          generalize noted : (routeJournal settings route prompt maxTokens).next log
            ⟨before, .complete candidate ⟨candidate.model.val, prompt, maxTokens⟩
              settings.timeoutMs, reply⟩ = middle at called
          have length : middle.calls.length = log.calls.length + 1 := by
            rw [called, List.length_append, List.length_singleton]
          cases reply with
          | error problem =>
              dsimp only
              cases caught : failureCategory problem with
              | none =>
                  intro exhausted
                  rw [← noted]
                  exact CallLog.note_exhausted rfl exhausted
              | some category =>
                  have allFailed : ∀ call ∈ middle.calls, call.Failed := by
                    rw [called]
                    intro call inside
                    rcases List.mem_append.mp inside with before | new
                    · exact failed call before
                    · rw [List.mem_singleton.mp new]
                      exact ⟨problem, rfl, by rw [caught]; rfl⟩
                  refine quiet_journal rfl rfl ?_ fun _ _ raised => raised
                  intro finish
                  split
                  · refine backoff_journal settings.policy attemptNumber ?_ fun _ _ raised => raised
                    refine (ih (attemptNumber + 1) _ middle allFailed (by omega)).mono ?_
                    intro outcome after ended
                    cases outcome with
                    | error problem => exact ended
                    | ok tried => exact ⟨ended.1.cons length (by simp [attemptRecord]), ended.2⟩
                  · exact ⟨.last attempts left length (by simp [attemptRecord]),
                      fun _ => allFailed, by simp⟩
          | ok value =>
              dsimp only
              rw [Program.obeys_bind, Program.obeys_ofExcept]
              cases validated : validateCompletionResult candidate value with
              | error problem =>
                  exact raised_of_calm (validateCompletionResult_calm candidate value) validated
              | ok result =>
                  obtain ⟨raw, accepted⟩ := validateCompletionResult_ok_iff.mp validated
                  refine quiet_journal rfl rfl ?_ fun _ _ raised => raised
                  intro finish
                  refine ⟨.last attempts left length (by simp [attemptRecord]), by simp, ?_⟩
                  intro returned same
                  cases same
                  rw [called, List.getLast?_concat]
                  exact ⟨_, rfl, rfl, by rw [raw], accepted⟩

/-! ### The whole route -/

theorem attemptsMade_append (first second : List AttemptRecord) :
    attemptsMade (first ++ second) = attemptsMade first + attemptsMade second :=
  List.countP_append

theorem attemptsMade_of_made {records : List AttemptRecord}
    (made : ∀ record ∈ records, record.outcome ≠ .skipped) :
    attemptsMade records = records.length := by
  unfold attemptsMade
  rw [List.countP_eq_length]
  intro record member
  exact decide_eq_true (made record member)

theorem attemptsMade_skipped (candidate : RouteCandidate) :
    attemptsMade [skippedRecord candidate] = 0 := rfl

/-- A part of the route that calls no adapter. -/
def CallLog.Keeps {α : Type} (log : CallLog) (outcome : Except PyException α) (after : CallLog) :
    Prop :=
  match outcome with
  | .ok _ => after = log
  | .error problem => after.Raised problem

private theorem ask_journal {op : GatewayOp} (ofRoute : op.isOfRoute = true)
    (other : op.dispatch = none) :
    (ask op).Obeys (routeJournal settings route prompt maxTokens) log log.Keeps := by
  refine obeys_ask ⟨ofRoute, by simp [other]⟩ ?_
  intro before reply _
  cases reply with
  | ok value => exact CallLog.note_ok value other
  | error problem => exact fun exhausted => CallLog.note_exhausted ofRoute exhausted

private theorem admitCandidate_journal (registration : ProviderRegistration) :
    (admitCandidate registration).Obeys (routeJournal settings route prompt maxTokens) log
      log.Keeps := by
  unfold admitCandidate
  split
  · rfl
  · exact ask_journal rfl rfl

private theorem recordCandidate_journal (registration : ProviderRegistration)
    (succeeded : Bool) :
    (recordCandidate registration succeeded).Obeys (routeJournal settings route prompt maxTokens)
      log log.Keeps := by
  unfold recordCandidate
  split
  · rfl
  split
  · exact ask_journal rfl rfl
  · exact ask_journal rfl rfl

theorem tryCandidates_journal (primary : RouteCandidate) (routeStart : ℚ)
    (rest : List RouteCandidate) (within : ∀ candidate ∈ rest, candidate ∈ route.candidates)
    (index : Nat) (attempts : List AttemptRecord) (log : CallLog)
    (counted : attemptsMade attempts = log.calls.length)
    (failed : ∀ call ∈ log.calls, call.Failed)
    (room : log.calls.length + settings.policy.maxAttemptsPerCandidate * rest.length ≤
      callLimit settings route) (recorded : attempts ≠ [] ∨ rest ≠ []) :
    (tryCandidates settings primary prompt maxTokens routeStart index rest attempts).Obeys
      (routeJournal settings route prompt maxTokens) log fun outcome after =>
        after.Reports outcome := by
  induction rest generalizing index attempts log with
  | nil =>
      intro message records same
      cases same
      exact .inr ⟨recorded.resolve_right fun impossible => impossible rfl, counted, failed⟩
  | cons candidate rest ih =>
      have inside : ∀ other ∈ rest, other ∈ route.candidates :=
        fun other later => within other (List.mem_cons_of_mem _ later)
      rw [List.length_cons, Nat.mul_succ] at room
      have positive : settings.policy.maxAttemptsPerCandidate ≠ 0 := by
        have range := settings.policy.attemptsInRange.1
        omega
      unfold tryCandidates
      cases settings.registry.get candidate.provider.val with
      | none =>
          intro message records same
          cases same
      | some registration =>
          refine (admitCandidate_journal registration).bind ?_ fun _ _ raised =>
            CallLog.Raised.reports raised
          rintro admitted _ rfl
          cases admitted with
          | false =>
              refine ih inside (index + 1) _ _ ?_ failed (by omega) (.inl (by simp))
              rw [attemptsMade_append, attemptsMade_skipped, Nat.add_zero, counted]
          | true =>
              refine (runCandidate_journal (within candidate List.mem_cons_self)
                settings.policy.maxAttemptsPerCandidate 1 attempts _ failed (by omega)).bind ?_
                  fun _ _ raised => CallLog.Raised.reports raised
              rintro ⟨result, records⟩ after
                ⟨⟨added, same, made, calls, bounded, nonempty⟩, unanswered, returned⟩
              have tally : attemptsMade records = after.calls.length := by
                rw [same, attemptsMade_append, attemptsMade_of_made made, counted, calls]
              refine (recordCandidate_journal registration _).bind ?_ fun _ _ raised =>
                CallLog.Raised.reports raised
              rintro _ _ rfl
              cases result with
              | some result =>
                  refine quiet_journal rfl rfl ?_ fun _ _ raised => raised.reports
                  intro finish
                  obtain ⟨call, last, answered⟩ := returned result rfl
                  exact ⟨tally, call, candidate, last, answered, rfl, rfl⟩
              | none =>
                  refine ih inside (index + 1) records _ tally (unanswered rfl) (by omega) (.inl ?_)
                  rw [same]
                  exact List.append_ne_nil_of_right_ne_nil _ (nonempty positive)

private theorem validateExecuteRouteInputs_calm (timeoutMs : Int) :
    RaisesOnly (fun problem => problem.isExhausted = false)
      (validateExecuteRouteInputs prompt maxTokens timeoutMs) := by
  unfold validateExecuteRouteInputs
  split
  · exact .error rfl
  split
  · exact .error rfl
  split
  · exact .error rfl
  · exact .ok _

private theorem executeRoute_reports (settings : RouteSettings) (route : Route) (prompt : String)
    (maxTokens : Int) :
    (executeRoute settings route prompt maxTokens).Obeys
      (routeJournal settings route prompt maxTokens) ⟨[], false⟩ fun outcome after =>
        after.Reports outcome := by
  unfold executeRoute
  rw [Program.obeys_bind, Program.obeys_ofExcept]
  cases inputs : validateExecuteRouteInputs prompt maxTokens settings.timeoutMs with
  | error problem =>
      exact (raised_of_calm (validateExecuteRouteInputs_calm settings.timeoutMs) inputs).reports
  | ok _ =>
      dsimp only
      rw [Program.obeys_bind, Program.obeys_ofExcept]
      cases registered : validateRouteAgainstRegistry settings.registry route with
      | error problem =>
          have calm : RaisesOnly (fun problem => problem.isExhausted = false)
              (validateRouteAgainstRegistry settings.registry route) := by
            refine (validateRouteAgainstRegistry_raises settings.registry route).mono ?_
            intro problem routing
            cases problem with
            | routingValidation cls text => rfl
            | _ => contradiction
          exact (raised_of_calm calm registered).reports
      | ok _ =>
          refine quiet_journal rfl rfl ?_ fun _ _ raised => raised.reports
          intro routeStart
          exact tryCandidates_journal route.primary routeStart route.candidates
            (fun _ member => member) 0 [] _ rfl (by simp) (by simp [callLimit])
              (.inr route.nonempty)

theorem CallLog.Serves.note {log : CallLog} (serves : log.Serves settings route prompt maxTokens)
    {op : GatewayOp} (permitted : log.Permits settings route prompt maxTokens op)
    (reply : Except PyException op.Answer) :
    (log.note op reply).Serves settings route prompt maxTokens := by
  cases op with
  | complete candidate request timeoutMs =>
      obtain ⟨own, room⟩ := permitted.dispatched ⟨candidate, request, timeoutMs⟩ rfl
      constructor
      · intro call member
        rcases List.mem_append.mp member with before | new
        · exact serves.serves call before
        · rw [List.mem_singleton.mp new]
          exact own
      · change (log.calls ++ [_]).length ≤ _
        rw [List.length_append, List.length_singleton]
        omega
  | _ =>
      have quiet : log.calls ++ [] = log.calls := List.append_nil _
      constructor
      · intro call member
        change call ∈ log.calls ++ [] at member
        rw [quiet] at member
        exact serves.serves call member
      · change (log.calls ++ []).length ≤ _
        rw [quiet]
        exact serves.bounded

/-- Every call that a route makes is its own, and it reports them all. -/
theorem executeRoute_journal (settings : RouteSettings) (route : Route) (prompt : String)
    (maxTokens : Int) :
    (executeRoute settings route prompt maxTokens).Obeys
      (routeJournal settings route prompt maxTokens) ⟨[], false⟩ fun outcome after =>
        after.Reports outcome ∧ after.Serves settings route prompt maxTokens := by
  refine (executeRoute_reports settings route prompt maxTokens).invariant
    (fun log => log.Serves settings route prompt maxTokens) ⟨?_, Nat.zero_le _⟩ ?_
  · intro call member
    cases member
  · intro log event permitted _ serves
    exact serves.note permitted event.reply

end ModelBudget
