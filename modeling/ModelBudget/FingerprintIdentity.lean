/-
What a fingerprint tells of its request.

The canonical text of the payload determines the model, the prompt, the token limit
and the selected version, whatever characters the strings are made of, and it does not
depend on the order in which the payload was put together.
-/

import ModelBudget.ChatCompletions
import ModelBudget.Foundation.JsonText

set_option autoImplicit false

namespace ModelBudget

open Foundation

/-- The digits of an id are what is left of its text without the dashes. -/
theorem UUID.filter_text (id : UUID) :
    id.text.toList.filter (· ≠ '-') = Json.hexDigits 32 id.value.val := by
  have kept : ∀ c ∈ Json.hexDigits 32 id.value.val, c ≠ '-' := by
    intro c member same
    have lower : isLowerHex c = true := Json.hexDigits_lower c member
    rw [same] at lower
    contradiction
  unfold UUID.text UUID.characters
  generalize Json.hexDigits 32 id.value.val = digits at kept
  have part {piece : List Char} (inside : piece ⊆ digits) : piece.filter (· ≠ '-') = piece :=
    List.filter_eq_self.mpr fun c member => decide_eq_true (kept c (inside member))
  have dash (rest : List Char) : ('-' :: rest).filter (· ≠ '-') = rest.filter (· ≠ '-') := rfl
  rw [String.toList_ofList]
  simp only [List.filter_append, dash]
  rw [part (List.take_subset _ _),
    part (List.Subset.trans (List.take_subset _ _) (List.drop_subset _ _)),
    part (List.Subset.trans (List.take_subset _ _) (List.drop_subset _ _)),
    part (List.Subset.trans (List.take_subset _ _) (List.drop_subset _ _)),
    part (List.drop_subset _ _)]
  have rejoined (count more : Nat) :
      (digits.drop count).take more ++ digits.drop (count + more) = digits.drop count := by
    rw [← List.drop_drop, List.take_append_drop]
  simp only [List.append_assoc]
  rw [rejoined 16 4, rejoined 12 4, rejoined 8 4, List.take_append_drop]

theorem UUID.text_injective : Function.Injective UUID.text := by
  intro first second same
  have read := first.filter_text
  rw [same, second.filter_text] at read
  have values := Json.hexDigits_injective 32 read
  cases first
  cases second
  congr 1
  exact Fin.ext values.symm

/-- The text that is hashed. -/
def fingerprintText (body : ChatCompletionRequest) (promptVersionId : Option UUID) : List Char :=
  (Json.obj (fingerprintPayload body promptVersionId)).dumps

/-- The members of the payload, none of which is a container. -/
def fingerprintMembers (body : ChatCompletionRequest) (promptVersionId : Option UUID) :
    List Json.Member :=
  [("model", match body.model with
      | some model => .str model
      | none => .null), ("prompt", .str body.prompt), ("max_tokens", .int body.maxTokens)] ++
    match promptVersionId with
    | some id => [("prompt_version_id", .str id.text)]
    | none => []

theorem fingerprintPayload_flat (body : ChatCompletionRequest) (promptVersionId : Option UUID) :
    Json.obj (fingerprintPayload body promptVersionId) =
      Json.flat (fingerprintMembers body promptVersionId) := by
  rcases body with ⟨model, prompt, maxTokens, stream, selected⟩
  cases model <;> cases promptVersionId <;> rfl

theorem fingerprintPayload_keys (body : ChatCompletionRequest) (promptVersionId : Option UUID) :
    ((fingerprintPayload body promptVersionId).map Prod.fst).Nodup := by
  cases promptVersionId with
  | none =>
      change ["model", "prompt", "max_tokens"].Nodup
      decide
  | some id =>
      change ["model", "prompt", "max_tokens", "prompt_version_id"].Nodup
      decide

private theorem mem_fingerprintMembers {body : ChatCompletionRequest}
    {promptVersionId : Option UUID} {key : String} {value : Json.Scalar} :
    (key, value) ∈ fingerprintMembers body promptVersionId ↔
      (key = "model" ∧ value = match body.model with
        | some model => .str model
        | none => .null) ∨
      (key = "prompt" ∧ value = .str body.prompt) ∨
      (key = "max_tokens" ∧ value = .int body.maxTokens) ∨
      (key = "prompt_version_id" ∧ ∃ id, promptVersionId = some id ∧ value = .str id.text) := by
  unfold fingerprintMembers
  cases promptVersionId with
  | none => simp
  | some id => simp

/-- Members that stand in one payload stand in the other. -/
private theorem fields_of_members {first second : ChatCompletionRequest}
    {firstVersion secondVersion : Option UUID}
    (same : (fingerprintMembers first firstVersion).Perm
      (fingerprintMembers second secondVersion)) :
    first.model = second.model ∧ first.prompt = second.prompt ∧
      first.maxTokens = second.maxTokens ∧ firstVersion = secondVersion := by
  have shared (key : String) (value : Json.Scalar) :
      (key, value) ∈ fingerprintMembers first firstVersion ↔
        (key, value) ∈ fingerprintMembers second secondVersion := same.mem_iff
  simp only [mem_fingerprintMembers] at shared
  have model := (shared "model" _).mp (.inl ⟨rfl, rfl⟩)
  have prompt := (shared "prompt" _).mp (.inr (.inl ⟨rfl, rfl⟩))
  have tokens := (shared "max_tokens" _).mp (.inr (.inr (.inl ⟨rfl, rfl⟩)))
  have version := shared "prompt_version_id"
  simp only [true_and, String.reduceEq, false_and, or_self, or_false] at model
  simp only [String.reduceEq, false_and, Json.Scalar.str.injEq, true_and, reduceCtorEq,
    and_self, or_self, or_false, false_or] at prompt
  simp only [String.reduceEq, false_and, reduceCtorEq, and_self, Json.Scalar.int.injEq,
    true_and, and_false, exists_false, or_false, false_or] at tokens
  simp only [String.reduceEq, false_and, true_and, false_or] at version
  refine ⟨?_, prompt, tokens, ?_⟩
  · cases given : first.model with
    | none =>
        cases givenToo : second.model with
        | none => rfl
        | some other =>
            rw [given, givenToo] at model
            cases model
    | some name =>
        cases givenToo : second.model with
        | none =>
            rw [given, givenToo] at model
            cases model
        | some other =>
            rw [given, givenToo] at model
            cases model
            rfl
  · cases firstVersion with
    | none =>
        cases secondVersion with
        | none => rfl
        | some other =>
            obtain ⟨id, impossible, _⟩ := (version _).mpr ⟨other, rfl, rfl⟩
            cases impossible
    | some id =>
        obtain ⟨other, selected, texts⟩ := (version _).mp ⟨id, rfl, rfl⟩
        rw [selected, UUID.text_injective (Json.Scalar.str.inj texts)]

/-- Of the payload only the number can be too long to be written. -/
theorem fingerprintPayload_serializable (body : ChatCompletionRequest)
    (promptVersionId : Option UUID) :
    (Json.obj (fingerprintPayload body promptVersionId)).serializable =
      decide (digitCount body.maxTokens.natAbs ≤ Json.intDigitLimit) := by
  rw [Json.serializable_obj]
  cases modelGiven : body.model <;> cases promptVersionId <;>
    simp [fingerprintPayload, Json.serializable, modelGiven]

/-- Two texts are equal exactly when the requests agree in what is hashed, no order of the
payload changes a text, and the fingerprint is the digest of the text. -/
theorem fingerprintText_eq_iff (first second : ChatCompletionRequest)
    (firstVersion secondVersion : Option UUID) :
    (fingerprintText first firstVersion = fingerprintText second secondVersion ↔
      first.model = second.model ∧ first.prompt = second.prompt ∧
        first.maxTokens = second.maxTokens ∧ firstVersion = secondVersion) ∧
    ∀ payload : List (String × Json), payload.Perm (fingerprintPayload first firstVersion) →
      (Json.obj payload).dumps = fingerprintText first firstVersion ∧
      computeRequestFingerprint payload =
        if digitCount first.maxTokens.natAbs ≤ Json.intDigitLimit then
          .ok (Sha256.hexdigest (fingerprintText first firstVersion))
        else .error (.idempotencyValidation "payload could not be canonically serialized") := by
  constructor
  · unfold fingerprintText
    constructor
    · intro same
      rw [fingerprintPayload_flat, fingerprintPayload_flat] at same
      exact fields_of_members (Json.perm_of_dumps_flat same)
    · rintro ⟨model, prompt, tokens, version⟩
      unfold fingerprintPayload
      rw [model, prompt, tokens, version]
  · intro payload reordered
    have text : (Json.obj payload).dumps = fingerprintText first firstVersion :=
      (Json.dumps_obj_perm (fingerprintPayload_keys first firstVersion) reordered.symm).symm
    refine ⟨text, ?_⟩
    unfold computeRequestFingerprint
    rw [text, Json.serializable_obj, reordered.all_eq, ← Json.serializable_obj,
      fingerprintPayload_serializable]
    simp only [decide_eq_true_eq]

/-- A prompt that tries to pass for a selected version, and the payload written backwards. -/
theorem fingerprintText_eq_iff_reversed :
    fingerprintText ⟨none, "x\", \"prompt_version_id\": \"0", 16, false, none⟩ none ≠
      fingerprintText ⟨none, "x", 16, false, none⟩ (some ⟨0⟩) ∧
    computeRequestFingerprint
        (fingerprintPayload ⟨none, "x", 16, false, none⟩ (some ⟨0⟩)).reverse =
      .ok (Sha256.hexdigest (fingerprintText ⟨none, "x", 16, false, none⟩ (some ⟨0⟩))) := by
  constructor
  · intro same
    obtain ⟨_, prompts, _⟩ := (fingerprintText_eq_iff _ _ _ _).1.mp same
    exact absurd prompts (by decide)
  · have backwards := (fingerprintText_eq_iff ⟨none, "x", 16, false, none⟩
      ⟨none, "x", 16, false, none⟩ (some ⟨0⟩) none).2 _ (List.reverse_perm _)
    exact backwards.2.trans (if_pos (by decide))

end ModelBudget
