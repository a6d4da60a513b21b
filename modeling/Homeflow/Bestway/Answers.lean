import Homeflow.Bestway.Client

namespace Homeflow.Bestway

def Effect.answer? : Effect → Option Answer
  | .asked _ _ => none
  | .answered answer => some answer
  | .controlled _ _ base => some base
  | .applied _ observed => some observed

def Answer.Fresh (answer : Answer) : Prop := answer.askedAt < answer.receivedAt

instance (answer : Answer) : Decidable answer.Fresh :=
  inferInstanceAs (Decidable (answer.askedAt < answer.receivedAt))

-- The blocks read_status returned, those a control request was built from and those a
-- write was confirmed by.
def answers (trace : List Effect) : List Answer := trace.filterMap Effect.answer?

def Fresh (client : Client) : Prop := ∀ answer ∈ answers client.trace, answer.Fresh

instance (client : Client) : Decidable (Fresh client) :=
  inferInstanceAs (Decidable (∀ answer ∈ answers client.trace, answer.Fresh))

def IsStatus (frame : Frame) : Prop := frame.command = Command.statusResponse.number

instance (frame : Frame) : Decidable (IsStatus frame) :=
  inferInstanceAs (Decidable (frame.command = Command.statusResponse.number))

-- The complete frames that were received and that no exchange has taken yet.
def Client.received (client : Client) : List (Frame × List Octet) :=
  client.pending ++
    ((frameDecoder Octet.value).drain (client.reader.buffer ++ client.unread)).frames

-- Whether a step writes a STATUS_REQUEST.
def Client.writesStatus (client : Client) : Label → Bool
  | .ask request =>
      client.mayAsk request && request.isStatus && client.stream.isSome && client.inside.isNone &&
        client.waiting.isEmpty
  | .enter =>
      client.stream.isSome && client.inside.isNone && client.waiting.head?.any Request.isStatus
  | _ => false

-- No STATUS_RESPONSE lies unread when a STATUS_REQUEST is written.
def NoneUnread (client : Client) (label : Label) : Prop :=
  client.writesStatus label = true → ∀ entry ∈ client.received, ¬IsStatus entry.1

instance (client : Client) (label : Label) : Decidable (NoneUnread client label) :=
  inferInstanceAs (Decidable (client.writesStatus label = true →
    ∀ entry ∈ client.received, ¬IsStatus entry.1))

-- The blocks a call of execute holds.
def Execution.answers {α : Type} : Execution α → List α
  | .writing _ base => [base]
  | .confirming _ _ _ latest | .sleeping _ _ _ latest => latest.toList
  | .ended (.ok executed) => executed.observed.toList
  | _ => []

section Execution

variable {α : Type} {provider : BestwayProvider} {payload : α → Bytes}

theorem answers_start (ref : ProviderDeviceRef) (command : ProviderCommand) :
    (Execution.start ref command : Execution α).answers = [] := by
  unfold Execution.start
  split
  · rfl
  · split <;> rfl

theorem answers_prepare {datapoint : Datapoint} {params : CommandParams} {base answer : α}
    (h : answer ∈ (Execution.prepare provider payload datapoint params base).answers) :
    answer = base := by
  unfold Execution.prepare at h
  split at h
  · cases h
  · split at h
    · cases h
    · split at h
      · cases h
      · cases h
      · exact List.mem_singleton.mp h

theorem answers_conclude {datapoint : Datapoint} {value : Value} {latest : Option α} {answer : α}
    (h : answer ∈ (Execution.conclude provider payload datapoint value latest).answers) :
    answer ∈ latest := by
  cases latest with
  | none => cases h
  | some observed =>
      simp only [Execution.conclude] at h
      split at h <;> exact congrArg some (List.mem_singleton.mp h).symm

theorem answers_nextAttempt {datapoint : Datapoint} {value : Value} {attempt : Nat}
    {latest : Option α} {answer : α}
    (h : answer ∈
      (Execution.nextAttempt provider payload datapoint value attempt latest).answers) :
    answer ∈ latest := by
  unfold Execution.nextAttempt at h
  split at h
  · split at h <;> exact Option.mem_toList.mp h
  · exact answers_conclude h

-- It keeps nothing but what it held and what it has just read.
theorem answers_readEnds {execution : Execution α} {reading : Except ClientError α} {answer : α}
    (h : answer ∈ (execution.readEnds provider payload reading).answers) :
    answer ∈ execution.answers ∨ reading = .ok answer := by
  unfold Execution.readEnds at h
  split at h
  · cases h
  · exact .inr (congrArg Except.ok (answers_prepare h).symm)
  · cases h
  · exact .inl (Option.mem_toList.mpr (answers_nextAttempt h))
  · split at h
    · exact .inl (Option.mem_toList.mpr (answers_nextAttempt h))
    · split at h
      · exact .inr (congrArg Except.ok (Option.some.inj (answers_conclude h)))
      · exact .inr (congrArg Except.ok (Option.some.inj (answers_nextAttempt h)))
  · exact .inl h

theorem answers_sendEnds {execution : Execution α} {sending : Except ClientError Unit} {answer : α}
    (h : answer ∈ (execution.sendEnds provider payload sending).answers) :
    answer ∈ execution.answers := by
  unfold Execution.sendEnds at h
  split at h
  · cases h
  · cases h
  · cases answers_nextAttempt h
  · exact h

end Execution

end Homeflow.Bestway
