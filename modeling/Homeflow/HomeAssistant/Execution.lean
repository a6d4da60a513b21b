import Homeflow.HomeAssistant.Provider

namespace Homeflow.HomeAssistant

-- What a call of execute is about, once the service call it makes is known.
structure Asked where
  entityId : String
  kind : DeviceKind
  call : Call

-- Where a call of execute is suspended.
inductive Execution where
  -- On the service call.
  | calling (asked : Asked)
  -- On a read of the entity, or on the sleep before it.
  | confirming (asked : Asked) (attempt : Nat) (latest : Option HaEntity)
  | sleeping (asked : Asked) (attempt : Nat) (latest : Option HaEntity)
  | ended (result : Except HaError ProviderCommandResult)

def domainOf (entityId : String) : String := String.ofList (entityId.toList.takeWhile (· ≠ '.'))

namespace Execution

variable (provider : HomeAssistantProvider) (float : String → Option PyFloat) (now : Time)

def start (ref : ProviderDeviceRef) (command : ProviderCommand) : Execution :=
  if ref.provider ≠ PROVIDER_NAME then .ended (.error .unavailable)
  else
    match provider.kinds.get? ref.providerDeviceId with
    | none => .ended (.error .unavailable)
    | some kind =>
        let domain := domainOf ref.providerDeviceId
        if domain ∉ provider.releasedDomains ∨ domain ∉ RELEASABLE_DOMAINS then
          .ended (.error .rejected)
        else
          match callFor command with
          | none => .ended (.error .rejected)
          | some call => .calling ⟨ref.providerDeviceId, kind, call⟩

def applied (entity : HaEntity) : Execution :=
  match provider.snapshot float entity now with
  | .error _ => .ended (.error .other)
  | .ok state => .ended (.ok { outcome := .applied, state := some state })

def conclude (asked : Asked) : Option HaEntity → Execution
  | none => .ended (.ok { outcome := .unknown, failureCode := some "read_back_failed" })
  | some observed =>
      match provider.snapshot float observed now,
          entityMatches float observed asked.kind asked.call.expected with
      | .ok state, .ok true => .ended (.ok { outcome := .applied, state := some state })
      | .ok state, .ok false =>
          .ended (.ok { outcome := .unknown, state := some state
                        failureCode := some "not_confirmed_by_device" })
      | _, _ => .ended (.error .other)

-- Reading is idempotent and repeated; the service call itself never is.
def nextAttempt (asked : Asked) (attempt : Nat) (latest : Option HaEntity) : Execution :=
  if attempt < provider.confirmAttempts then
    if attempt = 0 then .confirming asked attempt latest else .sleeping asked attempt latest
  else conclude provider float now asked latest

-- The instance answers with what it touched. There is nothing to wait for if the entity is
-- in there and already reads correctly.
def judge (asked : Asked) : List HaEntity → Execution
  | [] => nextAttempt provider float now asked 0 none
  | entity :: rest =>
      if entity.entityId = asked.entityId then
        match entityMatches float entity asked.kind asked.call.expected with
        | .error _ => .ended (.error .other)
        | .ok true => applied provider float now entity
        | .ok false => judge asked rest
      else judge asked rest

-- The request it waits for has ended.
def answered (exchange : Exchange) : Execution → Execution
  | .calling asked =>
      match callService exchange with
      | .error error => .ended (.error error)
      | .ok changed => judge provider float now asked changed
  | .confirming asked attempt latest =>
      match HomeAssistant.state exchange with
      | .error .unavailable => nextAttempt provider float now asked (attempt + 1) latest
      | .error error => .ended (.error error)
      | .ok entity =>
          match entityMatches float entity asked.kind asked.call.expected with
          | .error _ => .ended (.error .other)
          | .ok true => conclude provider float now asked (some entity)
          | .ok false => nextAttempt provider float now asked (attempt + 1) (some entity)
  | execution => execution

def slept : Execution → Execution
  | .sleeping asked attempt latest => .confirming asked attempt latest
  | execution => execution

-- Whether the service call has been made.
def called : Execution → Bool
  | .calling _ | .confirming _ _ _ | .sleeping _ _ _ => true
  | .ended _ => false

-- Whether it has raised, or says that the device refused.
def raised : Execution → Bool
  | .ended (.error _) => true
  | _ => false

def rejects : Execution → Bool
  | .ended (.ok result) => result.outcome = .rejected
  | _ => false

end Execution

section Answers

-- The answer is no error, of a size that is read, and JSON unless it is empty.
def Response.Legible (response : Response) : Prop :=
  response.statusCode < 400 ∧ response.contentLength ≤ MAX_RESPONSE_BYTES ∧
    (response.contentLength = 0 ∨ ∃ payload, response.body = .json payload)

def Response.entities (response : Response) : List HaEntity :=
  match response.contentLength, response.body with
  | _ + 1, .json (.arr items) => items.filterMap HaEntity.validate
  | _, _ => []

-- It is a list of states of which not one is usable.
def Response.Useless (response : Response) : Prop :=
  response.contentLength ≠ 0 ∧ response.entities = [] ∧
    ∃ items, response.body = .json (.arr items) ∧ items ≠ []

-- A read is not just unanswered: the request is refused, or the JSON cannot be taken in.
def Exchange.Upsets (exchange : Exchange) : Prop :=
  ∃ response, exchange = .answered response ∧
    (response.statusCode = 400 ∨ response.statusCode < 400 ∧ response.contentLength ≠ 0 ∧
      response.contentLength ≤ MAX_RESPONSE_BYTES ∧ response.body = .otherError)

def Body.decoded : Body → Except HaError Json
  | .json payload => .ok payload
  | .valueError => .error .unavailable
  | .otherError => .error .other

theorem request_read {response : Response} (hstatus : response.statusCode < 400)
    (hsize : response.contentLength ≤ MAX_RESPONSE_BYTES) :
    request (.answered response) =
      if response.contentLength = 0 then .ok .null else response.body.decoded := by
  simp only [request, show ¬(response.statusCode = 401 ∨ response.statusCode = 403) by omega,
    show ¬response.statusCode = 400 by omega, show ¬response.statusCode ≥ 400 by omega,
    show ¬response.contentLength > MAX_RESPONSE_BYTES by omega, if_false]
  cases response.body <;> rfl

theorem request_unread {response : Response}
    (h : ¬(response.statusCode < 400 ∧ response.contentLength ≤ MAX_RESPONSE_BYTES)) :
    request (.answered response) =
      .error (if response.statusCode = 400 then .rejected else .unavailable) := by
  simp only [request]
  by_cases hdenied : response.statusCode = 401 ∨ response.statusCode = 403
  · rw [if_pos hdenied, if_neg (by omega)]
  · rw [if_neg hdenied]
    by_cases hrefused : response.statusCode = 400
    · rw [if_pos hrefused, if_pos hrefused]
    · rw [if_neg hrefused, if_neg hrefused]
      by_cases hstatus : response.statusCode ≥ 400
      · rw [if_pos hstatus]
      · rw [if_neg hstatus, if_pos (by omega)]

theorem parseEntities_ok {items : List Json} {entities : List HaEntity} :
    parseEntities items = .ok entities ↔
      entities = items.filterMap HaEntity.validate ∧ (entities = [] → items = []) := by
  unfold parseEntities
  dsimp only
  split
  · rename_i hnone
    simp only [reduceCtorEq, false_iff, not_and, not_forall]
    rintro rfl
    exact ⟨hnone.2, hnone.1⟩
  · rename_i hsome
    rw [Except.ok.injEq]
    constructor
    · rintro rfl
      exact ⟨rfl, fun hempty => not_not.mp fun hitems => hsome ⟨hitems, hempty⟩⟩
    · exact fun h => h.1.symm

-- A service call returns the usable states of a legible answer.
theorem callService_ok (response : Response) (entities : List HaEntity) :
    callService (.answered response) = .ok entities ↔
      entities = response.entities ∧ response.Legible ∧ ¬response.Useless := by
  unfold callService Response.Legible Response.Useless Response.entities
  by_cases hread : response.statusCode < 400 ∧ response.contentLength ≤ MAX_RESPONSE_BYTES
  · rw [request_read hread.1 hread.2]
    cases hlength : response.contentLength with
    | zero => simp [hread.1, eq_comm]
    | succ length =>
        rw [if_neg (Nat.succ_ne_zero _)]
        rw [hlength] at hread
        cases hbody : response.body with
        | valueError | otherError => simp [Body.decoded]
        | json payload =>
            cases payload with
            | arr items =>
                simp only [Body.decoded, parseEntities_ok]
                simp only [hread.1, hread.2, true_and, Nat.succ_ne_zero, false_or, ne_eq,
                  not_false_eq_true, Body.json.injEq, Json.arr.injEq, exists_eq', not_and,
                  exists_eq_left']
                exact and_congr_right fun hentities => by rw [hentities, not_not]
            | null | bool | int | float | str | obj =>
                simp [Body.decoded, hread.1, hread.2, eq_comm]
  · rw [request_unread hread]
    simp only [reduceCtorEq, false_iff]
    exact fun h => hread ⟨h.2.1.1, h.2.1.2.1⟩

theorem state_error_iff (exchange : Exchange) :
    (∃ error, error ≠ .unavailable ∧ HomeAssistant.state exchange = .error error) ↔
      exchange.Upsets := by
  constructor
  · rintro ⟨error, herror, hstate⟩
    unfold HomeAssistant.state at hstate
    cases exchange with
    | unreachable | lost =>
        cases hstate
        exact absurd rfl herror
    | answered response =>
        refine ⟨response, rfl, ?_⟩
        by_cases hread : response.statusCode < 400 ∧ response.contentLength ≤ MAX_RESPONSE_BYTES
        · rw [request_read hread.1 hread.2] at hstate
          by_cases hempty : response.contentLength = 0
          · rw [if_pos hempty] at hstate
            cases hstate
            exact absurd rfl herror
          · rw [if_neg hempty] at hstate
            cases hbody : response.body with
            | json payload =>
                simp only [hbody, Body.decoded] at hstate
                split at hstate
                · cases hstate
                · cases hstate
                  exact absurd rfl herror
            | valueError =>
                simp only [hbody, Body.decoded] at hstate
                cases hstate
                exact absurd rfl herror
            | otherError => exact .inr ⟨hread.1, hempty, hread.2, rfl⟩
        · rw [request_unread hread] at hstate
          by_cases hrefused : response.statusCode = 400
          · exact .inl hrefused
          · rw [if_neg hrefused] at hstate
            cases hstate
            exact absurd rfl herror
  · rintro ⟨response, rfl, hrefused | ⟨hstatus, hlength, hsize, hbody⟩⟩
    · refine ⟨.rejected, nofun, ?_⟩
      rw [HomeAssistant.state, request_unread (by omega), if_pos hrefused]
    · refine ⟨.other, nofun, ?_⟩
      rw [HomeAssistant.state, request_read hstatus hsize, if_neg hlength, hbody]
      rfl

end Answers

section Raises

variable (provider : HomeAssistantProvider) (float : String → Option PyFloat)

-- The canonical state can take what the entity reports.
def takes (entity : HaEntity) (kind : DeviceKind) : Bool := (normalise float entity kind).isOk

def Obeys (asked : Asked) (entity : HaEntity) : Prop :=
  entityMatches float entity asked.kind asked.call.expected = .ok true

-- What is asked of an entity that execute looks at, and of the one it reports.
def Judgeable (asked : Asked) (entity : HaEntity) : Prop :=
  asked.call.expected = {} ∨ takes float entity asked.kind = true

def Reportable (entity : HaEntity) : Prop :=
  takes float entity ((provider.kinds.get? entity.entityId).getD .sensor) = true

-- Of the states the instance says it touched, those of the entity up to the first that obeys.
def Touched (asked : Asked) : List HaEntity → Prop
  | [] => True
  | entity :: rest =>
      if entity.entityId = asked.entityId then
        Judgeable float asked entity ∧
        (Obeys float asked entity → Reportable provider float entity) ∧
          (¬Obeys float asked entity → Touched asked rest)
      else Touched asked rest

-- The answer to the service call leaves execute nothing to raise.
def Called (asked : Asked) : Exchange → Prop
  | .unreachable | .lost => False
  | .answered response =>
      response.Legible ∧ ¬response.Useless ∧ Touched provider float asked response.entities

-- So does the answer to a read, and after the last read the entity that is reported.
def Read (asked : Asked) (attempt : Nat) (latest : Option HaEntity) (exchange : Exchange) :
    Prop :=
  ¬exchange.Upsets ∧
    match (HomeAssistant.state exchange).toOption with
    | some entity =>
        Judgeable float asked entity ∧
          (Obeys float asked entity ∨ provider.confirmAttempts ≤ attempt + 1 →
            Reportable provider float entity)
    | none =>
        provider.confirmAttempts ≤ attempt + 1 → ∀ entity, latest = some entity →
          Judgeable float asked entity ∧ Reportable provider float entity

variable {provider float} {now : Time} {asked : Asked}

theorem entityMatches_isOk {entity : HaEntity} :
    (entityMatches float entity asked.kind asked.call.expected).isOk = true ↔
      Judgeable float asked entity := by
  unfold entityMatches Judgeable takes
  by_cases hexpected : asked.call.expected = {}
  · simp [hexpected, Except.isOk, Except.toBool]
  · rw [if_neg hexpected]
    cases normalise float entity asked.kind <;>
      simp [hexpected, Except.isOk, Except.toBool, bind, Except.bind, pure, Except.pure]

theorem snapshot_isOk (now : Time) {entity : HaEntity} :
    (provider.snapshot float entity now).isOk = true ↔ Reportable provider float entity := by
  unfold HomeAssistantProvider.snapshot Reportable takes
  dsimp only
  cases normalise float entity ((provider.kinds.get? entity.entityId).getD .sensor) <;>
    simp [Except.isOk, Except.toBool, bind, Except.bind, pure, Except.pure]

theorem applied_raised {entity : HaEntity} :
    (Execution.applied provider float now entity).raised = false ↔
      Reportable provider float entity := by
  rw [← snapshot_isOk now, Execution.applied]
  cases provider.snapshot float entity now <;> simp [Execution.raised, Except.isOk, Except.toBool]

theorem conclude_raised {latest : Option HaEntity} :
    (Execution.conclude provider float now asked latest).raised = false ↔
      ∀ entity, latest = some entity →
        Judgeable float asked entity ∧ Reportable provider float entity := by
  cases latest with
  | none => simp [Execution.conclude, Execution.raised]
  | some observed =>
      simp only [Option.some.injEq, forall_eq']
      rw [← entityMatches_isOk, ← snapshot_isOk now, Execution.conclude]
      cases provider.snapshot float observed now with
      | error error => simp [Execution.raised, Except.isOk, Except.toBool]
      | ok state =>
          cases entityMatches float observed asked.kind asked.call.expected with
          | error error => simp [Execution.raised, Except.isOk, Except.toBool]
          | ok obeys => cases obeys <;> simp [Execution.raised, Except.isOk, Except.toBool]

theorem nextAttempt_raised {attempt : Nat} {latest : Option HaEntity} :
    (Execution.nextAttempt provider float now asked attempt latest).raised = false ↔
      (provider.confirmAttempts ≤ attempt → ∀ entity, latest = some entity →
        Judgeable float asked entity ∧ Reportable provider float entity) := by
  unfold Execution.nextAttempt
  by_cases hmore : attempt < provider.confirmAttempts
  · rw [if_pos hmore]
    constructor
    · exact fun _ hlast => absurd hmore (by omega)
    · intro _
      split <;> rfl
  · rw [if_neg hmore, conclude_raised]
    exact ⟨fun h _ => h, fun h => h (by omega)⟩

theorem judge_raised (entities : List HaEntity) :
    (Execution.judge provider float now asked entities).raised = false ↔
      Touched provider float asked entities := by
  induction entities with
  | nil => simp [Execution.judge, Touched, nextAttempt_raised]
  | cons entity rest ih =>
      simp only [Execution.judge, Touched]
      by_cases hid : entity.entityId = asked.entityId
      · rw [if_pos hid, if_pos hid, ← entityMatches_isOk]
        unfold Obeys
        cases entityMatches float entity asked.kind asked.call.expected with
        | error error => simp [Execution.raised, Except.isOk, Except.toBool]
        | ok obeys =>
            cases obeys with
            | true => simp [applied_raised, Except.isOk, Except.toBool]
            | false => simp [ih, Except.isOk, Except.toBool]
      · rw [if_neg hid, if_neg hid]
        exact ih

-- The call of execute raises at the answer of the service call, or goes on.
theorem called_iff (exchange : Exchange) :
    ((Execution.calling asked).answered provider float now exchange).raised = false ↔
      Called provider float asked exchange := by
  cases exchange with
  | unreachable | lost => exact ⟨nofun, False.elim⟩
  | answered response =>
      simp only [Execution.answered, Called]
      cases hcall : callService (.answered response) with
      | error error =>
          have hnot : ¬(response.Legible ∧ ¬response.Useless) := fun h => by
            have hok := (callService_ok response response.entities).mpr ⟨rfl, h⟩
            cases hcall.symm.trans hok
          exact ⟨nofun, fun h => absurd ⟨h.1, h.2.1⟩ hnot⟩
      | ok entities =>
          obtain ⟨rfl, hlegible, huseless⟩ := (callService_ok response entities).mp hcall
          rw [judge_raised]
          exact ⟨fun h => ⟨hlegible, huseless, h⟩, fun h => h.2.2⟩

theorem read_iff {attempt : Nat} {latest : Option HaEntity} (exchange : Exchange) :
    ((Execution.confirming asked attempt latest).answered provider float now exchange).raised =
      false ↔ Read provider float asked attempt latest exchange := by
  unfold Read
  rw [← state_error_iff]
  simp only [Execution.answered]
  cases hstate : HomeAssistant.state exchange with
  | error error =>
      cases error with
      | unavailable => simp [nextAttempt_raised, Except.toOption]
      | rejected | other => simp [Execution.raised]
  | ok entity =>
      simp only [reduceCtorEq, and_false, exists_false, not_false_eq_true, true_and,
        Except.toOption]
      rw [← entityMatches_isOk]
      unfold Obeys
      cases hmatches : entityMatches float entity asked.kind asked.call.expected with
      | error error => simp [Execution.raised, Except.isOk, Except.toBool]
      | ok obeys =>
          have hjudgeable : Judgeable float asked entity := by
            rw [← entityMatches_isOk, hmatches]
            rfl
          cases obeys with
          | true => simp [conclude_raised, hjudgeable, Except.isOk, Except.toBool]
          | false => simp [nextAttempt_raised, hjudgeable, Except.isOk, Except.toBool]

end Raises

namespace Execution

variable (provider : HomeAssistantProvider) (float : String → Option PyFloat) (now : Time)
  (asked : Asked)

theorem conclude_rejects (latest : Option HaEntity) :
    (conclude provider float now asked latest).rejects = false := by
  unfold conclude
  split
  · rfl
  · split <;> rfl

theorem nextAttempt_rejects (attempt : Nat) (latest : Option HaEntity) :
    (nextAttempt provider float now asked attempt latest).rejects = false := by
  unfold nextAttempt
  split
  · split <;> rfl
  · exact conclude_rejects provider float now asked latest

theorem judge_rejects (entities : List HaEntity) :
    (judge provider float now asked entities).rejects = false := by
  induction entities with
  | nil => exact nextAttempt_rejects provider float now asked 0 none
  | cons entity rest ih =>
      simp only [judge]
      split
      · split
        · rfl
        · unfold applied
          split <;> rfl
        · exact ih
      · exact ih

theorem answered_rejects {execution : Execution} (exchange : Exchange)
    (hcalled : execution.called = true) :
    (execution.answered provider float now exchange).rejects = false := by
  cases execution with
  | calling asked =>
      simp only [answered]
      split
      · rfl
      · exact judge_rejects provider float now asked _
  | confirming asked attempt latest =>
      simp only [answered]
      split
      · exact nextAttempt_rejects provider float now asked _ _
      · rfl
      · split
        · rfl
        · exact conclude_rejects provider float now asked _
        · exact nextAttempt_rejects provider float now asked _ _
  | sleeping asked attempt latest => rfl
  | ended result => cases hcalled

end Execution

end Homeflow.HomeAssistant
