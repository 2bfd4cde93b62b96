import Everest.Ocpp.PromisesKept

namespace Everest.Ocpp
open Queues Runs

variable {M : Type} [DecidableEq M] [MessageType M]

namespace MessageQueue

variable {s : MessageQueue M} {input : Input M} {u : MessageId}

/-- A CALL with this id is received and understood while the queue runs. -/
def ReceivesCall (s : MessageQueue M) (input : Input M) (u : MessageId) : Prop :=
  s.running = true ∧ ∃ env received, input = .receive env received ∧
    received.messageTypeId = .call ∧ received.knownAction = true ∧ received.uniqueId = u

/-- The CALL is answered, or it is not going to be. -/
def Input.releases (u : MessageId) : Input M → Bool
  | .pushCallResult uniqueId | .pushCallError uniqueId => uniqueId = u
  | .resetNextMessageToSend => true
  | _ => false

/-- Nothing but the answer to this CALL interferes: no answer and no other CALL is received,
no answer is given to an id that differs in case only, and no message of the queue has this id. -/
def Unmixed (u : MessageId) (s : MessageQueue M) (input : Input M) : Prop :=
  (∀ m ∈ s.held, m.uniqueId ≠ u) ∧
    match input with
    | .receive _ received => received.messageTypeId ≠ .callResult ∧
        received.messageTypeId ≠ .callError ∧
        (received.messageTypeId = .call → received.knownAction = true → received.uniqueId = u)
    | .pushCallResult uniqueId | .pushCallError uniqueId =>
        u.iequals uniqueId = true → uniqueId = u
    | _ => True

instance (u : MessageId) (s : MessageQueue M) (input : Input M) :
    Decidable (Unmixed u s input) := by
  unfold Unmixed
  cases input <;> infer_instance

/-- The id of the CALL is remembered until the CALL is answered. -/
theorem step_nextMessageToSend (h : s.nextMessageToSend = some u) (hunmixed : Unmixed u s input)
    (hopen : input.releases u = false) : (s.step input).nextMessageToSend = some u := by
  have hresp : ∀ {uniqueId : MessageId}, (u.iequals uniqueId = true → uniqueId = u) →
      decide (uniqueId = u) = false → (s.pushResponse uniqueId).nextMessageToSend = some u := by
    intro uniqueId hsame hne
    unfold pushResponse
    split_ifs
    · exact h
    · have hother : u.iequals uniqueId = false :=
        Bool.eq_false_iff.2 fun heq => of_decide_eq_false hne (hsame heq)
      simp [h, hother]
  cases input with
  | pushCallResult | pushCallError => exact hresp hunmixed.2 hopen
  | resetNextMessageToSend => cases hopen
  | receive env received =>
    obtain ⟨hresult, herror, hcall⟩ := hunmixed.2
    simp only [step, receive]
    cases htype : received.messageTypeId with
    | call =>
      split_ifs with hknown
      · exact congrArg some (hcall htype hknown)
      · exact h
    | callResult => exact absurd htype hresult
    | callError => exact absurd htype herror
    | unknown => exact h
  | pushCall =>
    dsimp only [step, pushCall, addMessage]
    split_ifs <;> exact h
  | pushCallAsync =>
    dsimp only [step, pushCallAsync, addMessage]
    split_ifs <;> exact h
  | workerIteration env =>
    refine Eq.trans (b := s.nextMessageToSend) ?_ h
    dsimp only [step]
    unfold workerIteration startIdleAction sendNext
    split_ifs
    · dsimp only
      split_ifs <;> rfl
    · rfl
    · split
      · rfl
      · split_ifs <;> rfl
    · rfl
  | inFlightTimeout =>
    dsimp only [step, inFlightTimeout]
    split
    · exact h
    · split_ifs <;> exact h
  | resume =>
    dsimp only [step, resume, resumeNow]
    split_ifs <;> exact h
  | resumeTimer =>
    dsimp only [step, resumeNow]
    split_ifs <;> exact h
  | idleActionDone =>
    dsimp only [step, idleActionDone, resume, resumeNow]
    split
    · split_ifs <;> exact h
    · exact h
  | notifyQueueTimer | pause | runWhenIdle | setRegistrationStatusAccepted | stop
  | addStoppedTransactionId | addMeterValueMessageId | notifyStartTransactionHandled
  | updateTransactionMessageAttempts | updateTransactionMessageRetryInterval => exact h

/-- While the id is remembered, every other message is held back. -/
theorem step_held_back (h : s.nextMessageToSend = some u) (hunmixed : Unmixed u s input) :
    (s.step input).transmitted = s.transmitted := by
  rcases s.step_outcome with ⟨hbal, -⟩ | ⟨env, m, queue, -, hpicks, -⟩
  · exact hbal.transmitted
  · have hm : m ∈ s.held := by
      rcases selectMessage_cases hpicks.selected with ⟨-, rest, hqueue⟩ | ⟨-, hfind⟩
      · exact List.mem_append_left _ (List.mem_append_right _ (by simp [hqueue]))
      · exact List.mem_append_right _ (List.mem_of_find?_eq_some hfind)
    have hback := hpicks.notHeldBack
    simp [heldBack, h, (hunmixed.1 m hm).symm] at hback

lemma run_held_back {inputs : List (Input M)} (h : s.nextMessageToSend = some u)
    (hopen : ∀ input ∈ inputs, input.releases u = false)
    (hunmixed : AllSteps step (Unmixed u) s inputs) :
    (run step s inputs).transmitted = s.transmitted := by
  induction inputs generalizing s with
  | nil => rfl
  | cons input inputs ih =>
    have hnext := step_nextMessageToSend h hunmixed.1 (hopen input List.mem_cons_self)
    exact (ih hnext (fun i hi => hopen i (List.mem_cons_of_mem _ hi)) hunmixed.2).trans
      (step_held_back h hunmixed.1)

/-- From the moment a CALL is received until it is answered no CALL goes out, as long as
nothing interferes. -/
theorem call_answered_first (config : MessageQueueConfig M) (database : Database M)
    (startEnv : Env) (ignoreSecurityEventNotifications : Bool) (before between : List (Input M))
    (input : Input M) (u : MessageId)
    (hcall : ReceivesCall (run step
      (startedQueue config database startEnv ignoreSecurityEventNotifications) before) input u)
    (hopen : ∀ i ∈ between, i.releases u = false)
    (hunmixed : AllSteps step (Unmixed u) (run step
      (startedQueue config database startEnv ignoreSecurityEventNotifications)
        (before ++ [input])) between) :
    (run step (startedQueue config database startEnv ignoreSecurityEventNotifications)
        (before ++ input :: between)).transmitted =
      (run step (startedQueue config database startEnv ignoreSecurityEventNotifications)
        before).transmitted := by
  set start := startedQueue config database startEnv ignoreSecurityEventNotifications
  obtain ⟨-, env, received, rfl, htype, hknown, rfl⟩ := hcall
  have hbef : run step start (before ++ [.receive env received]) =
      (run step start before).receive env received := by simp [run, step]
  rw [hbef] at hunmixed
  have hreceive : (run step start before).receive env received =
      { run step start before with nextMessageToSend := some received.uniqueId } := by
    simp [receive, htype, hknown]
  have hrun : run step start (before ++ .receive env received :: between) =
      run step ((run step start before).receive env received) between := by simp [run, step]
  rw [hrun, run_held_back (by rw [hreceive]) hopen hunmixed, hreceive]

def receiveCall (uniqueId : MessageId) : Input V16.MessageType :=
  .receive {} { messageTypeId := .call, uniqueId := uniqueId }

def queuedCall : List (Input V16.MessageType) :=
  [.resume 0, .pushCall {} ⟨"b", .statusNotification, {}⟩ false]

theorem queued_call_held_back :
    (run step (startedQueue {} {} {} false)
        (queuedCall ++ receiveCall "u" :: [.workerIteration {}])).transmitted =
      (run step (startedQueue {} {} {} false) queuedCall).transmitted := by
  have hcall : ReceivesCall (run step (startedQueue {} {} {} false) queuedCall)
      (receiveCall "u") "u" := ⟨by decide +kernel, _, _, rfl, rfl, rfl, rfl⟩
  exact call_answered_first {} {} {} false queuedCall [.workerIteration {}]
    (receiveCall "u") "u" hcall (by decide) (by decide +kernel)

def waitingCall : List (Input V16.MessageType) :=
  [.resume 0, .pushCall {} ⟨"a", .heartbeat, {}⟩ false, .workerIteration {},
    .pushCall {} ⟨"b", .statusNotification, {}⟩ false]

/-- The answer to the Heartbeat comes before the CALL is answered, and the StatusNotification
goes out. -/
theorem late_answer_releases_call :
    ReceivesCall (run step (startedQueue {} {} {} false) waitingCall) (receiveCall "u") "u" ∧
      (∀ i ∈ ([.receive {} { messageTypeId := .callResult, uniqueId := "a" },
        .workerIteration {}] : List (Input V16.MessageType)), i.releases "u" = false) ∧
      (run step (startedQueue {} {} {} false) (waitingCall ++ receiveCall "u" ::
          [.receive {} { messageTypeId := .callResult, uniqueId := "a" },
            .workerIteration {}])).transmitted ≠
        (run step (startedQueue {} {} {} false) waitingCall).transmitted := by
  refine ⟨⟨by decide +kernel, _, _, rfl, rfl, rfl, rfl⟩, by decide, ?_⟩
  decide +kernel

end MessageQueue

end Everest.Ocpp
