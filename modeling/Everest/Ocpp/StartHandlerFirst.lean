import Everest.Ocpp.ChargePointSteps
import Everest.Ocpp.Outcomes

namespace Everest.Ocpp.V16

/-- The conf of a StartTransaction has come, and `notify_start_transaction_handled` has not
run. -/
def WebsocketThread.starting : WebsocketThread → Bool
  | .startReceived .. | .startFound .. | .startNotified .. => true
  | _ => false

namespace ChargePoint
open Runs

variable {s : ChargePoint} {messageId : MessageId} {input : Input}

/-- The worker does not get past its wait, between the conf of a StartTransaction and the end of its
handler, while transaction messages are queued. -/
def Undisturbed (s : ChargePoint) (input : Input) : Prop :=
  match input with
  | .worker _ => s.websocket.starting = true → s.awake = true → s.queue.wakeUp = true →
    s.queue.transactionMessageQueue = []
  | _ => True

instance (s : ChargePoint) (input : Input) : Decidable (Undisturbed s input) := by
  unfold Undisturbed
  split <;> infer_instance

def transactionMessages (s : ChargePoint) : List (ControlMessage MessageType) :=
  s.queue.transmitted.filter fun m => isTransactionMessage m.messageType

/-- No transaction message goes out before the handler has run. -/
def NotOvertaken (s s' : ChargePoint) : Prop :=
  s.websocket.starting = true → s'.transactionMessages = s.transactionMessages

variable {s' : ChargePoint} {op : Option (MessageQueue.Input MessageType)}

lemma Turn.worker {env : Env} (hturn : Turn messageId s input (some (.workerIteration env)) s') :
    s.awake = true ∧ input = .worker env := by
  cases hturn with
  | work hawake => exact ⟨hawake, rfl⟩
  | queue hext => cases hext
  | queueStart _ _ hop | queueStop _ _ hop | send _ _ hop =>
    exact absurd (dispatched_call? hop) (by simp [MessageQueue.Input.call?])
  | notify _ _ _ _ hop =>
    obtain ⟨_, heq⟩ := hop _ rfl
    cases heq

lemma act_sorted (h : Sorted s.queue.toQueues) :
    Sorted (s.act messageId input).queue.toQueues := by
  rw [(act_effect messageId s input).queue]
  cases s.operation messageId input with
  | none => exact h
  | some op => exact Moves.inv (fun _ _ => Move.sorted) (MessageQueue.step_moves _ _) h

/-- With an empty transaction queue the worker picks a message of the other one. -/
lemma picked_of_empty (h : Sorted s.queue.toQueues) {env : Env} {m : ControlMessage MessageType}
    {queue : QueueType} (hpicks : MessageQueue.Picks s.queue env m queue)
    (hempty : s.queue.transactionMessageQueue = []) :
    isTransactionMessage m.messageType = false := by
  have hselected := hpicks.selected
  simp only [MessageQueue.selectMessage, hempty, Option.map_eq_some_iff] at hselected
  obtain ⟨n, hn, heq⟩ := hselected
  obtain rfl := (Prod.mk.inj heq).1
  exact h.normal n (List.mem_of_find?_eq_some hn)

/-- Only the worker transmits, when it is awake and gets past its wait. -/
theorem act_notOvertaken (h : Sorted s.queue.toQueues) (hundist : Undisturbed s input) :
    NotOvertaken s (s.act messageId input) := by
  intro hstarting
  rw [transactionMessages, (act_effect messageId s input).queue]
  cases hop : s.operation messageId input with
  | none => rfl
  | some op =>
    change (s.queue.step (op.renumber messageId)).transmitted.filter _ = _
    rcases s.queue.step_outcome with ⟨hbal, -⟩ | ⟨env, m, queue, heq, hpicks, hsends⟩
    · rw [hbal.transmitted, transactionMessages]
    · obtain ⟨env', rfl⟩ : ∃ env', op = .workerIteration env' := by
        cases op <;> simp_all [MessageQueue.Input.renumber]
      obtain ⟨hawake, rfl⟩ := (hop ▸ act_turn messageId s input).worker
      have hnormal := picked_of_empty h hpicks (hundist hstarting hawake hpicks.wakeUp)
      rw [hsends.transmitted, List.filter_cons_of_neg, transactionMessages]
      rw [(s.queue.outgoing_sentAs m).messageType, hnormal]
      exact Bool.false_ne_true

/-- A transaction of connector 1 is started, MeterValues are queued while its StartTransaction
is in flight, and the worker goes to sleep. -/
def startInFlight : List Input :=
  [.queue (.resume 0), .transactionStarted 1 (-1), .session {} true, .session {} true, .worker {},
    .sendMeterValue 1 false, .sender 0 {} true, .sender 0 {} true, .sender 0 {} true,
    .sender 0 {} true, .worker {},
    .receive {} { messageTypeId := .callResult, uniqueId := unaryIds.create 1 } 7]

def heartbeatPushed : List Input := startInFlight ++ [.pushCall {} .heartbeat {} false]

/-- The worker is woken up, but gets the lock only after the handler. -/
def handledFirst : List Input := heartbeatPushed ++ [.handle, .handle, .handle, .worker {}]

end ChargePoint

end Everest.Ocpp.V16
