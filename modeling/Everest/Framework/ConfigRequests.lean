import Everest.Lib.Runs

namespace Everest.Framework.ConfigRequests
open Runs List

structure Message (α : Type) where
  call : ℕ
  data : α

/-- Where a thread stands in `get` and `get_internal`. -/
inductive Phase (Response : Type)
  | entered
  | registered
  | waiting
  | returned (response : Message Response)
  | timedOut

structure Call (Request Response : Type) where
  request : Request
  retries : ℕ
  phase : Phase Response

structure Token where
  call : ℕ
  retries : ℕ
  deriving DecidableEq

def mqttGetConfigRetries : ℕ := 1

structure Client (Request Response Config : Type) where
  /-- The calls of `get_config_value` and `set_config_value`, in the order of their begin. -/
  calls : List (Call Request Response)
  /-- `responses.config` at the response topic. -/
  handler : Option Token
  /-- Requests and responses under way. -/
  requests : List (Message Request)
  responses : List (Message Response)
  /-- Handlers that a response has taken and that have not run yet. -/
  taken : List (Token × Message Response)
  /-- The promises that have a value. -/
  promises : List (Token × Message Response)
  manager : Config

inductive Input (Request : Type)
  | call (request : Request)
  | registerHandler (call : ℕ)
  | publish (call : ℕ)
  /-- The manager receives one of the requests under way and answers it. -/
  | manage (index : ℕ)
  /-- `handle_get_config_response` up to the call of the handler, and that call. -/
  | deliver (index : ℕ)
  | setValue (index : ℕ)
  | timeout (call : ℕ)
  | ready (call : ℕ)

variable {Request Response Config : Type}

namespace Client

def init (manager : Config) : Client Request Response Config :=
  ⟨[], none, [], [], [], [], manager⟩

variable (s : Client Request Response Config)

/-- Only the attempt's own handler is erased. -/
def unregisterHandler (token : Token) : Option Token :=
  if s.handler = some token then none else s.handler

def step (manage : Config → Request → Config × Response) :
    Input Request → Client Request Response Config
  | .call request => { s with calls := s.calls ++ [⟨request, mqttGetConfigRetries, .entered⟩] }
  | .registerHandler c =>
    match s.calls[c]? with
    | some ⟨request, retries, .entered⟩ =>
      { s with
        handler := some ⟨c, retries⟩, calls := s.calls.set c ⟨request, retries, .registered⟩ }
    | _ => s
  | .publish c =>
    match s.calls[c]? with
    | some ⟨request, retries, .registered⟩ =>
      { s with
        requests := s.requests ++ [⟨c, request⟩]
        calls := s.calls.set c ⟨request, retries, .waiting⟩ }
    | _ => s
  | .manage i =>
    match s.requests[i]? with
    | some m =>
      { s with
        requests := s.requests.eraseIdx i
        manager := (manage s.manager m.data).1
        responses := s.responses ++ [⟨m.call, (manage s.manager m.data).2⟩] }
    | none => s
  | .deliver i =>
    match s.responses[i]?, s.handler with
    | some m, some token =>
      { s with
        responses := s.responses.eraseIdx i, handler := none, taken := s.taken ++ [(token, m)] }
    -- a configuration response without a pending request
    | some _, none => { s with responses := s.responses.eraseIdx i }
    | none, _ => s
  | .setValue i =>
    match s.taken[i]? with
    | some value => { s with taken := s.taken.eraseIdx i, promises := value :: s.promises }
    | none => s
  | .timeout c =>
    match s.calls[c]? with
    | some ⟨request, retries, .waiting⟩ =>
      if (s.promises.lookup ⟨c, retries⟩).isSome then s
      else { s with
        handler := s.unregisterHandler ⟨c, retries⟩
        calls := s.calls.set c
          ⟨request, retries - 1, if retries = 0 then .timedOut else .entered⟩ }
    | _ => s
  | .ready c =>
    match s.calls[c]? with
    | some ⟨request, retries, .waiting⟩ =>
      match s.promises.lookup ⟨c, retries⟩ with
      | some response =>
        { s with
          handler := s.unregisterHandler ⟨c, retries⟩
          calls := s.calls.set c ⟨request, retries, .returned response⟩ }
      | none => s
    | _ => s

def OwnAnswers : Prop :=
  ∀ (c : ℕ) (call : Call Request Response) (response : Message Response),
    s.calls[c]? = some call → call.phase = .returned response → response.call = c

/-- A handler is registered only while no request or response of another call is under way,
and a request is published only while no other call's handler is registered. -/
def unmixed : Input Request → Bool
  | .registerHandler c => s.requests.all (·.call == c) && s.responses.all (·.call == c)
  | .publish c => s.handler.all (·.call == c)
  | _ => true

end Client

structure Sound (s : Client Request Response Config) : Prop where
  answers : s.OwnAnswers
  requests : ∀ token, s.handler = some token → ∀ m ∈ s.requests, m.call = token.call
  responses : ∀ token, s.handler = some token → ∀ m ∈ s.responses, m.call = token.call
  taken : ∀ value ∈ s.taken, value.2.call = value.1.call
  promises : ∀ value ∈ s.promises, value.2.call = value.1.call

section Steps

variable {s : Client Request Response Config} {c : ℕ} {handler : Option Token}

lemma unregisterHandler_some {token token' : Token}
    (h : s.unregisterHandler token = some token') : s.handler = some token' := by
  unfold Client.unregisterHandler at h
  split at h
  · cases h
  · exact h

lemma Client.OwnAnswers.set (h : s.OwnAnswers) (new : Call Request Response)
    (hnew : ∀ response, new.phase = .returned response → response.call = c) :
    { s with calls := s.calls.set c new }.OwnAnswers := by
  intro d call response hcall hphase
  rw [getElem?_set] at hcall
  split at hcall
  · subst d
    split at hcall
    · cases hcall
      exact hnew response hphase
    · cases hcall
  · exact h d call response hcall hphase

lemma Sound.setCall (h : Sound s) (new : Call Request Response)
    (hsub : ∀ token, handler = some token → s.handler = some token)
    (hnew : ∀ response, new.phase = .returned response → response.call = c) :
    Sound { s with handler := handler, calls := s.calls.set c new } :=
  ⟨h.answers.set new hnew, fun token ht => h.requests token (hsub token ht),
    fun token ht => h.responses token (hsub token ht), h.taken, h.promises⟩

lemma Sound.step (manage : Config → Request → Config × Response) (h : Sound s)
    (input : Input Request) (hinput : s.unmixed input) : Sound (s.step manage input) := by
  cases input with
  | call =>
    refine { h with answers := fun d call response hcall hphase => ?_ }
    simp only [Client.step, getElem?_append] at hcall
    split at hcall
    · exact h.answers d call response hcall hphase
    · obtain rfl : call = _ := by simpa using mem_of_getElem? hcall
      cases hphase
  | registerHandler c =>
    simp only [Client.step]
    split
    · simp only [Client.unmixed, Bool.and_eq_true, all_eq_true, beq_iff_eq] at hinput
      refine { h with
        answers := h.answers.set _ (by simp)
        requests := ?_
        responses := ?_ }
      · rintro _ ⟨⟩
        exact hinput.1
      · rintro _ ⟨⟩
        exact hinput.2
    · exact h
  | publish c =>
    simp only [Client.step]
    split
    · refine { h with
        answers := h.answers.set _ (by simp)
        requests := fun token ht m hm => ?_ }
      obtain hm | hm := mem_append.1 hm
      · exact h.requests token ht m hm
      · have hown : token.call = c := by
          simpa [Client.unmixed, show s.handler = some token from ht] using hinput
        rw [mem_singleton.1 hm, hown]
    · exact h
  | manage =>
    simp only [Client.step]
    split
    · rename_i m hm
      refine { h with
        requests := fun token ht m' hm' => h.requests token ht m' (mem_of_mem_eraseIdx hm')
        responses := fun token ht m' hm' => ?_ }
      obtain hm' | hm' := mem_append.1 hm'
      · exact h.responses token ht m' hm'
      · rw [mem_singleton.1 hm']
        exact h.requests token ht m (mem_of_getElem? hm)
    · exact h
  | deliver =>
    simp only [Client.step]
    split
    · rename_i m token hm htoken
      refine ⟨h.answers, by simp, by simp, fun value hv => ?_, h.promises⟩
      obtain hv | hv := mem_append.1 hv
      · exact h.taken value hv
      · rw [mem_singleton.1 hv]
        exact h.responses token htoken m (mem_of_getElem? hm)
    · exact { h with
        responses := fun token ht m hm => h.responses token ht m (mem_of_mem_eraseIdx hm) }
    · exact h
  | setValue =>
    simp only [Client.step]
    split
    · rename_i value hvalue
      exact { h with
        taken := fun v hv => h.taken v (mem_of_mem_eraseIdx hv)
        promises := forall_mem_cons.2
          ⟨h.taken value (mem_of_getElem? hvalue), h.promises⟩ }
    · exact h
  | timeout =>
    simp only [Client.step]
    split
    · split
      · exact h
      · refine h.setCall _ (fun _ => unregisterHandler_some) ?_
        split <;> simp
    · exact h
  | ready c =>
    simp only [Client.step]
    split
    · split
      · rename_i retries _ _ response hresp
        obtain ⟨l₁, l₂, hl, -⟩ := lookup_eq_some_iff.1 hresp
        have hown := h.promises (⟨c, retries⟩, response) (by rw [hl]; simp)
        exact h.setCall _ (fun _ => unregisterHandler_some) fun _ hr => by cases hr; exact hown
      · exact h
    · exact h

end Steps

/-- A call returns the answer to its own request, if no handler is registered while a request
or response of another call is under way and no request published while another call's handler
is registered. -/
theorem config_requests_get_own_answers (manage : Config → Request → Config × Response)
    (manager : Config) (inputs : List (Input Request))
    (h : AllSteps (Client.step · manage) (fun s i => s.unmixed i) (Client.init manager) inputs) :
    AllStates (Client.step · manage) Client.OwnAnswers (Client.init manager) inputs := by
  have hinit : Sound (Client.init manager : Client Request Response Config) := by
    constructor <;> simp [Client.init, Client.OwnAnswers]
  exact (allStates_of_allSteps (fun s i hs hi => hs.step manage i hi) hinit h).mono
    fun _ hs => hs.answers

/-- A call times out, its second attempt takes the late answer to the first one, and the other
answer is dropped. The second call runs before the first one has returned. The manager answers
with the request. -/
theorem config_requests_overlap :
    AllStates (Client.step · fun config request => (config, request)) Client.OwnAnswers
      (Client.init ())
      [.call 7, .call 8, .registerHandler 0, .publish 0, .timeout 0, .manage 0,
        .registerHandler 0, .publish 0, .manage 0, .deliver 0, .deliver 0, .registerHandler 1,
        .publish 1, .setValue 0, .manage 0, .deliver 0, .setValue 0, .ready 1, .ready 0] :=
  config_requests_get_own_answers (fun config request => (config, request)) () _
    (by decide +kernel)

/-- The second call registers while the first one waits: it gets the first one's answer. -/
theorem config_requests_answers_swapped :
    ¬ AllStates (Client.step · fun config request => (config, request)) Client.OwnAnswers
      (Client.init ())
      [.call 7, .call 8, .registerHandler 0, .publish 0, .registerHandler 1, .publish 1,
        .manage 0, .deliver 0, .setValue 0, .ready 1] :=
  fun h => absurd (h.last 1 _ _ rfl rfl) (by decide)

end Everest.Framework.ConfigRequests
