import Everest.Evse.OverVoltageMonitor
import Everest.Lib.Runs

namespace Everest.Evse.OverVoltageMonitor
open Runs Threads OverVoltageMonitor List

/-- The faults since the last call of `start_monitor` or `reset`. -/
def faultsSinceRestart : List Mark → ℕ
  | [] => 0
  | .fault _ _ _ :: log => faultsSinceRestart log + 1
  | .called .startMonitor _ _ :: _ => 0
  | .called .reset _ _ :: _ => 0
  | _ :: log => faultsSinceRestart log

def stopped : List Mark → Bool
  | [] => false
  | .returned .stopMonitor :: _ => true
  | .called .startMonitor _ _ :: _ => false
  | _ :: log => stopped log

/-- At `time` every sample was at or above its error limit, from the newest one back to one
that is at least `duration` old. -/
def HeldFor (duration time : ℕ) : List Mark → Prop
  | [] => False
  | .called (.updateVoltage voltage) limit t :: log =>
    limit ≤ voltage ∧ (t + onClock duration ≤ time ∨ HeldFor duration time log)
  | _ :: log => HeldFor duration time log

/-- A fault is the first one of its period, is not reported after a stop, and an error has
lasted for the whole duration. Calls come in the order of their times. -/
def Justified (duration : ℕ) : Mark → List Mark → Prop
  | .fault type _ time, older =>
    faultsSinceRestart older = 0 ∧ stopped older = false ∧
      (type = .error → HeldFor duration time older)
  | .called _ _ time, older => ∀ call limit t, .called call limit t ∈ older → t ≤ time
  | .returned _, _ => True

/-- At most one fault between two restarts, none after a stop has returned, and an error only
if the samples of the fault duration were all at or above the limit. -/
structure ReportsOk (duration : ℕ) (log : List Mark) : Prop where
  once : ∀ newer older, log = newer ++ older → faultsSinceRestart older ≤ 1
  running : ∀ newer type reason time older,
    log = newer ++ .fault type reason time :: older → stopped older = false
  held : ∀ newer reason time older, log = newer ++ .fault .error reason time :: older →
    HeldFor duration time older ∧
      ∀ (voltage : ℚ) (limit : WithTop ℚ) (t : ℕ),
        .called (.updateVoltage voltage) limit t ∈ older →
          time < t + onClock duration → limit ≤ voltage

variable {duration : ℕ} {m : OverVoltageMonitor} {log : List Mark}

lemma HeldFor.mono {t t' : ℕ} (htt : t ≤ t') (h : HeldFor duration t log) :
    HeldFor duration t' log := by
  fun_induction HeldFor duration t log with
  | case1 => exact h
  | case2 voltage limit s log ih => exact ⟨h.1, h.2.imp (fun h' => le_trans h' htt) ih⟩
  | case3 e log he ih =>
    rw [HeldFor]
    · exact ih h
    · exact he

/-- The samples of the fault duration are among those the held ones reach back over. -/
theorem HeldFor.window {time : ℕ} (h : HeldFor duration time log)
    (hlog : Grows (Justified duration) [] log) {voltage : ℚ} {limit : WithTop ℚ} {t : ℕ}
    (hmem : .called (.updateVoltage voltage) limit t ∈ log) (ht : time < t + onClock duration) :
    limit ≤ voltage := by
  fun_induction HeldFor duration time log with
  | case1 => exact h.elim
  | case2 v l s log ih =>
    cases hlog with
    | cons hlog hordered =>
      rcases mem_cons.1 hmem with heq | hmem
      · cases heq
        exact h.1
      · have hle : t ≤ s := hordered _ _ _ hmem
        refine ih (h.2.resolve_left ?_) hlog hmem
        omega
  | case3 e log he ih =>
    cases hlog with
    | cons hlog =>
      refine ih h hlog ((mem_cons.1 hmem).resolve_left ?_)
      rintro rfl
      exact he _ _ _ rfl

lemma faultsSinceRestart_le (hlog : Grows (Justified duration) [] log) :
    faultsSinceRestart log ≤ 1 := by
  fun_induction faultsSinceRestart log with
  | case1 | case3 | case4 => exact Nat.zero_le 1
  | case2 =>
    cases hlog with
    | cons _ h => rw [h.1]
  | case5 e log _ _ _ ih =>
    cases hlog with
    | cons hlog => exact ih hlog

lemma ReportsOk.of_grows (hlog : Grows (Justified duration) [] log) :
    ReportsOk duration log where
  once := by
    rintro newer older rfl
    exact faultsSinceRestart_le hlog.of_append
  running := by
    rintro newer type reason time older rfl
    exact (hlog.entry rfl (Nat.zero_le _)).2.1
  held := by
    rintro newer reason time older rfl
    have hheld := (hlog.entry rfl (Nat.zero_le _)).2.2 rfl
    cases hlog.of_append with
    | cons holder =>
      exact ⟨hheld, fun voltage limit t hmem ht => hheld.window holder hmem ht⟩

def Call.isSetLimits : Call → Bool
  | .setLimits _ _ => true
  | _ => false

/-- Only calls of `set_limits` are in progress next to each other and to the report of an
expired timer: another call begins while none is in progress and the timer thread has nothing
to report, and neither does a timer expire nor `set_limits` begin while it is in progress. -/
def Apart (σ : Threads) : Move → Prop
  | .call call =>
    if call.isSetLimits then ∀ activity ∈ σ.calls, activity.call.isSetLimits
    else σ.calls = [] ∧ σ.timer.todo = []
  | .wake timeout =>
    match σ.timer with
    | .sleeping deadline =>
      σ.expires timeout deadline → ∀ activity ∈ σ.calls, activity.call.isSetLimits
    | _ => True
  | _ => True

instance (σ : Threads) : ∀ move, Decidable (Apart σ move)
  | .call call => inferInstanceAs (Decidable (if call.isSetLimits then _ else _))
  | .wake timeout =>
    match h : σ.timer with
    | .sleeping deadline =>
      decidable_of_iff (σ.expires timeout deadline →
        ∀ activity ∈ σ.calls, activity.call.isSetLimits) (by simp [Apart, h])
    | .waiting => isTrue (by simp [Apart, h])
    | .reporting _ => isTrue (by simp [Apart, h])
  | .elapse _ => isTrue trivial
  | .proceed _ => isTrue trivial

structure Settled (duration : ℕ) (m : OverVoltageMonitor) (log : List Mark) : Prop where
  latched : faultsSinceRestart log ≠ 0 → m.faultLatched = true
  stopped : stopped log = true → m.running = false
  armed : m.timerArmed = true → m.running = true ∧ m.faultLatched = false ∧
    m.limitsValid = true ∧ HeldFor duration m.timerDeadline log

structure Due (duration now : ℕ) (type : FaultType) (log : List Mark) : Prop where
  first : faultsSinceRestart log = 0
  running : OverVoltageMonitor.stopped log = false
  held : type = .error → HeldFor duration now log

/-- An update is in progress; its sample is the newest entry of the log. -/
structure Sampled (duration now : ℕ) (m : OverVoltageMonitor) (log : List Mark) (voltage : ℚ)
    (t : ℕ) (older : List Mark) : Prop where
  log_eq : log = .called (.updateVoltage voltage) m.errorLimit t :: older
  le_now : t ≤ now
  settled : Settled duration m older

def Watching (m : OverVoltageMonitor) : Prop :=
  m.running = true ∧ m.faultLatched = false ∧ m.limitsValid = true

/-- What a call of `set_limits` leaves as it is. -/
structure Relimited (duration : ℕ) (m : OverVoltageMonitor) (log : List Mark)
    (m' : OverVoltageMonitor) (log' : List Mark) : Prop where
  running : m'.running = m.running
  latched : m'.faultLatched = m.faultLatched
  armed : m'.timerArmed = m.timerArmed
  deadline : m'.timerDeadline = m.timerDeadline
  valid : m.limitsValid = true → m'.limitsValid = true
  faults : faultsSinceRestart log' = faultsSinceRestart log
  stopped : OverVoltageMonitor.stopped log' = OverVoltageMonitor.stopped log
  held : ∀ t, HeldFor duration t log → HeldFor duration t log'

/-- The accesses make justified reports only and lead to `post`, whatever time passes before
each of them and whatever other threads do that `rely` admits. -/
inductive Leads (duration : ℕ)
    (rely : OverVoltageMonitor → List Mark → OverVoltageMonitor → List Mark → Prop)
    (post : OverVoltageMonitor → List Mark → Prop) :
    ℕ → OverVoltageMonitor → List Mark → List Access → Prop
  | done {now : ℕ} {m : OverVoltageMonitor} {log : List Mark} :
      post m log → Leads duration rely post now m log []
  | access {now : ℕ} {m : OverVoltageMonitor} {log : List Mark} {a : Access}
      {rest : List Access} :
      (∀ later m' log', now ≤ later → rely m log m' log' →
        Leads duration rely post later (m'.perform duration later rest a).1
          (noted later log' a) (m'.perform duration later rest a).2) →
      (∀ later m' log', now ≤ later → rely m log m' log' →
        Grows (Justified duration) log' (noted later log' a)) →
      Leads duration rely post now m log (a :: rest)

abbrev Reports (duration : ℕ) :
    ℕ → OverVoltageMonitor → List Mark → List Access → Prop :=
  Leads duration (Relimited duration) (Settled duration)

/-- A call other than `set_limits`, which runs alone. -/
abbrev Serves (duration : ℕ) (call : Call) :
    ℕ → OverVoltageMonitor → List Mark → List Access → Prop :=
  Leads duration (fun m log m' log' => m' = m ∧ log' = log)
    fun m log => Settled duration m log ∧ (call = .stopMonitor → m.running = false)

variable {now now' : ℕ} {type : FaultType} {call : Call} {a : Access} {rest todo : List Access}

lemma Settled.disarm (h : Settled duration m log) :
    Settled duration { m with timerArmed := false } log :=
  ⟨h.latched, h.stopped, fun h' => absurd h' Bool.false_ne_true⟩

lemma Settled.due (h : Settled duration m log) (hrunning : m.running = true)
    (hlatched : m.faultLatched = false) (hheld : type = .error → HeldFor duration now log) :
    Due duration now type log where
  first := by
    by_contra hne
    exact absurd (hlatched.symm.trans (h.latched hne)) Bool.false_ne_true
  running := by
    by_contra hne
    have hoff := h.stopped (Bool.not_eq_false _ ▸ hne)
    exact absurd (hoff.symm.trans hrunning) Bool.false_ne_true
  held := hheld

lemma Due.later (hle : now ≤ now') (h : Due duration now type log) :
    Due duration now' type log :=
  ⟨h.first, h.running, fun ht => (h.held ht).mono hle⟩

section Limits

variable {m' m'' : OverVoltageMonitor} {log' log'' : List Mark} {e l : ℚ}

lemma Relimited.refl : Relimited duration m log m log :=
  ⟨rfl, rfl, rfl, rfl, id, rfl, rfl, fun _ => id⟩

lemma Relimited.trans (h : Relimited duration m log m' log')
    (h' : Relimited duration m' log' m'' log'') : Relimited duration m log m'' log'' :=
  ⟨h'.running.trans h.running, h'.latched.trans h.latched, h'.armed.trans h.armed,
    h'.deadline.trans h.deadline, fun hv => h'.valid (h.valid hv), h'.faults.trans h.faults,
    h'.stopped.trans h.stopped, fun t ht => h'.held t (h.held t ht)⟩

lemma relimited_perform (duration now : ℕ) (m : OverVoltageMonitor) (log : List Mark)
    (rest : List Access) (ha : a ∈ (Call.setLimits e l).accesses) :
    Relimited duration m log (m.perform duration now rest a).1 (noted now log a) ∧
      (m.perform duration now rest a).2 = rest ∧ noted now log a = log := by
  simp only [Call.accesses, mem_cons, not_mem_nil, or_false] at ha
  rcases ha with rfl | rfl | rfl
  · exact ⟨{ Relimited.refl with }, rfl, rfl⟩
  · exact ⟨{ Relimited.refl with }, rfl, rfl⟩
  · exact ⟨{ Relimited.refl with valid := fun _ => rfl }, rfl, rfl⟩

lemma relimited_called {limit : WithTop ℚ} {t : ℕ} :
    Relimited duration m log m (.called (.setLimits e l) limit t :: log) :=
  { Relimited.refl with }

lemma relimited_returned : Relimited duration m log m (.returned (.setLimits e l) :: log) :=
  { Relimited.refl with }

variable (hr : Relimited duration m log m' log')
include hr

lemma Settled.relimit (h : Settled duration m log) : Settled duration m' log' where
  latched := by rw [hr.latched, hr.faults]; exact h.latched
  stopped := by rw [hr.running, hr.stopped]; exact h.stopped
  armed := by
    rw [hr.running, hr.latched, hr.armed, hr.deadline]
    intro ha
    obtain ⟨hrun, hl, hv, hheld⟩ := h.armed ha
    exact ⟨hrun, hl, hr.valid hv, hr.held _ hheld⟩

lemma Due.relimit (h : Due duration now type log) : Due duration now type log' :=
  ⟨hr.faults.trans h.first, hr.stopped.trans h.running, fun ht => hr.held _ (h.held ht)⟩

lemma Leads.relimit (h : Reports duration now m log todo) : Reports duration now m' log' todo := by
  cases h with
  | done h => exact .done (h.relimit hr)
  | access hnext hlog =>
    exact .access (fun t _ _ ht hr' => hnext t _ _ ht (hr.trans hr'))
      fun t _ _ ht hr' => hlog t _ _ ht (hr.trans hr')

end Limits

namespace Leads

variable {rely : OverVoltageMonitor → List Mark → OverVoltageMonitor → List Mark → Prop}
  {post : OverVoltageMonitor → List Mark → Prop}

lemma later (hle : now ≤ now') (h : Leads duration rely post now m log todo) :
    Leads duration rely post now' m log todo := by
  cases h with
  | done h => exact .done h
  | access hnext hlog =>
    exact .access (fun t _ _ ht hr => hnext t _ _ (hle.trans ht) hr)
      fun t _ _ ht hr => hlog t _ _ (hle.trans ht) hr

lemma quietly (ha : ∀ t log, noted t log a = log)
    (h : ∀ later m' log', now ≤ later → rely m log m' log' →
      Leads duration rely post later (m'.perform duration later rest a).1 log'
        (m'.perform duration later rest a).2) :
    Leads duration rely post now m log (a :: rest) := by
  refine .access (fun t m' log' ht hr => ?_) fun t m' log' _ _ => ?_
  · rw [ha]
    exact h t m' log' ht hr
  · rw [ha]
    exact .refl

lemma post_of_nil (h : Leads duration rely post now m log []) : post m log := by
  cases h
  assumption

lemma alone {voltage : ℚ} (h : Reports duration now m log todo) :
    Serves duration (.updateVoltage voltage) now m log todo := by
  induction h with
  | done h => exact .done ⟨h, nofun⟩
  | access _ hlog ih =>
    refine .access ?_ ?_
    · rintro t _ _ ht ⟨rfl, rfl⟩
      exact ih t _ _ ht .refl
    · rintro t _ _ ht ⟨rfl, rfl⟩
      exact hlog t _ _ ht .refl

end Leads

lemma Due.reported (h : Due duration now type log) (hl : m.faultLatched = true)
    (ha : m.timerArmed = false) (reason : String) :
    Settled duration m (.fault type reason now :: log) where
  latched := fun _ => hl
  stopped := fun hs => absurd (h.running.symm.trans hs) Bool.false_ne_true
  armed := fun h' => absurd (ha.symm.trans h') Bool.false_ne_true

lemma Due.callback (h : Due duration now type log) (hl : m.faultLatched = true)
    (ha : m.timerArmed = false) (reason : String) :
    Reports duration now m log [.errorCallback type reason] := by
  refine .access (fun t m' log' ht hr => .done ?_) fun t m' log' ht hr => ?_
  · exact ((h.relimit hr).later ht).reported (hr.latched.trans hl) (hr.armed.trans ha) _
  · have hdue := (h.relimit hr).later ht
    exact Grows.refl.cons ⟨hdue.first, hdue.running, hdue.held⟩

/-- The way from the decision for a fault to its callback. -/
theorem Due.reports (h : Due duration now type log) (voltage : ℚ) :
    Reports duration now m log [.describe type voltage] := by
  refine .quietly (fun _ _ => rfl) fun t₁ m₁ _ h₁ hr₁ => ?_
  refine .quietly (fun _ _ => rfl) fun t₂ m₂ _ h₂ hr₂ => ?_
  refine .quietly (fun _ _ => rfl) fun t₃ m₃ _ h₃ hr₃ => ?_
  refine .quietly (fun _ _ => rfl) fun t₄ m₄ _ h₄ hr₄ => ?_
  have hdue := (((h.relimit hr₁).relimit hr₂).relimit hr₃).relimit hr₄
  exact (hdue.later (h₁.trans (h₂.trans (h₃.trans h₄)))).callback
    (m := { m₄ with timerArmed := false }) (hr₄.latched.trans hr₃.latched) rfl _

namespace Sampled

variable {voltage : ℚ} {t : ℕ} {older : List Mark}

lemma later (hle : now ≤ now') (h : Sampled duration now m log voltage t older) :
    Sampled duration now' m log voltage t older :=
  ⟨h.log_eq, h.le_now.trans hle, h.settled⟩

section

variable (h : Sampled duration now m log voltage t older)
include h

lemma disarm :
    Settled duration { m with timerArmed := false } log := by
  rw [h.log_eq]
  exact ⟨h.settled.latched, h.settled.stopped, fun h' => absurd h' Bool.false_ne_true⟩

lemma unarmed (hw : ¬ Watching m) :
    Settled duration m log := by
  refine ⟨h.disarm.latched, h.disarm.stopped, fun ha => ?_⟩
  obtain ⟨hr, hl, hv, _⟩ := h.settled.armed ha
  exact absurd ⟨hr, hl, hv⟩ hw

lemma above (hle : m.errorLimit ≤ voltage) :
    Settled duration m log := by
  rw [h.log_eq]
  refine ⟨h.settled.latched, h.settled.stopped, fun ha => ?_⟩
  obtain ⟨hr, hl, hv, hheld⟩ := h.settled.armed ha
  exact ⟨hr, hl, hv, hle, .inr hheld⟩

lemma held (hle : m.errorLimit ≤ voltage) :
    HeldFor duration (now + onClock duration) log := by
  rw [h.log_eq]
  exact ⟨hle, .inl (Nat.add_le_add_right h.le_now _)⟩

lemma due (hw : Watching m) (hheld : type = .error → HeldFor duration now log) :
    Due duration now type log :=
  h.disarm.due hw.1 hw.2.1 hheld

end

end Sampled

attribute [local simp] perform

lemma Leads.next (ha : ∀ t log, noted t log a = log)
    (h : ∀ later, now ≤ later → Serves duration call later (m.perform duration later rest a).1
      log (m.perform duration later rest a).2) : Serves duration call now m log (a :: rest) := by
  refine .quietly ha ?_
  rintro t _ _ ht ⟨rfl, rfl⟩
  exact h t ht

namespace Sampled

variable {voltage : ℚ} {t : ℕ} {older : List Mark}

lemma serves_arm (h : Sampled duration now m log voltage t older) (hw : Watching m)
    (hle : m.errorLimit ≤ voltage) :
    Serves duration (.updateVoltage voltage) now m log [.armErrorTimer voltage] := by
  refine .next (fun _ _ => rfl) fun later ht => ?_
  have h := h.later ht
  by_cases hd : duration = 0
  · have hheld : HeldFor duration later log := by simpa [hd, onClock] using h.held hle
    simpa [hd] using ((hd ▸ h.due hw fun _ => hheld).reports voltage).alone
  · have hs := h.above hle
    cases ha : m.timerArmed with
    | true => simpa [hd, ha] using .done ⟨⟨hs.latched, hs.stopped, fun _ => hs.armed ha⟩, nofun⟩
    | false =>
      simpa [hd, ha] using .done ⟨⟨hs.latched, hs.stopped,
        fun _ => ⟨hw.1, hw.2.1, hw.2.2, h.held hle⟩⟩, nofun⟩

lemma serves_compare (h : Sampled duration now m log voltage t older) (hw : Watching m) :
    Serves duration (.updateVoltage voltage) now m log [.compareEmergencyLimit voltage] := by
  refine .next (fun _ _ => rfl) fun t₁ h₁ => ?_
  by_cases hemergency : m.emergencyLimit ≤ voltage
  · simp only [perform, if_pos hemergency]
    refine .next (fun _ _ => rfl) fun t₂ h₂ => ?_
    have hdue : Due duration t₂ .emergency log := (h.later (h₁.trans h₂)).due hw nofun
    exact (hdue.reports voltage).alone
  · simp only [perform, if_neg hemergency]
    refine .next (fun _ _ => rfl) fun t₂ h₂ => ?_
    by_cases hle : m.errorLimit ≤ voltage
    · simpa [hle] using (h.later (h₁.trans h₂)).serves_arm hw hle
    · simp only [perform, if_neg hle]
      exact .next (fun _ _ => rfl) fun _ _ => .done ⟨h.disarm, nofun⟩

lemma serves (h : Sampled duration now m log voltage t older) :
    Serves duration (.updateVoltage voltage) now m log
      (Call.accesses (.updateVoltage voltage)) := by
  have hout (hw : ¬Watching m) {now : ℕ} :
      Serves duration (.updateVoltage voltage) now m log [] := .done ⟨h.unarmed hw, nofun⟩
  refine .next (fun _ _ => rfl) fun t₁ h₁ => ?_
  cases hr : m.running with
  | false => simpa [hr] using hout fun hw => absurd (hr.symm.trans hw.1) Bool.false_ne_true
  | true =>
    simp only [perform, hr, if_true]
    refine .next (fun _ _ => rfl) fun t₂ h₂ => ?_
    cases hl : m.faultLatched with
    | true => simpa [hl] using hout fun hw => absurd (hw.2.1.symm.trans hl) Bool.false_ne_true
    | false =>
      simp only [perform, hl, Bool.false_eq_true, if_false]
      refine .next (fun _ _ => rfl) fun t₃ h₃ => ?_
      cases hv : m.limitsValid with
      | false => simpa [hv] using hout fun hw => absurd (hv.symm.trans hw.2.2) Bool.false_ne_true
      | true =>
        have hsampled := h.later (h₁.trans (h₂.trans h₃))
        simpa [hv] using hsampled.serves_compare ⟨hr, hl, hv⟩

end Sampled

lemma Settled.called (h : Settled duration m log) (hcall : call.isSetLimits = false) :
    Serves duration call now m (.called call m.errorLimit now :: log) call.accesses := by
  have hoff {P : Prop} (h : false = true) : P := absurd h Bool.false_ne_true
  cases call with
  | setLimits => cases hcall
  | startMonitor =>
    exact .next (fun _ _ => rfl) fun _ _ => .next (fun _ _ => rfl) fun _ _ =>
      .next (fun _ _ => rfl) fun _ _ => .done ⟨⟨fun hne => absurd rfl hne, hoff, hoff⟩, nofun⟩
  | stopMonitor =>
    exact .next (fun _ _ => rfl) fun _ _ => .next (fun _ _ => rfl) fun _ _ =>
      .done ⟨⟨h.latched, fun _ => rfl, hoff⟩, fun _ => rfl⟩
  | reset =>
    exact .next (fun _ _ => rfl) fun _ _ => .next (fun _ _ => rfl) fun _ _ =>
      .done ⟨⟨fun hne => absurd rfl hne, h.stopped, hoff⟩, nofun⟩
  | updateVoltage => exact Sampled.serves ⟨rfl, Nat.le_refl _, h⟩

lemma Settled.returned (h : Settled duration m log)
    (hstop : call = .stopMonitor → m.running = false) :
    Settled duration m (.returned call :: log) := by
  cases call with
  | stopMonitor =>
    exact ⟨h.latched, fun _ => hstop rfl, h.armed⟩
  | setLimits | startMonitor | reset | updateVoltage => exact ⟨h.latched, h.stopped, h.armed⟩

def LimitsOnly (calls : List Activity) : Prop :=
  ∀ activity ∈ calls, activity.call.isSetLimits ∧ activity.todo <:+ activity.call.accesses

/-- Next to calls of `set_limits` the report of the timer thread is in progress, or what is left
of it; or one other call is. -/
inductive Activities (duration : ℕ) (σ : Threads) : Prop
  | reporting : LimitsOnly σ.calls →
      Reports duration σ.now σ.monitor σ.log σ.timer.todo → Activities duration σ
  | calling {call : Call} {todo : List Access} : σ.calls = [⟨call, todo⟩] →
      call.isSetLimits = false → σ.timer.todo = [] →
      Serves duration call σ.now σ.monitor σ.log todo → Activities duration σ

lemma Activities.besides_limits {σ : Threads} (h : Activities duration σ)
    (hc : ∀ activity ∈ σ.calls, activity.call.isSetLimits) :
    LimitsOnly σ.calls ∧ Reports duration σ.now σ.monitor σ.log σ.timer.todo := by
  cases h with
  | reporting hlimits hreports => exact ⟨hlimits, hreports⟩
  | calling hcalls hcall =>
    have hset := hc _ (hcalls ▸ mem_singleton_self _)
    exact absurd (hcall.symm.trans hset) Bool.false_ne_true

lemma Activities.relimit {σ σ' : Threads} (h : Activities duration σ)
    (hc : ∀ activity ∈ σ.calls, activity.call.isSetLimits) (hc' : LimitsOnly σ'.calls)
    (hr : Relimited duration σ.monitor σ.log σ'.monitor σ'.log) (ht : σ'.timer = σ.timer)
    (hnow : σ'.now = σ.now) : Activities duration σ' := by
  refine .reporting hc' ?_
  rw [ht, hnow]
  exact (h.besides_limits hc).2.relimit hr

structure ThreadsOk (duration : ℕ) (σ : Threads) : Prop where
  activities : Activities duration σ
  log : Grows (Justified duration) [] σ.log
  past : ∀ call limit t, .called call limit t ∈ σ.log → t ≤ σ.now

lemma threadsOk_init : ThreadsOk duration {} where
  activities := .reporting (by simp [LimitsOnly]) (.done ⟨fun h => absurd rfl h,
    fun h => absurd h Bool.false_ne_true, fun h => absurd h Bool.false_ne_true⟩)
  log := .refl
  past := fun _ _ _ h => absurd h not_mem_nil

namespace ThreadsOk

variable {σ : Threads}

section

variable (h : ThreadsOk duration σ)
include h

lemma elapse (ns : ℕ) :
    ThreadsOk duration { σ with now := σ.now + ns } where
  activities := by
    have hle : σ.now ≤ σ.now + ns := Nat.le_add_right _ _
    cases h.activities with
    | reporting hc hreports => exact .reporting hc (hreports.later hle)
    | calling hc hcall ht hp => exact .calling hc hcall ht (hp.later hle)
  log := h.log
  past := fun call limit t hmem => (h.past call limit t hmem).trans (Nat.le_add_right _ _)

lemma noted_past : ∀ call limit t, .called call limit t ∈ noted σ.now σ.log a → t ≤ σ.now := by
  intro call limit t hmem
  cases a with
  | errorCallback =>
    exact h.past call limit t ((mem_cons.1 hmem).resolve_left nofun)
  | _ => exact h.past call limit t hmem

lemma called_past : ∀ c limit t,
    .called c limit t ∈ .called call σ.monitor.errorLimit σ.now :: σ.log → t ≤ σ.now := by
  intro c limit t hmem
  rcases mem_cons.1 hmem with heq | hmem
  · cases heq
    exact Nat.le_refl _
  · exact h.past c limit t hmem

lemma called (hapart : Apart σ (.call call)) :
    ThreadsOk duration (σ.step duration (.call call)) := by
  refine ⟨?_, h.log.cons h.past, h.called_past⟩
  simp only [Apart] at hapart
  cases hcall : call.isSetLimits with
  | true =>
    rw [if_pos hcall] at hapart
    cases call with
    | setLimits =>
      refine h.activities.relimit hapart ?_ relimited_called rfl rfl
      refine forall_mem_append.2 ⟨(h.activities.besides_limits hapart).1, ?_⟩
      exact forall_mem_singleton.2 ⟨rfl, suffix_refl _⟩
    | startMonitor | stopMonitor | reset | updateVoltage => cases hcall
  | false =>
    rw [hcall, if_neg Bool.false_ne_true] at hapart
    obtain ⟨hc, ht⟩ := hapart
    have hreports := (h.activities.besides_limits (by simp [hc])).2
    rw [ht] at hreports
    exact .calling (by simp [step, hc]) hcall ht (hreports.post_of_nil.called hcall)

lemma returned_past : ∀ c limit t, .called c limit t ∈ .returned call :: σ.log → t ≤ σ.now :=
  fun c limit t hmem => h.past c limit t ((mem_cons.1 hmem).resolve_left nofun)

/-- A step of one of the calls of `set_limits`. -/
theorem proceed_limits (hc : LimitsOnly σ.calls) (i : ℕ) :
    ThreadsOk duration (σ.proceed duration i) := by
  have hset : ∀ activity ∈ σ.calls, activity.call.isSetLimits := fun b hb => (hc b hb).1
  unfold Threads.proceed
  split
  · exact h
  · rename_i call hi
    obtain ⟨hcall, -⟩ := hc _ (mem_of_getElem? hi)
    cases call with
    | setLimits =>
      exact ⟨h.activities.relimit hset (fun b hb => hc b (mem_of_mem_eraseIdx hb))
        relimited_returned rfl rfl, h.log.cons trivial, h.returned_past⟩
    | startMonitor | stopMonitor | reset | updateVoltage => cases hcall
  · rename_i call a rest hi
    obtain ⟨hcall, htodo⟩ := hc _ (mem_of_getElem? hi)
    cases call with
    | setLimits e l =>
      obtain ⟨hr, hrest, hlog⟩ := relimited_perform duration σ.now σ.monitor σ.log rest
        (htodo.subset mem_cons_self)
      refine ⟨h.activities.relimit hset (fun b hb => ?_) hr rfl rfl, ?_, h.noted_past⟩
      · rcases mem_or_eq_of_mem_set hb with hb | rfl
        · exact hc b hb
        · refine ⟨rfl, ?_⟩
          rw [hrest]
          exact (suffix_cons a rest).trans htodo
      · exact hlog.symm ▸ h.log
    | startMonitor | stopMonitor | reset | updateVoltage => cases hcall

lemma proceed (i : ℕ) : ThreadsOk duration (σ.proceed duration i) := by
  cases h.activities with
  | reporting hc => exact h.proceed_limits hc i
  | @calling call todo hc hcall ht hserves =>
    unfold Threads.proceed
    rw [hc]
    cases i with
    | succ => exact h
    | zero =>
      cases hserves with
      | done hpost =>
        have hreports : Reports duration σ.now σ.monitor (.returned call :: σ.log) σ.timer.todo :=
          ht ▸ .done (hpost.1.returned hpost.2)
        exact ⟨.reporting (by simp [LimitsOnly]) hreports, h.log.cons trivial, h.returned_past⟩
      | access hnext hlog =>
        exact ⟨.calling rfl hcall ht (hnext _ _ _ le_rfl ⟨rfl, rfl⟩),
          h.log.trans (hlog _ _ _ le_rfl ⟨rfl, rfl⟩), h.noted_past⟩

lemma awaitTimer (ht : σ.timer.todo = []) : ThreadsOk duration σ.awaitTimer where
  activities := by
    have ht' : σ.awaitTimer.timer.todo = σ.timer.todo := by
      rw [ht]
      unfold Threads.awaitTimer
      cases σ.monitor.timerArmed <;> rfl
    cases h.activities with
    | reporting hc hreports => exact .reporting hc (ht' ▸ hreports)
    | calling hc hcall _ hserves => exact .calling hc hcall (ht'.trans ht) hserves
  log := h.log
  past := h.past

/-- The timer was armed for the whole duration, and no sample was below the limit. -/
theorem expire {timeout : Bool} {deadline : ℕ} (ht : σ.timer = .sleeping deadline)
    (hexp : σ.expires timeout deadline = true)
    (hc : ∀ activity ∈ σ.calls, activity.call.isSetLimits) :
    ThreadsOk duration σ.expire where
  activities := by
    simp only [expires, Bool.and_eq_true, decide_eq_true_eq] at hexp
    obtain ⟨⟨⟨_, hdue⟩, harmed⟩, hdeadline⟩ := hexp
    obtain ⟨hlimits, hreports⟩ := h.activities.besides_limits hc
    rw [ht] at hreports
    obtain ⟨hr, hl, _, hheld⟩ := hreports.post_of_nil.armed harmed
    rw [hdeadline] at hheld
    exact .reporting hlimits
      ((hreports.post_of_nil.disarm.due hr hl fun _ => hheld.mono hdue).reports _)
  log := h.log
  past := h.past

lemma report (ht : σ.timer = .reporting (a :: rest)) {timeout : Bool} :
    ThreadsOk duration (σ.timerStep duration timeout) := by
  unfold timerStep
  rw [ht]
  cases h.activities with
  | calling _ _ htodo =>
    rw [ht] at htodo
    cases htodo
  | reporting hc hreports =>
    rw [ht] at hreports
    cases hreports with
    | access hnext hlog =>
      exact ⟨.reporting hc (hnext _ _ _ le_rfl .refl), h.log.trans (hlog _ _ _ le_rfl .refl),
        h.noted_past⟩

lemma wake {timeout : Bool} (hapart : Apart σ (.wake timeout)) :
    ThreadsOk duration (σ.timerStep duration timeout) := by
  cases ht : σ.timer with
  | waiting =>
    have heq : σ.timerStep duration timeout = σ.awaitTimer := by
      unfold timerStep
      rw [ht]
    rw [heq]
    exact h.awaitTimer (by rw [ht]; rfl)
  | sleeping deadline =>
    have heq : σ.timerStep duration timeout =
        if σ.expires timeout deadline then σ.expire else σ.awaitTimer := by
      unfold timerStep
      rw [ht]
    rw [heq]
    simp only [Apart, ht] at hapart
    by_cases hexp : σ.expires timeout deadline = true
    · rw [if_pos hexp]
      exact h.expire ht hexp (hapart hexp)
    · rw [if_neg hexp]
      exact h.awaitTimer (by rw [ht]; rfl)
  | reporting todo =>
    cases todo with
    | nil =>
      have heq : σ.timerStep duration timeout = σ.awaitTimer := by
        unfold timerStep
        rw [ht]
      rw [heq]
      exact h.awaitTimer (by rw [ht]; rfl)
    | cons => exact h.report ht

lemma step (move : Move) (hapart : Apart σ move) :
    ThreadsOk duration (σ.step duration move) := by
  cases move with
  | elapse ns => exact h.elapse ns
  | call call => exact h.called hapart
  | proceed i => exact h.proceed i
  | wake => exact h.wake hapart

end

end ThreadsOk

/-- While calls and the report of an expired timer stay apart, every period is reported once
and only while the monitor runs, and an error only after the whole fault duration. -/
theorem one_fault_while_running (duration : ℕ) (moves : List Move)
    (hapart : AllSteps (Threads.step duration) Apart {} moves) :
    AllStates (Threads.step duration) (fun σ => ReportsOk duration σ.log) {} moves :=
  (allStates_of_allSteps (fun _ move h hC => h.step move hC) threadsOk_init hapart).mono
    fun _ h => .of_grows h.log

def whole (call : Call) (accesses : ℕ) : List Move :=
  .call call :: List.replicate (accesses + 1) (.proceed 0)

/-- The monitor runs, a sample between the limits arms the timer, and it expires. -/
def untilExpiry : List Move :=
  whole (.setLimits 450 420) 3 ++ whole .startMonitor 3 ++ whole (.updateVoltage 430) 6 ++
    [.wake false, .elapse 100000000, .wake true]

def reportOfTimer : List Move := List.replicate 5 (.wake false)

/-- New limits are set while the expired timer is reported. -/
theorem expired_timer_reports_once :
    AllStates (Threads.step 100) (fun σ => ReportsOk 100 σ.log) {}
      (untilExpiry ++ [.call (.setLimits 460 440), .proceed 0] ++ reportOfTimer ++
        List.replicate 3 (.proceed 0)) :=
  one_fault_while_running 100 _ (by decide +kernel)

/-- Between the expiry and its report the timer thread holds no lock and reads no flag: an
emergency in between gives a second fault, a stop in between is followed by a fault, and a
sample below the limit in between does not prevent the error. -/
theorem faults_after_expiry :
    (∃ log, (run (Threads.step 100) {}
        (untilExpiry ++ whole (.updateVoltage 460) 10 ++ reportOfTimer)).log = log ∧
      faultsSinceRestart log = 2 ∧ ¬ ReportsOk 100 log) ∧
    (∃ reason older, (run (Threads.step 100) {}
        (untilExpiry ++ whole .stopMonitor 2 ++ reportOfTimer)).log =
          .fault .error reason 100000000 :: older ∧
      stopped older = true ∧ ¬ ReportsOk 100 (.fault .error reason 100000000 :: older)) ∧
    ∃ reason older, (run (Threads.step 100) {}
        (untilExpiry ++ whole (.updateVoltage 400) 6 ++ reportOfTimer)).log =
          .fault .error reason 100000000 :: older ∧
      .called (.updateVoltage 400) (420 : ℚ) 100000000 ∈ older ∧
      ¬ ReportsOk 100 (.fault .error reason 100000000 :: older) := by
  refine ⟨⟨_, rfl, by decide +kernel, fun h => ?_⟩, ⟨_, _, rfl, by decide +kernel, fun h => ?_⟩,
    ⟨_, _, rfl, by decide +kernel, fun h => ?_⟩⟩
  · exact absurd (h.once [] _ rfl) (by decide +kernel)
  · exact absurd (h.running [] _ _ _ _ rfl) (by decide +kernel)
  · have hbelow := (h.held [] _ _ _ rfl).2 400 (420 : ℚ) 100000000 (by decide +kernel)
      (by decide +kernel)
    exact absurd hbelow (by decide +kernel)

end Everest.Evse.OverVoltageMonitor
