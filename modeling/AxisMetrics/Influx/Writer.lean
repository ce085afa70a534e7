import AxisMetrics.Influx.Queue
import AxisMetrics.Influx.Request

/-!
# The Influx writer

The writer of the queue with the network behind it: what the worker asks curl for, and what the two
threads report. `Delivers` is what an InfluxDB server and the settings page see of it, whatever the
threads do: each write is of one sample, in the order of the samples, to the server of one saved
configuration, and the status is what came of the last write.
-/

namespace AxisMetrics

open Lib (Bytes ascii Always runFrom)

/-- `Influx` with what it sent, and what was asked of it. -/
structure InfluxWriter (V D : Type) where
  threads : InfluxThreads V D
  /-- The worker waits for curl. -/
  writing : Bool
  /-- What curl was asked to send, with the settings it was sent under. -/
  sent : List (InfluxConfig × QueueItem)
  /-- The measurements and the samples that payloads were built of. -/
  sampled : List (Bytes × Api V D)
  /-- The settings that were applied. -/
  applied : List InfluxConfig
  /-- The settings of the writes since. -/
  since : List InfluxConfig
  /-- What came of the writes since it was switched on, if it is. -/
  ended : Option (List Bytes)

inductive WriterEvent (V D : Type) where
  /-- An operation of either thread. -/
  | thread (event : InfluxEvent V D)
  /-- The worker starts a write, and there is no handle for it. -/
  | noHandle
  /-- Curl is done. -/
  | done (outcome : WriteOutcome)

/-- The text of a payload. -/
def QueueItem.text : QueueItem → Bytes
  | .payload _ text => text
  | .quit => []

namespace InfluxWriter

variable {V D T : Type}

/-- `set_state`. -/
def setState (w : InfluxWriter V D) (outcome : WriteOutcome) : InfluxWriter V D :=
  { w with
    threads := { w.threads with state := outcome.state }
    ended := w.ended.map (· ++ [outcome.state]) }

/-- The write that the worker is about to start. -/
def starts (w : InfluxWriter V D) : Option (InfluxConfig × QueueItem) :=
  match w.threads.worker with
  | .sending config item => if config.enabled ∧ config.url ≠ [] then some (config, item) else none
  | _ => none

/-- What the writer notes of a call. -/
def called (w : InfluxWriter V D) : InfluxEvent V D → InfluxWriter V D
  | .apply config => { w with
      applied := w.applied ++ [config]
      since := []
      ended := if config.enabled then some (w.ended.getD []) else none }
  | _ => w

section Steps

variable [SampleArith V D] [RenderArith V T]

/-- The payload that the main thread is about to build, with what it is built of. -/
def building (w : InfluxWriter V D) : List (Bytes × Api V D) :=
  match w.threads.main with
  | .draining api =>
    if w.threads.queue = [] ∧ (buildPayload w.threads.config.measurement api).isSome then
      [(w.threads.config.measurement, api)]
    else []
  | _ => []

def step (w : InfluxWriter V D) : WriterEvent V D → Option (InfluxWriter V D)
  | .thread .worker =>
    if w.writing then none
    else w.threads.workerStep.map fun threads => { w with
      threads := threads
      writing := w.starts.isSome
      sent := w.sent ++ w.starts.toList
      since := w.since ++ (w.starts.map (·.1)).toList }
  | .thread .main => w.threads.mainStep.map fun threads => { w with
      threads := threads
      sampled := w.sampled ++ w.building }
  | .thread event => (w.threads.step event).map fun threads => { w.called event with
      threads := threads }
  | .noHandle =>
    if w.writing ∨ w.starts = none then none
    else w.threads.workerStep.map fun threads =>
      ({ w with threads := threads } : InfluxWriter V D).setState .noHandle
  | .done outcome =>
    if w.writing then some ({ w with writing := false }.setState outcome) else none

end Steps

/-- `influx_new`. -/
def new : InfluxWriter V D where
  threads := .new
  writing := false
  sent := []
  sampled := []
  applied := []
  since := []
  ended := none

/-- What went out. -/
def requests (curlEscape : Bytes → Option Bytes) (w : InfluxWriter V D) : List WriteRequest :=
  w.sent.map fun sent => writeRequest curlEscape sent.1 sent.2.text

/-- The status that is to be shown. -/
def status (w : InfluxWriter V D) : Bytes :=
  match w.ended with
  | none => ascii "disabled"
  | some ended => ended.getLastD (ascii "pending")

end InfluxWriter

/-! ## The two threads -/

/-- The payload that the worker popped and has not sent. -/
def WorkerPoint.unsent : WorkerPoint → List QueueItem
  | .popped item | .sending _ item => [item]
  | .popping | .sent _ | .stopped => []

/-- The worker has a copy of these settings. -/
def WorkerPoint.Copied (config : InfluxConfig) : WorkerPoint → Prop
  | .sending copy _ => copy = config
  | .popping | .popped _ | .sent _ | .stopped => False

/-- What has been applied, where the writer is on. -/
def Saved (applied : List InfluxConfig) (config : InfluxConfig) : Prop :=
  config.enabled = true → config ∈ applied

namespace InfluxWriter

variable {V D T : Type} {w w' : InfluxWriter V D} {threads threads' : InfluxThreads V D}

/-- What the worker takes is sent in order, each payload once. -/
structure SendsInOrder (w : InfluxWriter V D) : Prop where
  queue : QueueInv w.threads
  order : (w.sent.map (·.2) ++ w.threads.worker.unsent).Sublist w.threads.taken
  payloads : ∀ sent ∈ w.sent, sent.2.isPayload

/-- What is sent is sent under settings that were applied. -/
structure SendsSaved (w : InfluxWriter V D) : Prop where
  saved : Saved w.applied w.threads.config
  copied : ∀ config, w.threads.worker.Copied config → Saved w.applied config
  sent : ∀ sent ∈ w.sent, sent.1 ∈ w.applied ∧ sent.1.enabled = true ∧ sent.1.url ≠ []
  since : ∀ config ∈ w.since.tail, config = w.threads.config
  first : w.since ≠ [] → ∀ config, w.threads.worker.Copied config → config = w.threads.config

/-- What is built is built of samples, under settings that were applied. -/
structure BuildsSamples [SampleArith V D] [RenderArith V T] (w : InfluxWriter V D) : Prop where
  built : List.Forall₂ (fun sample text => buildPayload sample.1 sample.2 = some text) w.sampled
    w.threads.built
  measured : ∀ sample ∈ w.sampled, ∃ config ∈ w.applied, sample.1 = config.measurement
  drains : ∀ api, w.threads.main = .draining api → w.threads.config ∈ w.applied

/-- What is reported is what was asked for and what came of it. -/
structure Reports (w : InfluxWriter V D) : Prop where
  ended : w.ended.isSome = w.threads.config.enabled
  state : ∀ ended, w.ended = some ended → w.threads.state = ended.getLastD (ascii "pending")

theorem Reports.influxState_eq (h : w.Reports) : influxState w.threads.influx = w.status := by
  have hon := h.ended
  rw [influxState, status]
  cases hended : w.ended with
  | none =>
    rw [hended] at hon
    exact if_neg fun henabled => Bool.false_ne_true (hon.trans henabled)
  | some ended =>
    rw [hended] at hon
    exact (if_pos hon.symm).trans (h.state ended hended)

section Worker

/-- The operations of the worker that start no write. -/
theorem workerStep_spec (hstep : threads.workerStep = some threads') :
    threads'.config = threads.config ∧ threads'.state = threads.state ∧
      threads'.built = threads.built ∧ threads'.main = threads.main ∧
      (∀ config, threads'.worker.Copied config → config = threads.config) ∧
      ∃ more, threads'.taken = threads.taken ++ more ∧
        threads'.worker.unsent.Sublist (threads.worker.unsent ++ more) := by
  obtain ⟨item, rest, hworker, hqueue, rfl⟩ | ⟨item, hworker, rfl⟩ | ⟨config, item, hworker, rfl⟩ |
    ⟨item, hworker, rfl⟩ := InfluxThreads.workerStep_cases hstep
  · refine ⟨rfl, rfl, rfl, rfl, fun config hcopied => ?_, [item], rfl, ?_⟩
    · dsimp only at hcopied
      split at hcopied <;> exact hcopied.elim
    · rw [hworker]
      dsimp only
      split
      · exact List.nil_sublist _
      · exact List.Sublist.refl _
  · refine ⟨rfl, rfl, rfl, rfl, fun config hcopied => hcopied.symm, [], by simp, ?_⟩
    rw [hworker]
    exact List.Sublist.refl _
  · exact ⟨rfl, rfl, rfl, rfl, fun config hcopied => hcopied.elim, [], by simp, List.nil_sublist _⟩
  · exact ⟨rfl, rfl, rfl, rfl, fun config hcopied => hcopied.elim, [], by simp, List.nil_sublist _⟩

/-- A write that starts. -/
theorem workerStep_starts {sent : InfluxConfig × QueueItem} (hstarts : w.starts = some sent)
    (hstep : w.threads.workerStep = some threads') :
    w.threads.worker = .sending sent.1 sent.2 ∧ sent.1.enabled = true ∧ sent.1.url ≠ [] ∧
      threads'.worker.unsent = [] ∧ threads'.taken = w.threads.taken ∧
      ∀ config, ¬ threads'.worker.Copied config := by
  unfold starts at hstarts
  cases hworker : w.threads.worker with
  | sending config item =>
    rw [hworker] at hstarts
    dsimp only at hstarts
    split_ifs at hstarts with hon
    obtain rfl := Option.some.inj hstarts
    rw [InfluxThreads.workerStep, hworker] at hstep
    obtain rfl := Option.some.inj hstep
    exact ⟨rfl, hon.1, hon.2, rfl, rfl, fun _ h => h⟩
  | _ =>
    rw [hworker] at hstarts
    cases hstarts

end Worker

section Main

variable [SampleArith V D] [RenderArith V T]

/-- The operations of the main thread inside of a call. -/
theorem mainStep_spec (hstep : w.threads.mainStep = some threads') :
    threads'.config = w.threads.config ∧ threads'.state = w.threads.state ∧
      threads'.worker = w.threads.worker ∧ threads'.taken = w.threads.taken ∧
      (∀ api, threads'.main = .draining api → w.threads.main = .draining api) ∧
      ∃ texts, threads'.built = w.threads.built ++ texts ∧
        List.Forall₂ (fun sample text => buildPayload sample.1 sample.2 = some text) w.building
          texts := by
  unfold building
  cases hmain : w.threads.main with
  | draining api =>
    rw [InfluxThreads.mainStep, hmain] at hstep
    dsimp only at hstep ⊢
    cases hqueue : w.threads.queue with
    | cons stale rest =>
      rw [hqueue] at hstep
      obtain rfl := Option.some.inj hstep
      refine ⟨rfl, rfl, rfl, rfl, fun _ h => hmain ▸ h, [], (List.append_nil _).symm, ?_⟩
      rw [if_neg fun h => List.cons_ne_nil _ _ h.1]
      exact .nil
    | nil =>
      rw [hqueue] at hstep
      cases hbuild : buildPayload w.threads.config.measurement api with
      | none =>
        rw [hbuild] at hstep
        obtain rfl := Option.some.inj hstep
        refine ⟨rfl, rfl, rfl, rfl, fun _ h => ?_, [], (List.append_nil _).symm, ?_⟩
        · cases h
        · rw [if_neg fun h => Bool.false_ne_true h.2]
          exact .nil
      | some text =>
        rw [hbuild] at hstep
        obtain rfl := Option.some.inj hstep
        refine ⟨rfl, rfl, rfl, rfl, fun _ h => ?_, [text], rfl, ?_⟩
        · cases h
        · rw [if_pos ⟨rfl, rfl⟩]
          exact .cons hbuild .nil
  | pushing item =>
    rw [InfluxThreads.mainStep, hmain] at hstep
    obtain rfl := Option.some.inj hstep
    refine ⟨rfl, rfl, rfl, rfl, fun _ h => ?_, [], (List.append_nil _).symm, .nil⟩
    cases h
  | joining =>
    obtain ⟨-, rfl⟩ := InfluxThreads.mainStep_joining hmain hstep
    refine ⟨rfl, rfl, rfl, rfl, fun _ h => ?_, [], (List.append_nil _).symm, .nil⟩
    cases h
  | reaping =>
    rw [InfluxThreads.mainStep, hmain] at hstep
    cases hqueue : w.threads.queue with
    | nil =>
      rw [hqueue] at hstep
      obtain rfl := Option.some.inj hstep
      refine ⟨rfl, rfl, rfl, rfl, fun _ h => ?_, [], (List.append_nil _).symm, .nil⟩
      cases h
    | cons pending rest =>
      rw [hqueue] at hstep
      obtain rfl := Option.some.inj hstep
      exact ⟨rfl, rfl, rfl, rfl, fun _ h => hmain ▸ h, [], (List.append_nil _).symm, .nil⟩
  | _ =>
    rw [InfluxThreads.mainStep, hmain] at hstep
    cases hstep

theorem mem_building {sample : Bytes × Api V D} (h : sample ∈ w.building) :
    ∃ api, w.threads.main = .draining api ∧ sample = (w.threads.config.measurement, api) := by
  unfold building at h
  cases hmain : w.threads.main with
  | draining api =>
    rw [hmain] at h
    dsimp only at h
    split_ifs at h
    · exact ⟨api, rfl, List.mem_singleton.mp h⟩
    · cases h
  | _ =>
    rw [hmain] at h
    cases h

omit [SampleArith V D] [RenderArith V T] in
/-- A call does nothing to what the worker has. -/
theorem call_spec (event : InfluxEvent V D) : (threads.call event).worker = threads.worker ∧
    (threads.call event).taken = threads.taken ∧ (threads.call event).built = threads.built := by
  cases event with
  | tick api now =>
    rw [InfluxThreads.call]
    split
    · exact ⟨rfl, rfl, rfl⟩
    · exact ⟨rfl, rfl, rfl⟩
  | _ => exact ⟨rfl, rfl, rfl⟩

/-- What a step of the writer does. -/
theorem step_cases {event : WriterEvent V D} (hstep : w.step event = some w') :
    (∃ threads, event = .thread .worker ∧ w.threads.workerStep = some threads ∧ w' = { w with
      threads := threads
      writing := w.starts.isSome
      sent := w.sent ++ w.starts.toList
      since := w.since ++ (w.starts.map (·.1)).toList }) ∨
    (∃ threads, event = .thread .main ∧ w.threads.mainStep = some threads ∧ w' = { w with
      threads := threads
      sampled := w.sampled ++ w.building }) ∨
    (∃ call, event = .thread call ∧ w.threads.main = .idle ∧
      w' = { w.called call with threads := w.threads.call call }) ∨
    (∃ sent threads, w.starts = some sent ∧ w.threads.workerStep = some threads ∧
      w' = ({ w with threads := threads } : InfluxWriter V D).setState .noHandle) ∨
    ∃ outcome, w' = ({ w with writing := false } : InfluxWriter V D).setState outcome := by
  cases event with
  | thread event =>
    cases event with
    | worker =>
      rw [step] at hstep
      split_ifs at hstep
      obtain ⟨threads, hthreads, rfl⟩ := Option.map_eq_some_iff.mp hstep
      exact Or.inl ⟨threads, rfl, hthreads, rfl⟩
    | main =>
      obtain ⟨threads, hthreads, rfl⟩ := Option.map_eq_some_iff.mp hstep
      exact Or.inr (Or.inl ⟨threads, rfl, hthreads, rfl⟩)
    | tick api now =>
      obtain ⟨threads, hthreads, rfl⟩ := Option.map_eq_some_iff.mp hstep
      obtain ⟨h, -⟩ | ⟨h, -⟩ | ⟨hidle, rfl⟩ := InfluxThreads.step_call hthreads
      · cases h
      · cases h
      · exact Or.inr (Or.inr (Or.inl ⟨_, rfl, hidle, rfl⟩))
    | apply config =>
      obtain ⟨threads, hthreads, rfl⟩ := Option.map_eq_some_iff.mp hstep
      obtain ⟨h, -⟩ | ⟨h, -⟩ | ⟨hidle, rfl⟩ := InfluxThreads.step_call hthreads
      · cases h
      · cases h
      · exact Or.inr (Or.inr (Or.inl ⟨_, rfl, hidle, rfl⟩))
    | free =>
      obtain ⟨threads, hthreads, rfl⟩ := Option.map_eq_some_iff.mp hstep
      obtain ⟨h, -⟩ | ⟨h, -⟩ | ⟨hidle, rfl⟩ := InfluxThreads.step_call hthreads
      · cases h
      · cases h
      · exact Or.inr (Or.inr (Or.inl ⟨_, rfl, hidle, rfl⟩))
  | noHandle =>
    rw [step] at hstep
    split_ifs at hstep with hbusy
    obtain ⟨threads, hthreads, rfl⟩ := Option.map_eq_some_iff.mp hstep
    obtain ⟨sent, hsent⟩ := Option.ne_none_iff_exists'.mp (not_or.mp hbusy).2
    exact Or.inr (Or.inr (Or.inr (Or.inl ⟨sent, threads, hsent, hthreads, rfl⟩)))
  | done outcome =>
    rw [step] at hstep
    split_ifs at hstep
    obtain rfl := Option.some.inj hstep
    exact Or.inr (Or.inr (Or.inr (Or.inr ⟨outcome, rfl⟩)))

omit [SampleArith V D] [RenderArith V T] in
/-- The state is no part of the queue. -/
theorem queueInv_state (h : QueueInv threads) (state : Bytes) :
    QueueInv { threads with state := state } :=
  ⟨h.shape, h.held, h.order, h.newest, h.stops, h.notWritten, h.notFreed⟩

theorem SendsInOrder.step (h : w.SendsInOrder) {event : WriterEvent V D}
    (hstep : w.step event = some w') : w'.SendsInOrder := by
  obtain ⟨threads, -, hthreads, rfl⟩ | ⟨threads, -, hthreads, rfl⟩ | ⟨call, -, hidle, rfl⟩ |
    ⟨sent, threads, hstarts, hthreads, rfl⟩ | ⟨outcome, rfl⟩ := step_cases hstep
  · have hqueue := InfluxThreads.queueInv_workerStep h.queue hthreads
    cases hstarts : w.starts with
    | none =>
      obtain ⟨-, -, -, -, -, more, htaken, hunsent⟩ := workerStep_spec hthreads
      refine ⟨hqueue, ?_, ?_⟩
      · dsimp only [Option.toList]
        rw [List.append_nil, htaken]
        refine (hunsent.append_left _).trans ?_
        rw [← List.append_assoc]
        exact h.order.append_right more
      · rw [Option.toList_none, List.append_nil]
        exact h.payloads
    | some sent =>
      obtain ⟨hworker, -, -, hunsent, htaken, -⟩ := workerStep_starts hstarts hthreads
      have horder := h.order
      rw [hworker] at horder
      refine ⟨hqueue, ?_, ?_⟩
      · dsimp only [Option.toList]
        rw [hunsent, htaken, List.append_nil, List.map_append]
        exact horder
      · intro other hother
        obtain hold | hnew := List.mem_append.mp hother
        · exact h.payloads other hold
        · obtain rfl := List.mem_singleton.mp hnew
          refine h.queue.held other.2 ?_
          rw [hworker]
          rfl
  · obtain ⟨-, -, hworker, htaken, -, -⟩ := mainStep_spec hthreads
    refine ⟨InfluxThreads.queueInv_mainStep h.queue hthreads, ?_, h.payloads⟩
    dsimp only
    rw [hworker, htaken]
    exact h.order
  · obtain ⟨hworker, htaken, -⟩ : (w.threads.call call).worker = w.threads.worker ∧
        (w.threads.call call).taken = w.threads.taken ∧
          (w.threads.call call).built = w.threads.built := call_spec call
    have hsent : (w.called call).sent = w.sent := by cases call <;> rfl
    refine ⟨InfluxThreads.queueInv_call h.queue hidle call, ?_, ?_⟩
    · dsimp only
      rw [hworker, htaken, hsent]
      exact h.order
    · dsimp only
      rw [hsent]
      exact h.payloads
  · obtain ⟨-, -, -, hunsent, htaken, -⟩ := workerStep_starts hstarts hthreads
    refine ⟨queueInv_state (InfluxThreads.queueInv_workerStep h.queue hthreads) _, ?_, h.payloads⟩
    dsimp only [setState]
    rw [hunsent, htaken, List.append_nil]
    exact (List.sublist_append_left _ _).trans h.order
  · exact ⟨queueInv_state h.queue _, h.order, h.payloads⟩

theorem SendsSaved.step (h : w.SendsSaved) {event : WriterEvent V D}
    (hstep : w.step event = some w') : w'.SendsSaved := by
  obtain ⟨threads, -, hthreads, rfl⟩ | ⟨threads, -, hthreads, rfl⟩ | ⟨call, -, hidle, rfl⟩ |
    ⟨sent, threads, hstarts, hthreads, rfl⟩ | ⟨outcome, rfl⟩ := step_cases hstep
  · obtain ⟨hconfig, -, -, -, hcopied, -⟩ := workerStep_spec hthreads
    have hsaved : Saved w.applied threads.config := hconfig ▸ h.saved
    have hcopies : ∀ config, threads.worker.Copied config → Saved w.applied config :=
      fun config h' => hcopied config h' ▸ h.saved
    cases hstarts : w.starts with
    | none =>
      refine ⟨hsaved, hcopies, ?_, ?_, ?_⟩
      · rw [Option.toList_none, List.append_nil]
        exact h.sent
      · dsimp only
        rw [Option.map_none, Option.toList_none, List.append_nil, hconfig]
        exact h.since
      · exact fun _ config h' => (hcopied config h').trans hconfig.symm
    | some sent =>
      obtain ⟨hworker, henabled, hurl, -, -, hnone⟩ := workerStep_starts hstarts hthreads
      have hcopy : w.threads.worker.Copied sent.1 := by
        rw [hworker]
        rfl
      refine ⟨hsaved, hcopies, ?_, ?_, fun _ config h' => (hnone config h').elim⟩
      · intro other hother
        obtain hold | hnew := List.mem_append.mp hother
        · exact h.sent other hold
        · obtain rfl := List.mem_singleton.mp hnew
          exact ⟨h.copied _ hcopy henabled, henabled, hurl⟩
      · intro config hsince
        dsimp only at hsince ⊢
        rw [hconfig]
        cases hlist : w.since with
        | nil =>
          rw [hlist] at hsince
          cases hsince
        | cons first rest =>
          have hfirst := h.first (hlist ▸ List.cons_ne_nil _ _) sent.1 hcopy
          rw [hlist, List.cons_append, List.tail_cons] at hsince
          obtain hold | hnew := List.mem_append.mp hsince
          · exact h.since config (by rw [hlist]; exact hold)
          · obtain rfl := List.mem_singleton.mp hnew
            exact hfirst
  · obtain ⟨hconfig, -, hworker, -, -, -⟩ := mainStep_spec hthreads
    refine ⟨?_, ?_, h.sent, ?_, ?_⟩
    · exact hconfig ▸ h.saved
    · dsimp only
      rw [hworker]
      exact h.copied
    · dsimp only
      rw [hconfig]
      exact h.since
    · dsimp only
      rw [hworker, hconfig]
      exact h.first
  · cases call with
    | apply config =>
      have hgrow : ∀ config', Saved w.applied config' → Saved (w.applied ++ [config]) config' :=
        fun _ hsaved henabled => List.mem_append_left _ (hsaved henabled)
      exact ⟨fun _ => List.mem_append_right _ List.mem_cons_self,
        fun config' hcopied => hgrow _ (h.copied config' hcopied),
        fun sent hsent => ⟨List.mem_append_left _ (h.sent sent hsent).1, (h.sent sent hsent).2⟩,
        fun _ hmem => absurd hmem List.not_mem_nil, fun hne => absurd rfl hne⟩
    | tick api now =>
      dsimp only [called, InfluxThreads.call]
      split
      · exact ⟨h.saved, h.copied, h.sent, h.since, h.first⟩
      · exact ⟨h.saved, h.copied, h.sent, h.since, h.first⟩
    | _ => exact ⟨h.saved, h.copied, h.sent, h.since, h.first⟩
  · obtain ⟨hconfig, -, -, -, hcopied, -⟩ := workerStep_spec hthreads
    exact ⟨(hconfig ▸ h.saved : Saved w.applied threads.config),
      fun config h' => hcopied config h' ▸ h.saved, h.sent,
      (hconfig ▸ h.since : ∀ config ∈ w.since.tail, config = threads.config),
      fun _ config h' => (hcopied config h').trans hconfig.symm⟩
  · exact ⟨h.saved, h.copied, h.sent, h.since, h.first⟩

theorem Reports.step (h : w.Reports) {event : WriterEvent V D} (hstep : w.step event = some w') :
    w'.Reports := by
  have hset : ∀ (w : InfluxWriter V D) outcome, w.Reports → (w.setState outcome).Reports := by
    intro w outcome h
    refine ⟨?_, fun ended hended => ?_⟩
    · dsimp only [setState]
      rw [Option.isSome_map]
      exact h.ended
    · obtain ⟨before, -, rfl⟩ := Option.map_eq_some_iff.mp hended
      rw [List.getLastD_concat]
      rfl
  obtain ⟨threads, -, hthreads, rfl⟩ | ⟨threads, -, hthreads, rfl⟩ | ⟨call, -, hidle, rfl⟩ |
    ⟨sent, threads, -, hthreads, rfl⟩ | ⟨outcome, rfl⟩ := step_cases hstep
  · obtain ⟨hconfig, hstate, -⟩ := workerStep_spec hthreads
    exact ⟨h.ended.trans (congrArg _ hconfig.symm), fun ended he => hstate.trans (h.state ended he)⟩
  · obtain ⟨hconfig, hstate, -⟩ := mainStep_spec hthreads
    exact ⟨h.ended.trans (congrArg _ hconfig.symm), fun ended he => hstate.trans (h.state ended he)⟩
  · cases call with
    | apply config =>
      have hended := h.ended
      cases hon : config.enabled with
      | false => exact ⟨by simp [called, InfluxThreads.call, influxApply, hon], by simp [called, hon]⟩
      | true =>
        refine ⟨by simp [called, InfluxThreads.call, influxApply, hon], fun ended he => ?_⟩
        dsimp only [called] at he
        rw [if_pos hon] at he
        obtain rfl := Option.some.inj he
        dsimp only [InfluxThreads.call, influxApply, InfluxThreads.influx]
        rw [if_neg (by rw [hon]; exact Bool.true_eq_false_eq_False)]
        cases hwas : w.ended with
        | none =>
          rw [hwas] at hended
          have hoff : w.threads.config.enabled = false := hended.symm
          rw [if_pos hoff]
          rfl
        | some before =>
          rw [hwas] at hended
          have hon : w.threads.config.enabled = true := hended.symm
          rw [if_neg (by rw [hon]; exact Bool.true_eq_false_eq_False)]
          exact h.state before hwas
    | tick api now =>
      dsimp only [called, InfluxThreads.call]
      split
      · exact ⟨h.ended, h.state⟩
      · exact ⟨h.ended, h.state⟩
    | _ => exact ⟨h.ended, h.state⟩
  · obtain ⟨hconfig, hstate, -⟩ := workerStep_spec hthreads
    exact hset { w with threads := threads } _ ⟨h.ended.trans (congrArg _ hconfig.symm),
      fun ended he => hstate.trans (h.state ended he)⟩
  · exact hset { w with writing := false } _ ⟨h.ended, h.state⟩

theorem BuildsSamples.step (h : w.BuildsSamples) (hsaved : w.SendsSaved) {event : WriterEvent V D}
    (hstep : w.step event = some w') : w'.BuildsSamples := by
  obtain ⟨threads, -, hthreads, rfl⟩ | ⟨threads, -, hthreads, rfl⟩ | ⟨call, -, hidle, rfl⟩ |
    ⟨sent, threads, -, hthreads, rfl⟩ | ⟨outcome, rfl⟩ := step_cases hstep
  · obtain ⟨hconfig, -, hbuilt, hmain, -⟩ := workerStep_spec hthreads
    exact ⟨hbuilt ▸ h.built, h.measured, fun api hapi => hconfig ▸ h.drains api (hmain ▸ hapi)⟩
  · obtain ⟨hconfig, -, -, -, hdrains, texts, hbuilt, htexts⟩ := mainStep_spec hthreads
    refine ⟨?_, fun sample hsample => ?_, fun api hapi => hconfig ▸ h.drains api (hdrains api hapi)⟩
    · dsimp only
      rw [hbuilt]
      exact List.rel_append h.built htexts
    · obtain hold | hnew := List.mem_append.mp hsample
      · exact h.measured sample hold
      · obtain ⟨api, hmain, rfl⟩ := mem_building hnew
        exact ⟨w.threads.config, h.drains api hmain, rfl⟩
  · have hnone : ∀ api, w.threads.main ≠ .draining api := fun api hmain => by
      rw [hidle] at hmain
      cases hmain
    cases call with
    | apply config =>
      refine ⟨h.built, fun sample hsample => ?_, fun api hapi => absurd hapi (hnone api)⟩
      obtain ⟨config', hconfig', heq⟩ := h.measured sample hsample
      exact ⟨config', List.mem_append_left _ hconfig', heq⟩
    | tick api now =>
      dsimp only [called, InfluxThreads.call]
      split
      · next hdue =>
        refine ⟨h.built, h.measured, fun _ _ => hsaved.saved ?_⟩
        simp only [influxDue, Bool.and_eq_true] at hdue
        exact hdue.1.1.1
      · exact ⟨h.built, h.measured, h.drains⟩
    | free =>
      refine ⟨h.built, h.measured, fun api hapi => ?_⟩
      cases hapi
    | main => exact ⟨h.built, h.measured, h.drains⟩
    | worker => exact ⟨h.built, h.measured, h.drains⟩
  · obtain ⟨hconfig, -, hbuilt, hmain, -⟩ := workerStep_spec hthreads
    exact ⟨(hbuilt ▸ h.built : List.Forall₂ _ w.sampled threads.built), h.measured,
      fun api hapi => (hconfig ▸ h.drains api (hmain ▸ hapi) : threads.config ∈ w.applied)⟩
  · exact ⟨h.built, h.measured, h.drains⟩

end Main

/-- The strings of a payload are on one line. -/
def OneLine (api : Api CFloat Float) : Prop :=
  10 ∉ api.device.serial ∧ 10 ∉ api.device.model ∧ ∀ i, 10 ∉ api.registry.id i

/-- The settings have no line break in the measurement, and a server as their URL. -/
def Plain (config : InfluxConfig) : Prop := 10 ∉ config.measurement ∧ 63 ∉ config.url

/-- Samples and settings that are plain. -/
def PlainEvent : WriterEvent CFloat Float → Prop
  | .thread (.tick api _) => OneLine api
  | .thread (.apply config) => Plain config
  | _ => True

/-- All that came is plain. -/
structure AllPlain (w : InfluxWriter CFloat Float) : Prop where
  applied : ∀ config ∈ w.applied, Plain config
  sampled : ∀ sample ∈ w.sampled, OneLine sample.2
  drains : ∀ api, w.threads.main = .draining api → OneLine api

theorem AllPlain.step {w w' : InfluxWriter CFloat Float} (h : w.AllPlain)
    {event : WriterEvent CFloat Float} (hplain : PlainEvent event) (hstep : w.step event = some w') :
    w'.AllPlain := by
  obtain ⟨threads, -, hthreads, rfl⟩ | ⟨threads, -, hthreads, rfl⟩ | ⟨call, rfl, hidle, rfl⟩ |
    ⟨sent, threads, -, hthreads, rfl⟩ | ⟨outcome, rfl⟩ := step_cases hstep
  · obtain ⟨-, -, -, hmain, -⟩ := workerStep_spec hthreads
    exact ⟨h.applied, h.sampled, fun api hapi => h.drains api (hmain ▸ hapi)⟩
  · obtain ⟨-, -, -, -, hdrains, -⟩ := mainStep_spec hthreads
    refine ⟨h.applied, fun sample hsample => ?_, fun api hapi => h.drains api (hdrains api hapi)⟩
    obtain hold | hnew := List.mem_append.mp hsample
    · exact h.sampled sample hold
    · obtain ⟨api, hmain, rfl⟩ := mem_building hnew
      exact h.drains api hmain
  · cases call with
    | apply config =>
      refine ⟨fun config' hmem => ?_, h.sampled, h.drains⟩
      obtain hold | hnew := List.mem_append.mp hmem
      · exact h.applied config' hold
      · obtain rfl := List.mem_singleton.mp hnew
        exact hplain
    | tick api now =>
      dsimp only [called, InfluxThreads.call]
      split
      · refine ⟨h.applied, h.sampled, fun api' hapi => ?_⟩
        obtain rfl := MainPoint.draining.inj hapi
        exact hplain
      · exact ⟨h.applied, h.sampled, h.drains⟩
    | free =>
      refine ⟨h.applied, h.sampled, fun api hapi => ?_⟩
      cases hapi
    | main => exact ⟨h.applied, h.sampled, h.drains⟩
    | worker => exact ⟨h.applied, h.sampled, h.drains⟩
  · obtain ⟨-, -, -, hmain, -⟩ := workerStep_spec hthreads
    exact ⟨h.applied, h.sampled, fun api hapi => h.drains api (hmain ▸ hapi)⟩
  · exact ⟨h.applied, h.sampled, h.drains⟩

/-- The point of a sample. -/
def samplePoints (sample : Bytes × Api CFloat Float) : List Lib.LineProtocolPoint :=
  ((storeLatest sample.2.store).map fun row => ⟨sample.1, deviceTags sample.2.device,
    pushedValues sample.2 row, Lib.decimalInt row.timestamp.toInt⟩).toList

/-- What is built of a sample is read as its point. -/
theorem readPoints_buildPayload {sample : Bytes × Api CFloat Float} {text : Bytes}
    (hmeasurement : 10 ∉ sample.1) (hsample : OneLine sample.2)
    (hbuild : buildPayload sample.1 sample.2 = some text) :
    Lib.readPoints text.length text = some (samplePoints sample) := by
  obtain ⟨hserial, hmodel, hids⟩ := hsample
  cases hlatest : storeLatest sample.2.store with
  | none =>
    rw [buildPayload, hlatest] at hbuild
    cases hbuild
  | some row =>
    have hne : pushedValues sample.2 row ≠ [] := by
      intro hnil
      rw [buildPayload, hlatest] at hbuild
      dsimp only at hbuild
      rw [if_pos (influxFields_eq_nil.mpr hnil)] at hbuild
      cases hbuild
    rw [buildPayload_pointText hlatest hne] at hbuild
    obtain rfl := Option.some.inj hbuild
    rw [samplePoints, hlatest]
    refine readPoints_pointText hne ⟨hmeasurement, hserial, hmodel, fun field hfield => ?_⟩ ?_
    · obtain ⟨i, -, rfl⟩ := List.mem_map.mp hfield
      exact hids i
    · rw [List.length_append]
      exact Nat.succ_pos _

end InfluxWriter

open InfluxWriter

/-- What a server and the settings page see of a writer: each write is the points of a sample, the
samples in their order and none twice, and goes where applied settings say; from a change of the
settings on, only the first write can be under earlier ones; and the status is that of the last write
that ended since the writer was switched on. -/
structure Delivers (curlEscape : Bytes → Option Bytes) (w : InfluxWriter CFloat Float) : Prop where
  writes : ∃ writes : List InfluxWrite, (w.requests curlEscape).map readWrite = writes.map some ∧
    (writes.map (·.points)).Sublist (w.sampled.map samplePoints) ∧
    ∀ write ∈ writes, ∃ config ∈ w.applied,
      config.enabled = true ∧ config.url ≠ [] ∧ write.toWriteTarget = config.target
  measured : ∀ sample ∈ w.sampled, ∃ config ∈ w.applied, sample.1 = config.measurement
  settled : ∀ config ∈ w.since.tail, config = w.threads.config
  status : influxState w.threads.influx = w.status

namespace InfluxWriter

variable {w w' : InfluxWriter CFloat Float}

/-- All that holds of a writer. -/
structure Inv (w : InfluxWriter CFloat Float) : Prop where
  inOrder : w.SendsInOrder
  saved : w.SendsSaved
  samples : w.BuildsSamples
  reports : w.Reports
  plain : w.AllPlain

theorem inv_new : (new : InfluxWriter CFloat Float).Inv where
  inOrder := ⟨InfluxThreads.queueInv_new, List.nil_sublist _, fun _ h => absurd h List.not_mem_nil⟩
  saved := ⟨fun h => absurd h Bool.false_ne_true, fun _ h => h.elim,
    fun _ h => absurd h List.not_mem_nil, fun _ h => absurd h List.not_mem_nil, fun h => absurd rfl h⟩
  samples := by
    refine ⟨.nil, fun _ h => absurd h List.not_mem_nil, fun api hapi => ?_⟩
    cases hapi
  reports := by
    refine ⟨rfl, fun ended hended => ?_⟩
    cases hended
  plain := by
    refine ⟨fun _ h => absurd h List.not_mem_nil, fun _ h => absurd h List.not_mem_nil,
      fun api hapi => ?_⟩
    cases hapi

theorem Inv.step (h : w.Inv) {event : WriterEvent CFloat Float} (hplain : PlainEvent event)
    (hstep : w.step event = some w') : w'.Inv :=
  ⟨h.inOrder.step hstep, h.saved.step hstep, h.samples.step h.saved hstep, h.reports.step hstep,
    h.plain.step hplain hstep⟩

/-- The texts that are sent are those that were built, some of them left out. -/
theorem SendsInOrder.texts (h : w.SendsInOrder) :
    (w.sent.map (·.2.text)).Sublist w.threads.built := by
  have hsent : (w.sent.map (·.2)).Sublist w.threads.taken :=
    (List.sublist_append_left _ _).trans h.order
  have hpayloads : payloadsOf (w.sent.map (·.2)) = w.sent.map (·.2) := by
    refine InfluxThreads.payloadsOf_eq_self fun item hitem => ?_
    obtain ⟨sent, hsent, rfl⟩ := List.mem_map.mp hitem
    exact h.payloads sent hsent
  have hbuilt : (w.sent.map (·.2)).Sublist (builtItems w.threads.built) := by
    rw [← hpayloads]
    exact (hsent.filter _).trans h.queue.keepsNewest.inOrder
  have htexts : (builtItems w.threads.built).map QueueItem.text = w.threads.built := by
    rw [builtItems, List.map_map]
    exact List.zipIdx_map_fst _ _
  have hall := hbuilt.map QueueItem.text
  rw [htexts, List.map_map] at hall
  exact hall

/-- Each request is read as the write of its sample. -/
theorem exists_writes {curlEscape : Bytes → Option Bytes}
    (hescape : ∀ value, ∃ text, curlEscape value = some text ∧ Lib.Escaped value text)
    {samples : List (Bytes × Api CFloat Float)} {sents : List (InfluxConfig × QueueItem)}
    (hplain : ∀ sent ∈ sents, Plain sent.1)
    (hsamples : ∀ sample ∈ samples, 10 ∉ sample.1 ∧ OneLine sample.2)
    (h : List.Forall₂ (fun sample sent => buildPayload sample.1 sample.2 = some sent.2.text) samples
      sents) :
    ∃ writes : List InfluxWrite,
      (sents.map fun sent => writeRequest curlEscape sent.1 sent.2.text).map readWrite =
        writes.map some ∧ writes.map (·.points) = samples.map samplePoints ∧
      ∀ write ∈ writes, ∃ sent ∈ sents, write.toWriteTarget = sent.1.target := by
  induction h with
  | nil => exact ⟨[], rfl, rfl, fun _ h => absurd h List.not_mem_nil⟩
  | @cons sample sent samples sents hbuild _ ih =>
    rw [List.forall_mem_cons] at hplain hsamples
    obtain ⟨writes, hwrites, hpoints, htargets⟩ := ih hplain.2 hsamples.2
    have hread := readWrite_writeRequest hescape hplain.1.2
      (readPoints_buildPayload hsamples.1.1 hsamples.1.2 hbuild)
    refine ⟨⟨sent.1.target, samplePoints sample⟩ :: writes, ?_, ?_, ?_⟩
    · rw [List.map_cons, List.map_cons, List.map_cons, hread, hwrites]
    · rw [List.map_cons, List.map_cons, hpoints]
    · intro write hwrite
      obtain rfl | hrest := List.mem_cons.mp hwrite
      · exact ⟨sent, List.mem_cons_self, rfl⟩
      · obtain ⟨sent', hsent', htarget⟩ := htargets write hrest
        exact ⟨sent', List.mem_cons_of_mem _ hsent', htarget⟩

theorem Inv.delivers {curlEscape : Bytes → Option Bytes}
    (hescape : ∀ value, ∃ text, curlEscape value = some text ∧ Lib.Escaped value text)
    (h : w.Inv) : Delivers curlEscape w where
  writes := by
    obtain ⟨samples, hsub, hbuilds⟩ := Lib.exists_sublist_of_forall₂ h.samples.built h.inOrder.texts
    rw [List.forall₂_map_right_iff] at hbuilds
    have hsamples : ∀ sample ∈ samples, 10 ∉ sample.1 ∧ OneLine sample.2 := by
      intro sample hsample
      obtain ⟨config, hconfig, hmeasurement⟩ := h.samples.measured sample (hsub.subset hsample)
      exact ⟨hmeasurement ▸ (h.plain.applied config hconfig).1,
        h.plain.sampled sample (hsub.subset hsample)⟩
    obtain ⟨writes, hwrites, hpoints, htargets⟩ := exists_writes hescape
      (fun sent hsent => h.plain.applied _ (h.saved.sent sent hsent).1) hsamples hbuilds
    refine ⟨writes, hwrites, hpoints ▸ hsub.map _, fun write hwrite => ?_⟩
    obtain ⟨sent, hsent, htarget⟩ := htargets write hwrite
    obtain ⟨happlied, henabled, hurl⟩ := h.saved.sent sent hsent
    exact ⟨sent.1, happlied, henabled, hurl, htarget⟩
  measured := h.samples.measured
  settled := h.saved.since
  status := h.reports.influxState_eq

end InfluxWriter

/-- Over every interleaving of the sampler, the settings and the worker, with whatever comes of the
writes. -/
theorem delivers_influxWriter {curlEscape : Bytes → Option Bytes}
    (hescape : ∀ value, ∃ text, curlEscape value = some text ∧ Lib.Escaped value text)
    {events : List (WriterEvent CFloat Float)} (hplain : ∀ event ∈ events, PlainEvent event) :
    Always InfluxWriter.step .new events (Delivers curlEscape) := by
  have hrun : Lib.Throughout InfluxWriter.step .new events fun _ event => PlainEvent event :=
    fun done event _ hdone _ => hplain event (hdone.subset (by simp))
  have hinv := Lib.always_of_step inv_new (fun _ _ _ h hallowed hstep => h.step hallowed hstep) hrun
  exact fun done w hdone hreach => (hinv done w hdone hreach).delivers hescape

/-- A server of the second generation. -/
def bucketConfig : InfluxConfig :=
  ⟨true, .v2, ascii "http://influx:8086/", ascii "my cams", ascii "R&D", ascii "secret", [], [],
    ascii "my, metrics\\", 30⟩

/-- A sample is built, sent and taken. -/
def bucketRun : List (WriterEvent CFloat Float) :=
  [.thread (.apply bucketConfig), .thread (.tick usageApi 100), .thread .main, .thread .main,
    .thread .worker, .thread .worker, .thread .worker, .done (.answered 204), .thread .worker]

theorem delivers_bucketRun :
    ((runFrom InfluxWriter.step .new bucketRun).map fun w => (w.sent.length, w.status)) =
        some (1, ascii "connected") ∧
      Always InfluxWriter.step .new bucketRun
        (Delivers fun value => some (Lib.percentEncode value)) := by
  refine ⟨by decide +kernel,
    delivers_influxWriter (fun value => ⟨_, rfl, Lib.escaped_percentEncode _⟩) ?_⟩
  simp only [bucketRun, List.forall_mem_cons, List.not_mem_nil, false_implies, implies_true, and_true,
    PlainEvent]
  exact ⟨⟨by decide +kernel, by decide +kernel⟩, by decide, by decide, by decide⟩

end AxisMetrics
