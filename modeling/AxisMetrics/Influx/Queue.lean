import AxisMetrics.Influx.Defs
import AxisMetrics.Lib.Runs

/-!
# The Influx queue

The sampler and the worker share a queue, and each operation on it is atomic. The sampler drains
the queue and pushes one payload, in steps between which the worker may pop; a quit marker ends
the worker. A step here is one operation of either thread.

Payloads are numbered as they are built, so that two of one text are not the same payload.
-/

namespace AxisMetrics

open Lib (Bytes runFrom Always)

/-- What the queue holds: a payload on the heap, or `QUIT`. -/
inductive QueueItem where
  | payload (serial : ℕ) (text : Bytes)
  | quit
  deriving DecidableEq

def QueueItem.isPayload : QueueItem → Bool
  | .payload _ _ => true
  | .quit => false

/-- The payloads of a list, without the marker. -/
def payloadsOf (items : List QueueItem) : List QueueItem := items.filter QueueItem.isPayload

/-- Where the main thread is: outside of the writer's functions, in the two halves of `influx_tick`
after its clock was due, or in `influx_free`. -/
inductive MainPoint (V D : Type) where
  | idle
  /-- The loop that drops stale payloads; then `build_payload`. -/
  | draining (api : Api V D)
  | pushing (item : QueueItem)
  /-- `g_thread_join`. -/
  | joining
  /-- The loop that frees what is left. -/
  | reaping
  | freed

/-- Where `worker_main` is: at the pop, with what it popped, with its copy of the settings, past the
write, or past the loop. -/
inductive WorkerPoint where
  | popping
  | popped (item : QueueItem)
  | sending (config : InfluxConfig) (item : QueueItem)
  | sent (item : QueueItem)
  | stopped

/-- `Influx` as its two threads see it, with what has happened to the items. -/
structure InfluxThreads (V D : Type) where
  config : InfluxConfig
  stopping : Bool
  lastWrite : ℤ
  state : Bytes
  /-- Oldest first. -/
  queue : List QueueItem
  main : MainPoint V D
  worker : WorkerPoint
  /-- What `build_payload` returned. -/
  built : List Bytes
  /-- What the last tick built, until the next one starts to drain. -/
  latest : Option QueueItem
  /-- What the worker popped, what it handed to `write_payload`, and what was freed. -/
  taken : List QueueItem
  written : List QueueItem
  freed : List QueueItem

inductive InfluxEvent (V D : Type) where
  /-- The main thread calls one of the writer's functions. -/
  | tick (api : Api V D) (now : ℤ)
  | apply (config : InfluxConfig)
  | free
  /-- The next operation of the main thread inside of a call. -/
  | main
  /-- The next operation of the worker. -/
  | worker

/-- The payloads that were built, numbered. -/
def builtItems (built : List Bytes) : List QueueItem :=
  built.zipIdx.map fun entry => .payload entry.2 entry.1

/-- Whether `influx_tick` gets past its checks. -/
def influxDue (influx : Influx) (now : ℤ) : Bool :=
  influx.config.enabled && !influx.stopping && influx.config.url ≠ [] &&
    (influx.lastWrite = 0 || decide (influx.config.intervalS ≤ now - influx.lastWrite))

namespace InfluxThreads

variable {V D T : Type}

/-- The writer as one thread sees it. -/
def influx (w : InfluxThreads V D) : Influx where
  config := w.config
  queue := w.queue.filterMap fun
    | .payload _ text => some text
    | .quit => none
  stopping := w.stopping
  lastWrite := w.lastWrite
  state := w.state

/-- A call from the main thread. -/
def call (w : InfluxThreads V D) : InfluxEvent V D → InfluxThreads V D
  | .tick api now =>
    if influxDue w.influx now then
      { w with lastWrite := now, latest := none, main := .draining api }
    else w
  | .apply config =>
    let influx := influxApply w.influx config
    { w with config := influx.config, state := influx.state, lastWrite := influx.lastWrite }
  | .free => { w with stopping := true, queue := w.queue ++ [.quit], main := .joining }
  | .main | .worker => w

section Steps

variable [SampleArith V D] [RenderArith V T]

/-- The main thread goes on; `none` where it waits or is not in a call. -/
def mainStep (w : InfluxThreads V D) : Option (InfluxThreads V D) :=
  match w.main with
  | .idle | .freed => none
  | .draining api =>
    match w.queue with
    | stale :: rest => some { w with queue := rest, freed := w.freed ++ [stale] }
    | [] =>
      match buildPayload w.config.measurement api with
      | none => some { w with main := .idle }
      | some text => some { w with
          built := w.built ++ [text]
          latest := some (.payload w.built.length text)
          main := .pushing (.payload w.built.length text) }
  | .pushing item => some { w with
      queue := w.queue ++ [item]
      main := .idle }
  | .joining =>
    match w.worker with
    | .stopped => some { w with main := .reaping }
    | _ => none
  | .reaping =>
    match w.queue with
    | [] => some { w with main := .freed }
    | pending :: rest => some { w with
        queue := rest
        freed := if pending = .quit then w.freed else w.freed ++ [pending] }

omit [SampleArith V D] [RenderArith V T] in
/-- The worker goes on; `none` where it waits or has stopped. -/
def workerStep (w : InfluxThreads V D) : Option (InfluxThreads V D) :=
  match w.worker with
  | .popping =>
    match w.queue with
    | [] => none
    | item :: rest => some { w with
        queue := rest
        taken := w.taken ++ [item]
        worker := if item = .quit then .stopped else .popped item }
  -- settings can change while the worker blocks on the network
  | .popped item => some { w with worker := .sending w.config item }
  | .sending config item => some { w with
      written := if config.enabled ∧ config.url ≠ [] then w.written ++ [item] else w.written
      worker := .sent item }
  | .sent item => some { w with freed := w.freed ++ [item], worker := .popping }
  | .stopped => none

/-- One operation of either thread. -/
def step (w : InfluxThreads V D) (event : InfluxEvent V D) : Option (InfluxThreads V D) :=
  match event with
  | .worker => w.workerStep
  | .main => w.mainStep
  | .tick _ _ | .apply _ | .free =>
    match w.main with
    | .idle => some (w.call event)
    | _ => none

end Steps

/-- `influx_new`. -/
def new : InfluxThreads V D where
  config := ⟨false, .v1, [], [], [], [], [], [], [], 0⟩
  stopping := false
  lastWrite := 0
  state := Lib.ascii "disabled"
  queue := []
  main := .idle
  worker := .popping
  built := []
  latest := none
  taken := []
  written := []
  freed := []

end InfluxThreads

/-- What holds of the queue whatever the threads do: it has at most one payload; the worker takes
payloads in the order they were built, none of them twice; what the last tick built is the newest
payload, and once `influx_tick` has pushed it and returned, it is in the queue by itself or has been
taken; and the marker ends the worker and is neither written nor freed. -/
structure KeepsNewest {V D : Type} (w : InfluxThreads V D) : Prop where
  onePayload : (payloadsOf w.queue).length ≤ 1
  inOrder : (payloadsOf w.taken).Sublist (builtItems w.built)
  noneTwice : (payloadsOf w.taken).Nodup
  newest : ∀ item, w.latest = some item → item.isPayload ∧
    (builtItems w.built).getLast? = some item ∧
    (w.main = .pushing item ∨ payloadsOf w.queue = [item] ∨
      payloadsOf w.queue = [] ∧ item ∈ w.taken)
  stops : w.worker = .stopped ↔ .quit ∈ w.taken
  notWritten : .quit ∉ w.written
  notFreed : .quit ∉ w.freed

/-- The payload that the main thread is about to push. -/
def MainPoint.pending {V D : Type} : MainPoint V D → List QueueItem
  | .pushing item => [item]
  | _ => []

/-- The item that the worker has popped and not freed. -/
def WorkerPoint.holds (item : QueueItem) : WorkerPoint → Prop
  | .popped held | .sending _ held | .sent held => held = item
  | .popping | .stopped => False

section Builds

variable (built : List Bytes) (text : Bytes)

theorem builtItems_append :
    builtItems (built ++ [text]) = builtItems built ++ [.payload built.length text] := by
  rw [builtItems, List.zipIdx_append, List.map_append, builtItems]
  simp

theorem isPayload_of_mem_builtItems {item : QueueItem} (h : item ∈ builtItems built) :
    item.isPayload = true := by
  obtain ⟨entry, -, rfl⟩ := List.mem_map.mp h
  rfl

theorem nodup_builtItems : (builtItems built).Nodup := by
  induction built using List.reverseRecOn with
  | nil => exact List.nodup_nil
  | append_singleton built text ih =>
    rw [builtItems_append, List.nodup_append]
    refine ⟨ih, List.nodup_singleton _, ?_⟩
    rintro item hitem other hother rfl
    obtain ⟨⟨text', serial⟩, hentry, heq⟩ := List.mem_map.mp hitem
    rw [List.mem_singleton.mp hother] at heq
    obtain ⟨rfl, -⟩ := QueueItem.payload.inj heq
    have hlt := (List.mem_zipIdx hentry).2.1
    simp at hlt

end Builds

/-- Where the items are at each point of the main thread. -/
def QueueShape {V D : Type} (w : InfluxThreads V D) : Prop :=
  match w.main with
  | .idle => w.worker ≠ .stopped ∧ w.queue.length ≤ 1 ∧ ∀ item ∈ w.queue, item.isPayload
  | .draining _ => w.worker ≠ .stopped ∧ w.latest = none ∧ w.queue.length ≤ 1 ∧
      ∀ item ∈ w.queue, item.isPayload
  | .pushing item => w.worker ≠ .stopped ∧ w.latest = some item ∧ w.queue = [] ∧
      (builtItems w.built).getLast? = some item
  | .joining => w.worker ≠ .stopped ∧ (∃ payloads, w.queue = payloads ++ [.quit] ∧
      payloads.length ≤ 1 ∧ ∀ item ∈ payloads, item.isPayload) ∨ w.worker = .stopped ∧ w.queue = []
  | .reaping | .freed => w.worker = .stopped ∧ w.queue = []

/-- The invariant of both threads. -/
structure QueueInv {V D : Type} (w : InfluxThreads V D) : Prop where
  shape : QueueShape w
  held : ∀ item, w.worker.holds item → item.isPayload
  order : (payloadsOf (w.taken ++ w.queue ++ w.main.pending)).Sublist (builtItems w.built)
  newest : ∀ item, w.latest = some item → item.isPayload ∧
    (builtItems w.built).getLast? = some item ∧
    (w.main = .pushing item ∨ payloadsOf w.queue = [item] ∨
      payloadsOf w.queue = [] ∧ item ∈ w.taken)
  stops : w.worker = .stopped ↔ .quit ∈ w.taken
  notWritten : .quit ∉ w.written
  notFreed : .quit ∉ w.freed

namespace InfluxThreads

variable {V D T : Type} {w w' : InfluxThreads V D}

theorem ne_quit {item : QueueItem} (h : item.isPayload = true) : item ≠ .quit := by
  rintro rfl
  cases h

theorem payloadsOf_append (l l' : List QueueItem) :
    payloadsOf (l ++ l') = payloadsOf l ++ payloadsOf l' := List.filter_append _ _

theorem payloadsOf_eq_self {l : List QueueItem} (h : ∀ item ∈ l, item.isPayload) :
    payloadsOf l = l := List.filter_eq_self.mpr h

theorem queueInv_new : QueueInv (new : InfluxThreads V D) where
  shape := ⟨nofun, Nat.zero_le _, fun _ h => absurd h List.not_mem_nil⟩
  held _ h := h.elim
  order := List.nil_sublist _
  newest _ h := by cases h
  stops := iff_of_false nofun List.not_mem_nil
  notWritten := List.not_mem_nil
  notFreed := List.not_mem_nil

/-- Outside of the push of `influx_tick`, what the last one built is queued or taken. -/
theorem QueueInv.queued (h : QueueInv w) (hmain : ∀ item, w.main ≠ .pushing item)
    (item : QueueItem) (hlatest : w.latest = some item) : item.isPayload ∧
      (builtItems w.built).getLast? = some item ∧
      (payloadsOf w.queue = [item] ∨ payloadsOf w.queue = [] ∧ item ∈ w.taken) := by
  obtain ⟨hpayload, hlast, hwhere⟩ := h.newest item hlatest
  exact ⟨hpayload, hlast, hwhere.resolve_left (hmain item)⟩

/-- A pop leaves the items in their places: a payload in the worker's hand, or the worker stopped
and nothing behind the marker. -/
theorem queueShape_pop (h : QueueShape w) {item : QueueItem} {rest taken : List QueueItem}
    (hqueue : w.queue = item :: rest) :
    QueueShape { w with
      queue := rest
      taken := taken
      worker := if item = .quit then .stopped else .popped item } := by
  have hpayload : ∀ l, w.queue.length ≤ 1 → (∀ item ∈ w.queue, item.isPayload) →
      (if item = .quit then WorkerPoint.stopped else .popped item) = l →
      l ≠ .stopped ∧ rest.length ≤ 1 ∧ ∀ item ∈ rest, item.isPayload := by
    rintro l hlength hall rfl
    rw [hqueue] at hlength hall
    rw [if_neg (ne_quit (hall item List.mem_cons_self))]
    exact ⟨nofun, (Nat.le_succ _).trans hlength, fun _ h => hall _ (List.mem_cons_of_mem _ h)⟩
  cases hmain : w.main with
  | idle =>
    rw [QueueShape, hmain] at h
    exact hpayload _ h.2.1 h.2.2 rfl
  | draining api =>
    rw [QueueShape, hmain] at h
    exact ⟨(hpayload _ h.2.2.1 h.2.2.2 rfl).1, h.2.1, (hpayload _ h.2.2.1 h.2.2.2 rfl).2⟩
  | pushing item =>
    rw [QueueShape, hmain] at h
    rw [h.2.2.1] at hqueue
    cases hqueue
  | joining =>
    rw [QueueShape, hmain] at h
    rcases h with ⟨-, payloads, hsplit, hlength, hall⟩ | ⟨-, hempty⟩
    · rw [hqueue] at hsplit
      cases payloads with
      | nil =>
        obtain ⟨rfl, rfl⟩ := List.cons.inj hsplit
        exact Or.inr ⟨rfl, rfl⟩
      | cons payload payloads =>
        obtain ⟨rfl, rfl⟩ := List.cons.inj hsplit
        rw [if_neg (ne_quit (hall item List.mem_cons_self))]
        exact Or.inl ⟨nofun, payloads, rfl, (Nat.le_succ _).trans hlength,
          fun _ h => hall _ (List.mem_cons_of_mem _ h)⟩
    · rw [hempty] at hqueue
      cases hqueue
  | reaping =>
    rw [QueueShape, hmain] at h
    rw [h.2] at hqueue
    cases hqueue
  | freed =>
    rw [QueueShape, hmain] at h
    rw [h.2] at hqueue
    cases hqueue

theorem queueInv_pop (h : QueueInv w) {item : QueueItem} {rest : List QueueItem}
    (hworker : w.worker = .popping) (hqueue : w.queue = item :: rest) :
    QueueInv { w with
      queue := rest
      taken := w.taken ++ [item]
      worker := if item = .quit then .stopped else .popped item } where
  shape := queueShape_pop h.shape hqueue
  held other hother := by
    by_cases hitem : item = .quit
    · rw [if_pos hitem] at hother
      exact hother.elim
    · rw [if_neg hitem] at hother
      obtain rfl : item = other := hother
      cases item with
      | payload => rfl
      | quit => exact absurd rfl hitem
  order := by
    have horder := h.order
    rw [hqueue] at horder
    simpa only [List.append_assoc, List.cons_append, List.nil_append] using horder
  newest latest hlatest := by
    obtain ⟨hpayload, hlast, hwhere⟩ := h.newest latest hlatest
    refine ⟨hpayload, hlast, ?_⟩
    rw [hqueue] at hwhere
    dsimp only
    cases item with
    | quit =>
      exact hwhere.imp id (Or.imp id (And.imp id fun hmem => List.mem_append_left _ hmem))
    | payload serial text =>
      refine hwhere.imp id fun hqueued => Or.inr ?_
      rcases hqueued with hfirst | ⟨hempty, -⟩
      · obtain ⟨rfl, hrest⟩ := List.cons.inj hfirst
        exact ⟨hrest, List.mem_append_right _ List.mem_cons_self⟩
      · cases hempty
  stops := by
    have hbefore : .quit ∉ w.taken := fun hmem => by
      have := h.stops.mpr hmem
      rw [hworker] at this
      cases this
    dsimp only
    rw [List.mem_append, List.mem_singleton]
    by_cases hitem : item = .quit
    · exact iff_of_true (if_pos hitem) (Or.inr hitem.symm)
    · rw [if_neg hitem]
      exact iff_of_false nofun fun hmem => hmem.elim hbefore fun heq => hitem heq.symm
  notWritten := h.notWritten
  notFreed := h.notFreed

/-- Between two pops the worker goes on without the queue. -/
theorem queueInv_worker (h : QueueInv w) {worker : WorkerPoint} {written freed : List QueueItem}
    (hbefore : w.worker ≠ .stopped) (hafter : worker ≠ .stopped)
    (hheld : ∀ item, worker.holds item → item.isPayload) (hwritten : .quit ∉ written)
    (hfreed : .quit ∉ freed) :
    QueueInv { w with worker := worker, written := written, freed := freed } where
  shape := by
    have hshape := h.shape
    cases hmain : w.main <;> rw [QueueShape, hmain] at hshape
    case idle => exact ⟨hafter, hshape.2⟩
    case draining => exact ⟨hafter, hshape.2⟩
    case pushing => exact ⟨hafter, hshape.2⟩
    case joining => exact Or.inl ⟨hafter, (hshape.resolve_right fun hstop => hbefore hstop.1).2⟩
    case reaping => exact absurd hshape.1 hbefore
    case freed => exact absurd hshape.1 hbefore
  held := hheld
  order := h.order
  newest := h.newest
  stops := iff_of_false hafter fun hmem => hbefore (h.stops.mpr hmem)
  notWritten := hwritten
  notFreed := hfreed

theorem notMem_append_payload {l : List QueueItem} {item : QueueItem} (h : .quit ∉ l)
    (hitem : item.isPayload = true) : .quit ∉ l ++ [item] := by
  rw [List.mem_append, List.mem_singleton]
  exact fun hmem => hmem.elim h fun heq => ne_quit hitem heq.symm

/-- The four operations of the worker. -/
theorem workerStep_cases (hstep : w.workerStep = some w') :
    (∃ item rest, w.worker = .popping ∧ w.queue = item :: rest ∧ w' = { w with
      queue := rest
      taken := w.taken ++ [item]
      worker := if item = .quit then .stopped else .popped item }) ∨
    (∃ item, w.worker = .popped item ∧ w' = { w with worker := .sending w.config item }) ∨
    (∃ config item, w.worker = .sending config item ∧ w' = { w with
      written := if config.enabled ∧ config.url ≠ [] then w.written ++ [item] else w.written
      worker := .sent item }) ∨
    (∃ item, w.worker = .sent item ∧ w' = { w with
      freed := w.freed ++ [item]
      worker := .popping }) := by
  rw [workerStep] at hstep
  cases hworker : w.worker with
  | popping =>
    rw [hworker] at hstep
    cases hqueue : w.queue with
    | nil =>
      rw [hqueue] at hstep
      cases hstep
    | cons item rest =>
      rw [hqueue] at hstep
      exact Or.inl ⟨item, rest, rfl, rfl, (Option.some.inj hstep).symm⟩
  | popped item =>
    rw [hworker] at hstep
    exact Or.inr (Or.inl ⟨item, rfl, (Option.some.inj hstep).symm⟩)
  | sending config item =>
    rw [hworker] at hstep
    exact Or.inr (Or.inr (Or.inl ⟨config, item, rfl, (Option.some.inj hstep).symm⟩))
  | sent item =>
    rw [hworker] at hstep
    exact Or.inr (Or.inr (Or.inr ⟨item, rfl, (Option.some.inj hstep).symm⟩))
  | stopped =>
    rw [hworker] at hstep
    cases hstep

theorem queueInv_workerStep (h : QueueInv w) (hstep : w.workerStep = some w') : QueueInv w' := by
  rcases workerStep_cases hstep with ⟨item, rest, hworker, hqueue, rfl⟩ | ⟨item, hworker, rfl⟩ |
    ⟨config, item, hworker, rfl⟩ | ⟨item, hworker, rfl⟩
  · exact queueInv_pop h hworker hqueue
  · have hheld := h.held item (by rw [hworker]; rfl)
    exact queueInv_worker h (by rw [hworker]; nofun) nofun (fun _ hother => hother ▸ hheld)
      h.notWritten h.notFreed
  · have hheld := h.held item (by rw [hworker]; rfl)
    refine queueInv_worker h (by rw [hworker]; nofun) nofun (fun _ hother => hother ▸ hheld) ?_
      h.notFreed
    split
    · exact notMem_append_payload h.notWritten hheld
    · exact h.notWritten
  · have hheld := h.held item (by rw [hworker]; rfl)
    exact queueInv_worker h (by rw [hworker]; nofun) nofun (fun _ hother => hother.elim)
      h.notWritten (notMem_append_payload h.notFreed hheld)

/-- What holds while `influx_tick` drains. -/
theorem draining_spec (h : QueueInv w) {api : Api V D} (hmain : w.main = .draining api) :
    w.worker ≠ .stopped ∧ w.latest = none ∧ w.queue.length ≤ 1 ∧
      (∀ item ∈ w.queue, item.isPayload) ∧
      (payloadsOf (w.taken ++ w.queue)).Sublist (builtItems w.built) := by
  have hshape := h.shape
  rw [QueueShape, hmain] at hshape
  have hpending : w.main.pending = [] := by rw [hmain]; rfl
  have horder := h.order
  rw [hpending, List.append_nil] at horder
  exact ⟨hshape.1, hshape.2.1, hshape.2.2.1, hshape.2.2.2, horder⟩

theorem newest_of_none {P : QueueItem → Prop} (hlatest : w.latest = none) :
    ∀ item, w.latest = some item → P item := fun item hsome => by
  rw [hlatest] at hsome
  cases hsome

/-- `influx_tick` frees a stale payload. -/
theorem queueInv_drop (h : QueueInv w) {api : Api V D} (hmain : w.main = .draining api)
    {stale : QueueItem} {rest : List QueueItem} (hqueue : w.queue = stale :: rest) :
    QueueInv { w with queue := rest, freed := w.freed ++ [stale] } := by
  obtain ⟨hworker, hlatest, hlength, hall, horder⟩ := draining_spec h hmain
  rw [hqueue] at hlength hall horder
  have hrest : rest = [] :=
    List.length_eq_zero_iff.mp (Nat.le_zero.mp (Nat.le_of_succ_le_succ hlength))
  subst hrest
  exact {
    shape := by
      rw [QueueShape, hmain]
      exact ⟨hworker, hlatest, Nat.zero_le _, fun _ h => absurd h List.not_mem_nil⟩
    held := h.held
    order := by
      have hpending : w.main.pending = [] := by rw [hmain]; rfl
      rw [hpending, List.append_nil, List.append_nil]
      exact List.Sublist.trans (List.Sublist.filter _ (List.sublist_append_left _ _)) horder
    newest := newest_of_none hlatest
    stops := h.stops
    notWritten := h.notWritten
    notFreed := notMem_append_payload h.notFreed (hall stale List.mem_cons_self) }

/-- `influx_tick` has nothing to send. -/
theorem queueInv_unbuilt (h : QueueInv w) {api : Api V D} (hmain : w.main = .draining api) :
    QueueInv ({ w with main := .idle } : InfluxThreads V D) := by
  obtain ⟨hworker, hlatest, hlength, hall, horder⟩ := draining_spec h hmain
  exact {
    shape := ⟨hworker, hlength, hall⟩
    held := h.held
    order := by
      dsimp only [MainPoint.pending]
      rwa [List.append_nil]
    newest := newest_of_none hlatest
    stops := h.stops
    notWritten := h.notWritten
    notFreed := h.notFreed }

/-- `influx_tick` has a new payload in its hand, and the queue is empty. -/
theorem queueInv_build (h : QueueInv w) {api : Api V D} (hmain : w.main = .draining api)
    (hqueue : w.queue = []) (text : Bytes) :
    QueueInv ({ w with
      built := w.built ++ [text]
      latest := some (.payload w.built.length text)
      main := .pushing (.payload w.built.length text) } : InfluxThreads V D) := by
  obtain ⟨hworker, -, -, -, horder⟩ := draining_spec h hmain
  have hbuilt : (builtItems (w.built ++ [text])).getLast? =
      some (.payload w.built.length text) := by
    rw [builtItems_append]
    exact List.getLast?_concat
  exact {
    shape := ⟨hworker, rfl, hqueue, hbuilt⟩
    held := h.held
    order := by
      rw [builtItems_append, payloadsOf_append]
      exact horder.append (List.Sublist.refl _)
    newest := fun item hsome => by
      obtain rfl := Option.some.inj hsome
      exact ⟨rfl, hbuilt, Or.inl rfl⟩
    stops := h.stops
    notWritten := h.notWritten
    notFreed := h.notFreed }

section Steps

variable [SampleArith V D] [RenderArith V T]

/-- An operation of `influx_tick`. -/
theorem queueInv_draining (h : QueueInv w) {api : Api V D} (hmain : w.main = .draining api)
    (hstep : w.mainStep = some w') : QueueInv w' := by
  rw [mainStep, hmain] at hstep
  cases hqueue : w.queue with
  | cons stale rest =>
    rw [hqueue] at hstep
    obtain rfl := Option.some.inj hstep
    rw [← hmain]
    exact queueInv_drop h hmain hqueue
  | nil =>
    rw [hqueue] at hstep
    dsimp only at hstep
    cases hbuild : buildPayload w.config.measurement api with
    | none =>
      rw [hbuild] at hstep
      obtain rfl := Option.some.inj hstep
      rw [← hqueue]
      exact queueInv_unbuilt h hmain
    | some text =>
      rw [hbuild] at hstep
      obtain rfl := Option.some.inj hstep
      rw [← hqueue]
      exact queueInv_build h hmain hqueue text

omit [SampleArith V D] [RenderArith V T] in
theorem queueInv_push (h : QueueInv w) {item : QueueItem} (hmain : w.main = .pushing item) :
    QueueInv ({ w with queue := w.queue ++ [item], main := .idle } : InfluxThreads V D) := by
  obtain ⟨hworker, hlatest, hqueue, hlast⟩ : w.worker ≠ .stopped ∧ w.latest = some item ∧
      w.queue = [] ∧ (builtItems w.built).getLast? = some item := by
    have hshape := h.shape
    rwa [QueueShape, hmain] at hshape
  have hpayload := isPayload_of_mem_builtItems _ (List.mem_of_getLast? hlast)
  have hone : ∀ other ∈ [item], other.isPayload := fun _ hmem =>
    List.mem_singleton.mp hmem ▸ hpayload
  have horder := h.order
  rw [hmain, hqueue, List.append_nil, MainPoint.pending] at horder
  rw [hqueue, List.nil_append]
  exact {
    shape := ⟨hworker, le_rfl, hone⟩
    held := h.held
    order := by
      dsimp only [MainPoint.pending]
      rwa [List.append_nil]
    newest := fun other hsome => by
      obtain rfl := Option.some.inj (hlatest.symm.trans hsome)
      exact ⟨hpayload, hlast, Or.inr (Or.inl (payloadsOf_eq_self hone))⟩
    stops := h.stops
    notWritten := h.notWritten
    notFreed := h.notFreed }

/-- `influx_free` goes on once the worker has stopped. -/
theorem mainStep_joining (hmain : w.main = .joining) (hstep : w.mainStep = some w') :
    w.worker = .stopped ∧ w' = { w with main := .reaping } := by
  rw [mainStep, hmain] at hstep
  cases hworker : w.worker with
  | stopped =>
    rw [hworker] at hstep
    obtain rfl := Option.some.inj hstep
    exact ⟨rfl, rfl⟩
  | _ =>
    rw [hworker] at hstep
    cases hstep

/-- There is nothing left to free where the queue is empty. -/
theorem mainStep_reaping (hmain : w.main = .reaping) (hqueue : w.queue = [])
    (hstep : w.mainStep = some w') : w' = { w with main := .freed } := by
  rw [mainStep, hmain, hqueue] at hstep
  obtain rfl := Option.some.inj hstep
  rw [hqueue]

theorem queueInv_mainStep (h : QueueInv w) (hstep : w.mainStep = some w') : QueueInv w' := by
  have hshape := h.shape
  have horder := h.order
  cases hmain : w.main with
  | idle =>
    rw [mainStep, hmain] at hstep
    cases hstep
  | draining api => exact queueInv_draining h hmain hstep
  | pushing item =>
    rw [mainStep, hmain] at hstep
    obtain rfl := Option.some.inj hstep
    exact queueInv_push h hmain
  | joining =>
    obtain ⟨hworker, rfl⟩ := mainStep_joining hmain hstep
    rw [QueueShape, hmain] at hshape
    rw [hmain] at horder
    have hqueued := QueueInv.queued h (by simp [hmain])
    exact { h with
      shape := hshape.resolve_left fun hleft => hleft.1 hworker
      order := horder
      newest := fun item hsome => (hqueued item hsome).imp id (And.imp id Or.inr) }
  | reaping =>
    rw [QueueShape, hmain] at hshape
    obtain rfl := mainStep_reaping hmain hshape.2 hstep
    rw [hmain] at horder
    have hqueued := QueueInv.queued h (by simp [hmain])
    exact { h with
      shape := hshape
      order := horder
      newest := fun item hsome => (hqueued item hsome).imp id (And.imp id Or.inr) }
  | freed =>
    rw [mainStep, hmain] at hstep
    cases hstep

omit [SampleArith V D] [RenderArith V T] in
theorem queueInv_call (h : QueueInv w) (hmain : w.main = .idle) (event : InfluxEvent V D) :
    QueueInv (w.call event) := by
  obtain ⟨hworker, hlength, hall⟩ : w.worker ≠ .stopped ∧ w.queue.length ≤ 1 ∧
      ∀ item ∈ w.queue, item.isPayload := by
    have hshape := h.shape
    rwa [QueueShape, hmain] at hshape
  have horder := h.order
  rw [hmain] at horder
  cases event with
  | tick api now =>
    rw [call]
    split
    · exact { h with
        shape := ⟨hworker, rfl, hlength, hall⟩
        order := horder
        newest := nofun }
    · exact h
  | apply config =>
    exact { h with
      shape := by
        rw [call, QueueShape, hmain]
        exact ⟨hworker, hlength, hall⟩
      order := h.order }
  | free =>
    exact { h with
      shape := Or.inl ⟨hworker, w.queue, rfl, hlength, hall⟩
      order := by
        have hquit : payloadsOf [.quit] = [] := rfl
        dsimp only [call, MainPoint.pending]
        rw [List.append_nil, ← List.append_assoc, payloadsOf_append, hquit, List.append_nil]
        exact List.append_nil (w.taken ++ w.queue) ▸ horder
      newest := fun item hsome => by
        have hquit : payloadsOf (w.queue ++ [.quit]) = payloadsOf w.queue := by
          rw [payloadsOf_append]
          exact List.append_nil _
        have hqueued := QueueInv.queued h (by simp [hmain]) _ hsome
        rw [← hquit] at hqueued
        exact hqueued.imp id (And.imp id Or.inr) }
  | main => exact h
  | worker => exact h

/-- A call begins outside of other calls. -/
theorem step_call {event : InfluxEvent V D} (hstep : w.step event = some w') :
    event = .worker ∧ w.workerStep = some w' ∨ event = .main ∧ w.mainStep = some w' ∨
      w.main = .idle ∧ w' = w.call event := by
  cases event with
  | worker => exact Or.inl ⟨rfl, hstep⟩
  | main => exact Or.inr (Or.inl ⟨rfl, hstep⟩)
  | _ =>
    refine Or.inr (Or.inr ?_)
    cases hmain : w.main <;> rw [step, hmain] at hstep
    case idle => exact ⟨rfl, (Option.some.inj hstep).symm⟩
    all_goals cases hstep

end Steps

section Shutdown

variable [SampleArith V D] [RenderArith V T]

end Shutdown

end InfluxThreads

open InfluxThreads

theorem QueueInv.keepsNewest {V D : Type} {w : InfluxThreads V D} (h : QueueInv w) :
    KeepsNewest w where
  onePayload := by
    have hshape := h.shape
    have hle : ∀ l : List QueueItem, (payloadsOf l).length ≤ l.length := fun l =>
      List.length_filter_le _ _
    cases hmain : w.main <;> rw [QueueShape, hmain] at hshape
    case idle => exact (hle _).trans hshape.2.1
    case draining => exact (hle _).trans hshape.2.2.1
    case pushing => rw [hshape.2.2.1]; exact Nat.zero_le _
    case joining =>
      rcases hshape with ⟨-, payloads, hqueue, hlength, -⟩ | ⟨-, hqueue⟩
      · have hquit : payloadsOf [.quit] = [] := rfl
        rw [hqueue, payloadsOf_append, hquit, List.append_nil]
        exact (hle _).trans hlength
      · rw [hqueue]
        exact Nat.zero_le _
    case reaping => rw [hshape.2]; exact Nat.zero_le _
    case freed => rw [hshape.2]; exact Nat.zero_le _
  inOrder := by
    have horder := h.order
    rw [List.append_assoc, payloadsOf_append] at horder
    exact (List.sublist_append_left _ _).trans horder
  noneTwice := by
    have horder := h.order
    rw [List.append_assoc, payloadsOf_append] at horder
    exact (nodup_builtItems _).sublist ((List.sublist_append_left _ _).trans horder)
  newest := h.newest
  stops := h.stops
  notWritten := h.notWritten
  notFreed := h.notFreed

variable {V D T : Type} [SampleArith V D] [RenderArith V T]

omit [SampleArith V D] [RenderArith V T] in
theorem influxDue_eq_false {influx : Influx} {now : ℤ} : influxDue influx now = false ↔
    (influx.config.enabled = false ∨ influx.stopping = true ∨ influx.config.url = []) ∨
      influx.lastWrite ≠ 0 ∧ now - influx.lastWrite < influx.config.intervalS := by
  rw [influxDue]
  by_cases hurl : influx.config.url = [] <;> by_cases hlast : influx.lastWrite = 0 <;>
    cases influx.config.enabled <;> cases influx.stopping <;> simp [hurl, hlast]

/-- Draining an unshared queue. -/
theorem runFrom_draining {w : InfluxThreads V D} (api : Api V D) (hmain : w.main = .draining api) :
    runFrom step w (List.replicate w.queue.length .main) =
      some { w with queue := [], freed := w.freed ++ w.queue } := by
  obtain ⟨config, stopping, lastWrite, state, queue, main, worker, built, latest, taken, written,
    freed⟩ := w
  obtain rfl : main = .draining api := hmain
  dsimp only
  induction queue generalizing freed with
  | nil => rw [List.append_nil]; rfl
  | cons stale rest ih =>
    rw [List.length_cons, List.replicate_succ, runFrom]
    refine (ih (freed ++ [stale])).trans ?_
    rw [List.append_assoc, List.singleton_append]

/-- A tick before the clock is due does nothing. -/
theorem influxTick_not_due {influx : Influx} {now : ℤ} (api : Api V D)
    (hdue : influxDue influx now = false) :
    (influxTick influx api now).1 = influx := by
  rw [influxTick]
  by_cases hoff : influx.config.enabled = false ∨ influx.stopping = true ∨ influx.config.url = []
  · rw [if_pos hoff]
  · rw [if_neg hoff, if_pos ((influxDue_eq_false.mp hdue).resolve_left hoff)]

/-- A tick that is due leaves what it builds, if it builds anything. -/
theorem influxTick_due {influx : Influx} {now : ℤ} (api : Api V D)
    (hdue : influxDue influx now = true) : (influxTick influx api now).1 = { influx with
      lastWrite := now
      queue := (buildPayload influx.config.measurement api).toList } := by
  have hdone : influxDue influx now ≠ false := by simp [hdue]
  obtain ⟨hon, hlate⟩ := not_or.mp (mt influxDue_eq_false.mpr hdone)
  rw [influxTick, if_neg hon, if_neg hlate]

/-- A writer whose tick was due and has drained the queue. -/
def InfluxThreads.drained (w : InfluxThreads V D) (api : Api V D) (now : ℤ) : InfluxThreads V D :=
  { w with
    lastWrite := now
    latest := none
    main := .draining api
    queue := []
    freed := w.freed ++ w.queue }

/-- A tick that is due drains what nobody else takes. -/
theorem runFrom_tick_due {w : InfluxThreads V D} (hmain : w.main = .idle) (api : Api V D) (now : ℤ)
    (hdue : influxDue w.influx now = true) (rest : List (InfluxEvent V D)) :
    runFrom step w (.tick api now :: (List.replicate w.queue.length .main ++ rest)) =
      runFrom step (w.drained api now) rest := by
  have hcall : w.step (.tick api now) = some { w with
      lastWrite := now, latest := none, main := .draining api } := by
    rw [step, hmain, call, hdue]
    rfl
  rw [runFrom, hcall, Option.bind_some, Lib.runFrom_append]
  exact congrArg (Option.bind · fun w => runFrom step w rest)
    (runFrom_draining (w := { w with lastWrite := now, latest := none, main := .draining api })
      api rfl)

/-- While the worker does nothing, the two threads do what `influxTick` says of one. -/
theorem tick_alone {w : InfluxThreads V D} (hmain : w.main = .idle) (api : Api V D) (now : ℤ) :
    ∃ n w', runFrom step w (.tick api now :: List.replicate n .main) = some w' ∧
      w'.main = .idle ∧ w'.influx = (influxTick w.influx api now).1 := by
  cases hdue : influxDue w.influx now with
  | false =>
    refine ⟨0, w, ?_, hmain, (influxTick_not_due api hdue).symm⟩
    rw [List.replicate_zero, runFrom, step, hmain, call, hdue]
    rfl
  | true =>
    cases hbuild : buildPayload w.config.measurement api with
    | none =>
      refine ⟨w.queue.length + 1, { w.drained api now with main := .idle }, ?_, rfl, ?_⟩
      · rw [List.replicate_succ', runFrom_tick_due hmain api now hdue, runFrom, step, mainStep]
        dsimp only [InfluxThreads.drained]
        rw [hbuild]
        rfl
      · rw [influxTick_due api hdue]
        dsimp only [influx]
        rw [hbuild]
        rfl
    | some text =>
      refine ⟨w.queue.length + 1 + 1, { w.drained api now with
        latest := some (.payload w.built.length text)
        main := .idle
        queue := [.payload w.built.length text]
        built := w.built ++ [text] }, ?_, rfl, ?_⟩
      · rw [List.replicate_succ', List.replicate_succ', List.append_assoc,
          runFrom_tick_due hmain api now hdue, List.singleton_append, runFrom, step, mainStep]
        dsimp only [InfluxThreads.drained]
        rw [hbuild]
        rfl
      · rw [influxTick_due api hdue]
        dsimp only [influx]
        rw [hbuild]
        rfl

end AxisMetrics
