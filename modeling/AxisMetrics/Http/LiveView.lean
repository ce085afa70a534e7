import AxisMetrics.Api.Answers
import AxisMetrics.Http.Viewer
import AxisMetrics.Lib.EventStream

/-!
# The live view

A browser that follows the event stream, from the sensors to its screen. A slow client misses frames
rather than stalling the sampler, but what it has read are samples in their order, each with the values
that were taken, and it is dropped before it is thirty samples behind (`liveView_run`).
-/

namespace AxisMetrics

open Lib (Bytes ascii Json Always Throughout jsonDocument eventData dataFrame)

/-- The app and the samples it has taken, as a reader gets them. -/
structure Watched where
  app : App CFloat Float CDouble
  samples : List Json

/-- The sample of an event. -/
def sampled (app : App CFloat Float CDouble) : LoopEvent CFloat CDouble → List Json
  | .main (.tick tick) =>
    [sampleValue (⟨tick.now, fun i => tick.values i⟩ : Row CFloat app.api.registry.count)]
  | _ => []

def watchStep (watched : Watched) (event : LoopEvent CFloat CDouble) : Option Watched :=
  (loopStep watched.app event).map fun next => ⟨next.1, watched.samples ++ sampled watched.app event⟩

/-- The document that a tick broadcasts. -/
def tickDocument (app : App CFloat Float CDouble) (tick : Tick CFloat CDouble) : Bytes :=
  apiCurrentJson { app.api with
    store := (storePush app.api.store ⟨tick.now, fun i => tick.values i⟩).1 }

/-- Each write of a tick takes the whole frame or nothing, and a rebuild finds what discovery finds on
some machine. -/
def KeepsStreams (watched : Watched) : LoopEvent CFloat CDouble → Prop
  | .main (.tick tick) => ∀ i < watched.app.sseClients.length, ∀ count,
      tick.writes i = .accepted count → 0 < count →
        (sseFrame (tickDocument watched.app tick)).length ≤ count
  | .main (.rebuild registry ..) => ∃ m : Machine, registry = m.registry
  | _ => True

/-- What a client can have shown by now: the samples since it connected, but for those that it has
just missed. -/
def dueSamples (samples : List Json) (client : SseClient) : List Json :=
  (samples.rtake client.offered.length).rdrop client.stalled

/-- What a browser has read from the stream of a client: samples taken since it connected, in
their order, and of those that are due the newest. -/
structure LiveView (samples : List Json) (client : SseClient) (shown : List Json) : Prop where
  reads : (eventData client.received).map jsonDocument = shown.map some
  inOrder : shown.Sublist (dueSamples samples client)
  newest : shown.getLast? = (dueSamples samples client).getLast?
  behind : client.stalled < SSE_MAX_STALLED

/-- A client that has received these documents. -/
structure Follows (samples : List Json) (client : SseClient) (documents : List Bytes)
    (shown : List Json) : Prop where
  received : client.received = documents.flatMap dataFrame
  oneLine : ∀ document ∈ documents, 10 ∉ document ∧ 13 ∉ document
  reads : documents.map jsonDocument = shown.map some
  inOrder : shown.Sublist (dueSamples samples client)
  newest : shown.getLast? = (dueSamples samples client).getLast?
  behind : client.stalled < SSE_MAX_STALLED

namespace Follows

variable {samples : List Json} {client client' : SseClient} {documents : List Bytes}
  {shown : List Json}

theorem liveView (h : Follows samples client documents shown) : LiveView samples client shown where
  reads := by rw [h.received, Lib.eventData_dataFrames h.oneLine, h.reads]
  inOrder := h.inOrder
  newest := h.newest
  behind := h.behind

/-- A client that was just added has nothing to show. -/
theorem added (samples : List Json) : Follows samples ⟨[], [], 0⟩ [] [] where
  received := rfl
  oneLine _ h := absurd h List.not_mem_nil
  reads := rfl
  inOrder := List.nil_sublist _
  newest := by rw [dueSamples, List.length_nil, List.rtake_zero, List.rdrop_nil]
  behind := by decide

/-- The turn of a client. A frame that it takes is the newest sample; one it misses is not due. -/
theorem write (h : Follows samples client documents shown) {document : Bytes} {sample : Json}
    (hline : 10 ∉ document ∧ 13 ∉ document) (hsample : jsonDocument document = some sample)
    {result : SocketWrite}
    (hwhole : ∀ count, result = .accepted count → 0 < count → (sseFrame document).length ≤ count)
    (hwrite : sseWrite client (sseFrame document) result = some client') :
    ∃ documents' shown', Follows (samples ++ [sample]) client' documents' shown' := by
  cases result with
  | accepted count =>
    simp only [sseWrite] at hwrite
    split_ifs at hwrite with htaken
    obtain rfl := Option.some.inj hwrite
    have hcount : 0 < count := by
      rw [List.length_take] at htaken
      omega
    have htake : (sseFrame document).take count = dataFrame document :=
      List.take_of_length_le (hwhole count rfl hcount)
    have hdue : ∀ received, dueSamples (samples ++ [sample])
        ⟨received, client.offered ++ [sseFrame document], 0⟩ =
          samples.rtake client.offered.length ++ [sample] := by
      intro received
      rw [dueSamples, List.length_append, List.length_singleton, List.rtake_concat_succ,
        List.rdrop_zero]
    refine ⟨documents ++ [document], shown ++ [sample], ?_, ?_, ?_, ?_, ?_, Nat.succ_pos 29⟩
    · rw [htake, h.received, List.flatMap_append, List.flatMap_singleton]
    · intro other hother
      obtain hold | rfl := (List.mem_append.mp hother).imp id List.mem_singleton.mp
      · exact h.oneLine other hold
      · exact hline
    · rw [List.map_append, List.map_append, h.reads, List.map_singleton, List.map_singleton, hsample]
    · rw [hdue]
      exact (h.inOrder.trans (List.take_sublist _ _)).append (List.Sublist.refl _)
    · rw [hdue, List.getLast?_concat, List.getLast?_concat]
  | wouldBlock =>
    simp only [sseWrite] at hwrite
    split_ifs at hwrite with hstalled
    obtain rfl := Option.some.inj hwrite
    have hdue : dueSamples (samples ++ [sample]) { client with
        stalled := client.stalled + 1
        offered := client.offered ++ [sseFrame document] } = dueSamples samples client := by
      rw [dueSamples, List.length_append, List.length_singleton, List.rtake_concat_succ,
        List.rdrop_concat_succ, dueSamples]
    refine ⟨documents, shown, h.received, h.oneLine, h.reads, ?_, ?_, Nat.lt_of_not_le hstalled⟩
    · rw [hdue]
      exact h.inOrder
    · rw [hdue]
      exact h.newest
  | failed => cases hwrite

end Follows

/-- What holds of the app: its metrics are what discovery finds, and every client follows the
samples. -/
structure Watched.Live (watched : Watched) : Prop where
  discovered : ∃ m : Machine, watched.app.api.registry = m.registry
  follows : ∀ client ∈ watched.app.sseClients,
    ∃ documents shown, Follows watched.samples client documents shown

namespace Watched.Live

variable {watched : Watched} {app' : App CFloat Float CDouble}

/-- A step that takes no sample, and at most adds a client. -/
theorem restream (h : watched.Live) {w : Bool}
    (hclients : app'.sseClients = watched.app.sseClients ∨
      app'.sseClients = sseAdd watched.app.sseClients w)
    (hdiscovered : ∃ m : Machine, app'.api.registry = m.registry) :
    Watched.Live ⟨app', watched.samples ++ []⟩ := by
  rw [List.append_nil]
  refine ⟨hdiscovered, fun client hclient => ?_⟩
  obtain hsame | hadded := hclients
  · rw [hsame] at hclient
    exact h.follows client hclient
  · rw [hadded, sseAdd] at hclient
    split at hclient
    · obtain rfl | hold := List.mem_cons.mp hclient
      · exact ⟨[], [], .added _⟩
      · exact h.follows client hold
    · exact h.follows client hclient

/-- A sample that is taken and broadcast. -/
theorem tick (h : watched.Live) {tick : Tick CFloat CDouble}
    (hwhole : KeepsStreams watched (.main (.tick tick))) :
    Watched.Live ⟨(onSampleTick watched.app tick).1,
      watched.samples ++ sampled watched.app (.main (.tick tick))⟩ := by
  refine ⟨h.discovered, fun client' hclient' => ?_⟩
  have hclean : ∀ i, CleanId (watched.app.api.registry.id i) := by
    obtain ⟨m, hm⟩ := h.discovered
    exact cleanId_of_discovered hm
  obtain ⟨i, hi, client, hclient, hwrite⟩ := mem_sseBroadcast hclient'
  obtain ⟨documents, shown, hfollows⟩ := h.follows client hclient
  exact hfollows.write (noControls_current _).oneLine (jsonDocument_current hclean _)
    (hwhole i hi) hwrite

end Watched.Live

/-- Of a request come at most a client and other rules, settings and choices. -/
theorem Handles.streams {env : RequestEnv} {body : Bytes} {readOnly : Bool}
    {handle : App CFloat Float CDouble → Option (Handled CFloat Float CDouble)}
    (h : Handles env body readOnly handle) {app : App CFloat Float CDouble}
    {handled : Handled CFloat Float CDouble} (hhandle : handle app = some handled) :
    (handled.app.sseClients = app.sseClients ∨
      handled.app.sseClients = sseAdd app.sseClients env.written) ∧
        handled.app.api.registry = app.api.registry := by
  cases h with
  | document render =>
    obtain rfl := Option.some.inj hhandle
    exact ⟨Or.inl rfl, rfl⟩
  | stream =>
    obtain rfl := Option.some.inj hhandle
    exact ⟨Or.inr rfl, rfl⟩
  | settings =>
    obtain rfl := Option.some.inj hhandle
    exact ⟨Or.inl rfl, rfl⟩
  | postSettings =>
    obtain rfl := Option.some.inj hhandle
    simp only [App.postSettings]
    split
    · exact ⟨Or.inl rfl, rfl⟩
    · exact ⟨Or.inl rfl, rfl⟩
  | postRules =>
    obtain ⟨result, -, rfl⟩ := Option.map_eq_some_iff.mp hhandle
    exact ⟨Or.inl rfl, rfl⟩
  | postMetrics =>
    obtain rfl := Option.some.inj hhandle
    simp only [App.postMetrics]
    split
    · exact ⟨Or.inl rfl, rfl⟩
    · exact ⟨Or.inl rfl, rfl⟩

/-- One event keeps the view live. -/
theorem live_step {watched watched' : Watched} (h : watched.Live)
    {event : LoopEvent CFloat CDouble} (hkeeps : KeepsStreams watched event)
    (hstep : watchStep watched event = some watched') : watched'.Live := by
  obtain ⟨⟨app', effects⟩, hloop, rfl⟩ := Option.map_eq_some_iff.mp hstep
  cases event with
  | connection env segments readOnly =>
    obtain ⟨handled, hhandled, hsame⟩ := Option.map_eq_some_iff.mp hloop
    obtain rfl := (Prod.mk.inj hsame).1
    obtain ⟨hclients, hregistry⟩ :=
      (onHttpRequest_cases env segments readOnly).streams hhandled
    exact h.restream hclients (hregistry ▸ h.discovered)
  | main event =>
    cases event with
    | tick tick =>
      obtain rfl := (Prod.mk.inj (Option.some.inj hloop)).1
      exact h.tick hkeeps
    | request env request readOnly =>
      obtain ⟨handled, hhandled, hsame⟩ := Option.map_eq_some_iff.mp hloop
      obtain rfl := (Prod.mk.inj hsame).1
      obtain ⟨hclients, hregistry⟩ :=
        (handles_handleRequest env request readOnly).streams hhandled
      exact h.restream hclients (hregistry ▸ h.discovered)
    | connected =>
      obtain ⟨⟨next, published⟩, hnext, hsame⟩ := Option.map_eq_some_iff.mp hloop
      obtain rfl : next = app' := (Prod.mk.inj hsame).1
      obtain ⟨-, rfl, -⟩ := appStep_connected hnext
      exact h.restream (w := true) (Or.inl rfl) h.discovered
    | connectionLost =>
      obtain ⟨⟨next, published⟩, hnext, hsame⟩ := Option.map_eq_some_iff.mp hloop
      obtain rfl : next = app' := (Prod.mk.inj hsame).1
      obtain ⟨-, rfl, -⟩ := appStep_connectionLost hnext
      exact h.restream (w := true) (Or.inl rfl) h.discovered
    | parameterChanged created name value =>
      obtain rfl : (onParameterChanged watched.app created name value).1 = app' :=
        (Prod.mk.inj (Option.some.inj hloop)).1
      obtain ⟨parameters, sampler, mqtt, influx, heq⟩ :=
        onParameterChanged_eq watched.app created name value
      rw [heq]
      exact h.restream (w := true) (Or.inl rfl) h.discovered
    | rebuild registry events declare file memory persistPath history =>
      obtain rfl := (Prod.mk.inj (Option.some.inj hloop)).1
      exact h.restream (w := true) (Or.inl rfl) hkeeps
    | persistRetry persistPath history =>
      obtain rfl := (Prod.mk.inj (Option.some.inj hloop)).1
      obtain ⟨store, path, heq⟩ := retryPersistence_eq watched.app persistPath history
      rw [heq]
      exact h.restream (w := true) (Or.inl rfl) h.discovered
    | influxState outcome =>
      obtain rfl := (Prod.mk.inj (Option.some.inj hloop)).1
      exact h.restream (w := true) (Or.inl rfl) h.discovered

/-- Over any events of the main loop, a browser that follows the stream has read samples since it
connected, in their order, and is less than thirty samples behind. -/
theorem liveView_run {app : App CFloat Float CDouble} (hstreams : app.sseClients = [])
    {m : Machine} (hregistry : app.api.registry = m.registry)
    {events : List (LoopEvent CFloat CDouble)}
    (hrun : Throughout watchStep ⟨app, []⟩ events KeepsStreams) :
    Always watchStep ⟨app, []⟩ events fun watched => ∀ client ∈ watched.app.sseClients,
      ∃ shown, LiveView watched.samples client shown := by
  have hstart : Watched.Live ⟨app, []⟩ := by
    refine ⟨⟨m, hregistry⟩, fun client hclient => ?_⟩
    rw [show (Watched.mk app []).app.sseClients = [] from hstreams] at hclient
    cases hclient
  have hlive := Lib.always_of_step hstart (fun _ _ _ h hkeeps hstep => live_step h hkeeps hstep) hrun
  intro done watched hdone hreach client hclient
  obtain ⟨documents, shown, hfollows⟩ := (hlive done watched hdone hreach).follows client hclient
  exact ⟨shown, hfollows.liveView⟩

/-- A device on which nothing can be read. -/
def mutedApp : App CFloat Float CDouble where
  parameters := fun _ => none
  sampler := ⟨1, true⟩
  api := mutedApi
  alerts := ⟨[], false, false, Nat.zero_le _, List.nodup_nil⟩
  procs := ⟨[], 1⟩
  mqtt := mqttNew
  influx := ⟨⟨false, .v2, [], [], [], [], [], [], [], 30⟩, [], false, 0, ascii "disabled"⟩
  sseClients := []

/-- A tick that finds no reading. -/
def mutedTick (now : Int64) (writes : ℕ → SocketWrite) : Tick CFloat CDouble where
  now := now
  alertsNow := 0
  mqttNow := 0
  influxNow := 0
  values := fun _ => CFloat.nan
  writes := writes
  procs := ⟨[], 1⟩

/-- A viewer takes one frame and has no room for the next. -/
def followRun : List (LoopEvent CFloat CDouble) :=
  [.main (.request quietEnv ⟨ascii "GET", ascii "/stream", []⟩ true),
    .main (.tick (mutedTick 1000 fun _ => .accepted 64)),
    .main (.tick (mutedTick 1001 fun _ => .wouldBlock))]

theorem valuesObject_nan {registry : MetricRegistry} (now : Int64) : valuesObject (fun _ => true)
    (⟨now, fun _ => CFloat.nan⟩ : Row CFloat registry.count) = ascii "\x7b\x7d" := by
  have hnone : (List.finRange registry.count).filter (fun _ =>
      !SampleArith.isnan CFloat.nan && true) = [] := List.filter_false _
  dsimp only [valuesObject]
  rw [hnone]
  rfl

theorem tickDocument_mutedTick (app : App CFloat Float CDouble) (writes : ℕ → SocketWrite) :
    tickDocument app (mutedTick 1000 writes) =
      ascii "\x7b\"timestamp\":" ++ ascii "1000" ++ ascii ",\"values\":" ++ ascii "\x7b\x7d" ++
        ascii "\x7d" := by
  have htime : Lib.decimalInt (1000 : Int64).toInt = ascii "1000" := by
    simp [Lib.decimalInt, Lib.decimal, ascii]
  rw [← htime, ← valuesObject_nan]
  rfl

theorem liveView_followRun : Always watchStep ⟨mutedApp, []⟩ followRun fun watched =>
    ∀ client ∈ watched.app.sseClients, ∃ shown, LiveView watched.samples client shown := by
  have hregistry : mutedApp.api.registry = mutedMachine.registry := by rw [mutedApp, mutedApi]
  refine liveView_run rfl hregistry fun done event watched hdone _ => ?_
  have hevent : event ∈ followRun := hdone.subset (List.mem_append_right _ List.mem_cons_self)
  simp only [followRun, List.mem_cons, List.not_mem_nil, or_false] at hevent
  obtain rfl | rfl | rfl := hevent
  · trivial
  · intro i _ count hcount _
    rw [tickDocument_mutedTick, ← SocketWrite.accepted.inj hcount]
    decide
  · intro i _ count hcount
    cases hcount

end AxisMetrics
