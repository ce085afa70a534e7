import AxisMetrics.Http.Privacy
import AxisMetrics.Lib.Purge
import AxisMetrics.Tick

/-!
# Whoever views leaves no trace

The events of the app with the connections of both ports among them, and what each does outside.
Whatever connects to the port for viewers and whatever bytes it sends, the answers on the other port,
the MQTT messages and the Influx payloads are those of the run without these connections, and but
for the list of event streams so is the app (`noticed_connections`, `app_connections`).
-/

namespace AxisMetrics

open Lib (Bytes Alike Unnoticed noticed purge nextState runFrom)

/-- What an event does outside of the app. -/
inductive Effect where
  | answered (readOnly : Bool) (response : Bytes) (keepOpen : Bool)
  | message (message : MqttMessage)
  | payload (payload : Bytes)
  deriving DecidableEq

/-- An event of the main loop, or a connection with the reads that come from it. -/
inductive LoopEvent (V T : Type) where
  | main (event : AppEvent V T)
  | connection (env : RequestEnv) (segments : List Bytes) (readOnly : Bool)

/-- The event came in on the port for viewers. -/
def LoopEvent.viewer {V T : Type} : LoopEvent V T → Bool
  | .main (.request _ _ readOnly) => readOnly
  | .main _ => false
  | .connection _ _ readOnly => readOnly

/-- The effect is not an answer on the port for viewers. -/
def Effect.elsewhere : Effect → Bool
  | .answered readOnly _ _ => !readOnly
  | _ => true

/-- The messages and the payload of a step. -/
def Published.effects (published : Published) : List Effect :=
  published.messages.map Effect.message ++ published.payload.toList.map Effect.payload

variable {V D T : Type}

/-- The answer goes out before the settings take effect. -/
def Handled.effects (handled : Handled V D T) (readOnly : Bool) : List Effect :=
  .answered readOnly handled.response handled.keepOpen :: handled.messages.map Effect.message

variable [SampleArith V D] [RenderArith V T] [AlertArith V T]

/-- One event of the loop with its effects. -/
def loopStep (app : App V D T) : LoopEvent V T → Option (App V D T × List Effect)
  | .main (.request env request readOnly) =>
    (handleRequest env app request readOnly).map fun handled =>
      (handled.app, handled.effects readOnly)
  | .main event => (appStep app event).map fun next => (next.1, next.2.effects)
  | .connection env segments readOnly =>
    (onHttpRequest env app segments readOnly).map fun handled =>
      (handled.app, handled.effects readOnly)

/-- Two apps that differ at most in their event streams. -/
def SameButStreams (app app' : App V D T) : Prop :=
  ∃ sseClients, app' = { app with sseClients := sseClients }

omit [SampleArith V D] [RenderArith V T] [AlertArith V T] in
theorem sameButStreams_refl (app : App V D T) : SameButStreams app app := ⟨app.sseClients, rfl⟩

omit [SampleArith V D] [RenderArith V T] [AlertArith V T] in
/-- A change of the streams alone. -/
theorem SameButStreams.restream {app app' : App V D T} (h : SameButStreams app app')
    (sseClients : List SseClient) : SameButStreams { app with sseClients := sseClients } app' := by
  obtain ⟨clients, rfl⟩ := h
  exact ⟨clients, rfl⟩

omit [SampleArith V D] in
/-- On the port for viewers, a route answers and does no more than add a stream. -/
theorem Handles.hide {env : RequestEnv} {body : Bytes}
    {handle : App V D T → Option (Handled V D T)} (h : Handles env body true handle)
    (app : App V D T) :
    ∃ handled sseClients, handle app = some handled ∧ handled.messages = [] ∧
      handled.app = { app with sseClients := sseClients } := by
  cases h with
  | document render => exact ⟨_, app.sseClients, rfl, rfl, rfl⟩
  | stream => exact ⟨_, sseAdd app.sseClients env.written, rfl, rfl, rfl⟩
  | settings h => cases h
  | postSettings h => cases h
  | postRules h => cases h
  | postMetrics h => cases h

omit [SampleArith V D] in
/-- A route does not read the streams. -/
theorem Handles.alike_streams {env : RequestEnv} {body : Bytes} {readOnly : Bool}
    {handle : App V D T → Option (Handled V D T)} (h : Handles env body readOnly handle)
    {app app' : App V D T} (hsame : SameButStreams app app') :
    Alike SameButStreams
      ((handle app).map fun handled => (handled.app, handled.effects readOnly))
      ((handle app').map fun handled => (handled.app, handled.effects readOnly)) := by
  obtain ⟨clients, rfl⟩ := hsame
  cases h with
  | document render => exact Or.inr ⟨_, _, _, rfl, rfl, clients, rfl⟩
  | stream => exact Or.inr ⟨_, _, _, rfl, rfl, sseAdd clients env.written, rfl⟩
  | settings => exact Or.inr ⟨_, _, _, rfl, rfl, clients, rfl⟩
  | postSettings =>
    simp only [App.postSettings]
    split
    · exact Or.inr ⟨_, _, _, rfl, rfl, clients, rfl⟩
    · exact Or.inr ⟨_, _, _, rfl, rfl, clients, rfl⟩
  | postRules =>
    simp only [App.postRules]
    cases alertsApply V env.declare app.alerts body with
    | none => exact Or.inl ⟨rfl, rfl⟩
    | some result => exact Or.inr ⟨_, _, _, rfl, rfl, clients, rfl⟩
  | postMetrics =>
    simp only [App.postMetrics]
    split
    · exact Or.inr ⟨_, _, _, rfl, rfl, clients, rfl⟩
    · exact Or.inr ⟨_, _, _, rfl, rfl, clients, rfl⟩

omit [SampleArith V D] [RenderArith V T] [AlertArith V T] in
/-- A request on the port for viewers is answered, and nothing comes of it elsewhere. -/
theorem handled_hide {app app' : App V D T} (hsame : SameButStreams app app')
    {result : Option (Handled V D T)} {handled : Handled V D T} {sseClients : List SseClient}
    (hresult : result = some handled) (hmessages : handled.messages = [])
    (happ : handled.app = { app with sseClients := sseClients }) :
    ∃ t effects, (result.map fun handled => (handled.app, handled.effects true)) =
        some (t, effects) ∧ effects.filter Effect.elsewhere = [] ∧ SameButStreams t app' := by
  refine ⟨handled.app, handled.effects true, by rw [hresult]; rfl, ?_, ?_⟩
  · rw [Handled.effects, hmessages]
    rfl
  · rw [happ]
    exact hsame.restream sseClients

/-- The main loop does not read the streams, except to write to them. -/
theorem appStep_alike_streams {app app' : App V D T} (hsame : SameButStreams app app')
    (event : AppEvent V T) (hevent : ∀ env request readOnly, event ≠ .request env request readOnly) :
    Alike SameButStreams
      ((appStep app event).map fun next => (next.1, next.2.effects))
      ((appStep app' event).map fun next => (next.1, next.2.effects)) := by
  obtain ⟨clients, rfl⟩ := hsame
  cases event with
  | tick tick => exact Or.inr ⟨_, _, _, rfl, rfl, _, rfl⟩
  | request env request readOnly => exact absurd rfl (hevent env request readOnly)
  | connected =>
    simp only [appStep]
    split
    · exact Or.inr ⟨_, _, _, rfl, rfl, clients, rfl⟩
    · exact Or.inl ⟨rfl, rfl⟩
  | connectionLost =>
    simp only [appStep]
    split
    · exact Or.inr ⟨_, _, _, rfl, rfl, clients, rfl⟩
    · exact Or.inl ⟨rfl, rfl⟩
  | parameterChanged created name value =>
    simp only [appStep, onParameterChanged]
    split
    · exact Or.inr ⟨_, _, _, rfl, rfl, clients, rfl⟩
    · split
      · exact Or.inr ⟨_, _, _, rfl, rfl, clients, rfl⟩
      · exact Or.inr ⟨_, _, _, rfl, rfl, clients, rfl⟩
  | rebuild registry events declare file memory persistPath history =>
    exact Or.inr ⟨_, _, _, rfl, rfl, clients, rfl⟩
  | persistRetry persistPath history =>
    simp only [appStep, retryPersistence]
    split
    · exact Or.inr ⟨_, _, _, rfl, rfl, clients, rfl⟩
    · exact Or.inr ⟨_, _, _, rfl, rfl, clients, rfl⟩
  | influxState outcome => exact Or.inr ⟨_, _, _, rfl, rfl, clients, rfl⟩

/-- What comes of a connection once its bytes are read. -/
theorem onHttpRequest_cases (env : RequestEnv) (segments : List Bytes) (readOnly : Bool) :
    Handles env ((readRequest segments).elim [] Request.body) readOnly
      fun app : App V D T => onHttpRequest env app segments readOnly := by
  unfold onHttpRequest
  cases readRequest segments with
  | none => exact .document fun _ _ _ => badRequest
  | some request => exact handles_handleRequest env request readOnly

/-- The connections of viewers leave no trace in the app but their streams. -/
theorem unnoticed_viewer :
    Unnoticed (loopStep (V := V) (D := D) (T := T)) LoopEvent.viewer Effect.elsewhere
      SameButStreams where
  hide app app' event hsame hviewer := by
    cases event with
    | main event =>
      cases event with
      | request env request readOnly =>
        obtain rfl : readOnly = true := hviewer
        obtain ⟨handled, clients, hhandled, hmessages, happ⟩ :=
          (handles_handleRequest env request true).hide app
        exact handled_hide hsame hhandled hmessages happ
      | _ => cases hviewer
    | connection env segments readOnly =>
      obtain rfl : readOnly = true := hviewer
      obtain ⟨handled, clients, hhandled, hmessages, happ⟩ :=
        (onHttpRequest_cases env segments true).hide app
      exact handled_hide hsame hhandled hmessages happ
  visible app app' event hsame _ := by
    cases event with
    | main event =>
      cases event with
      | request env request readOnly =>
        exact (handles_handleRequest env request readOnly).alike_streams hsame
      | tick tick => exact appStep_alike_streams hsame (.tick tick) (by simp)
      | connected => exact appStep_alike_streams hsame .connected (by simp)
      | connectionLost => exact appStep_alike_streams hsame .connectionLost (by simp)
      | parameterChanged created name value =>
        exact appStep_alike_streams hsame (.parameterChanged created name value) (by simp)
      | rebuild registry events declare file memory persistPath history =>
        exact appStep_alike_streams hsame
          (.rebuild registry events declare file memory persistPath history) (by simp)
      | persistRetry persistPath history =>
        exact appStep_alike_streams hsame (.persistRetry persistPath history) (by simp)
      | influxState outcome => exact appStep_alike_streams hsame (.influxState outcome) (by simp)
    | connection env segments readOnly =>
      exact (onHttpRequest_cases env segments readOnly).alike_streams hsame

/-- What the app does elsewhere is the same without its viewers. -/
theorem noticed_connections (app : App V D T) (events : List (LoopEvent V T)) :
    noticed loopStep Effect.elsewhere app events =
        noticed loopStep Effect.elsewhere app (purge LoopEvent.viewer events) ∧
      Option.Rel SameButStreams (runFrom (nextState loopStep) app events)
        (runFrom (nextState loopStep) app (purge LoopEvent.viewer events)) :=
  ⟨Lib.noticed_purge unnoticed_viewer (sameButStreams_refl app) events,
    Lib.runFrom_purge unnoticed_viewer (sameButStreams_refl app) events⟩

end AxisMetrics
