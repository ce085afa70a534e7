import AxisMetrics.Http.Handler
import AxisMetrics.Lib.Observe
import AxisMetrics.Settings.RoundTrip

/-!
# What a client can learn

The viewer port changes nothing and shows nothing of the settings (`readOnly_blind`). On either port
the responses to any requests depend on the secrets only through whether they are empty
(`responses_eq_of_sameButSecrets`).
-/

namespace AxisMetrics

open Lib (Bytes ascii Alike)

variable {V D T : Type} [SampleArith V D] [RenderArith V T] [AlertArith V T]

/-- What a request is handled by, as a function of the app. Only the port for all settings has the
routes that show or change them. -/
inductive Handles (env : RequestEnv) (body : Bytes) (readOnly : Bool) :
    (App V D T → Option (Handled V D T)) → Prop where
  | document (render : Api V D → Alerts T → Procs T → Bytes) :
      Handles env body readOnly fun app =>
        some (app.respond (render app.api app.alerts app.procs))
  | stream : Handles env body readOnly fun app =>
      some ⟨{ app with sseClients := sseAdd app.sseClients env.written }, streamHeaders, true, []⟩
  | settings (h : readOnly = false) : Handles env body readOnly fun app =>
      some (app.respond (sendJson (settingsJson app.parameters)))
  | postSettings (h : readOnly = false) : Handles env body readOnly fun app =>
      some (app.postSettings env body)
  | postRules (h : readOnly = false) : Handles env body readOnly fun app =>
      app.postRules env body
  | postMetrics (h : readOnly = false) : Handles env body readOnly fun app =>
      some (app.postMetrics body)

omit [SampleArith V D] in
/-- Which route is taken does not depend on the app. -/
theorem handles_ite {env : RequestEnv} {body : Bytes} {readOnly : Bool} {c : Prop} [Decidable c]
    {f g : App V D T → Option (Handled V D T)} (hf : c → Handles env body readOnly f)
    (hg : ¬ c → Handles env body readOnly g) :
    Handles env body readOnly fun app => if c then f app else g app := by
  by_cases h : c
  · simp only [if_pos h]
    exact hf h
  · simp only [if_neg h]
    exact hg h

theorem handles_handleRequest (env : RequestEnv) (request : Request) (readOnly : Bool) :
    Handles env request.body readOnly fun app : App V D T =>
      handleRequest env app request readOnly := by
  unfold handleRequest
  refine handles_ite (fun _ => .document fun _ _ _ => forbidden) fun hguard => ?_
  have hview : readOnly = true → request.method = ascii "GET" ∧
      routeIs request.path (ascii "settings") = false := by
    intro hviewer
    simpa [hviewer] using hguard
  have hpost : request.method = ascii "POST" → readOnly = false := by
    intro hmethod
    by_contra hviewer
    have hget := (hview (by simpa using hviewer)).1
    exact absurd (hmethod.symm.trans hget) (by decide)
  simp only [Bool.and_eq_true, beq_iff_eq]
  refine handles_ite (fun h => .settings ?_) fun _ => ?_
  · by_contra hviewer
    exact absurd h.2 (by simp [hview (by simpa using hviewer)])
  refine handles_ite (fun h => .postSettings (hpost h.1)) fun _ => ?_
  refine handles_ite (fun _ => .document fun api _ _ => sendJson (apiMetaJson api)) fun _ => ?_
  refine handles_ite (fun _ => .document fun api _ _ => sendJson (apiCurrentJson api)) fun _ => ?_
  refine handles_ite (fun _ => .document fun api _ _ =>
    sendJson (seriesText (apiSeriesJson api.store env.now request.path))) fun _ => ?_
  refine handles_ite (fun _ => .document fun api _ _ => sendJson (apiHealthJson api env.now))
    fun _ => ?_
  refine handles_ite (fun _ => .document fun api _ _ => sendResponse (ascii "200 OK")
    (ascii "text/plain; version=0.0.4; charset=utf-8") (apiPrometheusText api)) fun _ => ?_
  refine handles_ite (fun _ => .document fun _ _ procs =>
    sendJson (procsJson V procs (processLimit request.path))) fun _ => ?_
  refine handles_ite (fun _ => .document fun _ alerts _ => sendJson (alertsJson V alerts))
    fun _ => ?_
  refine handles_ite (fun h => .postRules (hpost h.1)) fun _ => ?_
  refine handles_ite (fun h => .postMetrics (hpost h.1)) fun _ => ?_
  exact handles_ite (fun _ => .stream) fun _ => .document fun _ _ _ => notFound

omit [SampleArith V D] in
theorem Handles.blind {env : RequestEnv} {body : Bytes}
    {handle : App V D T → Option (Handled V D T)} (h : Handles env body true handle)
    (app : App V D T) :
    ∃ handled, handle app = some handled ∧
      handled.app.parameters = app.parameters ∧ handled.app.alerts = app.alerts ∧
      handled.app.api.selection = app.api.selection ∧
      ∀ parameters, ∃ handled', handle { app with parameters := parameters } = some handled' ∧
        handled'.response = handled.response ∧ handled'.keepOpen = handled.keepOpen := by
  cases h with
  | document render => exact ⟨_, rfl, rfl, rfl, rfl, fun _ => ⟨_, rfl, rfl, rfl⟩⟩
  | stream => exact ⟨_, rfl, rfl, rfl, rfl, fun _ => ⟨_, rfl, rfl, rfl⟩⟩
  | settings h => cases h
  | postSettings h => cases h
  | postRules h => cases h
  | postMetrics h => cases h

/-- A request on the viewer port is answered, changes neither parameters nor rules nor a selection,
and gets the same answer whatever the parameters are. -/
theorem readOnly_blind (env : RequestEnv) (app : App V D T) (request : Request) :
    ∃ handled, handleRequest env app request true = some handled ∧
      handled.app.parameters = app.parameters ∧ handled.app.alerts = app.alerts ∧
      handled.app.api.selection = app.api.selection ∧
      ∀ parameters, ∃ handled',
        handleRequest env { app with parameters := parameters } request true = some handled' ∧
          handled'.response = handled.response ∧ handled'.keepOpen = handled.keepOpen :=
  (handles_handleRequest env request true).blind app

/-- The parameters agree but for the values of secrets, each empty in both or in neither. -/
def SameParameters (values values' : ParameterValues) : Prop :=
  ∀ p ∈ PARAMETERS, if p.secret then
      (parameterValue values p.name = [] ↔ parameterValue values' p.name = [])
    else values p.name = values' p.name

/-- Two apps with the same parameters but for the secrets, and the same status strings. What the
sampler, the MQTT client and the Influx writer took from the parameters may differ. -/
structure SameButSecrets (app app' : App V D T) : Prop where
  parameters : SameParameters app.parameters app'.parameters
  api : app.api = app'.api
  alerts : app.alerts = app'.alerts
  procs : app.procs = app'.procs
  sseClients : app.sseClients = app'.sseClients

theorem settingsJson_congr {values values' : ParameterValues} (h : SameParameters values values') :
    settingsJson values = settingsJson values' := by
  have hentry : ∀ p ∈ PARAMETERS, settingsEntry values p = settingsEntry values' p := by
    intro p hp
    have hsame := h p hp
    unfold settingsEntry
    dsimp only
    split at hsame
    · next hsecret => simp only [hsecret, if_true, ne_eq, hsame]
    · next hplain =>
      have hvalue : parameterValue values p.name = parameterValue values' p.name := by
        rw [parameterValue_eq hp, parameterValue_eq hp, hsame]
      rw [hvalue]
  rw [settingsJson, settingsJson, List.map_congr_left hentry]

theorem SameParameters.update {values values' : ParameterValues} (h : SameParameters values values')
    (name : Bytes) (value : Option Bytes) :
    SameParameters (Function.update values name value) (Function.update values' name value) := by
  intro p hp
  have hsame := h p hp
  rw [parameterValue_eq hp, parameterValue_eq hp] at hsame ⊢
  by_cases hname : p.name = name
  · rw [hname, Function.update_self, Function.update_self]
    split <;> rfl
  · rwa [Function.update_of_ne hname, Function.update_of_ne hname]

/-- A settings body keeps parameters the same but for secrets. -/
theorem SameParameters.applySettingsBody {values values' : ParameterValues}
    (h : SameParameters values values') (axParameterSet : Bytes → Bytes → Bool) (body : Bytes) :
    SameParameters (AxisMetrics.applySettingsBody axParameterSet values body).1
      (AxisMetrics.applySettingsBody axParameterSet values' body).1 := by
  have hpair : ∀ (state state' : ParameterValues × Bool) (pair : Bytes),
      SameParameters state.1 state'.1 →
      SameParameters (applyPair axParameterSet state pair).1
        (applyPair axParameterSet state' pair).1 := by
    intro state state' pair hsame
    unfold applyPair
    split
    · dsimp only
      split
      · exact hsame
      · next p hfind =>
        rw [setParameter_eq_update, setParameter_eq_update]
        split
        · exact hsame.update _ _
        · exact hsame
    · exact hsame
  have hfold : ∀ (pairs : List Bytes) (state state' : ParameterValues × Bool),
      SameParameters state.1 state'.1 →
      SameParameters (pairs.foldl (applyPair axParameterSet) state).1
        (pairs.foldl (applyPair axParameterSet) state').1 := by
    intro pairs
    induction pairs with
    | nil => exact fun _ _ hsame => hsame
    | cons pair pairs ih => exact fun state state' hsame => ih _ _ (hpair state state' pair hsame)
  exact hfold _ _ _ h

/-- The request, the port it came in on and what it finds outside of the app. -/
structure Served where
  env : RequestEnv
  request : Request
  readOnly : Bool

/-- One request after another, with the responses. -/
def serveStep (app : App V D T) (served : Served) : Option (App V D T × Bytes) :=
  (handleRequest served.env app served.request served.readOnly).map fun handled =>
    (handled.app, handled.response)

omit [SampleArith V D] [RenderArith V T] [AlertArith V T] in
/-- What a settings body leaves alone, whether or not it changed something. -/
theorem postSettings_eq (app : App V D T) (env : RequestEnv) (body : Bytes) :
    let handled := app.postSettings env body
    handled.response = statusOk ∧
      handled.app.parameters =
        (applySettingsBody env.axParameterSet app.parameters body).1 ∧
      handled.app.api = app.api ∧ handled.app.alerts = app.alerts ∧
      handled.app.procs = app.procs ∧ handled.app.sseClients = app.sseClients := by
  intro handled
  have hhandled : handled = app.postSettings env body := rfl
  unfold App.postSettings at hhandled
  dsimp only at hhandled
  split at hhandled <;> rw [hhandled] <;> exact ⟨rfl, rfl, rfl, rfl, rfl, rfl⟩

omit [SampleArith V D] in
/-- A route gives apps that are the same but for the secrets the same response, and leaves them the
same but for the secrets. -/
theorem Handles.alike {env : RequestEnv} {body : Bytes} {readOnly : Bool}
    {handle : App V D T → Option (Handled V D T)} (h : Handles env body readOnly handle)
    {app app' : App V D T} (hsame : SameButSecrets app app') :
    Alike SameButSecrets ((handle app).map fun handled => (handled.app, handled.response))
      ((handle app').map fun handled => (handled.app, handled.response)) := by
  obtain ⟨parameters, sampler, api, alerts, procs, mqtt, influx, sseClients⟩ := app
  obtain ⟨parameters', sampler', api', alerts', procs', mqtt', influx', sseClients'⟩ := app'
  obtain ⟨hparameters, rfl, rfl, rfl, rfl⟩ := hsame
  cases h with
  | document render =>
    exact Or.inr ⟨_, _, _, rfl, rfl, ⟨hparameters, rfl, rfl, rfl, rfl⟩⟩
  | stream =>
    exact Or.inr ⟨_, _, _, rfl, rfl, ⟨hparameters, rfl, rfl, rfl, rfl⟩⟩
  | settings =>
    refine Or.inr ⟨_, _, _, rfl, ?_, ⟨hparameters, rfl, rfl, rfl, rfl⟩⟩
    simp only [App.respond, settingsJson_congr hparameters, Option.map_some]
  | postSettings =>
    obtain ⟨hresponse, happlied, hapi, halerts, hprocs, hclients⟩ := postSettings_eq
      ⟨parameters, sampler, api, alerts, procs, mqtt, influx, sseClients⟩ env body
    obtain ⟨hresponse', happlied', hapi', halerts', hprocs', hclients'⟩ := postSettings_eq
      ⟨parameters', sampler', api, alerts, procs, mqtt', influx', sseClients⟩ env body
    refine Or.inr ⟨_, _, _, rfl, congrArg some (Prod.ext rfl (hresponse'.trans hresponse.symm)),
      ⟨?_, hapi.trans hapi'.symm, halerts.trans halerts'.symm, hprocs.trans hprocs'.symm,
        hclients.trans hclients'.symm⟩⟩
    rw [happlied, happlied']
    exact hparameters.applySettingsBody env.axParameterSet body
  | postRules =>
    simp only [App.postRules]
    cases alertsApply V env.declare alerts body with
    | none => exact Or.inl ⟨rfl, rfl⟩
    | some result => exact Or.inr ⟨_, _, _, rfl, rfl, ⟨hparameters, rfl, rfl, rfl, rfl⟩⟩
  | postMetrics =>
    simp only [App.postMetrics]
    split
    · exact Or.inr ⟨_, _, _, rfl, rfl, ⟨hparameters, rfl, rfl, rfl, rfl⟩⟩
    · exact Or.inr ⟨_, _, _, rfl, rfl, ⟨hparameters, rfl, rfl, rfl, rfl⟩⟩

/-- Whatever the requests on either port, the responses are the same for apps that are the same but
for the secrets. -/
theorem responses_eq_of_sameButSecrets {app app' : App V D T} (hsame : SameButSecrets app app')
    (requests : List Served) :
    Lib.outputs serveStep app requests = Lib.outputs serveStep app' requests := by
  have hstep : ∀ (app app' : App V D T) (served : Served), SameButSecrets app app' →
      Alike SameButSecrets (serveStep app served) (serveStep app' served) :=
    fun _ _ served h =>
      (handles_handleRequest served.env served.request served.readOnly).alike h
  exact Lib.outputs_congr_same hstep hsame requests

theorem sameButSecrets_blankApp {parameters parameters' : ParameterValues}
    (h : SameParameters parameters parameters') :
    SameButSecrets (blankApp parameters) (blankApp parameters') :=
  ⟨h, rfl, rfl, rfl, rfl⟩

/-- The parameters with a password. -/
def withPassword (password : Bytes) : ParameterValues := fun name =>
  if name = ascii "MqttPassword" then some password else none

/-- A guess of the password that is right for one app and wrong for the other. -/
theorem responses_eq_guess :
    let requests : List Served :=
      [⟨quietEnv, ⟨ascii "POST", ascii "/settings", ascii "MqttPassword=one"⟩, false⟩,
        ⟨quietEnv, ⟨ascii "GET", ascii "/settings", []⟩, false⟩]
    Lib.outputs serveStep (blankApp (withPassword (ascii "one"))) requests =
      Lib.outputs serveStep (blankApp (withPassword (ascii "two"))) requests := by
  intro requests
  have hsame : SameParameters (withPassword (ascii "one")) (withPassword (ascii "two")) := by
    unfold SameParameters
    decide
  exact responses_eq_of_sameButSecrets (sameButSecrets_blankApp hsame) requests

end AxisMetrics
