import AxisMetrics.Http.Handler
import AxisMetrics.Lib.Keyed

/-!
# Routing

`handle_request` tries its routes in a fixed order, and `route_is` looks for the name of a route
anywhere in the target, so the text behind the question mark is searched as well. `routeOf` is the
branch that takes a request; `routesByPath_iff` says for which queries it is the branch that takes
the path alone.
-/

namespace AxisMetrics

open Lib (Bytes ascii strstr firstThat)

variable {V D T : Type}

/-- The branches of `handle_request`. -/
inductive Route where
  | forbidden
  | getSettings
  | postSettings
  | getMeta
  | getCurrent
  | getSeries
  | getHealth
  | getPrometheus
  | getProcesses
  | getAlerts
  | postRules
  | postMetrics
  | getStream
  | notFound
  deriving DecidableEq

/-- The branch that takes a request. -/
def routeOf (method path : Bytes) (readOnly : Bool) : Route :=
  let isGet := method == ascii "GET"
  let isPost := method == ascii "POST"
  let route := fun name => routeIs path (ascii name)
  if readOnly && (!isGet || route "settings") then .forbidden
  else if isGet && route "settings" then .getSettings
  else if isPost && route "settings" then .postSettings
  else if isGet && route "meta" then .getMeta
  else if isGet && route "current" then .getCurrent
  else if isGet && route "series" then .getSeries
  else if isGet && route "health" then .getHealth
  else if isGet && route "prometheus" then .getPrometheus
  else if isGet && route "processes" then .getProcesses
  else if isGet && route "alerts" then .getAlerts
  else if isPost && route "rules" then .postRules
  else if isPost && route "metrics" then .postMetrics
  else if isGet && route "stream" then .getStream
  else .notFound

section Handle

variable [SampleArith V D] [RenderArith V T] [AlertArith V T]

/-- What is done in a branch. -/
def App.handle (app : App V D T) (env : RequestEnv) (request : Request) :
    Route → Option (Handled V D T)
  | .forbidden => some (app.respond forbidden)
  | .getSettings => some (app.respond (sendJson (settingsJson app.parameters)))
  | .postSettings => some (app.postSettings env request.body)
  | .getMeta => some (app.respond (sendJson (apiMetaJson app.api)))
  | .getCurrent => some (app.respond (sendJson (apiCurrentJson app.api)))
  | .getSeries =>
    some (app.respond (sendJson (seriesText (apiSeriesJson app.api.store env.now request.path))))
  | .getHealth => some (app.respond (sendJson (apiHealthJson app.api env.now)))
  | .getPrometheus => some (app.respond (sendResponse (ascii "200 OK")
      (ascii "text/plain; version=0.0.4; charset=utf-8") (apiPrometheusText app.api)))
  | .getProcesses =>
    some (app.respond (sendJson (procsJson V app.procs (processLimit request.path))))
  | .getAlerts => some (app.respond (sendJson (alertsJson V app.alerts)))
  | .postRules => app.postRules env request.body
  | .postMetrics => some (app.postMetrics request.body)
  | .getStream =>
    some ⟨{ app with sseClients := sseAdd app.sseClients env.written }, streamHeaders, true, []⟩
  | .notFound => some (app.respond notFound)

/-- `handle_request` picks a branch by method, target and port, and does what the branch says. -/
theorem handleRequest_eq_handle (env : RequestEnv) (app : App V D T) (request : Request)
    (readOnly : Bool) : handleRequest env app request readOnly =
      app.handle env request (routeOf request.method request.path readOnly) := by
  simp only [handleRequest, routeOf, apply_ite (app.handle env request)]
  rfl

end Handle

-- ════════════════════════════════════════════════════════════════════════
-- The tests as a table
-- ════════════════════════════════════════════════════════════════════════

/-- The routes that are tried for a method on a port, in their order. -/
def routeTable (method : Bytes) (readOnly : Bool) : List (Bytes × Route) :=
  if method = ascii "GET" then
    [(ascii "settings", if readOnly then .forbidden else .getSettings), (ascii "meta", .getMeta),
      (ascii "current", .getCurrent), (ascii "series", .getSeries), (ascii "health", .getHealth),
      (ascii "prometheus", .getPrometheus), (ascii "processes", .getProcesses),
      (ascii "alerts", .getAlerts), (ascii "stream", .getStream)]
  else if readOnly then []
  else if method = ascii "POST" then
    [(ascii "settings", .postSettings), (ascii "rules", .postRules),
      (ascii "metrics", .postMetrics)]
  else []

/-- The branch where none of them is named. -/
def routeElse (method : Bytes) (readOnly : Bool) : Route :=
  if readOnly ∧ method ≠ ascii "GET" then .forbidden else .notFound

theorem routeOf_eq_firstThat (method path : Bytes) (readOnly : Bool) :
    routeOf method path readOnly =
      firstThat (routeIs path) (routeElse method readOnly) (routeTable method readOnly) := by
  by_cases hget : method = ascii "GET"
  · subst hget
    have hpost : (ascii "GET" == ascii "POST") = false := by decide
    cases readOnly
    · simp [routeOf, routeTable, routeElse, firstThat, hpost]
    · -- the settings are tested twice, and the second test comes too late
      by_cases hsettings : routeIs path (ascii "settings") = true
      all_goals simp [routeOf, routeTable, routeElse, firstThat, hpost, hsettings]
  · have hget' : (method == ascii "GET") = false := beq_false_of_ne hget
    by_cases hpost : method = ascii "POST"
    · subst hpost
      cases readOnly
      all_goals simp [routeOf, routeTable, routeElse, firstThat, hget, hget']
    · have hpost' : (method == ascii "POST") = false := beq_false_of_ne hpost
      cases readOnly
      all_goals simp [routeOf, routeTable, routeElse, firstThat, hget, hget', hpost, hpost']

/-- The names of the routes have no question mark. -/
theorem name_routeTable (method : Bytes) (readOnly : Bool) :
    ∀ entry ∈ routeTable method readOnly, entry.1 ≠ [] ∧ 63 ∉ entry.1 := by
  unfold routeTable
  split_ifs <;> decide

/-- No two tests lead to one branch. -/
theorem nodup_routeTable (method : Bytes) (readOnly : Bool) :
    (routeElse method readOnly :: (routeTable method readOnly).map Prod.snd).Nodup := by
  unfold routeTable routeElse
  cases readOnly <;> split_ifs <;> simp_all

-- ════════════════════════════════════════════════════════════════════════
-- Targets with a query
-- ════════════════════════════════════════════════════════════════════════

variable {path query name : Bytes}

/-- A target: a path with a query. -/
def target (path query : Bytes) : Bytes := path ++ 63 :: query

/-- A name that is in the path is looked at there, and any other in the query. -/
theorem routeIs_target (hne : name ≠ []) (hmark : 63 ∉ name) :
    routeIs (target path query) name =
      if (strstr name path).isSome then routeIs path name else routeIs query name := by
  cases hpath : strstr name path with
  | some i =>
    have hlength := Lib.length_le_of_strstr hpath
    rw [Option.isSome_some, if_pos rfl, routeIs, routeIs, hpath, target, Lib.strstr_append hpath]
    dsimp only
    rw [List.drop_append_of_le_length hlength]
    cases path.drop (i + name.length) with
    | nil => rfl
    | cons next rest => rfl
  | none =>
    rw [Option.isSome_none, if_neg Bool.false_ne_true, routeIs, routeIs, target,
      Lib.strstr_skip_sep hne hmark hpath]
    cases strstr name query with
    | none => rfl
    | some i =>
      rw [Option.map_some]
      dsimp only
      rw [show i + (path.length + 1) + name.length = path.length + (i + name.length + 1) by omega,
        ← List.drop_drop, List.drop_left, List.drop_succ_cons]

theorem routeIs_of_path (hne : name ≠ []) (hmark : 63 ∉ name) (h : routeIs path name = true) :
    routeIs (target path query) name = true := by
  have hfound : (strstr name path).isSome := by
    rw [routeIs] at h
    cases hpath : strstr name path with
    | some i => rfl
    | none => simp [hpath] at h
  rw [routeIs_target hne hmark, if_pos hfound, h]

/-- The query names no route that is tried before the one the path names: such a name is in the
path, or `route_is` does not find it in the query. -/
def NamesNoEarlier (method path query : Bytes) (readOnly : Bool) : Prop :=
  ∀ entry ∈ (routeTable method readOnly).takeWhile (!routeIs path ·.1),
    (strstr entry.1 path).isSome ∨ routeIs query entry.1 = false

theorem routeOf_target_iff (method path query : Bytes) (readOnly : Bool) :
    routeOf method (target path query) readOnly = routeOf method path readOnly ↔
      NamesNoEarlier method path query readOnly := by
  have hmore : ∀ entry ∈ routeTable method readOnly, routeIs path entry.1 →
      routeIs (target path query) entry.1 := by
    intro entry hentry hpath
    obtain ⟨hne, hmark⟩ := name_routeTable method readOnly entry hentry
    exact routeIs_of_path hne hmark hpath
  rw [routeOf_eq_firstThat, routeOf_eq_firstThat,
    Lib.firstThat_eq_iff hmore (nodup_routeTable method readOnly), NamesNoEarlier]
  refine forall₂_congr fun entry hentry => ?_
  obtain ⟨hne, hmark⟩ := name_routeTable method readOnly entry (List.takeWhile_subset _ hentry)
  have hpath : routeIs path entry.1 = false := by
    simpa using List.mem_takeWhile_imp hentry
  rw [routeIs_target hne hmark]
  cases hfound : (strstr entry.1 path).isSome <;> simp [hpath]

/-- Requests for a path are dispatched alike, without a query and with either of two. -/
def RoutesByPath (method path query query' : Bytes) (readOnly : Bool) : Prop :=
  routeOf method (target path query) readOnly = routeOf method path readOnly ∧
    routeOf method (target path query') readOnly = routeOf method path readOnly

/-- A path is dispatched the same with two queries just if neither names an earlier route. -/
theorem routesByPath_iff (method path query query' : Bytes) (readOnly : Bool) :
    RoutesByPath method path query query' readOnly ↔
      NamesNoEarlier method path query readOnly ∧ NamesNoEarlier method path query' readOnly :=
  and_congr (routeOf_target_iff method path query readOnly)
    (routeOf_target_iff method path query' readOnly)

/-- A viewer who asks for the series of a metric is refused for the text of the query. -/
theorem not_routesByPath_settings :
    routeOf (ascii "GET") (ascii "/series") true = .getSeries ∧
      routeOf (ascii "GET") (target (ascii "/series") (ascii "metrics=settings")) true =
        .forbidden ∧
      ¬ RoutesByPath (ascii "GET") (ascii "/series") (ascii "metrics=settings") [] true := by
  have hrefused : routeOf (ascii "GET") (target (ascii "/series") (ascii "metrics=settings")) true =
      .forbidden := by decide
  have hseries : routeOf (ascii "GET") (ascii "/series") true = .getSeries := by decide
  refine ⟨hseries, hrefused, fun h => ?_⟩
  have hsame := h.1
  rw [hrefused, hseries] at hsame
  cases hsame

end AxisMetrics
