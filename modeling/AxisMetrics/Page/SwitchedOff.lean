import AxisMetrics.Collect.Rates
import AxisMetrics.Http.Privacy
import AxisMetrics.Page.MetricList
import AxisMetrics.Tick

/-!
# Metrics that were switched off

The device, the pages that are open and what the user has switched off, over starts of the app,
rebuilds and posts of the settings dialog. A post replaces what is disabled by what the page lists,
so an id stays disabled exactly where every page that posts lists it, and as disabled
(`keepsOff_iff`).
-/

namespace AxisMetrics.Page

open Lib (Bytes ascii KeyFile isUtf8 Always Throughout runFrom)

/-- The device, its pages and what the user has done to the boxes. -/
structure SelectionWorld where
  registry : MetricRegistry
  selection : Selection
  /-- `selection.ini`. -/
  file : KeyFile Empty
  /-- `meta.metrics` of each page. -/
  pages : ℕ → List MetaMetric
  /-- What the user has switched off and not on again. -/
  switchedOff : SelectScope → Bytes → Bool

inductive SelectionEvent where
  /-- The app starts, and finds the metrics of the machine. -/
  | restart (m : Machine)
  /-- `rebuild_for_new_storage`. -/
  | rebuild (m : Machine)
  /-- A page reads the `meta` document. -/
  | load (page : ℕ)
  /-- A page posts a scope, with the boxes as the user leaves them. -/
  | post (page : ℕ) (scope : SelectScope) (choice : Bytes → Bool)

/-- Whether the user has switched an id off, after a post of its scope. A box that is left as it was
says nothing new. -/
def switchedAfter (metrics : List MetaMetric) (scope : SelectScope) (choice : Bytes → Bool)
    (before : Bytes → Bool) (id : Bytes) : Bool :=
  match metrics.find? fun m => m.id = id with
  | none => before id
  | some m => if choice id = m.isOn scope then before id else !choice id

/-- A page saves the boxes of a scope. -/
def SelectionWorld.post (order : KeyOrder) (world : SelectionWorld) (page : ℕ) (scope : SelectScope)
    (choice : Bytes → Bool) : SelectionWorld :=
  let boxes := leaveBoxes scope choice (buildMetricList (world.pages page))
  let selection := selectionPosted world.selection (selectionBody boxes scope)
  { world with
    selection := selection
    file := selectionSave order selection
    switchedOff := Function.update world.switchedOff scope
      (switchedAfter (world.pages page) scope choice (world.switchedOff scope)) }

/-- What an event makes of the world. -/
def SelectionWorld.step (order : KeyOrder) (world : SelectionWorld) :
    SelectionEvent → Option SelectionWorld
  | .restart m => some { world with
      registry := m.registry
      selection := selectionLoad world.file }
  | .rebuild m => some { world with registry := m.registry }
  | .load page => some { world with
      pages := Function.update world.pages page
        (world.registry.defs.map (reportedMetric world.selection)) }
  | .post page scope choice => some (world.post order page scope choice)

/-- A device that was just installed. -/
def installed (m : Machine) : SelectionWorld where
  registry := m.registry
  selection := ⟨fun _ => []⟩
  file := []
  pages _ := []
  switchedOff _ _ := false

/-- What the user has switched off is disabled, and the file holds what is disabled. -/
structure KeepsOff (world : SelectionWorld) : Prop where
  off : ∀ scope id, world.switchedOff scope id = true → id ∈ world.selection.disabled scope
  saved : ∀ scope id, id ∈ (selectionLoad world.file).disabled scope ↔
    id ∈ world.selection.disabled scope

/-- A page that posts lists everything that is switched off, and as disabled unless the user
unchecks it again. -/
def ListsOff (world : SelectionWorld) : SelectionEvent → Prop
  | .post page scope choice => ∀ id, world.switchedOff scope id = true →
      ∃ m ∈ world.pages page, m.id = id ∧ (m.isOn scope = false ∨ choice id = false)
  | _ => True

/-- What holds in every run: ids are clean, and a page lists none twice. -/
structure CleanWorld (world : SelectionWorld) : Prop where
  registry : ∀ d ∈ world.registry.defs, CleanId d.id
  distinct : world.registry.Distinct
  pages : ∀ page, ∀ m ∈ world.pages page, CleanId m.id
  nodup : ∀ page, ((world.pages page).map MetaMetric.id).Nodup
  disabled : ∀ scope, ∀ id ∈ world.selection.disabled scope, CleanId id
  saved : ∀ scope id, id ∈ (selectionLoad world.file).disabled scope ↔
    id ∈ world.selection.disabled scope

section Clean

variable {id : Bytes}

theorem strstrip_of_none (h : ∀ b ∈ id, isStripped b = false) : strstrip id = id := by
  have hplain : ∀ {b : UInt8}, b ∈ id → ¬ isStripped b = true := fun hb => by
    rw [h _ hb]
    exact Bool.false_ne_true
  rw [strstrip, List.dropWhile_eq_self_iff.mpr fun hlen => hplain (List.getElem_mem hlen),
    List.rdropWhile_eq_self_iff]
  exact fun hne => hplain (List.getLast_mem hne)

theorem listedId_of_cleanId (h : CleanId id) : ListedId id where
  ne_nil := h.1
  comma_notMem hcomma := absurd (h.2 44 hcomma) (by decide)
  stripped := by
    refine strstrip_of_none fun b hb => ?_
    cases hstripped : isStripped b with
    | false => rfl
    | true =>
      simp only [isStripped, Bool.or_eq_true, beq_iff_eq] at hstripped
      rcases hstripped with (((rfl | rfl) | rfl) | rfl) | rfl <;> exact absurd (h.2 _ hb) (by decide)

theorem isUtf8_of_cleanId (h : CleanId id) : isUtf8 id = true := (Lib.plainText_of_isAlnum h.2).2

/-- A selection of clean ids can be stored. -/
theorem storable_of_cleanId {selection : Selection}
    (h : ∀ scope, ∀ id ∈ selection.disabled scope, CleanId id) : selection.Storable :=
  fun scope id hid => ⟨listedId_of_cleanId (h scope id hid), isUtf8_of_cleanId (h scope id hid)⟩

end Clean

section Post

theorem switchedOff_post (order : KeyOrder) (world : SelectionWorld) (page : ℕ)
    (scope : SelectScope) (choice : Bytes → Bool) :
    (world.post order page scope choice).switchedOff = Function.update world.switchedOff scope
      (switchedAfter (world.pages page) scope choice (world.switchedOff scope)) := rfl

variable {order : KeyOrder} {world : SelectionWorld} (hclean : CleanWorld world) (page : ℕ)
  (scope : SelectScope) (choice : Bytes → Bool)

include hclean

/-- What is disabled after a post. -/
theorem disabled_post : (world.post order page scope choice).selection.disabled =
    Function.update world.selection.disabled scope (uncheckedIds
      (leaveBoxes scope choice (buildMetricList (world.pages page))) scope) := by
  have hids : ∀ id ∈ uncheckedIds (leaveBoxes scope choice (buildMetricList (world.pages page))) scope,
      ListedId id ∧ 0 ∉ id := by
    intro id hid
    obtain ⟨-, m, hm, rfl⟩ := mem_uncheckedIds.mp hid
    have hm' := hclean.pages page m hm
    exact ⟨listedId_of_cleanId hm', zero_notMem_of_isIdByte hm'.2⟩
  rw [SelectionWorld.post]
  dsimp only
  rw [selectionPosted_selectionBody world.selection hids]

theorem mem_disabled_post {id : Bytes} :
    id ∈ (world.post order page scope choice).selection.disabled scope ↔
      choice id = false ∧ ∃ m ∈ world.pages page, m.id = id := by
  rw [disabled_post hclean, Function.update_self, mem_uncheckedIds]

/-- A post of one scope leaves the other one alone. -/
theorem disabled_post_of_ne {other : SelectScope} (hother : other ≠ scope) :
    (world.post order page scope choice).selection.disabled other =
      world.selection.disabled other := by
  rw [disabled_post hclean, Function.update_of_ne hother]

theorem cleanWorld_post : CleanWorld (world.post order page scope choice) := by
  have hdisabled : ∀ other, ∀ id ∈ (world.post order page scope choice).selection.disabled other,
      CleanId id := by
    intro other id hid
    by_cases hother : other = scope
    · subst hother
      obtain ⟨-, m, hm, rfl⟩ := (mem_disabled_post hclean page other choice).mp hid
      exact hclean.pages page m hm
    · rw [disabled_post_of_ne hclean page scope choice hother] at hid
      exact hclean.disabled other id hid
  exact ⟨hclean.registry, hclean.distinct, hclean.pages, hclean.nodup, hdisabled,
    mem_selectionLoad order (storable_of_cleanId hdisabled)⟩

end Post

section Runs

variable {order : KeyOrder} {world next : SelectionWorld} {event : SelectionEvent}

theorem cleanWorld_installed (m : Machine) : CleanWorld (installed m) where
  registry d hd := Machine.cleanId hd
  distinct := m.distinct_registry
  pages page m hm := by cases hm
  nodup page := List.nodup_nil
  disabled scope id hid := by cases hid
  saved scope id := Iff.rfl

theorem cleanWorld_step (hclean : CleanWorld world) (hstep : world.step order event = some next) :
    CleanWorld next := by
  cases event with
  | restart m =>
    obtain rfl := Option.some.inj hstep
    exact ⟨fun d hd => Machine.cleanId hd, m.distinct_registry, hclean.pages, hclean.nodup,
      fun scope id hid => hclean.disabled scope id ((hclean.saved scope id).mp hid),
      fun scope id => Iff.rfl⟩
  | rebuild m =>
    obtain rfl := Option.some.inj hstep
    exact ⟨fun d hd => Machine.cleanId hd, m.distinct_registry, hclean.pages, hclean.nodup,
      hclean.disabled, hclean.saved⟩
  | load page =>
    obtain rfl := Option.some.inj hstep
    refine ⟨hclean.registry, hclean.distinct, fun other m hm => ?_, fun other => ?_,
      hclean.disabled, hclean.saved⟩
    · dsimp only at hm
      by_cases hother : other = page
      · rw [hother, Function.update_self] at hm
        obtain ⟨d, hd, rfl⟩ := List.mem_map.mp hm
        exact hclean.registry d hd
      · rw [Function.update_of_ne hother] at hm
        exact hclean.pages other m hm
    · dsimp only
      by_cases hother : other = page
      · rw [hother, Function.update_self, List.map_map]
        exact MetricRegistry.distinct_iff.mp hclean.distinct
      · rw [Function.update_of_ne hother]
        exact hclean.nodup other
  | post page scope choice =>
    obtain rfl := Option.some.inj hstep
    exact cleanWorld_post hclean page scope choice

/-- A page has one metric of an id. -/
theorem eq_of_find {page : ℕ} (hclean : CleanWorld world) {m found : MetaMetric} {id : Bytes}
    (hm : m ∈ world.pages page) (hid : m.id = id)
    (hfound : (world.pages page).find? (fun m => m.id = id) = some found) : m = found := by
  have hfoundId : found.id = id := by simpa using List.find?_some hfound
  exact List.inj_on_of_nodup_map (hclean.nodup page) hm (List.mem_of_find?_eq_some hfound)
    (hid.trans hfoundId.symm)

/-- A page that lists what is switched off keeps it off. -/
theorem keepsOff_post (hclean : CleanWorld world) (hoff : KeepsOff world) {page : ℕ}
    {scope : SelectScope} {choice : Bytes → Bool} (hlists : ListsOff world (.post page scope choice)) :
    KeepsOff (world.post order page scope choice) where
  saved := (cleanWorld_post hclean page scope choice).saved
  off := by
    intro other id hswitched
    by_cases hother : other = scope
    · subst hother
      rw [mem_disabled_post hclean]
      rw [switchedOff_post, Function.update_self, switchedAfter] at hswitched
      cases hfind : (world.pages page).find? fun m => m.id = id with
      | none =>
        rw [hfind] at hswitched
        obtain ⟨m, hm, hid, -⟩ := hlists id hswitched
        exact absurd hid (by simpa using List.find?_eq_none.mp hfind m hm)
      | some found =>
        have hmem := List.mem_of_find?_eq_some hfind
        have hfoundId : found.id = id := by simpa using List.find?_some hfind
        refine ⟨?_, found, hmem, hfoundId⟩
        rw [hfind] at hswitched
        dsimp only at hswitched
        split at hswitched
        · next hsame =>
          -- the box is left as it was, and it was not checked
          obtain ⟨m, hm, hid, hon | hchoice⟩ := hlists id hswitched
          · rw [eq_of_find hclean hm hid hfind] at hon
            exact hsame.trans hon
          · exact hchoice
        · simpa using hswitched
    · rw [disabled_post_of_ne hclean page scope choice hother]
      refine hoff.off other id ?_
      rwa [switchedOff_post, Function.update_of_ne hother] at hswitched

/-- A page that does not switches it on. -/
theorem not_keepsOff_post (hclean : CleanWorld world) {page : ℕ} {scope : SelectScope}
    {choice : Bytes → Bool} (hlists : ¬ ListsOff world (.post page scope choice)) :
    ¬ KeepsOff (world.post order page scope choice) := by
  intro hoff
  simp only [ListsOff, not_forall, not_exists, not_and, not_or, Bool.not_eq_false] at hlists
  obtain ⟨id, hswitched, hon⟩ := hlists
  have hstill : (world.post order page scope choice).switchedOff scope id = true := by
    rw [switchedOff_post, Function.update_self, switchedAfter]
    cases hfind : (world.pages page).find? fun m => m.id = id with
    | none => exact hswitched
    | some found =>
      have hfoundId : found.id = id := by simpa using List.find?_some hfind
      obtain ⟨hfoundOn, hchoice⟩ := hon found (List.mem_of_find?_eq_some hfind) hfoundId
      exact (if_pos (hchoice.trans hfoundOn.symm)).trans hswitched
  obtain ⟨hchoice, m, hm, hid⟩ := (mem_disabled_post hclean page scope choice).mp
    (hoff.off scope id hstill)
  rw [(hon m hm hid).2] at hchoice
  cases hchoice

theorem keepsOff_step (hclean : CleanWorld world) (hoff : KeepsOff world)
    (hlists : ListsOff world event) (hstep : world.step order event = some next) :
    KeepsOff next := by
  cases event with
  | restart m =>
    obtain rfl := Option.some.inj hstep
    exact ⟨fun scope id hswitched => (hoff.saved scope id).mpr (hoff.off scope id hswitched),
      fun scope id => Iff.rfl⟩
  | rebuild m =>
    obtain rfl := Option.some.inj hstep
    exact ⟨hoff.off, hoff.saved⟩
  | load page =>
    obtain rfl := Option.some.inj hstep
    exact ⟨hoff.off, hoff.saved⟩
  | post page scope choice =>
    obtain rfl := Option.some.inj hstep
    exact keepsOff_post hclean hoff hlists

theorem exists_not_keepsOff (hclean : CleanWorld world) (hlists : ¬ ListsOff world event) :
    ∃ next, world.step order event = some next ∧ ¬ KeepsOff next := by
  cases event with
  | restart m => exact absurd trivial hlists
  | rebuild m => exact absurd trivial hlists
  | load page => exact absurd trivial hlists
  | post page scope choice => exact ⟨_, rfl, not_keepsOff_post hclean hlists⟩

theorem keepsOff_installed (m : Machine) : KeepsOff (installed m) where
  off _ _ hswitched := by cases hswitched
  saved _ _ := Iff.rfl

/-- What is switched off stays off in a run just if every page that posts lists it, and as off. -/
theorem always_keepsOff_iff (order : KeyOrder) (m : Machine) (events : List SelectionEvent) :
    Always (SelectionWorld.step order) (installed m) events KeepsOff ↔
      Throughout (SelectionWorld.step order) (installed m) events ListsOff :=
  Lib.always_iff_throughout CleanWorld (cleanWorld_installed m) (keepsOff_installed m)
    (fun _ _ _ hclean hstep => cleanWorld_step hclean hstep)
    (fun _ _ _ hclean hoff hlists hstep => keepsOff_step hclean hoff hlists hstep)
    (fun _ _ hclean _ hlists => exists_not_keepsOff hclean hlists)

end Runs

section App

variable {V D T : Type} [SampleArith V D] [RenderArith V T] [AlertArith V T]

omit [SampleArith V D] in
theorem selection_handles {env : RequestEnv} {body : Bytes} {readOnly : Bool}
    {handle : App V D T → Option (Handled V D T)} (h : Handles env body readOnly handle)
    {app : App V D T} {handled : Handled V D T} (hrun : handle app = some handled) :
    handled.app.api.selection = app.api.selection ∨
      handled.app.api.selection = selectionPosted app.api.selection body := by
  cases h with
  | document render =>
    obtain rfl := Option.some.inj hrun
    exact Or.inl rfl
  | stream =>
    obtain rfl := Option.some.inj hrun
    exact Or.inl rfl
  | settings =>
    obtain rfl := Option.some.inj hrun
    exact Or.inl rfl
  | postSettings =>
    obtain rfl := Option.some.inj hrun
    refine Or.inl ?_
    simp only [App.postSettings]
    split <;> rfl
  | postRules =>
    obtain ⟨result, -, rfl⟩ := Option.map_eq_some_iff.mp hrun
    exact Or.inl rfl
  | postMetrics =>
    obtain rfl := Option.some.inj hrun
    exact Or.inr (selection_postMetrics app body)

/-- Of all that happens to the app, only a post of the metrics changes the selection. -/
theorem selection_appStep {app next : App V D T} {event : AppEvent V T} {published : Published}
    (h : appStep app event = some (next, published)) :
    next.api.selection = app.api.selection ∨ ∃ env request readOnly,
      event = .request env request readOnly ∧
        next.api.selection = selectionPosted app.api.selection request.body := by
  cases event with
  | tick tick =>
    obtain ⟨rfl, -⟩ := Prod.mk.inj (Option.some.inj h)
    exact Or.inl rfl
  | request env request readOnly =>
    obtain ⟨handled, hhandled, hnext⟩ := Option.map_eq_some_iff.mp h
    obtain ⟨rfl, -⟩ := Prod.mk.inj hnext
    rcases selection_handles (handles_handleRequest env request readOnly) hhandled with
      hsame | hposted
    · exact Or.inl hsame
    · exact Or.inr ⟨env, request, readOnly, rfl, hposted⟩
  | connected =>
    obtain ⟨-, rfl, -⟩ := appStep_connected h
    exact Or.inl rfl
  | connectionLost =>
    obtain ⟨-, rfl, -⟩ := appStep_connectionLost h
    exact Or.inl rfl
  | parameterChanged created name value =>
    obtain ⟨rfl, -⟩ := Prod.mk.inj (Option.some.inj h)
    obtain ⟨parameters, sampler, mqtt, influx, heq⟩ := onParameterChanged_eq app created name value
    exact Or.inl (congrArg (fun app => app.api.selection) heq)
  | rebuild registry events declare file memory persistPath history =>
    obtain ⟨rfl, -⟩ := Prod.mk.inj (Option.some.inj h)
    exact Or.inl rfl
  | persistRetry persistPath history =>
    obtain ⟨rfl, -⟩ := Prod.mk.inj (Option.some.inj h)
    obtain ⟨store, path, heq⟩ := retryPersistence_eq app persistPath history
    exact Or.inl (congrArg (fun app => app.api.selection) heq)
  | influxState outcome =>
    obtain ⟨rfl, -⟩ := Prod.mk.inj (Option.some.inj h)
    exact Or.inl rfl

end App

/-- The selection over the runs of the app and its pages. What the user has switched off stays off, and
on the disk, just if every page that posts lists it, and as off. Whatever was posted, ids in UTF-8 come
back from the file, and a scope is left alone by a post of the other one. -/
theorem selection_persists (order : KeyOrder) :
    (∀ m events, Always (SelectionWorld.step order) (installed m) events KeepsOff ↔
      Throughout (SelectionWorld.step order) (installed m) events ListsOff) ∧
    (∀ lists : SelectScope → Bytes, (∀ scope, ∀ id ∈ disabledIds (lists scope), isUtf8 id = true) →
      ∀ scope id, id ∈ (selectionLoad (selectionSave order
        ⟨fun scope => disabledIds (lists scope)⟩)).disabled scope ↔ id ∈ disabledIds (lists scope)) ∧
    ∀ selection scope list other, other ≠ scope →
      (selectionSetDisabled selection scope list).disabled other = selection.disabled other := by
  refine ⟨always_keepsOff_iff order, fun lists hutf8 => ?_, fun selection scope list other hother => ?_⟩
  · have hstorable : Selection.Storable ⟨fun scope => disabledIds (lists scope)⟩ :=
      fun scope id hid => ⟨listedId_of_mem_disabledIds hid, hutf8 scope id hid⟩
    exact mem_selectionLoad order hstorable
  · exact if_neg hother

/-- A metric that is gone when a page is loaded is not listed when the page posts. -/
theorem not_throughout_of_gone {order : KeyOrder} {world : SelectionWorld} {scope : SelectScope}
    {id : Bytes} (hswitched : world.switchedOff scope id = true) {m : Machine}
    (hgone : id ∉ m.registry.defs.map MetricDef.id) (page : ℕ) (choice : Bytes → Bool) :
    ¬ Throughout (SelectionWorld.step order) world
      [.restart m, .load page, .post page scope choice] ListsOff := by
  intro hlists
  have hloaded := (Lib.throughout_cons.mp hlists).2 _ rfl
  have hposted := (Lib.throughout_cons.mp hloaded).2 _ rfl
  obtain ⟨metric, hmetric, hid, -⟩ := (Lib.throughout_cons.mp hposted).1 id hswitched
  dsimp only at hmetric
  rw [Function.update_self] at hmetric
  obtain ⟨d, hd, rfl⟩ := List.mem_map.mp hmetric
  exact hgone (List.mem_map.mpr ⟨d, hd, hid⟩)

/-- An order of keys: each where it stands last. -/
def dedupOrder : KeyOrder := ⟨List.dedup, fun ids => List.Perm.refl ids.dedup⟩

/-- A camera with a network dongle. -/
def withDongle : Machine := netMachine "eth1: 0\n"

/-- The user hides the dongle. -/
def hideDongle : List SelectionEvent :=
  [.load 0, .post 0 .display fun id => id ≠ ascii "net.eth1.up", .post 0 .transmit fun _ => true,
    .load 0]

/-- It is unplugged, and something else is saved. -/
def saveWithout : List SelectionEvent :=
  [.restart (netMachine ""), .load 0, .post 0 .display fun _ => true]

/-- Then it is no longer hidden. -/
theorem not_keepsOff_dongle : ¬ Always (SelectionWorld.step dedupOrder) (installed withDongle)
    (hideDongle ++ saveWithout) KeepsOff := by
  rw [always_keepsOff_iff]
  intro hlists
  obtain ⟨world, hrun, hswitched⟩ : ∃ world : SelectionWorld,
      runFrom (SelectionWorld.step dedupOrder) (installed withDongle) hideDongle = some world ∧
        world.switchedOff .display (ascii "net.eth1.up") = true := ⟨_, rfl, by decide +kernel⟩
  have hgone : ascii "net.eth1.up" ∉ (netMachine "").registry.defs.map MetricDef.id := by
    decide +kernel
  exact not_throughout_of_gone hswitched hgone 0 (fun _ => true) (hlists.of_append hrun)

end AxisMetrics.Page
