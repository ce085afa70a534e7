import AxisMetrics.Persist.Opening

/-!
# All files or none

A failure at the second or third file closes the ones before it, and whoever called
`try_open_persistence` keeps or sets the retry timer. `tryOpenPersistence_spec` says for one call
which of the two it leaves, whatever rebuilds are nested in it; the rest is that each caller makes one
timer of it.
-/

namespace AxisMetrics

open Lib (Bytes ByteFile runFrom Always)

variable {D : Type} {registry : MetricRegistry}

/-- All three files are open, every tier has its callback, the path is set and no timer waits. -/
structure AllOpen (h : History D) : Prop where
  persists : ∀ i, (h.files.persists i).isSome
  callbacks : ∀ i, (h.files.store.tiers i).callback = true
  persistPath : h.persistPath.isSome
  timers : h.timers = 0

/-- No file is open, no tier has a callback, the path is not set and one timer waits. -/
structure NoneOpen (h : History D) : Prop where
  persists : ∀ i, h.files.persists i = none
  callbacks : ∀ i, (h.files.store.tiers i).callback = false
  persistPath : h.persistPath = none
  timers : h.timers = 1

/-- The history is recorded in whole or not at all and then retried, and no tier was loaded twice. -/
structure AllOrNothing (h : History D) : Prop where
  opened : AllOpen h ∨ NoneOpen h
  loads : ∀ i, h.files.loads i ≤ 1

namespace HistoryFiles

variable {files : HistoryFiles D registry} {i j : Fin STORE_TIERS}

/-- A tier without its file has no callback. -/
def Listens (files : HistoryFiles D registry) : Prop :=
  ∀ i, files.persists i = none → (files.store.tiers i).callback = false

/-- A tier that was loaded was loaded once, and has rows since. -/
def LoadedOnce (files : HistoryFiles D registry) : Prop :=
  ∀ i, files.loads i = 0 ∨ files.loads i = 1 ∧ tierRows (files.store.tiers i) ≠ []

/-- The file of a tier is open, and the tier has its callback. -/
def Recorded (files : HistoryFiles D registry) (i : Fin STORE_TIERS) : Prop :=
  (files.persists i).isSome ∧ (files.store.tiers i).callback = true

theorem callback_setTierCallback (store : Store CFloat D registry) (i j : Fin STORE_TIERS)
    (callback : Bool) : ((storeSetTierCallback store i callback).tiers j).callback =
      if j = i then callback else (store.tiers j).callback := by
  rw [storeSetTierCallback, Store.setTier_tiers]
  split <;> rfl

/-- What there is of a tier beside its listener and its bucket: the interval and the rows. -/
structure SameRing (tier tier' : StoreTier CFloat D registry.count) : Prop where
  intervalS_eq : tier'.intervalS = tier.intervalS
  ring_eq : tier'.ring = tier.ring

theorem SameRing.tierRows_eq {tier tier' : StoreTier CFloat D registry.count}
    (h : SameRing tier tier') : tierRows tier' = tierRows tier :=
  congrArg Lib.RingBuffer.toList h.ring_eq

theorem SameRing.trans {tier tier' tier'' : StoreTier CFloat D registry.count}
    (h : SameRing tier tier') (h' : SameRing tier' tier'') : SameRing tier tier'' :=
  ⟨h'.intervalS_eq.trans h.intervalS_eq, h'.ring_eq.trans h.ring_eq⟩

theorem sameRing_setTierCallback (store : Store CFloat D registry) (i j : Fin STORE_TIERS)
    (callback : Bool) :
    SameRing (store.tiers j) ((storeSetTierCallback store i callback).tiers j) := by
  rw [storeSetTierCallback, Store.setTier_tiers]
  by_cases h : j = i
  · subst h
    rw [if_pos rfl]
    exact ⟨rfl, rfl⟩
  · rw [if_neg h]
    exact ⟨rfl, rfl⟩

/-- Closing a file takes the callback from its tier and leaves the rows. -/
theorem closeTier_spec (files : HistoryFiles D registry) (i : Fin STORE_TIERS) :
    (files.closeTier i).persists = Function.update files.persists i none ∧
      (files.Listens → (files.closeTier i).Listens) ∧
      (files.closeTier i).loads = files.loads ∧
      ∀ j, SameRing (files.store.tiers j) ((files.closeTier i).store.tiers j) := by
  rw [closeTier]
  cases hopen : files.persists i with
  | none =>
    refine ⟨?_, fun h => h, rfl, fun _ => ⟨rfl, rfl⟩⟩
    funext j
    by_cases hj : j = i
    · subst hj
      rw [Function.update_self, hopen]
    · rw [Function.update_of_ne hj]
  | some opened =>
    refine ⟨rfl, fun h j hj => ?_, rfl, fun j => sameRing_setTierCallback _ _ _ _⟩
    dsimp only at hj ⊢
    rw [callback_setTierCallback]
    by_cases hji : j = i
    · rw [if_pos hji]
    · rw [if_neg hji]
      rw [Function.update_of_ne hji] at hj
      exact h j hj

/-- `close_persistence` leaves nothing open. -/
theorem closeAll_spec (h : files.Listens) :
    (∀ i, files.closeAll.persists i = none) ∧
      (∀ i, (files.closeAll.store.tiers i).callback = false) ∧
      files.closeAll.loads = files.loads ∧
      ∀ j, SameRing (files.store.tiers j) (files.closeAll.store.tiers j) := by
  have hall : ∀ (l : List (Fin STORE_TIERS)) (files : HistoryFiles D registry), files.Listens →
      (l.foldl closeTier files).Listens ∧
        (∀ i, i ∈ l ∨ files.persists i = none → (l.foldl closeTier files).persists i = none) ∧
        (l.foldl closeTier files).loads = files.loads ∧
        ∀ j, SameRing (files.store.tiers j) ((l.foldl closeTier files).store.tiers j) := by
    intro l
    induction l with
    | nil =>
      intro files h
      exact ⟨h, fun i hi => hi.resolve_left List.not_mem_nil, rfl, fun _ => ⟨rfl, rfl⟩⟩
    | cons i l ih =>
      intro files h
      obtain ⟨hpersists, hlistens, hloads, hring⟩ := closeTier_spec files i
      obtain ⟨hlistens', hpersists', hloads', hring'⟩ := ih (files.closeTier i) (hlistens h)
      refine ⟨hlistens', fun j hj => hpersists' j ?_, hloads'.trans hloads,
        fun j => (hring j).trans (hring' j)⟩
      rw [hpersists]
      by_cases hji : j = i
      · subst hji
        exact Or.inr (Function.update_self _ _ _)
      · rw [Function.update_of_ne hji]
        exact hj.imp_left fun hmem => List.mem_of_ne_of_mem hji hmem
  obtain ⟨hlistens, hpersists, hloads, hring⟩ := hall (List.finRange STORE_TIERS) files h
  have hnone : ∀ i, files.closeAll.persists i = none := fun i =>
    hpersists i (Or.inl (List.mem_finRange i))
  exact ⟨hnone, fun i => hlistens i (hnone i), hloads, hring⟩

section Open

variable (files : HistoryFiles D registry) (base : StorageBase)

theorem openTierFile_of_ne (h : j ≠ i) :
    (files.openTierFile i base).store.tiers j = files.store.tiers j := by
  change (storeSetTierCallback (if storeTierCount files.store i = 0 then (persistLoad _ _ _ _).1
    else files.store) i true).tiers j = files.store.tiers j
  rw [storeSetTierCallback, Store.setTier_tiers, if_neg h]
  split
  · exact restoreAll_of_ne h _ _
  · rfl

theorem callback_openTierFile (i : Fin STORE_TIERS) :
    ((files.openTierFile i base).store.tiers i).callback = true :=
  (callback_setTierCallback _ _ _ _).trans (if_pos rfl)

/-- A tier that has rows keeps them, and another one takes over what is saved. -/
theorem tierRows_openTierFile (i : Fin STORE_TIERS) :
    tierRows ((files.openTierFile i base).store.tiers i) =
      if tierRows (files.store.tiers i) = [] then
        (savedRows (persistOpen (files.store.tiers i)) (files.disk (persistFilePath base i))).rtake
          (files.store.tiers i).ring.capacity
      else tierRows (files.store.tiers i) := by
  have hempty : storeTierCount files.store i = 0 ↔ tierRows (files.store.tiers i) = [] := by
    rw [storeTierCount, ← length_tierRows, List.length_eq_zero_iff]
  refine (sameRing_setTierCallback _ i i true).tierRows_eq.trans ?_
  by_cases hrows : tierRows (files.store.tiers i) = []
  · rw [if_pos hrows, if_pos (hempty.mpr hrows), persistLoad]
    dsimp only
    rw [tierRows_restoreAll, hrows, List.nil_append]
  · rw [if_neg hrows, if_neg fun h => hrows (hempty.mp h)]

theorem recorded_openTierFile (i : Fin STORE_TIERS) : (files.openTierFile i base).Recorded i := by
  refine ⟨?_, callback_openTierFile files base i⟩
  change (Function.update files.persists i _ i).isSome = true
  rw [Function.update_self]
  rfl

variable {files}

theorem Recorded.openTierFile (h : files.Recorded j) (i : Fin STORE_TIERS) :
    (files.openTierFile i base).Recorded j := by
  by_cases hji : j = i
  · subst hji
    exact recorded_openTierFile files base j
  · refine ⟨?_, ?_⟩
    · change (Function.update files.persists i _ j).isSome = true
      rw [Function.update_of_ne hji]
      exact h.1
    · rw [openTierFile_of_ne files base hji]
      exact h.2

theorem Listens.openTierFile (h : files.Listens) (i : Fin STORE_TIERS) :
    (files.openTierFile i base).Listens := by
  intro j hj
  by_cases hji : j = i
  · subst hji
    have hopen := (recorded_openTierFile files base j).1
    rw [hj] at hopen
    cases hopen
  · rw [openTierFile_of_ne files base hji]
    refine h j ?_
    change Function.update files.persists i _ j = none at hj
    rwa [Function.update_of_ne hji] at hj

theorem LoadedOnce.openTierFile (h : files.LoadedOnce) (i : Fin STORE_TIERS) :
    (files.openTierFile i base).LoadedOnce := by
  have hempty : storeTierCount files.store i = 0 ↔ tierRows (files.store.tiers i) = [] := by
    rw [storeTierCount, ← length_tierRows, List.length_eq_zero_iff]
  intro j
  by_cases hji : j = i
  · subst hji
    rw [tierRows_openTierFile]
    change (if _ then Function.update files.loads j (files.loads j + 1) else files.loads) j = 0 ∨
      (if _ then Function.update files.loads j (files.loads j + 1) else files.loads) j = 1 ∧ _
    by_cases hrows : tierRows (files.store.tiers j) = []
    · have hnever : files.loads j = 0 := (h j).resolve_right fun honce => honce.2 hrows
      rw [if_pos hrows]
      split
      · next hload =>
        rw [Function.update_self, hnever]
        refine Or.inr ⟨rfl, fun hnone => ?_⟩
        have hlength := congrArg List.length hnone
        rw [Lib.length_rtake, List.length_nil] at hlength
        have hcapacity := (files.store.tiers j).ring.capacity_pos
        have hsaved := List.length_pos_of_ne_nil hload.2
        omega
      · exact Or.inl hnever
    · rw [if_neg fun hload => hrows (hempty.mp hload.1), if_neg hrows]
      exact h j
  · rw [openTierFile_of_ne files base hji]
    change (if _ then Function.update files.loads i _ else files.loads) j = 0 ∨
      (if _ then Function.update files.loads i _ else files.loads) j = 1 ∧ _
    have hsame : (if storeTierCount files.store i = 0 ∧ savedRows (persistOpen (files.store.tiers i))
        (files.disk (persistFilePath base i)) ≠ [] then
          Function.update files.loads i (files.loads i + 1) else files.loads) j = files.loads j := by
      split
      · exact Function.update_of_ne hji _ _
      · rfl
    rw [hsame]
    exact h j

end Open

/-- Either every tier comes to be recorded, or what was opened is closed again. -/
theorem openTiers_spec (results : Fin STORE_TIERS → Option StorageBase) {l : List (Fin STORE_TIERS)}
    (hrest : ∀ i, i ∉ l → files.Recorded i) (hlistens : files.Listens) (honce : files.LoadedOnce) :
    (files.openTiers results l).1.LoadedOnce ∧
      if (files.openTiers results l).2 then ∀ i, (files.openTiers results l).1.Recorded i
      else (∀ i, (files.openTiers results l).1.persists i = none) ∧
        ∀ i, ((files.openTiers results l).1.store.tiers i).callback = false := by
  induction l generalizing files with
  | nil => exact ⟨honce, fun i => hrest i List.not_mem_nil⟩
  | cons i l ih =>
    rw [openTiers]
    cases hresult : results i with
    | none =>
      obtain ⟨hpersists, hcallbacks, hloads, hring⟩ := closeAll_spec hlistens
      refine ⟨fun j => ?_, hpersists, hcallbacks⟩
      dsimp only
      rw [hloads, (hring j).tierRows_eq]
      exact honce j
    | some base =>
      refine ih (fun j hj => ?_) (hlistens.openTierFile base i) (honce.openTierFile base i)
      by_cases hji : j = i
      · subst hji
        exact recorded_openTierFile files base j
      · exact (hrest j fun hmem => (List.mem_cons.mp hmem).elim hji hj).openTierFile base i

section Push

/-- A listener appends to its file and leaves the store. -/
theorem onTierSample_spec (results : Fin STORE_TIERS → WriteResult)
    (files : HistoryFiles D registry) (call : Fin STORE_TIERS × Row CFloat registry.count) :
    (files.onTierSample results call).store = files.store ∧
      (files.onTierSample results call).loads = files.loads ∧
      ∀ i, ((files.onTierSample results call).persists i).isSome = (files.persists i).isSome := by
  rw [onTierSample]
  cases hopen : files.persists call.1 with
  | none => exact ⟨rfl, rfl, fun _ => rfl⟩
  | some opened =>
    refine ⟨rfl, rfl, fun i => ?_⟩
    dsimp only
    by_cases hi : i = call.1
    · rw [hi, Function.update_self, hopen]
      rfl
    · rw [Function.update_of_ne hi]

variable [SampleArith CFloat D]

/-- A push opens and closes nothing. -/
theorem push_spec (files : HistoryFiles D registry) (row : Row CFloat registry.count)
    (results : Fin STORE_TIERS → WriteResult) :
    (files.push row results).store = (storePush files.store row).1 ∧
      (files.push row results).loads = files.loads ∧
      ∀ i, ((files.push row results).persists i).isSome = (files.persists i).isSome := by
  have hall : ∀ (calls : List (Fin STORE_TIERS × Row CFloat registry.count))
      (files : HistoryFiles D registry), (calls.foldl (onTierSample results) files).store =
        files.store ∧ (calls.foldl (onTierSample results) files).loads = files.loads ∧
        ∀ i, ((calls.foldl (onTierSample results) files).persists i).isSome =
          (files.persists i).isSome := by
    intro calls
    induction calls with
    | nil => exact fun files => ⟨rfl, rfl, fun _ => rfl⟩
    | cons call calls ih =>
      intro files
      obtain ⟨hstore, hloads, hpersists⟩ := onTierSample_spec results files call
      obtain ⟨hstore', hloads', hpersists'⟩ := ih (files.onTierSample results call)
      exact ⟨hstore'.trans hstore, hloads'.trans hloads,
        fun i => (hpersists' i).trans (hpersists i)⟩
  exact hall _ _

/-- A tier that has rows has rows after a push. -/
theorem tierRows_push_ne_nil (i : Fin STORE_TIERS) {tier : StoreTier CFloat D registry.count}
    (h : tierRows tier ≠ []) (row : Row CFloat registry.count) :
    tierRows (tierPush i tier row).1 ≠ [] := by
  intro hnone
  have hlength := congrArg List.length hnone
  rw [tierRows_tierPush, Lib.length_rtake, List.length_append, List.length_nil] at hlength
  have hcapacity := tier.ring.capacity_pos
  have hrows := List.length_pos_of_ne_nil h
  omega

theorem LoadedOnce.push (h : files.LoadedOnce) (row : Row CFloat registry.count)
    (results : Fin STORE_TIERS → WriteResult) : (files.push row results).LoadedOnce := by
  obtain ⟨hstore, hloads, -⟩ := push_spec files row results
  intro i
  rw [hstore, hloads]
  exact (h i).imp_right fun honce => ⟨honce.1, tierRows_push_ne_nil i honce.2 row⟩

end Push

end HistoryFiles

namespace History

open HistoryFiles

/-- No file is open, no tier has a callback and the path is not set. -/
structure Shut (h : History D) : Prop where
  persists : ∀ i, h.files.persists i = none
  callbacks : ∀ i, (h.files.store.tiers i).callback = false
  persistPath : h.persistPath = none

/-- All three files are open, every tier has its callback and the path is set. -/
structure Opened (h : History D) : Prop where
  recorded : ∀ i, h.files.Recorded i
  persistPath : h.persistPath.isSome

/-- What `try_open_persistence` leaves: with `true` nothing has changed for its caller, and else
either the files are open, or a rebuild has set a new timer. -/
structure Tried (h : History D) (result : History D × Bool) : Prop where
  loaded : result.1.files.LoadedOnce
  again : result.2 = true →
    result.1.Shut ∧ result.1.retryTimer = h.retryTimer ∧ result.1.timers = h.timers
  done : result.2 = false →
    result.1.Opened ∧ result.1.retryTimer = false ∧ result.1.timers = h.timers ∨
      result.1.Shut ∧ result.1.retryTimer = true ∧ result.1.timers = h.timers + 1

variable [SampleArith CFloat D]

theorem tryOpenPersistence_spec {h : History D} (hshut : h.Shut) (hloaded : h.files.LoadedOnce)
    (attempt : Attempt) : h.Tried (h.tryOpenPersistence attempt) := by
  have hclosed : ¬ (h.files.persists 2).isSome := by
    rw [hshut.persists 2]
    exact Bool.false_ne_true
  induction attempt generalizing h with
  | opens results =>
    rw [tryOpenPersistence, if_neg hclosed]
    have hspec := openTiers_spec results (l := List.finRange STORE_TIERS)
      (fun i hi => absurd (List.mem_finRange i) hi) (fun i _ => hshut.callbacks i) hloaded
    revert hspec
    generalize h.files.openTiers results (List.finRange STORE_TIERS) = tried
    obtain ⟨files, opened⟩ := tried
    rintro ⟨hloaded, hresult⟩
    cases opened with
    | true =>
      refine ⟨hloaded, fun h => by simp at h,
        fun _ => Or.inl ⟨⟨hresult, ?_⟩, rfl, rfl⟩⟩
      obtain ⟨file, hfile⟩ := Option.isSome_iff_exists.mp (hresult 2).1
      dsimp only at hfile ⊢
      rw [hfile]
      rfl
    | false =>
      exact ⟨hloaded, fun _ => ⟨⟨hresult.1, hresult.2, rfl⟩, rfl, rfl⟩,
        fun h => by simp at h⟩
  | changed registry sampleIntervalS memory next ih =>
    rw [tryOpenPersistence, if_neg hclosed]
    simp only [rebuildForNewStorage]
    have hnext := ih (h := renew { h with retryTimer := false } registry sampleIntervalS memory)
      ⟨fun _ => rfl, fun _ => rfl, rfl⟩ (fun _ => Or.inl rfl) Bool.false_ne_true
    revert hnext
    generalize tryOpenPersistence _ next = tried
    obtain ⟨h', again⟩ := tried
    rintro ⟨hloaded', hagain, hdone⟩
    cases again with
    | true =>
      obtain ⟨hshut', hflag, htimers⟩ := hagain rfl
      dsimp only at hflag htimers ⊢
      rw [hflag]
      exact ⟨hloaded', fun h => by simp at h,
        fun _ => Or.inr ⟨⟨hshut'.persists, hshut'.callbacks, hshut'.persistPath⟩, rfl,
          congrArg (· + 1) htimers⟩⟩
    | false =>
      exact ⟨hloaded', fun h => by simp at h, fun _ => hdone rfl⟩

/-- The invariant of the main loop: the id is set just when a timer waits. -/
structure Settled (h : History D) : Prop where
  loaded : h.files.LoadedOnce
  state : h.Opened ∧ h.retryTimer = false ∧ h.timers = 0 ∨
    h.Shut ∧ h.retryTimer = true ∧ h.timers = 1

omit [SampleArith CFloat D] in
theorem Settled.allOrNothing {h : History D} (hsettled : h.Settled) : AllOrNothing h where
  opened := by
    obtain ⟨hopen, -, htimers⟩ | ⟨hshut, -, htimers⟩ := hsettled.state
    · exact Or.inl ⟨fun i => (hopen.recorded i).1, fun i => (hopen.recorded i).2,
        hopen.persistPath, htimers⟩
    · exact Or.inr ⟨hshut.persists, hshut.callbacks, hshut.persistPath, htimers⟩
  loads := fun i => by
    obtain hnever | ⟨honce, -⟩ := hsettled.loaded i <;> omega

theorem settled_start (registry : MetricRegistry) (sampleIntervalS memory : ℕ)
    (disk : Bytes → ByteFile) (attempt : Attempt) :
    (start registry sampleIntervalS memory disk attempt : History D).Settled := by
  rw [start]
  have htried := tryOpenPersistence_spec (D := D)
    (h := boot registry sampleIntervalS memory disk)
    ⟨fun _ => rfl, fun _ => rfl, rfl⟩ (fun _ => Or.inl rfl) attempt
  revert htried
  generalize tryOpenPersistence _ attempt = tried
  obtain ⟨h, again⟩ := tried
  rintro ⟨hloaded, hagain, hdone⟩
  cases again with
  | true =>
    obtain ⟨hshut, -, htimers⟩ := hagain rfl
    exact ⟨hloaded, Or.inr ⟨⟨hshut.persists, hshut.callbacks, hshut.persistPath⟩, rfl,
      congrArg (· + 1) htimers⟩⟩
  | false => exact ⟨hloaded, hdone rfl⟩

theorem Settled.step {h h' : History D} {event : HistoryEvent} (hsettled : h.Settled)
    (hstep : h.step event = some h') : h'.Settled := by
  cases event with
  | push timestamp values results =>
    cases hstep
    obtain ⟨hstore, -, hpersists⟩ :=
      push_spec h.files ⟨timestamp, fun i => values i⟩ results
    have hcallback : ∀ i, ((h.files.push ⟨timestamp, fun i => values i⟩ results).store.tiers
        i).callback = (h.files.store.tiers i).callback := fun i => by
      rw [hstore]
      exact tierPush_callback i _ _
    refine ⟨hsettled.loaded.push _ results, ?_⟩
    obtain ⟨hopen, hflag, htimers⟩ | ⟨hshut, hflag, htimers⟩ := hsettled.state
    · refine Or.inl ⟨⟨fun i => ⟨?_, ?_⟩, hopen.persistPath⟩, hflag, htimers⟩
      · rw [hpersists]
        exact (hopen.recorded i).1
      · rw [hcallback]
        exact (hopen.recorded i).2
    · refine Or.inr ⟨⟨fun i => ?_, fun i => ?_, hshut.persistPath⟩, hflag, htimers⟩
      · rw [← Option.not_isSome_iff_eq_none, hpersists, hshut.persists i]
        exact Bool.false_ne_true
      · rw [hcallback]
        exact hshut.callbacks i
  | retry attempt =>
    rw [History.step] at hstep
    split at hstep
    · cases hstep
    · next htimers =>
      -- a timer that fires finds nothing open
      obtain ⟨-, -, hnone⟩ | ⟨hshut, hflag, hone⟩ := hsettled.state
      · exact absurd hnone htimers
      have htried := tryOpenPersistence_spec hshut hsettled.loaded attempt
      revert htried hstep
      generalize h.tryOpenPersistence attempt = tried
      obtain ⟨h'', again⟩ := tried
      rintro hstep ⟨hloaded, hagain, hdone⟩
      cases again with
      | true =>
        cases hstep
        obtain ⟨hshut', hflag', htimers'⟩ := hagain rfl
        exact ⟨hloaded, Or.inr ⟨hshut', hflag'.trans hflag, htimers'.trans hone⟩⟩
      | false =>
        cases hstep
        refine ⟨hloaded, (hdone rfl).imp ?_ ?_⟩
        · rintro ⟨hopen, hflag', htimers'⟩
          refine ⟨⟨hopen.recorded, hopen.persistPath⟩, hflag', ?_⟩
          change h''.timers = h.timers at htimers'
          change h''.timers - 1 = 0
          omega
        · rintro ⟨hshut', hflag', htimers'⟩
          refine ⟨⟨hshut'.persists, hshut'.callbacks, hshut'.persistPath⟩, hflag', ?_⟩
          change h''.timers = h.timers + 1 at htimers'
          change h''.timers - 1 = 1
          omega

end History

variable [SampleArith CFloat D]

/-- After the start and after each event, the history is recorded in whole or not at all, and in the
second case exactly one timer is to retry it. No tier of a store is given saved rows twice. -/
theorem allOrNothing_run (registry : MetricRegistry) (sampleIntervalS memory : ℕ)
    (disk : Bytes → ByteFile) (attempt : Attempt) (events : List HistoryEvent) :
    Always History.step (History.start registry sampleIntervalS memory disk attempt : History D)
      events AllOrNothing := by
  intro done h hdone hrun
  refine History.Settled.allOrNothing ?_
  have hkeep : ∀ (h : History D) (event : HistoryEvent) (h' : History D), h.Settled → True →
      h.step event = some h' → h'.Settled := fun h event h' hsettled _ hstep => hsettled.step hstep
  exact Lib.always_of_step (History.settled_start registry sampleIntervalS memory disk attempt)
    hkeep (fun _ _ _ _ _ => trivial) done h hdone hrun

end AxisMetrics
