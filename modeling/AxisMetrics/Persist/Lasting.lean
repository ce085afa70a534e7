import AxisMetrics.Lib.Simulation
import AxisMetrics.Persist.Shelf

/-!
# Tiers that last

A device over any number of starts and stops, with samples, storage that comes and goes and rebuilds
in between. Against it a device without files, whose storages just keep the tiers. Both show the same
tiers in every run in which the record writes complete (`shown_device`), so the history files do what
they are for.
-/

namespace AxisMetrics

open Lib (Bytes ByteFile runFrom LockStep ascii)

variable {D : Type} {registry : MetricRegistry}

/-- A device that is off, or runs the app. -/
inductive Device (D : Type) where
  | off (disk : Bytes → ByteFile)
  | on (h : History D)

inductive DeviceEvent where
  /-- `main` up to its loop. -/
  | boot (registry : MetricRegistry) (sampleIntervalS memory : ℕ) (attempt : Attempt)
  | history (event : HistoryEvent)
  /-- `main` after its loop. -/
  | stop

/-- A device whose storages keep the tiers. -/
inductive Lasting (D : Type) where
  | off (shelf : Shelf D)
  | on (registry : MetricRegistry) (tiers : ShelvedStore D registry)

section Machines

variable [SampleArith CFloat D]

def deviceStep : Device D → DeviceEvent → Option (Device D)
  | .off disk, .boot registry sampleIntervalS memory attempt =>
    some (.on (.start registry sampleIntervalS memory disk attempt))
  | .on h, .history event => (h.step event).map Device.on
  | .on h, .stop => some (.off h.files.closeAll.disk)
  | _, _ => none

/-- A new store in front of a shelf. -/
def ShelvedStore.new (registry : MetricRegistry) (sampleIntervalS memory : ℕ) (shelf : Shelf D) :
    ShelvedStore D registry :=
  ⟨shelf, storeNew registry sampleIntervalS memory, fun _ => none⟩

/-- An attempt to open the history, with its rebuilds. -/
def Lasting.tryOpen {registry : MetricRegistry} (tiers : ShelvedStore D registry)
    (attempt : Attempt) : Lasting D :=
  match attempt with
  | .opens results => .on registry (tiers.openTiers results (List.finRange STORE_TIERS))
  | .changed found sampleIntervalS memory next =>
    Lasting.tryOpen (ShelvedStore.new found sampleIntervalS memory tiers.closeAll.shelf) next
termination_by structural attempt

def lastingStep : Lasting D → DeviceEvent → Option (Lasting D)
  | .off shelf, .boot registry sampleIntervalS memory attempt =>
    some (Lasting.tryOpen (.new registry sampleIntervalS memory shelf) attempt)
  | .on registry tiers, .history (.push timestamp values _) =>
    some (.on registry (tiers.push ⟨timestamp, fun i => values i⟩))
  | .on _ tiers, .history (.retry attempt) =>
    if (tiers.opened 2).isSome then none else some (Lasting.tryOpen tiers attempt)
  | .on _ tiers, .stop => some (.off tiers.closeAll.shelf)
  | _, _ => none

end Machines

/-- The metrics of a store, as a device has them. -/
def Metered (registry : MetricRegistry) (sampleIntervalS : ℕ) : Prop :=
  Sizes registry sampleIntervalS ∧ registry.count ≠ 0

def Attempt.Metered : Attempt → Prop
  | .opens _ => True
  | .changed registry sampleIntervalS _ next =>
    AxisMetrics.Metered registry sampleIntervalS ∧ next.Metered

/-- The metrics are those of a device, and the record writes complete. -/
def DeviceEvent.Regular : DeviceEvent → Prop
  | .boot registry sampleIntervalS _ attempt => Metered registry sampleIntervalS ∧ attempt.Metered
  | .history (.push _ _ results) => ∀ i, results i = .complete
  | .history (.retry attempt) => attempt.Metered
  | .stop => True

/-- The files of a device do what the shelf of the other does. -/
inductive Lasts : Device D → Lasting D → Prop where
  | off {disk : Bytes → ByteFile} {shelf : Shelf D}
      (h : ∀ i base, Recalls (disk (persistFilePath base i)) (shelf base i)) :
      Lasts (.off disk) (.off shelf)
  | on {h : History D} {tiers : ShelvedStore D h.registry} (hsettled : h.Settled)
      (hshelved : Shelved h.files tiers) : Lasts (.on h) (.on h.registry tiers)

theorem closeAll_opened (tiers : ShelvedStore D registry) (i : Fin STORE_TIERS) :
    tiers.closeAll.opened i = none := by
  have hone : ∀ (tiers : ShelvedStore D registry) (j : Fin STORE_TIERS),
      (tiers.closeTier j).opened = Function.update tiers.opened j none := by
    intro tiers j
    unfold ShelvedStore.closeTier
    cases hopened : tiers.opened j with
    | none => exact (Function.update_eq_self_iff.mpr hopened.symm).symm
    | some base => rfl
  have hall : ∀ (l : List (Fin STORE_TIERS)) (tiers : ShelvedStore D registry),
      i ∈ l ∨ tiers.opened i = none → (l.foldl ShelvedStore.closeTier tiers).opened i = none := by
    intro l
    induction l with
    | nil => exact fun _ h => h.resolve_left List.not_mem_nil
    | cons j l ih =>
      intro tiers h
      refine ih _ ?_
      rw [hone]
      by_cases hij : i = j
      · rw [hij, Function.update_self]
        exact Or.inr rfl
      · rw [Function.update_of_ne hij]
        exact h.imp_left fun hmem => (List.mem_cons.mp hmem).resolve_left hij
  exact hall _ _ (Or.inl (List.mem_finRange i))

section Simulation

variable [SampleArith CFloat D]

/-- A new store has no file open. -/
theorem shelved_new {sampleIntervalS : ℕ} (h : Metered registry sampleIntervalS) (memory : ℕ)
    {disk : Bytes → ByteFile} {shelf : Shelf D}
    (hrecalls : ∀ i base, Recalls (disk (persistFilePath base i)) (shelf base i)) :
    Shelved (.new registry sampleIntervalS memory disk)
      (.new registry sampleIntervalS memory shelf) where
  store := rfl
  shut _ _ := rfl
  mirrors _ _ hopened := absurd hopened (Option.some_ne_none _).symm
  recalls i base _ := hrecalls i base
  fits := History.fits_new h.1 memory disk
  metrics := h.2

omit [SampleArith CFloat D] in
/-- Where no file is open, every one of them is on the shelf. -/
theorem Shelved.recalls_of_shut {files : HistoryFiles D registry} {tiers : ShelvedStore D registry}
    (h : Shelved files tiers) (hshut : ∀ i, tiers.opened i = none) (i : Fin STORE_TIERS)
    (base : StorageBase) : Recalls (files.disk (persistFilePath base i)) (tiers.shelf base i) :=
  h.recalls i base (by rw [hshut i]; exact (Option.some_ne_none base).symm)

omit [SampleArith CFloat D] in
/-- A tier is open for the one when it is for the other. -/
theorem Shelved.isSome_opened {files : HistoryFiles D registry} {tiers : ShelvedStore D registry}
    (h : Shelved files tiers) (i : Fin STORE_TIERS) :
    (tiers.opened i).isSome = (files.persists i).isSome := by
  cases hopened : tiers.opened i with
  | none =>
    rw [h.shut i hopened]
    rfl
  | some base =>
    obtain ⟨-, ring, ⟨persist, hpersist, -⟩, -⟩ := h.mirrors i base hopened
    rw [hpersist]
    rfl

/-- A rebuild is its attempt to open the history, but for the timers. -/
theorem rebuildForNewStorage_eq (h : History D) (registry : MetricRegistry)
    (sampleIntervalS memory : ℕ) (tryOpen : History D → History D × Bool) :
    ∃ retryTimer timers, h.rebuildForNewStorage registry sampleIntervalS memory tryOpen =
      { (tryOpen (h.renew registry sampleIntervalS memory)).1 with
        retryTimer := retryTimer
        timers := timers } := by
  simp only [History.rebuildForNewStorage]
  split
  · exact ⟨_, _, rfl⟩
  · exact ⟨_, _, rfl⟩

/-- An attempt fills the tiers from the files as it does from the shelf. -/
theorem tryOpen_shelved {h : History D} {tiers : ShelvedStore D h.registry} {attempt : Attempt}
    (hmetered : attempt.Metered) (hshut : h.Shut) (hshelved : Shelved h.files tiers) :
    ∃ tiers' : ShelvedStore D (h.tryOpenPersistence attempt).1.registry,
      Lasting.tryOpen tiers attempt = .on _ tiers' ∧
        Shelved (h.tryOpenPersistence attempt).1.files tiers' := by
  have hclosed : ¬ (h.files.persists 2).isSome := by
    rw [hshut.persists 2]
    exact Bool.false_ne_true
  have hnone : ∀ i, tiers.opened i = none := fun i => by
    rw [← Option.not_isSome_iff_eq_none, hshelved.isSome_opened, hshut.persists i]
    exact Bool.false_ne_true
  induction attempt generalizing h with
  | opens results =>
    have hopen := hshelved.openTiers results (List.nodup_finRange STORE_TIERS) fun i _ => hnone i
    rw [History.tryOpenPersistence, if_neg hclosed, Lasting.tryOpen]
    revert hopen
    generalize h.files.openTiers results (List.finRange STORE_TIERS) = tried
    obtain ⟨files, opened⟩ := tried
    intro hopen
    cases opened with
    | true => exact ⟨_, rfl, hopen⟩
    | false => exact ⟨_, rfl, hopen⟩
  | changed registry sampleIntervalS memory next ih =>
    obtain ⟨hregistry, hnext⟩ := hmetered
    rw [History.tryOpenPersistence, if_neg hclosed, Lasting.tryOpen]
    have hcloseAll := hshelved.closeAll
    have hrenewed : Shelved (History.renew { h with retryTimer := false } registry sampleIntervalS
        memory).files (.new registry sampleIntervalS memory tiers.closeAll.shelf) :=
      shelved_new hregistry memory fun i base =>
        hcloseAll.recalls_of_shut (closeAll_opened tiers) i base
    have hnew := ih hnext ⟨fun _ => rfl, fun _ => rfl, rfl⟩ hrenewed Bool.false_ne_true fun _ => rfl
    obtain ⟨retryTimer, timers', hrebuild⟩ := rebuildForNewStorage_eq { h with retryTimer := false }
      registry sampleIntervalS memory fun h => h.tryOpenPersistence next
    rw [hrebuild]
    dsimp only
    revert hnew
    generalize History.tryOpenPersistence _ next = tried
    exact fun hnew => hnew

/-- A start is an attempt with a new store. -/
theorem lasts_start {sampleIntervalS : ℕ} (hregistry : Metered registry sampleIntervalS)
    (memory : ℕ) {attempt : Attempt} (hattempt : attempt.Metered) {disk : Bytes → ByteFile}
    {shelf : Shelf D} (hrecalls : ∀ i base, Recalls (disk (persistFilePath base i)) (shelf base i)) :
    Lasts (.on (.start registry sampleIntervalS memory disk attempt))
      (Lasting.tryOpen (.new registry sampleIntervalS memory shelf) attempt) := by
  have hsettled := History.settled_start (D := D) registry sampleIntervalS memory disk attempt
  obtain ⟨tiers, htiers, hshelved⟩ :=
    tryOpen_shelved (h := History.boot registry sampleIntervalS memory disk) hattempt
      ⟨fun _ => rfl, fun _ => rfl, rfl⟩ (shelved_new hregistry memory hrecalls)
  have hstart : ∃ retryTimer timers,
      (History.start registry sampleIntervalS memory disk attempt : History D) =
        { ((History.boot registry sampleIntervalS memory disk).tryOpenPersistence attempt).1 with
          retryTimer := retryTimer
          timers := timers } := by
    simp only [History.start]
    split
    · exact ⟨_, _, rfl⟩
    · exact ⟨_, _, rfl⟩
  obtain ⟨retryTimer, timers, hstart⟩ := hstart
  have hshelf : Lasting.tryOpen (ShelvedStore.new registry sampleIntervalS memory shelf) attempt =
      .on _ tiers := htiers
  rw [hstart] at hsettled ⊢
  rw [hshelf]
  exact .on hsettled hshelved

/-- The retry timer. -/
theorem lasts_retry {h : History D} {tiers : ShelvedStore D h.registry} {attempt : Attempt}
    (hattempt : attempt.Metered) (hsettled : h.Settled) (hshelved : Shelved h.files tiers) :
    Option.Rel Lasts ((h.step (.retry attempt)).map Device.on)
      (lastingStep (.on h.registry tiers) (.history (.retry attempt))) := by
  have hnext : ∀ h', h.step (.retry attempt) = some h' → h'.Settled := fun _ => hsettled.step
  rw [lastingStep, hshelved.isSome_opened]
  obtain ⟨hopened, -, htimers⟩ | ⟨hshut, -, htimers⟩ := hsettled.state
  · have hnone : h.step (.retry attempt) = none := by
      rw [History.step, if_pos htimers]
    rw [hnone, if_pos (hopened.recorded 2).1]
    exact Option.Rel.none
  · obtain ⟨tiers', htiers, hshelved'⟩ := tryOpen_shelved hattempt hshut hshelved
    have hstep : ∃ timers, h.step (.retry attempt) =
        some { (h.tryOpenPersistence attempt).1 with timers := timers } := by
      rw [History.step, if_neg (by omega)]
      dsimp only
      split
      · exact ⟨_, rfl⟩
      · exact ⟨_, rfl⟩
    obtain ⟨timers, hstep⟩ := hstep
    rw [hstep, hshut.persists 2, Option.isSome_none, if_neg Bool.false_ne_true, htiers]
    exact Option.Rel.some (.on (hnext _ hstep) hshelved')

/-- Both devices do the same on every event, as long as the record writes complete. -/
theorem lockStep_device :
    LockStep (deviceStep (D := D)) lastingStep DeviceEvent.Regular Lasts := by
  intro device lasting event hlasts hregular
  cases hlasts with
  | @off disk shelf hrecalls =>
    cases event with
    | boot registry sampleIntervalS memory attempt =>
      exact Option.Rel.some (lasts_start hregular.1 memory hregular.2 hrecalls)
    | history event => exact Option.Rel.none
    | stop => exact Option.Rel.none
  | @on h tiers hsettled hshelved =>
    cases event with
    | boot registry sampleIntervalS memory attempt => exact Option.Rel.none
    | history event =>
      cases event with
      | push timestamp values results =>
        have hpush : h.step (.push timestamp values results) = some { h with
            files := h.files.push ⟨timestamp, fun i => values i⟩ results } := rfl
        exact Option.Rel.some (.on (hsettled.step hpush)
          (hshelved.push ⟨timestamp, fun i => values i⟩ hregular))
      | retry attempt => exact lasts_retry hregular hsettled hshelved
    | stop =>
      exact Option.Rel.some (.off fun i base =>
        hshelved.closeAll.recalls_of_shut (closeAll_opened tiers) i base)

/-- A store under the registry it is a store of. -/
structure ShownStore (D : Type) where
  registry : MetricRegistry
  store : Store CFloat D registry

omit [SampleArith CFloat D] in
/-- The store a device shows, whoever listens to it. -/
def Device.shown : Device D → Option (ShownStore D)
  | .off _ => none
  | .on h => some ⟨h.registry, h.files.store.unheard⟩

omit [SampleArith CFloat D] in
def Lasting.shown : Lasting D → Option (ShownStore D)
  | .off _ => none
  | .on registry tiers => some ⟨registry, tiers.store⟩

omit [SampleArith CFloat D] in
theorem Lasts.shown_eq {device : Device D} {lasting : Lasting D} (h : Lasts device lasting) :
    device.shown = lasting.shown := by
  cases h with
  | off hrecalls => rfl
  | @on h tiers hsettled hshelved =>
    rw [Device.shown, Lasting.shown, hshelved.store]

/-- The shelf that a disk is before the first start. -/
def foundShelf (disk : Bytes → ByteFile) : Shelf D :=
  fun base i => .found (disk (persistFilePath base i))

omit [SampleArith CFloat D] in
theorem lasts_found (disk : Bytes → ByteFile) :
    Lasts (.off disk : Device D) (.off (foundShelf disk)) := .off fun _ _ _ _ => rfl

/-- Over any starts and stops, samples, rebuilds and storage that comes late, a device with history
files shows what a device shows whose storages keep the tiers. -/
theorem shown_device (disk : Bytes → ByteFile) {events : List DeviceEvent}
    (hregular : ∀ event ∈ events, event.Regular) :
    (runFrom deviceStep (.off disk : Device D) events).map Device.shown =
      (runFrom lastingStep (.off (foundShelf disk)) events).map Lasting.shown :=
  Lib.map_eq_of_rel (fun _ _ => Lasts.shown_eq)
    (lockStep_device.run (lasts_found disk) hregular)

end Simulation

/-- A card is recorded to, and found again after the device was switched off. -/
def rebootRun : List DeviceEvent :=
  [.boot cardRegistry 1 0 (.opens fun _ => some sdCard),
    .history (.push 2000 (fun _ => ⟨0x3f800000⟩) fun _ => .complete),
    .history (.push 2001 (fun _ => ⟨0x40000000⟩) fun _ => .complete), .stop,
    .boot cardRegistry 1 0 (.opens fun _ => some sdCard),
    .history (.push 2005 (fun _ => ⟨0x40400000⟩) fun _ => .complete)]

theorem rebootRun_regular : ∀ event ∈ rebootRun, event.Regular := by
  have hcard : Metered cardRegistry 1 := ⟨⟨by decide, by decide⟩, by decide⟩
  intro event hevent
  simp only [rebootRun, List.mem_cons, List.not_mem_nil, or_false] at hevent
  obtain rfl | rfl | rfl | rfl | rfl | rfl := hevent
  · exact ⟨hcard, trivial⟩
  · exact fun _ => rfl
  · exact fun _ => rfl
  · trivial
  · exact ⟨hcard, trivial⟩
  · exact fun _ => rfl

/-- Both samples are shown after the second start, and the next one behind them. -/
theorem shown_device_reboot :
    (runFrom deviceStep (.off fun _ => .empty : Device Float) rebootRun).map Device.shown =
        (runFrom lastingStep (.off (foundShelf fun _ => .empty)) rebootRun).map Lasting.shown ∧
      ((runFrom lastingStep (.off (foundShelf fun _ => .empty) : Lasting Float) rebootRun).bind
        Lasting.shown).map (fun shown => (tierRows (shown.store.tiers 0)).map Row.timestamp) =
          some [2000, 2001, 2005] :=
  ⟨shown_device _ rebootRun_regular, rfl⟩

end AxisMetrics
