import AxisMetrics.Persist.Ledger

/-!
# Storage that comes late

Opening a tier's file is harmless where one of the two histories is empty or the file is a copy of
the tier, and then the tier holds what its ledger says. An attempt is a few such openings, with
rebuilds in front of them that free empty tiers only. `keepsLedgers_of_throughout` carries this over
runs. Where both histories have rows, the file is laid out anew over what was saved.
-/

namespace AxisMetrics

open Lib (Bytes ByteFile RingBuffer ascii snprintf runFrom Throughout)

variable {D : Type} {registry : MetricRegistry}

/-- A path is not cut, so it ends in the name of its file. -/
theorem persistFilePath_eq (base : StorageBase) (i : Fin STORE_TIERS) : persistFilePath base i =
    (base.1 ++ ascii "/" ++ APP_SUBDIR) ++ (ascii "/" ++ PERSIST_FILES i) := by
  have hbase := base.2
  have hname : ∀ i, (PERSIST_FILES i).length < 20 := by decide
  have hfile := hname i
  have hsubdir : APP_SUBDIR.length = 7 := rfl
  have hslash : (ascii "/").length = 1 := rfl
  rw [persistFilePath, Lib.snprintf_eq_self, Lib.snprintf_eq_self, List.append_assoc]
  · simp only [List.length_append]
    omega
  · rw [Lib.snprintf_eq_self] <;> simp only [List.length_append] <;> omega

/-- The files of two tiers never share a path, wherever they are. -/
theorem persistFilePath_ne {i j : Fin STORE_TIERS} (h : i ≠ j) (base base' : StorageBase) :
    persistFilePath base i ≠ persistFilePath base' j := by
  -- the last twelve bytes already differ
  have hend : ∀ base i, (persistFilePath base i).reverse.take 12 =
      (ascii "/" ++ PERSIST_FILES i).reverse.take 12 := by
    intro base i
    have hlong : ∀ i, 12 ≤ (ascii "/" ++ PERSIST_FILES i).reverse.length := by decide
    rw [persistFilePath_eq, List.reverse_append, List.take_append_of_le_length (hlong i)]
  have hdiffer : ∀ i j, i ≠ j → (ascii "/" ++ PERSIST_FILES i).reverse.take 12 ≠
      (ascii "/" ++ PERSIST_FILES j).reverse.take 12 := by decide
  intro hsame
  apply hdiffer i j h
  rw [← hend base i, ← hend base' j, hsame]

@[simp] theorem length_ledgerRows (rows : List (Row CFloat registry.count)) :
    (ledgerRows rows).length = rows.length :=
  List.length_map _

theorem ledgerRows_rtake (rows : List (Row CFloat registry.count)) (n : ℕ) :
    ledgerRows (rows.rtake n) = (ledgerRows rows).rtake n :=
  Lib.map_rtake _ _ _

namespace HistoryFiles

/-- The intervals and capacities of all tiers fit the headers of their files. -/
def Fits (files : HistoryFiles D registry) : Prop :=
  ∀ i, LayoutFits registry (files.store.tiers i).intervalS (files.store.tiers i).ring.capacity

/-- A tier that owes nothing is empty. -/
theorem Owes.tierRows_eq_nil_iff {files : HistoryFiles D registry} {ledger : Ledger}
    (h : files.Owes ledger) (i : Fin STORE_TIERS) :
    tierRows (files.store.tiers i) = [] ↔ (ledger i).rows = [] := by
  have hlength := congrArg List.length (h i)
  have hcapacity := (files.store.tiers i).ring.capacity_pos
  rw [length_ledgerRows, Lib.length_rtake] at hlength
  rw [← List.length_eq_zero_iff, ← List.length_eq_zero_iff]
  omega

section Open

variable (files : HistoryFiles D registry) (base : StorageBase)

theorem shape_openTierFile (i j : Fin STORE_TIERS) :
    ((files.openTierFile i base).store.tiers j).intervalS = (files.store.tiers j).intervalS ∧
      ((files.openTierFile i base).store.tiers j).ring.capacity =
        (files.store.tiers j).ring.capacity := by
  by_cases hji : j = i
  · subst hji
    change ((storeSetTierCallback (if storeTierCount files.store j = 0 then
      (persistLoad _ _ _ _).1 else files.store) j true).tiers j).intervalS = _ ∧
      ((storeSetTierCallback (if storeTierCount files.store j = 0 then
      (persistLoad _ _ _ _).1 else files.store) j true).tiers j).ring.capacity = _
    rw [storeSetTierCallback, Store.setTier_self]
    dsimp only
    split
    · rw [persistLoad]
      dsimp only
      rw [restoreAll_tier]
      exact ⟨rfl, RingBuffer.pushAll_capacity _ _⟩
    · exact ⟨rfl, rfl⟩
  · rw [openTierFile_of_ne files base hji]
    exact ⟨rfl, rfl⟩

/-- The files of the other tiers are left as they are. -/
theorem disk_openTierFile_of_ne {i j : Fin STORE_TIERS} (h : j ≠ i) (base' : StorageBase) :
    (files.openTierFile i base).disk (persistFilePath base' j) =
      files.disk (persistFilePath base' j) :=
  Function.update_of_ne (persistFilePath_ne h base' base) _ _

variable {files}

/-- The file a tier was opened with holds the rows the tier has now. -/
theorem synced_openTierFile (hfits : files.Fits) (i : Fin STORE_TIERS) :
    (files.openTierFile i base).Synced i := by
  obtain ⟨hinterval, hcapacity⟩ := shape_openTierFile files base i i
  set persist := persistOpen (files.store.tiers i)
  set loaded := if storeTierCount files.store i = 0 then
    (persistLoad persist (files.disk (persistFilePath base i)) files.store i).1 else files.store
  have hrows : tierRows ((files.openTierFile i base).store.tiers i) = tierRows (loaded.tiers i) :=
    (sameRing_setTierCallback loaded i i true).tierRows_eq
  have hdisk : (files.openTierFile i base).disk (persistFilePath base i) =
      (files.disk (persistFilePath base i)).applyAll (persistSync persist loaded i).2 :=
    Function.update_self _ _ _
  refine ⟨base, ⟨persistFilePath base i, _⟩, Function.update_self _ _ _, rfl, ?_⟩
  dsimp only
  have hheld := length_tierRows_le ((files.openTierFile i base).store.tiers i)
  rw [hcapacity, hrows] at hheld
  rw [hdisk, hinterval, hrows, persistSync_eq, ByteFile.applyAll_append]
  have hcapacity' : 0 < persist.capacity := (files.store.tiers i).ring.capacity_pos
  obtain ⟨slots, hlaid⟩ := onDisk_initialiseFile persist (files.disk (persistFilePath base i))
    hcapacity' (hfits i)
  have hfits' : LayoutFits registry persist.intervalS
    (RingBuffer.empty persist.capacity slots hcapacity').capacity := hfits i
  obtain ⟨indexed, hdone⟩ := OnDisk.appends (tierRows (loaded.tiers i)) hfits' hlaid
  refine ⟨_, indexed, hdone, ?_⟩
  rw [RingBuffer.toList_pushAll_empty]
  exact Lib.rtake_of_length_le hheld

/-- Opening the file of another tier leaves it so. -/
theorem Synced.openTierFile {i j : Fin STORE_TIERS} (h : files.Synced j) (hji : j ≠ i) :
    (files.openTierFile i base).Synced j := by
  obtain ⟨base', opened, hopen, hpath, hholds⟩ := h
  refine ⟨base', opened, ?_, hpath, ?_⟩
  · change Function.update files.persists i _ j = some opened
    rw [Function.update_of_ne hji]
    exact hopen
  · rw [hpath, disk_openTierFile_of_ne files base hji, openTierFile_of_ne files base hji, ← hpath]
    exact hholds

end Open

section Owes

variable {files : HistoryFiles D registry} {ledger : Ledger} {base : StorageBase}
  {i j : Fin STORE_TIERS}

/-- A tier takes over what its file holds, or already has all that is counted, or has no room. -/
theorem Owes.openTierFile_iff (h : files.Owes ledger) :
    (files.openTierFile i base).Owes (ledger.openTierFile files i base) ↔
      files.TakesOver ledger i base := by
  obtain ⟨-, hcapacity⟩ := shape_openTierFile files base i i
  have hother : ∀ j, j ≠ i → ledgerRows (tierRows ((files.openTierFile i base).store.tiers j)) =
      (ledger.openTierFile files i base j).rows.rtake
        ((files.openTierFile i base).store.tiers j).ring.capacity := by
    intro j hji
    rw [openTierFile_of_ne files base hji, Ledger.openTierFile, Function.update_of_ne hji]
    exact h j
  have hone : (files.openTierFile i base).Owes (ledger.openTierFile files i base) ↔
      ledgerRows (tierRows ((files.openTierFile i base).store.tiers i)) =
        (ledger.openTierFile files i base i).rows.rtake (files.store.tiers i).ring.capacity := by
    constructor
    · intro howes
      rw [← hcapacity]
      exact howes i
    · intro hi j
      by_cases hji : j = i
      · subst hji
        rw [hcapacity]
        exact hi
      · exact hother j hji
  rw [hone, Ledger.openTierFile, Function.update_self, tierRows_openTierFile, TierLedger.takeOver,
    TakesOver]
  by_cases hrows : tierRows (files.store.tiers i) = []
  · have hnone : (ledger i).rows = [] := (h.tierRows_eq_nil_iff i).mp hrows
    rw [if_pos hrows, if_neg (by simp [hnone]), hnone, List.append_nil, ledgerRows_rtake]
    exact iff_of_true rfl (Or.inr (Or.inl hrows))
  · have howed : (ledger i).rows ≠ [] := fun hnone => hrows ((h.tierRows_eq_nil_iff i).mpr hnone)
    rw [if_neg hrows]
    by_cases hcounted : persistFilePath base i ∈ (ledger i).counted
    · rw [if_pos ⟨hcounted, List.isEmpty_eq_false_iff.mpr howed⟩]
      exact iff_of_true (h i) (Or.inr (Or.inr (Or.inr hcounted)))
    · rw [if_neg fun hboth => hcounted hboth.1, h i]
      have hlength := congrArg List.length (h i)
      rw [length_ledgerRows, Lib.length_rtake] at hlength
      constructor
      · intro heq
        have hsame := congrArg List.length heq
        rw [Lib.length_rtake, Lib.length_rtake, List.length_append, length_ledgerRows] at hsame
        by_cases hsaved : Ledger.saved files i base = []
        · exact Or.inl hsaved
        · have hpos := List.length_pos_of_ne_nil hsaved
          exact Or.inr (Or.inr (Or.inl (by omega)))
      · rintro (hsaved | hnil | hfull | hmem)
        · rw [hsaved]
          rfl
        · exact absurd hnil hrows
        · have hroom : (files.store.tiers i).ring.capacity ≤ (ledger i).rows.length := by omega
          rw [List.rtake, List.rtake, List.length_append, Nat.add_sub_assoc hroom,
            List.drop_length_add_append]
        · exact absurd hmem hcounted

theorem Fits.openTierFile (h : files.Fits) (i : Fin STORE_TIERS) (base : StorageBase) :
    (files.openTierFile i base).Fits := by
  intro j
  obtain ⟨hinterval, hcapacity⟩ := shape_openTierFile files base i j
  rw [hinterval, hcapacity]
  exact h j

/-- Whether another file can be taken over does not change. -/
theorem TakesOver.openTierFile {base' : StorageBase} (h : files.TakesOver ledger j base')
    (hji : j ≠ i) :
    (files.openTierFile i base).TakesOver (ledger.openTierFile files i base) j base' := by
  rw [TakesOver, Ledger.saved, openTierFile_of_ne files base hji,
    disk_openTierFile_of_ne files base hji, Ledger.openTierFile, Function.update_of_ne hji]
  exact h

/-- The files are opened one after the other, as long as they can be. -/
theorem openTiers_keeps (results : Fin STORE_TIERS → Option StorageBase)
    {l : List (Fin STORE_TIERS)} (hsorted : l.Pairwise (· < ·))
    (hdone : ∀ j, j ∉ l → (results j).isSome ∧ files.Synced j) (hlistens : files.Listens)
    (hfits : files.Fits) (howes : files.Owes ledger)
    (htakes : ∀ i ∈ l, ∀ base, (∀ j < i, (results j).isSome) → results i = some base →
      files.TakesOver ledger i base) :
    (files.openTiers results l).1.Fits ∧
      (files.openTiers results l).1.Owes (ledger.openTiers results files l) ∧
      if (files.openTiers results l).2 then ∀ i, (files.openTiers results l).1.Synced i
      else ∀ i, (files.openTiers results l).1.persists i = none := by
  induction l generalizing files ledger with
  | nil => exact ⟨hfits, howes, fun i => (hdone i List.not_mem_nil).2⟩
  | cons i l ih =>
    rw [openTiers, Ledger.openTiers]
    obtain ⟨hfirst, hsorted'⟩ := List.pairwise_cons.mp hsorted
    have hbefore : ∀ j < i, (results j).isSome := fun j hj =>
      (hdone j fun hmem => (List.mem_cons.mp hmem).elim (fun hji => (hji ▸ hj).false)
        fun hmem => (hj.trans (hfirst j hmem)).false).1
    cases hresult : results i with
    | none =>
      obtain ⟨hnone, -, -, hring⟩ := closeAll_spec hlistens
      refine ⟨fun j => ?_, fun j => ?_, hnone⟩
      · dsimp only
        rw [(hring j).intervalS_eq, (hring j).ring_eq]
        exact hfits j
      · dsimp only
        rw [(hring j).tierRows_eq, (hring j).ring_eq]
        exact howes j
    | some base =>
      have hhead := htakes i List.mem_cons_self base hbefore hresult
      refine ih hsorted' (fun j hj => ?_) (hlistens.openTierFile base i)
        (hfits.openTierFile i base) (howes.openTierFile_iff.mpr hhead) fun j hj base' hall hbase' => ?_
      · by_cases hji : j = i
        · subst hji
          exact ⟨by rw [hresult]; rfl, synced_openTierFile base hfits j⟩
        · have hrest := hdone j fun hmem => (List.mem_cons.mp hmem).elim hji hj
          exact ⟨hrest.1, hrest.2.openTierFile base hji⟩
      · exact (htakes j (List.mem_cons_of_mem _ hj) base' hall hbase').openTierFile
          (hfirst j hj).ne'

end Owes

end HistoryFiles

namespace History

open HistoryFiles

variable [SampleArith CFloat D]

/-- A new store fits the headers. -/
theorem fits_new {sampleIntervalS : ℕ} (h : Sizes registry sampleIntervalS) (memory : ℕ)
    (disk : Bytes → ByteFile) :
    (HistoryFiles.new registry sampleIntervalS memory disk : HistoryFiles D registry).Fits := by
  intro i
  have hnew : StoreReachable registry sampleIntervalS memory
      (storeNew registry sampleIntervalS memory : Store CFloat D registry) := .new
  have hbounds := hnew.capacity_bounds i
  refine ⟨h.1, hnew.intervalS_lt h.2 i, ?_⟩
  change ((storeNew registry sampleIntervalS memory : Store CFloat D registry).tiers
    i).ring.capacity < 2 ^ 31
  omega

/-- Nothing is owed to empty tiers, whatever the metrics are called now. -/
theorem owes_new {ledger : Ledger} (h : ∀ i, (ledger i).rows = []) (sampleIntervalS memory : ℕ)
    (disk : Bytes → ByteFile) :
    (HistoryFiles.new registry sampleIntervalS memory disk : HistoryFiles D registry).Owes ledger := by
  intro i
  rw [h i, List.rtake_nil]
  rfl

/-- A harmless attempt leaves the tiers with what they owe, and the files too if it opens them. -/
theorem tryOpenPersistence_keeps {h : History D} {ledger : Ledger} (hshut : h.Shut)
    (hfits : h.files.Fits) (howes : h.files.Owes ledger) {attempt : Attempt}
    (hharmless : Harmless h ledger attempt) :
    (h.tryOpenPersistence attempt).1.files.Fits ∧
      (h.tryOpenPersistence attempt).1.files.Owes (ledger.tryOpen h attempt) ∧
      ((∀ i, ((h.tryOpenPersistence attempt).1.files.persists i).isSome) →
        ∀ i, (h.tryOpenPersistence attempt).1.files.Synced i) := by
  have hclosed : ¬ (h.files.persists 2).isSome := by
    rw [hshut.persists 2]
    exact Bool.false_ne_true
  induction attempt generalizing h ledger with
  | opens results =>
    rw [tryOpenPersistence, if_neg hclosed, Ledger.tryOpen, if_neg hclosed]
    have hkeeps := openTiers_keeps results (l := List.finRange STORE_TIERS)
      (List.pairwise_lt_finRange _) (fun j hj => absurd (List.mem_finRange j) hj)
      (fun i _ => hshut.callbacks i) hfits howes (fun i _ => hharmless i)
    revert hkeeps
    generalize h.files.openTiers results (List.finRange STORE_TIERS) = tried
    obtain ⟨files, opened⟩ := tried
    rintro ⟨hfits', howes', hsynced⟩
    cases opened with
    | true => exact ⟨hfits', howes', fun _ => hsynced⟩
    | false =>
      refine ⟨hfits', howes', fun hopen => ?_⟩
      have hsome := hopen 2
      rw [hsynced 2] at hsome
      cases hsome
  | changed registry sampleIntervalS memory next ih =>
    obtain ⟨hsizes, hempty, hnext⟩ := hharmless
    rw [tryOpenPersistence, if_neg hclosed, Ledger.tryOpen, if_neg hclosed]
    have howed : ∀ i, (ledger i).rows.map (LedgerRow.carry registry) = [] := fun i => by
      rw [(howes.tierRows_eq_nil_iff i).mp (hempty i), List.map_nil]
    have hkeeps := ih (h := renew { h with retryTimer := false } registry sampleIntervalS memory)
      ⟨fun _ => rfl, fun _ => rfl, rfl⟩ (fits_new hsizes memory _)
      (owes_new howed sampleIntervalS memory _) hnext Bool.false_ne_true
    simp only [rebuildForNewStorage]
    revert hkeeps
    generalize tryOpenPersistence _ next = tried
    obtain ⟨h', again⟩ := tried
    rintro ⟨hfits', howes', hsynced⟩
    dsimp only
    generalize (again && !h'.retryTimer) = waits
    cases waits <;> exact ⟨hfits', howes', hsynced⟩

/-- A push gives each tier the row that its ledger is given. -/
theorem owes_push {h : History D} {ledger : Ledger} (howes : h.files.Owes ledger)
    (timestamp : Int64) (values : ℕ → CFloat) (results : Fin STORE_TIERS → WriteResult) :
    (h.files.push ⟨timestamp, fun m => values m⟩ results).Owes
      (ledger.step h (.push timestamp values results)) := by
  obtain ⟨hstore, -, -⟩ := push_spec h.files ⟨timestamp, fun m => values m⟩ results
  intro i
  rw [hstore]
  have hcapacity : ((storePush h.files.store ⟨timestamp, fun m => values m⟩).1.tiers
      i).ring.capacity = (h.files.store.tiers i).ring.capacity := tierPush_capacity i _ _
  have hrows : tierRows ((storePush h.files.store ⟨timestamp, fun m => values m⟩).1.tiers i) =
      (tierRows (h.files.store.tiers i) ++
        (tierPush i (h.files.store.tiers i) ⟨timestamp, fun m => values m⟩).2.toList).rtake
          (h.files.store.tiers i).ring.capacity := tierRows_tierPush i _ _
  rw [hcapacity, hrows, ledgerRows_rtake, ledgerRows, List.map_append, ← ledgerRows, howes i,
    Lib.rtake_rtake_append]
  rfl

theorem fits_push {files : HistoryFiles D registry} (hfits : files.Fits)
    (row : Row CFloat registry.count) (results : Fin STORE_TIERS → WriteResult) :
    (files.push row results).Fits := by
  obtain ⟨hstore, -, -⟩ := push_spec files row results
  intro i
  rw [hstore]
  have hinterval : ((storePush files.store row).1.tiers i).intervalS =
      (files.store.tiers i).intervalS := tierPush_intervalS i _ _
  have hcapacity : ((storePush files.store row).1.tiers i).ring.capacity =
      (files.store.tiers i).ring.capacity := tierPush_capacity i _ _
  rw [hinterval, hcapacity]
  exact hfits i

end History

/-- The invariant of a run that loses nothing. -/
structure Solvent (s : Ledgered D) : Prop where
  settled : s.1.Settled
  fits : s.1.files.Fits
  owes : s.1.files.Owes s.2

section Run

variable [SampleArith CFloat D]

/-- A retry that discards nothing, and its files if it opens them. -/
theorem Solvent.retry {s s' : Ledgered D} {attempt : Attempt} (hs : Solvent s)
    (hharmless : Harmless s.1 s.2 attempt) (hstep : ledgeredStep s (.retry attempt) = some s') :
    Solvent s' ∧ (AllOpen s'.1 → ∀ i, s'.1.files.Synced i) := by
  obtain ⟨h, ledger⟩ := s
  obtain ⟨h', hhistory, rfl⟩ := Option.map_eq_some_iff.mp hstep
  have hsettled := hs.settled.step hhistory
  rw [History.step] at hhistory
  split at hhistory
  · cases hhistory
  · next htimers =>
    obtain ⟨-, -, hnone⟩ | ⟨hshut, -, -⟩ := hs.settled.state
    · exact absurd hnone htimers
    obtain ⟨hfits, howes, hsynced⟩ :=
      History.tryOpenPersistence_keeps hshut hs.fits hs.owes hharmless
    dsimp only at htimers hfits howes hsynced
    rw [Ledger.step, if_neg htimers]
    revert hsettled hfits howes hsynced hhistory
    dsimp only
    generalize h.tryOpenPersistence attempt = tried
    obtain ⟨h'', again⟩ := tried
    intro hsettled hhistory hfits howes hsynced
    cases again with
    | true =>
      cases hhistory
      exact ⟨⟨hsettled, hfits, howes⟩, fun hopen => hsynced hopen.persists⟩
    | false =>
      cases hhistory
      exact ⟨⟨hsettled, hfits, howes⟩, fun hopen => hsynced hopen.persists⟩

theorem Solvent.step {s s' : Ledgered D} {event : HistoryEvent} (hs : Solvent s)
    (hevent : LosesNothing s event) (hstep : ledgeredStep s event = some s') : Solvent s' := by
  cases event with
  | push timestamp values results =>
    obtain ⟨h, ledger⟩ := s
    have hhistory : h.step (.push timestamp values results) = some _ := rfl
    cases hstep
    exact ⟨hs.settled.step hhistory, History.fits_push hs.fits _ _,
      History.owes_push hs.owes timestamp values results⟩
  | retry attempt => exact (hs.retry hevent hstep).1

variable {sampleIntervalS memory : ℕ} {disk : Bytes → ByteFile} {attempt : Attempt}

/-- The start is an attempt like the others, with every tier empty. -/
theorem solvent_start (hsizes : Sizes registry sampleIntervalS)
    (hharmless : Harmless (History.boot registry sampleIntervalS memory disk : History D)
      Ledger.empty attempt) :
    Solvent (ledgeredStart registry sampleIntervalS memory disk attempt : Ledgered D) ∧
      (AllOpen (History.start registry sampleIntervalS memory disk attempt : History D) →
        ∀ i, (History.start registry sampleIntervalS memory disk attempt : History D).files.Synced
          i) := by
  have hsettled := History.settled_start (D := D) registry sampleIntervalS memory disk attempt
  have hkeeps := History.tryOpenPersistence_keeps
    (h := History.boot registry sampleIntervalS memory disk) ⟨fun _ => rfl, fun _ => rfl, rfl⟩
    (History.fits_new hsizes memory disk) (History.owes_new (fun _ => rfl) _ _ _) hharmless
  revert hsettled hkeeps
  rw [ledgeredStart, History.start]
  generalize History.tryOpenPersistence _ attempt = tried
  obtain ⟨h, again⟩ := tried
  rintro hsettled ⟨hfits, howes, hsynced⟩
  dsimp only at hsettled ⊢
  cases again with
  | true => exact ⟨⟨hsettled, hfits, howes⟩, fun hopen => hsynced hopen.persists⟩
  | false => exact ⟨⟨hsettled, hfits, howes⟩, fun hopen => hsynced hopen.persists⟩

/-- A run of events that lose nothing: once the files are open, each tier, and its file right after
it was opened, holds what was saved followed by what came since, up to its capacity. -/
theorem keepsLedgers_of_throughout {events : List HistoryEvent}
    (hsizes : Sizes registry sampleIntervalS)
    (hharmless : Harmless (History.boot registry sampleIntervalS memory disk : History D)
      Ledger.empty attempt)
    (hevents : Throughout ledgeredStep
      (ledgeredStart registry sampleIntervalS memory disk attempt : Ledgered D) events
      LosesNothing) :
    KeepsLedgers (ledgeredStart registry sampleIntervalS memory disk attempt : Ledgered D)
      events := by
  obtain ⟨hstart, hsynced⟩ := solvent_start (D := D) hsizes hharmless
  have hsolvent := Lib.always_of_step hstart
    (fun s event s' hs hevent hstep => hs.step hevent hstep) hevents
  intro done s hdone hrun hopen
  refine ⟨(hsolvent done s hdone hrun).owes, fun hlast => ?_⟩
  rcases List.eq_nil_or_concat done with rfl | ⟨before, event, rfl⟩
  · cases hrun
    exact hsynced hopen
  · obtain ⟨attempt', rfl⟩ := hlast event (by simp)
    rw [List.concat_eq_append] at hdone hrun
    rw [Lib.runFrom_append] at hrun
    obtain ⟨s₀, hbefore, hlaststep⟩ := Option.bind_eq_some_iff.mp hrun
    have hs₀ := hsolvent before s₀ ((List.prefix_append _ _).trans hdone) hbefore
    rw [runFrom] at hlaststep
    obtain ⟨s', hstep, hend⟩ := Option.bind_eq_some_iff.mp hlaststep
    cases hend
    exact (hs₀.retry (hevents before _ s₀ hdone hbefore) hstep).2 hopen

end Run

/-- Where a card is mounted. -/
def sdCard : StorageBase := ⟨ascii "/var/spool/storage/areas/SD_DISK/root", by decide⟩

abbrev cardRegistry : MetricRegistry := .registerAll [ascii "cpu.usage"]

/-- A history with one row of one metric, properly closed. -/
@[irreducible] def cardFile : ByteFile :=
  ByteFile.empty.applyAll (oneSampleRun cardRegistry).2

/-- A card that has it as the history of the fine tier. -/
def cardDisk (path : Bytes) : ByteFile :=
  if path = persistFilePath sdCard 0 then cardFile else .empty

/-- A sample is taken before the card can be opened. -/
def lateCardRun : List HistoryEvent :=
  [.push 2000 (fun _ => ⟨0x3f800000⟩) fun _ => .complete, .retry (.opens fun _ => some sdCard)]

/-- A card without files is taken over, with the sample in front of it. -/
theorem keepsLedgers_newCard : KeepsLedgers (ledgeredStart cardRegistry 1 0
    (fun _ => .empty) (.opens fun _ => none) : Ledgered Float) lateCardRun := by
  refine keepsLedgers_of_throughout ⟨by decide, by decide⟩ (fun _ _ _ hbase => by cases hbase) ?_
  refine Lib.throughout_cons.mpr ⟨trivial, fun s hs => Lib.throughout_cons.mpr ⟨?_, fun s' _ =>
    Lib.throughout_nil⟩⟩
  cases hs
  exact fun i base _ _ => Or.inl rfl

/-- The row is found again. -/
theorem length_savedRows_cardFile (persist : Persist cardRegistry)
    (hinterval : persist.intervalS = 1) : (savedRows persist cardFile).length = 1 := by
  have hnew : StoreReachable cardRegistry 1 0
      (storeNew cardRegistry 1 0 : Store CFloat Float _) := .new
  obtain ⟨ring, hf, hlist, hdisk⟩ := onDisk_recordTier hnew (by decide) (by decide) 0
    [⟨1000, fun _ => ⟨0x3f800000⟩⟩] ByteFile.empty
  have hrows : ring.toList = [⟨1000, fun _ => ⟨0x3f800000⟩⟩] := by
    rw [hlist]
    exact tierRows_oneSampleRun _
  have hf' : LayoutFits cardRegistry persist.intervalS ring.capacity := by
    rw [hinterval]
    exact hf
  have hdisk' : OnDisk cardRegistry persist.intervalS cardFile ring ring := by
    rw [hinterval, cardFile]
    exact hdisk
  have hsaved : savedRows persist cardFile = ring.toList.map (remapRow _ _) :=
    hdisk'.savedRows_of_flushed hf' (by decide) (by rw [hrows]; decide)
  rw [hsaved, hrows, List.map_singleton, List.length_singleton]

/-- The row that was saved is gone from the tier and from the file. -/
theorem not_keepsLedgers_lateCard : ¬ KeepsLedgers (ledgeredStart cardRegistry
    1 0 cardDisk (.opens fun _ => none) : Ledgered Float) lateCardRun := by
  intro h
  have hkept := h lateCardRun _ List.prefix_rfl rfl ⟨fun i => ?_, fun i => ?_, rfl, rfl⟩
  · have hlength := congrArg List.length (hkept.tiers 0)
    rw [length_ledgerRows, Lib.length_rtake] at hlength
    set files : HistoryFiles Float cardRegistry :=
      (HistoryFiles.new cardRegistry 1 0 cardDisk).push ⟨2000, fun _ => ⟨0x3f800000⟩⟩
        fun _ => .complete
    have hsaved : (Ledger.saved files 0 sdCard).length = 1 := by
      change (savedRows (persistOpen (files.store.tiers 0))
        (cardDisk (persistFilePath sdCard 0))).length = 1
      rw [cardDisk, if_pos rfl]
      exact length_savedRows_cardFile _ rfl
    change 1 = min 1800 (ledgerRows (Ledger.saved files 0 sdCard) ++
      ledgerRows [(⟨2000, fun _ => ⟨0x3f800000⟩⟩ : Row CFloat cardRegistry.count)]).length at hlength
    rw [List.length_append, length_ledgerRows, hsaved] at hlength
    exact absurd hlength (by decide)
  · revert i
    decide
  · revert i
    decide

end AxisMetrics
