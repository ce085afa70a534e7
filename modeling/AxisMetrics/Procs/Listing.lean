import AxisMetrics.Api.Answers
import AxisMetrics.Api.Escapers
import AxisMetrics.Lib.Topmost
import AxisMetrics.Procs.Baseline
import Mathlib.Data.Prod.Lex

/-!
# The busiest processes

What `procs_json` says after any run of ticks. The table has no pid twice, and every entry is of a
process that the last scan read, with a share of the device that is a number; so the comparison of
two processes is one of their shares and memory, and the first of the sorted table are the busiest.
The document is read back as they are if their names are UTF-8, and not at all otherwise.
-/

namespace AxisMetrics

open Lib (Bytes ascii decimal decimalInt guint64 FloatDatum Json JsonPart jsonDocument Topmost
  ComparesKeys)

open Lib.JsonPart (object array number escaped fieldText)

/-- The exact number that is printed. -/
def rationalDatum : Option ℚ → FloatDatum
  | none => .nan false
  | some q => .finite (decide (q < 0)) q.num.natAbs q.den

instance : RenderArith (Option ℚ) (Option ℚ) where
  isinf _ := false
  format7g value := Lib.formatG 7 (rationalDatum value)
  formatG value := Lib.formatG 6 (rationalDatum value)
  format2f value := Lib.format2f (rationalDatum value)
  greater a b := DoubleArith.less b a

/-- By CPU, then by memory. -/
def busyness (proc : Proc (Option ℚ)) : ℚ ×ₗ ℕ := toLex (proc.cpuPercent.getD 0, proc.rssBytes)

/-- What the document says of a process. -/
def procValue (proc : Proc (Option ℚ)) : Json :=
  .object [(ascii "pid", .number (decimalInt proc.pid)), (ascii "name", .string proc.name),
    (ascii "cpu", .number (RenderArith.format2f (Option ℚ) proc.cpuPercent)),
    (ascii "rss", .number (decimal proc.rssBytes))]

/-- What the document says of the device and its busiest processes. -/
def listingValue (procs : Procs (Option ℚ)) (shown : List (Proc (Option ℚ))) : Json :=
  .object [(ascii "interval", .number (decimal PROCS_INTERVAL_S)),
    (ascii "cores", .number (decimal procs.cores)),
    (ascii "processes", .array (shown.map procValue)),
    (ascii "total", .number (decimal procs.entries.length))]

/-- The last of some scans that could open the directory. -/
def lastOpened (scans : List (ℤ × Machine)) : Option (ℤ × Machine) :=
  (scans.filter fun scan => (scan.2.dirNames (ascii "/proc")).isSome).getLast?

/-- The table is of the processes that a scan read, each once, with a share that is a number. -/
structure Listed (last : Option (ℤ × Machine)) (procs : TrackedProcs (Option ℚ)) : Prop where
  pids : (procs.entries.map fun proc => proc.pid).Nodup
  read : ∀ proc ∈ procs.entries, ∃ scan ∈ last, ∃ r ∈ scan.2.procReadings, proc.pid = r.pid ∧
    proc.name = r.name ∧ proc.rssBytes = guint64 (r.rssPages * procs.pageSize)
  shares : ∀ proc ∈ procs.entries, ∃ q, 0 ≤ q ∧ proc.cpuPercent = some q

/-- Every process that a scan read is in the table. -/
def HoldsAll (last : Option (ℤ × Machine)) (procs : TrackedProcs (Option ℚ)) : Prop :=
  ∀ scan ∈ last, ∀ r ∈ scan.2.procReadings, ∃ proc ∈ procs.entries, proc.pid = r.pid

-- ════════════════════════════════════════════════════════════════════════
-- The document
-- ════════════════════════════════════════════════════════════════════════

section Document

variable {proc : Proc (Option ℚ)} {procs : Procs (Option ℚ)}

/-- The parts of a process. -/
def procPart (proc : Proc (Option ℚ)) : JsonPart :=
  .object [(ascii "pid", .number (decimalInt proc.pid)),
    (ascii "name", .escaped procsEscapeByte proc.name),
    (ascii "cpu", .number (RenderArith.format2f (Option ℚ) proc.cpuPercent)),
    (ascii "rss", .number (decimal proc.rssBytes))]

/-- The parts of the document. -/
def listingPart (procs : Procs (Option ℚ)) (shown : List (Proc (Option ℚ))) : JsonPart :=
  .object [(ascii "interval", .number (decimal PROCS_INTERVAL_S)),
    (ascii "cores", .number (decimal procs.cores)),
    (ascii "processes", .array (shown.map procPart)),
    (ascii "total", .number (decimal procs.entries.length))]

theorem procJson_eq (proc : Proc (Option ℚ)) : procJson (Option ℚ) proc = (procPart proc).text := by
  simp [procJson, procPart, object, fieldText, number, escaped, ascii]

theorem procsJson_eq (procs : Procs (Option ℚ)) (limit : ℕ) : procsJson (Option ℚ) procs limit =
    (listingPart procs ((procs.entries.mergeSort (byCpu (Option ℚ))).take limit)).text := by
  rw [procsJson, List.map_congr_left fun proc _ => procJson_eq proc]
  simp [listingPart, object, array, fieldText, number, ascii, Function.comp_def]

/-- A share that is a number is printed as a number of JSON. -/
theorem isJsonNumber_format2f (q : ℚ) :
    Lib.isJsonNumber (RenderArith.format2f (Option ℚ) (some q)) = true := by
  let hundredths := Lib.roundDiv (q.num.natAbs * 100) q.den
  have hdigits : Lib.IsDigits (decimal (hundredths / 10 % 10) ++ decimal (hundredths % 10)) := by
    refine ⟨List.append_ne_nil_of_left_ne_nil (Lib.decimal_ne_nil _) _, fun b hb => ?_⟩
    obtain hb | hb := List.mem_append.mp hb
    · exact Lib.isDigit_of_mem_decimal hb
    · exact Lib.isDigit_of_mem_decimal hb
  have hnumber := Lib.isJsonNumber_parts (decide (q < 0)) (Lib.isWhole_decimal (hundredths / 100))
    (.inr ⟨_, rfl, hdigits⟩) (.inl rfl)
  rw [List.append_nil] at hnumber
  change Lib.isJsonNumber (Lib.signText _ ++ decimal (hundredths / 100) ++ [46] ++
    decimal (hundredths / 10 % 10) ++ decimal (hundredths % 10)) = true
  simpa only [List.append_assoc, List.cons_append, List.nil_append] using hnumber

theorem sound_procPart {q : ℚ} (h : proc.cpuPercent = some q) : (procPart proc).Sound := by
  refine JsonPart.sound_object ?_
  simp only [List.forall_mem_cons, List.not_mem_nil, false_implies, implies_true, and_true]
  refine ⟨⟨by decide, JsonPart.sound_number (Lib.isJsonNumber_decimalInt _)⟩,
    ⟨by decide, JsonPart.sound_escaped jsonPiece_procsEscapeByte _⟩,
    ⟨by decide, JsonPart.sound_number ?_⟩,
    by decide, JsonPart.sound_number (Lib.isJsonNumber_decimal _)⟩
  rw [h]
  exact isJsonNumber_format2f q

theorem sound_listingPart {shown : List (Proc (Option ℚ))}
    (h : ∀ proc ∈ shown, ∃ q, proc.cpuPercent = some q) : (listingPart procs shown).Sound := by
  have hshown : (array (shown.map procPart)).Sound := by
    refine JsonPart.sound_array fun part hpart => ?_
    obtain ⟨proc, hproc, rfl⟩ := List.mem_map.mp hpart
    obtain ⟨q, hq⟩ := h proc hproc
    exact sound_procPart hq
  have hnumber : ∀ n, (number (decimal n)).Sound := fun n =>
    JsonPart.sound_number (Lib.isJsonNumber_decimal n)
  refine JsonPart.sound_object ?_
  simp only [List.forall_mem_cons, List.not_mem_nil, false_implies, implies_true, and_true]
  exact ⟨⟨by decide, hnumber _⟩, ⟨by decide, hnumber _⟩, ⟨by decide, hshown⟩, by decide, hnumber _⟩

theorem good_listingPart (shown : List (Proc (Option ℚ))) : (listingPart procs shown).good =
    shown.all fun proc => Lib.isUtf8 proc.name := by
  simp [listingPart, procPart, object, array, number, escaped, Function.comp_def]

theorem value_listingPart (shown : List (Proc (Option ℚ))) :
    (listingPart procs shown).value = listingValue procs shown := by
  simp [listingPart, procPart, object, array, number, escaped, listingValue, procValue,
    Function.comp_def]

/-- The document is read back just if the names it shows are UTF-8. -/
theorem jsonDocument_procsJson {limit : ℕ} {shown : List (Proc (Option ℚ))}
    (hshown : (procs.entries.mergeSort (byCpu (Option ℚ))).take limit = shown)
    (h : ∀ proc ∈ shown, ∃ q, proc.cpuPercent = some q) :
    jsonDocument (procsJson (Option ℚ) procs limit) =
      if ∀ proc ∈ shown, Lib.isUtf8 proc.name = true then some (listingValue procs shown)
      else none := by
  rw [procsJson_eq, hshown, (sound_listingPart h).jsonDocument, JsonPart.read, good_listingPart,
    value_listingPart]
  simp only [List.all_eq_true]

/-- With shares that are numbers, the comparison is one of shares and memory. -/
theorem comparesKeys_byCpu {entries : List (Proc (Option ℚ))}
    (h : ∀ proc ∈ entries, ∃ q, proc.cpuPercent = some q) :
    ComparesKeys busyness (byCpu (Option ℚ)) entries := by
  intro a ha b hb
  obtain ⟨q, hq⟩ := h a ha
  obtain ⟨q', hq'⟩ := h b hb
  have hless : ∀ x y : ℚ, RenderArith.greater (Option ℚ) (some x) (some y) = decide (y < x) :=
    fun _ _ => rfl
  have hkeys : busyness b ≤ busyness a ↔ q' < q ∨ q' = q ∧ b.rssBytes ≤ a.rssBytes := by
    rw [busyness, busyness, Prod.Lex.toLex_le_toLex, hq, hq']
    rfl
  rw [Bool.eq_iff_iff, decide_eq_true_iff, hkeys, byCpu, hq, hq', hless, hless]
  obtain hlt | rfl | hlt := lt_trichotomy q' q
  · simp [hlt, hlt.not_gt]
  · simp
  · simp [hlt, hlt.not_gt, hlt.ne']

end Document

-- ════════════════════════════════════════════════════════════════════════
-- The table
-- ════════════════════════════════════════════════════════════════════════

section Table

variable {procs : TrackedProcs (Option ℚ)} {last : Option (ℤ × Machine)} {m : Machine}
  {seconds : ℚ} {now : ℤ}

theorem listed_scan_none (h : Listed last procs) (hdir : m.dirNames (ascii "/proc") = none) :
    Listed last (scan procs (some seconds) m) := by
  have hframe := frame_scan procs (some seconds) m
  constructor
  · rw [entries_scan_none hdir, map_pid_unseen]
    exact h.pids
  · intro proc hproc
    rw [entries_scan_none hdir] at hproc
    obtain ⟨old, hold, rfl⟩ := List.mem_map.mp hproc
    rw [hframe.2.1]
    exact h.read old hold
  · intro proc hproc
    rw [entries_scan_none hdir] at hproc
    obtain ⟨old, hold, rfl⟩ := List.mem_map.mp hproc
    exact h.shares old hold

/-- A scan leaves every share a number. -/
theorem shares_scanEntries (hseconds : 0 ≤ seconds)
    (h : ∀ proc ∈ procs.entries, ∃ q, 0 ≤ q ∧ proc.cpuPercent = some q)
    (readings : List ProcReading) :
    ∀ proc ∈ scanEntries procs (some seconds) readings, ∃ q, 0 ≤ q ∧ proc.cpuPercent = some q := by
  have hunseen : ∀ proc ∈ procs.entries.map fun proc => { proc with seen := false },
      ∃ q, 0 ≤ q ∧ proc.cpuPercent = some q := by
    intro proc hproc
    obtain ⟨old, hold, rfl⟩ := List.mem_map.mp hproc
    exact h old hold
  refine Lib.forall_foldl_upsert hunseen ?_ ?_ readings
  · rintro r old ⟨q, hnonneg, hq⟩
    obtain rfl | hpos := hseconds.eq_or_lt
    · exact ⟨q, hnonneg, hq⟩
    · rw [cpuPercent_updateProc hpos]
      split
      · next hle => exact ⟨_, ownShare_nonneg hseconds hle, rfl⟩
      · exact ⟨q, hnonneg, hq⟩
  · exact fun r => ⟨0, le_rfl, rfl⟩

theorem listed_scan_some {names : List Bytes} (h : Listed last procs) (hseconds : 0 ≤ seconds)
    (hdir : m.dirNames (ascii "/proc") = some names) :
    Listed (some (now, m)) (scan procs (some seconds) m) := by
  have hframe := frame_scan procs (some seconds) m
  have hupserts := upserts_procs procs (some seconds)
  constructor
  · rw [entries_scan_some hdir]
    refine List.Nodup.sublist (List.filter_sublist.map _) ?_
    apply Lib.nodup_foldl_upsert hupserts
    rw [map_pid_unseen]
    exact h.pids
  · intro proc hproc
    rw [entries_scan_some hdir] at hproc
    obtain ⟨hentry, hseen⟩ := List.mem_filter.mp hproc
    have hunseen : ∀ proc ∈ procs.entries.map fun proc => { proc with seen := false },
        proc.seen = false := by
      intro proc hproc
      obtain ⟨old, -, rfl⟩ := List.mem_map.mp hproc
      rfl
    obtain ⟨r, hr, old, hpid, rfl⟩ :=
      Lib.exists_reading_of_touched hupserts hunseen hentry hseen
    refine ⟨(now, m), rfl, r, hr, hpid, rfl, ?_⟩
    rw [hframe.2.1]
    rfl
  · intro proc hproc
    rw [entries_scan_some hdir] at hproc
    exact shares_scanEntries hseconds h.shares _ proc (List.mem_of_mem_filter hproc)

/-- The table is not longer than what was read. -/
theorem Listed.length_le (h : Listed last procs) :
    procs.entries.length ≤ last.elim 0 fun scan => scan.2.procReadings.length := by
  cases last with
  | none =>
    cases hentries : procs.entries with
    | nil => exact le_rfl
    | cons proc entries =>
      obtain ⟨scan, hscan, -⟩ := h.read proc (hentries ▸ List.mem_cons_self)
      cases hscan
  | some scan =>
    have hsubset : procs.entries.map (fun proc => proc.pid) ⊆
        scan.2.procReadings.map ProcReading.pid := by
      intro pid hpid
      obtain ⟨proc, hproc, rfl⟩ := List.mem_map.mp hpid
      obtain ⟨_, hscan, r, hr, hsame, -⟩ := h.read proc hproc
      obtain rfl := Option.some.inj hscan
      exact List.mem_map.mpr ⟨r, hr, hsame.symm⟩
    have hle := (List.subperm_of_subset h.pids hsubset).length_le
    rwa [List.length_map, List.length_map] at hle

theorem holdsAll_scan {names : List Bytes} (hdir : m.dirNames (ascii "/proc") = some names)
    (hroom : procs.entries.length + m.procReadings.length ≤ PROCS_MAX) :
    HoldsAll (some (now, m)) (scan procs (some seconds) m) := by
  intro scan hscan r hr
  obtain rfl := Option.some.inj hscan
  rw [entries_scan_some hdir]
  have hfits : (procs.entries.map fun proc => { proc with seen := false }).length +
      m.procReadings.length ≤ PROCS_MAX := by rwa [List.length_map]
  have hmarks : ∀ r proc, (updateProc procs (some seconds) r proc).seen = true := fun _ _ => rfl
  obtain ⟨proc, hproc, hpid, hseen⟩ :=
    Lib.exists_touched (upserts_procs procs (some seconds)) hmarks hfits hr
  exact ⟨proc, List.mem_filter.mpr ⟨hproc, hseen⟩, hpid⟩

end Table

-- ════════════════════════════════════════════════════════════════════════
-- A run of ticks
-- ════════════════════════════════════════════════════════════════════════

section Run

variable {scans : List (ℤ × Machine)} {opened tick : ℤ × Machine}

theorem mem_of_mem_lastOpened (h : opened ∈ lastOpened scans) : opened ∈ scans :=
  List.mem_of_mem_filter (List.mem_of_getLast? h)

theorem lastOpened_none (h : tick.2.dirNames (ascii "/proc") = none) :
    lastOpened (scans ++ [tick]) = lastOpened scans := by
  simp [lastOpened, h]

theorem lastOpened_some {names : List Bytes} (h : tick.2.dirNames (ascii "/proc") = some names) :
    lastOpened (scans ++ [tick]) = some tick := by
  simp [lastOpened, h]

/-- A tick that is due scans. -/
theorem procsTick_due {procs : TrackedProcs (Option ℚ)} (h : scanDue procs.lastScan tick.1) :
    ∃ seconds : ℚ, 0 ≤ seconds ∧ procsTick procs tick =
      scan { procs with lastScan := tick.1 } (some seconds) tick.2 := by
  have hearly : ¬ (procs.lastScan ≠ 0 ∧ tick.1 - procs.lastScan < PROCS_INTERVAL_S * 1000000) := by
    rintro ⟨hne, hlt⟩
    obtain hzero | hle := h
    · exact hne hzero
    · exact absurd hlt (not_lt.mpr hle)
  rw [procsTick, if_neg hearly]
  by_cases hlast : procs.lastScan = 0
  · refine ⟨0, le_rfl, ?_⟩
    rw [if_neg (not_not.mpr hlast)]
    rfl
  · refine ⟨secondsBetween procs.lastScan tick.1, div_nonneg (Nat.cast_nonneg _) (by norm_num), ?_⟩
    rw [if_pos hlast]
    rfl

/-- The last of a chain of scans is due behind the others. -/
theorem scanDue_procsAfter (ticks pageSize cores : ℤ)
    (hchain : (scans ++ [tick]).IsChain fun a b => scanDue a.1 b.1) :
    scanDue (procsAfter ticks pageSize cores scans).lastScan tick.1 := by
  obtain ⟨hscans, -, hdue⟩ := List.isChain_append.mp hchain
  rw [lastScan_procsAfter hscans]
  cases hlast : scans.getLast? with
  | none => exact .inl rfl
  | some last => exact hdue last hlast tick rfl

theorem listed_procsAfter (ticks pageSize cores : ℤ)
    (hchain : scans.IsChain fun a b => scanDue a.1 b.1) :
    Listed (lastOpened scans) (procsAfter ticks pageSize cores scans) := by
  induction scans using List.reverseRecOn with
  | nil =>
    exact ⟨List.nodup_nil, fun _ hproc => absurd hproc List.not_mem_nil,
      fun _ hproc => absurd hproc List.not_mem_nil⟩
  | append_singleton scans tick ih =>
    obtain ⟨seconds, hseconds, hscan⟩ :=
      procsTick_due (scanDue_procsAfter ticks pageSize cores hchain)
    have hbefore := ih (List.isChain_append.mp hchain).1
    rw [procsAfter_append, hscan]
    cases hdir : tick.2.dirNames (ascii "/proc") with
    | none =>
      rw [lastOpened_none hdir]
      exact listed_scan_none ⟨hbefore.pids, hbefore.read, hbefore.shares⟩ hdir
    | some names =>
      rw [lastOpened_some hdir]
      exact listed_scan_some ⟨hbefore.pids, hbefore.read, hbefore.shares⟩ hseconds hdir

/-- Where each scan reads at most half as many as the table holds, nothing is missed. -/
theorem holdsAll_procsAfter (ticks pageSize cores : ℤ)
    (hchain : scans.IsChain fun a b => scanDue a.1 b.1)
    (hfew : ∀ scan ∈ scans, 2 * scan.2.procReadings.length ≤ PROCS_MAX) :
    HoldsAll (lastOpened scans) (procsAfter ticks pageSize cores scans) := by
  induction scans using List.reverseRecOn with
  | nil =>
    intro scan hscan
    cases hscan
  | append_singleton scans tick ih =>
    obtain ⟨hscans, -, -⟩ := List.isChain_append.mp hchain
    obtain ⟨seconds, -, hscan⟩ :=
      procsTick_due (scanDue_procsAfter ticks pageSize cores hchain)
    have hbefore := ih hscans fun scan hmem => hfew scan (List.mem_append_left _ hmem)
    rw [procsAfter_append, hscan]
    cases hdir : tick.2.dirNames (ascii "/proc") with
    | none =>
      rw [lastOpened_none hdir]
      intro scan hlast r hr
      obtain ⟨proc, hproc, hpid⟩ := hbefore scan hlast r hr
      rw [entries_scan_none hdir]
      exact ⟨_, List.mem_map_of_mem hproc, hpid⟩
    | some names =>
      rw [lastOpened_some hdir]
      refine holdsAll_scan hdir ?_
      have hheld := (listed_procsAfter ticks pageSize cores hscans).length_le
      have hthis := hfew tick (List.mem_append_right _ (List.mem_singleton_self tick))
      have hlast : 2 * (lastOpened scans).elim 0 (fun scan => scan.2.procReadings.length) ≤
          PROCS_MAX := by
        cases hopened : lastOpened scans with
        | none => exact Nat.zero_le _
        | some last =>
          exact hfew last (List.mem_append_left _ (mem_of_mem_lastOpened hopened))
      dsimp only
      omega

/-- After every run of ticks the document lists the busiest processes that were read last: the table
has each of them once, none is missed where a scan reads at most half as many as the table holds,
and what a reader gets is the first of them in the order of their shares and memory. -/
theorem procsJson_run (ticks pageSize cores : ℤ) (run : List (ℤ × Machine)) (limit : ℕ) :
    Listed (lastOpened (scansOf 0 run)) (procsAfter ticks pageSize cores run) ∧
    ((∀ tick ∈ run, 2 * tick.2.procReadings.length ≤ PROCS_MAX) →
      HoldsAll (lastOpened (scansOf 0 run)) (procsAfter ticks pageSize cores run)) ∧
    ∃ shown, Topmost busyness limit (procsAfter ticks pageSize cores run).shown.entries shown ∧
      jsonDocument (procsJson (Option ℚ) (procsAfter ticks pageSize cores run).shown limit) =
        if ∀ proc ∈ shown, Lib.isUtf8 proc.name = true then
          some (listingValue (procsAfter ticks pageSize cores run).shown shown)
        else none := by
  have hchain := (isChain_scansOf 0 run).1
  have hlisted := listed_procsAfter ticks pageSize cores hchain
  have hall := holdsAll_procsAfter ticks pageSize cores hchain
  rw [← procsAfter_scansOf] at hlisted hall
  have hshares : ∀ proc ∈ (procsAfter ticks pageSize cores run).shown.entries,
      ∃ q, proc.cpuPercent = some q := by
    intro proc hproc
    obtain ⟨entry, hentry, rfl⟩ := List.mem_map.mp hproc
    obtain ⟨q, -, hq⟩ := hlisted.shares entry hentry
    exact ⟨q, hq⟩
  have htop := Lib.topmost_take_mergeSort (comparesKeys_byCpu hshares) limit
  refine ⟨hlisted, fun hfew => hall fun scan hscan => ?_, _, htop, ?_⟩
  · exact hfew scan ((scansOf_sublist 0 run).subset hscan)
  · exact jsonDocument_procsJson rfl fun proc hproc => hshares proc (htop.subset hproc)

end Run

end AxisMetrics
