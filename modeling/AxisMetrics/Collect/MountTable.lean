import AxisMetrics.Collect.Mounts
import AxisMetrics.Lib.Tokens
import AxisMetrics.Persist.Storage

/-!
# The mount table, line by line

Three loops read `/proc/mounts` with one `fscanf` format, which does not stop at the end of a line
and cuts each field to its width. `ReadWhole` says that a line is used up by whole entries. Such
lines, and no others, leave what is read of all lines around them as it is (`readApart_iff`); a line
whose fields fit is one (`readWhole_of_fits`).
-/

namespace AxisMetrics

open Lib (Bytes ascii cString decimal scanWord skipInteger nextWord isSpace EndsInSpace IsWord
  firstsBy)

namespace Machine

-- ════════════════════════════════════════════════════════════════════════
-- Reading a table
-- ════════════════════════════════════════════════════════════════════════

/-- The four strings of `scanMount`, and what follows. -/
def scanStrings (text : Bytes) : Option (MountEntry × Bytes) := do
  let (device, rest) ← scanWord 127 text
  let (mountpoint, rest) ← scanWord 255 rest
  let (fstype, rest) ← scanWord 31 rest
  let (options, rest) ← scanWord 255 rest
  pure (⟨cString device, cString mountpoint, cString fstype, cString options⟩, rest)

/-- What the two numbers and the end of the format leave. -/
def afterNumbers (rest : Bytes) : Bytes :=
  let (dump, rest) := skipInteger rest
  let (pass, rest) := if dump then skipInteger rest else (false, rest)
  if pass then rest.dropWhile isSpace else rest

/-- The entries of a table. -/
def readTable (text : Bytes) : List MountEntry := mountEntries text.length text

variable {text rest more : Bytes} {entry : MountEntry}

theorem scanMount_eq (text : Bytes) : scanMount text =
    (scanStrings text).map fun scanned => (scanned.1, afterNumbers scanned.2) := by
  unfold scanMount scanStrings
  cases scanWord 127 text with
  | none => rfl
  | some device =>
    simp only [Option.bind_eq_bind, Option.bind_some]
    cases scanWord 255 device.2 with
    | none => rfl
    | some mountpoint =>
      simp only [Option.bind_some]
      cases scanWord 31 mountpoint.2 with
      | none => rfl
      | some fstype =>
        simp only [Option.bind_some]
        cases scanWord 255 fstype.2 with
        | none => rfl
        | some options => rfl

/-- The four scans, step by step. -/
theorem scanStrings_eq_some : scanStrings text = some (entry, rest) ↔
    ∃ device rest₁ mountpoint rest₂ fstype rest₃ options,
      scanWord 127 text = some (device, rest₁) ∧ scanWord 255 rest₁ = some (mountpoint, rest₂) ∧
      scanWord 31 rest₂ = some (fstype, rest₃) ∧ scanWord 255 rest₃ = some (options, rest) ∧
      entry = ⟨cString device, cString mountpoint, cString fstype, cString options⟩ := by
  simp only [scanStrings, Option.bind_eq_bind, Option.bind_eq_some_iff, Option.pure_def,
    Option.some.injEq, Prod.mk.injEq, Prod.exists]
  constructor
  · rintro ⟨_, _, h₁, _, _, h₂, _, _, h₃, _, _, h₄, rfl, rfl⟩
    exact ⟨_, _, _, _, _, _, _, h₁, h₂, h₃, h₄, rfl⟩
  · rintro ⟨_, _, _, _, _, _, _, h₁, h₂, h₃, h₄, rfl⟩
    exact ⟨_, _, h₁, _, _, h₂, _, _, h₃, _, _, h₄, rfl, rfl⟩

theorem suffix_of_scanStrings (h : scanStrings text = some (entry, rest)) : rest <:+ text := by
  obtain ⟨_, _, _, _, _, _, _, h₁, h₂, h₃, h₄, -⟩ := scanStrings_eq_some.mp h
  exact (Lib.suffix_of_scanWord h₄).trans ((Lib.suffix_of_scanWord h₃).trans
    ((Lib.suffix_of_scanWord h₂).trans (Lib.suffix_of_scanWord h₁)))

theorem afterNumbers_of_false (h : (skipInteger rest).1 = false) :
    afterNumbers rest = (skipInteger rest).2 := by
  simp [afterNumbers, h]

theorem afterNumbers_of_true (h : (skipInteger rest).1 = true) : afterNumbers rest =
    if (skipInteger (skipInteger rest).2).1 then
      (skipInteger (skipInteger rest).2).2.dropWhile isSpace
    else (skipInteger (skipInteger rest).2).2 := by
  simp [afterNumbers, h]

theorem suffix_afterNumbers (rest : Bytes) : afterNumbers rest <:+ rest := by
  have hdump := Lib.suffix_skipInteger rest
  have hpass := (Lib.suffix_skipInteger (skipInteger rest).2).trans hdump
  cases hfirst : (skipInteger rest).1 with
  | false =>
    rw [afterNumbers_of_false hfirst]
    exact hdump
  | true =>
    rw [afterNumbers_of_true hfirst]
    split
    · exact (List.dropWhile_suffix _).trans hpass
    · exact hpass

theorem length_lt_of_scanStrings (h : scanStrings text = some (entry, rest)) :
    rest.length < text.length := by
  obtain ⟨_, _, _, _, _, _, _, h₁, h₂, h₃, h₄, -⟩ := scanStrings_eq_some.mp h
  have := Lib.length_lt_of_scanWord h₁
  have := Lib.length_lt_of_scanWord h₂
  have := Lib.length_lt_of_scanWord h₃
  have := Lib.length_lt_of_scanWord h₄
  omega

/-- Any bound that is long enough reads the whole table. -/
theorem mountEntries_of_le {n : ℕ} (h : text.length ≤ n) : mountEntries n text = readTable text := by
  have hmore : ∀ n (text : Bytes), text.length ≤ n →
      mountEntries n text = mountEntries (n + 1) text := by
    intro n
    induction n with
    | zero =>
      intro text hlength
      rw [List.length_eq_zero_iff.mp (Nat.le_zero.mp hlength)]
      rfl
    | succ n ih =>
      intro text hlength
      rw [mountEntries, mountEntries, scanMount_eq]
      cases hscan : scanStrings text with
      | none => rfl
      | some scanned =>
        obtain ⟨entry, rest⟩ := scanned
        have hlt := length_lt_of_scanStrings hscan
        have hle := (suffix_afterNumbers rest).length_le
        have hbound : (afterNumbers rest).length ≤ n := by omega
        exact congrArg (entry :: ·) (ih _ hbound)
  induction n, h using Nat.le_induction with
  | base => rfl
  | succ n hle ih => rw [← hmore n text hle, ih]

/-- A table is read entry by entry. -/
theorem readTable_of_some (h : scanStrings text = some (entry, rest)) :
    readTable text = entry :: readTable (afterNumbers rest) := by
  have hlt := length_lt_of_scanStrings h
  have hle := (suffix_afterNumbers rest).length_le
  obtain ⟨n, hn⟩ : ∃ n, text.length = n + 1 := ⟨text.length - 1, by omega⟩
  rw [readTable, hn, mountEntries, scanMount_eq, h]
  have hbound : (afterNumbers rest).length ≤ n := by omega
  exact congrArg (entry :: ·) (mountEntries_of_le hbound)

theorem readTable_of_none (h : scanStrings text = none) : readTable text = [] := by
  rw [← mountEntries_of_le (Nat.le_succ text.length), mountEntries, scanMount_eq, h]
  rfl

/-- White space in front makes no difference. -/
theorem readTable_dropWhile (text : Bytes) : readTable (text.dropWhile isSpace) = readTable text := by
  have hscan : scanStrings (text.dropWhile isSpace) = scanStrings text := by
    rw [scanStrings, scanStrings, Lib.scanWord_dropWhile]
  cases h : scanStrings text with
  | none => rw [readTable_of_none (hscan.trans h), readTable_of_none h]
  | some scanned => rw [readTable_of_some (hscan.trans h), readTable_of_some h]

-- ════════════════════════════════════════════════════════════════════════
-- Texts that are used up by whole entries
-- ════════════════════════════════════════════════════════════════════════

/-- The conversions of the two numbers end in the text: there is something left for the first, and
for the second if it comes to that. -/
structure NumbersEnd (rest : Bytes) : Prop where
  dump : nextWord rest ≠ []
  pass : (skipInteger rest).1 = true → nextWord (skipInteger rest).2 ≠ []

/-- The text is used up by whole entries. -/
inductive ReadWhole : Bytes → Prop
  | blank {text : Bytes} (h : nextWord text = []) : ReadWhole text
  | entry {text rest : Bytes} {entry : MountEntry} (hscan : scanStrings text = some (entry, rest))
    (hends : NumbersEnd rest) (h : ReadWhole (afterNumbers rest)) : ReadWhole text

theorem scanWord_some_more {width : ℕ} {word : Bytes} (hend : EndsInSpace text)
    (h : scanWord width text = some (word, rest)) (more : Bytes) :
    scanWord width (text ++ more) = some (word, rest ++ more) := by
  have hword : nextWord text ≠ [] := by
    intro hnone
    rw [scanWord, hnone] at h
    simp at h
  rw [Lib.scanWord_more hend hword, h]
  rfl

/-- Four strings that a text has are read the same with more text behind. -/
theorem scanStrings_more (hend : EndsInSpace text) (h : scanStrings text = some (entry, rest))
    (more : Bytes) : scanStrings (text ++ more) = some (entry, rest ++ more) := by
  obtain ⟨device, rest₁, mountpoint, rest₂, fstype, rest₃, options, h₁, h₂, h₃, h₄, hentry⟩ :=
    scanStrings_eq_some.mp h
  have hend₁ := hend.suffix (Lib.suffix_of_scanWord h₁)
  have hend₂ := hend₁.suffix (Lib.suffix_of_scanWord h₂)
  have hend₃ := hend₂.suffix (Lib.suffix_of_scanWord h₃)
  exact scanStrings_eq_some.mpr ⟨device, _, mountpoint, _, fstype, _, options,
    scanWord_some_more hend h₁ more, scanWord_some_more hend₁ h₂ more,
    scanWord_some_more hend₂ h₃ more, scanWord_some_more hend₃ h₄ more, hentry⟩

/-- The same of the numbers, up to white space. -/
theorem dropWhile_afterNumbers (hend : EndsInSpace rest) (h : NumbersEnd rest) (more : Bytes) :
    (afterNumbers (rest ++ more)).dropWhile isSpace =
      (afterNumbers rest ++ more).dropWhile isSpace := by
  have hmore := Lib.skipInteger_more hend h.dump more
  cases hdump : (skipInteger rest).1 with
  | false =>
    rw [afterNumbers_of_false hdump, afterNumbers_of_false (by rw [hmore]; exact hdump), hmore]
  | true =>
    have hpass := Lib.skipInteger_more (hend.suffix (Lib.suffix_skipInteger rest))
      (h.pass hdump) more
    rw [afterNumbers_of_true hdump, afterNumbers_of_true (by rw [hmore]; exact hdump), hmore, hpass]
    dsimp only
    split
    · by_cases hblank : nextWord (skipInteger (skipInteger rest).2).2 = []
      · rw [Lib.dropWhile_of_blank hblank, Lib.nextWord_eq_nil.mp hblank, List.nil_append]
        exact List.dropWhile_idempotent _ _
      · rw [Lib.dropWhile_of_word hblank]
    · rfl

/-- Behind a text that is used up by whole entries, a table is read as it is alone. -/
theorem ReadWhole.readTable_append (h : ReadWhole text) (hend : EndsInSpace text) (more : Bytes) :
    readTable (text ++ more) = readTable text ++ readTable more := by
  induction h with
  | @blank text hblank =>
    have hnone : scanStrings text = none := by
      rw [scanStrings, (Lib.scanWord_eq_none (by decide)).mpr hblank]
      rfl
    rw [readTable_of_none hnone, List.nil_append, ← readTable_dropWhile,
      Lib.dropWhile_of_blank hblank, readTable_dropWhile]
  | @entry text rest entry hscan hends _ ih =>
    have hrest := hend.suffix (suffix_of_scanStrings hscan)
    rw [readTable_of_some (scanStrings_more hend hscan more), readTable_of_some hscan,
      ← readTable_dropWhile, dropWhile_afterNumbers hrest hends, readTable_dropWhile,
      ih (hrest.suffix (suffix_afterNumbers rest))]
    rfl

end Machine

open Machine (MountEntry mountIsInteresting scanStrings readTable afterNumbers NumbersEnd ReadWhole)

-- ════════════════════════════════════════════════════════════════════════
-- Lines
-- ════════════════════════════════════════════════════════════════════════

/-- A line of the mount table: four fields of any length, and two numbers. -/
structure MountLine where
  device : Bytes
  mountpoint : Bytes
  fstype : Bytes
  options : Bytes
  dump : ℕ
  pass : ℕ
  device_word : IsWord device
  mountpoint_word : IsWord mountpoint
  fstype_word : IsWord fstype
  options_word : IsWord options

/-- What follows the four fields. -/
def MountLine.numbers (line : MountLine) : Bytes :=
  32 :: (decimal line.dump ++ 32 :: (decimal line.pass ++ [10]))

def MountLine.text (line : MountLine) : Bytes :=
  line.device ++ 32 :: (line.mountpoint ++ 32 :: (line.fstype ++ 32 :: (line.options ++
    line.numbers)))

def tableText (lines : List MountLine) : Bytes := lines.flatMap MountLine.text

/-- The fields fit the conversions. -/
structure MountLine.Fits (line : MountLine) : Prop where
  device : line.device.length ≤ 127
  mountpoint : line.mountpoint.length ≤ 255
  fstype : line.fstype.length ≤ 31
  options : line.options.length ≤ 255

/-- The entries that `discover_mounts` and `collector_mounts_changed` do not skip. -/
def interestingMounts (lines : List MountLine) : List MountEntry :=
  (readTable (tableText lines)).filter mountIsInteresting

/-- The entries that `find_storage` does not skip. -/
def storageMounts (lines : List MountLine) : List MountEntry :=
  (readTable (tableText lines)).filter isStorageMount

/-- A line is read apart from those in front of it and behind it: each loop recognises in the table
what it recognises in the three parts, and makes of it what it would make of those. -/
structure ReadApart (before : List MountLine) (line : MountLine) (after : List MountLine) : Prop where
  interesting : interestingMounts (before ++ line :: after) =
    interestingMounts before ++ interestingMounts [line] ++ interestingMounts after
  storage : storageMounts (before ++ line :: after) =
    storageMounts before ++ storageMounts [line] ++ storageMounts after
  discovered : ∀ m : Machine,
    m.file (ascii "/proc/mounts") = some (tableText (before ++ line :: after)) →
    m.mountsFound = (firstsBy MountEntry.device [] (interestingMounts before ++
      interestingMounts [line] ++ interestingMounts after)).take MAX_MOUNTS
  changed : ∀ (c : CollectorSlots) (m : Machine),
    m.file (ascii "/proc/mounts") = some (tableText (before ++ line :: after)) →
    collectorMountsChanged c m = decide (((firstsBy MountEntry.device [] (interestingMounts before ++
      interestingMounts [line] ++ interestingMounts after)).take MAX_MOUNTS).length ≠ c.mounts.length)
  stored : ∀ (m : Machine) (size : ℕ),
    m.file (ascii "/proc/mounts") = some (tableText (before ++ line :: after)) →
    findStorage m size =
      let best := (storageMounts before ++ storageMounts [line] ++ storageMounts after).foldl
        (considerStorage m) ⟨[], 0, false⟩
      if best.total = 0 then none else some (Lib.strlcpy size best.mountpoint)

variable {line : MountLine} {before after lines : List MountLine}

theorem endsInSpace_text (line : MountLine) : EndsInSpace line.text := by
  have hlast : line.text = (line.device ++ 32 :: (line.mountpoint ++ 32 :: (line.fstype ++ 32 ::
      (line.options ++ 32 :: (decimal line.dump ++ 32 :: decimal line.pass))))) ++ [10] := by
    simp [MountLine.text, MountLine.numbers]
  intro b hb
  rw [hlast, List.getLast?_append] at hb
  obtain rfl : 10 = b := by simpa using hb
  rfl

/-- What the three loops make of a table. -/
theorem mountsFound_of_table {m : Machine}
    (hfile : m.file (ascii "/proc/mounts") = some (tableText lines)) :
    m.mountsFound = (firstsBy MountEntry.device [] (interestingMounts lines)).take MAX_MOUNTS := by
  rw [mountsFound_eq, hfile]
  rfl

theorem collectorMountsChanged_of_table (c : CollectorSlots) {m : Machine}
    (hfile : m.file (ascii "/proc/mounts") = some (tableText lines)) :
    collectorMountsChanged c m = decide (((firstsBy MountEntry.device []
      (interestingMounts lines)).take MAX_MOUNTS).length ≠ c.mounts.length) := by
  have hseen := seenDevices_eq [] (Nat.zero_le _)
    fun entry (hentry : entry ∈ Machine.mountEntries (tableText lines).length (tableText lines)) =>
      strlcpy_device hentry
  rw [List.map_nil] at hseen
  rw [collectorMountsChanged, hfile]
  dsimp only
  rw [hseen, List.length_map]
  rfl

theorem findStorage_of_table {m : Machine} (size : ℕ)
    (hfile : m.file (ascii "/proc/mounts") = some (tableText lines)) :
    findStorage m size =
      let best := (storageMounts lines).foldl (considerStorage m) ⟨[], 0, false⟩
      if best.total = 0 then none else some (Lib.strlcpy size best.mountpoint) := by
  rw [findStorage, hfile]
  dsimp only
  rw [foldl_considerStorage]
  rfl

/-- Lines that are used up by whole entries are read one by one. -/
theorem readTable_lines (h : ∀ other ∈ lines, ReadWhole other.text) (more : Bytes) :
    readTable (tableText lines ++ more) = readTable (tableText lines) ++ readTable more := by
  have hlines : ∀ lines : List MountLine, (∀ other ∈ lines, ReadWhole other.text) → ∀ more,
      readTable (tableText lines ++ more) =
        (lines.flatMap fun other => readTable other.text) ++ readTable more := by
    intro lines h
    induction lines with
    | nil => exact fun more => rfl
    | cons other lines ih =>
      intro more
      obtain ⟨hother, hrest⟩ := List.forall_mem_cons.mp h
      rw [tableText, List.flatMap_cons, List.append_assoc,
        hother.readTable_append (endsInSpace_text other), List.flatMap_cons, List.append_assoc]
      exact congrArg (_ ++ ·) (ih hrest more)
  have halone := hlines lines h []
  rw [List.append_nil] at halone
  have hnone : readTable [] = [] := rfl
  rw [hlines lines h more, halone, hnone, List.append_nil]

/-- A line that is used up by whole entries is read apart. -/
theorem readApart_of_whole (hbefore : ∀ other ∈ before, ReadWhole other.text)
    (hline : ReadWhole line.text) : ReadApart before line after := by
  have htable : readTable (tableText (before ++ line :: after)) =
      readTable (tableText before) ++ readTable (tableText [line]) ++ readTable (tableText after) := by
    have hsplit : tableText (before ++ line :: after) =
        tableText before ++ (line.text ++ tableText after) := by
      simp [tableText]
    have hone : tableText [line] = line.text := by simp [tableText]
    rw [hsplit, readTable_lines hbefore, hline.readTable_append (endsInSpace_text line), hone,
      List.append_assoc]
  have hinteresting : interestingMounts (before ++ line :: after) =
      interestingMounts before ++ interestingMounts [line] ++ interestingMounts after := by
    rw [interestingMounts, htable, List.filter_append, List.filter_append]
    rfl
  have hstorage : storageMounts (before ++ line :: after) =
      storageMounts before ++ storageMounts [line] ++ storageMounts after := by
    rw [storageMounts, htable, List.filter_append, List.filter_append]
    rfl
  exact {
    interesting := hinteresting
    storage := hstorage
    discovered := fun m hfile => by rw [mountsFound_of_table hfile, hinteresting]
    changed := fun c m hfile => by rw [collectorMountsChanged_of_table c hfile, hinteresting]
    stored := fun m size hfile => by rw [findStorage_of_table size hfile, hstorage] }

/-- A line whose fields fit is one entry. -/
theorem readWhole_of_fits (h : line.Fits) : ReadWhole line.text := by
  have hspace : ∀ rest : Bytes, ∀ b ∈ (32 :: rest).head?, isSpace b = true := by
    intro rest b hb
    rw [← Option.some.inj hb]
    rfl
  have hfield : ∀ {word : Bytes} {width : ℕ}, IsWord word → word.length ≤ width → ∀ rest : Bytes,
      scanWord width (32 :: (word ++ 32 :: rest)) = some (word, 32 :: rest) := by
    intro word width hword hwidth rest
    rw [Lib.scanWord_cons_space rfl]
    exact hword.scanWord hwidth (hspace _)
  have hscan : scanStrings line.text = some (⟨Lib.cString line.device, Lib.cString line.mountpoint,
      Lib.cString line.fstype, Lib.cString line.options⟩, line.numbers) :=
    Machine.scanStrings_eq_some.mpr ⟨_, _, _, _, _, _, _,
      line.device_word.scanWord h.device (hspace _), hfield line.mountpoint_word h.mountpoint _,
      hfield line.fstype_word h.fstype _, hfield line.options_word h.options _, rfl⟩
  have hdump : skipInteger line.numbers = (true, 32 :: (decimal line.pass ++ [10])) := by
    rw [MountLine.numbers, Lib.skipInteger_cons_space rfl]
    exact Lib.skipInteger_decimal line.dump (hspace _)
  have hend : ∀ b ∈ ([10] : Bytes).head?, isSpace b = true := by
    intro b hb
    rw [← Option.some.inj hb]
    rfl
  have hpass : skipInteger (32 :: (decimal line.pass ++ [10])) = (true, [10]) := by
    rw [Lib.skipInteger_cons_space rfl]
    exact Lib.skipInteger_decimal line.pass hend
  refine .entry hscan ⟨?_, fun _ => ?_⟩ (.blank ?_)
  · rw [MountLine.numbers, Lib.nextWord_cons_space rfl, (Lib.isWord_decimal _).nextWord (hspace _)]
    exact Lib.decimal_ne_nil _
  · rw [hdump, Lib.nextWord_cons_space rfl, (Lib.isWord_decimal _).nextWord hend]
    exact Lib.decimal_ne_nil _
  · rw [Machine.afterNumbers_of_true (by rw [hdump]), hdump, hpass]
    rfl

-- ════════════════════════════════════════════════════════════════════════
-- Lines that are not
-- ════════════════════════════════════════════════════════════════════════

deriving instance DecidableEq for Machine.MountEntry

/-- A share of a server that is named by a number. -/
def shareLine : MountLine where
  device := ascii "1:/"
  mountpoint := ascii "/var/spool/storage/m"
  fstype := ascii "nfs"
  options := ascii "rw"
  dump := 0
  pass := 0
  device_word := ⟨by decide, by decide⟩
  mountpoint_word := ⟨by decide, by decide⟩
  fstype_word := ⟨by decide, by decide⟩
  options_word := ⟨by decide, by decide⟩

def shareEntry : MountEntry := ⟨ascii "1:/", ascii "/var/spool/storage/m", ascii "nfs", ascii "rw"⟩

/-- The line without its first word, without its first two, and so on. -/
def shareRest : ℕ → Bytes
  | 0 => ascii "1:/ /var/spool/storage/m nfs rw 0 0\n"
  | 1 => ascii " /var/spool/storage/m nfs rw 0 0\n"
  | 2 => ascii " nfs rw 0 0\n"
  | _ => ascii " rw 0 0\n"

theorem text_shareLine : shareLine.text = shareRest 0 := by decide

theorem exists_scanWord {text : Bytes} {width : ℕ} (hwidth : 0 < width) (hword : nextWord text ≠ []) :
    ∃ word rest, scanWord width text = some (word, rest) := by
  cases h : scanWord width text with
  | none => exact absurd ((Lib.scanWord_eq_none hwidth).mp h) hword
  | some scanned => exact ⟨scanned.1, scanned.2, rfl⟩

/-- A text with one to three strings left takes the others from the next line, which is not found
then. -/
theorem shareEntry_notMem {text : Bytes} (hend : EndsInSpace text) (hword : nextWord text ≠ [])
    (hnone : scanStrings text = none) : shareEntry ∉ readTable (text ++ shareRest 0) := by
  have hread : ∀ {entry : MountEntry} {k : ℕ},
      scanStrings (text ++ shareRest 0) = some (entry, shareRest k) → entry ≠ shareEntry →
      shareEntry ∉ readTable (afterNumbers (shareRest k)) →
      shareEntry ∉ readTable (text ++ shareRest 0) := by
    intro entry k hscan hentry hrest
    rw [Machine.readTable_of_some hscan, List.mem_cons, not_or]
    exact ⟨Ne.symm hentry, hrest⟩
  have hne : ∀ {entry : MountEntry}, entry.options ≠ ascii "rw" → entry ≠ shareEntry := by
    rintro entry hoptions rfl
    exact hoptions rfl
  obtain ⟨device, rest₁, h₁⟩ := exists_scanWord (show 0 < 127 by decide) hword
  have hend₁ := hend.suffix (Lib.suffix_of_scanWord h₁)
  have hmore₁ := Machine.scanWord_some_more hend h₁ (shareRest 0)
  by_cases hword₁ : nextWord rest₁ = []
  · refine hread (k := 3) (Machine.scanStrings_eq_some.mpr ⟨device, _, ascii "1:/", shareRest 1,
      ascii "/var/spool/storage/m", shareRest 2, ascii "nfs", hmore₁, ?_, by decide,
      by decide, rfl⟩) (hne (show cString (ascii "nfs") ≠ ascii "rw" by decide))
      (by decide)
    rw [Lib.scanWord_of_blank hword₁]
    decide
  obtain ⟨mountpoint, rest₂, h₂⟩ := exists_scanWord (show 0 < 255 by decide) hword₁
  have hend₂ := hend₁.suffix (Lib.suffix_of_scanWord h₂)
  have hmore₂ := Machine.scanWord_some_more hend₁ h₂ (shareRest 0)
  by_cases hword₂ : nextWord rest₂ = []
  · refine hread (k := 2) (Machine.scanStrings_eq_some.mpr ⟨device, _, mountpoint, _, ascii "1:/",
      shareRest 1, ascii "/var/spool/storage/m", hmore₁, hmore₂, ?_, by decide, rfl⟩)
      (hne (show cString (ascii "/var/spool/storage/m") ≠ ascii "rw" by decide)) (by decide)
    rw [Lib.scanWord_of_blank hword₂]
    decide
  obtain ⟨fstype, rest₃, h₃⟩ := exists_scanWord (show 0 < 31 by decide) hword₂
  have hmore₃ := Machine.scanWord_some_more hend₂ h₃ (shareRest 0)
  by_cases hword₃ : nextWord rest₃ = []
  · refine hread (k := 1) (Machine.scanStrings_eq_some.mpr ⟨device, _, mountpoint, _, fstype, _,
      ascii "1:/", hmore₁, hmore₂, hmore₃, ?_, rfl⟩)
      (hne (show cString (ascii "1:/") ≠ ascii "rw" by decide)) (by decide)
    rw [Lib.scanWord_of_blank hword₃]
    decide
  -- with a fourth string there is an entry
  obtain ⟨options, rest₄, h₄⟩ := exists_scanWord (show 0 < 255 by decide) hword₃
  rw [Machine.scanStrings_eq_some.mpr ⟨_, _, _, _, _, _, _, h₁, h₂, h₃, h₄, rfl⟩] at hnone
  cases hnone

/-- Numbers that are missing are taken from the next line, which is found under another name
then. -/
theorem afterNumbers_share {rest : Bytes} (hend : EndsInSpace rest) (h : ¬ NumbersEnd rest) :
    shareEntry ∉ readTable (afterNumbers (rest ++ shareRest 0)) ∧
      readTable (afterNumbers rest) = [] := by
  have hnil : readTable [] = [] := rfl
  have htail : shareEntry ∉ readTable (ascii ":/ /var/spool/storage/m nfs rw 0 0\n") := by
    decide
  have hshare : skipInteger (shareRest 0) = (true, ascii ":/ /var/spool/storage/m nfs rw 0 0\n") := by
    decide
  by_cases hword : nextWord rest = []
  · have hafter : afterNumbers (rest ++ shareRest 0) = afterNumbers (shareRest 0) := by
      rw [afterNumbers, afterNumbers, Lib.skipInteger_of_blank hword]
    have hshared : afterNumbers (shareRest 0) = ascii ":/ /var/spool/storage/m nfs rw 0 0\n" := by
      decide
    have hrest := Lib.skipInteger_eq_of_blank hword
    rw [hafter, hshared, Machine.afterNumbers_of_false (by rw [hrest]), hrest]
    exact ⟨htail, hnil⟩
  · have hpass : (skipInteger rest).1 = true ∧ nextWord (skipInteger rest).2 = [] := by
      by_contra hnot
      refine h ⟨hword, fun hdump hblank => hnot ⟨hdump, hblank⟩⟩
    obtain ⟨hdump, hblank⟩ := hpass
    have hmore := Lib.skipInteger_more hend hword (shareRest 0)
    have hsecond := Lib.skipInteger_of_blank hblank (shareRest 0)
    have hrest := Lib.skipInteger_eq_of_blank hblank
    have hspace : (ascii ":/ /var/spool/storage/m nfs rw 0 0\n").dropWhile isSpace =
        ascii ":/ /var/spool/storage/m nfs rw 0 0\n" := by decide
    rw [Machine.afterNumbers_of_true (by rw [hmore]; exact hdump), hmore, hsecond, hshare,
      Machine.afterNumbers_of_true hdump, hrest]
    simp only [if_true, hspace, Bool.false_eq_true, if_false]
    exact ⟨htail, hnil⟩

/-- Behind a text that is not used up by whole entries, the share is not found as it is alone. -/
theorem not_readWhole_share {p : MountEntry → Bool} {text : Bytes} (hend : EndsInSpace text)
    (h : ¬ ReadWhole text) :
    (readTable (text ++ shareRest 0)).filter p ≠ (readTable text).filter p ++ [shareEntry] := by
  induction hlength : text.length using Nat.strong_induction_on generalizing text with
  | _ n ih =>
    have hword : nextWord text ≠ [] := fun hblank => h (.blank hblank)
    cases hscan : scanStrings text with
    | none =>
      intro hsame
      have hmem : shareEntry ∈ (readTable (text ++ shareRest 0)).filter p := by
        rw [hsame]
        exact List.mem_append_right _ (List.mem_singleton.mpr rfl)
      exact shareEntry_notMem hend hword hscan (List.mem_of_mem_filter hmem)
    | some scanned =>
      obtain ⟨entry, rest⟩ := scanned
      have hrest := hend.suffix (Machine.suffix_of_scanStrings hscan)
      have hshort := Machine.length_lt_of_scanStrings hscan
      have hafter := (Machine.suffix_afterNumbers rest).length_le
      have htail : (readTable (afterNumbers (rest ++ shareRest 0))).filter p ≠
          (readTable (afterNumbers rest)).filter p ++ [shareEntry] := by
        by_cases hnumbers : NumbersEnd rest
        · rw [← Machine.readTable_dropWhile (afterNumbers (rest ++ shareRest 0)),
            Machine.dropWhile_afterNumbers hrest hnumbers, Machine.readTable_dropWhile]
          exact ih _ (by omega) (hrest.suffix (Machine.suffix_afterNumbers rest))
            (fun hwhole => h (.entry hscan hnumbers hwhole)) rfl
        · obtain ⟨hnot, hnil⟩ := afterNumbers_share hrest hnumbers
          intro hsame
          have hmem : shareEntry ∈ (readTable (afterNumbers (rest ++ shareRest 0))).filter p := by
            rw [hsame]
            exact List.mem_append_right _ (List.mem_singleton.mpr rfl)
          exact hnot (List.mem_of_mem_filter hmem)
      rw [Machine.readTable_of_some (Machine.scanStrings_more hend hscan (shareRest 0)),
        Machine.readTable_of_some hscan, List.filter_cons, List.filter_cons]
      split
      · rw [List.cons_append]
        exact fun hsame => htail (List.cons.inj hsame).2
      · exact htail

/-- A line is read apart from all lines around it, of which those in front are used up by whole
entries, exactly if it is itself. -/
theorem readApart_iff (line : MountLine) :
    (∀ before after, (∀ other ∈ before, ReadWhole other.text) → ReadApart before line after) ↔
      ReadWhole line.text := by
  constructor
  · intro h
    by_contra hnot
    have happart := (h [] [shareLine] (fun other hother => absurd hother List.not_mem_nil)).interesting
    have htable : tableText ([] ++ line :: [shareLine]) = line.text ++ shareRest 0 := by
      rw [← text_shareLine]
      simp [tableText]
    have hone : tableText [line] = line.text := by simp [tableText]
    have hshare : interestingMounts [shareLine] = [shareEntry] := by decide
    have hnil : interestingMounts [] = [] := rfl
    rw [interestingMounts, htable, hnil, List.nil_append, hshare, interestingMounts, hone] at happart
    exact not_readWhole_share (endsInSpace_text line) hnot happart
  · exact fun hline before after hbefore => readApart_of_whole hbefore hline

/-- An overlay with long options. -/
def overlayLine : MountLine where
  device := ascii "overlay"
  mountpoint := ascii "/run/app"
  fstype := ascii "overlay"
  options := ascii "rw,lowerdir=" ++ List.replicate 300 97
  dump := 0
  pass := 0
  device_word := ⟨by decide, by decide⟩
  mountpoint_word := ⟨by decide, by decide⟩
  fstype_word := ⟨by decide, by decide⟩
  options_word := ⟨by decide +kernel, by decide +kernel⟩

/-- A card. -/
def cardLine : MountLine where
  device := ascii "/dev/mmcblk0p1"
  mountpoint := ascii "/var/spool/storage/SD_DISK"
  fstype := ascii "ext4"
  options := ascii "rw,relatime"
  dump := 0
  pass := 0
  device_word := ⟨by decide, by decide⟩
  mountpoint_word := ⟨by decide, by decide⟩
  fstype_word := ⟨by decide, by decide⟩
  options_word := ⟨by decide, by decide⟩

/-- Behind the overlay the card is not recognised. -/
theorem not_readApart_overlay : ¬ ReadApart [] overlayLine [cardLine] := by
  intro h
  have htable : interestingMounts ([] ++ overlayLine :: [cardLine]) = [] := by decide +kernel
  have hparts : interestingMounts [] ++ interestingMounts [overlayLine] ++
      interestingMounts [cardLine] ≠ [] := by decide +kernel
  exact hparts (h.interesting.symm.trans htable)

end AxisMetrics
