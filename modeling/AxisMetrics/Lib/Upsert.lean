import AxisMetrics.Lib.Keyed
import Mathlib.Data.List.Induction
import Mathlib.Data.List.Nodup
import Mathlib.Tactic.Common

/-!
# Tables that are updated by key

A table of bounded size is updated from readings: the entry with the key of a reading is changed,
and a reading without one adds an entry while there is room. Where no key is read twice and all new
ones find room, each entry is changed by its own reading, and each new reading has its entry.
-/

namespace Lib

variable {K E R : Type} [DecidableEq K] {key : E → K} {keyOf : R → K} {capacity : ℕ} {fresh : R → E}
  {update : R → E → E} {table : List E} {readings : List R} {r : R}

/-- One reading. -/
def upsert (key : E → K) (keyOf : R → K) (capacity : ℕ) (fresh : R → E) (update : R → E → E)
    (table : List E) (r : R) : List E :=
  match table.findIdx? fun e => key e = keyOf r with
  | some i => table.modify i (update r)
  | none => if capacity ≤ table.length then table else table ++ [update r (fresh r)]

/-- A change keeps the key, and a new entry has the key of its reading. -/
structure Upserts (key : E → K) (keyOf : R → K) (fresh : R → E) (update : R → E → E) : Prop where
  key_update : ∀ r e, key (update r e) = key e
  key_fresh : ∀ r, key (fresh r) = keyOf r

/-- The table stays within its bound. -/
theorem length_upsert (h : table.length ≤ capacity) (r : R) :
    (upsert key keyOf capacity fresh update table r).length ≤ capacity := by
  rw [upsert]
  split
  · rwa [List.length_modify]
  · split
    · exact h
    · rw [List.length_append]
      exact Nat.not_le.mp (by assumption)

theorem length_foldl_upsert (h : table.length ≤ capacity) (readings : List R) :
    (readings.foldl (upsert key keyOf capacity fresh update) table).length ≤ capacity := by
  induction readings generalizing table with
  | nil => exact h
  | cons r readings ih => exact ih (length_upsert h r)

/-- With distinct keys, the entry that is found is the only one that is changed. -/
theorem modify_findIdx (hdistinct : (table.map key).Nodup) {k : K} {i : ℕ}
    (hi : table.findIdx? (fun e => key e = k) = some i) (change : E → E) :
    table.modify i change = table.map fun e => if key e = k then change e else e := by
  induction table generalizing i with
  | nil => cases hi
  | cons e table ih =>
    rw [List.map_cons, List.nodup_cons] at hdistinct
    rw [List.findIdx?_cons] at hi
    by_cases hk : key e = k
    · rw [if_pos (decide_eq_true hk)] at hi
      obtain rfl := Option.some.inj hi
      have hrest : table.map (fun e => if key e = k then change e else e) = table := by
        refine (List.map_congr_left fun e' he' => ?_).trans (List.map_id table)
        rw [if_neg]
        · rfl
        · exact fun hk' => hdistinct.1 (hk.trans hk'.symm ▸ List.mem_map_of_mem he')
      rw [List.map_cons, if_pos hk, hrest]
      rfl
    · rw [if_neg (by simpa using hk)] at hi
      obtain ⟨j, hj, rfl⟩ := Option.map_eq_some_iff.mp hi
      rw [List.modify_succ_cons, List.map_cons, if_neg hk, ih hdistinct.2 hj]

theorem upsert_of_mem (hdistinct : (table.map key).Nodup) (hr : keyOf r ∈ table.map key) :
    upsert key keyOf capacity fresh update table r =
      table.map fun e => if key e = keyOf r then update r e else e := by
  rw [upsert]
  cases hfind : table.findIdx? fun e => key e = keyOf r with
  | none =>
    obtain ⟨e, he, hk⟩ := List.mem_map.mp hr
    have hother := List.findIdx?_eq_none_iff.mp hfind e he
    exact absurd (decide_eq_true hk) (Bool.eq_false_iff.mp hother)
  | some i => exact modify_findIdx hdistinct hfind _

theorem upsert_of_notMem (hroom : table.length < capacity) (hr : keyOf r ∉ table.map key) :
    upsert key keyOf capacity fresh update table r = table ++ [update r (fresh r)] := by
  have hnone : table.findIdx? (fun e => key e = keyOf r) = none :=
    List.findIdx?_eq_none_iff.mpr fun e he => decide_eq_false fun hk =>
      hr (hk ▸ List.mem_map_of_mem he)
  rw [upsert, hnone]
  exact if_neg (Nat.not_le.mpr hroom)

/-- The readings without an entry. -/
def newcomers (key : E → K) (keyOf : R → K) (table : List E) (readings : List R) : List R :=
  readings.filter fun r => keyOf r ∉ table.map key

/-- An entry after some readings. -/
def updated (key : E → K) (keyOf : R → K) (update : R → E → E) (readings : List R) (e : E) : E :=
  match readings.find? fun r => keyOf r = key e with
  | some r => update r e
  | none => e

theorem key_updated (h : Upserts key keyOf fresh update) (readings : List R) (e : E) :
    key (updated key keyOf update readings e) = key e := by
  rw [updated]
  split
  · exact h.key_update _ _
  · rfl

theorem updated_of_notMem {e : E} (he : key e ∉ readings.map keyOf) :
    updated key keyOf update readings e = e := by
  rw [updated, List.find?_eq_none.mpr fun r hr hsame => he ?_]
  rw [← of_decide_eq_true hsame]
  exact List.mem_map_of_mem hr

/-- A further reading changes the entry with its key, which no reading before it changed. -/
theorem updated_append (e : E) (hnew : keyOf r ∉ readings.map keyOf) :
    updated key keyOf update (readings ++ [r]) e =
      if key e = keyOf r then update r e else updated key keyOf update readings e := by
  rw [updated, List.find?_append, updated]
  by_cases hk : key e = keyOf r
  · have hnone : readings.find? (fun r => keyOf r = key e) = none := by
      refine List.find?_eq_none.mpr fun r' hr' hsame => hnew ?_
      rw [← hk, ← of_decide_eq_true hsame]
      exact List.mem_map_of_mem hr'
    rw [hnone, if_pos hk]
    simp [hk]
  · rw [if_neg hk]
    cases readings.find? (fun r => keyOf r = key e) with
    | some r' => rfl
    | none => simp [Ne.symm hk]

theorem newcomers_append (readings more : List R) : newcomers key keyOf table (readings ++ more) =
    newcomers key keyOf table readings ++ newcomers key keyOf table more :=
  List.filter_append _ _

/-- The keys behind some readings. -/
theorem keys_updated (h : Upserts key keyOf fresh update) (readings : List R) :
    (table.map (updated key keyOf update readings) ++
        (newcomers key keyOf table readings).map fun r => update r (fresh r)).map key =
      table.map key ++ (newcomers key keyOf table readings).map keyOf := by
  rw [List.map_append, List.map_map, List.map_map]
  congr 1
  · exact List.map_congr_left fun e _ => key_updated h readings e
  · exact List.map_congr_left fun r _ => (h.key_update r (fresh r)).trans (h.key_fresh r)

theorem nodup_keys_updated (hdistinct : (table.map key).Nodup) (honce : (readings.map keyOf).Nodup) :
    (table.map key ++ (newcomers key keyOf table readings).map keyOf).Nodup := by
  refine hdistinct.append (honce.sublist (List.filter_sublist.map keyOf)) ?_
  intro k hk hnew
  obtain ⟨r, hr, rfl⟩ := List.mem_map.mp hnew
  exact of_decide_eq_true (List.mem_filter.mp hr).2 hk

/-- What some readings make of a table: each entry is changed by its own reading, and each new
reading adds one. -/
theorem foldl_upsert (h : Upserts key keyOf fresh update) (hdistinct : (table.map key).Nodup)
    (honce : (readings.map keyOf).Nodup)
    (hroom : table.length + (newcomers key keyOf table readings).length ≤ capacity) :
    readings.foldl (upsert key keyOf capacity fresh update) table =
      table.map (updated key keyOf update readings) ++
        (newcomers key keyOf table readings).map fun r => update r (fresh r) := by
  induction readings using List.reverseRecOn with
  | nil =>
    have hsame : table.map (updated key keyOf update []) = table :=
      (List.map_congr_left fun e _ => rfl).trans (List.map_id table)
    rw [hsame, newcomers, List.filter_nil, List.map_nil, List.append_nil]
    rfl
  | append_singleton readings r ih =>
    rw [List.map_append, List.nodup_append] at honce
    obtain ⟨honce, -, hapart⟩ := honce
    have hnew : keyOf r ∉ readings.map keyOf :=
      fun h => hapart _ h _ (List.mem_singleton.mpr rfl) rfl
    rw [newcomers_append, List.length_append] at hroom
    have hkeys : (table.map (updated key keyOf update readings) ++
        (newcomers key keyOf table readings).map fun r => update r (fresh r)).map key =
          table.map key ++ (newcomers key keyOf table readings).map keyOf := keys_updated h readings
    have hnodup := nodup_keys_updated hdistinct honce
    rw [List.foldl_append, ih honce (by omega), List.foldl_cons, List.foldl_nil, newcomers_append]
    by_cases hold : keyOf r ∈ table.map key
    · -- the reading changes the entry with its key
      have hone : newcomers key keyOf table [r] = [] := by
        rw [newcomers, List.filter_cons_of_neg (by simpa using hold), List.filter_nil]
      have hmem : keyOf r ∈ (table.map (updated key keyOf update readings) ++
          (newcomers key keyOf table readings).map fun r => update r (fresh r)).map key := by
        rw [hkeys]
        exact List.mem_append_left _ hold
      rw [upsert_of_mem (by rw [hkeys]; exact hnodup) hmem, List.map_append, hone, List.append_nil,
        List.map_map, List.map_map]
      congr 1
      · refine List.map_congr_left fun e _ => ?_
        rw [Function.comp_apply, key_updated h, updated_append e hnew]
        split
        · next hk => rw [updated_of_notMem (hk ▸ hnew)]
        · rfl
      · refine List.map_congr_left fun r' hr' => ?_
        have hne : key (update r' (fresh r')) ≠ keyOf r := by
          rw [h.key_update, h.key_fresh]
          exact fun hsame => hnew (hsame ▸ List.mem_map_of_mem (List.mem_of_mem_filter hr'))
        rw [Function.comp_apply, if_neg hne]
    · -- the reading has no entry and finds room
      have hone : newcomers key keyOf table [r] = [r] := by
        rw [newcomers, List.filter_cons_of_pos (by simpa using hold), List.filter_nil]
      have hnone : keyOf r ∉ (table.map (updated key keyOf update readings) ++
          (newcomers key keyOf table readings).map fun r => update r (fresh r)).map key := by
        rw [hkeys, List.mem_append, not_or]
        refine ⟨hold, fun hmem => ?_⟩
        obtain ⟨r', hr', hsame⟩ := List.mem_map.mp hmem
        exact hnew (hsame ▸ List.mem_map_of_mem (List.mem_of_mem_filter hr'))
      rw [hone] at hroom ⊢
      rw [upsert_of_notMem ?_ hnone, List.map_append, List.map_cons, List.map_nil,
        ← List.append_assoc]
      · congr 2
        refine List.map_congr_left fun e he => ?_
        rw [updated_append e hnew, if_neg]
        exact fun hk => hold (hk ▸ List.mem_map_of_mem he)
      · rw [List.length_append, List.length_map, List.length_map]
        rw [List.length_singleton] at hroom
        omega

/-- An entry keeps a property that each change keeps. -/
theorem forall_upsert {p : E → Prop} (h : ∀ e ∈ table, p e) (hupdate : ∀ r e, p e → p (update r e))
    (hfresh : ∀ r, p (fresh r)) (r : R) :
    ∀ e ∈ upsert key keyOf capacity fresh update table r, p e := by
  intro e he
  rw [upsert] at he
  split at he
  · obtain ⟨i, hi, rfl⟩ := List.mem_iff_getElem.mp he
    rw [List.getElem_modify]
    split
    · exact hupdate _ _ (h _ (List.getElem_mem _))
    · exact h _ (List.getElem_mem _)
  · split at he
    · exact h e he
    · rcases List.mem_append.mp he with he | he
      · exact h e he
      · rw [List.mem_singleton.mp he]
        exact hupdate _ _ (hfresh r)

theorem forall_foldl_upsert {p : E → Prop} (h : ∀ e ∈ table, p e)
    (hupdate : ∀ r e, p e → p (update r e)) (hfresh : ∀ r, p (fresh r)) (readings : List R) :
    ∀ e ∈ readings.foldl (upsert key keyOf capacity fresh update) table, p e := by
  induction readings generalizing table with
  | nil => exact h
  | cons r readings ih => exact ih (forall_upsert h hupdate hfresh r)

/-- An entry behind a reading was there, or is what the reading made of one with its key. -/
theorem mem_upsert (h : Upserts key keyOf fresh update) {e : E}
    (he : e ∈ upsert key keyOf capacity fresh update table r) :
    e ∈ table ∨ ∃ e', key e' = keyOf r ∧ e = update r e' := by
  rw [upsert] at he
  split at he
  · next i hi =>
    obtain ⟨j, hj, rfl⟩ := List.mem_iff_getElem.mp he
    rw [List.length_modify] at hj
    rw [List.getElem_modify]
    split
    · next hij =>
      obtain ⟨hlt, hkey, -⟩ := List.findIdx?_eq_some_iff_getElem.mp hi
      subst hij
      exact .inr ⟨table[i], of_decide_eq_true hkey, rfl⟩
    · exact .inl (List.getElem_mem _)
  · split at he
    · exact .inl he
    · obtain he | he := List.mem_append.mp he
      · exact .inl he
      · exact .inr ⟨fresh r, h.key_fresh r, List.mem_singleton.mp he⟩

/-- What was changed is what some reading made of it. -/
theorem exists_reading_of_touched {touched : E → Bool} (h : Upserts key keyOf fresh update)
    (hold : ∀ e ∈ table, touched e = false) {e : E}
    (he : e ∈ readings.foldl (upsert key keyOf capacity fresh update) table)
    (htouched : touched e = true) :
    ∃ r ∈ readings, ∃ e', key e' = keyOf r ∧ e = update r e' := by
  induction readings using List.reverseRecOn with
  | nil =>
    rw [hold e he] at htouched
    cases htouched
  | append_singleton readings r ih =>
    rw [List.foldl_concat] at he
    obtain he | hnew := mem_upsert h he
    · obtain ⟨r', hr', hmade⟩ := ih he
      exact ⟨r', List.mem_append_left _ hr', hmade⟩
    · exact ⟨r, List.mem_append_right _ (List.mem_singleton_self r), hnew⟩

/-- An entry stays, or is what the reading made of it. -/
theorem upsert_of_entry {e : E} (he : e ∈ table) (r : R) :
    e ∈ upsert key keyOf capacity fresh update table r ∨
      update r e ∈ upsert key keyOf capacity fresh update table r := by
  rw [upsert]
  split
  · next i _ =>
    obtain ⟨j, hj, rfl⟩ := List.mem_iff_getElem.mp he
    have hmem := List.getElem_mem (l := table.modify i (update r)) (n := j)
      (by rwa [List.length_modify])
    rw [List.getElem_modify] at hmem
    split at hmem
    · exact .inr hmem
    · exact .inl hmem
  · split
    · exact .inl he
    · exact .inl (List.mem_append_left _ he)

/-- With room, there is an entry that the reading made. -/
theorem upsert_self (h : Upserts key keyOf fresh update) (hroom : table.length < capacity) (r : R) :
    ∃ e, key e = keyOf r ∧ update r e ∈ upsert key keyOf capacity fresh update table r := by
  rw [upsert]
  split
  · next i hi =>
    obtain ⟨hlt, hkey, -⟩ := List.findIdx?_eq_some_iff_getElem.mp hi
    refine ⟨table[i], of_decide_eq_true hkey, ?_⟩
    have hmem := List.getElem_mem (l := table.modify i (update r)) (n := i)
      (by rwa [List.length_modify])
    rwa [List.getElem_modify, if_pos rfl] at hmem
  · rw [if_neg (Nat.not_le.mpr hroom)]
    exact ⟨fresh r, h.key_fresh r, List.mem_append_right _ (List.mem_singleton_self _)⟩

theorem length_upsert_le (table : List E) (r : R) :
    (upsert key keyOf capacity fresh update table r).length ≤ table.length + 1 := by
  rw [upsert]
  split
  · rw [List.length_modify]
    omega
  · split <;> simp

/-- With room for an entry of each reading, each has one. -/
theorem exists_touched {touched : E → Bool} (h : Upserts key keyOf fresh update)
    (htouched : ∀ r e, touched (update r e) = true)
    (hroom : table.length + readings.length ≤ capacity) (hr : r ∈ readings) :
    ∃ e ∈ readings.foldl (upsert key keyOf capacity fresh update) table,
      key e = keyOf r ∧ touched e = true := by
  have hlength : ∀ readings : List R,
      (readings.foldl (upsert key keyOf capacity fresh update) table).length ≤
        table.length + readings.length := by
    intro readings
    induction readings using List.reverseRecOn with
    | nil => exact Nat.le_refl _
    | append_singleton readings r ih =>
      rw [List.foldl_concat, List.length_append]
      exact (length_upsert_le _ r).trans (Nat.succ_le_succ ih)
  induction readings using List.reverseRecOn with
  | nil => cases hr
  | append_singleton readings r' ih =>
    rw [List.length_append, List.length_singleton] at hroom
    rw [List.foldl_concat]
    obtain hr | hr := List.mem_append.mp hr
    · obtain ⟨e, he, hkey, hseen⟩ := ih (by omega) hr
      let table' := readings.foldl (upsert key keyOf capacity fresh update) table
      have hstep : e ∈ upsert key keyOf capacity fresh update table' r' ∨
          update r' e ∈ upsert key keyOf capacity fresh update table' r' := upsert_of_entry he r'
      obtain hsame | hmade := hstep
      · exact ⟨e, hsame, hkey, hseen⟩
      · exact ⟨_, hmade, (h.key_update r' e).trans hkey, htouched r' e⟩
    · obtain rfl := List.mem_singleton.mp hr
      have hfits : (readings.foldl (upsert key keyOf capacity fresh update) table).length <
          capacity := Nat.lt_of_le_of_lt (hlength readings) (by omega)
      obtain ⟨e, hkey, hmade⟩ := upsert_self h hfits r
      exact ⟨_, hmade, (h.key_update r e).trans hkey, htouched r e⟩

/-- A key is never in the table twice. -/
theorem nodup_foldl_upsert (h : Upserts key keyOf fresh update) (hdistinct : (table.map key).Nodup)
    (readings : List R) :
    ((readings.foldl (upsert key keyOf capacity fresh update) table).map key).Nodup := by
  induction readings generalizing table with
  | nil => exact hdistinct
  | cons r readings ih =>
    apply ih
    by_cases hr : keyOf r ∈ table.map key
    · have hkeys : (upsert key keyOf capacity fresh update table r).map key = table.map key := by
        rw [upsert_of_mem hdistinct hr, List.map_map]
        refine List.map_congr_left fun e _ => ?_
        rw [Function.comp_apply]
        split
        · exact h.key_update r e
        · rfl
      rwa [hkeys]
    · by_cases hroom : table.length < capacity
      · rw [upsert_of_notMem hroom hr, List.map_append, List.map_singleton, h.key_update,
          h.key_fresh]
        refine hdistinct.append (List.nodup_singleton _) ?_
        intro k hk hnew
        exact hr (List.mem_singleton.mp hnew ▸ hk)
      · have hnone : table.findIdx? (fun e => key e = keyOf r) = none :=
          List.findIdx?_eq_none_iff.mpr fun e he => decide_eq_false fun hk =>
            hr (hk ▸ List.mem_map_of_mem he)
        rw [upsert, hnone]
        dsimp only
        rwa [if_pos (Nat.not_lt.mp hroom)]

/-- No key leaves the table. -/
theorem keys_subset_foldl_upsert (h : Upserts key keyOf fresh update) (readings : List R) :
    table.map key ⊆ (readings.foldl (upsert key keyOf capacity fresh update) table).map key := by
  induction readings generalizing table with
  | nil => exact List.Subset.refl _
  | cons r readings ih =>
    refine List.Subset.trans ?_ ih
    intro k hk
    obtain ⟨e, he, rfl⟩ := List.mem_map.mp hk
    rw [upsert]
    split
    · next i hi =>
      obtain ⟨j, hj, rfl⟩ := List.mem_iff_getElem.mp he
      refine List.mem_map.mpr ⟨_, List.getElem_mem (n := j) (by rwa [List.length_modify]), ?_⟩
      rw [List.getElem_modify]
      split
      · exact h.key_update _ _
      · rfl
    · split
      · exact hk
      · exact List.mem_map_of_mem (List.mem_append_left _ he)

/-- Where each reading has its entry there was room for all of them. -/
theorem room_of_held (h : Upserts key keyOf fresh update) (hdistinct : (table.map key).Nodup)
    (honce : (readings.map keyOf).Nodup) (hfits : table.length ≤ capacity)
    (hheld : ∀ r ∈ readings,
      keyOf r ∈ (readings.foldl (upsert key keyOf capacity fresh update) table).map key) :
    table.length + (newcomers key keyOf table readings).length ≤ capacity := by
  have hsubset : table.map key ++ (newcomers key keyOf table readings).map keyOf ⊆
      (readings.foldl (upsert key keyOf capacity fresh update) table).map key := by
    refine List.append_subset.mpr ⟨keys_subset_foldl_upsert h readings, ?_⟩
    intro k hk
    obtain ⟨r, hr, rfl⟩ := List.mem_map.mp hk
    exact hheld r (List.mem_of_mem_filter hr)
  have hle := (List.subperm_of_subset (nodup_keys_updated hdistinct honce) hsubset).length_le
  rw [List.length_append, List.length_map, List.length_map, List.length_map] at hle
  exact hle.trans (length_foldl_upsert hfits readings)

/-- The entries that were changed are those of the readings. -/
theorem mem_filter_foldl_upsert {touched : E → Bool} (h : Upserts key keyOf fresh update)
    (hdistinct : (table.map key).Nodup) (honce : (readings.map keyOf).Nodup)
    (hroom : table.length + (newcomers key keyOf table readings).length ≤ capacity)
    (htouched : ∀ r e, touched (update r e) = true) (hold : ∀ e ∈ table, touched e = false) {e : E} :
    e ∈ (readings.foldl (upsert key keyOf capacity fresh update) table).filter touched ↔
      ∃ r ∈ readings, e = update r ((table.find? fun e => key e = keyOf r).getD (fresh r)) := by
  rw [foldl_upsert h hdistinct honce hroom, List.mem_filter, List.mem_append,
    List.mem_map, List.mem_map]
  constructor
  · rintro ⟨⟨e', he', rfl⟩ | ⟨r, hr, rfl⟩, he⟩
    · rw [updated] at he ⊢
      split at he
      · next r hr =>
        have hk : keyOf r = key e' := by simpa using List.find?_some hr
        refine ⟨r, List.mem_of_find?_eq_some hr, ?_⟩
        rw [hk, find?_key hdistinct he']
        rfl
      · rw [hold e' he'] at he
        cases he
    · obtain ⟨hr, hnew⟩ := List.mem_filter.mp hr
      refine ⟨r, hr, ?_⟩
      rw [List.find?_eq_none.mpr]
      · rfl
      · exact fun e he hk => of_decide_eq_true hnew (of_decide_eq_true hk ▸ List.mem_map_of_mem he)
  · rintro ⟨r, hr, rfl⟩
    refine ⟨?_, htouched _ _⟩
    cases hfind : table.find? fun e => key e = keyOf r with
    | none =>
      refine .inr ⟨r, List.mem_filter.mpr ⟨hr, decide_eq_true fun hmem => ?_⟩, rfl⟩
      obtain ⟨e, he, hk⟩ := List.mem_map.mp hmem
      exact List.find?_eq_none.mp hfind e he (decide_eq_true hk)
    | some e =>
      have hk : key e = keyOf r := by simpa using List.find?_some hfind
      refine .inl ⟨e, List.mem_of_find?_eq_some hfind, ?_⟩
      rw [updated, hk, find?_key honce hr]
      rfl

end Lib
