import Mathlib.Data.List.Basic
import Mathlib.Data.List.GetD
import Mathlib.Data.List.TakeWhile
import Mathlib.Logic.Function.Basic
import Mathlib.Tactic.Common
import Mathlib.Tactic.Ring

/-!
# Byte files, write logs and fixed-width fields

A random-access file of bytes, the writes that change it, and the codecs a binary
layout is built from: little-endian integers, zero-padded strings and tables of
entries of one width. A run of writes is a list, so a crash after any of them is a
prefix of that list.
-/

namespace Lib

/-- A run of bytes. -/
abbrev Bytes := List UInt8

instance : LawfulBEq Bytes := inferInstance

/-- What holds of the bytes of a text is decided by going through the text. -/
instance {p : UInt8 → Prop} [DecidablePred p] (text : Bytes) : Decidable (∀ b ∈ text, p b) :=
  List.decidableBAll p text

/-- The `w` low bytes of `n`, least significant first. -/
def leBytes : ℕ → ℕ → Bytes
  | 0, _ => []
  | w + 1, n => UInt8.ofNat n :: leBytes w (n / 256)

/-- The number whose bytes, least significant first, are given. -/
def ofLeBytes : Bytes → ℕ
  | [] => 0
  | b :: bs => b.toNat + 256 * ofLeBytes bs

@[simp] theorem length_leBytes (w n : ℕ) : (leBytes w n).length = w := by
  induction w generalizing n with
  | zero => rfl
  | succ w ih => simp [leBytes, ih]

theorem ofLeBytes_leBytes {w n : ℕ} (h : n < 256 ^ w) : ofLeBytes (leBytes w n) = n := by
  induction w generalizing n with
  | zero => simp [leBytes, ofLeBytes] at h ⊢; omega
  | succ w ih =>
    have hdiv : n / 256 < 256 ^ w := by
      rw [Nat.div_lt_iff_lt_mul (by decide)]
      rwa [pow_succ] at h
    simp only [leBytes, ofLeBytes, ih hdiv, UInt8.toNat_ofNat']
    omega

theorem ofLeBytes_lt (bytes : Bytes) : ofLeBytes bytes < 256 ^ bytes.length := by
  induction bytes with
  | nil => decide
  | cons b bytes ih =>
    have hb : b.toNat < 256 := b.toNat_lt
    rw [ofLeBytes, List.length_cons, pow_succ]
    omega

theorem leBytes_ofLeBytes (bytes : Bytes) : leBytes bytes.length (ofLeBytes bytes) = bytes := by
  induction bytes with
  | nil => rfl
  | cons b bytes ih =>
    have hb : b.toNat < 256 := b.toNat_lt
    have hdiv : (b.toNat + 256 * ofLeBytes bytes) / 256 = ofLeBytes bytes := by omega
    have hlow : UInt8.ofNat (b.toNat + 256 * ofLeBytes bytes) = b := by
      apply UInt8.toNat_inj.mp
      rw [UInt8.toNat_ofNat']
      omega
    rw [List.length_cons, ofLeBytes, leBytes, hdiv, hlow, ih]

/-- The high bytes of a number are the last ones. -/
theorem ofLeBytes_drop (bytes : Bytes) (n : ℕ) :
    ofLeBytes (bytes.drop n) = ofLeBytes bytes / 256 ^ n := by
  induction n generalizing bytes with
  | zero => rw [List.drop_zero, pow_zero, Nat.div_one]
  | succ n ih =>
    cases bytes with
    | nil => simp [ofLeBytes]
    | cons b bytes =>
      have hb : b.toNat < 256 := b.toNat_lt
      have hdiv : (b.toNat + 256 * ofLeBytes bytes) / 256 = ofLeBytes bytes := by omega
      rw [List.drop_succ_cons, ih, ofLeBytes, pow_succ', ← Nat.div_div_eq_div_mul, hdiv]

/-- The bytes up to the first zero, as C reads a string. -/
def cString (bytes : Bytes) : Bytes := bytes.takeWhile (· ≠ 0)

/-- A string followed by zeros up to `width` bytes. -/
def zeroPad (width : ℕ) (s : Bytes) : Bytes := s ++ List.replicate (width - s.length) 0

theorem length_zeroPad {width : ℕ} {s : Bytes} (h : s.length ≤ width) :
    (zeroPad width s).length = width := by
  simp [zeroPad]
  omega

theorem cString_eq_self {s : Bytes} (h : 0 ∉ s) : cString s = s := by
  rw [cString, List.takeWhile_eq_self_iff]
  intro b hb
  simpa using fun hz : b = 0 => h (hz ▸ hb)

/-- A padded string that does not fill its entry ends there, whatever follows. -/
theorem cString_zeroPad_append {width : ℕ} {s : Bytes} (h : 0 ∉ s) (hlt : s.length < width)
    (rest : Bytes) : cString (zeroPad width s ++ rest) = s := by
  have hall : ∀ b ∈ s, (decide (b ≠ 0)) = true := by
    intro b hb
    simpa using fun hz : b = 0 => h (hz ▸ hb)
  rw [cString, zeroPad, List.append_assoc, List.takeWhile_append_of_pos hall]
  obtain ⟨k, hk⟩ : ∃ k, width - s.length = k + 1 := ⟨width - s.length - 1, by omega⟩
  simp [hk, List.replicate_succ]

section Table

variable {α : Type*} {w : ℕ} {f : α → Bytes}

theorem length_flatMap_of_width (hf : ∀ x, (f x).length = w) (xs : List α) :
    (xs.flatMap f).length = xs.length * w := by
  induction xs with
  | nil => simp
  | cons x xs ih =>
    rw [List.flatMap_cons, List.length_append, hf, ih, List.length_cons]
    ring

/-- Entry `i` of a table stands at `i` times the width. -/
theorem take_drop_flatMap (hf : ∀ x, (f x).length = w) (xs : List α) (i : ℕ)
    (hi : i < xs.length) : ((xs.flatMap f).drop (i * w)).take w = f xs[i] := by
  induction xs generalizing i with
  | nil => simp at hi
  | cons x xs ih =>
    cases i with
    | zero => simp [List.take_append_of_le_length (hf x).ge, List.take_of_length_le (hf x).le]
    | succ i =>
      have hdrop : (i + 1) * w = (f x).length + i * w := by rw [hf]; ring
      rw [List.flatMap_cons, hdrop, ← List.drop_drop, List.drop_left]
      exact ih i (by simpa using hi)

/-- A table is its entries one after the other. -/
theorem flatMap_take_drop (w n : ℕ) {bytes : Bytes} (h : bytes.length = n * w) :
    ((List.finRange n).flatMap fun i : Fin n => (bytes.drop (i * w)).take w) = bytes := by
  induction n generalizing bytes with
  | zero =>
    rw [Nat.zero_mul, List.length_eq_zero_iff] at h
    rw [h, List.finRange_zero, List.flatMap_nil]
  | succ n ih =>
    have hrest : (bytes.drop w).length = n * w := by
      rw [List.length_drop, h, Nat.succ_mul, Nat.add_sub_cancel]
    have hentry (i : Fin n) : (bytes.drop (i.succ * w)).take w =
        ((bytes.drop w).drop (i * w)).take w := by
      rw [List.drop_drop, Fin.val_succ, Nat.succ_mul, Nat.add_comm]
    rw [List.finRange_succ, List.flatMap_cons, List.flatMap_map]
    simp only [hentry, ih hrest]
    rw [Fin.val_zero, Nat.zero_mul, List.drop_zero, List.take_append_drop]

end Table

/-- A file: its size and its bytes. Past the end every byte reads as zero, which is
what a later extension would expose. -/
structure ByteFile where
  size : ℕ
  byte : ℕ → UInt8
  byte_of_size_le : ∀ i, size ≤ i → byte i = 0

/-- One completed change of a file. -/
inductive FileOp where
  | write (offset : ℕ) (buffer : Bytes)
  | truncate (length : ℕ)
  deriving DecidableEq

namespace ByteFile

/-- A file that has just been created. -/
def empty : ByteFile := ⟨0, fun _ => 0, fun _ _ => rfl⟩

/-- The bytes of a range, whether or not the file reaches that far. -/
def slice (f : ByteFile) (offset length : ℕ) : Bytes :=
  (List.range length).map fun i => f.byte (offset + i)

/-- Read a whole range, or fail at the end of the file. -/
def read (f : ByteFile) (offset length : ℕ) : Option Bytes :=
  if length = 0 ∨ offset + length ≤ f.size then some (f.slice offset length) else none

/-- Write a whole buffer, extending the file when needed. -/
def write (f : ByteFile) (offset : ℕ) (buffer : Bytes) : ByteFile where
  size := if buffer.length = 0 then f.size else max f.size (offset + buffer.length)
  byte i := if offset ≤ i ∧ i < offset + buffer.length then buffer.getD (i - offset) 0
    else f.byte i
  byte_of_size_le i hi := by
    by_cases hb : buffer.length = 0
    · rw [if_neg (by omega)]
      exact f.byte_of_size_le i (by simpa [hb] using hi)
    · rw [if_neg hb] at hi
      rw [if_neg (by omega)]
      exact f.byte_of_size_le i (by omega)

/-- Set the size of the file; growth reads as zeros. -/
def truncate (f : ByteFile) (length : ℕ) : ByteFile where
  size := length
  byte i := if i < length then f.byte i else 0
  byte_of_size_le i hi := if_neg (by omega)

/-- The file after one completed change. -/
def apply (f : ByteFile) : FileOp → ByteFile
  | .write offset buffer => f.write offset buffer
  | .truncate length => f.truncate length

/-- The file after a run of completed changes. -/
def applyAll (f : ByteFile) (ops : List FileOp) : ByteFile := ops.foldl apply f

@[simp] theorem applyAll_nil (f : ByteFile) : f.applyAll [] = f := rfl

@[simp] theorem applyAll_cons (f : ByteFile) (op : FileOp) (ops : List FileOp) :
    f.applyAll (op :: ops) = (f.apply op).applyAll ops := rfl

theorem applyAll_append (f : ByteFile) (ops ops' : List FileOp) :
    f.applyAll (ops ++ ops') = (f.applyAll ops).applyAll ops' := List.foldl_append

@[simp] theorem length_slice (f : ByteFile) (offset length : ℕ) :
    (f.slice offset length).length = length := by simp [slice]

theorem read_of_le {f : ByteFile} {offset length : ℕ} (h : offset + length ≤ f.size) :
    f.read offset length = some (f.slice offset length) := if_pos (Or.inr h)

theorem slice_congr {f g : ByteFile} {offset length : ℕ}
    (h : ∀ i, offset ≤ i → i < offset + length → f.byte i = g.byte i) :
    f.slice offset length = g.slice offset length :=
  List.map_congr_left fun i hi => h _ (by omega) (by have := List.mem_range.mp hi; omega)

/-- A range is its first bytes and those behind them. -/
theorem slice_add (f : ByteFile) (offset m n : ℕ) :
    f.slice offset (m + n) = f.slice offset m ++ f.slice (offset + m) n := by
  simp only [slice, List.range_add, List.map_append, List.map_map, Function.comp_def,
    Nat.add_assoc]

/-- A part of a range is that part of its bytes. -/
theorem take_drop_slice (f : ByteFile) (offset length skip n : ℕ) (h : skip + n ≤ length) :
    ((f.slice offset length).drop skip).take n = f.slice (offset + skip) n := by
  refine List.ext_getElem (by simp; omega) fun i hi _ => ?_
  simp [slice, Nat.add_assoc]

theorem slice_write_same (f : ByteFile) (offset : ℕ) (buffer : Bytes) :
    (f.write offset buffer).slice offset buffer.length = buffer := by
  refine List.ext_getElem (by simp) fun i hi hi' => ?_
  simp [slice, write, hi']

/-- A write that stops short of a range leaves the rest of it. -/
theorem slice_write_of_le (f : ByteFile) (offset : ℕ) {buffer : Bytes} {length : ℕ}
    (h : buffer.length ≤ length) : (f.write offset buffer).slice offset length =
      buffer ++ (f.slice offset length).drop buffer.length := by
  refine List.ext_getElem (by simp; omega) fun i hi hi' => ?_
  by_cases hb : i < buffer.length
  · rw [List.getElem_append_left hb]
    simp [slice, write, hb]
  · rw [List.getElem_append_right (by omega)]
    simp [slice, write, hb, Nat.add_sub_cancel' (Nat.le_of_not_lt hb)]

theorem slice_write_of_disjoint (f : ByteFile) {offset : ℕ} {buffer : Bytes} {offset' length : ℕ}
    (h : offset' + length ≤ offset ∨ offset + buffer.length ≤ offset') :
    (f.write offset buffer).slice offset' length = f.slice offset' length :=
  slice_congr fun i _ _ => if_neg (by omega)

theorem slice_truncate (f : ByteFile) {n offset length : ℕ} (h : offset + length ≤ n) :
    (f.truncate n).slice offset length = f.slice offset length :=
  slice_congr fun i _ _ => if_pos (by omega)

theorem size_le_size_write (f : ByteFile) (offset : ℕ) (buffer : Bytes) :
    f.size ≤ (f.write offset buffer).size := by
  simp only [write]
  split <;> omega

/-- A write that stays inside the file leaves its size alone. -/
theorem size_write_of_le {f : ByteFile} {offset : ℕ} {buffer : Bytes}
    (h : offset + buffer.length ≤ f.size) : (f.write offset buffer).size = f.size := by
  simp only [write]
  split <;> omega

/-- Writing what is already there changes nothing. -/
theorem write_slice_self {f : ByteFile} {offset : ℕ} {buffer : Bytes}
    (hsize : offset + buffer.length ≤ f.size)
    (h : f.slice offset buffer.length = buffer) : f.write offset buffer = f := by
  have hbyte : (f.write offset buffer).byte = f.byte := by
    funext i
    simp only [write]
    split
    · next hi =>
      have hg : buffer.getD (i - offset) 0 = (f.slice offset buffer.length).getD (i - offset) 0 := by
        rw [h]
      rw [hg, List.getD_eq_getElem _ _ (by simp; omega)]
      simp [slice, Nat.add_sub_cancel' hi.1]
    · rfl
  have hs : (f.write offset buffer).size = f.size := size_write_of_le hsize
  cases f
  simp only [write] at hbyte hs ⊢
  simp only [hbyte, hs]

end ByteFile

end Lib
