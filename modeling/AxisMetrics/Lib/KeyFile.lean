import AxisMetrics.Lib.Keyed
import AxisMetrics.Lib.Utf8

/-!
# Key files

Settings under keys, the keys in groups, as GLib's `GKeyFile` keeps them: groups and keys stay
in the order they came, and a write to a name that cannot be a group is ignored. A text that is
not UTF-8 is written, but it is not read back.
-/

namespace Lib

section Assoc

variable {K A : Type} [DecidableEq K]

/-- Change the value of a key where it stands, or append it. -/
def assocSet (key : K) (f : Option A → A) : List (K × A) → List (K × A)
  | [] => [(key, f none)]
  | (k, a) :: l => if k = key then (k, f (some a)) :: l else (k, a) :: assocSet key f l

/-- The value of a key. -/
def assocGet (l : List (K × A)) (key : K) : Option A :=
  (l.find? fun pair => pair.1 = key).map Prod.snd

theorem assocSet_of_notMem {key : K} {l : List (K × A)} (h : key ∉ l.map Prod.fst)
    (f : Option A → A) : assocSet key f l = l ++ [(key, f none)] := by
  induction l with
  | nil => rfl
  | cons pair l ih =>
    rw [List.map_cons, List.mem_cons, not_or] at h
    rw [assocSet, if_neg (Ne.symm h.1), ih h.2, List.cons_append]

/-- The last of a list of pairs is the one that changes if its key is nowhere before. -/
theorem assocSet_concat {key : K} {l : List (K × A)} (h : key ∉ l.map Prod.fst) (a : A)
    (f : Option A → A) : assocSet key f (l ++ [(key, a)]) = l ++ [(key, f (some a))] := by
  induction l with
  | nil => exact if_pos rfl
  | cons pair l ih =>
    rw [List.map_cons, List.mem_cons, not_or] at h
    rw [List.cons_append, assocSet, if_neg (Ne.symm h.1), ih h.2, List.cons_append]

/-- With distinct keys, a key has the value it is paired with. -/
theorem assocGet_of_mem {l : List (K × A)} (hdistinct : (l.map Prod.fst).Nodup) {key : K} {a : A}
    (h : (key, a) ∈ l) : assocGet l key = some a :=
  congrArg (Option.map Prod.snd) (find?_key hdistinct h)

end Assoc

/-- What a key holds. A key is read with the type it was written with. -/
inductive KeyValue (T : Type) where
  | string (text : Bytes)
  | double (value : T)
  | integer (value : ℤ)
  | boolean (value : Bool)

/-- `GKeyFile`: the groups in order, each with its keys in order. -/
abbrev KeyFile (T : Type) := List (Bytes × List (Bytes × KeyValue T))

/-- A byte that no group name has: a bracket or a control character. -/
def isGroupStop (b : UInt8) : Bool := b == 91 || b == 93 || b < 32 || b == 127

/-- `g_key_file_is_group_name`. -/
def isGroupName (name : Bytes) : Bool := !name.isEmpty && name.all fun b => !isGroupStop b

namespace KeyFile

variable {T : Type}

/-- `g_key_file_get_groups`. -/
def groups (file : KeyFile T) : List Bytes := file.map Prod.fst

/-- `g_key_file_set_string` and its siblings. -/
def set (file : KeyFile T) (group key : Bytes) (value : KeyValue T) : KeyFile T :=
  if isGroupName group then
    assocSet group (fun keys => assocSet key (fun _ => value) (keys.getD [])) file
  else file

/-- What a group holds under a key. -/
def get (file : KeyFile T) (group key : Bytes) : Option (KeyValue T) :=
  (assocGet file group).bind fun keys => assocGet keys key

/-- `g_key_file_get_string`. -/
def getString (file : KeyFile T) (group key : Bytes) : Option Bytes :=
  match file.get group key with
  | some (.string text) => if isUtf8 text then some text else none
  | _ => none

/-- `g_key_file_get_double`, zero where there is none. -/
def getDouble (zero : T) (file : KeyFile T) (group key : Bytes) : T :=
  match file.get group key with
  | some (.double value) => value
  | _ => zero

/-- `g_key_file_get_integer`, zero where there is none. -/
def getInteger (file : KeyFile T) (group key : Bytes) : ℤ :=
  match file.get group key with
  | some (.integer value) => value
  | _ => 0

/-- `g_key_file_get_boolean`, false where there is none. -/
def getBoolean (file : KeyFile T) (group key : Bytes) : Bool :=
  match file.get group key with
  | some (.boolean value) => value
  | _ => false

/-- Write the keys of a group, one after the other. -/
def setAll (file : KeyFile T) (group : Bytes) (keys : List (Bytes × KeyValue T)) : KeyFile T :=
  keys.foldl (fun file pair => file.set group pair.1 pair.2) file

variable {file : KeyFile T} {group : Bytes} {keys : List (Bytes × KeyValue T)}

theorem setAll_of_not (h : isGroupName group = false) : file.setAll group keys = file := by
  induction keys with
  | nil => rfl
  | cons pair keys ih =>
    have hset : file.set group pair.1 pair.2 = file := if_neg (by rw [h]; exact Bool.false_ne_true)
    rw [setAll, List.foldl_cons, hset]
    exact ih

/-- The further keys of a group that is the last one. -/
theorem setAll_concat (hname : isGroupName group = true) (hfresh : group ∉ file.groups)
    (done : List (Bytes × KeyValue T)) (hdistinct : ((done ++ keys).map Prod.fst).Nodup) :
    setAll (file ++ [(group, done)]) group keys = file ++ [(group, done ++ keys)] := by
  induction keys generalizing done with
  | nil => rw [List.append_nil]; rfl
  | cons pair keys ih =>
    have hkey : pair.1 ∉ done.map Prod.fst := by
      rw [List.map_append, List.nodup_append] at hdistinct
      exact fun hmem => hdistinct.2.2 _ hmem _ (List.mem_cons_self ..) rfl
    have hset : KeyFile.set (file ++ [(group, done)]) group pair.1 pair.2 =
        file ++ [(group, done ++ [pair])] := by
      rw [KeyFile.set, if_pos hname, assocSet_concat hfresh, Option.getD_some,
        assocSet_of_notMem hkey]
    have hnext : done ++ pair :: keys = done ++ [pair] ++ keys := by simp
    rw [hnext] at hdistinct ⊢
    rw [setAll, List.foldl_cons, hset]
    exact ih _ hdistinct

/-- A group that is written for the first time is the new last one. -/
theorem setAll_of_fresh (hname : isGroupName group = true) (hfresh : group ∉ file.groups)
    (hkeys : keys ≠ []) (hdistinct : (keys.map Prod.fst).Nodup) :
    file.setAll group keys = file ++ [(group, keys)] := by
  cases keys with
  | nil => exact absurd rfl hkeys
  | cons pair keys =>
    have hset : file.set group pair.1 pair.2 = file ++ [(group, [pair])] := by
      rw [KeyFile.set, if_pos hname, assocSet_of_notMem hfresh]
      rfl
    rw [setAll, List.foldl_cons, hset]
    exact setAll_concat hname hfresh [pair] hdistinct

/-- With distinct groups, a key of a group is found in that group. -/
theorem get_of_mem (hgroups : file.groups.Nodup) (hgroup : (group, keys) ∈ file)
    (hkeys : (keys.map Prod.fst).Nodup) {key : Bytes} {value : KeyValue T}
    (h : (key, value) ∈ keys) : file.get group key = some value := by
  rw [get, assocGet_of_mem hgroups hgroup]
  exact assocGet_of_mem hkeys h

end KeyFile

end Lib
