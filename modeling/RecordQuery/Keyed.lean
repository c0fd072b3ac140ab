/-!
# Keyed lists

A list of keyed entries in the order in which the keys came in. Records, tables
and the collection of tables all have this shape: writing under a key that is
present keeps its position, and a new key goes to the end.
-/

namespace RecordQuery

/-- Entries under text keys, in insertion order. -/
abbrev Keyed (α : Type) := List (String × α)

namespace Keyed

variable {α β : Type}

/-- The entry under a key. -/
def get? : Keyed α → String → Option α
  | [], _ => none
  | (present, value) :: rest, key => if present = key then some value else get? rest key

/-- The keys in order. -/
def keys (entries : Keyed α) : List String := entries.map Prod.fst

/-- Whether a key is present. -/
def has (entries : Keyed α) (key : String) : Bool := (entries.get? key).isSome

/-- Write an entry: in place under a present key, at the end under a new one. -/
def put : Keyed α → String → α → Keyed α
  | [], key, value => [(key, value)]
  | (present, old) :: rest, key, value =>
      if present = key then (key, value) :: rest else (present, old) :: put rest key value

/-- Write all entries of a second list over the first, one after the other. -/
def overlay (entries additions : Keyed α) : Keyed α :=
  additions.foldl (fun written (key, value) => written.put key value) entries

/-- Entries in which a later one under the same key replaces an earlier one. -/
def ofList (entries : List (String × α)) : Keyed α := overlay [] entries

/-- Every key occurs once. -/
def Distinct (entries : Keyed α) : Prop := entries.keys.Nodup

@[simp] theorem get?_nil (key : String) : get? ([] : Keyed α) key = none := rfl

@[simp] theorem get?_cons (present key : String) (value : α) (rest : Keyed α) :
    get? ((present, value) :: rest) key =
      if present = key then some value else get? rest key := rfl

@[simp] theorem overlay_nil (entries : Keyed α) : entries.overlay [] = entries := rfl

@[simp] theorem overlay_cons (entries : Keyed α) (key : String) (value : α) (rest : Keyed α) :
    entries.overlay ((key, value) :: rest) = (entries.put key value).overlay rest := rfl

/-- A written entry is read back, and every other key reads as before. -/
@[simp] theorem get?_put (entries : Keyed α) (key other : String) (value : α) :
    (entries.put key value).get? other =
      if key = other then some value else entries.get? other := by
  induction entries with
  | nil => simp [put, get?]
  | cons entry rest ih =>
      obtain ⟨present, old⟩ := entry
      by_cases same : present = key
      · subst same
        by_cases asked : present = other <;> simp [put, get?, asked]
      · rw [put, if_neg same, get?, get?]
        by_cases asked : present = other
        · have apart : ¬key = other := fun equal => same (asked.trans equal.symm)
          simp [asked, apart]
        · simp [asked, ih]

/-- Of two writes under one key the second one counts. -/
@[simp] theorem put_put (entries : Keyed α) (key : String) (first second : α) :
    (entries.put key first).put key second = entries.put key second := by
  induction entries with
  | nil => simp [put]
  | cons entry rest ih =>
      obtain ⟨other, old⟩ := entry
      by_cases same : other = key
      · simp [put, same]
      · simp [put, same, ih]

/-- Writing keeps the order of keys, and a new key comes last. -/
@[simp] theorem keys_put (entries : Keyed α) (key : String) (value : α) :
    (entries.put key value).keys =
      if entries.has key then entries.keys else entries.keys ++ [key] := by
  induction entries with
  | nil => simp [put, keys, has]
  | cons entry rest ih =>
      obtain ⟨present, old⟩ := entry
      by_cases same : present = key
      · simp [put, keys, has, get?, same]
      · have headed : keys ((present, old) :: rest) = present :: keys rest := rfl
        have asked : has ((present, old) :: rest) key = has rest key := by
          simp [has, get?, same]
        rw [put, if_neg same, headed, asked]
        show present :: keys (put rest key value) = _
        rw [ih]
        split <;> simp

end Keyed

end RecordQuery
