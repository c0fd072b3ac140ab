import RecordQuery.Keyed

/-!
# Writing to keyed lists

What writing one entry, or one list of entries over another, leaves of the
entries that were there, and what is found under a key where keys occur once.
-/

namespace RecordQuery.Keyed

variable {α : Type}

instance (entries : Keyed α) : Decidable entries.Distinct :=
  inferInstanceAs (Decidable entries.keys.Nodup)

/-- Writing what is there already changes nothing. -/
theorem put_of_get? {entries : Keyed α} {key : String} {value : α}
    (present : entries.get? key = some value) : entries.put key value = entries := by
  induction entries with
  | nil => cases present
  | cons entry rest ih =>
      obtain ⟨other, old⟩ := entry
      by_cases same : other = key
      · simp only [get?, same, if_true, Option.some.injEq] at present
        simp [put, same, present]
      · simp only [get?, same, if_false] at present
        simp [put, same, ih present]

/-- A new key goes to the end. -/
theorem put_of_notMem {entries : Keyed α} {key : String} (absent : key ∉ entries.keys) (value : α) :
    entries.put key value = entries ++ [(key, value)] := by
  induction entries with
  | nil => rfl
  | cons entry rest ih =>
      obtain ⟨other, old⟩ := entry
      obtain ⟨apart, absentRest⟩ := not_or.1 (mt List.mem_cons.2 absent)
      rw [put, if_neg (Ne.symm apart), ih absentRest]
      rfl

theorem mem_of_get? {entries : Keyed α} {key : String} {value : α}
    (present : entries.get? key = some value) : (key, value) ∈ entries := by
  induction entries with
  | nil => cases present
  | cons entry rest ih =>
      obtain ⟨other, old⟩ := entry
      simp only [get?] at present
      split at present
      case isTrue same =>
        cases present
        simp [same]
      case isFalse => exact List.mem_cons_of_mem _ (ih present)

theorem has_iff_mem_keys (entries : Keyed α) (key : String) :
    entries.has key ↔ key ∈ entries.keys := by
  induction entries with
  | nil => simp [has, keys]
  | cons entry rest ih =>
      obtain ⟨other, old⟩ := entry
      simp only [has, keys] at ih
      by_cases same : other = key
      · simp [has, keys, get?, same]
      · simp [has, keys, get?, same, Ne.symm same, ih]

theorem get?_eq_none_iff {entries : Keyed α} {key : String} :
    entries.get? key = none ↔ key ∉ entries.keys := by
  rw [← has_iff_mem_keys, has, Option.not_isSome_iff_eq_none]

theorem get?_of_mem {entries : Keyed α} (distinct : entries.Distinct) {key : String} {value : α}
    (member : (key, value) ∈ entries) : entries.get? key = some value := by
  induction entries with
  | nil => cases member
  | cons entry rest ih =>
      obtain ⟨other, old⟩ := entry
      obtain ⟨absent, distinctRest⟩ := List.nodup_cons.1 distinct
      rcases List.mem_cons.1 member with same | later
      · cases same
        simp [get?]
      · have named : key ∈ rest.map Prod.fst := List.mem_map_of_mem later
        have apart : other ≠ key := fun same => absent (same ▸ named)
        rw [get?, if_neg apart]
        exact ih distinctRest later

/-- A test that no entry under another key passes selects at most one entry. -/
theorem filter_eq_of_key {entries : Keyed α} (distinct : entries.Distinct)
    {keep : String × α → Bool} (key : String)
    (only : ∀ entry ∈ entries, keep entry → entry.1 = key) :
    entries.filter keep =
      ((entries.get? key).map fun value => (key, value)).toList.filter keep := by
  induction entries with
  | nil => rfl
  | cons entry rest ih =>
      obtain ⟨other, old⟩ := entry
      obtain ⟨absent, distinctRest⟩ := List.nodup_cons.1 distinct
      obtain ⟨onlyHead, onlyRest⟩ := List.forall_mem_cons.1 only
      have rested := ih distinctRest onlyRest
      by_cases same : other = key
      · subst same
        rw [get?_eq_none_iff.2 absent] at rested
        simp [get?, List.filter_cons, rested]
      · have dropped : ¬keep (other, old) := fun kept => same (onlyHead kept)
        rw [get?, if_neg same, List.filter_cons_of_neg dropped, rested]

/-- The entries after writing are the new one and some of the old ones. -/
theorem mem_put {entries : Keyed α} {key : String} {value : α} {entry : String × α}
    (member : entry ∈ entries.put key value) : entry = (key, value) ∨ entry ∈ entries := by
  induction entries with
  | nil => simpa [put] using member
  | cons head rest ih =>
      obtain ⟨other, old⟩ := head
      simp only [put] at member
      split at member
      · rcases List.mem_cons.1 member with same | kept
        · exact .inl same
        · exact .inr (List.mem_cons_of_mem _ kept)
      · rcases List.mem_cons.1 member with same | moved
        · exact .inr (same ▸ List.mem_cons_self)
        · rcases ih moved with same | kept
          · exact .inl same
          · exact .inr (List.mem_cons_of_mem _ kept)

theorem distinct_put {entries : Keyed α} (distinct : entries.Distinct) (key : String) (value : α) :
    (entries.put key value).Distinct := by
  simp only [Distinct, keys_put]
  split
  · exact distinct
  · rename_i absent
    rw [has_iff_mem_keys] at absent
    exact List.nodup_append.2 ⟨distinct, by simp, by
      intro present member other same
      rw [List.mem_singleton.1 same]
      exact fun equal => absent (equal ▸ member)⟩

theorem notMem_keys_filter {entries : Keyed α} {keep : String × α → Bool} {key : String}
    (dropped : ∀ value, keep (key, value) = false) : key ∉ keys (entries.filter keep) := by
  intro member
  obtain ⟨⟨other, value⟩, kept, same⟩ := List.mem_map.1 member
  cases same
  have holds := (List.mem_filter.1 kept).2
  rw [dropped value] at holds
  cases holds

/-- Changing the entries that a test selects changes nothing if it selects none. -/
theorem map_eq_self (keep : α → Bool) (change : α → α) {entries : Keyed α}
    (none : (entries.filter fun entry => keep entry.2) = []) :
    (entries.map fun entry => (entry.1, if keep entry.2 then change entry.2 else entry.2)) =
      entries := by
  refine (List.map_congr_left ?_).trans entries.map_id
  intro entry member
  rw [if_neg (List.filter_eq_nil_iff.1 none entry member)]
  rfl

/-- Changing the one entry that a test selects is writing under its key. -/
theorem map_eq_put {entries : Keyed α} (distinct : entries.Distinct)
    (keep : α → Bool) (change : α → α) {key : String} {value : α}
    (selected : (entries.filter fun entry => keep entry.2) = [(key, value)]) :
    (entries.map fun entry => (entry.1, if keep entry.2 then change entry.2 else entry.2)) =
      entries.put key (change value) := by
  induction entries with
  | nil => cases selected
  | cons entry rest ih =>
      obtain ⟨other, old⟩ := entry
      obtain ⟨absent, distinctRest⟩ := List.nodup_cons.1 distinct
      by_cases kept : keep old
      · rw [List.filter_cons, if_pos kept] at selected
        obtain ⟨same, none⟩ := List.cons.inj selected
        cases same
        rw [List.map_cons, map_eq_self keep change none, put, if_pos rfl, if_pos kept]
      · rw [List.filter_cons, if_neg kept] at selected
        have member : (key, value) ∈ rest :=
          (List.mem_filter.1 (selected ▸ List.mem_singleton_self _)).1
        have named : key ∈ rest.map Prod.fst := List.mem_map_of_mem member
        have apart : other ≠ key := fun same => absent (same ▸ named)
        rw [List.map_cons, ih distinctRest selected, put, if_neg apart, if_neg kept]

/-- A key that is not written over reads as before. -/
theorem get?_overlay_of_notMem {entries additions : Keyed α} {key : String}
    (absent : key ∉ additions.keys) : (entries.overlay additions).get? key = entries.get? key := by
  induction additions generalizing entries with
  | nil => rfl
  | cons addition rest ih =>
      obtain ⟨other, value⟩ := addition
      simp only [keys, List.map_cons, List.mem_cons, not_or] at absent
      simp [ih absent.2, Ne.symm absent.1]

/-- Where the keys written over are distinct, what is written is read back. -/
theorem get?_overlay {additions : Keyed α} (distinct : additions.Distinct) (entries : Keyed α)
    (key : String) :
    (entries.overlay additions).get? key = (additions.get? key).or (entries.get? key) := by
  induction additions generalizing entries with
  | nil => rfl
  | cons addition rest ih =>
      obtain ⟨other, value⟩ := addition
      obtain ⟨absent, distinctRest⟩ := List.nodup_cons.1 distinct
      by_cases same : other = key
      · subst same
        simp [get?_overlay_of_notMem absent]
      · simp [ih distinctRest, same]

/-- Writing keeps the keys in their order, and adds new ones at the end. -/
theorem keys_prefix_put (entries : Keyed α) (key : String) (value : α) :
    entries.keys <+: (entries.put key value).keys := by
  rw [keys_put]
  split
  · exact List.prefix_rfl
  · exact List.prefix_append _ _

theorem keys_prefix_overlay (entries additions : Keyed α) :
    entries.keys <+: (entries.overlay additions).keys := by
  induction additions generalizing entries with
  | nil => exact List.prefix_rfl
  | cons addition rest ih =>
      exact (entries.keys_prefix_put addition.1 addition.2).trans (ih _)

/-- Of the entries whose keys pass a test, those that pass are read as before. -/
theorem get?_filter (entries : Keyed α) (keep : String → Bool) (key : String) :
    Keyed.get? (entries.filter fun entry => keep entry.1) key =
      if keep key then entries.get? key else none := by
  induction entries with
  | nil => simp
  | cons entry rest ih =>
      obtain ⟨other, value⟩ := entry
      by_cases same : other = key
      · subst same
        by_cases kept : keep other
        · simp [kept, get?]
        · simpa [kept, get?] using ih
      · by_cases kept : keep other
        · simpa [kept, get?, same] using ih
        · simpa [kept, get?, same] using ih

/-- Two tests on keys select the same entries when they agree on the keys there are. -/
theorem filter_eq_filter_iff {entries : Keyed α} (keep other : String → Bool) :
    (entries.filter fun entry => keep entry.1) = entries.filter (fun entry => other entry.1) ↔
      ∀ key ∈ entries.keys, keep key = other key := by
  constructor
  · intro same key member
    obtain ⟨entry, held, rfl⟩ := List.mem_map.1 member
    have kept : entry ∈ entries.filter (fun entry => keep entry.1) ↔
        entry ∈ entries.filter (fun entry => other entry.1) := by rw [same]
    simpa [List.mem_filter, held, ← Bool.eq_iff_iff] using kept
  · intro agree
    exact List.filter_congr fun entry held => agree entry.1 (List.mem_map_of_mem held)

theorem Distinct.filter {entries : Keyed α} (distinct : entries.Distinct)
    (keep : String × α → Bool) : Distinct (entries.filter keep) :=
  distinct.sublist (List.filter_sublist.map Prod.fst)

/-- Writing over entries what they hold already changes nothing. -/
theorem overlay_of_get? {entries additions : Keyed α}
    (agree : ∀ addition ∈ additions, entries.get? addition.1 = some addition.2) :
    entries.overlay additions = entries := by
  induction additions with
  | nil => rfl
  | cons addition rest ih =>
      obtain ⟨first, others⟩ := List.forall_mem_cons.1 agree
      rw [overlay_cons, put_of_get? first, ih others]

/-- Writing over entries some of what they hold once one entry is written has the
effect of that one entry, if it is among those written. -/
theorem overlay_eq_put {entries additions : Keyed α} {key : String} {value : α}
    (agree : ∀ addition ∈ additions, (entries.put key value).get? addition.1 = some addition.2)
    (written : key ∈ additions.keys) : entries.overlay additions = entries.put key value := by
  induction additions with
  | nil => cases written
  | cons addition rest ih =>
      obtain ⟨other, added⟩ := addition
      obtain ⟨first, others⟩ := List.forall_mem_cons.1 agree
      rw [overlay_cons]
      by_cases same : key = other
      · subst same
        obtain rfl : value = added := by simpa using first
        exact overlay_of_get? others
      · replace first : entries.get? other = some added := by simpa [same] using first
        rw [put_of_get? first]
        exact ih others ((List.mem_cons.1 written).resolve_left same)

end RecordQuery.Keyed
