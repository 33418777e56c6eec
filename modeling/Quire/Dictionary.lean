/-!
# Dictionaries

Values stored under text keys. The entries are kept in the order of their keys, each key once, so
equal contents are equal values. Main statements: insertion and removal keep the order, a look-up
finds what was inserted last, two dictionaries with the same look-ups are equal, entries in order
are put together as they are, and those of different keys are found as they were listed.
-/

namespace Quire

/-- Entries under text keys. -/
abbrev Entries (α : Type) := List (String × α)

namespace Entries

variable {α : Type}

/-- Each key comes before all later ones. -/
def Sorted (entries : Entries α) : Prop :=
  entries.Pairwise fun a b => a.1 < b.1

/-- The value under a key. -/
def find? (entries : Entries α) (key : String) : Option α :=
  entries.lookup key

/-- Puts a value under a key, in place of the value there. -/
def insert (key : String) (value : α) : Entries α → Entries α
  | [] => [(key, value)]
  | (k, v) :: rest =>
    if key < k then (key, value) :: (k, v) :: rest
    else if k < key then (k, v) :: insert key value rest
    else (key, value) :: rest

/-- Takes a key out. -/
def erase (key : String) (entries : Entries α) : Entries α :=
  entries.filter fun entry => entry.1 != key

/-- The entries of a list, where a later value under a key replaces an earlier one. -/
def ofList (pairs : List (String × α)) : Entries α :=
  pairs.foldl (fun entries (key, value) => entries.insert key value) []

theorem eq_of_not_lt {a b : String} (h : ¬a < b) (h' : ¬b < a) : a = b :=
  String.le_antisymm (String.not_lt.1 h') (String.not_lt.1 h)

theorem mem_insert {key : String} {value : α} {entries : Entries α} {entry : String × α}
    (h : entry ∈ insert key value entries) : entry = (key, value) ∨ entry ∈ entries := by
  induction entries with
  | nil => simpa [insert] using h
  | cons head rest ih =>
    obtain ⟨k, v⟩ := head
    unfold insert at h
    split at h
    · simpa using h
    · split at h
      · rcases List.mem_cons.1 h with h | h
        · exact .inr (h ▸ List.mem_cons_self)
        · exact (ih h).imp_right (List.mem_cons_of_mem _)
      · rcases List.mem_cons.1 h with h | h
        · exact .inl h
        · exact .inr (List.mem_cons_of_mem _ h)

theorem Sorted.insert {entries : Entries α} (h : entries.Sorted) (key : String) (value : α) :
    (entries.insert key value).Sorted := by
  induction entries with
  | nil => exact List.pairwise_singleton ..
  | cons head rest ih =>
    obtain ⟨k, v⟩ := head
    obtain ⟨before, rest_sorted⟩ := List.pairwise_cons.1 h
    unfold Entries.insert
    split
    next lt =>
      refine List.pairwise_cons.2 ⟨fun entry mem => ?_, h⟩
      rcases List.mem_cons.1 mem with rfl | mem
      · exact lt
      · exact String.lt_trans lt (before entry mem)
    next not_lt =>
      split
      next lt =>
        refine List.pairwise_cons.2 ⟨fun entry mem => ?_, ih rest_sorted⟩
        rcases mem_insert mem with rfl | mem
        · exact lt
        · exact before entry mem
      next not_gt =>
        have same : k = key := eq_of_not_lt not_gt not_lt
        subst same
        exact List.pairwise_cons.2 ⟨before, rest_sorted⟩

theorem Sorted.erase {entries : Entries α} (h : entries.Sorted) (key : String) :
    (entries.erase key).Sorted :=
  List.Pairwise.filter _ h

theorem find?_cons {key k : String} {v : α} {rest : Entries α} :
    find? ((k, v) :: rest) key = if key = k then some v else find? rest key := by
  unfold find?
  rw [List.lookup_cons]
  by_cases h : key = k
  · simp [h]
  · simp [h, beq_eq_false_iff_ne.2 h]

/-- Insertion changes the look-up of one key and of no other. -/
theorem find?_insert (entries : Entries α) (key other : String) (value : α) :
    (entries.insert key value).find? other =
      if other = key then some value else entries.find? other := by
  induction entries with
  | nil => exact find?_cons
  | cons head rest ih =>
    obtain ⟨k, v⟩ := head
    unfold insert
    split
    next => exact find?_cons
    next not_lt =>
      split
      next lt =>
        have differ : k ≠ key := String.ne_of_lt lt
        rw [find?_cons, find?_cons, ih]
        by_cases h : other = k
        · subst h
          simp [differ]
        · simp [h]
      next not_gt =>
        have same : k = key := eq_of_not_lt not_gt not_lt
        subst same
        rw [find?_cons, find?_cons]
        by_cases h : other = k <;> simp [h]

/-- Removal changes the look-up of one key and of no other. -/
theorem find?_erase (entries : Entries α) (key other : String) :
    (entries.erase key).find? other = if other = key then none else entries.find? other := by
  induction entries with
  | nil => simp [erase, find?]
  | cons head rest ih =>
    obtain ⟨k, v⟩ := head
    rw [find?_cons]
    by_cases h : k = key
    · subst h
      have dropped : erase k ((k, v) :: rest) = erase k rest := by simp [erase]
      rw [dropped, ih]
      by_cases same : other = k <;> simp [same]
    · have kept : erase key ((k, v) :: rest) = (k, v) :: erase key rest := by simp [erase, h]
      rw [kept, find?_cons, ih]
      by_cases same : other = k
      · subst same
        simp [h]
      · simp [same]

/-- A key before the first one is not there. -/
theorem find?_eq_none_of_lt {entries : Entries α} {key : String}
    (h : ∀ entry ∈ entries, key < entry.1) : entries.find? key = none := by
  induction entries with
  | nil => rfl
  | cons head rest ih =>
    obtain ⟨k, v⟩ := head
    have differ : key ≠ k := String.ne_of_lt (h (k, v) List.mem_cons_self)
    rw [find?_cons, if_neg differ]
    exact ih fun entry mem => h entry (List.mem_cons_of_mem _ mem)

/-- The first key of one sorted list cannot stand before the first key of another one with the
same look-ups. -/
theorem not_lt_of_find?_eq {k k' : String} {v v' : α} {rest rest' : Entries α}
    (sorted' : Sorted ((k', v') :: rest'))
    (same : ∀ key, find? ((k, v) :: rest) key = find? ((k', v') :: rest') key) : ¬k < k' := by
  intro lt
  have before : ∀ entry ∈ (k', v') :: rest', k < entry.1 := by
    intro entry mem
    rcases List.mem_cons.1 mem with rfl | mem
    · exact lt
    · exact String.lt_trans lt ((List.pairwise_cons.1 sorted').1 entry mem)
  have found := same k
  rw [find?_eq_none_of_lt before, find?_cons] at found
  simp at found

/-- Sorted lists with the same look-ups are the same. -/
theorem Sorted.ext {left right : Entries α} (hl : left.Sorted) (hr : right.Sorted)
    (same : ∀ key, left.find? key = right.find? key) : left = right := by
  induction left generalizing right with
  | nil =>
    cases right with
    | nil => rfl
    | cons head rest =>
      have found := same head.1
      rw [find?_cons] at found
      simp [find?] at found
  | cons head rest ih =>
    obtain ⟨k, v⟩ := head
    cases right with
    | nil =>
      have found := same k
      rw [find?_cons] at found
      simp [find?] at found
    | cons head' rest' =>
      obtain ⟨k', v'⟩ := head'
      have keys : k = k' :=
        eq_of_not_lt (not_lt_of_find?_eq hr same) (not_lt_of_find?_eq hl fun key => (same key).symm)
      subst keys
      obtain ⟨before, rest_sorted⟩ := List.pairwise_cons.1 hl
      obtain ⟨before', rest_sorted'⟩ := List.pairwise_cons.1 hr
      have values : v = v' := by
        have found := same k
        rw [find?_cons, find?_cons] at found
        simpa using found
      have rests : rest = rest' := by
        refine ih rest_sorted rest_sorted' fun key => ?_
        by_cases h : key = k
        · subst h
          rw [find?_eq_none_of_lt before, find?_eq_none_of_lt before']
        · have found := same key
          rwa [find?_cons, find?_cons, if_neg h, if_neg h] at found
      rw [values, rests]

/-- A key behind all others is put at the end. -/
theorem insert_of_lt {key : String} {entries : Entries α} (value : α)
    (before : ∀ entry ∈ entries, entry.1 < key) :
    entries.insert key value = entries ++ [(key, value)] := by
  induction entries with
  | nil => rfl
  | cons entry rest ih =>
    obtain ⟨k, v⟩ := entry
    have less : k < key := before (k, v) List.mem_cons_self
    rw [insert, if_neg (String.lt_asymm less), if_pos less,
      ih fun entry mem => before entry (List.mem_cons_of_mem _ mem)]
    rfl

/-- Entries in order are put together as they are. -/
theorem ofList_eq_self {entries : Entries α} (sorted : entries.Sorted) :
    ofList entries = entries := by
  have grows (front back : Entries α) (sorted : Sorted (front ++ back)) :
      back.foldl (fun entries (key, value) => entries.insert key value) front = front ++ back := by
    induction back generalizing front with
    | nil => exact (List.append_nil front).symm
    | cons entry back ih =>
      obtain ⟨key, value⟩ := entry
      have before : ∀ entry ∈ front, entry.1 < key := fun entry mem =>
        (List.pairwise_append.1 sorted).2.2 entry mem (key, value) List.mem_cons_self
      have apart : front ++ (key, value) :: back = front ++ [(key, value)] ++ back := by simp
      rw [List.foldl_cons]
      dsimp only
      rw [insert_of_lt value before, apart]
      exact ih _ (apart ▸ sorted)
  exact grows [] entries sorted

/-- A key that no entry bears is not there. -/
theorem find?_eq_none_of_not_mem {entries : Entries α} {key : String}
    (missing : key ∉ entries.map (·.1)) : entries.find? key = none := by
  induction entries with
  | nil => rfl
  | cons entry rest ih =>
    obtain ⟨k, v⟩ := entry
    rw [List.map_cons, List.mem_cons, not_or] at missing
    obtain ⟨differ, missing⟩ := missing
    rw [find?_cons, if_neg differ]
    exact ih missing

/-- Entries that bear different keys are found in order as they are found in the list. -/
theorem find?_ofList {pairs : List (String × α)} (distinct : (pairs.map (·.1)).Nodup)
    (key : String) : (ofList pairs).find? key = find? pairs key := by
  have grows (front back : Entries α) (distinct : (back.map (·.1)).Nodup) :
      find? (back.foldl (fun entries (key, value) => entries.insert key value) front) key =
        (find? back key).or (front.find? key) := by
    induction back generalizing front with
    | nil => rfl
    | cons entry back ih =>
      obtain ⟨k, v⟩ := entry
      obtain ⟨missing, distinct⟩ := List.nodup_cons.1 distinct
      rw [List.foldl_cons, ih _ distinct, find?_insert, find?_cons]
      by_cases same : key = k
      · subst same
        rw [find?_eq_none_of_not_mem missing, if_pos rfl, if_pos rfl]
        rfl
      · rw [if_neg same, if_neg same]
  rw [ofList, grows [] pairs distinct]
  exact Option.or_none

end Entries

/-- Values under text keys. -/
structure Dictionary (α : Type) where
  entries : Entries α
  sorted : entries.Sorted

namespace Dictionary

variable {α : Type}

/-- The dictionary without entries. -/
def empty : Dictionary α :=
  ⟨[], List.Pairwise.nil⟩

/-- The value under a key. -/
def get? (d : Dictionary α) (key : String) : Option α :=
  d.entries.find? key

/-- Whether there is a value under a key. -/
def contains (d : Dictionary α) (key : String) : Bool :=
  (d.get? key).isSome

/-- Puts a value under a key, in place of the value there. -/
def insert (d : Dictionary α) (key : String) (value : α) : Dictionary α :=
  ⟨d.entries.insert key value, d.sorted.insert key value⟩

/-- Takes a key out. -/
def erase (d : Dictionary α) (key : String) : Dictionary α :=
  ⟨d.entries.erase key, d.sorted.erase key⟩

/-- The keys in order. -/
def keys (d : Dictionary α) : List String :=
  d.entries.map (·.1)

/-- The entries of a list, where a later value under a key replaces an earlier one. -/
def ofList (pairs : List (String × α)) : Dictionary α :=
  pairs.foldl (fun d (key, value) => d.insert key value) empty

@[simp]
theorem get?_empty (key : String) : (empty : Dictionary α).get? key = none :=
  rfl

@[simp]
theorem get?_insert (d : Dictionary α) (key other : String) (value : α) :
    (d.insert key value).get? other = if other = key then some value else d.get? other :=
  Entries.find?_insert d.entries key other value

@[simp]
theorem get?_erase (d : Dictionary α) (key other : String) :
    (d.erase key).get? other = if other = key then none else d.get? other :=
  Entries.find?_erase d.entries key other

/-- Dictionaries with the same look-ups are equal. -/
theorem ext_get? {d e : Dictionary α} (h : ∀ key, d.get? key = e.get? key) : d = e := by
  obtain ⟨entries, sorted⟩ := d
  obtain ⟨entries', sorted'⟩ := e
  have same : entries = entries' := sorted.ext sorted' h
  subst same
  rfl

/-- The entries of a dictionary make it up again. -/
theorem ofList_entries (d : Dictionary α) : ofList d.entries = d := by
  have entries (pairs : List (String × α)) (front : Dictionary α) :
      (pairs.foldl (fun d (key, value) => d.insert key value) front).entries =
        pairs.foldl (fun entries (key, value) => entries.insert key value) front.entries := by
    induction pairs generalizing front with
    | nil => rfl
    | cons pair pairs ih => exact ih _
  have same : (ofList d.entries).entries = d.entries :=
    (entries _ _).trans (Entries.ofList_eq_self d.sorted)
  cases whole : ofList d.entries
  cases d
  rw [whole] at same
  cases same
  rfl

end Dictionary

end Quire
