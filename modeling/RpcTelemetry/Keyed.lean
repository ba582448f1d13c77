/-!
# Maps with keys in order

A `Keyed α` maps strings to values. Its entries stand in strictly increasing order of their keys,
so each key occurs once and a map is determined by what it holds (`Keyed.ext_get?`).

Main statements: `get?_insert`, `get?_erase`, `Keyed.ext_get?`; `exchange_eq` and `extract_eq` for
the operations that also give back what a key had.
-/

namespace RpcTelemetry

/-- A map from strings, as entries in strictly increasing order of their keys. -/
structure Keyed (α : Type) where
  entries : List (String × α)
  increasing : entries.Pairwise fun a b => a.1 < b.1

namespace Keyed

variable {α : Type}

/-- Puts an entry in its place among ordered entries, over an earlier one of the same key. -/
def insertEntry (key : String) (value : α) : List (String × α) → List (String × α)
  | [] => [(key, value)]
  | (k, v) :: rest =>
    if key < k then (key, value) :: (k, v) :: rest
    else if key = k then (key, value) :: rest
    else (k, v) :: insertEntry key value rest

theorem mem_insertEntry {key : String} {value : α} {entry : String × α}
    {entries : List (String × α)} (present : entry ∈ insertEntry key value entries) :
    entry = (key, value) ∨ entry ∈ entries := by
  induction entries with
  | nil => simpa [insertEntry] using present
  | cons head rest ih => grind [insertEntry]

theorem pairwise_insertEntry {key : String} {value : α} {entries : List (String × α)}
    (ordered : entries.Pairwise fun a b => a.1 < b.1) :
    (insertEntry key value entries).Pairwise fun a b => a.1 < b.1 := by
  induction entries with
  | nil => simp [insertEntry]
  | cons head rest ih =>
    obtain ⟨k, v⟩ := head
    obtain ⟨above, restOrdered⟩ := List.pairwise_cons.1 ordered
    unfold insertEntry
    split
    · next below =>
      refine List.pairwise_cons.2 ⟨?_, ordered⟩
      intro entry present
      rcases List.mem_cons.1 present with rfl | present
      · exact below
      · exact String.lt_trans below (above entry present)
    · next notBelow =>
      split
      · next same => subst same; exact List.pairwise_cons.2 ⟨above, restOrdered⟩
      · next other =>
        refine List.pairwise_cons.2 ⟨?_, ih restOrdered⟩
        intro entry present
        rcases mem_insertEntry present with rfl | present
        · refine String.not_le.1 fun reaches => other ?_
          exact String.le_antisymm reaches (String.not_lt.1 notBelow)
        · exact above entry present

/-- The map without entries. -/
def empty : Keyed α := ⟨[], .nil⟩

instance : Inhabited (Keyed α) := ⟨empty⟩

instance : EmptyCollection (Keyed α) := ⟨empty⟩

/-- The value of a key. -/
def get? (map : Keyed α) (key : String) : Option α := map.entries.lookup key

/-- The map with a new value for a key. -/
def insert (map : Keyed α) (key : String) (value : α) : Keyed α :=
  ⟨insertEntry key value map.entries, pairwise_insertEntry map.increasing⟩

/-- The map without a key. -/
def erase (map : Keyed α) (key : String) : Keyed α :=
  ⟨map.entries.filter (·.1 ≠ key), map.increasing.filter _⟩

/-- The keys, in increasing order. -/
def keys (map : Keyed α) : List String := map.entries.map (·.1)

/-- The number of keys. -/
def size (map : Keyed α) : Nat := map.entries.length

theorem lookup_cons_eq_ite (other key : String) (value : α) (rest : List (String × α)) :
    ((key, value) :: rest).lookup other =
      if other = key then some value else rest.lookup other := by
  by_cases same : other = key
  · simp [same]
  · have unequal : (other == key) = false := by simp [same]
    simp [List.lookup_cons, same, unequal]

theorem lookup_insertEntry (key other : String) (value : α) (entries : List (String × α)) :
    (insertEntry key value entries).lookup other =
      if other = key then some value else entries.lookup other := by
  induction entries with
  | nil => simp [insertEntry, lookup_cons_eq_ite]
  | cons head rest ih =>
    obtain ⟨k, v⟩ := head
    unfold insertEntry
    split
    · simp only [lookup_cons_eq_ite]
    · split
      · next same => subst same; simp only [lookup_cons_eq_ite]; grind
      · next distinct => simp only [lookup_cons_eq_ite, ih]; grind

theorem lookup_filter_ne (key other : String) (entries : List (String × α)) :
    (entries.filter (·.1 ≠ key)).lookup other =
      if other = key then none else entries.lookup other := by
  induction entries with
  | nil => simp
  | cons head rest ih =>
    obtain ⟨k, v⟩ := head
    by_cases dropped : k = key
    · simp only [List.filter_cons, dropped, ne_eq, not_true_eq_false, decide_false,
        Bool.false_eq_true, if_false, ih, lookup_cons_eq_ite]
      grind
    · simp only [List.filter_cons, dropped, ne_eq, not_false_eq_true, decide_true, if_true, ih,
        lookup_cons_eq_ite]
      grind

theorem lookup_eq_none_of_below (key : String) (entries : List (String × α))
    (below : ∀ entry ∈ entries, key < entry.1) : entries.lookup key = none := by
  induction entries with
  | nil => rfl
  | cons head rest ih =>
    obtain ⟨k, v⟩ := head
    have other : key ≠ k := fun same => String.lt_irrefl k (same ▸ below (k, v) (by simp))
    simp only [lookup_cons_eq_ite, other, if_false]
    exact ih fun entry present => below entry (List.mem_cons_of_mem _ present)

theorem eq_of_lookup_eq {left right : List (String × α)}
    (leftOrdered : left.Pairwise fun a b => a.1 < b.1)
    (rightOrdered : right.Pairwise fun a b => a.1 < b.1)
    (same : ∀ key, left.lookup key = right.lookup key) : left = right := by
  induction left generalizing right with
  | nil =>
    cases right with
    | nil => rfl
    | cons head rest => obtain ⟨k, v⟩ := head; simpa [lookup_cons_eq_ite] using same k
  | cons head rest ih =>
    obtain ⟨k, v⟩ := head
    cases right with
    | nil => simpa [lookup_cons_eq_ite] using same k
    | cons head' rest' =>
      obtain ⟨k', v'⟩ := head'
      obtain ⟨above, restOrdered⟩ := List.pairwise_cons.1 leftOrdered
      obtain ⟨above', restOrdered'⟩ := List.pairwise_cons.1 rightOrdered
      have notBelow : ¬k < k' := fun below => by
        have missing := lookup_eq_none_of_below k ((k', v') :: rest') (by
          intro entry present
          rcases List.mem_cons.1 present with rfl | present
          · exact below
          · exact String.lt_trans below (above' entry present))
        simpa [lookup_cons_eq_ite, missing] using same k
      have notBelow' : ¬k' < k := fun below => by
        have missing := lookup_eq_none_of_below k' ((k, v) :: rest) (by
          intro entry present
          rcases List.mem_cons.1 present with rfl | present
          · exact below
          · exact String.lt_trans below (above entry present))
        simpa [lookup_cons_eq_ite, missing] using (same k').symm
      obtain rfl : k = k' :=
        String.le_antisymm (String.not_lt.1 notBelow') (String.not_lt.1 notBelow)
      obtain rfl : v = v' := by simpa [lookup_cons_eq_ite] using same k
      congr 1
      refine ih restOrdered restOrdered' fun key => ?_
      by_cases here : key = k
      · subst here
        rw [lookup_eq_none_of_below key rest above, lookup_eq_none_of_below key rest' above']
      · simpa [lookup_cons_eq_ite, here] using same key

theorem lookup_eq_some_iff {entries : List (String × α)}
    (ordered : entries.Pairwise fun a b => a.1 < b.1) (key : String) (value : α) :
    entries.lookup key = some value ↔ (key, value) ∈ entries := by
  induction entries with
  | nil => simp
  | cons head rest ih =>
    obtain ⟨k, v⟩ := head
    obtain ⟨above, restOrdered⟩ := List.pairwise_cons.1 ordered
    rw [lookup_cons_eq_ite, List.mem_cons, Prod.mk.injEq]
    split
    · next same =>
      subst same
      have absent : (key, value) ∉ rest := fun present =>
        String.lt_irrefl key (above (key, value) present)
      simp [absent, eq_comm]
    · next other => simp [other, ih restOrdered]

/-- An entry is what its key is mapped to. -/
theorem get?_eq_some_iff (map : Keyed α) (key : String) (value : α) :
    map.get? key = some value ↔ (key, value) ∈ map.entries :=
  lookup_eq_some_iff map.increasing key value

@[simp] theorem get?_insert (map : Keyed α) (key other : String) (value : α) :
    (map.insert key value).get? other = if other = key then some value else map.get? other :=
  lookup_insertEntry key other value map.entries

@[simp] theorem get?_erase (map : Keyed α) (key other : String) :
    (map.erase key).get? other = if other = key then none else map.get? other :=
  lookup_filter_ne key other map.entries

/-! ## Operations that give back what a key had -/

/-- Puts an entry in its place among ordered entries, and gives back the value that was there. -/
def exchangeEntry (key : String) (value : α) :
    List (String × α) → Option α × List (String × α)
  | [] => (none, [(key, value)])
  | (k, v) :: rest =>
    if key < k then (none, (key, value) :: (k, v) :: rest)
    else if key = k then (some v, (key, value) :: rest)
    else
      let (old, rest) := exchangeEntry key value rest
      (old, (k, v) :: rest)

/-- Takes the entry of a key out of ordered entries, and gives back its value. -/
def extractEntry (key : String) : List (String × α) → Option α × List (String × α)
  | [] => (none, [])
  | (k, v) :: rest =>
    if key < k then (none, (k, v) :: rest)
    else if key = k then (some v, rest)
    else
      let (old, rest) := extractEntry key rest
      (old, (k, v) :: rest)

theorem exchangeEntry_eq (key : String) (value : α) {entries : List (String × α)}
    (ordered : entries.Pairwise fun a b => a.1 < b.1) :
    exchangeEntry key value entries = (entries.lookup key, insertEntry key value entries) := by
  induction entries with
  | nil => rfl
  | cons head rest ih =>
    obtain ⟨k, v⟩ := head
    obtain ⟨above, restOrdered⟩ := List.pairwise_cons.1 ordered
    rw [exchangeEntry, insertEntry, lookup_cons_eq_ite]
    split
    · next below =>
      -- The search stops here because all that follows has greater keys.
      rw [if_neg (String.ne_of_lt below), lookup_eq_none_of_below key rest fun entry present =>
        String.lt_trans below (above entry present)]
    · split
      · rfl
      · rw [ih restOrdered]

theorem extractEntry_eq (key : String) {entries : List (String × α)}
    (ordered : entries.Pairwise fun a b => a.1 < b.1) :
    extractEntry key entries = (entries.lookup key, entries.filter (·.1 ≠ key)) := by
  induction entries with
  | nil => rfl
  | cons head rest ih =>
    obtain ⟨k, v⟩ := head
    obtain ⟨above, restOrdered⟩ := List.pairwise_cons.1 ordered
    have kept (least : ¬k < key) : rest.filter (·.1 ≠ key) = rest := by
      refine List.filter_eq_self.2 fun entry present => decide_eq_true fun same => least ?_
      exact same ▸ above entry present
    rw [extractEntry, lookup_cons_eq_ite]
    split
    · next below =>
      have distinct : k ≠ key := (String.ne_of_lt below).symm
      rw [if_neg distinct.symm, lookup_eq_none_of_below key rest fun entry present =>
        String.lt_trans below (above entry present),
        List.filter_cons_of_pos (by simpa using distinct), kept (String.lt_asymm below)]
    · split
      · next same =>
        subst same
        rw [List.filter_cons_of_neg (by simp), kept (String.lt_irrefl key)]
      · next distinct =>
        rw [ih restOrdered, List.filter_cons_of_pos (by simpa using Ne.symm distinct)]

/-- The map with a new value for a key, and the value that the key had. -/
def exchange (map : Keyed α) (key : String) (value : α) : Option α × Keyed α :=
  let exchanged := exchangeEntry key value map.entries
  (exchanged.1, ⟨exchanged.2, by
    rw [show exchanged = _ from exchangeEntry_eq key value map.increasing]
    exact pairwise_insertEntry map.increasing⟩)

/-- The map without a key, and the value that the key had. -/
def extract (map : Keyed α) (key : String) : Option α × Keyed α :=
  let extracted := extractEntry key map.entries
  (extracted.1, ⟨extracted.2, by
    rw [show extracted = _ from extractEntry_eq key map.increasing]
    exact map.increasing.filter _⟩)

theorem exchange_eq (map : Keyed α) (key : String) (value : α) :
    map.exchange key value = (map.get? key, map.insert key value) := by
  simp only [exchange, exchangeEntry_eq key value map.increasing]
  rfl

theorem extract_eq (map : Keyed α) (key : String) :
    map.extract key = (map.get? key, map.erase key) := by
  simp only [extract, extractEntry_eq key map.increasing]
  rfl

/-- A map is determined by the values of its keys. -/
theorem ext_get? {left right : Keyed α} (same : ∀ key, left.get? key = right.get? key) :
    left = right := by
  obtain ⟨left, leftOrdered⟩ := left
  obtain ⟨right, rightOrdered⟩ := right
  obtain rfl : left = right := eq_of_lookup_eq leftOrdered rightOrdered same
  rfl

end Keyed

end RpcTelemetry
