
/-
  Maps with text keys

  A map from text keys is held as its members in ascending order of key, so
  each key is held once: the bodies the in-memory repository keeps by path,
  a node's own properties, a query's bound variables and the columns of a
  query row are such maps. A value is stored by inserting it: a new key goes
  to its place in the order, and a key already present has its value
  replaced in place. Removing a key drops its member.

  What is stated here:
    1. `KeysAscend` and `insertSorted`, with `KeysAscend.insertSorted` —
       insertion keeps the keys in order.
    2. `KeyMap`, with `KeyMap.insert`, `KeyMap.erase` and `KeyMap.get?`.
    3. `KeyMap.get?_insert` and `KeyMap.get?_erase` — a key reads back what
       was last stored under it; `KeyMap.insert_of_get?` — storing the value
       a key holds changes nothing.
-/

namespace ContentPublish

/-- The keys of a list of members ascend strictly: it is a map, each key
once, in key order. -/
def KeysAscend {α : Type} (l : List (String × α)) : Prop :=
  l.Pairwise fun a b => a.1 < b.1

/-- Store a value under a key of a map kept in key order. -/
def insertSorted {α : Type} : List (String × α) → String → α → List (String × α)
  | [], key, v => [(key, v)]
  | (k, w) :: rest, key, v =>
    if key < k then (key, v) :: (k, w) :: rest
    else if key = k then (key, v) :: rest
    else (k, w) :: insertSorted rest key v

section Insertion

variable {α : Type} {l : List (String × α)} {key : String} {v : α}

theorem KeysAscend.nil : KeysAscend ([] : List (String × α)) := List.Pairwise.nil

theorem KeysAscend.of_cons {p : String × α} (h : KeysAscend (p :: l)) : KeysAscend l :=
  List.Pairwise.of_cons h

/-- A member of an insertion is the inserted one or was there before. -/
theorem mem_of_mem_insertSorted {a : String × α} (h : a ∈ insertSorted l key v) :
    a = (key, v) ∨ a ∈ l := by
  induction l with
  | nil => simpa [insertSorted] using h
  | cons p rest ih =>
    obtain ⟨k, w⟩ := p
    unfold insertSorted at h
    by_cases hlt : key < k
    · rw [if_pos hlt] at h
      simpa using h
    by_cases heq : key = k
    · rw [if_neg hlt, if_pos heq, List.mem_cons] at h
      rcases h with h | h
      · exact .inl h
      · exact .inr (List.mem_cons_of_mem _ h)
    · rw [if_neg hlt, if_neg heq, List.mem_cons] at h
      rcases h with h | h
      · exact .inr (h ▸ List.mem_cons_self)
      · rcases ih h with h' | h'
        · exact .inl h'
        · exact .inr (List.mem_cons_of_mem _ h')

/-- **Insertion keeps the keys in order.** -/
theorem KeysAscend.insertSorted (h : KeysAscend l) : KeysAscend (insertSorted l key v) := by
  induction l with
  | nil => exact List.pairwise_singleton _ _
  | cons p rest ih =>
    obtain ⟨k, w⟩ := p
    have hrest : ∀ q ∈ rest, k < q.1 := fun q hq => List.rel_of_pairwise_cons h hq
    unfold ContentPublish.insertSorted
    by_cases hlt : key < k
    · -- the new key goes first
      rw [if_pos hlt]
      refine List.Pairwise.cons (fun q hq => ?_) h
      rcases List.mem_cons.mp hq with rfl | hq
      · exact hlt
      · exact String.lt_trans hlt (hrest q hq)
    by_cases heq : key = k
    · -- the key was there: its value is replaced in place
      rw [if_neg hlt, if_pos heq]
      subst heq
      exact List.Pairwise.cons hrest h.of_cons
    · -- the new key goes further on
      rw [if_neg hlt, if_neg heq]
      have hgt : k < key := Std.lt_of_le_of_ne (String.not_lt.mp hlt) (Ne.symm heq)
      refine List.Pairwise.cons (fun q hq => ?_) (ih h.of_cons)
      rcases mem_of_mem_insertSorted hq with rfl | hq
      · exact hgt
      · exact hrest q hq

/-- Storing under a key the value it holds leaves the map as it was. -/
theorem insertSorted_of_mem (h : KeysAscend l) (hmem : (key, v) ∈ l) : insertSorted l key v = l := by
  induction l with
  | nil => cases hmem
  | cons p rest ih =>
    obtain ⟨k, w⟩ := p
    have hrest : ∀ q ∈ rest, k < q.1 := fun q hq => List.rel_of_pairwise_cons h hq
    unfold insertSorted
    rcases List.mem_cons.mp hmem with heq | hmem
    · -- the member is the first one
      obtain ⟨rfl, rfl⟩ := Prod.mk.inj heq
      simp
    · -- the member is further on, so its key is above the first
      have hgt : k < key := hrest _ hmem
      rw [if_neg (String.lt_asymm hgt), if_neg (Ne.symm (Std.ne_of_lt hgt)), ih h.of_cons hmem]

end Insertion

/-- A map from text keys to values, its members in ascending order of key. -/
structure KeyMap (α : Type) where
  entries : List (String × α)
  ascending : KeysAscend entries

namespace KeyMap

variable {α : Type}

@[ext] theorem ext {m m' : KeyMap α} (h : m.entries = m'.entries) : m = m' := by
  cases m
  cases m'
  cases h
  rfl

instance [DecidableEq α] : DecidableEq (KeyMap α) := fun m m' =>
  decidable_of_iff (m.entries = m'.entries) ⟨ext, fun h => h ▸ rfl⟩

instance [Repr α] : Repr (KeyMap α) := ⟨fun m n => reprPrec m.entries n⟩

/-- The map with no member. -/
def empty : KeyMap α := ⟨[], KeysAscend.nil⟩

/-- Store a value under a key, replacing the value the key held. -/
def insert (m : KeyMap α) (key : String) (v : α) : KeyMap α :=
  ⟨insertSorted m.entries key v, m.ascending.insertSorted⟩

/-- Drop the member of a key. -/
def erase (m : KeyMap α) (key : String) : KeyMap α :=
  ⟨m.entries.filter (·.1 != key), m.ascending.sublist List.filter_sublist⟩

/-- The value held under a key. -/
def get? (m : KeyMap α) (key : String) : Option α :=
  (m.entries.find? (·.1 == key)).map (·.2)

/-- The keys, in ascending order. -/
def keys (m : KeyMap α) : List String := m.entries.map (·.1)

/-- The map holding the members in turn, a later member replacing an earlier
one with the same key. -/
def ofList (members : List (String × α)) : KeyMap α :=
  members.foldl (fun m p => m.insert p.1 p.2) empty

@[simp] theorem entries_empty : (empty : KeyMap α).entries = [] := rfl

@[simp] theorem entries_insert (m : KeyMap α) (key : String) (v : α) :
    (m.insert key v).entries = insertSorted m.entries key v := rfl

/-- Storing members one by one stores them in the entries one by one. -/
theorem entries_foldl_insert (members : List (String × α)) (m : KeyMap α) :
    (members.foldl (fun m p => m.insert p.1 p.2) m).entries =
      members.foldl (fun acc p => insertSorted acc p.1 p.2) m.entries := by
  induction members generalizing m with
  | nil => rfl
  | cons p ps ih => exact ih (m.insert p.1 p.2)

theorem entries_ofList (members : List (String × α)) :
    (ofList members).entries = members.foldl (fun acc p => insertSorted acc p.1 p.2) [] :=
  entries_foldl_insert members empty

theorem get?_insertSorted (l : List (String × α)) (key q : String) (v : α) :
    ((insertSorted l key v).find? (·.1 == q)).map (·.2) =
      if key = q then some v else (l.find? (·.1 == q)).map (·.2) := by
  induction l with
  | nil => by_cases h : key = q <;> simp [insertSorted, h]
  | cons p rest ih =>
    obtain ⟨k, w⟩ := p
    unfold insertSorted
    by_cases hlt : key < k
    · -- the new member goes first
      rw [if_pos hlt]
      by_cases hkq : key = q <;> simp [hkq]
    · by_cases heq : key = k
      · -- the member of the key is replaced
        subst heq
        by_cases hkq : key = q <;> simp [hkq]
      · -- the new member goes further on, past a member of another key
        rw [if_neg hlt, if_neg heq, List.find?_cons, List.find?_cons]
        by_cases hk : k = q
        · subst hk
          simp [heq]
        · simp only [beq_false_of_ne hk, ih]

/-- **A key reads back what was last stored under it.** -/
theorem get?_insert (m : KeyMap α) (key q : String) (v : α) :
    (m.insert key v).get? q = if key = q then some v else m.get? q :=
  get?_insertSorted m.entries key q v

theorem get?_filter (l : List (String × α)) (key q : String) :
    ((l.filter (·.1 != key)).find? (·.1 == q)).map (·.2) =
      if q = key then none else (l.find? (·.1 == q)).map (·.2) := by
  induction l with
  | nil => simp
  | cons p rest ih =>
    obtain ⟨k, w⟩ := p
    by_cases hk : k = key
    · -- the dropped member
      subst hk
      rw [List.filter_cons_of_neg (by simp), ih, List.find?_cons]
      by_cases hq : q = k
      · simp [hq]
      · simp [hq, beq_false_of_ne (Ne.symm hq)]
    · rw [List.filter_cons_of_pos (by simpa using hk)]
      by_cases hkq : k = q
      · subst hkq
        simp [hk]
      · simp only [List.find?_cons, beq_false_of_ne hkq, ih]

/-- A dropped key reads as missing; every other key as before. -/
theorem get?_erase (m : KeyMap α) (key q : String) :
    (m.erase key).get? q = if q = key then none else m.get? q :=
  get?_filter m.entries key q

/-- A key reads its member. -/
theorem get?_of_mem (m : KeyMap α) {key : String} {v : α} (h : (key, v) ∈ m.entries) :
    m.get? key = some v := by
  obtain ⟨l, hasc⟩ := m
  simp only [get?]
  induction l with
  | nil => cases h
  | cons p rest ih =>
    obtain ⟨k, w⟩ := p
    rcases List.mem_cons.mp h with heq | hmem
    · obtain ⟨rfl, rfl⟩ := Prod.mk.inj heq
      simp
    · -- the key is further on, above the first
      have hgt : k < key := List.rel_of_pairwise_cons hasc hmem
      simp [Std.ne_of_lt hgt, ih hasc.of_cons hmem]

/-- A key holds a member exactly when it reads one. -/
theorem mem_of_get? (m : KeyMap α) {key : String} {v : α} (h : m.get? key = some v) :
    (key, v) ∈ m.entries := by
  simp only [get?, Option.map_eq_some_iff] at h
  obtain ⟨⟨k, w⟩, hfind, rfl⟩ := h
  have hk : k = key := by simpa using List.find?_some hfind
  subst hk
  exact List.mem_of_find?_eq_some hfind

/-- **Storing under a key the value it holds changes nothing.** -/
theorem insert_of_get? {m : KeyMap α} {key : String} {v : α} (h : m.get? key = some v) :
    m.insert key v = m :=
  ext (insertSorted_of_mem m.ascending (m.mem_of_get? h))

end KeyMap

end ContentPublish
