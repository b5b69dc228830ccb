import ContentPublish.Codec
import Mathlib.Data.String.Basic
import Mathlib.Data.List.Nodup

/-
  Maps kept in key order

  Objects read from JSON, the values of a query row, the column types and
  the node types by name are all maps held as lists of members whose keys
  ascend strictly. They are built by inserting one member at a time: a new
  key goes to its place in the order, and a key already present has its
  value replaced in place.

  Such a list is determined by its members: two lists whose keys ascend and
  that hold the same members are equal. So a map built by inserting, in any
  order, members with distinct keys is the list of those members in key
  order, and the laws below describe the result only through membership.

  What is stated here:
    1. `mem_insertSorted` — what an insertion holds.
    2. `KeysAscend.eq_of_mem_iff` — a map in key order is determined by its
       members.
    3. `foldl_insertSorted_of_ascend` — inserting members that already come
       in key order appends them; `mem_foldl_insertSorted` — inserting
       members with distinct keys keeps them all.
    4. `mem_ofList`, `ofList_keysAscend` and `ofList_of_keysAscend` — an
       object built from members with distinct keys holds exactly those
       members, in key order, and members already in order are kept as
       they come.
    5. `sortByKey` and `KeysAscend.eq_sortByKey` — members sorted by key;
       a map in key order is its members sorted, so an object built from
       members with distinct keys is them sorted by key.
-/

namespace ContentPublish

/-- Inserting into an object is the one insertion of the library. -/
theorem Json.Object.insert_eq_insertSorted (o : Json.Object) (key : String) (v : Json.Value) :
    o.insert key v = insertSorted o key v := by
  induction o with
  | nil => rfl
  | cons p rest ih =>
    obtain ⟨k, w⟩ := p
    simp only [Json.Object.insert, insertSorted, ih]

section Insertion

variable {α : Type} {l l₁ l₂ : List (String × α)} {key : String} {v : α}

/-- **The members of an insertion**: the inserted member, and the members
with another key. -/
theorem mem_insertSorted (h : KeysAscend l) {a : String × α} :
    a ∈ insertSorted l key v ↔ a = (key, v) ∨ (a ∈ l ∧ a.1 ≠ key) := by
  induction l with
  | nil => simp [insertSorted]
  | cons p rest ih =>
    obtain ⟨k, w⟩ := p
    have hrest : ∀ q ∈ rest, k < q.1 := fun q hq => List.rel_of_pairwise_cons h hq
    unfold insertSorted
    split_ifs with hlt heq
    · -- every old key is above the new one
      have hne : ∀ q ∈ (k, w) :: rest, q.1 ≠ key := by
        intro q hq
        rcases List.mem_cons.mp hq with rfl | hq
        · exact ne_of_gt hlt
        · exact ne_of_gt (lt_trans hlt (hrest q hq))
      constructor
      · intro ha
        rcases List.mem_cons.mp ha with rfl | ha
        · exact .inl rfl
        · exact .inr ⟨ha, hne a ha⟩
      · rintro (rfl | ⟨ha, -⟩)
        · exact List.mem_cons_self
        · exact List.mem_cons_of_mem _ ha
    · -- the member with the key is replaced, the others are above it
      subst heq
      have hne : ∀ q ∈ rest, q.1 ≠ key := fun q hq => ne_of_gt (hrest q hq)
      constructor
      · intro ha
        rcases List.mem_cons.mp ha with rfl | ha
        · exact .inl rfl
        · exact .inr ⟨List.mem_cons_of_mem _ ha, hne a ha⟩
      · rintro (rfl | ⟨ha, hak⟩)
        · exact List.mem_cons_self
        · rcases List.mem_cons.mp ha with rfl | ha
          · exact absurd rfl hak
          · exact List.mem_cons_of_mem _ ha
    · have hgt : k < key := lt_of_le_of_ne (not_lt.mp hlt) (Ne.symm heq)
      rw [List.mem_cons, ih h.of_cons, List.mem_cons]
      constructor
      · rintro (rfl | rfl | ⟨ha, hak⟩)
        · exact .inr ⟨.inl rfl, ne_of_lt hgt⟩
        · exact .inl rfl
        · exact .inr ⟨.inr ha, hak⟩
      · rintro (rfl | ⟨rfl | ha, hak⟩)
        · exact .inr (.inl rfl)
        · exact .inl rfl
        · exact .inr (.inr ⟨ha, hak⟩)

theorem KeysAscend.nodup_keys (h : KeysAscend l) : (l.map (·.1)).Nodup :=
  (List.pairwise_map.mpr h).imp ne_of_lt

/-- Changing the values of a map keeps its keys in order. -/
theorem KeysAscend.map_values {β : Type} (f : α → β) (h : KeysAscend l) :
    KeysAscend (l.map fun p => (p.1, f p.2)) :=
  List.pairwise_map.mpr h

/-- A list is in key order when its list of keys ascends. -/
theorem KeysAscend.of_keys (ks : List String) (h : ks.Pairwise (· < ·)) (hks : l.map (·.1) = ks) :
    KeysAscend l :=
  List.pairwise_map.mp (hks ▸ h)

/-- In a map each key is held by one member. -/
theorem KeysAscend.eq_of_fst_eq (h : KeysAscend l) {p q : String × α} (hp : p ∈ l) (hq : q ∈ l)
    (he : p.1 = q.1) : p = q :=
  List.inj_on_of_nodup_map h.nodup_keys hp hq he

/-- **A map in key order is determined by its members.** -/
theorem KeysAscend.eq_of_mem_iff (h₁ : KeysAscend l₁) (h₂ : KeysAscend l₂)
    (h : ∀ a, a ∈ l₁ ↔ a ∈ l₂) : l₁ = l₂ := by
  have hperm : l₁.Perm l₂ :=
    (List.perm_ext_iff_of_nodup (h₁.imp fun hab he => ne_of_lt hab (congrArg Prod.fst he))
      (h₂.imp fun hab he => ne_of_lt hab (congrArg Prod.fst he))).mpr h
  exact List.Perm.eq_of_pairwise (fun a b _ _ hab hba => absurd hba (lt_asymm hab)) h₁ h₂ hperm

/-- A key above every key of the map is inserted at the end. -/
theorem insertSorted_of_lt (h : ∀ p ∈ l, p.1 < key) : insertSorted l key v = l ++ [(key, v)] := by
  induction l with
  | nil => rfl
  | cons p rest ih =>
    obtain ⟨k, w⟩ := p
    have hk : k < key := h (k, w) List.mem_cons_self
    unfold insertSorted
    rw [if_neg (lt_asymm hk), if_neg (ne_of_gt hk),
      ih (fun q hq => h q (List.mem_cons_of_mem _ hq)), List.cons_append]

/-- **Inserting members that come in key order appends them.** -/
theorem foldl_insertSorted_of_ascend {β : Type} (g : β → String × α) (xs : List β)
    (acc : List (String × α)) (h : KeysAscend (acc ++ xs.map g)) :
    xs.foldl (fun acc x => insertSorted acc (g x).1 (g x).2) acc = acc ++ xs.map g := by
  induction xs generalizing acc with
  | nil => simp
  | cons x xs ih =>
    have hlt : ∀ p ∈ acc, p.1 < (g x).1 := by
      intro p hp
      have := List.pairwise_append.mp h
      exact this.2.2 p hp (g x) (by simp)
    rw [List.foldl_cons, insertSorted_of_lt hlt, ih]
    · simp
    · simpa using h

/-- **The members of a map after inserting members with distinct keys**:
the inserted members, and the old members whose key none of them has. -/
theorem mem_foldl_insertSorted {ms acc : List (String × α)} (hacc : KeysAscend acc)
    (hms : (ms.map (·.1)).Nodup) {a : String × α} :
    a ∈ ms.foldl (fun acc p => insertSorted acc p.1 p.2) acc ↔
      (a ∈ acc ∧ ∀ q ∈ ms, q.1 ≠ a.1) ∨ a ∈ ms := by
  induction ms generalizing acc with
  | nil => simp
  | cons m ms ih =>
    simp only [List.map_cons, List.nodup_cons, List.mem_map] at hms
    rw [List.foldl_cons, ih hacc.insertSorted hms.2, mem_insertSorted hacc, List.mem_cons]
    constructor
    · rintro (⟨rfl | ⟨ha, hne⟩, hms'⟩ | ha)
      · exact .inr (.inl rfl)
      · refine .inl ⟨ha, fun q hq => ?_⟩
        rcases List.mem_cons.mp hq with rfl | hq
        · exact Ne.symm hne
        · exact hms' q hq
      · exact .inr (.inr ha)
    · rintro (⟨ha, hne⟩ | rfl | ha)
      · exact .inl ⟨.inr ⟨ha, Ne.symm (hne m List.mem_cons_self)⟩,
          fun q hq => hne q (List.mem_cons_of_mem _ hq)⟩
      · exact .inl ⟨.inl rfl, fun q hq he => hms.1 ⟨q, hq, he⟩⟩
      · exact .inr ha

/-- A member of a map built by inserting was in the map or was inserted. -/
theorem mem_of_mem_foldl_insertSorted {ms acc : List (String × α)} {a : String × α}
    (h : a ∈ ms.foldl (fun acc p => insertSorted acc p.1 p.2) acc) : a ∈ acc ∨ a ∈ ms := by
  induction ms generalizing acc with
  | nil => exact .inl h
  | cons m ms ih =>
    rcases ih h with h | h
    · rcases mem_of_mem_insertSorted h with rfl | h
      · exact .inr List.mem_cons_self
      · exact .inl h
    · exact .inr (List.mem_cons_of_mem _ h)

theorem KeysAscend.foldl_insertSorted {ms acc : List (String × α)} (h : KeysAscend acc) :
    KeysAscend (ms.foldl (fun acc p => ContentPublish.insertSorted acc p.1 p.2) acc) := by
  induction ms generalizing acc with
  | nil => exact h
  | cons m ms ih => exact ih h.insertSorted

end Insertion

/-! ## Objects built from members -/

namespace Json.Object

/-- Building an object is inserting its members one by one. -/
theorem ofList_eq_foldl (ms : List (String × Value)) :
    ofList ms = ms.foldl (fun acc p => insertSorted acc p.1 p.2) [] := by
  rw [ofList]
  congr 1
  funext o p
  exact insert_eq_insertSorted o p.1 p.2

/-- **An object built from members with distinct keys holds exactly them.** -/
theorem mem_ofList {ms : List (String × Value)} (hms : (ms.map (·.1)).Nodup)
    {a : String × Value} : a ∈ ofList ms ↔ a ∈ ms := by
  rw [ofList_eq_foldl, mem_foldl_insertSorted KeysAscend.nil hms]
  simp

theorem mem_of_mem_ofList {ms : List (String × Value)} {a : String × Value}
    (h : a ∈ ofList ms) : a ∈ ms := by
  rw [ofList_eq_foldl] at h
  rcases mem_of_mem_foldl_insertSorted h with h | h
  · simp at h
  · exact h

/-- **An object built from members holds its keys in order.** -/
theorem ofList_keysAscend (ms : List (String × Value)) : KeysAscend (ofList ms) := by
  rw [ofList_eq_foldl]
  exact KeysAscend.nil.foldl_insertSorted

/-- Members already in key order are kept as they come. -/
theorem ofList_of_keysAscend {ms : List (String × Value)} (h : KeysAscend ms) : ofList ms = ms := by
  have hfold := foldl_insertSorted_of_ascend id ms [] (by simpa using h)
  rw [ofList_eq_foldl]
  simpa using hfold

/-- **A member of an object in key order is what its key looks up.** -/
theorem get?_of_mem {o : Object} (h : KeysAscend o) {k : String} {v : Value} (hm : (k, v) ∈ o) :
    o.get? k = some v := by
  induction o with
  | nil => simp at hm
  | cons p rest ih =>
    obtain ⟨k', w⟩ := p
    have hrest : ∀ q ∈ rest, k' < q.1 := fun q hq => List.rel_of_pairwise_cons h hq
    rcases List.mem_cons.mp hm with he | hm'
    · obtain ⟨rfl, rfl⟩ := Prod.mk.inj he
      simp [get?]
    · have hne : k' ≠ k := ne_of_lt (hrest (k, v) hm')
      have hstep : get? ((k', w) :: rest) k = get? rest k := by
        simp [get?, hne]
      rw [hstep]
      exact ih h.of_cons hm'

/-- **An object built from members with distinct keys looks each of them
up.** -/
theorem get?_ofList {ms : List (String × Value)} (hms : (ms.map (·.1)).Nodup) {k : String}
    {v : Value} (h : (k, v) ∈ ms) : (ofList ms).get? k = some v :=
  get?_of_mem (ofList_keysAscend ms) ((mem_ofList hms).mpr h)

/-- A key that no member has is missing from the object built from them. -/
theorem get?_ofList_eq_none {ms : List (String × Value)} {k : String}
    (h : ∀ p ∈ ms, p.1 ≠ k) : (ofList ms).get? k = none := by
  rw [get?, Option.map_eq_none_iff, List.find?_eq_none]
  intro p hp
  simpa using h p (mem_of_mem_ofList hp)

end Json.Object

/-! ## Sorting by key -/

section SortByKey

variable {α : Type} {l ms : List (String × α)}

/-- Members in ascending order of their keys, members with one key in the
order they come. -/
def sortByKey (ms : List (String × α)) : List (String × α) :=
  ms.mergeSort fun a b => decide (a.1 ≤ b.1)

theorem mem_sortByKey {a : String × α} : a ∈ sortByKey ms ↔ a ∈ ms :=
  List.mem_mergeSort

/-- **Sorting members with distinct keys puts them in key order.** -/
theorem KeysAscend.sortByKey (hms : (ms.map (·.1)).Nodup) :
    KeysAscend (ContentPublish.sortByKey ms) := by
  have htrans : ∀ a b c : String × α, decide (a.1 ≤ b.1) → decide (b.1 ≤ c.1) →
      decide (a.1 ≤ c.1) := by
    simp only [decide_eq_true_eq]
    exact fun a b c => le_trans
  have htotal : ∀ a b : String × α, decide (a.1 ≤ b.1) || decide (b.1 ≤ a.1) := by
    simp only [Bool.or_eq_true, decide_eq_true_eq]
    exact fun a b => le_total a.1 b.1
  have hsorted := List.pairwise_mergeSort htrans htotal ms
  have hnodup : ((ContentPublish.sortByKey ms).map (·.1)).Nodup :=
    ((List.mergeSort_perm ms _).map (·.1)).nodup_iff.mpr hms
  exact hsorted.imp₂ (fun a b hab hne => lt_of_le_of_ne (of_decide_eq_true hab) hne)
    (List.pairwise_map.mp hnodup)

/-- **A map in key order is its members sorted by key.** -/
theorem KeysAscend.eq_sortByKey (hl : KeysAscend l) (hms : (ms.map (·.1)).Nodup)
    (h : ∀ a, a ∈ l ↔ a ∈ ms) : l = ContentPublish.sortByKey ms :=
  hl.eq_of_mem_iff (.sortByKey hms) fun a => (h a).trans mem_sortByKey.symm

/-- A map already in key order is kept by sorting. -/
theorem KeysAscend.sortByKey_eq (hl : KeysAscend l) : ContentPublish.sortByKey l = l :=
  (hl.eq_sortByKey hl.nodup_keys fun _ => Iff.rfl).symm

/-- Picking members by key commutes with sorting them. -/
theorem filter_sortByKey (q : String → Bool) (hms : (ms.map (·.1)).Nodup) :
    (sortByKey ms).filter (fun m => q m.1) = sortByKey (ms.filter fun m => q m.1) := by
  have hsub : ((ms.filter fun m => q m.1).map (·.1)).Nodup :=
    hms.sublist (List.filter_sublist.map _)
  have hasc : KeysAscend ((sortByKey ms).filter fun m => q m.1) :=
    (KeysAscend.sortByKey hms).filter _
  refine hasc.eq_sortByKey hsub fun a => ?_
  rw [List.mem_filter, mem_sortByKey, List.mem_filter]

/-- Sorting by key does not look at the values. -/
theorem sortByKey_map_values {β : Type} (f : α → β) (ms : List (String × α)) :
    sortByKey (ms.map fun p => (p.1, f p.2)) = (sortByKey ms).map fun p => (p.1, f p.2) := by
  unfold sortByKey
  refine (List.map_mergeSort ?_).symm
  intro a _ b _
  rfl

end SortByKey

/-- **An object built from members with distinct keys is those members
sorted by key.** -/
theorem Json.Object.ofList_eq_sortByKey {ms : List (String × Json.Value)}
    (hms : (ms.map (·.1)).Nodup) : Json.Object.ofList ms = sortByKey ms :=
  (Json.Object.ofList_keysAscend ms).eq_sortByKey hms fun _ => Json.Object.mem_ofList hms

end ContentPublish
