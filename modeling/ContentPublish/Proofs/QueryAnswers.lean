import ContentPublish.Proofs.JsonReadBack
import ContentPublish.Proofs.Base64RoundTrip

/-
  Query answers read back

  A server answers a query with the column types and the rows as one JSON
  object. A row is written as an object of its columns: a text value under
  its name, and binary bytes as base64 under the name with one of the two
  binary endings appended, chosen column by column. The answer reader takes
  such an answer back to the rows it was written from, each with the column
  types, provided no text column has a name that looks binary.

  The reader walks a row's members in the key order of the written names,
  which is not the order of the column names, and inserts each column under
  its name; the result is the row because a map in key order is determined
  by its members. A written name gives its column name back, so two
  columns are never written under one name.

  What is stated here:
    1. `columnMember`, `rowObject` and `answerValue` — how an answer is
       written; `WrittenRow` — a row written with some choice of endings.
    2. `stripBinarySuffix_append` — a binary ending is taken off again,
       whichever of the two it is and whatever the name ends in.
    3. `rowValues_rowObject` — the columns of a written row are read back.
    4. `decodeQueryRows_answer` — the rows of a written answer are read back.
-/

namespace ContentPublish

/-! ## Writing an answer -/

/-- The member a column of a row is written as: a text value under its
name, binary bytes as base64 under the name with the ending chosen for it. -/
def columnMember (ending : String → String) : String × QueryValue → String × Json.Value
  | (c, .text s) => (c, .string s)
  | (c, .binary b) => (c ++ ending c, .string (Base64.encode b))

/-- The object a row is written as. -/
def rowObject (ending : String → String) (values : KeyMap QueryValue) : Json.Value :=
  .mkObject (values.entries.map (columnMember ending))

/-- An answer: the column types as strings under `types`, and the rows. -/
def answerValue (types : KeyMap String) (rows : List Json.Value) : Json.Value :=
  .mkObject [("types", .mkObject (types.entries.map fun p => (p.1, .string p.2))), ("rows", .array rows)]

/-- A row written with a binary ending for each binary column. -/
def WrittenRow (values : KeyMap QueryValue) (obj : Json.Value) : Prop :=
  ∃ ending : String → String, (∀ c, ending c ∈ binarySuffixes) ∧ obj = rowObject ending values

/-- A column name that ends in neither binary ending. -/
def PlainName (c : String) : Prop := ∀ suffix ∈ binarySuffixes, c.endsWith suffix = false

/-! ## Binary endings -/

theorem endsWith_iff (s t : String) : s.endsWith t = true ↔ t.toList <:+ s.toList := by
  rw [← String.endsWith_toSlice, String.Slice.endsWith_string_iff]
  simp

theorem stripBinarySuffix_of_plainName {c : String} (h : PlainName c) : stripBinarySuffix c = none := by
  have h₁ := h "/base64/" (by simp [binarySuffixes])
  have h₂ := h "_base64" (by simp [binarySuffixes])
  simp [stripBinarySuffix, binarySuffixes, h₁, h₂]

/-- **A binary ending is taken off again**, whichever of the two it is: the
ending `/base64/` is tried first, and no name ending in `_base64` ends in
it. -/
theorem stripBinarySuffix_append (c : String) {e : String} (he : e ∈ binarySuffixes) :
    stripBinarySuffix (c ++ e) = some c := by
  have hends : (c ++ e).endsWith e = true := by
    rw [endsWith_iff]
    simp
  have htake : ∀ t : List Char, String.ofList ((c.toList ++ t).take c.length) = c := by
    intro t
    rw [List.take_left' String.length_toList, String.ofList_toList]
  simp only [binarySuffixes, List.mem_cons, List.not_mem_nil, or_false] at he
  rcases he with rfl | rfl
  · simp [stripBinarySuffix, binarySuffixes, hends, htake]
  · have hslash : (c ++ "_base64").endsWith "/base64/" = false := by
      rw [Bool.eq_false_iff, ne_eq, endsWith_iff]
      rintro ⟨z, hz⟩
      have hlast := congrArg List.getLast? hz
      simp at hlast
    simp [stripBinarySuffix, binarySuffixes, hends, htake, hslash]

/-- A list of images of members of `l` is the image of a list of members. -/
theorem exists_eq_map_of_forall_mem_map {β γ : Type} {f : β → γ} {l : List β} :
    ∀ {ms : List γ}, (∀ m ∈ ms, m ∈ l.map f) → ∃ qs : List β, ms = qs.map f ∧ ∀ q ∈ qs, q ∈ l
  | [], _ => ⟨[], rfl, by simp⟩
  | m :: ms, h => by
    obtain ⟨q, hq, rfl⟩ := List.mem_map.mp (h m List.mem_cons_self)
    obtain ⟨qs, rfl, hqs⟩ := exists_eq_map_of_forall_mem_map fun x hx => h x (List.mem_cons_of_mem _ hx)
    exact ⟨q :: qs, rfl, by simpa [hq] using hqs⟩

section Columns

variable {ending : String → String} (hend : ∀ c, ending c ∈ binarySuffixes)
  {values : KeyMap QueryValue}
  (hplain : ∀ c s, (c, QueryValue.text s) ∈ values.entries → PlainName c)
include hend hplain

/-- The name a column is written under gives its name back. -/
theorem columnName_columnMember {p : String × QueryValue} (hp : p ∈ values.entries) :
    (stripBinarySuffix (columnMember ending p).1).getD (columnMember ending p).1 = p.1 := by
  obtain ⟨c, v⟩ := p
  cases v with
  | text s =>
    simp [columnMember, stripBinarySuffix_of_plainName (hplain c s hp)]
  | binary b => simp [columnMember, stripBinarySuffix_append c (hend c)]

/-- Two columns of a row are never written under one name. -/
theorem eq_of_columnMember_key {p q : String × QueryValue} (hp : p ∈ values.entries)
    (hq : q ∈ values.entries) (he : (columnMember ending p).1 = (columnMember ending q).1) :
    p = q := by
  have hname := columnName_columnMember hend hplain hp
  rw [he, columnName_columnMember hend hplain hq] at hname
  exact values.ascending.eq_of_fst_eq hp hq hname.symm

/-- Reading one written column inserts it under its name. -/
theorem rowValues_columnMember (body : String) {p : String × QueryValue} (hp : p ∈ values.entries)
    (acc : KeyMap QueryValue) (rest : Json.Object) :
    rowValues body acc (columnMember ending p :: rest) = rowValues body (acc.insert p.1 p.2) rest := by
  obtain ⟨c, v⟩ := p
  cases v with
  | text s =>
    have hstrip := stripBinarySuffix_of_plainName (hplain c s hp)
    simp [columnMember, rowValues, hstrip, scalarText]
  | binary b =>
    simp [columnMember, rowValues, stripBinarySuffix_append c (hend c), decodeBinary_encode]

/-- Reading written columns, in whatever order, inserts them one by one. -/
theorem rowValues_map (body : String) :
    ∀ (qs : List (String × QueryValue)), (∀ q ∈ qs, q ∈ values.entries) → ∀ acc,
      rowValues body acc (qs.map (columnMember ending)) =
        .ok (qs.foldl (fun acc p => acc.insert p.1 p.2) acc)
  | [], _, acc => rfl
  | q :: qs, hqs, acc => by
    rw [List.map_cons, rowValues_columnMember hend hplain body (hqs q List.mem_cons_self),
      rowValues_map body qs (fun x hx => hqs x (List.mem_cons_of_mem _ hx)), List.foldl_cons]

/-- **The columns of a written row are read back.** The object holds the
written members in key order; they are the members of some list of the
row's columns, and inserting those columns gives the row. -/
theorem rowValues_rowObject (body : String) :
    rowValues body .empty (Json.Object.ofList (values.entries.map (columnMember ending))) =
      .ok values := by
  have hv := values.ascending
  have hkeys : ((values.entries.map (columnMember ending)).map (·.1)).Nodup := by
    rw [List.map_map]
    exact List.Nodup.map_on (fun p hp q hq he => eq_of_columnMember_key hend hplain hp hq he)
      (hv.imp fun hab he => ne_of_lt hab (congrArg Prod.fst he))
  -- the object's members, each the written form of a column of the row
  obtain ⟨qs, hqs, hsub⟩ : ∃ qs : List (String × QueryValue),
      Json.Object.ofList (values.entries.map (columnMember ending)) = qs.map (columnMember ending) ∧
        ∀ q ∈ qs, q ∈ values.entries := by
    have hmem : ∀ m ∈ Json.Object.ofList (values.entries.map (columnMember ending)),
        m ∈ values.entries.map (columnMember ending) := fun m hm => Json.Object.mem_of_mem_ofList hm
    exact exists_eq_map_of_forall_mem_map hmem
  rw [hqs, rowValues_map hend hplain body qs hsub]
  congr 1
  have hinj : ∀ x ∈ qs, ∀ y ∈ qs, x.1 = y.1 → x = y := fun x hx y hy he =>
    hv.eq_of_fst_eq (hsub x hx) (hsub y hy) he
  have hqsNodup : qs.Nodup := by
    have hk := Json.Object.ofList_keysAscend (values.entries.map (columnMember ending))
    rw [hqs] at hk
    exact List.Nodup.of_map (columnMember ending)
      (hk.imp fun hab he => ne_of_lt hab (congrArg Prod.fst he))
  -- the row is the map whose entries are those of the inserted columns
  refine KeyMap.ext ?_
  rw [KeyMap.entries_foldl_insert, KeyMap.entries_empty]
  refine KeysAscend.nil.foldl_insertSorted.eq_of_mem_iff hv fun a => ?_
  rw [mem_foldl_insertSorted KeysAscend.nil (hqsNodup.map_on hinj)]
  constructor
  · rintro (h | h)
    · simp at h
    · exact hsub a h
  · intro ha
    have hwritten : columnMember ending a ∈ qs.map (columnMember ending) := by
      rw [← hqs, Json.Object.mem_ofList hkeys]
      exact List.mem_map_of_mem ha
    obtain ⟨q, hq, hqa⟩ := List.mem_map.mp hwritten
    have hqa' := eq_of_columnMember_key hend hplain (hsub q hq) ha (congrArg Prod.fst hqa)
    exact .inr (hqa' ▸ hq)

end Columns

/-! ## Answers -/

/-- A written column holds a string. -/
theorem columnMember_canonical (ending : String → String) (p : String × QueryValue) :
    (columnMember ending p).2.Canonical := by
  obtain ⟨c, v⟩ := p
  cases v <;> exact .string _

theorem rowObject_canonical (ending : String → String) (values : KeyMap QueryValue) :
    (rowObject ending values).Canonical :=
  .mkObject fun p hp => by
    obtain ⟨q, -, rfl⟩ := List.mem_map.mp hp
    exact columnMember_canonical ending q

theorem rowObject_depth (ending : String → String) (values : KeyMap QueryValue) :
    (rowObject ending values).depth ≤ 1 :=
  Json.Value.depth_mkObject_le fun p hp => by
    obtain ⟨q, -, rfl⟩ := List.mem_map.mp hp
    obtain ⟨c, v⟩ := q
    cases v <;> simp [columnMember, Json.Value.depth]

/-- **The rows of a written answer are read back**, one row for each object
and in their order. -/
theorem decodeRows_written (body : String) (types : KeyMap String)
    {rows : List (KeyMap QueryValue)} {objs : List Json.Value}
    (hplain : ∀ r ∈ rows, ∀ c s, (c, QueryValue.text s) ∈ r.entries → PlainName c)
    (hw : List.Forall₂ WrittenRow rows objs) :
    decodeRows body types objs = .ok (rows.map fun r => ⟨types, r⟩) := by
  induction hw with
  | nil => rfl
  | @cons r o rows objs hro _ ih =>
    obtain ⟨ending, hend, rfl⟩ := hro
    have hrow := rowValues_rowObject hend (hplain r List.mem_cons_self) body
    have hrest := ih fun r' hr' => hplain r' (List.mem_cons_of_mem _ hr')
    simp only [rowObject, Json.Value.mkObject, decodeRows, hrow, hrest, List.map_cons]

/-- Written rows are objects of strings. -/
theorem form_of_written {rows : List (KeyMap QueryValue)} {objs : List Json.Value}
    (hw : List.Forall₂ WrittenRow rows objs) : ∀ o ∈ objs, o.Canonical ∧ o.depth ≤ 1 := by
  induction hw with
  | nil => simp
  | cons hro _ ih =>
    obtain ⟨ending, -, rfl⟩ := hro
    intro o ho
    rcases List.mem_cons.mp ho with rfl | ho
    · exact ⟨rowObject_canonical ending _, rowObject_depth ending _⟩
    · exact ih o ho

/-- **The rows of a written answer are read back**: as many rows as were
written, in their order, each with its columns and the column types. -/
theorem decodeQueryRows_answer (types : KeyMap String) (rows : List (KeyMap QueryValue))
    (objs : List Json.Value)
    (hplain : ∀ r ∈ rows, ∀ c s, (c, QueryValue.text s) ∈ r.entries → PlainName c)
    (hw : List.Forall₂ WrittenRow rows objs) :
    decodeQueryRows (answerValue types objs).render = .ok (rows.map fun r => ⟨types, r⟩) := by
  have hform := form_of_written hw
  have hcanon : (answerValue types objs).Canonical := by
    refine .mkObject fun p hp => ?_
    simp only [List.mem_cons, List.not_mem_nil, or_false] at hp
    rcases hp with rfl | rfl
    · exact .mkObject fun q hq => by
        obtain ⟨t, -, rfl⟩ := List.mem_map.mp hq
        exact .string _
    · exact .array fun o ho => (hform o ho).1
  have hdepth : (answerValue types objs).depth ≤ 2 + 1 := by
    refine Json.Value.depth_mkObject_le fun p hp => ?_
    simp only [List.mem_cons, List.not_mem_nil, or_false] at hp
    rcases hp with rfl | rfl
    · refine le_trans (Json.Value.depth_mkObject_le fun q hq => ?_) (by omega : 0 + 1 ≤ 2)
      obtain ⟨t, -, rfl⟩ := List.mem_map.mp hq
      simp [Json.Value.depth]
    · simp only [Json.Value.depth]
      have := Json.Value.depthItems_le fun o ho => (hform o ho).2
      omega
  have hparse := Json.parse_render hcanon (by unfold Json.Reader.nestingLimit; omega)
  -- the answer's two members, looked up by key
  set typesObj := Json.Value.mkObject (types.entries.map fun p => (p.1, Json.Value.string p.2))
  set members : Json.Object := [("types", typesObj), ("rows", .array objs)]
  have hkeys : (members.map (·.1)).Nodup := by simp [members]
  have hasc := Json.Object.ofList_keysAscend members
  have hgetTypes : (Json.Object.ofList members).get? "types" = some typesObj :=
    Json.Object.get?_of_mem hasc ((Json.Object.mem_ofList hkeys).mpr (by simp [members]))
  have hgetRows : (Json.Object.ofList members).get? "rows" = some (.array objs) :=
    Json.Object.get?_of_mem hasc ((Json.Object.mem_ofList hkeys).mpr (by simp [members]))
  have hdoc : parseObject (answerValue types objs).render = .ok (Json.Object.ofList members) := by
    simp only [parseObject, parseBody, hparse]
    rfl
  unfold decodeQueryRows
  rw [hdoc]
  simp only [hgetTypes, hgetRows, typesObj, Json.Value.mkObject]
  -- the types are written in key order and each is read back as its string
  have htypesRead : types.entries.foldl (fun acc p => acc.insert p.1 p.2) KeyMap.empty = types := by
    refine KeyMap.ext ?_
    rw [KeyMap.entries_foldl_insert, KeyMap.entries_empty]
    simpa using foldl_insertSorted_of_ascend id types.entries [] (by simpa using types.ascending)
  rw [Json.Object.ofList_of_keysAscend (types.ascending.map_values Json.Value.string), List.foldl_map]
  simp only [scalarText, htypesRead]
  exact decodeRows_written _ types hplain hw

/-- The column types of a binary and a text column. -/
def binaryAndTextTypes : KeyMap String :=
  ⟨[("data", "Binary"), ("title", "String")], by unfold KeysAscend; decide⟩

/-- A row with a binary and a text column. -/
def binaryAndTextRow : KeyMap QueryValue :=
  ⟨[("data", .binary [104, 105]), ("title", .text "Hi")], by unfold KeysAscend; decide⟩

/-- An answer of one row with a binary and a text column is read back. -/
theorem decodeQueryRows_answer_text_and_binary :
    decodeQueryRows (answerValue binaryAndTextTypes
      [rowObject (fun _ => "_base64") binaryAndTextRow]).render =
      .ok [⟨binaryAndTextTypes, binaryAndTextRow⟩] :=
  decodeQueryRows_answer _ [binaryAndTextRow] _
    (by
      simp only [binaryAndTextRow, forall_eq, List.mem_cons, List.not_mem_nil,
        or_false, Prod.mk.injEq, reduceCtorEq, and_false, false_or]
      rintro c s ⟨rfl, -⟩
      unfold PlainName binarySuffixes
      decide)
    (.cons ⟨fun _ => "_base64", by simp [binarySuffixes], rfl⟩ .nil)

end ContentPublish
