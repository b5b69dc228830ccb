import ContentPublish.Proofs.FileContent
import ContentPublish.Proofs.UrlLaw
import ContentPublish.Proofs.JsonNesting
import Mathlib

/-
  Node documents read back

  The bytes of a node document can be read back as the document. Its
  properties object holds the primary type under `jcr:primaryType`, the
  mixins under `jcr:mixinTypes` exactly when they are given, and the node's
  own properties; its children come under `children`, which is left out
  when there are none. So the document is recovered by taking the primary
  type and the mixins out of the properties, keeping the rest as the node's
  own properties, and reading each child the same way.

  This holds of every document whose own properties, at every level, leave
  the two keys the document writes itself alone (a property under one of
  them would override what the document writes), and whose text the reader
  takes back as it was written. Its children are kept in key order, as the
  reader keeps an object's members, so what limits the reading is the
  values: a double is read back only up to the rounding of its reading, and
  a text nested 128 deep is refused. A chain of 63 folders, each the only
  child of the one before, is such a text. Mixins that are not given and an
  empty list of mixins give different documents, and a node written with
  either has a different body: the empty list is written, and adds its
  member to the text.

  What is stated here:
    1. `NodeTree.readDocument` — the tree a JSON value stands for.
    2. `NodeTree.AllProperties`, `PlainProperty` and `ReadableProperty` —
       trees whose own properties, at every level, leave the two keys alone
       and hold values the reader gives back.
    3. `get?_primaryType`, `get?_mixinTypes` and `filter_propertiesJson` —
       what the properties object gives back.
    4. `readDocument_toJson` and `toJson_readable` — the JSON of a plain
       tree reads back as it, and is in the reader's form.
    5. `length_render_emptyMixins` — an empty list of mixins lengthens the
       text by its member.
    6. `document_reads_back` — the whole law, from the bytes;
       `folderChain_too_deep` — a plain document whose text is too deep.
-/

namespace ContentPublish

namespace Json.Object

/-- A key that no member has is missing from the object. -/
theorem get?_eq_none {o : Object} {k : String} (h : ∀ p ∈ o, p.1 ≠ k) : o.get? k = none := by
  rw [get?, Option.map_eq_none_iff, List.find?_eq_none]
  intro p hp
  simpa using h p hp

end Json.Object

namespace NodeTree

/-! ## Reading a document -/

/-- A property the document writes itself: the primary type or the mixins. -/
def reservedKey (k : String) : Bool := k == Jcr.primaryType || k == Jcr.mixinTypes

/-- The mixins a properties object gives from its `jcr:mixinTypes` member:
none without one, the strings of the array with one. -/
def readMixins : Option Json.Value → Option (Option (List String))
  | none => some none
  | some (.array items) => (items.mapM Json.Value.asString?).map some
  | some _ => none

mutual

/-- The tree a JSON value stands for: the primary type and the mixins taken
out of its properties, the other properties as the node's own, and its
children read the same way. -/
def readDocument : Json.Value → Option NodeTree
  | .object fields => do
    let props ← (Json.Object.get? fields "properties").bind Json.Value.asObject?
    let primaryType ← (props.get? Jcr.primaryType).bind Json.Value.asString?
    let mixins ← readMixins (props.get? Jcr.mixinTypes)
    let children ← readChildrenOf fields
    pure ⟨primaryType, mixins, KeyMap.ofList (props.filter fun p => !reservedKey p.1), children⟩
  | _ => none

/-- The children under the `children` member of a document, none when it has
no such member. -/
def readChildrenOf : List (String × Json.Value) → Option (List (String × NodeTree))
  | [] => some []
  | (k, v) :: rest =>
    if k = "children" then
      match v with
      | .object cs => readChildren cs
      | _ => none
    else readChildrenOf rest

/-- Each member of the children object read as a tree. -/
def readChildren : List (String × Json.Value) → Option (List (String × NodeTree))
  | [] => some []
  | (k, v) :: rest => do
    let c ← readDocument v
    let cs ← readChildren rest
    pure ((k, c) :: cs)

end

/-! ## Properties at every level -/

/-- Every own property of a tree, at every level, satisfies `P`. -/
inductive AllProperties (P : String × Json.Value → Prop) : NodeTree → Prop
  | mk {primaryType : String} {mixins : Option (List String)} {properties : KeyMap Json.Value}
      {children : List (String × NodeTree)} :
      (∀ p ∈ properties.entries, P p) → (∀ c ∈ children, AllProperties P c.2) →
      AllProperties P ⟨primaryType, mixins, properties, children⟩

/-- An own property the document keeps as it is: none of the two keys the
document writes itself. -/
def PlainProperty (p : String × Json.Value) : Prop := reservedKey p.1 = false

/-- A plain property whose value the reader gives back as it is: no double,
integers the reader keeps, and objects in key order. -/
def ReadableProperty (p : String × Json.Value) : Prop := PlainProperty p ∧ p.2.Readable

section AllProperties

variable {P Q : String × Json.Value → Prop} {t : NodeTree}

theorem AllProperties.own (h : t.AllProperties P) : ∀ p ∈ t.properties.entries, P p := by
  cases h with
  | mk hown _ => exact hown

theorem AllProperties.mono (h : t.AllProperties P) (hPQ : ∀ p, P p → Q p) : t.AllProperties Q := by
  induction h with
  | mk hown _ ih => exact .mk (fun p hp => hPQ p (hown p hp)) ih

end AllProperties

/-! ## The properties object -/

/-- The members the document writes itself: the primary type, and the mixins
when they are given. -/
theorem mem_bare (t : NodeTree) {a : String × Json.Value} :
    a ∈ { t with properties := .empty }.propertiesJson ↔
      a = (Jcr.primaryType, .string t.primaryType) ∨
        ∃ ms, t.mixins = some ms ∧ a = (Jcr.mixinTypes, Json.Value.ofStrings ms) := by
  obtain ⟨pt, mx, props, ch⟩ := t
  have horder : Jcr.mixinTypes < Jcr.primaryType := by unfold Jcr.mixinTypes Jcr.primaryType; decide
  cases mx with
  | none => simp [propertiesJson, Json.Object.insert]
  | some ms =>
    simp [propertiesJson, Json.Object.insert, horder]
    exact or_comm

theorem reservedKey_of_mem_bare (t : NodeTree) {a : String × Json.Value}
    (h : a ∈ { t with properties := .empty }.propertiesJson) : reservedKey a.1 = true := by
  rcases (mem_bare t).mp h with rfl | ⟨ms, -, rfl⟩ <;> simp [reservedKey]

/-- A member of the properties object is one the document writes or one of
the node's own. -/
theorem mem_of_mem_propertiesJson (t : NodeTree) {a : String × Json.Value}
    (h : a ∈ t.propertiesJson) :
    a ∈ { t with properties := .empty }.propertiesJson ∨ a ∈ t.properties.entries := by
  rw [propertiesJson_eq_foldl] at h
  exact mem_of_mem_foldl_insertSorted h

section Properties

variable {t : NodeTree} (hres : ∀ p ∈ t.properties.entries, PlainProperty p)
include hres

/-- **The members of the properties object**: those the document writes
and the node's own, none of which overrides the others. -/
theorem mem_propertiesJson {a : String × Json.Value} :
    a ∈ t.propertiesJson ↔ a ∈ { t with properties := .empty }.propertiesJson ∨ a ∈ t.properties.entries := by
  refine ⟨mem_of_mem_propertiesJson t, ?_⟩
  rw [propertiesJson_eq_foldl t,
    mem_foldl_insertSorted (propertiesJson_keysAscend _) t.properties.ascending.nodup_keys]
  rintro (ha | ha)
  · -- a member the document writes has a key that no own property has
    refine .inl ⟨ha, fun q hq he => ?_⟩
    have hq' : reservedKey q.1 = false := hres q hq
    rw [he, reservedKey_of_mem_bare t ha] at hq'
    cases hq'
  · exact .inr ha

theorem get?_primaryType :
    t.propertiesJson.get? Jcr.primaryType = some (.string t.primaryType) :=
  Json.Object.get?_of_mem (propertiesJson_keysAscend t)
    ((mem_propertiesJson hres).mpr (.inl ((mem_bare t).mpr (.inl rfl))))

theorem get?_mixinTypes :
    t.propertiesJson.get? Jcr.mixinTypes = t.mixins.map Json.Value.ofStrings := by
  cases hmx : t.mixins with
  | some ms =>
    exact Json.Object.get?_of_mem (propertiesJson_keysAscend t)
      ((mem_propertiesJson hres).mpr (.inl ((mem_bare t).mpr (.inr ⟨ms, hmx, rfl⟩))))
  | none =>
    refine Json.Object.get?_eq_none fun p hp he => ?_
    rcases (mem_propertiesJson hres).mp hp with hb | hp
    · rcases (mem_bare t).mp hb with rfl | ⟨ms, hms, -⟩
      · simp [Jcr.primaryType, Jcr.mixinTypes] at he
      · rw [hmx] at hms; cases hms
    · have : reservedKey p.1 = false := hres p hp
      simp [reservedKey, he] at this

/-- **The node's own properties are the rest of the properties object.** -/
theorem filter_propertiesJson :
    t.propertiesJson.filter (fun p => !reservedKey p.1) = t.properties.entries := by
  refine KeysAscend.eq_of_mem_iff ((propertiesJson_keysAscend t).filter _) t.properties.ascending
    fun a => ?_
  rw [List.mem_filter, mem_propertiesJson hres]
  constructor
  · rintro ⟨hb | ha, hkey⟩
    · rw [reservedKey_of_mem_bare t hb] at hkey; cases hkey
    · exact ha
  · intro ha
    have hplain : reservedKey a.1 = false := hres a ha
    exact ⟨.inr ha, by simp [hplain]⟩

/-- The map of the rest of the properties object is the node's own. -/
theorem ofList_filter_propertiesJson :
    KeyMap.ofList (t.propertiesJson.filter fun p => !reservedKey p.1) = t.properties := by
  refine KeyMap.ext ?_
  rw [KeyMap.entries_ofList, filter_propertiesJson hres]
  simpa using foldl_insertSorted_of_ascend id t.properties.entries []
    (by simpa using t.properties.ascending)

end Properties

/-! ## Reading back -/

theorem readMixins_ofStrings (mixins : Option (List String)) :
    readMixins (mixins.map Json.Value.ofStrings) = some mixins := by
  cases mixins with
  | none => rfl
  | some ms =>
    have hmap : (ms.map Json.Value.string).mapM Json.Value.asString? = some ms := by
      induction ms with
      | nil => rfl
      | cons m ms ih => simp [List.mapM_cons, Json.Value.asString?, ih]
    simp [readMixins, Json.Value.ofStrings, hmap]

theorem toJson_nil (pt : String) (mx : Option (List String)) (props : KeyMap Json.Value) :
    toJson ⟨pt, mx, props, []⟩ =
      .object [("properties", .object (propertiesJson ⟨pt, mx, props, []⟩))] := by
  simp [toJson]

theorem toJson_cons (pt : String) (mx : Option (List String)) (props : KeyMap Json.Value)
    (c : String × NodeTree) (cs : List (String × NodeTree)) :
    toJson ⟨pt, mx, props, c :: cs⟩ =
      .object [("children", .object (childrenJson (c :: cs))),
        ("properties", .object (propertiesJson ⟨pt, mx, props, []⟩))] := by
  simp [toJson]

/-- The children object holds each child's document under its name. -/
theorem childrenJson_eq_map (cs : List (String × NodeTree)) :
    childrenJson cs = cs.map fun c => (c.1, c.2.toJson) := by
  induction cs with
  | nil => rfl
  | cons c cs ih =>
    obtain ⟨k, c⟩ := c
    rw [childrenJson, ih, List.map_cons]

theorem readChildren_childrenJson {cs : List (String × NodeTree)}
    (h : ∀ c ∈ cs, readDocument c.2.toJson = some c.2) :
    readChildren (childrenJson cs) = some cs := by
  induction cs with
  | nil => simp [childrenJson, readChildren]
  | cons c cs ih =>
    obtain ⟨k, c⟩ := c
    rw [childrenJson, readChildren, h (k, c) List.mem_cons_self,
      ih fun c' hc' => h c' (List.mem_cons_of_mem _ hc')]
    rfl

/-- Reading a document whose properties object is the one the node writes,
with its children read from its members. -/
theorem readDocument_object {pt : String} {mx : Option (List String)} {props : KeyMap Json.Value}
    {fields : List (String × Json.Value)} {cs : List (String × NodeTree)}
    (hres : ∀ p ∈ props.entries, PlainProperty p)
    (hprops : Json.Object.get? fields "properties" =
      some (.object (propertiesJson ⟨pt, mx, props, []⟩)))
    (hcs : readChildrenOf fields = some cs) :
    readDocument (.object fields) = some ⟨pt, mx, props, cs⟩ := by
  rw [readDocument, hprops]
  simp only [Option.bind_some, Json.Value.asObject?, Option.bind_eq_bind]
  rw [get?_primaryType (t := ⟨pt, mx, props, []⟩) hres,
    get?_mixinTypes (t := ⟨pt, mx, props, []⟩) hres, readMixins_ofStrings, hcs,
    ofList_filter_propertiesJson (t := ⟨pt, mx, props, []⟩) hres]
  rfl

/-- **The JSON of a plain tree reads back as the tree**, at every depth:
induction on the tree's properties, each child read back by the
hypothesis. -/
theorem readDocument_toJson {t : NodeTree} (ht : t.AllProperties PlainProperty) :
    readDocument t.toJson = some t := by
  induction ht with
  | @mk pt mx props children hres hch ih =>
    -- a childless document has no `children` member; otherwise it comes first
    rcases children with _ | ⟨c, cs⟩
    · rw [toJson_nil]
      exact readDocument_object hres (by simp [Json.Object.get?]) (by simp [readChildrenOf])
    · rw [toJson_cons]
      refine readDocument_object hres (by simp [Json.Object.get?]) ?_
      simp only [readChildrenOf, if_true]
      exact readChildren_childrenJson ih

/-! ## The document in the reader's form -/

/-- The properties object holds its keys in order, and its values are
readable when the node's own are: the primary type and the mixins are
strings. -/
theorem propertiesJson_readable (t : NodeTree) (h : ∀ p ∈ t.properties.entries, p.2.Readable) :
    (Json.Value.object t.propertiesJson).Readable := by
  refine .object (propertiesJson_keysAscend t) fun p hp => ?_
  rcases mem_of_mem_propertiesJson t hp with hb | hown
  · rcases (mem_bare t).mp hb with rfl | ⟨ms, -, rfl⟩
    · exact .string _
    · refine .array fun v hv => ?_
      obtain ⟨m, -, rfl⟩ := List.mem_map.mp hv
      exact .string m
  · exact h p hown

/-- **The JSON of an ordered tree is in the reader's form** when its own
properties are, at every level: the document's two members and the
children come in key order. -/
theorem toJson_readable {t : NodeTree} (ho : t.Ordered) (hr : t.AllProperties fun p => p.2.Readable) :
    t.toJson.Readable := by
  induction hr with
  | @mk pt mx props children hown hch ih =>
    have hprops := propertiesJson_readable ⟨pt, mx, props, []⟩ hown
    rcases children with _ | ⟨c, cs⟩
    · rw [toJson_nil]
      refine .object (List.pairwise_singleton _ _) fun p hp => ?_
      rcases List.mem_singleton.mp hp with rfl
      exact hprops
    · rw [toJson_cons]
      have hkids : (Json.Value.object (childrenJson (c :: cs))).Readable := by
        rw [childrenJson_eq_map]
        refine .object (ho.ascending.map_values _) fun p hp => ?_
        obtain ⟨q, hq, rfl⟩ := List.mem_map.mp hp
        exact ih q hq (ho.child hq)
      refine .object (KeysAscend.of_keys ["children", "properties"] (by decide) rfl) fun p hp => ?_
      simp only [List.mem_cons, List.not_mem_nil, or_false] at hp
      rcases hp with rfl | rfl
      · exact hkids
      · exact hprops

/-! ## The text of an empty list of mixins -/

/-- The characters a member takes in the text of an object, its comma
included. -/
def memberLength (m : String × Json.Value) : Nat :=
  (Json.quote m.1).toList.length + m.2.render.toList.length + 2

theorem length_membersTail (ms : List (String × Json.Value)) :
    (Json.membersTail ms).length = (ms.map memberLength).sum := by
  induction ms with
  | nil => rfl
  | cons m ms ih =>
    obtain ⟨k, v⟩ := m
    rw [Json.membersTail_cons, List.map_cons, List.sum_cons, ← ih]
    simp [memberLength]
    omega

/-- The text of the members of an object, and one more for the comma that no
member is followed by, is the characters of its members. -/
theorem length_renderMembers {ms : List (String × Json.Value)} (h : ms ≠ []) :
    (Json.Value.renderMembers ms).toList.length + 1 = (ms.map memberLength).sum := by
  obtain ⟨⟨k, v⟩, ms, rfl⟩ := List.exists_cons_of_ne_nil h
  rw [Json.renderMembers_cons, List.map_cons, List.sum_cons, ← length_membersTail]
  simp [memberLength]
  omega

theorem length_render_object (ms : List (String × Json.Value)) :
    (Json.Value.object ms).render.toList.length = (Json.Value.renderMembers ms).toList.length + 2 := by
  simp [Json.Value.render]

section EmptyMixins

variable (pt : String) {props : KeyMap Json.Value} (hres : ∀ p ∈ props.entries, PlainProperty p)
include hres

/-- The members of a properties object with an empty list of mixins: those
without it, and the empty list. -/
theorem propertiesJson_emptyMixins_perm :
    (propertiesJson ⟨pt, some [], props, []⟩).Perm
      ((Jcr.mixinTypes, .array []) :: propertiesJson ⟨pt, none, props, []⟩) := by
  have hnone : ∀ a, a ∈ propertiesJson ⟨pt, none, props, []⟩ ↔ _ := fun a =>
    mem_propertiesJson (t := ⟨pt, none, props, []⟩) (a := a) hres
  have hsome : ∀ a, a ∈ propertiesJson ⟨pt, some [], props, []⟩ ↔ _ := fun a =>
    mem_propertiesJson (t := ⟨pt, some [], props, []⟩) (a := a) hres
  have hfresh : (Jcr.mixinTypes, Json.Value.array []) ∉ propertiesJson ⟨pt, none, props, []⟩ := by
    intro hm
    have hget := get?_mixinTypes (t := ⟨pt, none, props, []⟩) hres
    rw [Json.Object.get?_of_mem (propertiesJson_keysAscend _) hm] at hget
    cases hget
  refine (List.perm_ext_iff_of_nodup ?_ ?_).mpr fun a => ?_
  · exact (propertiesJson_keysAscend _).nodup_keys.of_map _
  · exact List.nodup_cons.mpr ⟨hfresh, (propertiesJson_keysAscend _).nodup_keys.of_map _⟩
  · rw [List.mem_cons, hnone, hsome, mem_bare, mem_bare]
    simp [Json.Value.ofStrings]
    tauto

/-- **An empty list of mixins lengthens the properties object** by its member
`"jcr:mixinTypes":[]` and a comma. -/
theorem length_render_properties_emptyMixins :
    (Json.Value.object (propertiesJson ⟨pt, some [], props, []⟩)).render.toList.length =
      (Json.Value.object (propertiesJson ⟨pt, none, props, []⟩)).render.toList.length + 20 := by
  have hperm := propertiesJson_emptyMixins_perm pt hres
  have hne : propertiesJson ⟨pt, none, props, []⟩ ≠ [] := fun h => by
    have hm := (mem_propertiesJson (t := ⟨pt, none, props, []⟩) hres).mpr
      (.inl ((mem_bare _).mpr (.inl rfl)))
    rw [h] at hm
    cases hm
  have hne' : propertiesJson ⟨pt, some [], props, []⟩ ≠ [] := fun h => by
    have hlen := hperm.length_eq
    rw [h] at hlen
    cases hlen
  have hsum := (hperm.map memberLength).sum_eq
  rw [List.map_cons, List.sum_cons, ← length_renderMembers hne,
    ← length_renderMembers hne'] at hsum
  have hmember : memberLength (Jcr.mixinTypes, .array []) = 20 := by
    unfold memberLength Jcr.mixinTypes
    decide
  rw [length_render_object, length_render_object]
  omega

/-- **An empty list of mixins lengthens the text** of a document by its
member and a comma: the properties member grows by that much, and nothing
else changes. -/
theorem length_render_emptyMixins (ch : List (String × NodeTree)) :
    (toJson ⟨pt, some [], props, ch⟩).render.toList.length =
      (toJson ⟨pt, none, props, ch⟩).render.toList.length + 20 := by
  have hprops := length_render_properties_emptyMixins pt hres
  rcases ch with _ | ⟨c, cs⟩
  · rw [toJson_nil, toJson_nil, length_render_object, length_render_object]
    simp only [Json.Value.renderMembers, String.toList_append, List.length_append]
    omega
  · rw [toJson_cons, toJson_cons, length_render_object, length_render_object]
    simp only [Json.Value.renderMembers, String.toList_append, List.length_append]
    omega

end EmptyMixins

end NodeTree

namespace NodeDocument

open NodeTree

/-- **Node documents read back from their bytes.** Take a document whose
own properties, at every level, leave `jcr:primaryType` and
`jcr:mixinTypes` to the document and hold values the reader gives back as
they are (no double, integers from `-2 ^ 63` to below `2 ^ 64`, objects in
key order), and whose JSON nests less deep than the reader's limit of 128.
Its bytes are UTF-8 text, the text parses, and reading the value (the
primary type and the mixins out of the properties, the rest as its own
properties, the children from the `children` member, each read the same
way) gives the document's tree back. So a document without mixins and one
with an empty list of them never have the same JSON, and the same node
written either way has two different bodies. -/
theorem document_reads_back (d : NodeDocument) (hd : d.tree.AllProperties ReadableProperty)
    (hdepth : d.toJson.depth < Json.Reader.nestingLimit) :
    (∃ text v, Text.ofUtf8? d.toBytes = some text ∧ Json.parse text = .ok v ∧
      readDocument v = some d.tree) ∧
    (∀ d' : NodeDocument, d'.tree.AllProperties PlainProperty → d.tree.mixins = none →
      d'.tree.mixins = some [] → d.toJson ≠ d'.toJson) ∧
    (d.withMixins none).toBytes ≠ (d.withMixins (some [])).toBytes := by
  have hplain : d.tree.AllProperties PlainProperty := hd.mono fun _ h => h.1
  have hreadable : d.toJson.Readable := toJson_readable d.ordered (hd.mono fun _ h => h.2)
  refine ⟨⟨d.toJson.render, d.toJson, Text.ofUtf8?_utf8 _, Json.parse_render_readable hreadable hdepth,
    readDocument_toJson hplain⟩, fun d' hd' hnone hsome heq => ?_, fun hbytes => ?_⟩
  · -- the two JSON values read back as the two trees
    have hback : readDocument d'.toJson = some d'.tree := readDocument_toJson hd'
    have hself : readDocument d.toJson = some d.tree := readDocument_toJson hplain
    rw [← heq, hself, Option.some.injEq] at hback
    rw [hback, hsome] at hnone
    cases hnone
  · -- the same bytes would be the same text, but the empty list lengthens it
    have htext := congrArg (fun s : String => s.toList.length) (Url.utf8_injective hbytes)
    obtain ⟨⟨pt, mx, props, ch⟩, hord⟩ := d
    have hres : ∀ p ∈ props.entries, PlainProperty p := hplain.own
    have hlonger := length_render_emptyMixins pt hres ch
    simp only [withMixins, toJson] at htext
    rw [hlonger] at htext
    omega

/-- A folder with an empty list of mixins, a title, and a file without
mixins. -/
def folderWithFile : NodeDocument :=
  (((new Jcr.folderType).withMixins (some [])).withProperty Jcr.title (.string "Docs")).withChild
    "a.txt" (new Jcr.fileType)

theorem document_reads_back_folder_with_file :
    folderWithFile.tree.AllProperties ReadableProperty ∧
    folderWithFile.toJson.depth < Json.Reader.nestingLimit ∧
    (∃ text v, Text.ofUtf8? folderWithFile.toBytes = some text ∧ Json.parse text = .ok v ∧
      readDocument v = some folderWithFile.tree) ∧
    (∀ d' : NodeDocument, d'.tree.AllProperties PlainProperty → folderWithFile.tree.mixins = none →
      d'.tree.mixins = some [] → folderWithFile.toJson ≠ d'.toJson) ∧
    (folderWithFile.withMixins none).toBytes ≠ (folderWithFile.withMixins (some [])).toBytes :=
  have hfile : (new Jcr.fileType).tree.AllProperties ReadableProperty :=
    .mk (fun _ h => absurd h List.not_mem_nil) fun _ h => absurd h List.not_mem_nil
  have htitle : ReadableProperty (Jcr.title, .string "Docs") :=
    ⟨by unfold PlainProperty reservedKey Jcr.title Jcr.primaryType Jcr.mixinTypes; decide, .string _⟩
  have h : folderWithFile.tree.AllProperties ReadableProperty :=
    .mk (fun p hp => by
        rcases List.mem_singleton.mp hp with rfl
        exact htitle)
      fun c hc => by
        rcases List.mem_singleton.mp hc with rfl
        exact hfile
  have hdepth : folderWithFile.toJson.depth < Json.Reader.nestingLimit := by
    have h₁ : Jcr.mixinTypes < Jcr.primaryType := by decide
    have h₂ : ¬ Jcr.title < Jcr.mixinTypes := by decide
    have h₃ : Jcr.title ≠ Jcr.mixinTypes := by decide
    have h₄ : ¬ Jcr.title < Jcr.primaryType := by decide
    have h₅ : Jcr.title ≠ Jcr.primaryType := by decide
    simp [folderWithFile, toJson, NodeTree.toJson, new, withMixins, withProperty, withChild,
      NodeTree.withProperty, KeyMap.insert, insertSorted, NodeTree.childrenJson,
      NodeTree.propertiesJson, Json.Object.insert, Json.Value.depth, Json.Value.depthFields,
      Json.Value.depthItems, Json.Value.ofStrings, Json.Reader.nestingLimit, h₁, h₂, h₃, h₄, h₅]
  ⟨h, hdepth, document_reads_back folderWithFile h hdepth⟩

/-- A folder holding a chain of `n` folders, each the only child `c` of the
one before. -/
def folderChain : Nat → NodeDocument
  | 0 => new Jcr.folderType
  | n + 1 => (new Jcr.folderType).withChild "c" (folderChain n)

theorem folderChain_tree (n : Nat) :
    (folderChain (n + 1)).tree = ⟨Jcr.folderType, none, .empty, [("c", (folderChain n).tree)]⟩ :=
  rfl

/-- The chain has no properties of its own. -/
theorem folderChain_properties (n : Nat) : (folderChain n).tree.AllProperties ReadableProperty := by
  induction n with
  | zero => exact .mk (fun _ h => absurd h List.not_mem_nil) fun _ h => absurd h List.not_mem_nil
  | succ n ih =>
    rw [folderChain_tree]
    refine .mk (fun _ h => absurd h List.not_mem_nil) fun c hc => ?_
    rcases List.mem_singleton.mp hc with rfl
    exact ih

/-- Each folder of the chain nests its JSON two levels deeper: the
`children` object and the child's document. -/
theorem depth_folderChain (n : Nat) : (folderChain n).toJson.depth = 2 * n + 2 := by
  induction n with
  | zero => simp [folderChain, toJson, NodeTree.toJson, new, NodeTree.propertiesJson,
      Json.Object.insert, Json.Value.depth, Json.Value.depthFields]
  | succ n ih =>
    have hchild : (folderChain n).tree.toJson.depth = 2 * n + 2 := ih
    simp only [toJson, folderChain_tree, toJson_cons, childrenJson, Json.Value.depth,
      Json.Value.depthFields, hchild]
    simp [NodeTree.propertiesJson, Json.Object.insert, Json.Value.depth, Json.Value.depthFields]
    omega

/-- **A folder chain of 63 is written but not read back**: its JSON nests
128 deep, and the reader refuses its text at the nesting limit, although
the chain has no properties at all. -/
theorem folderChain_too_deep :
    (folderChain 63).tree.AllProperties PlainProperty ∧
      Text.ofUtf8? (folderChain 63).toBytes = some (folderChain 63).toJson.render ∧
      ∃ e, Json.parse (folderChain 63).toJson.render = .error e := by
  have hprops := folderChain_properties 63
  refine ⟨hprops.mono fun _ h => h.1, Text.ofUtf8?_utf8 _, Json.parse_render_deep ?_ ?_⟩
  · exact toJson_readable (folderChain 63).ordered (hprops.mono fun _ h => h.2)
  · rw [depth_folderChain]
    decide

end NodeDocument

end ContentPublish
