import ContentPublish.Codec
import ContentPublish.Proofs.JsonReadBack
import Mathlib.Data.List.Induction

/-
  Node type listings read back

  A listing of node types is an object whose `children` hold each type
  under its name. A type is a node whose properties are its name, its
  supertypes, its three flags and its primary item if it has one, and
  whose children are its definitions: the first property definition under
  `jcr:propertyDefinition`, the one at place `i` after it under
  `jcr:propertyDefinition[i]`, and the child node definitions likewise.
  Each definition is a node whose properties are its fields.

  The reader keeps every text that is not empty and has no blank at either
  end, and it takes a type's definitions in the order of their keys, which
  is the byte order of the texts: `jcr:propertyDefinition[10]` comes before
  `jcr:propertyDefinition[2]`. So a listing is read back as its types by
  name, each with its definitions in that order; with at most nine
  definitions of a kind that is the order they were listed in, and with ten
  it is not.

  What is stated here:
    1. `siblingKey` and `inKeyOrder` — the key a definition is listed
       under, and values in the order of their keys;
       `inKeyOrder_of_length_le` — up to nine, that is their order.
    2. `Text.Trimmed` — the texts the reader keeps as they are.
    3. `definitionsOf_eq` — the definitions among a type's children, by
       kind, in the order the children come.
    4. `nodeTypeListing` — the listing of a list of node types.
    5. `definitionsOf_listing` and `NodeType.decodeNodeType_listingNode` —
       a listed type is read back with its definitions in key order.
    6. `decodeNodeTypes_listing` — a listing is read back as its types by
       name, exactly as listed when no type has ten definitions of a kind.
    7. `decodeNodeTypes_ten_definitions` — ten property definitions are
       read back out of their order.
-/

namespace ContentPublish

/-! ## Keys of same-name siblings -/

/-- The key of the definition at place `i`, from 0, among the definitions
of one kind: the kind's name for the first, the name with the place from 1
in brackets for the others. -/
def siblingKey (base : String) (i : Nat) : String :=
  if i = 0 then base else base ++ "[" ++ toString (i + 1) ++ "]"

/-- Values under the keys of their places. -/
def siblings {α : Type} (base : String) (vs : List α) : List (String × α) :=
  vs.mapIdx fun i v => (siblingKey base i, v)

/-- Values in the byte order of the keys of their places. -/
def inKeyOrder {α : Type} (base : String) (vs : List α) : List α :=
  (sortByKey (siblings base vs)).map (·.2)

theorem siblingKey_injective (base : String) : Function.Injective (siblingKey base) := by
  intro i j h
  unfold siblingKey at h
  split at h <;> split at h
  · omega
  -- the first key is shorter than every other
  · have := congrArg String.length h
    simp only [String.length_append, show "]".length = 1 from rfl] at this
    omega
  · have := congrArg String.length h
    simp only [String.length_append, show "]".length = 1 from rfl] at this
    omega
  · rw [String.append_left_inj, String.append_right_inj] at h
    have hdigits := congrArg String.toList h
    simp only [Nat.toString_eq_repr, Nat.toList_repr] at hdigits
    have := congrArg (Nat.ofDigitChars 10 · 0) hdigits
    simp only [Nat.ofDigitChars_ten_toDigits] at this
    omega

/-- The key of a sibling starts with the name of its kind. -/
theorem prefix_of_isSiblingOf {key base : String} (h : isSiblingOf key base = true) :
    base.toList <+: key.toList := by
  simp only [isSiblingOf, Bool.or_eq_true, beq_iff_eq, Bool.and_eq_true,
    String.startsWith_string_iff] at h
  rcases h with rfl | ⟨h, -⟩
  · exact List.prefix_refl _
  · exact h

/-- Every key of a kind is a sibling of the kind. -/
theorem isSiblingOf_siblingKey (base : String) (i : Nat) :
    isSiblingOf (siblingKey base i) base = true := by
  unfold siblingKey
  split
  · simp [isSiblingOf]
  · have hdrop : (base.toList ++ '[' :: (Nat.toDigits 10 (i + 1) ++ [']'])).drop base.length =
        '[' :: (Nat.toDigits 10 (i + 1) ++ [']']) := by
      rw [← String.length_toList, List.drop_left]
    simp [isSiblingOf, String.Slice.startsWith_string_iff, String.toList_copy_drop, hdrop]

/-- No key of one kind is a sibling of another kind whose name is no longer
and does not begin the first kind's name. -/
theorem isSiblingOf_siblingKey_eq_false {base other : String} (hlen : other.length ≤ base.length)
    (h : ¬ other.toList <+: base.toList) (i : Nat) :
    isSiblingOf (siblingKey base i) other = false := by
  rw [Bool.eq_false_iff]
  intro hsib
  have hbase : base.toList <+: (siblingKey base i).toList := by
    unfold siblingKey
    split
    · exact List.prefix_refl _
    · simp [String.toList_append]
  exact h (List.prefix_of_prefix_length_le (prefix_of_isSiblingOf hsib) hbase
    (by rw [String.length_toList, String.length_toList]; exact hlen))

section Siblings

variable {α : Type} (base : String) (vs : List α)

theorem mem_siblings {p : String × α} (h : p ∈ siblings base vs) :
    ∃ i, p.1 = siblingKey base i ∧ p.2 ∈ vs := by
  obtain ⟨i, hi, rfl⟩ := List.mem_mapIdx.mp h
  exact ⟨i, rfl, List.getElem_mem hi⟩

theorem siblings_map {β : Type} (f : α → β) :
    siblings base (vs.map f) = (siblings base vs).map fun p => (p.1, f p.2) :=
  List.ext_getElem (by simp [siblings]) fun i _ _ => by simp [siblings]

theorem map_snd_siblings : (siblings base vs).map (·.2) = vs :=
  List.ext_getElem (by simp [siblings]) fun i _ _ => by simp [siblings]

theorem keys_siblings : (siblings base vs).map (·.1) = (List.range vs.length).map (siblingKey base) :=
  List.ext_getElem (by simp [siblings]) fun i _ _ => by simp [siblings]

/-- Places have distinct keys. -/
theorem nodup_keys_siblings : ((siblings base vs).map (·.1)).Nodup := by
  rw [keys_siblings]
  exact List.nodup_range.map (siblingKey_injective base)

end Siblings

/-- Up to the ninth place, the keys of places ascend with the places. -/
theorem siblingKey_lt_siblingKey (base : String) {i j : Nat} (hij : i < j) (hj : j < 9) :
    siblingKey base i < siblingKey base j := by
  have hkey : ∀ k, 0 < k → k < 9 →
      (siblingKey base k).toList = base.toList ++ ['[', (k + 1).digitChar, ']'] := by
    intro k hk hk9
    simp [siblingKey, Nat.pos_iff_ne_zero.mp hk, Nat.toString_eq_repr, Nat.toList_repr,
      Nat.toDigits_of_lt_base (show k + 1 < 10 by omega)]
  rw [String.lt_iff_toList_lt, hkey j (by omega) hj]
  rcases Nat.eq_zero_or_pos i with rfl | hi
  · -- the first key is a proper prefix of every other
    have hbase : (siblingKey base 0).toList = base.toList ++ [] := by simp [siblingKey]
    rw [hbase]
    exact List.append_left_lt (List.nil_lt_cons _ _)
  · rw [hkey i hi (by omega)]
    refine List.append_left_lt (List.cons_lt_cons_iff.mpr (.inr ⟨rfl, ?_⟩))
    refine List.cons_lt_cons_iff.mpr (.inl ?_)
    rw [Char.lt_def, UInt32.lt_iff_toNat_lt]
    show (i + 1).digitChar.toNat < (j + 1).digitChar.toNat
    rw [Nat.toNat_digitChar_of_lt_ten (by omega), Nat.toNat_digitChar_of_lt_ten (by omega)]
    omega

/-- **With at most nine values, key order is the order of places.** -/
theorem inKeyOrder_of_length_le {α : Type} (base : String) (vs : List α) (h : vs.length ≤ 9) :
    inKeyOrder base vs = vs := by
  have hasc : KeysAscend (siblings base vs) := by
    refine KeysAscend.of_keys _ ?_ (keys_siblings base vs)
    refine List.pairwise_map.mpr (List.pairwise_lt_range.imp_of_mem fun hi hj hij => ?_)
    exact siblingKey_lt_siblingKey base hij (by simp at hj; omega)
  rw [inKeyOrder, hasc.sortByKey_eq, map_snd_siblings]

/-! ## Texts the reader keeps -/

/-- A text that the reader of a text property keeps as it is: not empty,
and with no blank at either end. -/
@[mk_iff]
structure Text.Trimmed (s : String) : Prop where
  ne_empty : s ≠ ""
  head_not_blank : s.toList.head?.all (fun c => !Text.isBlank c) = true
  last_not_blank : s.toList.getLast?.all (fun c => !Text.isBlank c) = true

instance (s : String) : Decidable (Text.Trimmed s) :=
  decidable_of_iff _ (Text.trimmed_iff s).symm

example : Text.Trimmed "nt:file" ∧ ¬ Text.Trimmed " nt:file" ∧ ¬ Text.Trimmed "" := by decide

theorem dropWhile_of_head {p : Char → Bool} {l : List Char}
    (h : l.head?.all (fun c => !p c) = true) : l.dropWhile p = l := by
  cases l with
  | nil => rfl
  | cons c l => exact List.dropWhile_cons_of_neg (by simpa using h)

theorem Text.trimBlank_of_trimmed {s : String} (h : Text.Trimmed s) : Text.trimBlank s = s := by
  have hlast : s.toList.reverse.head?.all (fun c => !Text.isBlank c) = true := by
    rw [List.head?_reverse]
    exact h.last_not_blank
  rw [Text.trimBlank, Text.trimBlankList, dropWhile_of_head h.head_not_blank,
    dropWhile_of_head hlast, List.reverse_reverse, String.ofList_toList]

section Properties

variable {props : Json.Object} {key : String}

theorem textOf_of_get? {s : String} (h : props.get? key = some (.string s)) (hs : Text.Trimmed s) :
    textOf props key = some s := by
  have hne : s.isEmpty = false := by
    rw [Bool.eq_false_iff, ne_eq, String.isEmpty_iff]
    exact hs.ne_empty
  simp [textOf, h, Text.trimBlank_of_trimmed hs, hne]

theorem textOf_of_get?_eq_none (h : props.get? key = none) : textOf props key = none := by
  simp [textOf, h]

theorem flagOf_of_get? {b : Bool} (h : props.get? key = some (.bool b)) : flagOf props key = b := by
  simp [flagOf, h]

theorem textListOf_of_get? {l : List String} (h : props.get? key = some (Json.Value.ofStrings l)) :
    textListOf props key = l := by
  simp [textListOf, h, Json.Value.ofStrings, List.filterMap_map, Function.comp_def,
    Json.Value.asString?]

theorem propertiesOf_of_get? {node : Json.Value} {o : Json.Object}
    (h : node.get? "properties" = some (.object o)) : propertiesOf node = o := by
  simp [propertiesOf, h]

end Properties

/-! ## The definitions among a type's children -/

/-- The property definition the reader makes of a definition's properties. -/
def PropertyDefinition.ofProperties (props : Json.Object) : PropertyDefinition :=
  { name := (textOf props "jcr:name").getD "*",
    requiredType := (textOf props "jcr:requiredType").getD "UNDEFINED",
    multiple := flagOf props "jcr:multiple",
    mandatory := flagOf props "jcr:mandatory",
    autocreated := flagOf props "jcr:autoCreated" }

/-- The child node definition the reader makes of a definition's properties. -/
def ChildNodeDefinition.ofProperties (props : Json.Object) : ChildNodeDefinition :=
  { name := (textOf props "jcr:name").getD "*",
    requiredPrimaryTypes := textListOf props "jcr:requiredPrimaryTypes",
    defaultPrimaryType := textOf props "jcr:defaultPrimaryType" }

/-- **The definitions among a type's children**: the property definitions
from the children under a property definition key, and the child node
definitions from those under a child node definition key, each in the
order the children come. -/
theorem definitionsOf_eq (children : Json.Object) : definitionsOf children =
    ((children.filter fun m => isSiblingOf m.1 "jcr:propertyDefinition").map
        fun m => PropertyDefinition.ofProperties (propertiesOf m.2),
      (children.filter fun m => !isSiblingOf m.1 "jcr:propertyDefinition" &&
        isSiblingOf m.1 "jcr:childNodeDefinition").map
        fun m => ChildNodeDefinition.ofProperties (propertiesOf m.2)) := by
  -- the children are read one after the other, so induct from the end
  induction children using List.reverseRecOn with
  | nil => rfl
  | append_singleton children m ih =>
    unfold definitionsOf at ih ⊢
    rw [List.foldl_append, ih]
    by_cases hp : isSiblingOf m.1 "jcr:propertyDefinition" <;>
      by_cases hc : isSiblingOf m.1 "jcr:childNodeDefinition" <;>
      simp [hp, hc, PropertyDefinition.ofProperties, ChildNodeDefinition.ofProperties]

/-! ## Listings -/

/-- A property definition as a node of a listing: its fields as properties. -/
def PropertyDefinition.listingNode (d : PropertyDefinition) : Json.Value :=
  .mkObject [("properties", .mkObject [("jcr:name", .string d.name),
    ("jcr:requiredType", .string d.requiredType), ("jcr:multiple", .bool d.multiple),
    ("jcr:mandatory", .bool d.mandatory), ("jcr:autoCreated", .bool d.autocreated)])]

/-- A child node definition as a node of a listing: its fields as
properties, the default primary type only when it has one. -/
def ChildNodeDefinition.listingNode (d : ChildNodeDefinition) : Json.Value :=
  .mkObject [("properties", .mkObject ([("jcr:name", .string d.name),
    ("jcr:requiredPrimaryTypes", .ofStrings d.requiredPrimaryTypes)] ++
    d.defaultPrimaryType.toList.map fun n => ("jcr:defaultPrimaryType", .string n)))]

/-- A node type as a node of a listing: its name, supertypes, flags and
primary item as properties, and its definitions as children, each kind
under the keys of their places. -/
def NodeType.listingNode (t : NodeType) : Json.Value :=
  .mkObject [("properties", .mkObject ([("jcr:nodeTypeName", .string t.name),
      ("jcr:supertypes", .ofStrings t.supertypes), ("jcr:isMixin", .bool t.isMixin),
      ("jcr:isAbstract", .bool t.isAbstract), ("jcr:isQueryable", .bool t.isQueryable)] ++
      t.primaryItemName.toList.map fun n => ("jcr:primaryItemName", .string n))),
    ("children", .mkObject
      (siblings "jcr:propertyDefinition" (t.propertyDefinitions.map PropertyDefinition.listingNode) ++
        siblings "jcr:childNodeDefinition"
          (t.childNodeDefinitions.map ChildNodeDefinition.listingNode)))]

/-- The listing of node types: each type under its name. -/
def nodeTypeListing (ts : List NodeType) : Json.Value :=
  .mkObject [("children", .mkObject (ts.map fun t => (t.name, t.listingNode)))]

/-- The texts of a property definition are kept by the reader. -/
@[mk_iff]
structure PropertyDefinition.Trimmed (d : PropertyDefinition) : Prop where
  name : Text.Trimmed d.name
  requiredType : Text.Trimmed d.requiredType

instance (d : PropertyDefinition) : Decidable d.Trimmed :=
  decidable_of_iff _ (PropertyDefinition.trimmed_iff d).symm

/-- The texts of a child node definition are kept by the reader. -/
@[mk_iff]
structure ChildNodeDefinition.Trimmed (d : ChildNodeDefinition) : Prop where
  name : Text.Trimmed d.name
  defaultPrimaryType : ∀ n ∈ d.defaultPrimaryType, Text.Trimmed n

instance (d : ChildNodeDefinition) : Decidable d.Trimmed :=
  decidable_of_iff _ (ChildNodeDefinition.trimmed_iff d).symm

/-- The texts of a node type and of its definitions are kept by the reader. -/
@[mk_iff]
structure NodeType.Trimmed (t : NodeType) : Prop where
  name : Text.Trimmed t.name
  primaryItemName : ∀ n ∈ t.primaryItemName, Text.Trimmed n
  propertyDefinitions : ∀ d ∈ t.propertyDefinitions, d.Trimmed
  childNodeDefinitions : ∀ d ∈ t.childNodeDefinitions, d.Trimmed

instance (t : NodeType) : Decidable t.Trimmed :=
  decidable_of_iff _ (NodeType.trimmed_iff t).symm

/-- A node type with each kind of its definitions in the byte order of the
keys they are listed under. -/
def NodeType.inKeyOrder (t : NodeType) : NodeType :=
  { t with
    propertyDefinitions := ContentPublish.inKeyOrder "jcr:propertyDefinition" t.propertyDefinitions
    childNodeDefinitions :=
      ContentPublish.inKeyOrder "jcr:childNodeDefinition" t.childNodeDefinitions }

/-- A property definition is read back from its node. -/
theorem PropertyDefinition.ofProperties_listingNode (d : PropertyDefinition) (hd : d.Trimmed) :
    ofProperties (propertiesOf d.listingNode) = d := by
  obtain ⟨name, ty, multiple, mandatory, auto⟩ := d
  set fields : List (String × Json.Value) := [("jcr:name", .string name),
    ("jcr:requiredType", .string ty), ("jcr:multiple", .bool multiple),
    ("jcr:mandatory", .bool mandatory), ("jcr:autoCreated", .bool auto)]
  have hkeys : (fields.map (·.1)).Nodup := by
    simp only [fields, List.map_cons, List.map_nil]
    decide
  have hget : ∀ k v, (k, v) ∈ fields → (Json.Object.ofList fields).get? k = some v :=
    fun k v h => Json.Object.get?_ofList hkeys h
  have hprops : propertiesOf (listingNode ⟨name, ty, multiple, mandatory, auto⟩) =
      Json.Object.ofList fields :=
    propertiesOf_of_get? (Json.Object.get?_ofList (by simp) (List.mem_singleton.mpr rfl))
  rw [hprops, ofProperties,
    textOf_of_get? (hget "jcr:name" (.string name) (by simp [fields])) hd.name,
    textOf_of_get? (hget "jcr:requiredType" (.string ty) (by simp [fields])) hd.requiredType,
    flagOf_of_get? (hget "jcr:multiple" (.bool multiple) (by simp [fields])),
    flagOf_of_get? (hget "jcr:mandatory" (.bool mandatory) (by simp [fields])),
    flagOf_of_get? (hget "jcr:autoCreated" (.bool auto) (by simp [fields]))]
  rfl

/-- A child node definition is read back from its node. -/
theorem ChildNodeDefinition.ofProperties_listingNode (d : ChildNodeDefinition) (hd : d.Trimmed) :
    ofProperties (propertiesOf d.listingNode) = d := by
  obtain ⟨name, types, dflt⟩ := d
  set fields : List (String × Json.Value) := [("jcr:name", Json.Value.string name),
    ("jcr:requiredPrimaryTypes", Json.Value.ofStrings types)] ++
    dflt.toList.map fun n => ("jcr:defaultPrimaryType", Json.Value.string n)
  have hkeys : (fields.map (·.1)).Nodup := by
    cases dflt <;> simp only [fields, Option.toList, List.map_cons, List.map_nil,
      List.cons_append, List.nil_append] <;> decide
  have hget : ∀ k v, (k, v) ∈ fields → (Json.Object.ofList fields).get? k = some v :=
    fun k v h => Json.Object.get?_ofList hkeys h
  have hprops : propertiesOf (listingNode ⟨name, types, dflt⟩) = Json.Object.ofList fields :=
    propertiesOf_of_get? (Json.Object.get?_ofList (by simp) (List.mem_singleton.mpr rfl))
  -- the default primary type is written only when there is one
  have hdflt : textOf (Json.Object.ofList fields) "jcr:defaultPrimaryType" = dflt := by
    cases dflt with
    | none => exact textOf_of_get?_eq_none (Json.Object.get?_ofList_eq_none (by simp [fields]))
    | some n =>
      exact textOf_of_get? (hget _ (.string n) (by simp [fields])) (hd.defaultPrimaryType n rfl)
  rw [hprops, ofProperties, textOf_of_get? (hget "jcr:name" (.string name) (by simp [fields])) hd.name,
    textListOf_of_get? (hget "jcr:requiredPrimaryTypes" (.ofStrings types) (by simp [fields])), hdflt]
  rfl

/-- Values listed as nodes and read back one by one come in key order. -/
theorem map_read_sortByKey_siblings {β : Type} (base : String) (vs : List β)
    (node : β → Json.Value) (read : Json.Value → β) (h : ∀ v ∈ vs, read (node v) = v) :
    (sortByKey (siblings base (vs.map node))).map (fun m => read m.2) = inKeyOrder base vs := by
  rw [siblings_map, sortByKey_map_values, List.map_map, inKeyOrder]
  refine List.map_congr_left fun m hm => ?_
  obtain ⟨-, -, hv⟩ := mem_siblings base vs (mem_sortByKey.mp hm)
  exact h m.2 hv

/-- **The definitions of a listed type are read back in key order**: its
property definitions and its child node definitions, each kind apart. -/
theorem definitionsOf_listing (pds : List PropertyDefinition) (cds : List ChildNodeDefinition)
    (hp : ∀ d ∈ pds, d.Trimmed) (hc : ∀ d ∈ cds, d.Trimmed) :
    definitionsOf (Json.Object.ofList
      (siblings "jcr:propertyDefinition" (pds.map PropertyDefinition.listingNode) ++
        siblings "jcr:childNodeDefinition" (cds.map ChildNodeDefinition.listingNode))) =
      (inKeyOrder "jcr:propertyDefinition" pds, inKeyOrder "jcr:childNodeDefinition" cds) := by
  set A := siblings "jcr:propertyDefinition" (pds.map PropertyDefinition.listingNode)
  set B := siblings "jcr:childNodeDefinition" (cds.map ChildNodeDefinition.listingNode)
  -- a child node definition key is no property definition key
  have hA : ∀ m ∈ A, isSiblingOf m.1 "jcr:propertyDefinition" = true := by
    intro m hm
    obtain ⟨i, hi, -⟩ := mem_siblings _ _ hm
    rw [hi]
    exact isSiblingOf_siblingKey _ i
  have hBP : ∀ m ∈ B, isSiblingOf m.1 "jcr:propertyDefinition" = false := by
    intro m hm
    obtain ⟨i, hi, -⟩ := mem_siblings _ _ hm
    rw [hi]
    exact isSiblingOf_siblingKey_eq_false (by decide) (by decide) i
  have hBC : ∀ m ∈ B, isSiblingOf m.1 "jcr:childNodeDefinition" = true := by
    intro m hm
    obtain ⟨i, hi, -⟩ := mem_siblings _ _ hm
    rw [hi]
    exact isSiblingOf_siblingKey _ i
  have hnodup : ((A ++ B).map (·.1)).Nodup := by
    rw [List.map_append, List.nodup_append]
    refine ⟨nodup_keys_siblings _ _, nodup_keys_siblings _ _, ?_⟩
    intro a ha b hb hab
    obtain ⟨ma, hma, rfl⟩ := List.mem_map.mp ha
    obtain ⟨mb, hmb, rfl⟩ := List.mem_map.mp hb
    have := hBP mb hmb
    rw [← hab, hA ma hma] at this
    exact Bool.noConfusion this
  have hfA : (A ++ B).filter (fun m => isSiblingOf m.1 "jcr:propertyDefinition") = A := by
    rw [List.filter_append, List.filter_eq_self.mpr hA,
      List.filter_eq_nil_iff.mpr fun m hm => by simp [hBP m hm], List.append_nil]
  have hfB : (A ++ B).filter (fun m => !isSiblingOf m.1 "jcr:propertyDefinition" &&
      isSiblingOf m.1 "jcr:childNodeDefinition") = B := by
    rw [List.filter_append, List.filter_eq_nil_iff.mpr fun m hm => by simp [hA m hm],
      List.filter_eq_self.mpr fun m hm => by simp [hBP m hm, hBC m hm], List.nil_append]
  rw [Json.Object.ofList_eq_sortByKey hnodup, definitionsOf_eq,
    filter_sortByKey (fun k => isSiblingOf k "jcr:propertyDefinition") hnodup,
    filter_sortByKey (fun k => !isSiblingOf k "jcr:propertyDefinition" &&
      isSiblingOf k "jcr:childNodeDefinition") hnodup, hfA, hfB,
    map_read_sortByKey_siblings _ pds _ (fun v => PropertyDefinition.ofProperties (propertiesOf v))
      fun d hd => d.ofProperties_listingNode (hp d hd),
    map_read_sortByKey_siblings _ cds _ (fun v => ChildNodeDefinition.ofProperties (propertiesOf v))
      fun d hd => d.ofProperties_listingNode (hc d hd)]

/-- **A listed node type is read back** with its definitions in key order,
whatever key it is listed under. -/
theorem NodeType.decodeNodeType_listingNode (t : NodeType) (ht : t.Trimmed) (key : String) :
    decodeNodeType key t.listingNode = t.inKeyOrder := by
  obtain ⟨name, supertypes, mixin, abstract, queryable, item, pds, cds⟩ := t
  -- constructors named in full: the operands of `++` are elaborated without
  -- the list's type
  set fields : List (String × Json.Value) := [("jcr:nodeTypeName", Json.Value.string name),
    ("jcr:supertypes", Json.Value.ofStrings supertypes), ("jcr:isMixin", Json.Value.bool mixin),
    ("jcr:isAbstract", Json.Value.bool abstract), ("jcr:isQueryable", Json.Value.bool queryable)] ++
    item.toList.map fun n => ("jcr:primaryItemName", Json.Value.string n)
  set children := siblings "jcr:propertyDefinition" (pds.map PropertyDefinition.listingNode) ++
    siblings "jcr:childNodeDefinition" (cds.map ChildNodeDefinition.listingNode) with hchildrenEq
  have hkeys : (fields.map (·.1)).Nodup := by
    cases item <;> simp only [fields, Option.toList, List.map_cons, List.map_nil,
      List.cons_append, List.nil_append] <;> decide
  have hget : ∀ k v, (k, v) ∈ fields → (Json.Object.ofList fields).get? k = some v :=
    fun k v h => Json.Object.get?_ofList hkeys h
  have hnode : ∀ k v, (k, v) ∈ [("properties", Json.Value.mkObject fields),
      ("children", Json.Value.mkObject children)] →
      (listingNode ⟨name, supertypes, mixin, abstract, queryable, item, pds, cds⟩).get? k =
        some v :=
    fun k v h => Json.Object.get?_ofList (by simp) h
  have hprops : propertiesOf (listingNode ⟨name, supertypes, mixin, abstract, queryable, item,
      pds, cds⟩) = Json.Object.ofList fields :=
    propertiesOf_of_get? (hnode _ _ (by simp [Json.Value.mkObject]))
  have hchildren := hnode "children" (Json.Value.mkObject children) (by simp)
  -- the primary item is written only when there is one
  have hitem : textOf (Json.Object.ofList fields) "jcr:primaryItemName" = item := by
    cases item with
    | none => exact textOf_of_get?_eq_none (Json.Object.get?_ofList_eq_none (by simp [fields]))
    | some n =>
      exact textOf_of_get? (hget _ (.string n) (by simp [fields])) (ht.primaryItemName n rfl)
  unfold decodeNodeType
  rw [hprops, hchildren, Json.Value.mkObject, hchildrenEq]
  simp only [definitionsOf_listing pds cds ht.propertyDefinitions ht.childNodeDefinitions,
    textOf_of_get? (hget "jcr:nodeTypeName" (.string name) (by simp [fields])) ht.name,
    textListOf_of_get? (hget "jcr:supertypes" (.ofStrings supertypes) (by simp [fields])),
    flagOf_of_get? (hget "jcr:isMixin" (.bool mixin) (by simp [fields])),
    flagOf_of_get? (hget "jcr:isAbstract" (.bool abstract) (by simp [fields])),
    flagOf_of_get? (hget "jcr:isQueryable" (.bool queryable) (by simp [fields])), hitem]
  rfl

/-! ## The listing as JSON text -/

/-- An object of members that are canonical and nest at most `d` deep is
canonical and nests one deeper. -/
theorem Json.Value.mkObject_form {ms : List (String × Json.Value)} {d : Nat}
    (h : ∀ p ∈ ms, p.2.Canonical ∧ p.2.depth ≤ d) :
    (Json.Value.mkObject ms).Canonical ∧ (Json.Value.mkObject ms).depth ≤ d + 1 :=
  ⟨.mkObject fun p hp => (h p hp).1, Json.Value.depth_mkObject_le fun p hp => (h p hp).2⟩

theorem Json.Value.ofStrings_form (items : List String) :
    (Json.Value.ofStrings items).Canonical ∧ (Json.Value.ofStrings items).depth ≤ 1 := by
  refine ⟨.array fun v hv => ?_, ?_⟩
  · obtain ⟨s, -, rfl⟩ := List.mem_map.mp (by simpa [Json.Value.ofStrings] using hv)
    exact .string s
  · have : Json.Value.depthItems (items.map Json.Value.string) ≤ 0 :=
      Json.Value.depthItems_le fun v hv => by
        obtain ⟨s, -, rfl⟩ := List.mem_map.mp hv
        simp [Json.Value.depth]
    simp only [Json.Value.ofStrings, Json.Value.depth]
    omega

theorem PropertyDefinition.listingNode_form (d : PropertyDefinition) :
    d.listingNode.Canonical ∧ d.listingNode.depth ≤ 3 := by
  refine Json.Value.mkObject_form fun p hp => ?_
  rw [List.mem_singleton] at hp
  subst hp
  refine Json.Value.mkObject_form fun q hq => ?_
  simp only [List.mem_cons, List.not_mem_nil, or_false] at hq
  rcases hq with rfl | rfl | rfl | rfl | rfl <;>
    exact ⟨by constructor, by simp [Json.Value.depth]⟩

theorem ChildNodeDefinition.listingNode_form (d : ChildNodeDefinition) :
    d.listingNode.Canonical ∧ d.listingNode.depth ≤ 3 := by
  refine Json.Value.mkObject_form fun p hp => ?_
  rw [List.mem_singleton] at hp
  subst hp
  refine Json.Value.mkObject_form fun q hq => ?_
  simp only [List.mem_append, List.mem_cons, List.not_mem_nil, or_false, List.mem_map,
    Option.mem_toList] at hq
  rcases hq with (rfl | rfl) | ⟨n, -, rfl⟩
  · exact ⟨.string _, by simp [Json.Value.depth]⟩
  · exact Json.Value.ofStrings_form _
  · exact ⟨.string _, by simp [Json.Value.depth]⟩

theorem NodeType.listingNode_form (t : NodeType) :
    t.listingNode.Canonical ∧ t.listingNode.depth ≤ 5 := by
  refine Json.Value.mkObject_form fun p hp => ?_
  simp only [List.mem_cons, List.not_mem_nil, or_false] at hp
  rcases hp with rfl | rfl
  · -- the properties: texts, flags and one list, each nesting at most one deep
    refine (Json.Value.mkObject_form (d := 1) fun q hq => ?_).imp id fun h => le_trans h (by decide)
    simp only [List.mem_append, List.mem_cons, List.not_mem_nil, or_false, List.mem_map,
      Option.mem_toList] at hq
    rcases hq with (rfl | rfl | rfl | rfl | rfl) | ⟨n, -, rfl⟩
    · exact ⟨.string _, by simp [Json.Value.depth]⟩
    · exact Json.Value.ofStrings_form _
    all_goals exact ⟨by constructor, by simp [Json.Value.depth]⟩
  · -- the definitions, each a node of depth at most three
    refine Json.Value.mkObject_form fun q hq => ?_
    rcases List.mem_append.mp hq with hq | hq
    · obtain ⟨-, -, hv⟩ := mem_siblings _ _ hq
      obtain ⟨d, -, hd⟩ := List.mem_map.mp hv
      rw [← hd]
      exact d.listingNode_form
    · obtain ⟨-, -, hv⟩ := mem_siblings _ _ hq
      obtain ⟨d, -, hd⟩ := List.mem_map.mp hv
      rw [← hd]
      exact d.listingNode_form

theorem nodeTypeListing_form (ts : List NodeType) :
    (nodeTypeListing ts).Canonical ∧ (nodeTypeListing ts).depth ≤ 7 := by
  refine Json.Value.mkObject_form fun p hp => ?_
  rw [List.mem_singleton] at hp
  subst hp
  refine Json.Value.mkObject_form fun q hq => ?_
  obtain ⟨t, -, rfl⟩ := List.mem_map.mp hq
  exact t.listingNode_form

/-- The text of a listing is read as the object of its types. -/
theorem parseObject_nodeTypeListing (ts : List NodeType) :
    parseObject (nodeTypeListing ts).render =
      .ok (Json.Object.ofList [("children", .mkObject (ts.map fun t => (t.name, t.listingNode)))]) := by
  obtain ⟨hcanon, hdepth⟩ := nodeTypeListing_form ts
  have hparse := Json.parse_render hcanon (by unfold Json.Reader.nestingLimit; omega)
  simp only [parseObject, parseBody, hparse]
  rfl

/-- The types of a listing are the types read from its children, in the
order of their names, each stored under the name read from it. -/
theorem decodeNodeTypes_nodeTypeListing (ts : List NodeType) :
    decodeNodeTypes (nodeTypeListing ts).render =
      .ok ((Json.Object.ofList (ts.map fun t => (t.name, t.listingNode))).foldl
        (fun acc m => insertSorted acc (decodeNodeType m.1 m.2).name (decodeNodeType m.1 m.2)) []) := by
  have hchildren : (Json.Object.ofList [("children",
      Json.Value.mkObject (ts.map fun t => (t.name, t.listingNode)))]).get? "children" =
      some (.mkObject (ts.map fun t => (t.name, t.listingNode))) :=
    Json.Object.get?_ofList (by simp) (List.mem_singleton.mpr rfl)
  unfold decodeNodeTypes
  rw [parseObject_nodeTypeListing]
  simp only [hchildren]
  rfl

/-- With at most nine definitions of each kind, a type is in key order. -/
theorem NodeType.inKeyOrder_of_length_le (t : NodeType) (hp : t.propertyDefinitions.length ≤ 9)
    (hc : t.childNodeDefinitions.length ≤ 9) : t.inKeyOrder = t := by
  rw [NodeType.inKeyOrder, ContentPublish.inKeyOrder_of_length_le _ _ hp,
    ContentPublish.inKeyOrder_of_length_le _ _ hc]

/-- **A listing of node types is read back**: as its types by name, each
with its property definitions and its child node definitions in the byte
order of the keys they are listed under; so exactly as listed when no type
has more than nine definitions of a kind. -/
theorem decodeNodeTypes_listing (ts : List NodeType) (hnames : (ts.map (·.name)).Nodup)
    (hts : ∀ t ∈ ts, t.Trimmed) :
    decodeNodeTypes (nodeTypeListing ts).render =
        .ok (sortByKey (ts.map fun t => (t.name, t.inKeyOrder))) ∧
      ((∀ t ∈ ts, t.propertyDefinitions.length ≤ 9 ∧ t.childNodeDefinitions.length ≤ 9) →
        decodeNodeTypes (nodeTypeListing ts).render = .ok (sortByKey (ts.map fun t => (t.name, t)))) := by
  have hkeys : ((ts.map fun t => (t.name, t)).map (·.1)).Nodup := by
    simpa [List.map_map, Function.comp_def] using hnames
  set sorted := sortByKey (ts.map fun t => (t.name, t))
  -- the types come sorted by name, each under its own name
  have hsorted : ∀ p ∈ sorted, p.1 = p.2.name ∧ p.2.Trimmed := by
    intro p hp
    obtain ⟨t, ht, rfl⟩ := List.mem_map.mp (mem_sortByKey.mp hp)
    exact ⟨rfl, hts t ht⟩
  have hdecoded : sorted.map (fun p => ((decodeNodeType p.1 p.2.listingNode).name,
      decodeNodeType p.1 p.2.listingNode)) = sorted.map fun p => (p.1, p.2.inKeyOrder) := by
    refine List.map_congr_left fun p hp => ?_
    obtain ⟨hname, htrim⟩ := hsorted p hp
    rw [p.2.decodeNodeType_listingNode htrim, hname]
    rfl
  have hasc : KeysAscend (sorted.map fun p => (p.1, p.2.inKeyOrder)) :=
    (KeysAscend.sortByKey hkeys).map_values _
  have hfold := foldl_insertSorted_of_ascend (fun p : String × NodeType =>
    ((decodeNodeType p.1 p.2.listingNode).name, decodeNodeType p.1 p.2.listingNode)) sorted []
    (by rw [List.nil_append, hdecoded]; exact hasc)
  have hread : decodeNodeTypes (nodeTypeListing ts).render =
      .ok (sortByKey (ts.map fun t => (t.name, t.inKeyOrder))) := by
    have hmembers : ts.map (fun t => (t.name, t.listingNode)) =
        (ts.map fun t => (t.name, t)).map fun p => (p.1, p.2.listingNode) := by
      simp [List.map_map, Function.comp_def]
    have hinKeyOrder : ts.map (fun t => (t.name, t.inKeyOrder)) =
        (ts.map fun t => (t.name, t)).map fun p => (p.1, p.2.inKeyOrder) := by
      simp [List.map_map, Function.comp_def]
    rw [decodeNodeTypes_nodeTypeListing, hmembers,
      Json.Object.ofList_eq_sortByKey (by simpa [List.map_map, Function.comp_def] using hkeys),
      sortByKey_map_values, List.foldl_map, hfold, List.nil_append, hdecoded, hinKeyOrder,
      sortByKey_map_values]
  refine ⟨hread, fun hsmall => ?_⟩
  have hsame : ts.map (fun t => (t.name, t.inKeyOrder)) = ts.map fun t => (t.name, t) :=
    List.map_congr_left fun t ht => by
      rw [t.inKeyOrder_of_length_le (hsmall t ht).1 (hsmall t ht).2]
  rw [hread, hsame]

/-- The file type of a repository: one child node definition. -/
def fileNodeType : NodeType :=
  ⟨"nt:file", ["nt:hierarchyNode"], false, false, true, some "jcr:content", [],
    [⟨"jcr:content", ["nt:base"], none⟩]⟩

/-- The versionable mixin of a repository: two property definitions. -/
def versionableNodeType : NodeType :=
  ⟨"mix:versionable", ["mix:referenceable"], true, false, false, none,
    [⟨"jcr:isCheckedOut", "Boolean", false, true, false⟩,
      ⟨"jcr:baseVersion", "Reference", false, true, false⟩], []⟩

/-- The file and versionable types, listed together, are read back as
listed. -/
theorem decodeNodeTypes_listing_file_and_versionable :
    ([fileNodeType, versionableNodeType].map (·.name)).Nodup ∧
      (∀ t ∈ [fileNodeType, versionableNodeType], t.Trimmed) ∧
      (decodeNodeTypes (nodeTypeListing [fileNodeType, versionableNodeType]).render =
          .ok (sortByKey [(fileNodeType.name, fileNodeType.inKeyOrder),
            (versionableNodeType.name, versionableNodeType.inKeyOrder)]) ∧
        ((∀ t ∈ [fileNodeType, versionableNodeType],
            t.propertyDefinitions.length ≤ 9 ∧ t.childNodeDefinitions.length ≤ 9) →
          decodeNodeTypes (nodeTypeListing [fileNodeType, versionableNodeType]).render =
            .ok (sortByKey [(fileNodeType.name, fileNodeType),
              (versionableNodeType.name, versionableNodeType)]))) :=
  ⟨by decide, by decide, decodeNodeTypes_listing _ (by decide) (by decide)⟩

/-- A property definition of strings named `p` and a number. -/
def stringProperty (i : Nat) : PropertyDefinition :=
  ⟨"p" ++ toString i, "STRING", false, false, false⟩

/-- A node type with ten property definitions, `p1` to `p10` in that order. -/
def tenPropertyType : NodeType :=
  ⟨"t", [], false, false, false, none, [1, 2, 3, 4, 5, 6, 7, 8, 9, 10].map stringProperty, []⟩

/-- **Ten property definitions are read back out of their order**: the
tenth, listed under `jcr:propertyDefinition[10]`, comes second, so the type
read is not the type listed. -/
theorem decodeNodeTypes_ten_definitions :
    decodeNodeTypes (nodeTypeListing [tenPropertyType]).render =
        .ok [("t", { tenPropertyType with
          propertyDefinitions := [1, 10, 2, 3, 4, 5, 6, 7, 8, 9].map stringProperty })] ∧
      decodeNodeTypes (nodeTypeListing [tenPropertyType]).render ≠ .ok [("t", tenPropertyType)] := by
  set P := "jcr:propertyDefinition"
  -- the definitions under their keys, in the byte order of the keys
  set l : List (String × PropertyDefinition) := [(siblingKey P 0, stringProperty 1),
    (siblingKey P 9, stringProperty 10), (siblingKey P 1, stringProperty 2),
    (siblingKey P 2, stringProperty 3), (siblingKey P 3, stringProperty 4),
    (siblingKey P 4, stringProperty 5), (siblingKey P 5, stringProperty 6),
    (siblingKey P 6, stringProperty 7), (siblingKey P 7, stringProperty 8),
    (siblingKey P 8, stringProperty 9)]
  have hasc : KeysAscend l := KeysAscend.of_keys _ (by decide) rfl
  have hperm : (siblings P tenPropertyType.propertyDefinitions).Perm l := by decide
  have hsorted : sortByKey (siblings P tenPropertyType.propertyDefinitions) = l :=
    (hasc.eq_sortByKey (nodup_keys_siblings _ _) fun a => hperm.mem_iff.symm).symm
  have horder : tenPropertyType.inKeyOrder = { tenPropertyType with
      propertyDefinitions := [1, 10, 2, 3, 4, 5, 6, 7, 8, 9].map stringProperty } := by
    rw [NodeType.inKeyOrder, inKeyOrder, hsorted,
      inKeyOrder_of_length_le _ tenPropertyType.childNodeDefinitions (by decide)]
    rfl
  have hdecode : decodeNodeTypes (nodeTypeListing [tenPropertyType]).render =
      .ok [("t", tenPropertyType.inKeyOrder)] := by
    rw [decodeNodeTypes_nodeTypeListing, List.map_singleton,
      Json.Object.ofList_of_keysAscend (List.pairwise_singleton _ _), List.foldl_cons, List.foldl_nil,
      tenPropertyType.decodeNodeType_listingNode (by decide)]
    rfl
  rw [hdecode, horder]
  refine ⟨rfl, fun h => ?_⟩
  have := congrArg (fun r => (r.toOption.bind List.head?).map (·.2.propertyDefinitions)) h
  revert this
  decide

end ContentPublish
