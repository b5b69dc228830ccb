import ContentPublish.Node
import ContentPublish.Codec
import ContentPublish.Proofs.JsonReadBack
import ContentPublish.Proofs.Base64RoundTrip

/-
  The body written for a file

  A file is written to the repository as its node document with the file's
  bytes put into its content child, as base64 under `jcr:data`, and the
  whole document written as JSON text in UTF-8. The bytes are read when the
  body is wanted, into a freshly made document.

  Putting the bytes in changes the document in one place only: the content
  child's properties gain the data property, and no other property, mixin
  or child moves. Reading the body back as UTF-8 and JSON gives that
  document exactly, and the content child, written out on its own, is read
  back by the file reader as the bytes.

  What is stated here:
    1. `Json.Value.at?` and `Json.Value.modifyAt` — the value at a path of
       keys, and a change made there and nowhere else.
    2. `NodeTree.propertiesJson_withProperty` — setting a property sets it
       in the properties object.
    3. `FileNode.toJson_withData` — putting the bytes into any document
       changes only its content child's properties.
    4. `FileNode.document_toJson` — the JSON of a file's document, in full.
    5. `FileNode.content_adds_data` — the body of a file is its document
       with the data added, and the content child gives the bytes back.
-/

namespace ContentPublish

/-- Text written as UTF-8 is read back. -/
theorem Text.ofUtf8?_utf8 (s : String) : Text.ofUtf8? (Text.utf8 s) = some s := by
  have hbytes : (⟨(Text.utf8 s).toArray⟩ : ByteArray) = s.toByteArray := by
    have hs : s.toByteArray = (String.ofList s.toList).toByteArray := by rw [String.ofList_toList]
    rw [hs, String.toByteArray_ofList, List.utf8Encode]
    exact ByteArray.ext List.data_toByteArray.symm
  unfold Text.ofUtf8? String.fromUTF8?
  rw [hbytes, dif_pos s.isValidUTF8]
  rfl

namespace Json.Value

/-- The value at a path of keys, each looked up in the object before it. -/
def at? (v : Value) : List String → Option Value
  | [] => some v
  | k :: ks => (v.get? k).bind fun w => w.at? ks

/-- The value with the value at a path of keys changed by `f`; a path that
leads nowhere changes nothing. -/
def modifyAt (f : Value → Value) : Value → List String → Value
  | v, [] => f v
  | .object fields, k :: ks =>
    .object (fields.map fun m => if m.1 = k then (m.1, modifyAt f m.2 ks) else m)
  | v, _ :: _ => v

/-- An object with a member stored under a key; any other value as it is. -/
def withMember (key : String) (w : Value) : Value → Value
  | .object fields => .object (Object.insert fields key w)
  | v => v

end Json.Value

namespace NodeTree

/-- The properties object is the bare node's, with the node's own properties
inserted one by one. -/
theorem propertiesJson_eq_foldl (t : NodeTree) :
    t.propertiesJson = t.properties.entries.foldl (fun acc p => insertSorted acc p.1 p.2)
      { t with properties := .empty }.propertiesJson := by
  simp only [propertiesJson, KeyMap.entries_empty, List.foldl_nil]
  congr 1
  funext o p
  exact Json.Object.insert_eq_insertSorted o p.1 p.2

theorem propertiesJson_keysAscend (t : NodeTree) : KeysAscend t.propertiesJson := by
  rw [propertiesJson_eq_foldl]
  refine KeysAscend.foldl_insertSorted ?_
  simp only [propertiesJson, KeyMap.entries_empty, List.foldl_nil, Json.Object.insert_eq_insertSorted]
  -- the primary type, and the mixins if given
  split
  · exact KeysAscend.nil.insertSorted.insertSorted
  · exact KeysAscend.nil.insertSorted

/-- **Setting a property sets it in the properties object**, over whatever
the bare node holds under that key. -/
theorem propertiesJson_withProperty (t : NodeTree) (k : String) (v : Json.Value) :
    (t.withProperty k v).propertiesJson = t.propertiesJson.insert k v := by
  have h := t.properties.ascending
  have hbase := propertiesJson_keysAscend { t with properties := .empty }
  have hfold := propertiesJson_keysAscend t
  have hlhs : (t.withProperty k v).propertiesJson =
      (insertSorted t.properties.entries k v).foldl (fun acc p => insertSorted acc p.1 p.2)
        { t with properties := .empty }.propertiesJson := by
    rw [propertiesJson_eq_foldl]
    rfl
  rw [Json.Object.insert_eq_insertSorted]
  refine KeysAscend.eq_of_mem_iff (propertiesJson_keysAscend _) hfold.insertSorted fun a => ?_
  rw [hlhs, mem_foldl_insertSorted hbase h.insertSorted.nodup_keys, mem_insertSorted h,
    mem_insertSorted hfold, propertiesJson_eq_foldl t, mem_foldl_insertSorted hbase h.nodup_keys]
  constructor
  · rintro (⟨hb, hq⟩ | rfl | ⟨hp, hne⟩)
    · -- a member of the bare node's object that no property overrides
      have hne : a.1 ≠ k := fun he => hq (k, v) ((mem_insertSorted h).mpr (.inl rfl)) he.symm
      refine .inr ⟨.inl ⟨hb, fun q hq' he => hq q ((mem_insertSorted h).mpr (.inr ⟨hq', he ▸ hne⟩)) he⟩,
        hne⟩
    · exact .inl rfl
    · exact .inr ⟨.inr hp, hne⟩
  · rintro (rfl | ⟨⟨hb, hq⟩ | hp, hne⟩)
    · exact .inr (.inl rfl)
    · refine .inl ⟨hb, fun q hq' => ?_⟩
      rcases (mem_insertSorted h).mp hq' with rfl | ⟨hq', -⟩
      · exact Ne.symm hne
      · exact hq q hq'
    · exact .inr (.inr ⟨hp, hne⟩)

/-- Setting a property of a node changes its document only in its
properties object. -/
theorem toJson_withProperty (c : NodeTree) (k : String) (v : Json.Value) :
    (c.withProperty k v).toJson = c.toJson.modifyAt (Json.Value.withMember k v) ["properties"] := by
  obtain ⟨pt, mx, props, ch⟩ := c
  have hprops := propertiesJson_withProperty ⟨pt, mx, props, []⟩ k v
  simp only [withProperty] at hprops
  cases ch <;> simp [withProperty, toJson, Json.Value.modifyAt, Json.Value.withMember, hprops]

end NodeTree

namespace FileNode

/-- The data property a file's bytes are written as. -/
abbrev dataMember (bytes : List UInt8) : Json.Value → Json.Value :=
  Json.Value.withMember Jcr.data (.string (Base64.encode bytes))

/-- Putting the bytes into a document changes, among its children, only
the content child, and that only in its properties. -/
theorem childrenJson_withData (d : NodeDocument) (bytes : List UInt8) :
    NodeTree.childrenJson (withData d bytes).tree.children =
      (NodeTree.childrenJson d.tree.children).map fun m =>
        if m.1 = Jcr.content then (m.1, m.2.modifyAt (dataMember bytes) ["properties"]) else m := by
  obtain ⟨⟨pt, mx, props, cs⟩, hord⟩ := d
  simp only [withData]
  clear hord
  induction cs with
  | nil => rfl
  | cons p cs ih =>
    obtain ⟨k, c⟩ := p
    simp only [List.map_cons, NodeTree.childrenJson] at ih ⊢
    rw [ih]
    by_cases hk : k = Jcr.content
    · have hc := NodeTree.toJson_withProperty c Jcr.data (.string (Base64.encode bytes))
      simp [hk, hc]
    · simp [hk]

/-- **Putting the bytes into a document changes its JSON in one place**: the
properties object of its content child gains the data property. -/
theorem toJson_withData (d : NodeDocument) (bytes : List UInt8) :
    (withData d bytes).toJson =
      d.toJson.modifyAt (dataMember bytes) ["children", Jcr.content, "properties"] := by
  have hchildren := childrenJson_withData d bytes
  obtain ⟨⟨pt, mx, props, ch⟩, hord⟩ := d
  cases ch with
  | nil => simp [withData, NodeDocument.toJson, NodeTree.toJson, Json.Value.modifyAt]
  | cons p cs =>
    simp only [withData, List.map_cons] at hchildren ⊢
    simp only [NodeDocument.toJson, NodeTree.toJson, hchildren]
    simp [Json.Value.modifyAt]

/-- **The document of a file, in full**: a file node with its content child,
versionable if asked, the child holding the media type and the modification
time. -/
theorem document_toJson (f : FileNode) : f.document.toJson =
    .object [("children", .object [(Jcr.content, .object [("properties", .object
        [(Jcr.lastModified, .string f.lastModified.format), (Jcr.mimeType, .string f.mimeType),
          (Jcr.primaryType, .string Jcr.resourceType)])])]),
      ("properties", .object ((if f.versionable then
          [(Jcr.mixinTypes, Json.Value.ofStrings [Jcr.versionableType])] else []) ++
        [(Jcr.primaryType, .string Jcr.fileType)]))] := by
  have h₀ : Jcr.lastModified < Jcr.mimeType := by decide
  have h₁ : Jcr.lastModified < Jcr.primaryType := by decide
  have h₂ : ¬ Jcr.mimeType < Jcr.lastModified := by decide
  have h₃ : Jcr.mimeType ≠ Jcr.lastModified := by decide
  have h₄ : Jcr.mimeType < Jcr.primaryType := by decide
  have h₅ : Jcr.mixinTypes < Jcr.primaryType := by decide
  cases hv : f.versionable <;>
    simp [document, hv, NodeDocument.withProperty, NodeDocument.withChild, NodeDocument.new,
      NodeDocument.withMixin, NodeDocument.withMixins, NodeTree.withProperty, KeyMap.insert,
      KeyMap.empty, insertSorted, NodeDocument.toJson, NodeTree.toJson, NodeTree.childrenJson,
      NodeTree.propertiesJson, Json.Object.insert, h₀, h₁, h₂, h₃, h₄, h₅]

theorem content_json (f : FileNode) (bytes : List UInt8) :
    f.document.toJson.modifyAt (dataMember bytes) ["children", Jcr.content, "properties"] =
    .object [("children", .object [(Jcr.content, .object [("properties", .object
        [(Jcr.data, .string (Base64.encode bytes)),
          (Jcr.lastModified, .string f.lastModified.format), (Jcr.mimeType, .string f.mimeType),
          (Jcr.primaryType, .string Jcr.resourceType)])])]),
      ("properties", .object ((if f.versionable then
          [(Jcr.mixinTypes, Json.Value.ofStrings [Jcr.versionableType])] else []) ++
        [(Jcr.primaryType, .string Jcr.fileType)]))] := by
  have h₁ : Jcr.data < Jcr.lastModified := by decide
  rw [document_toJson]
  simp [Json.Value.modifyAt, Json.Value.withMember, Json.Object.insert, h₁]

/-- The content child once the bytes are put in: its properties, the data
first. -/
abbrev contentChild (f : FileNode) (bytes : List UInt8) : Json.Value :=
  .object [("properties", .object
    [(Jcr.data, .string (Base64.encode bytes)), (Jcr.lastModified, .string f.lastModified.format),
      (Jcr.mimeType, .string f.mimeType), (Jcr.primaryType, .string Jcr.resourceType)])]

theorem contentChild_canonical (f : FileNode) (bytes : List UInt8) :
    (contentChild f bytes).Canonical := by
  refine .object (List.pairwise_singleton _ _) fun p hp => ?_
  rcases List.mem_singleton.mp hp with rfl
  refine .object (KeysAscend.of_keys [Jcr.data, Jcr.lastModified, Jcr.mimeType, Jcr.primaryType]
    (by decide) rfl) fun q hq => ?_
  simp only [List.mem_cons, List.not_mem_nil, or_false] at hq
  rcases hq with rfl | rfl | rfl | rfl <;> exact .string _

/-- **The content child is read back as its bytes.** -/
theorem decodeFileContents_contentChild (f : FileNode) (bytes : List UInt8) :
    decodeFileContents (contentChild f bytes).render = .ok bytes := by
  have hparse := Json.parse_render (contentChild_canonical f bytes)
    (by simp [Json.Value.depth, Json.Value.depthFields, Json.Reader.nestingLimit])
  have hdata : Json.Object.get? [(Jcr.data, Json.Value.string (Base64.encode bytes)),
      (Jcr.lastModified, .string f.lastModified.format), (Jcr.mimeType, .string f.mimeType),
      (Jcr.primaryType, .string Jcr.resourceType)] "jcr:data" = some (.string (Base64.encode bytes)) :=
    rfl
  have hprops : Json.Object.get? [("properties", Json.Value.object
      [(Jcr.data, .string (Base64.encode bytes)), (Jcr.lastModified, .string f.lastModified.format),
        (Jcr.mimeType, .string f.mimeType), (Jcr.primaryType, .string Jcr.resourceType)])] "properties" =
      some (.object [(Jcr.data, .string (Base64.encode bytes)),
        (Jcr.lastModified, .string f.lastModified.format), (Jcr.mimeType, .string f.mimeType),
        (Jcr.primaryType, .string Jcr.resourceType)]) := rfl
  simp only [decodeFileContents, parseObject, parseBody, hparse]
  simp only [Json.Value.get?, hprops, Option.bind_some, hdata, decodeBinary_encode]

theorem content_json_canonical (f : FileNode) (bytes : List UInt8) :
    (f.document.toJson.modifyAt (dataMember bytes) ["children", Jcr.content, "properties"]).Canonical := by
  rw [content_json]
  have hchild : Json.Value.Canonical (.object [(Jcr.content, contentChild f bytes)]) :=
    .object (List.pairwise_singleton _ _) fun p hp => by
      rcases List.mem_singleton.mp hp with rfl
      exact contentChild_canonical f bytes
  refine .object (KeysAscend.of_keys ["children", "properties"] (by decide) rfl) fun p hp => ?_
  simp only [List.mem_cons, List.not_mem_nil, or_false] at hp
  rcases hp with rfl | rfl
  · exact hchild
  · cases f.versionable
    · exact .object (List.pairwise_singleton _ _) fun q hq => by
        rcases List.mem_singleton.mp (by simpa using hq) with rfl
        exact .string _
    · refine .object (KeysAscend.of_keys [Jcr.mixinTypes, Jcr.primaryType] (by decide) rfl)
        fun q hq => ?_
      simp only [if_true, List.singleton_append, List.mem_cons, List.not_mem_nil, or_false] at hq
      rcases hq with rfl | rfl
      · exact .array fun w hw => by
          simp only [List.map_cons, List.map_nil, List.mem_singleton] at hw
          exact hw ▸ .string _
      · exact .string _

theorem content_json_depth (f : FileNode) (bytes : List UInt8) :
    (f.document.toJson.modifyAt (dataMember bytes) ["children", Jcr.content, "properties"]).depth <
      Json.Reader.nestingLimit := by
  rw [content_json]
  cases f.versionable <;>
    simp [Json.Value.depth, Json.Value.depthFields, Json.Value.depthItems, Json.Value.ofStrings,
      Json.Reader.nestingLimit]

/-- **The body written for a file is its document with the bytes added**:
read as UTF-8 and parsed, it is the document's JSON with one change, the
data property added to the properties of the content child, which had
none; and the content child, written out, is read back as the bytes. -/
theorem content_adds_data (fs : LocalFiles) (f : FileNode) {bytes : List UInt8}
    (hread : fs.read f.file = .ok bytes) :
    ∃ body text, content fs f = .ok body ∧ Text.ofUtf8? body = some text ∧
      Json.parse text =
        .ok (f.document.toJson.modifyAt (dataMember bytes) ["children", Jcr.content, "properties"]) ∧
      (∃ props, f.document.toJson.at? ["children", Jcr.content, "properties"] = some (.object props) ∧
        Json.Object.get? props Jcr.data = none) ∧
      ∃ child, (f.document.toJson.modifyAt (dataMember bytes)
          ["children", Jcr.content, "properties"]).at? ["children", Jcr.content] = some child ∧
        decodeFileContents child.render = .ok bytes := by
  have hjson := toJson_withData f.document bytes
  refine ⟨(withData f.document bytes).toBytes, (withData f.document bytes).toJson.render,
    by simp [content, hread], ?_, ?_, ?_, ?_⟩
  · exact Text.ofUtf8?_utf8 _
  · rw [hjson]
    exact Json.parse_render (content_json_canonical f bytes) (content_json_depth f bytes)
  · rw [document_toJson]
    refine ⟨_, rfl, ?_⟩
    rfl
  · refine ⟨contentChild f bytes, ?_, decodeFileContents_contentChild f bytes⟩
    rw [content_json]
    rfl

/-- A one-byte file `b` in the working directory: its body is its document
with the byte added. -/
theorem content_adds_data_one_byte :
    let fs : LocalFiles := ⟨[(["b"], .file [121] 0)]⟩
    let f : FileNode :=
      ⟨⟨"w", ⟨"r", Server.new "a:/" "u" "p"⟩⟩, "/docs", "b", "b", false, "text/plain", ⟨0⟩⟩
    ∃ body text, content fs f = .ok body ∧ Text.ofUtf8? body = some text ∧
      Json.parse text =
        .ok (f.document.toJson.modifyAt (dataMember [121]) ["children", Jcr.content, "properties"]) ∧
      (∃ props, f.document.toJson.at? ["children", Jcr.content, "properties"] = some (.object props) ∧
        Json.Object.get? props Jcr.data = none) ∧
      ∃ child, (f.document.toJson.modifyAt (dataMember [121])
          ["children", Jcr.content, "properties"]).at? ["children", Jcr.content] = some child ∧
        decodeFileContents child.render = .ok [121] := by
  intro fs f
  have hsplit : "b".splitOn "/" = ["b"] := by
    rw [String.splitOn, if_neg (by decide), String.splitOnAux, if_neg (by decide), if_neg (by decide),
      String.splitOnAux, if_pos (by decide)]
    decide
  have hread : fs.read f.file = .ok [121] := by
    simp [fs, f, LocalFiles.read, LocalFiles.stat, hsplit, LocalFiles.walk, LocalFiles.entryAt,
      LocalFiles.entry?]
    decide +kernel
  exact content_adds_data fs f hread

end FileNode

end ContentPublish
