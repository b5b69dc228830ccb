import ContentPublish.Node
import Mathlib.Data.String.Basic
import Mathlib.Data.List.TakeWhile

/-
  Adding segments to the path of a URL

  Every URL the client builds is its server's base URL with segments added,
  each escaped on its own. Once a path has a segment that is not empty (and,
  in a `file` URL, does not start with an empty one), adding a segment that
  is not exactly `.` or `..` appends one segment and touches nothing before
  it: the escaped text, or an empty segment when the text reads `.` once
  its tabs and line breaks are dropped. A text that reads `..` that way is
  the one exception: it removes the segment before it.

  An item path is cut at its slashes into segments, none of them empty, `.`
  or `..`, and none holding a slash; joined back with a slash before each,
  it gives the same segments, and so does every prefix of it.

  What is stated here:
    1. `encodeSegment_eq_dot_iff`, `encodeSegment_eq_dotDot_iff` and
       `slash_not_mem_encodeSegment` — what escaping a segment can give.
    2. `Settled` and `pushSegment_of_settled` — adding a segment to a path
       that has one.
    3. `segmentsOf_eq`, `mem_segmentsOf` and `segmentsOf_joinPath` — the
       segments of an item path and of its prefixes, written by `joinPath`.
    4. `itemUrl_root` and `itemUrl_eq_append` — the URL of an item is the
       items root with the item's segments appended.
-/

namespace ContentPublish

namespace Url

/-! ## Escaping one segment -/

/-- A character is kept as it is, or written as escapes: `%` and at least
two more characters. -/
theorem encodeChar_cases (set : EncodeSet) (c : Char) :
    encodeChar set c = [c] ∨ ∃ rest, encodeChar set c = '%' :: rest ∧ 2 ≤ rest.length := by
  unfold encodeChar
  split
  · exact .inl rfl
  · right
    obtain ⟨b, bs, hb⟩ := List.exists_cons_of_ne_nil (String.utf8EncodeChar_ne_nil (c := c))
    rw [hb, List.flatMap_cons]
    exact ⟨_, rfl, by simp [escapeByte]⟩

theorem encodeChar_ne_nil (set : EncodeSet) (c : Char) : encodeChar set c ≠ [] := by
  rcases encodeChar_cases set c with h | ⟨rest, h, _⟩ <;> simp [h]

theorem encodeWith_eq_nil_iff {set : EncodeSet} {cs : List Char} :
    encodeWith set cs = [] ↔ cs = [] := by
  cases cs with
  | nil => simp [encodeWith]
  | cons c rest => simp [encodeWith, encodeChar_ne_nil]

/-- A character that the set keeps is written as itself. -/
theorem encodeChar_of_kept {set : EncodeSet} {c : Char} (hc : c.toNat < 0x80)
    (hset : set c.toNat = false) : encodeChar set c = [c] := by
  simp [encodeChar, hc, hset]

/-- Escaping gives one dot only from one dot. -/
theorem encodeWith_eq_dot_iff {set : EncodeSet} (hdot : set 0x2E = false) {cs : List Char} :
    encodeWith set cs = ['.'] ↔ cs = ['.'] := by
  constructor
  · intro h
    cases cs with
    | nil => simp [encodeWith] at h
    | cons c rest =>
      simp only [encodeWith, List.flatMap_cons] at h
      rcases encodeChar_cases set c with hc | ⟨more, hc, _⟩
      · rw [hc, List.singleton_append, List.cons.injEq] at h
        rw [h.1, encodeWith_eq_nil_iff.mp h.2]
      · rw [hc] at h
        simp at h
  · rintro rfl
    simp [encodeWith, encodeChar_of_kept (show Char.toNat '.' < 0x80 by decide) hdot]

/-- Escaping gives two dots only from two dots. -/
theorem encodeWith_eq_dotDot_iff {set : EncodeSet} (hdot : set 0x2E = false) {cs : List Char} :
    encodeWith set cs = ['.', '.'] ↔ cs = ['.', '.'] := by
  constructor
  · intro h
    cases cs with
    | nil => simp [encodeWith] at h
    | cons c rest =>
      simp only [encodeWith, List.flatMap_cons] at h
      rcases encodeChar_cases set c with hc | ⟨more, hc, _⟩
      · rw [hc, List.singleton_append, List.cons.injEq] at h
        rw [h.1, (encodeWith_eq_dot_iff hdot).mp h.2]
      · rw [hc] at h
        simp at h
  · rintro rfl
    simp [encodeWith, encodeChar_of_kept (show Char.toNat '.' < 0x80 by decide) hdot]

/-- The characters of a raw segment that a URL keeps: all but tabs and line
breaks. -/
def keptChars (raw : String) : List Char := raw.toList.filter fun c => !Reading.isTabOrNewline c

/-- The set a segment is escaped with. -/
theorem encodeSegment_eq (special : Bool) (raw : String) :
    encodeSegment special raw =
      String.ofList (encodeWith (if special then specialSegmentSet else segmentSet) (keptChars raw)) :=
  rfl

theorem segmentSet_dot (special : Bool) :
    (if special then specialSegmentSet else segmentSet) 0x2E = false := by
  cases special <;> decide

theorem encodeSegment_eq_dot_iff {special : Bool} {raw : String} :
    encodeSegment special raw = "." ↔ keptChars raw = ['.'] := by
  rw [encodeSegment_eq, show "." = String.ofList ['.'] from rfl, String.ofList_inj,
    encodeWith_eq_dot_iff (segmentSet_dot special)]

theorem encodeSegment_eq_dotDot_iff {special : Bool} {raw : String} :
    encodeSegment special raw = ".." ↔ keptChars raw = ['.', '.'] := by
  rw [encodeSegment_eq, show ".." = String.ofList ['.', '.'] from rfl, String.ofList_inj,
    encodeWith_eq_dotDot_iff (segmentSet_dot special)]

theorem upperHex_ne_slash : ∀ d, d < 16 → upperHex d ≠ '/' := by
  decide

/-- A slash is written as an escape by a set that escapes it. -/
theorem slash_not_mem_encodeWith {set : EncodeSet} (hslash : set 0x2F = true) (cs : List Char) :
    '/' ∉ encodeWith set cs := by
  simp only [encodeWith, List.mem_flatMap, not_exists, not_and]
  intro c _ hmem
  by_cases hkept : c.toNat < 0x80 ∧ set c.toNat = false
  · rw [encodeChar, if_pos hkept, List.mem_singleton] at hmem
    subst hmem
    simp [hslash] at hkept
  · -- an escape is `%` and two hex digits
    rw [encodeChar, if_neg hkept] at hmem
    obtain ⟨b, _, hb⟩ := List.mem_flatMap.mp hmem
    have hhi : b.toNat / 16 < 16 := by have := b.toNat_lt; omega
    have hlo : b.toNat % 16 < 16 := Nat.mod_lt _ (by decide)
    simp only [escapeByte, List.mem_cons, List.not_mem_nil, or_false] at hb
    rcases hb with h | h | h
    · exact absurd h (by decide)
    · exact upperHex_ne_slash _ hhi h.symm
    · exact upperHex_ne_slash _ hlo h.symm

/-- A slash inside a segment is always escaped. -/
theorem slash_not_mem_encodeSegment (special : Bool) (raw : String) :
    '/' ∉ (encodeSegment special raw).toList := by
  rw [encodeSegment_eq, String.toList_ofList]
  exact slash_not_mem_encodeWith (by cases special <;> decide) _

/-! ## Adding a segment to a path that has one -/

/-- A path a new segment is appended to: it is neither empty nor only `/`,
and in a `file` URL it does not start with an empty segment. -/
def Settled (file : Bool) (segs : List String) : Prop :=
  isRootOnly segs = false ∧ (file = true → segs.head? ≠ some "")

theorem Settled.ne_nil {file : Bool} {segs : List String} (h : Settled file segs) : segs ≠ [] := by
  rintro rfl
  simp [Settled, isRootOnly] at h

theorem Settled.append {file : Bool} {segs : List String} (h : Settled file segs) (x : String) :
    Settled file (segs ++ [x]) := by
  obtain ⟨a, as, rfl⟩ := List.exists_cons_of_ne_nil h.ne_nil
  refine ⟨by simp [isRootOnly], fun hf => ?_⟩
  simpa using h.2 hf

/-- Leading empty segments of a `file` path: there are none to drop. -/
theorem fileSegments_of_head {segs : List String} (hne : segs ≠ [])
    (hhead : segs.head? ≠ some "") : Reading.fileSegments segs = segs := by
  obtain ⟨a, as, rfl⟩ := List.exists_cons_of_ne_nil hne
  have ha : a ≠ "" := fun h => hhead (by simp [h])
  simp [Reading.fileSegments, ha]

/-- The segment a raw text adds to a settled path: its escaped form, or an
empty segment when it reads `.` once its tabs and line breaks are dropped. -/
def addedSegment (special : Bool) (raw : String) : String :=
  if keptChars raw = ['.'] then "" else encodeSegment special raw

theorem slash_not_mem_addedSegment (special : Bool) (raw : String) :
    '/' ∉ (addedSegment special raw).toList := by
  unfold addedSegment
  split
  · simp
  · exact slash_not_mem_encodeSegment special raw

/-- **Adding a segment appends one segment.** On a settled path, a raw
segment that is not exactly `.` or `..` and does not read `..` appends its
added segment and keeps every segment before it. -/
theorem pushSegment_of_settled {special file : Bool} {segs : List String} {raw : String}
    (hs : Settled file segs) (hdot : raw ≠ ".") (hdotdot : raw ≠ "..")
    (hparent : keptChars raw ≠ ['.', '.']) :
    pushSegment special file segs raw = segs ++ [addedSegment special raw] := by
  have hnext : appendSegment file segs (encodeSegment special raw) =
      segs ++ [addedSegment special raw] := by
    by_cases hone : keptChars raw = ['.']
    · simp [appendSegment, addedSegment, hone, encodeSegment_eq_dot_iff, hs.1]
    · have htwo : (encodeSegment special raw == "..") = false := by
        simpa [encodeSegment_eq_dotDot_iff] using hparent
      simp [appendSegment, addedSegment, hone, encodeSegment_eq_dot_iff, htwo, hs.1]
  have happ := hs.append (addedSegment special raw)
  simp only [pushSegment, appendEncoded, hs.1, Bool.and_false, hnext]
  cases file with
  | false => simp [hdot, hdotdot]
  | true => simp [hdot, hdotdot, fileSegments_of_head happ.ne_nil (happ.2 rfl)]

/-- A settled path with raw segments added one by one, none of which reads
`..`: the added segments, in order, after the path. -/
theorem foldl_pushSegment_of_settled {special file : Bool} :
    ∀ {segs : List String} (raws : List String), Settled file segs →
      (∀ raw ∈ raws, raw ≠ "." ∧ raw ≠ ".." ∧ keptChars raw ≠ ['.', '.']) →
      raws.foldl (pushSegment special file) segs = segs ++ raws.map (addedSegment special)
  | _, [], _, _ => by simp
  | segs, raw :: raws, hs, hraws => by
    obtain ⟨h1, h2, h3⟩ := hraws raw List.mem_cons_self
    rw [List.foldl_cons, pushSegment_of_settled hs h1 h2 h3,
      foldl_pushSegment_of_settled raws (hs.append _) fun r hr => hraws r (List.mem_cons_of_mem _ hr)]
    simp

/-- A path holding a segment that is not empty is neither empty nor `/`. -/
theorem isRootOnly_of_mem {segs : List String} {x : String} (hx : x ∈ segs) (hne : x ≠ "") :
    isRootOnly segs = false := by
  cases segs with
  | nil => simp at hx
  | cons a rest =>
    cases rest with
    | nil =>
      rw [List.mem_singleton] at hx
      subst hx
      simp [isRootOnly, hne]
    | cons b more => simp [isRootOnly]

/-- A `file` path after its leading empty segments are dropped is settled,
when it had a segment that is not empty. -/
theorem settled_fileSegments {segs : List String} {x : String} (hx : x ∈ segs) (hne : x ≠ "") :
    Settled true (Reading.fileSegments segs) := by
  have hdrop : segs.dropWhile (· == "") ≠ [] := by
    intro hnil
    have := List.dropWhile_eq_nil_iff.mp hnil x hx
    simp [hne] at this
  obtain ⟨a, rest, hcons⟩ := List.exists_cons_of_ne_nil hdrop
  have ha : a ≠ "" := by
    have := List.head_dropWhile_not (· == "") hdrop
    simp only [hcons, List.head_cons, beq_eq_false_iff_ne] at this
    exact this
  simp only [Reading.fileSegments, hcons]
  exact ⟨isRootOnly_of_mem List.mem_cons_self ha, fun _ => by simp [ha]⟩

/-- The `items` segment settles any path it is added to. -/
theorem settled_pushSegment_items (special file : Bool) (segs : List String) :
    Settled file (pushSegment special file segs "items") := by
  have henc : encodeSegment special "items" = "items" := by cases special <;> decide
  have hnext : appendSegment file segs "items" =
      if isRootOnly segs then ["items"] else segs ++ ["items"] := by
    simp [appendSegment, Reading.isDriveLetter]
  have hmem : "items" ∈ appendSegment file segs "items" := by
    rw [hnext]; split <;> simp
  have hcut : breaksAfterSecond "items" = false := by decide
  simp only [pushSegment, appendEncoded, henc, hcut, Bool.and_false, Bool.false_and]
  cases file with
  | false =>
    refine ⟨isRootOnly_of_mem (x := "items") (by simpa using hmem) (by decide), fun h => by cases h⟩
  | true => exact settled_fileSegments (by simpa using hmem) (by decide)

end Url

/-! ## The segments of an item path -/

/-- No piece of a list cut at `a` holds `a`. -/
theorem List.not_mem_of_mem_splitOn {α : Type} [BEq α] [LawfulBEq α] {a : α} :
    ∀ {xs l : List α}, l ∈ xs.splitOn a → a ∉ l
  | [], l, h => by simp_all [List.splitOn_nil]
  | x :: xs, l, h => by
    rw [List.splitOn_cons_eq_if_modifyHead] at h
    split at h
    · simp only [List.mem_cons] at h
      rcases h with rfl | h
      · simp
      · exact List.not_mem_of_mem_splitOn h
    · next hx =>
      obtain ⟨first, rest, hsplit⟩ := List.exists_cons_of_ne_nil (List.splitOn_ne_nil a xs)
      rw [hsplit, List.modifyHead_cons, List.mem_cons] at h
      have hfirst : a ∉ first := List.not_mem_of_mem_splitOn (by rw [hsplit]; exact List.mem_cons_self)
      rcases h with rfl | h
      · simp only [List.mem_cons, not_or]
        exact ⟨fun hax => hx (by simp [hax]), hfirst⟩
      · exact List.not_mem_of_mem_splitOn (by rw [hsplit]; exact List.mem_cons_of_mem _ h)

/-- The pieces of an item path, before empty pieces and `.` are dropped. -/
theorem splitToList_slash (path : String) :
    path.splitToList (· == '/') = (path.toList.splitOn '/').map String.ofList := by
  rw [String.splitToList_of_valid, List.splitOn_eq_splitOnP]

theorem segmentsOf_eq (path : String) :
    segmentsOf path =
      let pieces := ((path.toList.splitOn '/').map String.ofList).filter fun p => p != "" && p != "."
      if pieces.contains ".." then .error (.invalidUrl ("path traversal is not allowed: " ++ path))
      else .ok pieces := by
  rw [segmentsOf, splitToList_slash]

/-- A segment of an item path is not empty, `.` or `..`, and holds no slash. -/
theorem mem_segmentsOf {path : String} {segs : List String} (h : segmentsOf path = .ok segs)
    {s : String} (hs : s ∈ segs) : s ≠ "" ∧ s ≠ "." ∧ s ≠ ".." ∧ '/' ∉ s.toList := by
  rw [segmentsOf_eq] at h
  simp only at h
  split at h
  · cases h
  · next hdd =>
    cases h
    simp only [List.mem_filter, List.mem_map, Bool.and_eq_true, bne_iff_ne, ne_eq] at hs
    obtain ⟨⟨piece, hpiece, rfl⟩, hne, hdot⟩ := hs
    refine ⟨hne, hdot, fun h => hdd ?_, ?_⟩
    · rw [List.contains_iff_mem, List.mem_filter]
      exact ⟨List.mem_map.mpr ⟨piece, hpiece, h⟩, by decide⟩
    · rw [String.toList_ofList]
      exact List.not_mem_of_mem_splitOn hpiece

/-- The item path whose segments are `segs`: each behind a slash. -/
def joinPath (segs : List String) : String := String.join (segs.map ("/" ++ ·))

@[simp] theorem joinPath_nil : joinPath [] = "" := rfl

theorem joinPath_append_single (segs : List String) (s : String) :
    joinPath (segs ++ [s]) = joinPath segs ++ "/" ++ s := by
  simp [joinPath, String.join_append, String.join_cons, String.join_nil, String.append_assoc]

theorem joinPath_append (l₁ l₂ : List String) : joinPath (l₁ ++ l₂) = joinPath l₁ ++ joinPath l₂ := by
  simp [joinPath, String.join_append]

/-- A path with more segments is a longer text. -/
theorem length_joinPath_lt (l : List String) {more : List String} (h : more ≠ []) :
    (joinPath l).length < (joinPath (l ++ more)).length := by
  obtain ⟨a, rest, rfl⟩ := List.exists_cons_of_ne_nil h
  have hslash : "/".length = 1 := rfl
  simp [joinPath, String.join_cons, String.length_append, hslash]

/-- A path with a prefix of the segments is no longer. -/
theorem length_joinPath_le_of_prefix (base : List String) {l l' : List String} (h : l' <+: l) :
    (joinPath (base ++ l')).length ≤ (joinPath (base ++ l)).length := by
  obtain ⟨rest, rfl⟩ := h
  rw [← List.append_assoc, joinPath_append (base ++ l') rest, String.length_append]
  omega

/-- The path of a URL with segments is the segments joined behind slashes. -/
theorem pathText_segments (u : Url) (segs : List String) :
    ({ u with path := .segments segs } : Url).pathText = joinPath segs := rfl

/-- Cutting a segment followed by more segments at its slashes. -/
theorem splitOn_segments_append (s : String) :
    ∀ segs : List String, '/' ∉ s.toList → (∀ t ∈ segs, '/' ∉ t.toList) →
      (s.toList ++ (joinPath segs).toList).splitOn '/' = s.toList :: segs.map String.toList
  | [], hs, _ => by simp [List.splitOn_eq_singleton hs]
  | t :: segs, hs, hsegs => by
    have ht := hsegs t List.mem_cons_self
    have ih := splitOn_segments_append t segs ht fun u hu => hsegs u (List.mem_cons_of_mem _ hu)
    simp only [joinPath, List.map_cons, String.join_cons, String.toList_append] at ih ⊢
    rw [show ("/" : String).toList = ['/'] from rfl, List.singleton_append, List.cons_append,
      List.splitOn_append_cons_self_of_not_mem hs, ih]

/-- **Joining segments and cutting them again gives them back.** -/
theorem segmentsOf_joinPath {segs : List String}
    (h : ∀ s ∈ segs, s ≠ "" ∧ s ≠ "." ∧ s ≠ ".." ∧ '/' ∉ s.toList) :
    segmentsOf (joinPath segs) = .ok segs := by
  have hpieces : (joinPath segs).toList.splitOn '/' = [] :: segs.map String.toList := by
    cases segs with
    | nil => simp [List.splitOn_nil]
    | cons s rest =>
      have hs := (h s List.mem_cons_self).2.2.2
      have hrest : ∀ t ∈ rest, '/' ∉ t.toList := fun t ht => (h t (List.mem_cons_of_mem _ ht)).2.2.2
      have := splitOn_segments_append s rest hs hrest
      simp only [joinPath, List.map_cons, String.join_cons, String.toList_append] at this ⊢
      rw [show ("/" : String).toList = ['/'] from rfl, List.singleton_append, List.cons_append,
        ← List.nil_append ('/' :: _), List.splitOn_append_cons_self_of_not_mem List.not_mem_nil,
        this]
  have hkept : (segs.filter fun p => p != "" && p != ".") = segs :=
    List.filter_eq_self.mpr fun s hs => by simp [(h s hs).1, (h s hs).2.1]
  rw [segmentsOf_eq, hpieces]
  simp only [List.map_cons, String.ofList_toList, List.map_map, Function.comp_def, List.map_id',
    List.filter_cons, show ("" != "" && "" != ".") = false from rfl, hkept]
  have hdd : ".." ∉ segs := fun hmem => (h ".." hmem).2.2.1 rfl
  simp [hdd]

/-- A path that `joinPath` writes from segments it accepts has those
segments. -/
theorem segmentsOf_of_joinPath {path : String} {segs : List String} (hpath : joinPath segs = path)
    (h : ∀ s ∈ segs, s ≠ "" ∧ s ≠ "." ∧ s ≠ ".." ∧ '/' ∉ s.toList) : segmentsOf path = .ok segs := by
  rw [← hpath]
  exact segmentsOf_joinPath h

/-- The path written from the first `k` segments of an item path has those
segments. -/
theorem segmentsOf_joinPath_take {path : String} {segs : List String}
    (h : segmentsOf path = .ok segs) (k : Nat) :
    segmentsOf (joinPath (segs.take k)) = .ok (segs.take k) :=
  segmentsOf_joinPath fun _ hs => mem_segmentsOf h (List.mem_of_mem_take hs)

theorem segmentsOf_empty : segmentsOf "" = .ok [] := by
  simpa using @segmentsOf_joinPath [] (by simp)

/-! ## Item URLs -/

/-- The URL of the items root, taken apart: the parsed base URL with the
repository, the workspace and `items` added. -/
theorem itemUrl_root {ws : Workspace} {items : Url} (h : ws.itemUrl "" [] = .ok items) :
    ∃ u ss, Url.parse ws.server.baseUrl = .ok u ∧ u.path = .segments ss ∧
      items = { u with path := .segments ([ws.repository.name, ws.name, "items"].foldl
        (Url.pushSegment (Url.isSpecialScheme u.scheme) (u.scheme == "file")) (Url.popIfEmpty ss)) } := by
  simp only [Workspace.itemUrl, segmentsOf_empty, List.append_nil, joinSegments] at h
  rcases hparse : Url.parse ws.server.baseUrl with e | u
  · simp [hparse] at h
  · rcases hpath : u.path with text | ss
    · simp [hparse, Url.pushSegments, hpath] at h
    · simp only [hparse, Url.pushSegments, hpath, Except.ok.injEq] at h
      exact ⟨u, ss, rfl, hpath, h.symm⟩

/-- The items root has a path of segments, and its path text joins them. -/
theorem itemUrl_root_segments {ws : Workspace} {items : Url} (h : ws.itemUrl "" [] = .ok items) :
    ∃ base, items.path = .segments base ∧ items.pathText = joinPath base := by
  obtain ⟨u, ss, -, -, rfl⟩ := itemUrl_root h
  exact ⟨_, rfl, rfl⟩

/-- When the items root has no URL, no item has one: the failure is the
base URL's. -/
theorem itemUrl_of_root_error {ws : Workspace} {e : Error} (h : ws.itemUrl "" [] = .error e)
    {path : String} {segs : List String} (hsegs : segmentsOf path = .ok segs)
    (trailing : List String) : ws.itemUrl path trailing = .error e := by
  simp only [Workspace.itemUrl, segmentsOf_empty, hsegs, joinSegments] at h ⊢
  rcases hparse : Url.parse ws.server.baseUrl with e' | u
  · simpa [hparse] using h
  · rcases hpath : u.path with text | ss
    · simpa [hparse, Url.pushSegments, hpath] using h
    · simp [hparse, Url.pushSegments, hpath] at h

/-- A path with a `..` piece is refused as a traversal. -/
theorem segmentsOf_of_dotDot {path : String} (h : ".." ∈ path.splitToList (· == '/')) :
    segmentsOf path = .error (.invalidUrl ("path traversal is not allowed: " ++ path)) := by
  have hmem : ".." ∈ (path.splitToList (· == '/')).filter fun p => p != "" && p != "." :=
    List.mem_filter.mpr ⟨h, by decide⟩
  simp [segmentsOf, hmem]

/-- A path with a `..` piece is refused. -/
theorem segmentsOf_error_of_dotDot {path : String} (h : ".." ∈ path.splitToList (· == '/')) :
    ∃ e, segmentsOf path = .error e :=
  ⟨_, segmentsOf_of_dotDot h⟩

/-- **The URL of an item is the items root with the item's segments
appended.** For an item path with segments `segs` and trailing segments,
none of which is exactly `.` or `..` or reads `..`, the URL is the items
root with the added segment of each appended, in order. -/
theorem itemUrl_eq_append {ws : Workspace} {items : Url} {base : List String}
    (hitems : ws.itemUrl "" [] = .ok items) (hbase : items.path = .segments base)
    {path : String} {segs trailing : List String} (hsegs : segmentsOf path = .ok segs)
    (hadd : ∀ raw ∈ segs ++ trailing, raw ≠ "." ∧ raw ≠ ".." ∧ Url.keptChars raw ≠ ['.', '.']) :
    ws.itemUrl path trailing = .ok { items with
      path := .segments (base ++ (segs ++ trailing).map
        (Url.addedSegment (Url.isSpecialScheme items.scheme))) } := by
  obtain ⟨u, ss, hparse, hpath, rfl⟩ := itemUrl_root hitems
  simp only [Url.UrlPath.segments.injEq] at hbase
  have hsettled : Url.Settled (u.scheme == "file") base := by
    rw [← hbase, List.foldl_cons, List.foldl_cons, List.foldl_cons, List.foldl_nil]
    exact Url.settled_pushSegment_items _ _ _
  simp only [Workspace.itemUrl, hsegs, joinSegments, hparse, Url.pushSegments, hpath,
    List.append_assoc, List.foldl_append]
  rw [hbase, ← List.foldl_append, Url.foldl_pushSegment_of_settled _ hsettled hadd]

end ContentPublish
