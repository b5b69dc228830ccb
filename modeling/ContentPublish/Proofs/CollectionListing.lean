import ContentPublish.Codec
import ContentPublish.Proofs.JsonNesting

/-
  Listings of repositories and workspaces

  A server lists the repositories it holds, and a repository its
  workspaces, in one of two shapes. The second protocol answers an object
  whose member (`repositories` or `workspaces`) is an array of entries, each
  an object naming one item under `name`; the first answers an object keyed
  by the names themselves, in which that member, if present, is no array.
  The decoder reads whichever shape it is given: the entries' names in
  their order, or the object's keys, which the reader keeps in ascending
  order. A listing of distinct names in the one shape and an object keyed by
  the same names in the other are read as the same items.

  This holds of every listing whose objects keep their keys in ascending
  order and whose entries each parse on their own, doubles and all: the
  reader takes the listing's text as the listing with its numbers reread,
  which changes neither a name nor a key. Only nesting is bounded: an entry
  nesting as deep as the reader's limit makes the whole listing unreadable,
  whatever its names.

  What is stated here:
    1. `entriesListing`, `NamedEntries` and `KeyedListing` — the two shapes.
    2. `collectionNames_entries` and `collectionNames_keyed` — the names
       either shape is read as.
    3. `listings_decode_to_names` — both decoders, on both shapes, and the
       same items from both.
    4. `decodeRepositories_too_deep` — a listing nesting as deep as the
       reader's limit is refused.
-/

namespace ContentPublish

open Json

/-! ## The two shapes of a listing -/

/-- A listing in the second protocol: the entries under `key`, in order. -/
def entriesListing (key : String) (entries : List Object) : Value :=
  .object [(key, .array (entries.map .object))]

/-- Entries naming the items in order, each with its keys in order, its text
parsing on its own, and room for the two levels of the listing around it. -/
structure NamedEntries (entries : List Object) (names : List String) : Prop where
  ordered : ∀ e ∈ entries, (Value.object e).Ordered
  parses : ∀ e ∈ entries, ∃ w, parse (Value.object e).render = .ok w
  names : entries.map (fun e => e.get? "name") = names.map fun n => some (.string n)
  depth : ∀ e ∈ entries, (Value.object e).depth + 2 < Reader.nestingLimit

/-- A listing in the first protocol: an object keyed by the items' names,
with its keys in order and its text parsing, whose member `key`, if any, is
no array. -/
structure KeyedListing (key : String) (doc : Object) : Prop where
  ordered : (Value.object doc).Ordered
  parses : ∃ w, parse (Value.object doc).render = .ok w
  depth : (Value.object doc).depth < Reader.nestingLimit
  not_array : ∀ items, doc.get? key ≠ some (.array items)

theorem entryNames_of_names (key body : String) :
    ∀ (items : List Value) (names : List String),
      items.map (fun v => v.get? "name") = names.map (fun n => some (.string n)) →
      entryNames key body items = .ok names
  | [], [], _ => rfl
  | [], _ :: _, h => by simp at h
  | _ :: _, [], h => by simp at h
  | v :: items, n :: names, h => by
    simp only [List.map_cons, List.cons.injEq] at h
    rw [entryNames, h.1, entryNames_of_names key body items names h.2]

/-- The text of an object in key order that parses is read as the object of
its reread members. -/
theorem parseObject_render {doc : Object} (hv : (Value.object doc).Ordered)
    (hdepth : (Value.object doc).depth < Reader.nestingLimit)
    (hparse : ∃ w, parse (Value.object doc).render = .ok w) :
    ∃ doc', Value.rereadFields doc = some doc' ∧
      parseObject (Value.object doc).render = .ok doc' := by
  obtain ⟨w, hw⟩ := hparse
  obtain ⟨doc', hre, rfl⟩ :=
    Value.reread_object ((parse_render_eq_ok_iff_reread hv hdepth w).mp hw)
  exact ⟨doc', hre, by simp [parseObject, parseBody, hw]⟩

/-- A body that does not parse is no listing: its parse error is passed on. -/
theorem collectionNames_of_parse_error {body : String} (key : String) {e : SyntaxError}
    (h : parse body = .error e) : collectionNames body key = .error (.malformedJson e body) := by
  simp [collectionNames, parseObject, parseBody, h]

theorem depth_entriesListing (key : String) (entries : List Object) :
    (entriesListing key entries).depth =
      Value.depthItems (entries.map .object) + 2 := by
  simp [entriesListing, Value.depth, Value.depthFields]

/-- A listing keeps its keys in order when each of its entries does. -/
theorem entriesListing_ordered (key : String) {entries : List Object}
    (h : ∀ e ∈ entries, (Value.object e).Ordered) : (entriesListing key entries).Ordered :=
  .object (List.pairwise_singleton _ _) fun p hp => by
    simp only [List.mem_singleton] at hp
    subst hp
    exact .array fun v hv => by
      obtain ⟨e, he, rfl⟩ := List.mem_map.mp hv
      exact h e he

/-- Entries that are each reread are reread together, each name as it was:
a name is a string, which rereading keeps. -/
theorem rereadItems_entries {entries : List Object}
    (h : ∀ e ∈ entries, ∃ w, (Value.object e).reread = some w) :
    ∃ ws, Value.rereadItems (entries.map .object) = some ws ∧
      ws.map (fun w => w.get? "name") = entries.map fun e => (e.get? "name").bind Value.reread := by
  induction entries with
  | nil => exact ⟨[], rfl, rfl⟩
  | cons e es ih =>
    obtain ⟨w, hw⟩ := h e List.mem_cons_self
    obtain ⟨ws, hws, hnames⟩ := ih fun e' he' => h e' (List.mem_cons_of_mem _ he')
    obtain ⟨e', he', rfl⟩ := Value.reread_object hw
    refine ⟨.object e' :: ws, by simp [Value.rereadItems, hw, hws], ?_⟩
    rw [List.map_cons, List.map_cons, hnames]
    congr 1
    exact Value.rereadFields_get? he' "name"

/-- **A listing of entries is read as their names**, in order. -/
theorem collectionNames_entries (key : String) {entries : List Object} {names : List String}
    (h : NamedEntries entries names) :
    collectionNames (entriesListing key entries).render key = .ok names := by
  have hdepth : Value.depthItems (entries.map .object) + 2 < Reader.nestingLimit := by
    have hle : Value.depthItems (entries.map .object) ≤ Reader.nestingLimit - 3 :=
      Value.depthItems_le fun v hv => by
        obtain ⟨e, he, rfl⟩ := List.mem_map.mp hv
        have := h.depth e he
        omega
    unfold Reader.nestingLimit at hle ⊢
    omega
  -- each entry parses on its own, so it is reread
  have hreread : ∀ e ∈ entries, ∃ w, (Value.object e).reread = some w := fun e he => by
    obtain ⟨w, hw⟩ := h.parses e he
    exact ⟨w, (parse_render_eq_ok_iff_reread (h.ordered e he) (by have := h.depth e he; omega)
      w).mp hw⟩
  obtain ⟨ws, hws, hnames⟩ := rereadItems_entries hreread
  have hlisting : (entriesListing key entries).reread = some (.object [(key, .array ws)]) := by
    simp [entriesListing, Value.reread, Value.rereadFields, hws]
  have hparse := (parse_render_eq_ok_iff_reread (entriesListing_ordered key h.ordered)
    (by rw [depth_entriesListing]; exact hdepth) _).mpr hlisting
  -- the names are strings, which rereading keeps
  have hws_names : ws.map (fun w => w.get? "name") = names.map fun n => some (.string n) := by
    have hsplit : (entries.map fun e => (e.get? "name").bind Value.reread) =
        (entries.map fun e => e.get? "name").map (·.bind Value.reread) := by
      simp [Function.comp_def]
    rw [hnames, hsplit, h.names]
    simp [Function.comp_def]
  simp only [collectionNames, parseObject, parseBody, hparse, Object.get?, List.find?_cons,
    beq_self_eq_true, Option.map_some]
  exact entryNames_of_names key _ ws names hws_names

/-- **An object keyed by names is read as its keys**, when its member `key`
is no array. -/
theorem collectionNames_keyed {key : String} {doc : Object} (h : KeyedListing key doc) :
    collectionNames (Value.object doc).render key = .ok doc.keys := by
  obtain ⟨doc', hre, hparse⟩ := parseObject_render h.ordered h.depth h.parses
  rw [collectionNames, hparse]
  simp only
  rw [Value.rereadFields_get? hre key, Value.rereadFields_keys hre]
  -- the member is absent, or present and reread as no array
  rcases hget : doc.get? key with _ | v
  · rfl
  · rw [Option.bind_some]
    rcases hv : v.reread with _ | w
    · rfl
    · have hw := Value.reread_not_array hv fun items hvi => h.not_array items (hvi ▸ hget)
      cases w with
      | array items => exact absurd rfl (hw items)
      | _ => rfl

/-- The keys of an object in key order ascend. -/
theorem keys_ascend {doc : Object} (h : (Value.object doc).Ordered) :
    doc.keys.Pairwise (· < ·) := by
  rw [Object.keys, List.pairwise_map]
  exact h.keysAscend

/-- Distinct names and the ascending keys of an object keyed by them are the
same names, in another order. -/
theorem keys_perm_names {doc : Object} {names : List String} (h : (Value.object doc).Ordered)
    (hnames : names.Nodup) (hsame : ∀ n, n ∈ names ↔ n ∈ doc.keys) : doc.keys.Perm names :=
  (List.perm_ext_iff_of_nodup ((keys_ascend h).imp ne_of_lt) hnames).mpr fun n => (hsame n).symm

/-! ## Decoding listings -/

/-- **Both shapes of a listing decode to their names.** A listing of entries
is read as the repositories, or the workspaces, they name, in order; an
object keyed by names, whose `repositories` or `workspaces` member is no
array, as the repositories or workspaces of its keys, in ascending order.
Distinct names listed in the one shape and keyed in the other give the same
items, in another order. -/
theorem listings_decode_to_names (s : Server) (r : Repository) {entries : List Object}
    {names : List String} {repos works : Object} (hentries : NamedEntries entries names)
    (hrepos : KeyedListing "repositories" repos) (hworks : KeyedListing "workspaces" works) :
    decodeRepositories s (entriesListing "repositories" entries).render =
        .ok (names.map fun n => ⟨n, s⟩) ∧
      decodeRepositories s (Value.object repos).render = .ok (repos.keys.map fun n => ⟨n, s⟩) ∧
      decodeWorkspaces r (entriesListing "workspaces" entries).render =
        .ok (names.map fun n => ⟨n, r⟩) ∧
      decodeWorkspaces r (Value.object works).render = .ok (works.keys.map fun n => ⟨n, r⟩) ∧
      repos.keys.Pairwise (· < ·) ∧ works.keys.Pairwise (· < ·) ∧
      (names.Nodup → (∀ n, n ∈ names ↔ n ∈ repos.keys) →
        (repos.keys.map fun n => (⟨n, s⟩ : Repository)).Perm (names.map fun n => ⟨n, s⟩)) ∧
      (names.Nodup → (∀ n, n ∈ names ↔ n ∈ works.keys) →
        (works.keys.map fun n => (⟨n, r⟩ : Workspace)).Perm (names.map fun n => ⟨n, r⟩)) := by
  refine ⟨?_, ?_, ?_, ?_, keys_ascend hrepos.ordered, keys_ascend hworks.ordered, ?_, ?_⟩
  · rw [decodeRepositories, collectionNames_entries _ hentries]; rfl
  · rw [decodeRepositories, collectionNames_keyed hrepos]; rfl
  · rw [decodeWorkspaces, collectionNames_entries _ hentries]; rfl
  · rw [decodeWorkspaces, collectionNames_keyed hworks]; rfl
  · intro hnodup hsame
    exact (keys_perm_names hrepos.ordered hnodup hsame).map _
  · intro hnodup hsame
    exact (keys_perm_names hworks.ordered hnodup hsame).map _

/-- The server of the listings below. -/
def localServer : Server := Server.new "http://localhost:8080/resources" "admin" "admin"

/-- The double `1.5`. -/
def oneAndAHalf : Value := .number (.float ⟨0x3FF8000000000000⟩)

/-- Two repositories, one of them named `repositories`, with a double beside
one name; the same two keyed by name, and two workspaces keyed by name, one
of them holding a double. -/
def twoEntries : List Object :=
  [[("name", .string "a"), ("size", oneAndAHalf)], [("name", .string "repositories")]]

def twoKeyed : Object := [("a", .object []), ("repositories", .object [])]

def twoWorkspaces : Object := [("default", oneAndAHalf), ("workspaces", .bool true)]

theorem parse_ok_of_isOk {text : String} (h : (parse text).isOk = true) :
    ∃ w, parse text = .ok w := by
  cases hp : parse text with
  | error e => simp [hp, Except.isOk, Except.toBool] at h
  | ok w => exact ⟨w, rfl⟩

theorem listings_decode_to_names_two :
    NamedEntries twoEntries ["a", "repositories"] ∧ KeyedListing "repositories" twoKeyed ∧
    KeyedListing "workspaces" twoWorkspaces ∧
    (decodeRepositories localServer (entriesListing "repositories" twoEntries).render =
        .ok (["a", "repositories"].map fun n => ⟨n, localServer⟩) ∧
      decodeRepositories localServer (Value.object twoKeyed).render =
        .ok (twoKeyed.keys.map fun n => ⟨n, localServer⟩) ∧
      decodeWorkspaces ⟨"repo", localServer⟩ (entriesListing "workspaces" twoEntries).render =
        .ok (["a", "repositories"].map fun n => ⟨n, ⟨"repo", localServer⟩⟩) ∧
      decodeWorkspaces ⟨"repo", localServer⟩ (Value.object twoWorkspaces).render =
        .ok (twoWorkspaces.keys.map fun n => ⟨n, ⟨"repo", localServer⟩⟩) ∧
      twoKeyed.keys.Pairwise (· < ·) ∧ twoWorkspaces.keys.Pairwise (· < ·) ∧
      (["a", "repositories"].Nodup → (∀ n, n ∈ ["a", "repositories"] ↔ n ∈ twoKeyed.keys) →
        (twoKeyed.keys.map fun n => (⟨n, localServer⟩ : Repository)).Perm
          (["a", "repositories"].map fun n => ⟨n, localServer⟩)) ∧
      (["a", "repositories"].Nodup →
        (∀ n, n ∈ ["a", "repositories"] ↔ n ∈ twoWorkspaces.keys) →
        (twoWorkspaces.keys.map fun n => (⟨n, ⟨"repo", localServer⟩⟩ : Workspace)).Perm
          (["a", "repositories"].map fun n => ⟨n, ⟨"repo", localServer⟩⟩))) := by
  have hempty : (Value.object []).Ordered := .object List.Pairwise.nil fun _ h => by cases h
  -- the entries and listings parse, the double among them too
  have hparse₁ : ∃ w, parse (Value.object [("name", .string "a"), ("size", oneAndAHalf)]).render =
      .ok w := parse_ok_of_isOk (by decide +kernel)
  have hparse₂ : ∃ w, parse (Value.object twoWorkspaces).render = .ok w :=
    parse_ok_of_isOk (by decide +kernel)
  have hentries : NamedEntries twoEntries ["a", "repositories"] := by
    refine ⟨fun e he => ?_, fun e he => ?_, by simp [twoEntries, Object.get?],
      by unfold twoEntries oneAndAHalf; decide⟩
    all_goals simp only [twoEntries, List.mem_cons, List.not_mem_nil, or_false] at he
    · rcases he with rfl | rfl
      · exact .object (by unfold KeysAscend; decide) fun p hp => by
          simp only [List.mem_cons, List.not_mem_nil, or_false] at hp
          rcases hp with rfl | rfl
          · exact .string "a"
          · exact .number _
      · exact .object (List.pairwise_singleton _ _) fun p hp => by
          simp only [List.mem_singleton] at hp
          exact hp ▸ .string "repositories"
    · rcases he with rfl | rfl
      · exact hparse₁
      · exact parse_ok_of_isOk (by decide +kernel)
  have hrepos : KeyedListing "repositories" twoKeyed := by
    refine ⟨.object (by unfold twoKeyed KeysAscend; decide) fun p hp => ?_,
      parse_ok_of_isOk (by decide +kernel), by unfold twoKeyed; decide,
      fun items h => by simp [twoKeyed, Object.get?] at h⟩
    simp only [twoKeyed, List.mem_cons, List.not_mem_nil, or_false] at hp
    rcases hp with rfl | rfl <;> exact hempty
  have hworks : KeyedListing "workspaces" twoWorkspaces := by
    refine ⟨.object (by unfold twoWorkspaces KeysAscend; decide) fun p hp => ?_, hparse₂,
      by unfold twoWorkspaces oneAndAHalf; decide,
      fun items h => by simp [twoWorkspaces, Object.get?] at h⟩
    simp only [twoWorkspaces, List.mem_cons, List.not_mem_nil, or_false] at hp
    rcases hp with rfl | rfl
    · exact .number _
    · exact .bool true
  exact ⟨hentries, hrepos, hworks,
    listings_decode_to_names localServer ⟨"repo", localServer⟩ hentries hrepos hworks⟩

/-! ## Listings nesting too deep -/

/-- Arrays nested `n + 1` deep, the innermost empty. -/
def nestedArrays : Nat → Value
  | 0 => .array []
  | n + 1 => .array [nestedArrays n]

theorem depth_nestedArrays (n : Nat) : (nestedArrays n).depth = n + 1 := by
  induction n with
  | zero => rfl
  | succ n ih => simp [nestedArrays, Value.depth, Value.depthItems, ih]

theorem nestedArrays_readable (n : Nat) : (nestedArrays n).Readable := by
  induction n with
  | zero => exact .array fun _ hv => by simp at hv
  | succ n ih =>
    exact .array fun v hv => by
      simp only [List.mem_singleton] at hv
      exact hv ▸ ih

/-- A listing is in the reader's form when each of its entries is. -/
theorem entriesListing_readable (key : String) {entries : List Object}
    (h : ∀ e ∈ entries, (Value.object e).Readable) : (entriesListing key entries).Readable :=
  .object (List.pairwise_singleton _ _) fun p hp => by
    simp only [List.mem_singleton] at hp
    subst hp
    exact .array fun v hv => by
      obtain ⟨e, he, rfl⟩ := List.mem_map.mp hv
      exact h e he

/-- An entry named `a` whose other member nests 125 arrays deep. -/
def deepEntry : Object := [("name", .string "a"), ("x", nestedArrays 124)]

/-- **A listing nesting as deep as the reader's limit is refused**: with its
one entry named `a`, its text is no repository listing at all. -/
theorem decodeRepositories_too_deep :
    ∃ e, decodeRepositories localServer (entriesListing "repositories" [deepEntry]).render =
      .error e := by
  have hentry : (Value.object deepEntry).Readable :=
    .object (by unfold deepEntry KeysAscend; decide) fun p hp => by
      simp only [deepEntry, List.mem_cons, List.not_mem_nil, or_false] at hp
      rcases hp with rfl | rfl
      · exact .string "a"
      · exact nestedArrays_readable 124
  have hreadable : (entriesListing "repositories" [deepEntry]).Readable :=
    entriesListing_readable "repositories" fun e he => (List.mem_singleton.mp he) ▸ hentry
  -- the entry nests 126 deep, and the listing two more
  have hdeep : Reader.nestingLimit ≤ (entriesListing "repositories" [deepEntry]).depth := by
    rw [depth_entriesListing]
    simp [deepEntry, Value.depth, Value.depthItems, Value.depthFields, depth_nestedArrays,
      Reader.nestingLimit]
  obtain ⟨e, he⟩ := parse_render_deep hreadable hdeep
  exact ⟨_, by rw [decodeRepositories, collectionNames_of_parse_error "repositories" he]; rfl⟩

end ContentPublish
