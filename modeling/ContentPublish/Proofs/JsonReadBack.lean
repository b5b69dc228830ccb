import ContentPublish.Proofs.JsonReading
import ContentPublish.Proofs.KeyOrder
import Mathlib

/-
  Written JSON reads back

  The text of a value with its objects in key order is read back as the
  value with each of its numbers replaced by what the reader takes that
  number's text for alone: the same integer when it fits a word, a double up
  to the rounding of its reading. A number whose text is not read whole
  alone (an integer beyond a word written as such, a double too large for a
  double) is refused inside whatever holds it: the reader stops inside the
  number's text, before a comma or a closing bracket, where no container
  goes on. So the text of such a value parses exactly when each of its
  numbers is read back alone and it nests less deep than the reader allows,
  and then to that value, whatever its doubles are. A value in the form the
  reader builds, each number an integer the reader keeps, is its own
  reread, so its text parses to itself.

  The proof is one induction over the value, its items and its members,
  each read one step at a time (`Proofs/JsonReading`), at a fuel of at least
  the text's length and with room for the value's nesting.

  What is stated here:
    1. `Value.depth`, `Value.Canonical`, `Value.Readable` and `Value.Ordered`
       — nesting, and the forms the reader gives back.
    2. `Value.reread` — the value the text of a value is read back as.
    3. `value_reread` — a value is read back from its text as its reread,
       before any text that ends a number, or refused.
    4. `parse_render_eq_ok_iff_reread` — the text of a value in key order
       parses to exactly its reread.
    5. `Value.Readable.reread_self`, `parse_render_readable` and
       `parse_render` — a value in the reader's form is read back as itself.
    6. `Value.rereadFields_get?` and `Value.reread_not_array` — rereading
       keeps keys, strings and the shape of a value.
    7. `Value.Canonical.mkObject` and `Value.depth_mkObject_le` — objects
       built from members are in the reader's form.
-/

namespace ContentPublish.Json

open Reader

mutual

/-- How deep arrays and objects nest in a value, the value itself counting. -/
def Value.depth : Value → Nat
  | .array items => Value.depthItems items + 1
  | .object fields => Value.depthFields fields + 1
  | _ => 0

/-- The deepest nesting among array items. -/
def Value.depthItems : List Value → Nat
  | [] => 0
  | v :: vs => max v.depth (Value.depthItems vs)

/-- The deepest nesting among object members. -/
def Value.depthFields : List (String × Value) → Nat
  | [] => 0
  | (_, v) :: fs => max v.depth (Value.depthFields fs)

end

/-- A value in the form the reader gives back, numbers aside: every object
holds its keys in ascending order, each once, and no number stands in it. -/
inductive Value.Canonical : Value → Prop
  | null : Value.Canonical .null
  | bool (b : Bool) : Value.Canonical (.bool b)
  | string (s : String) : Value.Canonical (.string s)
  | array {items : List Value} : (∀ v ∈ items, Value.Canonical v) →
      Value.Canonical (.array items)
  | object {fields : List (String × Value)} : KeysAscend fields →
      (∀ p ∈ fields, Value.Canonical p.2) → Value.Canonical (.object fields)

/-- A value in the form the reader gives back, doubles aside: every object
holds its keys in ascending order, each once, and every number is an integer
of the kind the reader keeps, a non-negative one below `2 ^ 64` or a negative
one down to `-2 ^ 63`. -/
inductive Value.Readable : Value → Prop
  | null : Value.Readable .null
  | bool (b : Bool) : Value.Readable (.bool b)
  | nat {n : Nat} : n < 2 ^ 64 → Value.Readable (.number (.nat n))
  | negative {n : Int} : n < 0 → n.natAbs ≤ 2 ^ 63 → Value.Readable (.number (.negative n))
  | string (s : String) : Value.Readable (.string s)
  | array {items : List Value} : (∀ v ∈ items, Value.Readable v) →
      Value.Readable (.array items)
  | object {fields : List (String × Value)} : KeysAscend fields →
      (∀ p ∈ fields, Value.Readable p.2) → Value.Readable (.object fields)

theorem Value.Canonical.readable {v : Value} (hv : v.Canonical) : v.Readable := by
  induction hv with
  | null => exact .null
  | bool b => exact .bool b
  | string s => exact .string s
  | array _ ih => exact .array ih
  | object hasc _ ih => exact .object hasc ih

namespace Value.Readable

theorem items {items : List Value} (h : (Value.array items).Readable) :
    ∀ v ∈ items, v.Readable := by
  cases h with
  | array h => exact h

theorem keysAscend {fields : List (String × Value)} (h : (Value.object fields).Readable) :
    KeysAscend fields := by
  cases h with
  | object h _ => exact h

theorem fields {fields : List (String × Value)} (h : (Value.object fields).Readable) :
    ∀ p ∈ fields, p.2.Readable := by
  cases h with
  | object _ h => exact h

end Value.Readable

/-- A value whose objects hold their keys in ascending order, each once, as
the reader keeps them; its numbers may be any. -/
inductive Value.Ordered : Value → Prop
  | null : Value.Ordered .null
  | bool (b : Bool) : Value.Ordered (.bool b)
  | number (n : Number) : Value.Ordered (.number n)
  | string (s : String) : Value.Ordered (.string s)
  | array {items : List Value} : (∀ v ∈ items, Value.Ordered v) → Value.Ordered (.array items)
  | object {fields : List (String × Value)} : KeysAscend fields →
      (∀ p ∈ fields, Value.Ordered p.2) → Value.Ordered (.object fields)

namespace Value.Ordered

theorem items {items : List Value} (h : (Value.array items).Ordered) :
    ∀ v ∈ items, v.Ordered := by
  cases h with
  | array h => exact h

theorem keysAscend {fields : List (String × Value)} (h : (Value.object fields).Ordered) :
    KeysAscend fields := by
  cases h with
  | object h _ => exact h

theorem fields {fields : List (String × Value)} (h : (Value.object fields).Ordered) :
    ∀ p ∈ fields, p.2.Ordered := by
  cases h with
  | object _ h => exact h

end Value.Ordered

theorem Value.Readable.ordered {v : Value} (hv : v.Readable) : v.Ordered := by
  induction hv with
  | null => exact .null
  | bool b => exact .bool b
  | nat _ => exact .number _
  | negative _ _ => exact .number _
  | string s => exact .string s
  | array _ ih => exact .array ih
  | object hasc _ ih => exact .object hasc ih

mutual

/-- The value the text of a value is read back as: each number as the
reader takes its text alone, `none` where some number's text is not read
whole. -/
def Value.reread : Value → Option Value
  | .number n => n.reread.map .number
  | .array items => (Value.rereadItems items).map .array
  | .object fields => (Value.rereadFields fields).map .object
  | v => some v

/-- The items of an array, each read back. -/
def Value.rereadItems : List Value → Option (List Value)
  | [] => some []
  | v :: vs => v.reread.bind fun w => (Value.rereadItems vs).map (w :: ·)

/-- The members of an object, each value read back under its key. -/
def Value.rereadFields : List (String × Value) → Option (List (String × Value))
  | [] => some []
  | (k, v) :: fs => v.reread.bind fun w => (Value.rereadFields fs).map ((k, w) :: ·)

end

/-! ## Reading back -/

/-- A value that is its own reread, as one with no number, is read back as
itself. -/
theorem reads_back_of_reread_self {v : Value} {r : Step Value} {rest : List Char}
    (hself : v.reread = some v) (h : ∃ off', r = .ok (v, ⟨rest, off'⟩)) :
    (∀ w, v.reread = some w → ∃ off', r = .ok (w, ⟨rest, off'⟩)) ∧
      (v.reread = none → StopsInside r rest) := by
  refine ⟨fun w hw => ?_, fun hw => by simp [hself] at hw⟩
  rw [hself, Option.some.injEq] at hw
  exact hw ▸ h

/-- A container whose item is refused or stuck inside a number is refused. -/
theorem bind_refused {α : Type} {r : Step Value} {rest : List Char}
    (k : Value × Cursor → Step α)
    (hk : ∀ a ch tail o, numberChar ch = true → ∃ e, k (a, ⟨ch :: tail ++ rest, o⟩) = .error e)
    (h : StopsInside r rest) : ∃ e, r.bind k = .error e := by
  rcases h with ⟨e, rfl⟩ | ⟨a, ch, tail, o, hch, rfl⟩
  · exact ⟨e, rfl⟩
  · exact hk a ch tail o hch

theorem keysAscend_of_keys {l l' : List (String × Value)} (hkeys : l.map (·.1) = l'.map (·.1))
    (h : KeysAscend l) : KeysAscend l' := by
  unfold KeysAscend at h ⊢
  rw [← List.pairwise_map (R := (· < ·))] at h ⊢
  exact hkeys ▸ h

mutual

/-- **A value is read back from its text as its reread**, before any text
that ends a number, at a fuel of at least its length and with room for its
nesting; where it is not reread, the reader refuses the text or stops
inside one of its numbers. -/
theorem value_reread : ∀ (v : Value), v.Ordered → ∀ (fuel room : Nat), v.depth < room →
    v.render.toList.length ≤ fuel → ∀ (rest : List Char) (off : Nat), endsNumber rest = true →
    (∀ w, v.reread = some w →
      ∃ off', value fuel room ⟨v.render.toList ++ rest, off⟩ = .ok (w, ⟨rest, off'⟩)) ∧
    (v.reread = none → StopsInside (value fuel room ⟨v.render.toList ++ rest, off⟩) rest)
  | .null, _, _, room, _, hfuel, rest, off, _ =>
    reads_back_of_reread_self rfl (value_null room rest off hfuel)
  | .bool b, _, _, room, _, hfuel, rest, off, _ =>
    reads_back_of_reread_self rfl (value_bool room rest off b hfuel)
  | .string s, _, _, room, _, hfuel, rest, off, _ =>
    reads_back_of_reread_self rfl (value_string room rest off s hfuel)
  | .number n, _, fuel, room, _, hfuel, rest, off, hrest => by
    obtain ⟨f, rfl⟩ : ∃ f, fuel = f + 1 :=
      ⟨fuel - 1, by have := (Value.number n).render_length_pos; omega⟩
    obtain ⟨hsome, hnone⟩ := value_render_number n hrest f room off
    refine ⟨fun w hw => ?_, fun hw => hnone (by simpa [Value.reread] using hw)⟩
    obtain ⟨m, hm, rfl⟩ := Option.map_eq_some_iff.mp (by simpa [Value.reread] using hw)
    exact hsome m hm
  | .array [], _, _, room, hroom, hfuel, rest, off, _ =>
    reads_back_of_reread_self rfl (value_emptyArray room rest off
      (by simpa [Value.depth, Value.depthItems] using hroom) hfuel)
  | .array (v :: vs), hv, fuel, room, hroom, hfuel, rest, off, _ => by
    have hv₁ : v.Ordered := hv.items v List.mem_cons_self
    have hvs : ∀ w ∈ vs, w.Ordered := fun w hw => hv.items w (List.mem_cons_of_mem _ hw)
    have hpos := v.render_length_pos
    rw [length_render_array_cons] at hfuel
    obtain ⟨f, rfl⟩ : ∃ f, fuel = f + 2 := ⟨fuel - 2, by omega⟩
    have hdepth : v.depth < room - 1 ∧ Value.depthItems vs < room - 1 := by
      simp [Value.depth, Value.depthItems] at hroom; omega
    have hr : 1 < room := by simp [Value.depth, Value.depthItems] at hroom; omega
    obtain ⟨hsome₁, hnone₁⟩ := value_reread v hv₁ f (room - 1) hdepth.1 (by omega)
      (itemsTail vs ++ ']' :: rest) (off + '['.utf8Size) (endsNumber_itemsTail vs rest)
    have htail := fun off acc => items_reread vs hvs f (room - 1) hdepth.2 (by omega) rest off acc
    -- the first item is read as whatever it is read as, then the others
    have hfirst := items_first_step f (room - 1) (itemsTail vs ++ ']' :: rest) v
      (off + '['.utf8Size)
    rw [render_array_cons]
    rcases h₁ : v.reread with _ | w₁
    · -- the first item is not reread
      have hnone : (Value.array (v :: vs)).reread = none := by
        simp [Value.reread, Value.rereadItems, h₁]
      refine ⟨fun w hw => by simp [hnone] at hw, fun _ => .inl ?_⟩
      obtain ⟨e, he⟩ := bind_refused (fun p => items f (room - 1) p.2 false [p.1])
        (fun a ch tail o hch => items_stuck f (room - 1) hch _ [a] o) (hnone₁ h₁)
      exact ⟨e, value_array_error _ _ _ (by omega) (hfirst.trans he)⟩
    · obtain ⟨off₁, hv'⟩ := hsome₁ w₁ h₁
      rw [hv'] at hfirst
      simp only [Except.bind] at hfirst
      rcases h₂ : Value.rereadItems vs with _ | ws
      · -- a later item is not reread
        have hnone : (Value.array (v :: vs)).reread = none := by
          simp [Value.reread, Value.rereadItems, h₁, h₂]
        refine ⟨fun w hw => by simp [hnone] at hw, fun _ => .inl ?_⟩
        obtain ⟨e, he⟩ := (htail off₁ [w₁]).2 h₂
        exact ⟨e, value_array_error _ _ _ (by omega) (hfirst.trans he)⟩
      · have hsome : (Value.array (v :: vs)).reread = some (.array (w₁ :: ws)) := by
          simp [Value.reread, Value.rereadItems, h₁, h₂]
        refine ⟨fun w hw => ?_, fun hw => by simp [hsome] at hw⟩
        rw [hsome, Option.some.injEq] at hw
        subst hw
        obtain ⟨off₂, h⟩ := (htail off₁ [w₁]).1 ws h₂
        exact ⟨off₂ + ']'.utf8Size, value_array _ _ _ _ hr (hfirst.trans (by simpa using h))⟩
  | .object [], _, _, room, hroom, hfuel, rest, off, _ =>
    reads_back_of_reread_self rfl (value_emptyObject room rest off
      (by simpa [Value.depth, Value.depthFields] using hroom) hfuel)
  | .object ((k, u) :: ms), hv, fuel, room, hroom, hfuel, rest, off, _ => by
    have hu : u.Ordered := hv.fields (k, u) List.mem_cons_self
    have hms : ∀ p ∈ ms, p.2.Ordered := fun p hp => hv.fields p (List.mem_cons_of_mem _ hp)
    have hq := length_quote k
    rw [length_render_object_cons] at hfuel
    obtain ⟨f, rfl⟩ : ∃ f, fuel = f + 2 := ⟨fuel - 2, by omega⟩
    have hdepth : u.depth < room - 1 ∧ Value.depthFields ms < room - 1 := by
      simp [Value.depth, Value.depthFields] at hroom; omega
    have hr : 1 < room := by simp [Value.depth, Value.depthFields] at hroom; omega
    obtain ⟨o₁, hfirst⟩ := members_first_step f (room - 1)
      (u.render.toList ++ (membersTail ms ++ '\x7d' :: rest)) k (off + '\x7b'.utf8Size)
    obtain ⟨hsome₁, hnone₁⟩ := value_reread u hu f (room - 1) hdepth.1 (by omega)
      (membersTail ms ++ '\x7d' :: rest) o₁ (endsNumber_membersTail ms rest)
    have htail := fun off acc => members_reread ms hms f (room - 1) hdepth.2 (by omega) rest off acc
    rw [render_object_cons]
    rcases h₁ : u.reread with _ | w₁
    · -- the first member's value is not reread
      have hnone : (Value.object ((k, u) :: ms)).reread = none := by
        simp [Value.reread, Value.rereadFields, h₁]
      refine ⟨fun w hw => by simp [hnone] at hw, fun _ => .inl ?_⟩
      obtain ⟨e, he⟩ := bind_refused
        (fun p => members f (room - 1) p.2 false (Object.insert [] k p.1))
        (fun a ch tail o hch => members_stuck f (room - 1) hch _ _ o) (hnone₁ h₁)
      exact ⟨e, value_object_error _ _ _ (by omega) (hfirst.trans he)⟩
    · obtain ⟨o₂, hv'⟩ := hsome₁ w₁ h₁
      rw [hv'] at hfirst
      simp only [Except.bind] at hfirst
      -- the first key goes first; the others ascend after it as they did
      have hasc : KeysAscend ([(k, w₁)] ++ ms) :=
        keysAscend_of_keys (by simp) hv.keysAscend
      rcases h₂ : Value.rereadFields ms with _ | ws
      · -- a later member's value is not reread
        have hnone : (Value.object ((k, u) :: ms)).reread = none := by
          simp [Value.reread, Value.rereadFields, h₁, h₂]
        refine ⟨fun w hw => by simp [hnone] at hw, fun _ => .inl ?_⟩
        obtain ⟨e, he⟩ := (htail o₂ [(k, w₁)] hasc).2 h₂
        exact ⟨e, value_object_error _ _ _ (by omega) (hfirst.trans he)⟩
      · have hsome : (Value.object ((k, u) :: ms)).reread = some (.object ((k, w₁) :: ws)) := by
          simp [Value.reread, Value.rereadFields, h₁, h₂]
        refine ⟨fun w hw => ?_, fun hw => by simp [hsome] at hw⟩
        rw [hsome, Option.some.injEq] at hw
        subst hw
        obtain ⟨off₂, h⟩ := (htail o₂ [(k, w₁)] hasc).1 ws h₂
        exact ⟨off₂ + '\x7d'.utf8Size, value_object _ _ _ _ hr (hfirst.trans h)⟩

/-- **The items after the first are read back as their rereads**, each
behind its comma, or refused. -/
theorem items_reread : ∀ (vs : List Value), (∀ v ∈ vs, v.Ordered) → ∀ (fuel room : Nat),
    Value.depthItems vs < room → (itemsTail vs).length < fuel →
    ∀ (rest : List Char) (off : Nat) (acc : List Value),
    (∀ ws, Value.rereadItems vs = some ws → ∃ off',
      items fuel room ⟨itemsTail vs ++ ']' :: rest, off⟩ false acc =
        .ok (acc.reverse ++ ws, ⟨']' :: rest, off'⟩)) ∧
    (Value.rereadItems vs = none →
      ∃ e, items fuel room ⟨itemsTail vs ++ ']' :: rest, off⟩ false acc = .error e)
  | [], _, fuel, room, _, hfuel, rest, off, acc => by
    obtain ⟨f, rfl⟩ : ∃ f, fuel = f + 1 := ⟨fuel - 1, by omega⟩
    refine ⟨fun ws hws => ⟨off, ?_⟩, fun h => by simp [Value.rereadItems] at h⟩
    simp only [Value.rereadItems, Option.some.injEq] at hws
    subst hws
    simpa [itemsTail] using items_close f room rest false acc off
  | v :: vs, hvs, fuel, room, hroom, hfuel, rest, off, acc => by
    have hv : v.Ordered := hvs v List.mem_cons_self
    have hvs' : ∀ w ∈ vs, w.Ordered := fun w hw => hvs w (List.mem_cons_of_mem _ hw)
    have hlen : v.render.toList.length + (itemsTail vs).length + 1 < fuel := by
      simp only [itemsTail_cons, List.length_cons, List.length_append] at hfuel
      omega
    obtain ⟨f, rfl⟩ : ∃ f, fuel = f + 1 := ⟨fuel - 1, by omega⟩
    have hdepth : v.depth < room ∧ Value.depthItems vs < room := by
      simp [Value.depthItems] at hroom; omega
    have hstep := items_comma_step f room (itemsTail vs ++ ']' :: rest) v acc off
    obtain ⟨hsome₁, hnone₁⟩ := value_reread v hv f room hdepth.1 (by omega)
      (itemsTail vs ++ ']' :: rest) (off + ','.utf8Size) (endsNumber_itemsTail vs rest)
    have htail := fun off acc => items_reread vs hvs' f room hdepth.2 (by omega) rest off acc
    rw [itemsTail_cons, List.cons_append, List.append_assoc]
    rcases h₁ : v.reread with _ | w₁
    · -- this item is not reread
      refine ⟨fun ws hws => by simp [Value.rereadItems, h₁] at hws, fun _ => ?_⟩
      exact (bind_refused (fun p => items f room p.2 false (p.1 :: acc))
        (fun a ch tail o hch => items_stuck f room hch _ (a :: acc) o) (hnone₁ h₁)).imp
        fun e he => hstep.trans he
    · obtain ⟨off₁, hv'⟩ := hsome₁ w₁ h₁
      rw [hv'] at hstep
      simp only [Except.bind] at hstep
      rcases h₂ : Value.rereadItems vs with _ | ws
      · -- a later item is not reread
        refine ⟨fun ws hws => by simp [Value.rereadItems, h₁, h₂] at hws, fun _ => ?_⟩
        exact ((htail off₁ (w₁ :: acc)).2 h₂).imp fun e he => hstep.trans he
      · refine ⟨fun ws' hws => ?_, fun h => by simp [Value.rereadItems, h₁, h₂] at h⟩
        simp only [Value.rereadItems, h₁, h₂, Option.bind_some, Option.map_some,
          Option.some.injEq] at hws
        subst hws
        obtain ⟨off₂, h⟩ := (htail off₁ (w₁ :: acc)).1 ws h₂
        exact ⟨off₂, hstep.trans (by simpa using h)⟩

/-- **The members after the first are read back as their rereads**, each
behind its comma, or refused, when their keys come after those read so far. -/
theorem members_reread : ∀ (ms : List (String × Value)), (∀ p ∈ ms, p.2.Ordered) →
    ∀ (fuel room : Nat), Value.depthFields ms < room → (membersTail ms).length < fuel →
    ∀ (rest : List Char) (off : Nat) (acc : Object), KeysAscend (acc ++ ms) →
    (∀ ws, Value.rereadFields ms = some ws → ∃ off',
      members fuel room ⟨membersTail ms ++ '\x7d' :: rest, off⟩ false acc =
        .ok (acc ++ ws, ⟨'\x7d' :: rest, off'⟩)) ∧
    (Value.rereadFields ms = none →
      ∃ e, members fuel room ⟨membersTail ms ++ '\x7d' :: rest, off⟩ false acc = .error e)
  | [], _, fuel, room, _, hfuel, rest, off, acc, _ => by
    obtain ⟨f, rfl⟩ : ∃ f, fuel = f + 1 := ⟨fuel - 1, by omega⟩
    refine ⟨fun ws hws => ⟨off, ?_⟩, fun h => by simp [Value.rereadFields] at h⟩
    simp only [Value.rereadFields, Option.some.injEq] at hws
    subst hws
    simpa [membersTail] using members_close f room rest false acc off
  | (k, u) :: ms, hms, fuel, room, hroom, hfuel, rest, off, acc, hasc => by
    have hu : u.Ordered := hms (k, u) List.mem_cons_self
    have hms' : ∀ p ∈ ms, p.2.Ordered := fun p hp => hms p (List.mem_cons_of_mem _ hp)
    have hlen : (quote k).toList.length + u.render.toList.length + (membersTail ms).length + 2 <
        fuel := by
      simp only [membersTail_cons, List.length_cons, List.length_append] at hfuel
      omega
    obtain ⟨f, rfl⟩ : ∃ f, fuel = f + 1 := ⟨fuel - 1, by omega⟩
    have hdepth : u.depth < room ∧ Value.depthFields ms < room := by
      simp [Value.depthFields] at hroom; omega
    obtain ⟨o₁, hstep⟩ := members_comma_step f room
      (u.render.toList ++ (membersTail ms ++ '\x7d' :: rest)) k acc off
    obtain ⟨hsome₁, hnone₁⟩ := value_reread u hu f room hdepth.1 (by omega)
      (membersTail ms ++ '\x7d' :: rest) o₁ (endsNumber_membersTail ms rest)
    have htail := fun off acc => members_reread ms hms' f room hdepth.2 (by omega) rest off acc
    rw [membersTail_cons, List.cons_append, List.append_assoc, List.cons_append,
      List.append_assoc]
    rcases h₁ : u.reread with _ | w₁
    · -- this member's value is not reread
      refine ⟨fun ws hws => by simp [Value.rereadFields, h₁] at hws, fun _ => ?_⟩
      exact (bind_refused (fun p => members f room p.2 false (acc.insert k p.1))
        (fun a ch tail o hch => members_stuck f room hch _ _ o) (hnone₁ h₁)).imp
        fun e he => hstep.trans he
    · obtain ⟨o₂, hv'⟩ := hsome₁ w₁ h₁
      -- the key comes after every key read so far, so it is inserted at the end
      have hlt : ∀ p ∈ acc, p.1 < k := fun p hp =>
        (List.pairwise_append.mp hasc).2.2 p hp (k, u) List.mem_cons_self
      have hinsert : acc.insert k w₁ = acc ++ [(k, w₁)] := by
        rw [Object.insert_eq_insertSorted, insertSorted_of_lt hlt]
      have hasc' : KeysAscend (acc ++ [(k, w₁)] ++ ms) := keysAscend_of_keys (by simp) hasc
      rw [hv'] at hstep
      simp only [Except.bind] at hstep
      rw [hinsert] at hstep
      rcases h₂ : Value.rereadFields ms with _ | ws
      · -- a later member's value is not reread
        refine ⟨fun ws hws => by simp [Value.rereadFields, h₁, h₂] at hws, fun _ => ?_⟩
        exact ((htail o₂ (acc ++ [(k, w₁)]) hasc').2 h₂).imp fun e he => hstep.trans he
      · refine ⟨fun ws' hws => ?_, fun h => by simp [Value.rereadFields, h₁, h₂] at h⟩
        simp only [Value.rereadFields, h₁, h₂, Option.bind_some, Option.map_some,
          Option.some.injEq] at hws
        subst hws
        obtain ⟨off₂, h⟩ := (htail o₂ (acc ++ [(k, w₁)]) hasc').1 ws h₂
        exact ⟨off₂, hstep.trans (by simpa using h)⟩

end

/-- **The text of a value in key order parses to exactly its reread**, when
it nests less deep than the reader allows: to the value with each number as
its text is read alone, whatever its doubles, and not at all when some
number's text is not read whole. -/
theorem parse_render_eq_ok_iff_reread {v : Value} (hv : v.Ordered)
    (hdepth : v.depth < Reader.nestingLimit) (w : Value) :
    parse v.render = .ok w ↔ v.reread = some w := by
  obtain ⟨hsome, hnone⟩ := value_reread v hv (2 * v.render.toList.length + 2) Reader.nestingLimit
    hdepth (by omega) [] 0 rfl
  simp only [List.append_nil] at hsome hnone
  rcases hr : v.reread with _ | w'
  · -- refused, or stopped inside a number with its characters left over
    rcases hnone hr with ⟨e, he⟩ | ⟨a, ch, tail, o, hch, he⟩
    · simp [parse, he]
    · simp [parse, he, Cursor.skipSpace, skipSpace_of_not_space (numberChar_ne hch).1]
  · obtain ⟨o, he⟩ := hsome w' hr
    simp [parse, he, Cursor.skipSpace, skipSpace]

/-! ## Values in the reader's form -/

/-- An integer the reader keeps is read alone as itself. -/
theorem Number.reread_nat {n : Nat} (hn : n < 2 ^ 64) : (Number.nat n).reread = some (.nat n) := by
  obtain ⟨off, h⟩ := value_nat hn (show endsNumber [] = true from rfl) 0 0 0
  simp only [List.append_nil] at h
  simp [Number.reread, Number.render, h]

theorem Number.reread_negative {n : Int} (hneg : n < 0) (hlow : n.natAbs ≤ 2 ^ 63) :
    (Number.negative n).reread = some (.negative n) := by
  obtain ⟨off, h⟩ := value_negative hneg hlow (show endsNumber [] = true from rfl) 0 0 0
  simp only [List.append_nil] at h
  simp [Number.reread, Number.render, h]

theorem Value.rereadItems_self {vs : List Value} (h : ∀ v ∈ vs, v.reread = some v) :
    Value.rereadItems vs = some vs := by
  induction vs with
  | nil => rfl
  | cons v vs ih =>
    simp [Value.rereadItems, h v List.mem_cons_self,
      ih fun w hw => h w (List.mem_cons_of_mem _ hw)]

theorem Value.rereadFields_self {fs : List (String × Value)}
    (h : ∀ p ∈ fs, p.2.reread = some p.2) : Value.rereadFields fs = some fs := by
  induction fs with
  | nil => rfl
  | cons p fs ih =>
    obtain ⟨k, v⟩ := p
    simp [Value.rereadFields, h (k, v) List.mem_cons_self,
      ih fun q hq => h q (List.mem_cons_of_mem _ hq)]

/-- **A value in the reader's form is its own reread.** -/
theorem Value.Readable.reread_self {v : Value} (hv : v.Readable) : v.reread = some v := by
  induction hv with
  | null => rfl
  | bool b => rfl
  | nat hn => simp [Value.reread, Number.reread_nat hn]
  | negative hneg hlow => simp [Value.reread, Number.reread_negative hneg hlow]
  | string s => rfl
  | array _ ih => simp [Value.reread, Value.rereadItems_self ih]
  | object _ _ ih => simp [Value.reread, Value.rereadFields_self ih]

/-- **A value in the reader's form is read back from its text as itself**,
before any text that ends a number, at a fuel of at least its length and
with room for its nesting. -/
theorem value_render {v : Value} (hv : v.Readable) (fuel room : Nat) (hroom : v.depth < room)
    (hfuel : v.render.toList.length ≤ fuel) {rest : List Char} (hrest : endsNumber rest = true)
    (off : Nat) :
    ∃ off', value fuel room ⟨v.render.toList ++ rest, off⟩ = .ok (v, ⟨rest, off'⟩) :=
  (value_reread v hv.ordered fuel room hroom hfuel rest off hrest).1 v hv.reread_self

/-- **The text of a value parses to the value**, when its objects keep
their keys in order, its numbers are integers the reader keeps, and it nests
no deeper than the reader allows. -/
theorem parse_render_readable {v : Value} (hv : v.Readable)
    (hdepth : v.depth < Reader.nestingLimit) : parse v.render = .ok v :=
  (parse_render_eq_ok_iff_reread hv.ordered hdepth v).2 hv.reread_self

theorem parse_render {v : Value} (hv : v.Canonical) (hdepth : v.depth < Reader.nestingLimit) :
    parse v.render = .ok v :=
  parse_render_readable hv.readable hdepth

/-! ## What rereading keeps -/

@[simp] theorem Value.reread_string (s : String) : (Value.string s).reread = some (.string s) :=
  rfl

/-- A reread object holds the same keys, each with its value reread. -/
theorem Value.rereadFields_get? {fs ws : List (String × Value)}
    (h : Value.rereadFields fs = some ws) (key : String) :
    Object.get? ws key = (Object.get? fs key).bind Value.reread := by
  induction fs generalizing ws with
  | nil =>
    simp only [Value.rereadFields, Option.some.injEq] at h
    subst h
    rfl
  | cons p fs ih =>
    obtain ⟨k, v⟩ := p
    obtain ⟨w, hw, ws', hws', rfl⟩ : ∃ w, v.reread = some w ∧ ∃ ws', Value.rereadFields fs = some ws' ∧
        (k, w) :: ws' = ws := by
      simpa [Value.rereadFields, Option.bind_eq_some_iff] using h
    by_cases hk : k = key
    · subst hk
      simp [Object.get?, hw]
    · have := ih hws'
      simp only [Object.get?] at this ⊢
      simp [hk, this]

theorem Value.rereadFields_keys {fs ws : List (String × Value)}
    (h : Value.rereadFields fs = some ws) : Object.keys ws = Object.keys fs := by
  induction fs generalizing ws with
  | nil =>
    simp only [Value.rereadFields, Option.some.injEq] at h
    subst h
    rfl
  | cons p fs ih =>
    obtain ⟨k, v⟩ := p
    obtain ⟨w, -, ws', hws', rfl⟩ : ∃ w, v.reread = some w ∧ ∃ ws', Value.rereadFields fs = some ws' ∧
        (k, w) :: ws' = ws := by
      simpa [Value.rereadFields, Option.bind_eq_some_iff] using h
    simpa [Object.keys] using ih hws'

/-- A reread object is an object of the reread members. -/
theorem Value.reread_object {fs : List (String × Value)} {w : Value}
    (h : (Value.object fs).reread = some w) :
    ∃ ws, Value.rereadFields fs = some ws ∧ w = .object ws := by
  obtain ⟨ws, hws, rfl⟩ := Option.map_eq_some_iff.mp (by simpa [Value.reread] using h)
  exact ⟨ws, hws, rfl⟩

/-- A reread array is an array of the reread items. -/
theorem Value.reread_array {vs : List Value} {w : Value} (h : (Value.array vs).reread = some w) :
    ∃ ws, Value.rereadItems vs = some ws ∧ w = .array ws := by
  obtain ⟨ws, hws, rfl⟩ := Option.map_eq_some_iff.mp (by simpa [Value.reread] using h)
  exact ⟨ws, hws, rfl⟩

/-- Only an array is reread as an array. -/
theorem Value.reread_not_array {v w : Value} (h : v.reread = some w)
    (hv : ∀ items, v ≠ .array items) : ∀ items, w ≠ .array items := by
  intro items hw
  subst hw
  cases v with
  | array vs => exact hv vs rfl
  | _ => simp [Value.reread] at h

/-- The items of an array reread one by one, each as its own value. -/
theorem Value.rereadItems_forall₂ {vs ws : List Value} (h : Value.rereadItems vs = some ws) :
    List.Forall₂ (fun v w => v.reread = some w) vs ws := by
  induction vs generalizing ws with
  | nil =>
    simp only [Value.rereadItems, Option.some.injEq] at h
    subst h
    exact .nil
  | cons v vs ih =>
    obtain ⟨w, hw, ws', hws', rfl⟩ : ∃ w, v.reread = some w ∧ ∃ ws', Value.rereadItems vs = some ws' ∧
        w :: ws' = ws := by
      simpa [Value.rereadItems, Option.bind_eq_some_iff] using h
    exact .cons hw (ih hws')


/-! ## Values built from members -/

theorem Value.depthItems_le {vs : List Value} {d : Nat} (h : ∀ v ∈ vs, v.depth ≤ d) :
    Value.depthItems vs ≤ d := by
  induction vs with
  | nil => exact Nat.zero_le d
  | cons v vs ih =>
    rw [Value.depthItems]
    exact max_le (h v List.mem_cons_self) (ih fun w hw => h w (List.mem_cons_of_mem _ hw))

theorem Value.depthFields_le {ms : List (String × Value)} {d : Nat}
    (h : ∀ p ∈ ms, p.2.depth ≤ d) : Value.depthFields ms ≤ d := by
  induction ms with
  | nil => exact Nat.zero_le d
  | cons p ms ih =>
    obtain ⟨k, v⟩ := p
    rw [Value.depthFields]
    exact max_le (h (k, v) List.mem_cons_self) (ih fun q hq => h q (List.mem_cons_of_mem _ hq))

/-- An object built from members nests one deeper than they do. -/
theorem Value.depth_mkObject_le {ms : List (String × Value)} {d : Nat}
    (h : ∀ p ∈ ms, p.2.depth ≤ d) : (Value.mkObject ms).depth ≤ d + 1 := by
  rw [Value.mkObject, Value.depth]
  exact Nat.add_le_add_right
    (Value.depthFields_le fun p hp => h p (Object.mem_of_mem_ofList hp)) 1

/-- **An object built from canonical members is canonical.** -/
theorem Value.Canonical.mkObject {ms : List (String × Value)} (h : ∀ p ∈ ms, p.2.Canonical) :
    (Value.mkObject ms).Canonical :=
  .object (Object.ofList_keysAscend ms) fun p hp => h p (Object.mem_of_mem_ofList hp)
end ContentPublish.Json
