import ContentPublish.Proofs.JsonReadBack

/-
  Nesting beyond the reader's room

  The reader opens an array or an object only while it has room for one
  more, so the text of a value that nests as deep as the room is refused,
  wherever its deepest container stands: the items and members before that
  container are read back as they were written, and reading stops at its
  opening bracket. Together with the read-back of values that nest less
  deep, the text of a value in the reader's form parses exactly when the
  value nests less deep than the limit.

  What is stated here:
    1. `value_render_deep` — the text of a value nesting as deep as the room
       is refused, whatever follows it.
    2. `parse_render_eq_ok_iff` — the text of a value in the reader's form
       parses to it exactly when it nests less deep than the limit.
-/

namespace ContentPublish.Json

/-! ## Values nesting as deep as the room -/

mutual

/-- **The text of a value nesting as deep as the room is refused**,
whatever follows it, at any fuel of at least its length. -/
theorem value_render_deep : ∀ (v : Value), v.Readable → ∀ (fuel room : Nat), 0 < room →
    room ≤ v.depth → v.render.toList.length ≤ fuel → ∀ (rest : List Char) (off : Nat),
    ∃ e, Reader.value fuel room ⟨v.render.toList ++ rest, off⟩ = .error e
  | .null, _, _, _, hpos, hdeep, _, _, _ => by simp [Value.depth] at hdeep; omega
  | .bool _, _, _, _, hpos, hdeep, _, _, _ => by simp [Value.depth] at hdeep; omega
  | .number _, _, _, _, hpos, hdeep, _, _, _ => by simp [Value.depth] at hdeep; omega
  | .string _, _, _, _, hpos, hdeep, _, _, _ => by simp [Value.depth] at hdeep; omega
  | .array [], _, fuel, room, _, hdeep, hfuel, rest, off => by
    obtain ⟨f, rfl⟩ : ∃ f, fuel = f + 1 := ⟨fuel - 1, by simp [Value.render] at hfuel; omega⟩
    have hr : room ≤ 1 := by simpa [Value.depth, Value.depthItems] using hdeep
    simpa [Value.render, Value.renderItems] using Reader.value_array_full f room _ hr off
  | .array (v :: vs), hv, fuel, room, hpos, hdeep, hfuel, rest, off => by
    have hcan := hv.items
    have hv₁ : v.Readable := hcan v List.mem_cons_self
    have hvs : ∀ w ∈ vs, w.Readable := fun w hw => hcan w (List.mem_cons_of_mem _ hw)
    have hhead := v.render_length_pos
    rw [length_render_array_cons] at hfuel
    obtain ⟨f, rfl⟩ : ∃ f, fuel = f + 2 := ⟨fuel - 2, by omega⟩
    rw [render_array_cons]
    by_cases hr : room ≤ 1
    · exact Reader.value_array_full (f + 1) room _ hr off
    -- the array has room; the deep item is the first one or one after it
    have hdepth : room - 1 ≤ v.depth ∨ room - 1 ≤ Value.depthItems vs := by
      simp [Value.depth, Value.depthItems] at hdeep; omega
    have hstep := Reader.items_first_step f (room - 1) (itemsTail vs ++ ']' :: rest) v
      (off + '['.utf8Size)
    by_cases hfirst : room - 1 ≤ v.depth
    · obtain ⟨e, h⟩ := value_render_deep v hv₁ f (room - 1) (by omega) hfirst (by omega)
        (itemsTail vs ++ ']' :: rest) (off + '['.utf8Size)
      exact ⟨e, Reader.value_array_error _ _ _ (by omega) (by rw [hstep, h]; rfl)⟩
    · obtain ⟨off₁, h₁⟩ := value_render hv₁ f (room - 1) (by omega) (by omega)
        (endsNumber_itemsTail vs rest) (off + '['.utf8Size)
      obtain ⟨e, h₂⟩ := items_deep vs hvs f (room - 1) (by omega) (by omega) (by omega) rest
        off₁ [v]
      exact ⟨e, Reader.value_array_error _ _ _ (by omega) (by rw [hstep, h₁]; exact h₂)⟩
  | .object [], _, fuel, room, _, hdeep, hfuel, rest, off => by
    obtain ⟨f, rfl⟩ : ∃ f, fuel = f + 1 := ⟨fuel - 1, by simp [Value.render] at hfuel; omega⟩
    have hr : room ≤ 1 := by simpa [Value.depth, Value.depthFields] using hdeep
    simpa [Value.render, Value.renderMembers] using Reader.value_object_full f room _ hr off
  | .object ((k, w) :: ms), hv, fuel, room, hpos, hdeep, hfuel, rest, off => by
    have hfs := hv.fields
    have hw : w.Readable := hfs (k, w) List.mem_cons_self
    have hms : ∀ p ∈ ms, p.2.Readable := fun p hp => hfs p (List.mem_cons_of_mem _ hp)
    have hq := length_quote k
    rw [length_render_object_cons] at hfuel
    obtain ⟨f, rfl⟩ : ∃ f, fuel = f + 2 := ⟨fuel - 2, by omega⟩
    rw [render_object_cons]
    by_cases hr : room ≤ 1
    · exact Reader.value_object_full (f + 1) room _ hr off
    -- the object has room; the deep value is the first member's or one after it
    have hdepth : room - 1 ≤ w.depth ∨ room - 1 ≤ Value.depthFields ms := by
      simp [Value.depth, Value.depthFields] at hdeep; omega
    obtain ⟨o, hstep⟩ := Reader.members_first_step f (room - 1)
      (w.render.toList ++ (membersTail ms ++ '\x7d' :: rest)) k (off + '\x7b'.utf8Size)
    by_cases hfirst : room - 1 ≤ w.depth
    · obtain ⟨e, h⟩ := value_render_deep w hw f (room - 1) (by omega) hfirst (by omega) _ o
      exact ⟨e, Reader.value_object_error _ _ _ (by omega) (by rw [hstep, h]; rfl)⟩
    · obtain ⟨off₁, h₁⟩ := value_render hw f (room - 1) (by omega) (by omega)
        (endsNumber_membersTail ms rest) o
      obtain ⟨e, h₂⟩ := members_deep ms hms f (room - 1) (by omega) (by omega) (by omega) rest
        off₁ (Object.insert [] k w)
      exact ⟨e, Reader.value_object_error _ _ _ (by omega) (by rw [hstep, h₁]; exact h₂)⟩

/-- **Items after the first that nest as deep as the room are refused.** -/
theorem items_deep : ∀ (vs : List Value), (∀ v ∈ vs, v.Readable) → ∀ (fuel room : Nat),
    0 < room → room ≤ Value.depthItems vs → (itemsTail vs).length < fuel →
    ∀ (rest : List Char) (off : Nat) (acc : List Value),
    ∃ e, Reader.items fuel room ⟨itemsTail vs ++ ']' :: rest, off⟩ false acc = .error e
  | [], _, _, _, hpos, hdeep, _, _, _, _ => by simp [Value.depthItems] at hdeep; omega
  | v :: vs, hvs, fuel, room, hpos, hdeep, hfuel, rest, off, acc => by
    have hv : v.Readable := hvs v List.mem_cons_self
    have hvs' : ∀ w ∈ vs, w.Readable := fun w hw => hvs w (List.mem_cons_of_mem _ hw)
    have hlen : v.render.toList.length + (itemsTail vs).length + 1 < fuel := by
      simp only [itemsTail_cons, List.length_cons, List.length_append] at hfuel
      omega
    obtain ⟨f, rfl⟩ : ∃ f, fuel = f + 1 := ⟨fuel - 1, by omega⟩
    rw [itemsTail_cons, List.cons_append, List.append_assoc]
    -- the deep item is this one or one after it
    have hstep := Reader.items_comma_step f room (itemsTail vs ++ ']' :: rest) v acc off
    by_cases hthis : room ≤ v.depth
    · obtain ⟨e, h⟩ := value_render_deep v hv f room hpos hthis (by omega) _ (off + ','.utf8Size)
      exact ⟨e, by rw [hstep, h]; rfl⟩
    · have hrest : room ≤ Value.depthItems vs := by
        simp [Value.depthItems] at hdeep; omega
      obtain ⟨off₁, h₁⟩ := value_render hv f room (by omega) (by omega)
        (endsNumber_itemsTail vs rest) (off + ','.utf8Size)
      obtain ⟨e, h₂⟩ := items_deep vs hvs' f room hpos hrest (by omega) rest off₁ (v :: acc)
      exact ⟨e, by rw [hstep, h₁]; exact h₂⟩

/-- **Members after the first whose values nest as deep as the room are
refused.** -/
theorem members_deep : ∀ (ms : List (String × Value)), (∀ p ∈ ms, p.2.Readable) →
    ∀ (fuel room : Nat), 0 < room → room ≤ Value.depthFields ms →
    (membersTail ms).length < fuel → ∀ (rest : List Char) (off : Nat) (acc : Object),
    ∃ e, Reader.members fuel room ⟨membersTail ms ++ '\x7d' :: rest, off⟩ false acc = .error e
  | [], _, _, _, hpos, hdeep, _, _, _, _ => by simp [Value.depthFields] at hdeep; omega
  | (k, w) :: ms, hms, fuel, room, hpos, hdeep, hfuel, rest, off, acc => by
    have hw : w.Readable := hms (k, w) List.mem_cons_self
    have hms' : ∀ p ∈ ms, p.2.Readable := fun p hp => hms p (List.mem_cons_of_mem _ hp)
    have hlen : (quote k).toList.length + w.render.toList.length + (membersTail ms).length + 2 <
        fuel := by
      simp only [membersTail_cons, List.length_cons, List.length_append] at hfuel
      omega
    obtain ⟨f, rfl⟩ : ∃ f, fuel = f + 1 := ⟨fuel - 1, by omega⟩
    rw [membersTail_cons, List.cons_append, List.append_assoc, List.cons_append, List.append_assoc]
    -- the deep value is this member's or one after it
    obtain ⟨o, hstep⟩ := Reader.members_comma_step f room
      (w.render.toList ++ (membersTail ms ++ '\x7d' :: rest)) k acc off
    by_cases hthis : room ≤ w.depth
    · obtain ⟨e, h⟩ := value_render_deep w hw f room hpos hthis (by omega) _ o
      exact ⟨e, by rw [hstep, h]; rfl⟩
    · have hrest : room ≤ Value.depthFields ms := by
        simp [Value.depthFields] at hdeep; omega
      obtain ⟨off₁, h₁⟩ := value_render hw f room (by omega) (by omega)
        (endsNumber_membersTail ms rest) o
      obtain ⟨e, h₂⟩ := members_deep ms hms' f room hpos hrest (by omega) rest off₁
        (acc.insert k w)
      exact ⟨e, by rw [hstep, h₁]; exact h₂⟩

end

/-- **The text of a value nesting as deep as the limit does not parse.** -/
theorem parse_render_deep {v : Value} (hv : v.Readable) (hdeep : Reader.nestingLimit ≤ v.depth) :
    ∃ e, parse v.render = .error e := by
  obtain ⟨e, h⟩ := value_render_deep v hv (2 * v.render.toList.length + 2) Reader.nestingLimit
    (by decide) hdeep (by omega) [] 0
  simp only [List.append_nil] at h
  simp [parse, h]

/-- **The text of a value in the reader's form parses to it exactly when the
value nests less deep than the limit.** -/
theorem parse_render_eq_ok_iff {v : Value} (hv : v.Readable) :
    parse v.render = .ok v ↔ v.depth < Reader.nestingLimit := by
  constructor
  · intro hparse
    by_contra hdeep
    obtain ⟨e, he⟩ := parse_render_deep hv (by omega)
    rw [he] at hparse
    cases hparse
  · exact parse_render_readable hv

end ContentPublish.Json
