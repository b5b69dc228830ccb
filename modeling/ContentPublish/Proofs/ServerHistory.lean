import ContentPublish.Proofs.RunShapes

/-
  The history of a tree server

  Whatever requests reach a tree server, and in whatever order, each one is
  answered from the node store alone. Without deletes the store only grows,
  and a node appears only through a create answered `201`, made while the
  node was missing and its parent present. So along any history without
  deletes the nodes stay closed under parents, every answer is a response,
  and a node once shown present is never read as missing again. These are
  the facts that runs against one server share, whoever sent each request.

  The transport of a session is deterministic. From a given state, the
  requests of a history fix its answers, so a run's exchanges are fixed by
  the world it starts in.

  What is stated here:
    1. `Answers.split`, `Answers.cons_inv`, `Answers.unique` and
       `Talked.unique` — a history splits at any point and is fixed by its
       requests.
    2. `Exchange.Creates`, with `store_get`, `store_put`, `store_post`,
       `mem_store_nodes` and `store_closed` — one request to the store.
    3. `TreeServer.respond_eq`, `mem_respond`, `mem_of_shows`,
       `not_mem_of_readsMissing`, `put_answer` and `post_refused` — one
       request to the tree server.
    4. `Answers.nodes_mono`, `created_of_new`, `created_after_read`,
       `closed`, `mem_of_shows`, `not_readsMissing` and
       `consistent` — a whole history without deletes, and
       `Consistent.sublist` for part of it.
-/

namespace ContentPublish

/-! ## Histories are fixed by their requests -/

namespace Answers

variable {σ : Type} {t : Transport σ} {server : Server}

/-- A history splits where its exchanges do. -/
theorem split : ∀ {s s'' : σ} {xs ys : List Exchange}, Answers t server s (xs ++ ys) s'' →
    ∃ s', Answers t server s xs s' ∧ Answers t server s' ys s''
  | s, _, [], _, h => ⟨s, .nil s, h⟩
  | _, _, _ :: _, _, .cons hr rest =>
    have ⟨s', h₁, h₂⟩ := split rest
    ⟨s', .cons hr h₁, h₂⟩

/-- The first exchange of a history, and the rest. -/
theorem cons_inv {s s'' : σ} {x : Exchange} {xs : List Exchange}
    (h : Answers t server s (x :: xs) s'') :
    ∃ s', t.respond server x.request s = (x.answer, s') ∧ Answers t server s' xs s'' := by
  cases h with
  | cons hr rest => exact ⟨_, hr, rest⟩

/-- **The transport is deterministic**: from one state, the same requests
get the same answers and leave the same state. The induction is on the
first history. -/
theorem unique {s s' s'' : σ} {xs ys : List Exchange} (h₁ : Answers t server s xs s')
    (h₂ : Answers t server s ys s'') (hreq : xs.map (·.request) = ys.map (·.request)) :
    xs = ys ∧ s' = s'' := by
  induction h₁ generalizing ys with
  | nil =>
    cases h₂ with
    | nil => exact ⟨rfl, rfl⟩
    | cons => cases hreq
  | cons hr _ ih =>
    cases h₂ with
    | nil => cases hreq
    | cons hr' rest' =>
      simp only [List.map_cons, List.cons.injEq] at hreq
      obtain ⟨rfl, hreq⟩ := hreq
      -- the first answers agree, and so do the states they leave
      rw [hr] at hr'
      obtain ⟨rfl, rfl⟩ := Prod.mk.inj hr'
      obtain ⟨rfl, rfl⟩ := ih rest' hreq
      exact ⟨rfl, rfl⟩

end Answers

/-- A run from a given world made exactly one list of exchanges: the log
fixes its requests, and the transport their answers. -/
theorem Talked.unique {σ : Type} {t : Transport σ} {server : Server} {w w' : World σ}
    {xs ys : List Exchange} (h₁ : Talked t server w w' xs) (h₂ : Talked t server w w' ys) :
    xs = ys := by
  have hsent : xs.map (fun x => Sent.mk server.user x.request) =
      ys.map (fun x => Sent.mk server.user x.request) :=
    List.append_cancel_left (h₁.sent.symm.trans h₂.sent)
  have hreq : xs.map (·.request) = ys.map (·.request) := by
    simpa [List.map_map, Function.comp_def] using congrArg (List.map Sent.request) hsent
  exact (h₁.answers.unique h₂.answers hreq).1

/-! ## One request to the store -/

/-- The exchange created the node at path `p`: a create of it answered
`201`. -/
def Exchange.Creates (p : String) (x : Exchange) : Prop :=
  x.request.url.pathText = p ∧ x.request.method = .post ∧
    ∃ r, x.answer = .ok r ∧ r.status = statusCreated

theorem Exchange.Creates.shows {p : String} {x : Exchange} (h : x.Creates p) : x.Shows p :=
  ⟨h.1, .inr h.2⟩

namespace MemoryRepository

variable {m : MemoryRepository} {path : String} {body : List UInt8}

theorem store_get (m : MemoryRepository) (path : String) (body : List UInt8) :
    m.store .get path body = (if path ∈ m.nodes then statusOk else 404, m) := by
  simp [store, statusOk]

theorem store_put (m : MemoryRepository) (path : String) (body : List UInt8) :
    m.store .put path body =
      if path ∈ m.nodes then (statusOk, m.write path body) else (404, m) := by
  by_cases h : path ∈ m.nodes <;> simp [store, statusOk, h]

theorem store_post (m : MemoryRepository) (path : String) (body : List UInt8) :
    m.store .post path body = if path ∈ m.nodes ∨ parentPath path ∉ m.nodes then (409, m)
      else (statusCreated, m.create path body) := by
  by_cases h : path ∈ m.nodes ∨ parentPath path ∉ m.nodes
  · rw [if_pos h]
    rcases h with h | h <;> simp [store, h]
  · rw [if_neg h]
    simp only [not_or, not_not] at h
    simp [store, h, statusCreated]

/-- A create answered `201` was of a missing path whose parent is present. -/
theorem store_post_created (h : (m.store .post path body).1 = statusCreated) :
    path ∉ m.nodes ∧ parentPath path ∈ m.nodes := by
  rw [store_post] at h
  by_contra hnot
  rw [if_pos (by tauto)] at h
  cases h

/-- **One request other than a delete adds at most its own path to the
store**, and only by a create answered `201`. -/
theorem mem_store_nodes {method : Method} {q : String} (hdel : method ≠ .delete) :
    q ∈ (m.store method path body).2.nodes ↔
      q ∈ m.nodes ∨ (method = .post ∧ (m.store method path body).1 = statusCreated ∧ q = path) := by
  cases method with
  | get => simp [store_get]
  | put =>
    rw [store_put]
    split <;> simp
  | delete => exact (hdel rfl).elim
  | post =>
    rw [store_post]
    split
    · simp [statusCreated]
    · simp [mem_addPath, or_comm]

/-- One request other than a delete keeps the store closed under parents. -/
theorem store_closed {method : Method} {root : String} (hdel : method ≠ .delete)
    (hclosed : ParentClosed root m.nodes) : ParentClosed root (m.store method path body).2.nodes := by
  intro q hq hne
  rcases (mem_store_nodes hdel).mp hq with hq | ⟨rfl, hst, rfl⟩
  · exact (mem_store_nodes hdel).mpr (.inl (hclosed q hq hne))
  · -- the new node's parent was there when it was created
    exact (mem_store_nodes hdel).mpr (.inl (store_post_created hst).2)

end MemoryRepository

/-! ## One request to the tree server -/

namespace TreeServer

open MemoryRepository

variable {server : Server} {request : Request} {s s' : TreeServer} {answer : Except Error Response}

/-- The tree server answers with the store's status and leaves the store
as it is after the request. -/
theorem respond_eq (hr : transport.respond server request s = (answer, s')) :
    answer = .ok ⟨(s.repo.store request.method request.url.pathText (request.body.getD [])).1, ""⟩ ∧
      s'.repo = (s.repo.store request.method request.url.pathText (request.body.getD [])).2 := by
  obtain ⟨rfl, rfl⟩ := Prod.ext_iff.mp hr
  exact respond_store server request s

/-- A request other than a delete loses no node. -/
theorem mem_respond (hr : transport.respond server request s = (answer, s'))
    (hdel : request.method ≠ .delete) {p : String} (hp : p ∈ s.repo.nodes) : p ∈ s'.repo.nodes := by
  rw [(respond_eq hr).2]
  exact (mem_store_nodes hdel).mpr (.inl hp)

/-- A node the exchange shows present is there after it. -/
theorem mem_of_shows (hr : transport.respond server request s = (answer, s')) {p : String}
    (hshows : (⟨request, answer⟩ : Exchange).Shows p) : p ∈ s'.repo.nodes := by
  obtain ⟨rfl, hrepo⟩ := respond_eq hr
  obtain ⟨rfl, ⟨hget, r, hans, hst⟩ | ⟨hpost, r, hans, hst⟩⟩ := hshows
  · -- a read answered `200` found the node, and changed nothing
    change request.method = .get at hget
    cases hans
    change (s.repo.store request.method request.url.pathText (request.body.getD [])).1 = statusOk at hst
    show request.url.pathText ∈ s'.repo.nodes
    rw [hget, store_get] at hst
    rw [hrepo, hget, store_get]
    by_contra hnot
    simp [hnot, statusOk] at hst
  · -- a create answered `201` added it
    change request.method = .post at hpost
    cases hans
    change (s.repo.store request.method request.url.pathText (request.body.getD [])).1 = statusCreated at hst
    have hdel : request.method ≠ .delete := by rw [hpost]; decide
    show request.url.pathText ∈ s'.repo.nodes
    rw [hrepo, mem_store_nodes hdel]
    exact .inr ⟨hpost, hst, rfl⟩

/-- A node read as missing was not there. -/
theorem not_mem_of_readsMissing (hr : transport.respond server request s = (answer, s'))
    {p : String} (hmiss : (⟨request, answer⟩ : Exchange).ReadsMissing p) : p ∉ s.repo.nodes := by
  obtain ⟨rfl, -⟩ := respond_eq hr
  obtain ⟨hget, rfl, r, hans, hst⟩ := hmiss
  change request.method = .get at hget
  cases hans
  change (s.repo.store request.method request.url.pathText (request.body.getD [])).1 ≠ statusOk at hst
  rw [hget, store_get] at hst
  intro hp
  exact hst (if_pos hp)

/-- An update of a present node answers `200`. -/
theorem put_answer (hr : transport.respond server request s = (answer, s'))
    (hput : request.method = .put) (hin : request.url.pathText ∈ s.repo.nodes) :
    answer = .ok ⟨statusOk, ""⟩ := by
  rw [(respond_eq hr).1, hput, store_put, if_pos hin]

/-- **A create refused while its parent is present was refused with `409`
because its path was there.** -/
theorem post_refused (hr : transport.respond server request s = (answer, s'))
    (hpost : request.method = .post) (hparent : parentPath request.url.pathText ∈ s.repo.nodes)
    (hrefused : ∃ r, answer = .ok r ∧ r.status ≠ statusCreated) :
    answer = .ok ⟨409, ""⟩ ∧ request.url.pathText ∈ s.repo.nodes := by
  obtain ⟨rfl, -⟩ := respond_eq hr
  obtain ⟨r, hans, hst⟩ := hrefused
  cases hans
  simp only [hpost, store_post] at hst ⊢
  by_cases hin : request.url.pathText ∈ s.repo.nodes
  · simp [hin]
  · simp [hin, hparent] at hst

end TreeServer

/-! ## Histories without deletes -/

namespace Answers

open MemoryRepository

variable {server : Server} {s s' : TreeServer} {xs : List Exchange}

/-- Every answer of a tree server is a response: its transport never fails. -/
theorem answered (h : Answers TreeServer.transport server s xs s') :
    ∀ x ∈ xs, ∃ r, x.answer = .ok r := by
  induction h with
  | nil => simp
  | cons hr _ ih =>
    intro x hx
    rcases List.mem_cons.mp hx with rfl | hx
    · exact ⟨_, (TreeServer.respond_eq hr).1⟩
    · exact ih x hx

section

variable (h : Answers TreeServer.transport server s xs s')
  (hdel : ∀ x ∈ xs, x.request.method ≠ .delete)
include h hdel

/-- **Without deletes, the nodes only grow.** -/
theorem nodes_mono {p : String} (hp : p ∈ s.repo.nodes) : p ∈ s'.repo.nodes := by
  induction h with
  | nil => exact hp
  | cons hr _ ih =>
    exact ih (fun x hx => hdel x (List.mem_cons_of_mem _ hx))
      (TreeServer.mem_respond hr (hdel _ List.mem_cons_self) hp)

/-- **Without deletes, a node that appeared was created by one of the
exchanges.** The induction is on the history: either the first request
created it, or it appeared later. -/
theorem created_of_new {p : String} (hnot : p ∉ s.repo.nodes) (hin : p ∈ s'.repo.nodes) :
    ∃ x ∈ xs, x.Creates p := by
  induction h with
  | nil => exact (hnot hin).elim
  | @cons s₀ s₁ s₂ request answer xs hr _ ih =>
    have hdel₀ := hdel _ List.mem_cons_self
    by_cases hp : p ∈ s₁.repo.nodes
    · -- the first request created it
      obtain ⟨rfl, hrepo⟩ := TreeServer.respond_eq hr
      rw [hrepo, mem_store_nodes hdel₀] at hp
      rcases hp with hp | ⟨hpost, hst, rfl⟩
      · exact (hnot hp).elim
      · exact ⟨_, List.mem_cons_self, rfl, hpost, _, rfl, hst⟩
    · obtain ⟨x, hx, hc⟩ := ih (fun x hx => hdel x (List.mem_cons_of_mem _ hx)) hp hin
      exact ⟨x, List.mem_cons_of_mem _ hx, hc⟩

/-- **Without deletes, the nodes stay closed under parents.** -/
theorem closed {root : String} (hclosed : ParentClosed root s.repo.nodes) :
    ParentClosed root s'.repo.nodes := by
  induction h with
  | nil => exact hclosed
  | cons hr _ ih =>
    apply ih fun x hx => hdel x (List.mem_cons_of_mem _ hx)
    rw [(TreeServer.respond_eq hr).2]
    exact store_closed (hdel _ List.mem_cons_self) hclosed

/-- Without deletes, a node that an exchange of the history showed present
is there at its end. -/
theorem mem_of_shows {y : Exchange} {p : String} (hy : y ∈ xs) (hshows : y.Shows p) :
    p ∈ s'.repo.nodes := by
  induction h with
  | nil => cases hy
  | cons hr rest ih =>
    have hdel' := fun x hx => hdel x (List.mem_cons_of_mem _ hx)
    rcases List.mem_cons.mp hy with rfl | hy
    · exact rest.nodes_mono hdel' (TreeServer.mem_of_shows hr hshows)
    · exact ih hdel' hy

/-- Without deletes, a node present at the start is never read as
missing. -/
theorem not_readsMissing {p : String} (hp : p ∈ s.repo.nodes) : ∀ x ∈ xs, ¬ x.ReadsMissing p := by
  induction h with
  | nil => simp
  | cons hr _ ih =>
    intro x hx
    rcases List.mem_cons.mp hx with rfl | hx
    · exact fun hmiss => TreeServer.not_mem_of_readsMissing hr hmiss hp
    · exact ih (fun x hx => hdel x (List.mem_cons_of_mem _ hx))
        (TreeServer.mem_respond hr (hdel _ List.mem_cons_self) hp) x hx

/-- **The answers of a history without deletes agree with a store that only
grows**, from a tree server that holds `root`: neither `root` nor a node
shown present earlier is read as missing. -/
theorem consistent {root : String} (hroot : root ∈ s.repo.nodes) : Consistent root xs := by
  refine ⟨h.not_readsMissing hdel hroot, ?_⟩
  clear hroot
  induction h with
  | nil => exact .nil
  | cons hr rest ih =>
    have hdel' := fun x hx => hdel x (List.mem_cons_of_mem _ hx)
    -- what the first exchange showed is there for the rest of the history
    exact List.pairwise_cons.mpr ⟨fun x hx p hshows =>
      rest.not_readsMissing hdel' (TreeServer.mem_of_shows hr hshows) x hx, ih hdel'⟩

end

/-- **A node read as missing and there at the end of a history was created
after the read**, when nothing after the read deletes. -/
theorem created_after_read {pre post : List Exchange} {g : Exchange} {p : String}
    (h : Answers TreeServer.transport server s (pre ++ g :: post) s')
    (hdel : ∀ x ∈ post, x.request.method ≠ .delete) (hmiss : g.ReadsMissing p)
    (hin : p ∈ s'.repo.nodes) : ∃ x ∈ post, x.Creates p := by
  obtain ⟨s₀, -, hrest⟩ := h.split
  obtain ⟨s₁, hr, hpost⟩ := hrest.cons_inv
  -- the read changed nothing, so the node was still missing after it
  have hnot : p ∉ s₁.repo.nodes := by
    rw [(TreeServer.respond_eq hr).2, hmiss.1, store_get]
    exact TreeServer.not_mem_of_readsMissing hr hmiss
  exact hpost.created_of_new hdel hnot hin

end Answers

/-- The answers of part of a history, in order, agree as the whole did. -/
theorem Consistent.sublist {root : String} {xs ys : List Exchange} (h : Consistent root xs)
    (hsub : ys.Sublist xs) : Consistent root ys :=
  ⟨fun x hx => h.1 x (hsub.subset hx), h.2.sublist hsub⟩

end ContentPublish
