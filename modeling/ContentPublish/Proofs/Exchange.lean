import ContentPublish.Client

/-
  Sessions as exchanges with the server

  A session sends its requests one at a time, and each gets an answer from
  the transport (a response, or a failure to connect) that may change the
  transport's state. A run is described here by the list of its exchanges,
  each a request beside the answer it got: the transport must give exactly
  these answers from the state the run started in (`Answers`), the log of
  the world grows by exactly these requests, and the local files stay as
  they were (`Talked`). Because the transport is deterministic, the requests
  of a run pin down its answers, so a statement about the exchanges of a
  run holds for every transport, however it answers.

  What is stated here:
    1. `run_pure`, `run_bind`, `run_throw`, `run_lift`, `run_send` and
       `run_tryCatch` — how a session runs, one construct at a time.
    2. `Exchange`, `Answers` and `Talked`, with `Talked.refl` and
       `Talked.trans`, which join the exchanges of two runs.
    3. `talked_of_respond`, `pathExists_talked` and `writeNode_talked` —
       one lemma for each step a client operation is made of, with
       `pathExists_cases` for the three ends of a read and
       `writeOutcome_eq_ok` and `writeOutcome_eq_error` for the outcome of
       a write; `run_pathExists` and `run_writeNode` give the run itself
       when the answer is known.
-/

namespace ContentPublish

namespace Session

variable {σ α β : Type}

@[simp] theorem run_pure (a : α) (w : World σ) : run (pure a : Session σ α) w = (.ok a, w) := rfl

theorem run_bind (x : Session σ α) (f : α → Session σ β) (w : World σ) :
    run (x >>= f) w = match run x w with
      | (.ok a, w') => run (f a) w'
      | (.error e, w') => (.error e, w') := by
  simp only [run, bind, ExceptT.bind, ExceptT.run, ExceptT.mk, ExceptT.bindCont, StateT.run,
    StateT.bind]
  rcases x w with ⟨_ | _, _⟩ <;> rfl

@[simp] theorem run_throw (e : Error) (w : World σ) :
    run (throw e : Session σ α) w = (.error e, w) := rfl

@[simp] theorem run_lift (r : Except Error α) (w : World σ) : run (lift r) w = (r, w) := by
  cases r <;> rfl

@[simp] theorem run_files (w : World σ) : run files w = (.ok w.files, w) := rfl

theorem run_send (t : Transport σ) (server : Server) (request : Request) (w : World σ) :
    run (send t server request) w =
      ((t.respond server request w.remote).1,
        { w with remote := (t.respond server request w.remote).2,
                 sent := w.sent ++ [Sent.mk server.user request] }) := rfl

theorem run_tryCatch (x : Session σ α) (handle : Error → Session σ α) (w : World σ) :
    run (tryCatch x handle) w = match run x w with
      | (.ok a, w') => (.ok a, w')
      | (.error e, w') => run (handle e) w' := by
  simp only [run, tryCatch, tryCatchThe, MonadExceptOf.tryCatch, ExceptT.tryCatch, ExceptT.run,
    ExceptT.mk, StateT.run, bind, StateT.bind]
  rcases x w with ⟨_ | _, _⟩ <;> rfl

end Session

/-- A request beside the answer the transport gave it. -/
structure Exchange where
  request : Request
  answer : Except Error Response

/-- The transport, asked with `server`'s credentials, gives the answers of
`xs` to their requests in order, going from state `s` to state `s'`. -/
inductive Answers {σ : Type} (t : Transport σ) (server : Server) :
    σ → List Exchange → σ → Prop where
  | nil (s : σ) : Answers t server s [] s
  | cons {s s' s'' : σ} {request : Request} {answer : Except Error Response}
      {xs : List Exchange} :
      t.respond server request s = (answer, s') → Answers t server s' xs s'' →
      Answers t server s (⟨request, answer⟩ :: xs) s''

namespace Answers

variable {σ : Type} {t : Transport σ} {server : Server}

theorem append {s s' s'' : σ} {xs ys : List Exchange} (h₁ : Answers t server s xs s')
    (h₂ : Answers t server s' ys s'') : Answers t server s (xs ++ ys) s'' := by
  induction h₁ with
  | nil => exact h₂
  | cons hr _ ih => exact .cons hr (ih h₂)

theorem eq_of_nil {s s' : σ} (h : Answers t server s [] s') : s' = s := by
  cases h
  rfl

theorem single {s : σ} (request : Request) :
    Answers t server s [⟨request, (t.respond server request s).1⟩]
      (t.respond server request s).2 :=
  .cons rfl (.nil _)

end Answers

/-- A run from `w` to `w'` made the exchanges `xs` with `server`'s
credentials: the transport answered them, the log grew by their requests,
and the local files did not change. -/
structure Talked {σ : Type} (t : Transport σ) (server : Server) (w w' : World σ)
    (xs : List Exchange) : Prop where
  answers : Answers t server w.remote xs w'.remote
  sent : w'.sent = w.sent ++ xs.map fun x => Sent.mk server.user x.request
  files : w'.files = w.files

namespace Talked

variable {σ : Type} {t : Transport σ} {server : Server}

theorem refl (w : World σ) : Talked t server w w [] :=
  ⟨.nil _, by simp, rfl⟩

theorem trans {w w' w'' : World σ} {xs ys : List Exchange} (h₁ : Talked t server w w' xs)
    (h₂ : Talked t server w' w'' ys) : Talked t server w w'' (xs ++ ys) where
  answers := h₁.answers.append h₂.answers
  sent := by rw [h₂.sent, h₁.sent, List.map_append, List.append_assoc]
  files := h₂.files.trans h₁.files

end Talked

namespace Session

variable {σ : Type} (t : Transport σ)

/-- One request answered from the transport's state. -/
theorem talked_of_respond {server : Server} {request : Request} {w : World σ}
    {answer : Except Error Response} {s' : σ} (hr : t.respond server request w.remote = (answer, s')) :
    Talked t server w { w with remote := s', sent := w.sent ++ [Sent.mk server.user request] }
      [⟨request, answer⟩] :=
  ⟨.cons hr (.nil _), rfl, rfl⟩

/-- Reading a URL: one exchange, and the node exists when it answered `200`. -/
theorem pathExists_talked (server : Server) (url : Url) (w : World σ) :
    Talked t server w (run (pathExists t server url) w).2
        [⟨Request.get url, (t.respond server (Request.get url) w.remote).1⟩] ∧
      (run (pathExists t server url) w).1 =
        (t.respond server (Request.get url) w.remote).1.map (·.status == statusOk) := by
  rcases hr : t.respond server (Request.get url) w.remote with ⟨answer, s'⟩
  simp only [pathExists, run_bind, run_send, hr]
  cases answer with
  | error e => exact ⟨talked_of_respond t hr, rfl⟩
  | ok resp => exact ⟨talked_of_respond t hr, rfl⟩

/-- **The three ends of a read**: the exchange failed, the node was found
(`200`), or it was not (any other status). -/
theorem pathExists_cases (server : Server) (url : Url) (w : World σ) :
    ∃ w₁, (∃ e, run (pathExists t server url) w = (.error e, w₁) ∧
        Talked t server w w₁ [⟨Request.get url, .error e⟩]) ∨
      (∃ resp : Response, resp.status = statusOk ∧ run (pathExists t server url) w = (.ok true, w₁) ∧
        Talked t server w w₁ [⟨Request.get url, .ok resp⟩]) ∨
      (∃ resp : Response, resp.status ≠ statusOk ∧
        run (pathExists t server url) w = (.ok false, w₁) ∧
        Talked t server w w₁ [⟨Request.get url, .ok resp⟩]) := by
  obtain ⟨hread, hfound⟩ := pathExists_talked t server url w
  refine ⟨(run (pathExists t server url) w).2, ?_⟩
  cases hans : (t.respond server (Request.get url) w.remote).1 with
  | error e => exact .inl ⟨e, Prod.ext (by rw [hfound, hans]; rfl) rfl, hans ▸ hread⟩
  | ok resp =>
    by_cases hst : resp.status = statusOk
    · exact .inr (.inl ⟨resp, hst, Prod.ext (by rw [hfound, hans]; simp [Except.map, hst]) rfl, hans ▸ hread⟩)
    · exact .inr (.inr ⟨resp, hst, Prod.ext (by rw [hfound, hans]; simp [Except.map, hst]) rfl, hans ▸ hread⟩)

/-- A read answered with a response: the node exists when it answered `200`. -/
theorem run_pathExists {server : Server} {url : Url} {w : World σ} {resp : Response} {s' : σ}
    (hr : t.respond server (Request.get url) w.remote = (.ok resp, s')) :
    run (pathExists t server url) w =
      (.ok (resp.status == statusOk),
        { w with remote := s', sent := w.sent ++ [Sent.mk server.user (Request.get url)] }) := by
  simp only [pathExists, run_bind, run_send, hr, run_pure]

/-- The result of a write that expected `expected`: the answer's failure, or
the refusal of any other status. -/
def writeOutcome (node : PathNode) (ws : Workspace) (expected : Nat) (operation : String) :
    Except Error Response → Except Error Unit
  | .error e => .error e
  | .ok resp =>
    if resp.status != expected then
      .error (.remoteOperation operation resp.status
        ("could not " ++ operation ++ " " ++ node.describe ++ " in workspace " ++ ws.display ++
          ": " ++ Text.trimBlank resp.body))
    else .ok ()

theorem writeOutcome_eq_ok {node : PathNode} {ws : Workspace} {expected : Nat} {operation : String}
    {answer : Except Error Response} :
    writeOutcome node ws expected operation answer = .ok () ↔
      ∃ resp, answer = .ok resp ∧ resp.status = expected := by
  cases answer with
  | error e => simp [writeOutcome]
  | ok resp =>
    simp only [writeOutcome, bne_iff_ne, ne_eq, ite_not]
    split <;> simp_all

theorem writeOutcome_eq_error {node : PathNode} {ws : Workspace} {expected : Nat}
    {operation : String} {answer : Except Error Response} {e : Error}
    (h : writeOutcome node ws expected operation answer = .error e) :
    answer = .error e ∨ ∃ resp, answer = .ok resp ∧ resp.status ≠ expected := by
  cases answer with
  | error e' =>
    simp only [writeOutcome, Except.error.injEq] at h
    exact .inl (by rw [h])
  | ok resp =>
    simp only [writeOutcome, bne_iff_ne, ne_eq, ite_not] at h
    split at h
    · cases h
    · exact .inr ⟨resp, rfl, by assumption⟩

/-- Writing a node that has a workspace, a body and a URL: one exchange,
the body sent to the URL with the method, and the outcome of its answer. -/
theorem writeNode_talked {node : PathNode} {ws : Workspace} {body : Option (List UInt8)}
    {url : Url} (method : Method) (expected : Nat) (operation : String) (w : World σ)
    (hws : node.workspace? = some ws) (hbody : node.content w.files = .ok body)
    (hurl : node.writeUrl = .ok url) :
    let request := (Request.new method url).withBody jsonContentType (body.getD [])
    Talked t ws.server w (run (writeNode t node method expected operation) w).2
        [⟨request, (t.respond ws.server request w.remote).1⟩] ∧
      (run (writeNode t node method expected operation) w).1 =
        writeOutcome node ws expected operation (t.respond ws.server request w.remote).1 := by
  intro request
  rcases hr : t.respond ws.server request w.remote with ⟨answer, s'⟩
  simp only [writeNode, hws, run_bind, run_pure, run_files, hbody, hurl, run_lift, run_send]
  simp only [request] at hr
  simp only [hr]
  cases answer with
  | error e => exact ⟨talked_of_respond t hr, rfl⟩
  | ok resp =>
    -- the status check throws or returns without touching the world
    simp only [writeOutcome]
    split
    · exact ⟨talked_of_respond t hr, rfl⟩
    · exact ⟨talked_of_respond t hr, rfl⟩

/-- A write of a node with a body, answered with the status it expects,
succeeds. -/
theorem run_writeNode {node : PathNode} {ws : Workspace} {body : List UInt8}
    {url : Url} {method : Method} {expected : Nat} {operation : String} {w : World σ}
    {resp : Response} {s' : σ} (hws : node.workspace? = some ws)
    (hbody : node.content w.files = .ok (some body)) (hurl : node.writeUrl = .ok url)
    (hr : t.respond ws.server ((Request.new method url).withBody jsonContentType body)
      w.remote = (.ok resp, s'))
    (hst : resp.status = expected) :
    run (writeNode t node method expected operation) w =
      (.ok (), { w with remote := s', sent := w.sent ++
        [Sent.mk ws.server.user ((Request.new method url).withBody jsonContentType body)] }) := by
  simp only [writeNode, hws, run_bind, run_pure, run_files, hbody, hurl, run_lift, run_send, hr,
    hst, Option.getD_some, bne_self_eq_false, Bool.false_eq_true, if_false]

end Session

end ContentPublish
