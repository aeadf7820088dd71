import OpenLLMOps.ControlPlane.Effects

/-!
# The gateway's routing

`_find_deployment` of `openai_gateway.py` trusts the column `internal_url` of a RUNNING
row. `RoutedPlane` is the control plane with a history of the endpoints in the agent's
answers, each under the owner and the generation of its command.

`UrlReported` is the invariant: only an active row has an endpoint, and an answer of the
row's generation has reported it. `gateway_routes_current` is what the gateway needs.
-/

namespace OpenLLMOps

open Framework Vllm

/-- The 404 of `_find_deployment`. -/
structure GatewayError where
  statusCode : Nat
  message : PyStr
  type : PyStr
  deriving DecidableEq

/-- The SELECT of `_find_deployment`. -/
def gatewayMatches (modelName : PyStr) (taskType : DeploymentTaskType) (d : Deployment) : Bool :=
  d.servedModelName = modelName && d.taskType = taskType && d.actualState = .running

/-- `_find_deployment`, with the rows in the order in which the database returns them: the row and its
endpoint. -/
def findDeployment (order : List (Sigma fun _ : Uuid => Deployment)) (modelName : PyStr)
    (taskType : DeploymentTaskType) : Except GatewayError (Uuid × Deployment × PyStr) :=
  let notFound := ⟨404, py "模型 " ++ modelName ++ py " 没有可用的运行实例", py "model_not_found"⟩
  match order.find? fun e => gatewayMatches modelName taskType e.2 with
  | none => .error notFound
  | some e =>
    match e.2.internalUrl with
    | none | some [] => .error notFound
    | some url => .ok (e.1, e.2, url)

/-- The control plane, and the endpoints that the agent's answers have carried so far: a history that no
step reads. -/
structure RoutedPlane where
  plane : ControlPlane
  reported : List (OwnerKey × Nat × PyStr)

/-- The endpoints in the answer of a step, under the owner and the generation of its command. -/
def Label.reports {casing : Casing} (pc : Pc) : Label casing → List (OwnerKey × Nat × PyStr)
  | .answer response =>
    match pc with
    | .waiting c _ =>
      (metadataEndpoint response.metadata).toList.map fun url => (c.workload.owner.key, c.workload.owner.generation, url)
    | _ => []
  | _ => []

/-- The control plane with its history. -/
def routedPlane (casing : Casing) (cfg : Settings) (assetPath : Uuid → Option PyStr) :
    System RoutedPlane (Label casing) where
  init := ⟨(controlPlane casing cfg assetPath).init, []⟩
  step s l := (ControlPlane.step cfg assetPath s.plane l).map fun plane => ⟨plane, l.reports s.plane.pc ++ s.reported⟩

/-- What the rows and the gateway say of endpoints is from answers of the current generation. -/
structure RoutesCurrent (s : RoutedPlane) : Prop where
  row : ∀ id d, s.plane.db.deployments.lookup id = some d → d.actualState = .running →
    d.internalUrl = none ∨ ∃ url, d.internalUrl = some url ∧ (⟨.deployment, id⟩, d.runtimeGeneration, url) ∈ s.reported
  gateway : ∀ order modelName taskType id d url, order.Perm s.plane.db.deployments.entries →
    findDeployment order modelName taskType = .ok (id, d, url) →
      s.plane.db.deployments.lookup id = some d ∧ d.actualState = .running ∧ d.servedModelName = modelName ∧
        (⟨.deployment, id⟩, d.runtimeGeneration, url) ∈ s.reported

/-! ## The invariant -/

/-- Only an active row has an endpoint, and it has been reported for the row's generation. -/
def UrlReported (reported : List (OwnerKey × Nat × PyStr)) (k : OwnerKey) (row : Row) : Prop :=
  ∀ url, row.internalUrl = some url → row.active = true ∧ (k, row.runtimeGeneration, url) ∈ reported

structure RoutedInv (s : RoutedPlane) : Prop where
  rows : ∀ k row, s.plane.db.getRow k = some row → UrlReported s.reported k row
  answered : ∀ c response todo, s.plane.pc = .answered c response todo →
    ∀ url, metadataEndpoint response.metadata = some url →
      (c.workload.owner.key, c.workload.owner.generation, url) ∈ s.reported

section Rows

variable {reported : List (OwnerKey × Nat × PyStr)} {k : OwnerKey} {row row' : Row}

theorem UrlReported.of_none (h : row.internalUrl = none) : UrlReported reported k row := by
  intro url hurl
  rw [h] at hurl
  cases hurl

theorem UrlReported.none_of_inactive (h : UrlReported reported k row) (hi : row.active = false) :
    row.internalUrl = none := by
  refine Option.eq_none_iff_forall_ne_some.mpr fun url hurl => ?_
  rw [(h url hurl).1] at hi
  cases hi

theorem UrlReported.mono {reported' : List (OwnerKey × Nat × PyStr)} (h : UrlReported reported k row)
    (hsub : reported ⊆ reported') : UrlReported reported' k row := fun url hurl =>
  ⟨(h url hurl).1, hsub (h url hurl).2⟩

/-- A route leaves the endpoint, on an active row of the same generation, or clears it. -/
theorem UrlReported.mutated {casing : Casing} {cfg : Settings} {r : RouteCall casing} (h : UrlReported reported k row)
    (hm : Mutation cfg r k row row') : UrlReported reported k row' := by
  cases hm with
  | @update id payload d d' hd =>
    obtain ⟨ht, -, e⟩ := updatedRow_ok hd
    have hnone := h.none_of_inactive (Row.inactive_of_terminal ht)
    refine .of_none ?_
    rw [e]
    exact hnone
  | start id now d =>
    unfold startedRow
    split
    all_goals first | exact .of_none rfl | exact h
  | stop id d =>
    unfold stoppedRow
    split
    · exact .of_none rfl
    · exact .of_none rfl
    · exact .of_none rfl
    · exact h
    · exact h
    · exact fun url hurl => ⟨rfl, (h url hurl).2⟩
    · exact fun url hurl => ⟨rfl, (h url hurl).2⟩
  | terminate id now j => exact .of_none rfl
  | cancel id now r => exact .of_none rfl

theorem Row.internalUrl_of_job (h : row.ownerType ≠ .deployment) : row.internalUrl = none := by
  cases row with
  | deployment d => exact absurd rfl h
  | training j => rfl
  | evaluation r => rfl

theorem applyDeploymentObservation_internalUrl (now : Time) (response : AgentCommandResponse) (d : Deployment) :
    (applyDeploymentObservation now response d).1.internalUrl = none ∨
      (applyDeploymentObservation now response d).2 = false ∧
        ((applyDeploymentObservation now response d).1.internalUrl = d.internalUrl ∨
          (applyDeploymentObservation now response d).1.internalUrl = metadataEndpoint response.metadata) := by
  have hor (a b : Option PyStr) : a.or b = b ∨ a.or b = a := by
    cases a <;> simp
  unfold applyDeploymentObservation
  split
  · split
    · exact .inl rfl
    split <;> exact .inl rfl
  · exact .inl rfl
  · exact .inl rfl
  all_goals
    split
    · exact .inr ⟨rfl, .inl rfl⟩
    · exact .inr ⟨rfl, hor _ _⟩

/-- An observation keeps the endpoint of an active row, or writes the one of the answer. -/
theorem UrlReported.observed {env : ObservationEnv} {response : AgentCommandResponse} {released : Bool}
    (h : UrlReported reported k row)
    (hanswer : ∀ url, metadataEndpoint response.metadata = some url → (k, row.runtimeGeneration, url) ∈ reported)
    (hobs : observeRow env response row = .ok (row', released)) : UrlReported reported k row' := by
  have hspec := observeRow_spec hobs
  by_cases hd : row.ownerType = .deployment
  · obtain ⟨d, rfl⟩ : ∃ d, row = .deployment d := by
      cases row with
      | deployment d => exact ⟨d, rfl⟩
      | training j => cases hd
      | evaluation r => cases hd
    simp only [observeRow, Except.ok.injEq, Prod.mk.injEq] at hobs
    obtain ⟨rfl, rfl⟩ := hobs
    rcases applyDeploymentObservation_internalUrl env.now response d with hnone | ⟨hlive, hurl⟩
    · exact .of_none hnone
    · obtain ⟨hactive, hg⟩ := hspec.active hlive
      refine fun url e => ⟨hactive, ?_⟩
      rw [hg]
      rcases hurl with hurl | hurl
      · exact (h url (hurl.symm.trans e)).2
      · exact hanswer url (hurl.symm.trans e)
  · exact .of_none (Row.internalUrl_of_job (hspec.type.trans_ne hd))

end Rows

section Step

variable {casing : Casing} {cfg : Settings} {assetPath : Uuid → Option PyStr}

/-- What a step does to a row keeps its endpoint reported. -/
theorem RoutedInv.row_step {s : RoutedPlane} (h : RoutedInv s) {s' : ControlPlane} {k : OwnerKey} {l : Label casing}
    {row row' : Row} (hr : s.plane.db.getRow k = some row) (hstep : RowStep cfg s.plane s' k l row row') :
    UrlReported s.reported k row' := by
  have hrow := h.rows k row hr
  cases hstep with
  | kept => exact hrow
  | mutated hm => exact hrow.mutated hm
  | @observed env c response todo _ _ released hpc hk hg hobs =>
    refine hrow.observed (fun url hurl => ?_) hobs
    rw [hg, ← hk]
    exact h.answered c response todo hpc url hurl
  | @startFailed env c response todo _ message hpc hk hg hna =>
    refine .of_none ?_
    cases row <;> rfl
  | @agentError env c message todo _ hpc hk hg =>
    intro url hurl
    have hkeeps := row.withError_keeps message
    have hsame : (row.withError message).internalUrl = row.internalUrl := by cases row <;> rfl
    rw [hsame] at hurl
    rw [hkeeps.active, hkeeps.generation]
    exact hrow url hurl
  | @preflightFailed env _ m hpc hq ht =>
    have htype := (@Row.preflightFailed_spec m env.now _ ht).1
    exact .of_none (Row.internalUrl_of_job (htype.trans_ne ht))
  | blocked hpc hq =>
    have hnone := hrow.none_of_inactive (Row.inactive_of_queued hq)
    refine .of_none ?_
    cases row <;> exact hnone
  | claimed hpc hq hpc' =>
    refine .of_none ?_
    cases row <;> rfl

theorem RoutedInv.step {s s' : RoutedPlane} {l : Label casing} (h : RoutedInv s)
    (hs : (routedPlane casing cfg assetPath).step s l = some s') : RoutedInv s' := by
  obtain ⟨plane, hplane, rfl⟩ := Option.map_eq_some_iff.mp hs
  have hsub : s.reported ⊆ l.reports s.plane.pc ++ s.reported := List.subset_append_right _ _
  refine ⟨fun k row' hr => ?_, fun c response todo hpc url hurl => ?_⟩
  · rcases step_getRow hplane hr with ⟨row, hr₀, hstep⟩ | ⟨hfresh, -⟩
    · exact (h.row_step hr₀ hstep).mono hsub
    · exact .of_none hfresh.internalUrl
  · by_cases hl : ∀ response', l ≠ .answer response'
    · exact hsub (h.answered c response todo (answered_of_step hplane hl hpc) url hurl)
    · simp only [ne_eq, not_forall, not_not] at hl
      obtain ⟨response', rfl⟩ := hl
      simp only [ControlPlane.step] at hplane
      split at hplane <;> cases hplane
      rename_i c' todo' hwait
      cases hpc
      refine List.mem_append_left _ ?_
      simp only [Label.reports, hwait, hurl, Option.toList_some, List.map_cons, List.map_nil, List.mem_singleton]

theorem RoutedInv.routes {s : RoutedPlane} (h : RoutedInv s) : RoutesCurrent s := by
  have hreported {id : Uuid} {d : Deployment} (hd : s.plane.db.deployments.lookup id = some d) {url : PyStr}
      (hurl : d.internalUrl = some url) : (⟨.deployment, id⟩, d.runtimeGeneration, url) ∈ s.reported :=
    (h.rows ⟨.deployment, id⟩ (.deployment d) (Db.getRow_deployment.mpr ⟨d, hd, rfl⟩) url hurl).2
  refine ⟨fun id d hd _ => ?_, fun order modelName taskType id d url horder hfind => ?_⟩
  · cases hurl : d.internalUrl with
    | none => exact .inl rfl
    | some url => exact .inr ⟨url, rfl, hreported hd hurl⟩
  · unfold findDeployment at hfind
    split at hfind
    · cases hfind
    rename_i e he
    split at hfind
    · cases hfind
    · cases hfind
    rename_i url' _ hurl
    cases hfind
    have hmatch := List.find?_some he
    simp only [gatewayMatches, Bool.and_eq_true, decide_eq_true_eq] at hmatch
    have hd : s.plane.db.deployments.lookup e.1 = some e.2 :=
      AList.mem_lookup_iff.mpr (horder.mem_iff.mp (List.mem_of_find?_eq_some he))
    exact ⟨hd, hmatch.2, hmatch.1.1, hreported hd hurl⟩

/-- In every reachable state the endpoint of a RUNNING row is null or one that an answer of its current
generation has carried, and the gateway finds no other. -/
theorem gateway_routes_current (casing : Casing) (cfg : Settings) (assetPath : Uuid → Option PyStr)
    (ls : List (Label casing)) :
    (routedPlane casing cfg assetPath).Always RoutesCurrent (routedPlane casing cfg assetPath).init ls := by
  have hstep {s l s'} (h : RoutedInv s) (hs : (routedPlane casing cfg assetPath).step s l = some s') (_ : True) :
      RoutedInv s' := h.step hs
  have hinit : RoutedInv (routedPlane casing cfg assetPath).init := by
    refine ⟨fun k row hr => ?_, fun c response todo hpc => ?_⟩
    · have hempty : Db.empty.getRow k = some row := hr
      unfold Db.getRow at hempty
      split at hempty <;> cases hempty
    · cases hpc
  exact System.always_of_invariant hstep RoutedInv.routes hinit (System.EachStep.of_true _ _)

end Step

section Sample

open Sample

/-- The answer of a service that is ready. -/
def Sample.ready : AgentCommandResponse :=
  ⟨true, .running, none, none, [(py "endpoint", .str (py "http://127.0.0.1:8000"))]⟩

/-- A claimed deployment whose START is answered by its endpoint is found. -/
example : ((routedPlane casing cfg assetPath).run (routedPlane casing cfg assetPath).init
      [.route (.createDeployment 1 payload (.ok ⟨true, .base⟩) 1), .begin [], .endScan, .reap 2, .claim ⟨2, 9, .escape⟩,
        .answer ready, .apply (observation 3)]).map
      (fun s => ((findDeployment s.plane.db.deployments.entries (py "qwen") .generate).toOption.map (·.2.2), s.reported)) =
    some (some (py "http://127.0.0.1:8000"), [(⟨.deployment, 1⟩, 1, py "http://127.0.0.1:8000")]) := by
  decide +kernel

end Sample

end OpenLLMOps
