import OpenLLMOps.Agent.Execute
import OpenLLMOps.ControlPlane.Commands

/-!
# One START for each generation

The control plane composed with the agent's command state. `Pair.sent` keeps every
command that was put on the wire; the agent may execute any of them at any later
time, or never, and the node changes on its own.

The START of a deployment is a function of its definition, its version and its
port (`DeploymentDefinition.start`). Whatever changes the definition makes a new
version, and a job is started once; so two STARTs of one generation can differ in
the port only, which an answer writes without a new version. If every claim finds
the port that the earlier STARTs of its generation carried (`SamePort`), all
STARTs of one generation are equal and none is refused.
-/

namespace OpenLLMOps

open Framework Vllm

/-- The START of a deployment. -/
def DeploymentDefinition.start (d : DeploymentDefinition) (path : PyStr) (id : Uuid) (port : Option Int)
    (version : Nat) : AgentCommand where
  action := .start
  owner := ⟨.deployment, id, d.name, version⟩
  gpuIds := d.gpuIds.insertionSort (· ≤ ·)
  execution := .vllm ⟨d.taskType, path, d.servedModelName, port, d.tensorParallelSize, d.simplifiedConfig, d.vllmArgs⟩

section Claim

variable {casing : Casing} {cfg : Settings} {assetPath : Uuid → Option PyStr} {s s' : ControlPlane}

/-- The START of a claim is about the row at the head of the queue and carries its version. The
START of a deployment is given by the definition and the port. -/
structure ClaimStart (assetPath : Uuid → Option PyStr) (db db' : Db) (k : OwnerKey) (row : Row) (c : AgentCommand) :
    Prop where
  head : fifoHead (candidates db) = some (k, row)
  claimed : db'.getRow k = some row.claimed
  key : c.owner.key = k
  generation : c.owner.generation = row.stateVersion
  deployment : ∀ d, row = .deployment d → ∃ path, assetPath d.modelAssetId = some path ∧
    c = d.definition.start path k.id d.port d.stateVersion

theorem claimStart {env : ClaimEnv} {w : WorkloadSnapshot} {db db' : Db}
    (h : claimFifoHead cfg assetPath env db = .ok (.claimed w, db'))
    (hv : ∀ k row, db.getRow k = some row → 1 ≤ row.stateVersion) :
    ∃ k row, ClaimStart assetPath db db' k row (command w .start) := by
  rcases claimFifoHead_cases h with ⟨h, -⟩ | ⟨k, row, hhead, heff⟩
  · cases h
  obtain ⟨hr, -, -⟩ := head_spec hhead
  have ht := db.ownerType_of_getRow hr
  cases heff with
  | @claimed acquisition leases execution he hacq ha =>
    obtain ⟨ht', -, -, -, hg⟩ := row.claimed_spec
    have hgen : row.claimed.commandGeneration = row.stateVersion := by
      rw [Row.commandGeneration, hg, if_neg (Nat.pos_iff_ne_zero.mp (hv k row hr))]
    refine ⟨k, row, hhead, Db.getRow_put_self (ht'.trans ht), rfl, hgen, ?_⟩
    rintro d rfl
    simp only [buildRowExecution] at he
    split at he <;> cases he
    rename_i path hpath
    refine ⟨path, hpath, ?_⟩
    simp only [command, snapshot, hgen, ← ht]
    rfl

end Claim

/-! ## The pair -/

/-- The control plane, the commands that it has sent with their request ids, and the agent. -/
structure Pair (F N : Type) where
  plane : ControlPlane
  sent : List (Uuid × AgentCommand)
  store : CommandStateStore F
  node : N

namespace Pair

inductive Label (casing : Casing) (N : Type)
  /-- A step of the control plane; a command that it sends has this request id. -/
  | plane (l : OpenLLMOps.Label casing) (requestId : Uuid)
  /-- The agent executes a command. -/
  | deliver (requestId : Uuid) (c : AgentCommand)
  /-- Containers exit or vanish, files change. -/
  | node (n : N)

section System

variable {F N : Type} [DecidableEq F] {casing : Casing} (cfg : Settings) (assetPath : Uuid → Option PyStr)
  (fingerprint : Option Uuid → AgentCommand → F) (dispatch : AgentCommand → N → Except Raised CommandResult × N)

def step (s : Pair F N) : Label casing N → Option (Pair F N)
  | .plane l requestId =>
    if requestId ∈ s.sent.map Prod.fst then none
    else
      (ControlPlane.step cfg assetPath s.plane l).map fun plane =>
        { s with
          plane := plane
          sent := ((l.sends s.plane.db plane.pc).map fun c => (requestId, c)).toList ++ s.sent }
  | .deliver requestId c =>
    if (requestId, c) ∈ s.sent then
      let (_, store, node) := execute fingerprint dispatch requestId c s.store s.node
      some { s with store := store, node := node }
    else none
  | .node n => some { s with node := n }

/-- The pair on an empty database and a new node. -/
def system (casing : Casing) (node : N) : System (Pair F N) (Label casing N) where
  init := ⟨(controlPlane casing cfg assetPath).init, [], .empty, node⟩
  step := Pair.step cfg assetPath fingerprint dispatch

/-- A START that is issued meets no binding of its generation with another fingerprint, and
`bind_start` refuses none. -/
def StartsAgree (s : Pair F N) (l : Label casing N) (s' : Pair F N) : Prop :=
  match l with
  | .plane l _ => ∀ c ∈ l.sends s.plane.db s'.plane.pc, c.action = .start →
      s.store.Agrees c.owner.key c.owner.generation (fingerprint none c)
  | .deliver _ c =>
    c.action = .start → (s.store.bindStart c.owner.key c.owner.generation (fingerprint none c)).isOk = true
  | .node _ => True

/-- Every START of this generation that was sent carries the port of the row. -/
def SentPort (sent : List (Uuid × AgentCommand)) (k : OwnerKey) (d : Deployment) : Prop :=
  ∀ m ∈ sent, m.2.action = .start → m.2.owner.key = k → m.2.owner.generation = d.stateVersion →
    m.2.execution.port? = some d.port

/-- A claim that succeeds finds the row of a deployment with the port of the earlier STARTs of its
generation. -/
def SamePort (s : Pair F N) (l : Label casing N) (_ : Pair F N) : Prop :=
  match l with
  | .plane (.claim env) _ =>
    match fifoHead (candidates s.plane.db), claimFifoHead cfg assetPath env s.plane.db with
    | some (k, .deployment d), .ok (.claimed _, _) => SentPort s.sent k d
    | _, _ => True
  | _ => True

instance (s : Pair F N) (l : Label casing N) (s' : Pair F N) : Decidable (StartsAgree fingerprint s l s') := by
  unfold StartsAgree
  cases l <;> exact inferInstance

instance (sent : List (Uuid × AgentCommand)) (k : OwnerKey) (d : Deployment) : Decidable (SentPort sent k d) := by
  unfold SentPort
  exact inferInstance

instance (s : Pair F N) (l : Label casing N) (s' : Pair F N) : Decidable (SamePort cfg assetPath s l s') := by
  unfold SamePort
  split
  · split <;> exact inferInstance
  · exact inferInstance

/-- The row `row` was started by `c`, or by an earlier version of itself: started again, it is
started in the same way. -/
structure Started (row : Row) (c : AgentCommand) : Prop where
  generation : c.owner.generation ≤ row.stateVersion
  deployment : c.owner.generation = row.stateVersion → ∀ d, row.definition = some d →
    ∃ path port, assetPath d.modelAssetId = some path ∧ c = d.start path c.owner.id port row.stateVersion
  job : c.owner.generation = row.stateVersion → row.ownerType ≠ .deployment → row.queued = false

/-- The invariant of the pair. -/
structure Inv (s : Pair F N) : Prop where
  rows : ∀ k row, s.plane.db.getRow k = some row → 1 ≤ row.stateVersion ∧ k.id ∈ s.plane.used
  sent : ∀ m ∈ s.sent, m.2.action = .start → m.2.owner.key.id ∈ s.plane.used ∧
    ∀ row, s.plane.db.getRow m.2.owner.key = some row → Started assetPath row m.2
  unique : ∀ m ∈ s.sent, ∀ m' ∈ s.sent, m.2.action = .start → m'.2.action = .start →
    m.2.owner.key = m'.2.owner.key → m.2.owner.generation = m'.2.owner.generation → m.2 = m'.2
  bound : ∀ k b, Dict.get? s.store.starts k = some b → ∃ m ∈ s.sent, m.2.action = .start ∧ m.2.owner.key = k ∧
    m.2.owner.generation = b.generation ∧ b.fingerprint = fingerprint none m.2

variable {cfg assetPath fingerprint dispatch}

theorem Started.of_change {held : Prop} {row row' : Row} {c : AgentCommand} (h : Started assetPath row c)
    (ht : row'.ownerType = row.ownerType) (hc : RowChange held row row') : Started assetPath row' c := by
  have hg := h.generation
  have hv := hc.version
  refine ⟨hg.trans hv, fun e d hd => ?_, fun e hjob => ?_⟩
  · have e' : row'.stateVersion = row.stateVersion := by omega
    obtain hlt | hsame := hc.start
    · omega
    · rw [e']
      exact h.deployment (e.trans e') d (hsame.definition ▸ hd)
  · have e' : row'.stateVersion = row.stateVersion := by omega
    obtain hlt | hsame := hc.start
    · omega
    · have hq := h.job (e.trans e') (ht ▸ hjob)
      cases hq' : row'.queued with
      | false => rfl
      | true => rw [hsame.queued.resolve_left (ht ▸ hjob) hq'] at hq; cases hq

omit [DecidableEq F] in
/-- A START that was sent agrees with the agent's bindings, if it is the only one of its
generation. -/
theorem Inv.agrees {s : Pair F N} (h : Inv assetPath fingerprint s) {c : AgentCommand}
    (hc : ∀ m ∈ s.sent, m.2.action = .start → m.2.owner.key = c.owner.key →
      m.2.owner.generation = c.owner.generation → m.2 = c) :
    s.store.Agrees c.owner.key c.owner.generation (fingerprint none c) := by
  intro b hb hg
  obtain ⟨m, hm, ha, hk, hgen, hf⟩ := h.bound _ b hb
  rw [hf, hc m hm ha hk (hgen.trans hg)]

omit [DecidableEq F] in
/-- Under `SamePort` a START that the control plane issues is the one that it has issued before
for this generation. -/
theorem Inv.sent_eq {s : Pair F N} (h : Inv assetPath fingerprint s) {l : OpenLLMOps.Label casing} {requestId : Uuid}
    {plane : ControlPlane} (hs : ControlPlane.step cfg assetPath s.plane l = some plane) {s' : Pair F N}
    (hport : SamePort cfg assetPath s (.plane l requestId) s') {c : AgentCommand}
    (hc : l.sends s.plane.db plane.pc = some c) (ha : c.action = .start) {m : Uuid × AgentCommand} (hm : m ∈ s.sent)
    (hma : m.2.action = .start) (hk : m.2.owner.key = c.owner.key)
    (hg : m.2.owner.generation = c.owner.generation) : m.2 = c := by
  obtain ⟨env, w, rfl, hclaim, rfl⟩ := sends_start hs hc ha
  obtain ⟨k, row, hcs⟩ := claimStart hclaim fun k row hr => (h.rows k row hr).1
  obtain ⟨hr, hq, -⟩ := head_spec hcs.head
  have hstarted := (h.sent m hm hma).2 row (by rw [hk, hcs.key, hr])
  have hgen := hg.trans hcs.generation
  cases row with
  | deployment d =>
    obtain ⟨path, hpath, e⟩ := hcs.deployment d rfl
    obtain ⟨path', port, hpath', e'⟩ := hstarted.deployment hgen d.definition rfl
    have hp : SentPort s.sent k d := by
      simp only [SamePort, hcs.head, hclaim] at hport
      exact hport
    have hport' := hp m hm hma (hk.trans hcs.key) hgen
    have hid : m.2.owner.id = k.id := congrArg OwnerKey.id (hk.trans hcs.key)
    have hpe : path' = path := Option.some.inj (hpath'.symm.trans hpath)
    rw [e'] at hport'
    have hpo : port = d.port := Option.some.inj hport'
    rw [e', e, hid, hpe, hpo]
    rfl
  | training j =>
    rw [hstarted.job hgen nofun] at hq
    cases hq
  | evaluation r =>
    rw [hstarted.job hgen nofun] at hq
    cases hq

omit [DecidableEq F] in
theorem Inv.plane_step {s : Pair F N} (h : Inv assetPath fingerprint s) {l : OpenLLMOps.Label casing}
    {requestId : Uuid} {plane : ControlPlane} (hs : ControlPlane.step cfg assetPath s.plane l = some plane)
    {s' : Pair F N} (hport : SamePort cfg assetPath s (.plane l requestId) s') :
    Inv assetPath fingerprint
      { s with
        plane := plane
        sent := ((l.sends s.plane.db plane.pc).map fun c => (requestId, c)).toList ++ s.sent } := by
  have hused : ∀ id ∈ s.plane.used, id ∈ plane.used := fun id hid => by
    rw [step_used hs]
    exact List.mem_append_right _ hid
  have hrows : ∀ k row, plane.db.getRow k = some row → 1 ≤ row.stateVersion ∧ k.id ∈ plane.used := by
    intro k row' hr
    rcases step_row hs k row' hr with ⟨row, hr₀, hch⟩ | ⟨hf, hid, -⟩
    · exact ⟨(h.rows k row hr₀).1.trans hch.version, hused _ (h.rows k row hr₀).2⟩
    · refine ⟨hf.version.ge, ?_⟩
      rw [step_used hs]
      exact List.mem_append_left _ hid
  -- the STARTs that were sent before
  have hold : ∀ m ∈ s.sent, m.2.action = .start → m.2.owner.key.id ∈ plane.used ∧
      ∀ row, plane.db.getRow m.2.owner.key = some row → Started assetPath row m.2 := by
    intro m hm hma
    obtain ⟨hid, hst⟩ := h.sent m hm hma
    refine ⟨hused _ hid, fun row' hr => ?_⟩
    rcases step_row hs _ row' hr with ⟨row, hr₀, hch⟩ | ⟨-, -, hnew⟩
    · exact (hst row hr₀).of_change
        ((plane.db.ownerType_of_getRow hr).trans (s.plane.db.ownerType_of_getRow hr₀).symm) hch
    · exact absurd hid hnew
  -- the one that is sent now
  have hnew : ∀ c, l.sends s.plane.db plane.pc = some c → c.action = .start → c.owner.key.id ∈ plane.used ∧
      ∀ row, plane.db.getRow c.owner.key = some row → Started assetPath row c := by
    intro c hc ha
    obtain ⟨env, w, rfl, hclaim, rfl⟩ := sends_start hs hc ha
    obtain ⟨k, row, hcs⟩ := claimStart hclaim fun k row hr => (h.rows k row hr).1
    rw [hcs.key]
    refine ⟨(hrows k _ hcs.claimed).2, fun row' hr => ?_⟩
    rw [hcs.claimed] at hr
    cases hr
    obtain ⟨ht, -, hv, hact, -⟩ := row.claimed_spec
    refine ⟨by rw [hcs.generation, hv], fun _ d hd => ?_, fun _ _ => Row.active_not_queued hact⟩
    rw [row.claimed_sameStart.definition] at hd
    cases row with
    | deployment d' =>
      cases hd
      obtain ⟨path, hpath, e⟩ := hcs.deployment d' rfl
      refine ⟨path, d'.port, hpath, e.trans ?_⟩
      rw [hv, ← hcs.key]
      rfl
    | _ => cases hd
  have hmem : ∀ m ∈ ((l.sends s.plane.db plane.pc).map fun c => (requestId, c)).toList ++ s.sent,
      (∃ c, l.sends s.plane.db plane.pc = some c ∧ m.2 = c) ∨ m ∈ s.sent := by
    intro m hm
    rcases List.mem_append.mp hm with hm | hm
    · rw [Option.mem_toList, Option.map_eq_some_iff] at hm
      obtain ⟨c, hc, rfl⟩ := hm
      exact .inl ⟨c, hc, rfl⟩
    · exact .inr hm
  refine ⟨hrows, fun m hm hma => ?_, fun m hm m' hm' hma hma' hk hg => ?_, fun k b hb => ?_⟩
  · rcases hmem m hm with ⟨c, hc, e⟩ | hm
    · rw [e] at hma ⊢
      exact hnew c hc hma
    · exact hold m hm hma
  · rcases hmem m hm with ⟨c, hc, e⟩ | hm <;> rcases hmem m' hm' with ⟨c', hc', e'⟩ | hm'
    · rw [e, e']
      exact Option.some.inj (hc.symm.trans hc')
    · rw [e] at hma hk hg ⊢
      exact (h.sent_eq hs hport hc hma hm' hma' hk.symm hg.symm).symm
    · rw [e'] at hma' hk hg ⊢
      exact h.sent_eq hs hport hc' hma' hm hma hk hg
    · exact h.unique m hm m' hm' hma hma' hk hg
  · obtain ⟨m, hm, hrest⟩ := h.bound k b hb
    exact ⟨m, List.mem_append_right _ hm, hrest⟩

/-- Under `SamePort` a step keeps the invariant. -/
theorem Inv.step {s s' : Pair F N} {l : Label casing N} (h : Inv assetPath fingerprint s)
    (hs : Pair.step cfg assetPath fingerprint dispatch s l = some s') (hport : SamePort cfg assetPath s l s') :
    Inv assetPath fingerprint s' := by
  cases l with
  | plane l requestId =>
    simp only [Pair.step] at hs
    split at hs
    · cases hs
    obtain ⟨plane, hplane, rfl⟩ := Option.map_eq_some_iff.mp hs
    exact h.plane_step hplane hport
  | deliver requestId c =>
    simp only [Pair.step] at hs
    split at hs
    · rename_i hsent
      cases hs
      refine ⟨h.rows, h.sent, h.unique, fun k b hb => ?_⟩
      rcases starts_execute fingerprint dispatch hb with hb | ⟨ha, rfl, rfl⟩
      · exact h.bound k b hb
      · exact ⟨(requestId, c), hsent, ha, rfl, rfl, rfl⟩
    · cases hs
  | node n =>
    cases hs
    exact ⟨h.rows, h.sent, h.unique, h.bound⟩

theorem Inv.init (node : N) :
    Inv assetPath fingerprint (system cfg assetPath fingerprint dispatch casing node).init := by
  refine ⟨fun k row hr => ?_, nofun, nofun, nofun⟩
  obtain ⟨t, id⟩ := k
  cases t <;> cases hr

/-- Under `SamePort` a START meets no binding of its generation with another fingerprint. -/
theorem Inv.startsAgree {s s' : Pair F N} {l : Label casing N} (h : Inv assetPath fingerprint s)
    (hs : Pair.step cfg assetPath fingerprint dispatch s l = some s') (hport : SamePort cfg assetPath s l s') :
    StartsAgree fingerprint s l s' := by
  cases l with
  | plane l requestId =>
    simp only [Pair.step] at hs
    split at hs
    · cases hs
    obtain ⟨plane, hplane, rfl⟩ := Option.map_eq_some_iff.mp hs
    exact fun c hc ha => h.agrees fun m hm => h.sent_eq hplane hport hc ha hm
  | deliver requestId c =>
    simp only [Pair.step] at hs
    split at hs
    · rename_i hsent
      intro ha
      rw [CommandStateStore.bindStart_isOk_iff]
      exact h.agrees fun m hm hma hk hg => h.unique m hm (requestId, c) hsent hma ha hk hg
    · cases hs
  | node n => trivial

/-- In a run whose claims find the port of the earlier STARTs of their generation, every START
agrees with the binding of its generation when it is issued, and is not refused when the agent
executes it. -/
theorem startsAgree_of_samePort (node : N) (ls : List (Label casing N))
    (h : (system cfg assetPath fingerprint dispatch casing node).EachStep (SamePort cfg assetPath)
      (system cfg assetPath fingerprint dispatch casing node).init ls) :
    (system cfg assetPath fingerprint dispatch casing node).EachStep (StartsAgree fingerprint)
      (system cfg assetPath fingerprint dispatch casing node).init ls := by
  have hstep {s l s'} (h : Inv assetPath fingerprint s)
      (hs : (system cfg assetPath fingerprint dispatch casing node).step s l = some s')
      (hport : SamePort cfg assetPath s l s') : Inv assetPath fingerprint s' := h.step hs hport
  exact System.eachStep_of_invariant hstep (fun h hs hport => h.startsAgree hs hport) (Inv.init node) h

end System

section Example

open Sample

/-- The START of the sample deployment, with the port `port`. -/
def start (port : Option Int) : AgentCommand :=
  (payload.toDeploymentCreate.row 1).definition.start (py "/models/qwen") 1 port 1

/-- The sample deployment is claimed and started, its answer is `answer`, its container vanishes and
it is queued and claimed again. -/
def recovered (answer : AgentCommandResponse) : List (Label Sample.casing Unit) :=
  [.plane (.route (.createDeployment 1 payload (.ok ⟨true, .base⟩) 1)) 0, .plane (.begin []) 0, .plane .endScan 0,
    .plane (.reap 2) 0, .plane (.claim ⟨2, 9, .escape⟩) 0, .deliver 0 (start none), .plane (.answer answer) 1,
    .plane (.apply (observation 3)) 1, .plane (.claim ⟨3, 8, .escape⟩) 1, .node (), .plane (.begin [qwen true]) 1,
    .plane .send 1, .plane (.answer (Sample.answer .absent)) 2, .plane (.apply (observation 4)) 2, .plane .endScan 2,
    .plane (.reap 5) 2, .plane (.claim ⟨5, 7, .escape⟩) 2]

/-- A node that answers every command with `result`. -/
def answering (result : AgentCommandResponse) (_ : AgentCommand) (_ : Unit) : Except Raised CommandResult × Unit :=
  (.ok ⟨200, result⟩, ())

/-- The answer about a running deployment. -/
def withPort : AgentCommandResponse := ⟨true, .running, none, none, [(py "port", .int 8000)]⟩

/-- The agent reports the port that it has chosen, and the control plane stores it without a new
version: the START that recovers the deployment is another command of the same generation. -/
theorem recovery_changes_start :
    ¬ (system cfg assetPath Prod.mk (answering withPort) Sample.casing ()).EachStep (StartsAgree Prod.mk)
      (system cfg assetPath Prod.mk (answering withPort) Sample.casing ()).init (recovered withPort) := by
  decide

/-- A deployment that is recovered before its port is known is started with the same command. -/
theorem recovery_repeats_start :
    (system cfg assetPath Prod.mk (answering (answer .starting)) Sample.casing ()).EachStep (StartsAgree Prod.mk)
      (system cfg assetPath Prod.mk (answering (answer .starting)) Sample.casing ()).init
      (recovered (answer .starting) ++ [.deliver 2 (start none)]) :=
  startsAgree_of_samePort () _ (by decide)

end Example

end Pair

end OpenLLMOps
