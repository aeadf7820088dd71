import OpenLLMOps.Agent.Replay
import OpenLLMOps.Channel.Messages
import OpenLLMOps.Framework.Channel

/-!
# Commands over a hostile network

`NodeAgentHTTPClient.execute` of the control plane and `execute_command` of the agent, with an adversary for a
network: any bytes with any headers reach either side, in any order and as often as it likes. All it cannot do is
sign (`Unforged`). The clocks of the two sides are not related. A run is one of a single agent process, whose cache of
nonces does not outlive it, and no clock goes back.

* `executeCommand_cases`: what the agent does with a request;
* `signingInput_inj`: what one side signed is not signed for anything else;
* `NetworkInv`: every request that was executed has been accepted, and every answer was signed for its command;
* `network_refines`: the network refines a channel that performs a command at most once and returns its own answer.
-/

namespace OpenLLMOps.Wire

open Framework

/-- What both sides share, and the libraries that they use. -/
structure Surroundings (D : Type) where
  casing : Casing
  int : PyStr → Option Int
  isdigit : PyStr → Bool
  hmac : Bytes → Bytes → PyStr
  pydantic : Pydantic D
  signer : HMACSigner

/-- A call of `HMACSigner.sign`. -/
structure Signed where
  body : Bytes
  timestamp : Int
  nonce : PyStr

/-- The characters of `secrets.token_urlsafe`. -/
def isUrlsafe (nonce : PyStr) : Bool :=
  nonce.all fun c => isDigit c || (65 ≤ c && c ≤ 90) || (97 ≤ c && c ≤ 122) || c = 45 || c = 95

structure HttpResponse where
  status : Nat
  body : Bytes
  headers : List (PyStr × PyStr)

/-- What comes of `processor.execute`. -/
inductive Outcome (D : Type)
  | answer (response : AgentCommandResponse D) (status : Nat)
  /-- `RunnerError`, `DockerException`, `OSError` or `RuntimeError`. -/
  | unavailable (message : PyStr)
  | fault

/-- A response that has been signed. -/
structure ContractResponse (D : Type) where
  response : AgentCommandResponse D
  status : Nat
  body : Bytes

/-- What `execute_command` leaves and returns: `executed` is the command that it gave to the processor; without an
answer the framework returns an error that nobody signed. -/
structure Handled (D : Type) where
  agent : Endpoint
  executed : Option AgentCommand
  answer : Option (ContractResponse D)

/-- `MAX_COMMAND_BODY_BYTES`. -/
def maxCommandBodyBytes : Nat := 2 * 1024 * 1024

/-- `NULL_REQUEST_ID`. -/
def nullRequestId : Uuid := 0

section

variable {D : Type} (e : Surroundings D)

/-- The request or response that a side is given, as `verify` sees it. -/
def Surroundings.presented (body : Bytes) (headers : List (PyStr × PyStr)) : SignedRequest :=
  signedRequest e.casing body headers

/-- The signature over an input. -/
def Surroundings.signature (input : Bytes) : PyStr := signatureVersion ++ py "=" ++ e.hmac e.signer.secret input

/-- The signing input of what was signed. -/
def Signed.input (m : Signed) : Option Bytes := signingInput m.body (strInt m.timestamp) m.nonce

/-- What `verify` sees of what was signed. -/
def Signed.request (m : Signed) : SignedRequest :=
  ⟨m.body, strInt m.timestamp, m.nonce, (m.input.map e.signature).getD []⟩

/-! ## The agent -/

/-- The test of `content-length`; `none` is a `ValueError`. -/
def declaredTooLarge (headers : List (PyStr × PyStr)) : Option Bool :=
  match headers.find? fun header => header.1.lower e.casing = py "content-length" with
  | none | some (_, []) => some false
  | some (_, text) => if e.isdigit text then (e.int text).map fun n =>
    decide ((maxCommandBodyBytes : Int) < n) else some false

/-- The response of `_signed_contract_error`. -/
def contractError (requestId : Uuid) (now : D) (message errorCode : PyStr) : AgentCommandResponse D :=
  ⟨requestId, false, .failed, now, some message, some errorCode, []⟩

/-- `_signed_contract_response`. -/
def signedContractResponse (response : AgentCommandResponse D) (status : Nat) : Option (ContractResponse D) :=
  (canonicalJson (response.json e.pydantic)).map fun body => ⟨response, status, body⟩

/-- The answer to a command that reached the processor, whose responses have the id of the command. -/
def Outcome.response (outcome : Outcome D) (command : AgentCommand) (now : D) : AgentCommandResponse D × Nat :=
  match outcome with
  | .answer response status => ({ response with requestId := command.requestId }, status)
  | .unavailable message => (contractError command.requestId now message (py "runner_unavailable"), 503)
  | .fault => (contractError command.requestId now (py "node-agent 内部错误") (py "internal_error"), 500)

/-- `_signed_contract_error`. -/
def refuse (agent : Endpoint) (requestId : Uuid) (now : D) (status : Nat) (message errorCode : PyStr) : Handled D :=
  ⟨agent, none, signedContractResponse e (contractError requestId now message errorCode) status⟩

/-- `execute_command`; `fresh` is the default of `request_id`. -/
def executeCommand (agent : Endpoint) (body : Bytes) (headers : List (PyStr × PyStr))
    (processor : AgentCommand → Outcome D)
    (fresh : Uuid) (now : D) : Handled D :=
  let tooLarge := refuse e agent nullRequestId now 413 (py "AgentCommand 请求体超过 2 MiB 限制") (py "body_too_large")
  match declaredTooLarge e headers with
  | none => ⟨agent, none, none⟩
  | some true => tooLarge
  | some false =>
    if maxCommandBodyBytes < body.length then tooLarge
    else
      let agent' := agent.handle e.casing e.int e.hmac e.signer (.request body headers)
      match (agent.cache.verify e.casing e.int e.hmac e.signer body headers agent.clock).1 with
      | .error .escape => ⟨agent', none, none⟩
      | .error (.signature message) => refuse e agent' nullRequestId now 401 message (py "invalid_signature")
      | .ok () =>
        match AgentCommand.validateJson e.pydantic fresh body with
        | none => refuse e agent' nullRequestId now 422 (py "请求体不是有效的 AgentCommand") (py "invalid_command")
        | some command =>
          match canonicalJson command.json with
          | none =>
            refuse e agent' command.requestId now 422 (py "AgentCommand 包含非有限数值或不可编码字段") (py "invalid_command")
          | some normalizedBody =>
            if normalizedBody ≠ body then
              refuse e agent' command.requestId now 422 (py "AgentCommand 必须使用规范化 JSON 原始字节")
                (py "non_canonical_json")
            else
              let answer := (processor command).response command now
              ⟨agent', some command, signedContractResponse e answer.1 answer.2⟩

/-! ## The control plane -/

/-- A 4xx that says that the command was refused. -/
def definiteRejection (result : AgentCommandResponse D) : Bool :=
  !result.accepted && result.observedState ∈ [.absent, .failed] && result.errorCode.getD [] ≠ []

/-- The status allows the answer to be taken for what happened. -/
def HttpResponse.settles (response : HttpResponse) (result : AgentCommandResponse D) : Bool :=
  if 400 ≤ response.status ∧ response.status < 500 then definiteRejection result
  else 200 ≤ response.status ∧ response.status < 300

/-- What `NodeAgentHTTPClient.execute` makes of a response; `none` is an exception. -/
def receiveResponse (now : Int) (command : AgentCommand) (response : HttpResponse) :
    Option (AgentCommandResponse D) := do
  let _ ← (e.signer.verify e.casing e.int e.hmac response.body response.headers now none).toOption
  let result ← AgentCommandResponse.validateJson e.pydantic response.body
  if response.settles result ∧ result.requestId = command.requestId then some result else none

/-! ## The network -/

/-- The agent, the clock of the control plane, and what has happened: what each side signed, what the agent executed
with the answer that it signed, and what calls of `execute` returned; newest first, and read by no step but to
know the calls. -/
structure Network (D : Type) where
  agent : Endpoint
  clientClock : Int
  sent : List (AgentCommand × Signed)
  answered : List Signed
  executed : List (AgentCommand × Option (AgentCommandResponse D))
  received : List (AgentCommand × AgentCommandResponse D)

inductive NetworkLabel (D : Type)
  /-- Time passes on each side. -/
  | pass (agentSeconds clientSeconds : Nat)
  /-- A call of `execute`. -/
  | send (command : AgentCommand) (nonce : PyStr)
  /-- The network gives a request to the agent. -/
  | deliver (body : Bytes) (headers : List (PyStr × PyStr)) (processor : AgentCommand → Outcome D)
    (fresh : Uuid) (now : D)
    (nonce : PyStr)
  /-- The network gives a response to a call. -/
  | receive (command : AgentCommand) (response : HttpResponse)

/-- The agent has handled a request. -/
def Network.after (s : Network D) (h : Handled D) (nonce : PyStr) : Network D :=
  { s with
    agent := h.agent
    answered := (h.answer.map fun a => ⟨a.body, s.agent.clock, nonce⟩).toList ++ s.answered
    executed := (h.executed.map fun command => (command, h.answer.map (·.response))).toList ++ s.executed }

/-- Both sides, from these clocks. -/
def network (agentStart clientStart : Int) : System (Network D) (NetworkLabel D) where
  init := ⟨⟨agentStart, .new e.signer.maxClockSkewSeconds, []⟩, clientStart, [], [], [], []⟩
  step s
    | .pass agentSeconds clientSeconds =>
      some { s with
        agent := s.agent.handle e.casing e.int e.hmac e.signer (.tick agentSeconds)
        clientClock := s.clientClock + clientSeconds }
    | .send command nonce =>
      (canonicalJson command.json).map fun body => { s with sent := (command, ⟨body, s.clientClock, nonce⟩) :: s.sent }
    | .deliver body headers processor fresh now nonce =>
      some (s.after (executeCommand e s.agent body headers processor fresh now) nonce)
    | .receive command response =>
      if command ∈ s.sent.map Prod.fst then
        match receiveResponse e s.clientClock command response with
        | none => some s
        | some result => some { s with received := (command, result) :: s.received }
      else none

/-- All that has been signed. -/
def Network.signed (s : Network D) : List Signed := s.sent.map Prod.snd ++ s.answered

/-- The signature, if it is right, is one of a message that a side has signed. -/
structure Unforged (s : Network D) (body : Bytes) (headers : List (PyStr × PyStr)) : Prop where
  text : ∀ header ∈ headers, IsUnicode header.2
  signed : ∀ input, signingInput body (e.presented body headers).timestamp
    (e.presented body headers).nonce = some input →
    (e.presented body headers).signature = e.signature input → ∃ m ∈ s.signed, m.input = some input

/-- The adversary cannot sign. A command that is sent is valid and has an id of its own, as `uuid4` gives it; nonces are
those of `token_urlsafe`; and the answers of the processor come back from their text. -/
def Assumed (s : Network D) (l : NetworkLabel D) (_ : Network D) : Prop :=
  match l with
  | .pass .. => True
  | .send command nonce =>
    command.Valid e.pydantic ∧ command.requestId ≠ nullRequestId ∧
      command.requestId ∉ s.sent.map (fun x => x.1.requestId) ∧ isUrlsafe nonce = true
  | .deliver body headers processor _ now nonce =>
    Unforged e s body headers ∧ isUrlsafe nonce = true ∧
      ∀ command, command.requestId < 2 ^ 128 → ((processor command).response command now).1.Valid e.pydantic
  | .receive _ response => Unforged e s response.body response.headers

/-- What a run of the network is to the channel. -/
def Network.channel (s : Network D) : Channel AgentCommand (AgentCommandResponse D) :=
  ⟨s.sent.map (·.1.sorted), s.executed.map fun x =>
    (x.1, x.2.map (·.sorted)), s.received.map fun x => (x.1.sorted, x.2)⟩

end

/-! ## Signing inputs -/

section

theorem encode_inj {s t : PyStr} {b : Bytes} (hs : IsUnicode s) (ht : IsUnicode t) (h : s.encode = some b)
    (h' : t.encode = some b) : s = t :=
  Option.some.inj ((decodeUtf8_encode hs h).symm.trans (decodeUtf8_encode ht h'))

theorem signingInput_eq_some {body input : Bytes} {timestamp nonce : PyStr} :
    signingInput body timestamp nonce = some input ↔ ∃ t n, timestamp.encode = some t ∧ nonce.encode = some n ∧
      input = [118, 49] ++ 10 :: (t ++ 10 :: (n ++ 10 :: body)) := by
  have hversion : signatureVersion.encode = some [118, 49] := by decide
  unfold signingInput
  rw [hversion]
  constructor
  · intro h
    obtain ⟨version, hversion, h⟩ := bind_eq_some.mp h
    obtain ⟨t, ht, h⟩ := bind_eq_some.mp h
    obtain ⟨n, hn, h⟩ := bind_eq_some.mp h
    obtain rfl := Option.some.inj hversion
    exact ⟨t, n, ht, hn, (Option.some.inj h).symm.trans (by simp [List.intercalate])⟩
  · rintro ⟨t, n, ht, hn, rfl⟩
    rw [ht, hn]
    exact congrArg some (by simp [List.intercalate])

/-- What is signed in one line each is signed for nothing else: the three line breaks are those between the parts. -/
theorem signingInput_inj {body body' input : Bytes} {timestamp timestamp' nonce nonce' : PyStr}
    (h : signingInput body timestamp nonce = some input) (h' : signingInput body' timestamp' nonce' = some input)
    (ht : IsUnicode timestamp) (hn : IsUnicode nonce) (ht' : IsUnicode timestamp') (hn' : IsUnicode nonce')
    (hbody : 10 ∉ body') (htimestamp : 10 ∉ timestamp') (hnonce : 10 ∉ nonce') :
    body = body' ∧ timestamp = timestamp' ∧ nonce = nonce' := by
  obtain ⟨t, n, hte, hne, hinput⟩ := signingInput_eq_some.mp h
  obtain ⟨t', n', hte', hne', hinput'⟩ := signingInput_eq_some.mp h'
  have htline : 10 ∉ t' := fun hmem => htimestamp (ascii_of_encode (by decide) ht' hte' hmem)
  have hnline : 10 ∉ n' := fun hmem => hnonce (ascii_of_encode (by decide) hn' hne' hmem)
  have heq : t ++ 10 :: (n ++ 10 :: body) = t' ++ 10 :: (n' ++ 10 :: body') := by
    have := hinput.symm.trans hinput'
    exact (List.cons.inj (List.append_cancel_left this)).2
  have hcount := congrArg (List.count 10) heq
  simp only [List.count_append, List.count_cons_self, List.count_eq_zero_of_not_mem htline,
    List.count_eq_zero_of_not_mem hnline, List.count_eq_zero_of_not_mem hbody] at hcount
  have htzero : 10 ∉ t := List.count_eq_zero.mp (by omega)
  have hnzero : 10 ∉ n := List.count_eq_zero.mp (by omega)
  obtain ⟨rfl, hrest⟩ := cut_first_unique heq htzero htline
  obtain ⟨rfl, rfl⟩ := cut_first_unique hrest hnzero hnline
  exact ⟨rfl, encode_inj ht ht' hte hte', encode_inj hn hn' hne hne'⟩

/-- A time is one line of ASCII. -/
theorem strInt_line (n : Int) : IsUnicode (strInt n) ∧ 10 ∉ strInt n := by
  refine ⟨chars_strInt (fun c _ hc => by omega) n, fun hmem => ?_⟩
  exact absurd (chars_strInt (Q := (10 < ·)) (fun c hc _ => by omega) n 10 hmem) (by decide)

theorem isUrlsafe_line {nonce : PyStr} (h : isUrlsafe nonce = true) : IsUnicode nonce ∧ 10 ∉ nonce := by
  have hchar {c : Nat} (hc : c ∈ nonce) : 45 ≤ c ∧ c ≤ 122 := by
    have := List.all_eq_true.mp h c hc
    simp only [isDigit, Bool.or_eq_true, Bool.and_eq_true, decide_eq_true_eq] at this
    omega
  refine ⟨fun c hc => ?_, fun hmem => absurd (hchar hmem).1 (by decide)⟩
  have := (hchar hc).2
  omega

end

/-! ## Verified messages -/

section

variable {D : Type} {e : Surroundings D} {body : Bytes} {headers : List (PyStr × PyStr)} {now : Int}

theorem mem_of_header? {casing : Casing} {name value : PyStr} (h : header? casing headers name = some value) :
    ∃ header ∈ headers, header.2 = value := by
  obtain ⟨hget, -⟩ := Option.filter_eq_some_iff.mp h
  rw [normalizedHeaders, Dict.get?_update_last, Dict.get?, Option.or_none] at hget
  obtain ⟨name', hmem, -⟩ := Dict.mem_mapKeys.mp (List.mem_reverse.mp (Dict.mem_of_get? hget))
  exact ⟨_, hmem, rfl⟩

theorem header?_unicode (h : ∀ header ∈ headers, IsUnicode header.2) (casing : Casing) (name : PyStr) :
    IsUnicode ((header? casing headers name).getD []) := by
  cases hvalue : header? casing headers name with
  | none => exact fun c hc => absurd hc List.not_mem_nil
  | some value =>
    obtain ⟨header, hmem, rfl⟩ := mem_of_header? hvalue
    exact h header hmem

/-- What is verified bears the signature over it. -/
theorem signature_of_verify {seen seen' : Option (List PyStr)}
    (h : e.signer.verify e.casing e.int e.hmac body headers now seen = .ok seen') :
    ∃ input, signingInput body (e.presented body headers).timestamp (e.presented body headers).nonce = some input ∧
      (e.presented body headers).signature = e.signature input := by
  unfold HMACSigner.verify at h
  split at h <;> [skip; cases h]
  rename_i timestamp nonce signature ht hn hs
  split at h <;> [cases h; skip]
  split at h <;> [cases h; skip]
  split at h <;> [cases h; skip]
  split at h <;> [cases h; cases h; skip]
  rename_i hmatch
  obtain ⟨expected, hexpected, hcompare⟩ := Option.bind_eq_some_iff.mp hmatch
  obtain ⟨input, hinput, rfl⟩ := Option.map_eq_some_iff.mp hexpected
  obtain ⟨-, hcompare⟩ := Option.ite_none_right_eq_some.mp hcompare
  have hsignature : signature = e.signature input := of_decide_eq_true (Option.some.inj hcompare)
  simp only [Surroundings.presented, signedRequest, ht, hn, hs, Option.getD_some]
  exact ⟨input, hinput, hsignature⟩

/-- A message of which each part is one line. -/
structure Signed.Line (m : Signed) : Prop where
  body : 10 ∉ m.body
  nonce : IsUnicode m.nonce ∧ 10 ∉ m.nonce

/-- What is verified is what a side has signed, as a whole. -/
theorem Unforged.presented_eq {s : Network D} (h : Unforged e s body headers) (hline : ∀ m ∈ s.signed, m.Line)
    {seen seen' : Option (List PyStr)} (hok : e.signer.verify e.casing e.int e.hmac body headers now seen = .ok seen') :
    ∃ m ∈ s.signed, e.presented body headers = m.request e := by
  obtain ⟨input, hinput, hsignature⟩ := signature_of_verify hok
  obtain ⟨m, hm, hminput⟩ := h.signed input hinput hsignature
  have hl := hline m hm
  have htime := strInt_line m.timestamp
  obtain ⟨hbody, htimestamp, hnonce⟩ := signingInput_inj hinput hminput (header?_unicode h.text _ _)
    (header?_unicode h.text _ _) htime.1 hl.nonce.1 hl.body htime.2 hl.nonce.2
  refine ⟨m, hm, ?_⟩
  rw [Signed.request, hminput, ← hbody, ← htimestamp, ← hnonce]
  show (⟨body, _, _, (e.presented body headers).signature⟩ : SignedRequest) = _
  rw [hsignature]
  rfl

/-- An accepted request has been verified. -/
theorem verify_of_not_rejects {agent : Endpoint}
    (h : agent.rejects e.casing e.int e.hmac e.signer (.request body headers) = false) :
    ∃ seen seen', e.signer.verify e.casing e.int e.hmac body headers agent.clock seen = .ok seen' := by
  have hok : (agent.cache.verify e.casing e.int e.hmac e.signer body headers agent.clock).1.isOk = true := by
    simpa [Endpoint.rejects] using h
  unfold NonceReplayCache.verify at hok
  dsimp only at hok
  split at hok
  · cases hok
  · split at hok
    · cases hok
    · exact ⟨_, _, ‹_›⟩

end

/-! ## The agent's answers -/

section

variable {D : Type} {e : Surroundings D} {body : Bytes} {headers : List (PyStr × PyStr)}

theorem isUnicode_of_all {s : PyStr} (h : s.all (· < 0x110000) = true) : IsUnicode s := fun c hc =>
  of_decide_eq_true (List.all_eq_true.mp h c hc)

/-- The texts of the errors are no payload. -/
theorem message_unicode {cache : NonceReplayCache} {now : Int} {message : PyStr}
    (h : (cache.verify e.casing e.int e.hmac e.signer body headers now).1 = .error (.signature message)) :
    IsUnicode message := by
  have hsigner {seen : Option (List PyStr)}
      (h : e.signer.verify e.casing e.int e.hmac body headers now seen =
        .error (.signature message)) : IsUnicode message := by
    unfold HMACSigner.verify at h
    split at h
    · split at h
      · cases h
        exact isUnicode_of_all (by decide)
      split at h
      · cases h
        exact isUnicode_of_all (by decide)
      split at h
      · cases h
        exact isUnicode_of_all (by decide)
      split at h
      · cases h
      · cases h
        exact isUnicode_of_all (by decide)
      · cases h
    · cases h
      exact isUnicode_of_all (by decide)
  unfold NonceReplayCache.verify at h
  dsimp only at h
  split at h
  · cases h
    exact isUnicode_of_all (by decide)
  · split at h
    · cases h
      exact hsigner ‹_›
    · cases h

theorem uuidText_unicode (u : Uuid) : IsUnicode (uuidText u) := by
  have hhex (width n : Nat) : Chars (· < 0x110000) (hexDigits width n) :=
    chars_hexDigits (fun c _ hc => by omega) width n
  refine Chars.intercalate (isUnicode_of_all (by decide)) ?_
  simp only [List.forall_mem_cons]
  exact ⟨hhex _ _, hhex _ _, hhex _ _, hhex _ _, hhex _ _, nofun⟩

theorem workloadState_unicode (state : AgentWorkloadState) : IsUnicode state.value := by
  cases state <;> exact isUnicode_of_all (by decide)

/-- The agent's own errors come back from their text. -/
theorem contractError_valid (hp : e.pydantic.Reads) {requestId : Uuid} (hid : requestId < 2 ^ 128) (now : D)
    {message errorCode : PyStr} (hmessage : IsUnicode message) (hcode : IsUnicode errorCode) :
    (contractError requestId now message errorCode).Valid e.pydantic := by
  have hname {name : String} (h : (py name).all (· < 0x110000) = true) : IsUnicode (py name) := isUnicode_of_all h
  refine ⟨hid, ⟨AgentCommandResponse.nodup_fields _ _, ?_⟩, ?_, ?_⟩
  · exact ⟨trivial, trivial, trivial, trivial, trivial, trivial, trivial, ⟨List.nodup_nil, trivial⟩, trivial⟩
  · exact ⟨hname (by decide), hname (by decide), hname (by decide), uuidText_unicode _, hname (by decide), trivial,
      hname (by decide), workloadState_unicode _, hname (by decide), hp.isoformat _, hname (by decide), hmessage,
      hname (by decide), hcode, hname (by decide), trivial, trivial⟩
  · show (2 : Nat) ≤ 200
    decide

/-- The agent executes nothing and answers nobody, if at all. -/
structure Refuses (e : Surroundings D) (agent : Endpoint) (body : Bytes)
    (headers : List (PyStr × PyStr)) (h : Handled D) :
    Prop where
  executed : h.executed = none
  agent : h.agent = agent ∨ h.agent = agent.handle e.casing e.int e.hmac e.signer (.request body headers)
  answer : ∀ a ∈ h.answer, a.response.requestId = nullRequestId ∧ a.response.Valid e.pydantic ∧
    canonicalJson (a.response.json e.pydantic) = some a.body

theorem refuses_refuse (hp : e.pydantic.Reads) {agent agent' : Endpoint}
    (hagent : agent' = agent ∨ agent' = agent.handle e.casing e.int e.hmac e.signer (.request body headers)) (now : D)
    (status : Nat) {message errorCode : PyStr} (hmessage : IsUnicode message) (hcode : IsUnicode errorCode) :
    Refuses e agent body headers (refuse e agent' nullRequestId now status message errorCode) := by
  refine ⟨rfl, hagent, fun a ha => ?_⟩
  obtain ⟨b, hb, rfl⟩ := Option.map_eq_some_iff.mp ha
  exact ⟨rfl, contractError_valid hp (by decide) now hmessage hcode, hb⟩

/-- What the agent does with a request: it refuses it; or it has accepted the request, and reads a command that is not
canonical, or executes it. -/
theorem executeCommand_cases (hp : e.pydantic.Reads) (agent : Endpoint) (body : Bytes) (headers : List (PyStr × PyStr))
    (processor : AgentCommand → Outcome D) (fresh : Uuid) (now : D) :
    let h := executeCommand e agent body headers processor fresh now
    Refuses e agent body headers h ∨
    agent.rejects e.casing e.int e.hmac e.signer (.request body headers) = false ∧
      ∃ command, AgentCommand.validateJson e.pydantic fresh body = some command ∧
        (canonicalJson command.json ≠ some body ∨
          h = ⟨agent.handle e.casing e.int e.hmac e.signer (.request body headers), some command,
            signedContractResponse e ((processor command).response command now).1
              ((processor command).response command now).2⟩) := by
  dsimp only
  unfold executeCommand
  dsimp only
  split
  · exact .inl ⟨rfl, .inl rfl, fun a ha => absurd ha (Option.not_mem_none a)⟩
  · refine .inl (refuses_refuse hp (.inl rfl) _ _ ?_ ?_) <;> exact isUnicode_of_all (by decide)
  split
  · refine .inl (refuses_refuse hp (.inl rfl) _ _ ?_ ?_) <;> exact isUnicode_of_all (by decide)
  split
  · exact .inl ⟨rfl, .inr rfl, fun a ha => absurd ha (Option.not_mem_none a)⟩
  · rename_i message hmessage
    refine .inl (refuses_refuse hp (.inr rfl) _ _ (message_unicode hmessage) ?_)
    exact isUnicode_of_all (by decide)
  rename_i hok
  have haccepted : agent.rejects e.casing e.int e.hmac e.signer (.request body headers) = false := by
    rw [Endpoint.rejects, hok]
    rfl
  split
  · refine .inl (refuses_refuse hp (.inr rfl) _ _ ?_ ?_) <;> exact isUnicode_of_all (by decide)
  rename_i command hcommand
  refine .inr ⟨haccepted, command, hcommand, ?_⟩
  split
  · rename_i hnone
    exact .inl (hnone ▸ (Option.some_ne_none body).symm)
  rename_i normalized hnormalized
  split
  · rename_i hne
    exact .inl fun h => hne (Option.some.inj (hnormalized.symm.trans h))
  · exact .inr rfl

end

/-! ## The invariant -/

section

variable {D : Type} {e : Surroundings D} {s : Network D} {body : Bytes} {headers : List (PyStr × PyStr)}

/-- What the agent executed was sent, and its request is one that the agent accepted; what the agent signed answers
nobody, or a command that it executed. -/
structure NetworkInv (e : Surroundings D) (s : Network D) : Prop where
  accept : AcceptInv e.int e.signer s.agent
  sent : ∀ x ∈ s.sent, x.1.Valid e.pydantic ∧ x.1.requestId ≠ nullRequestId ∧
    canonicalJson x.1.json = some x.2.body ∧ isUrlsafe x.2.nonce = true
  distinct : (s.sent.map fun x => x.1.requestId).Nodup
  answered : ∀ m ∈ s.answered, isUrlsafe m.nonce = true ∧ ∃ r : AgentCommandResponse D, r.Valid e.pydantic ∧
    canonicalJson (r.json e.pydantic) = some m.body ∧
      (r.requestId = nullRequestId ∨ ∃ x ∈ s.executed, x.1.requestId = r.requestId ∧ x.2 = some r)
  executed : ∀ x ∈ s.executed, ∃ y ∈ s.sent, x.1 = y.1.sorted ∧ y.2.request e ∈ s.agent.accepted
  once : (s.executed.map fun x => x.1.requestId).Nodup

theorem NetworkInv.line (h : NetworkInv e s) : ∀ m ∈ s.signed, m.Line := by
  intro m hm
  rcases List.mem_append.mp hm with hm | hm
  · obtain ⟨x, hx, rfl⟩ := List.mem_map.mp hm
    obtain ⟨hvalid, -, hbody, hnonce⟩ := h.sent x hx
    exact ⟨canonicalJson_line hvalid.sound.unicode hbody, isUrlsafe_line hnonce⟩
  · obtain ⟨hnonce, r, hvalid, hbody, -⟩ := h.answered m hm
    exact ⟨canonicalJson_line hvalid.sound.unicode hbody, isUrlsafe_line hnonce⟩

/-- What is verified is a command as it was sent, or an answer of the agent. -/
theorem NetworkInv.verified (h : NetworkInv e s) (hunforged : Unforged e s body headers) {now : Int}
    {seen seen' : Option (List PyStr)} (hok : e.signer.verify e.casing e.int e.hmac body headers now seen = .ok seen') :
    (∃ x ∈ s.sent, canonicalJson x.1.json = some body ∧ e.presented body headers = x.2.request e) ∨
      ∃ r : AgentCommandResponse D, r.Valid e.pydantic ∧ canonicalJson (r.json e.pydantic) = some body ∧
        (r.requestId = nullRequestId ∨ ∃ x ∈ s.executed, x.1.requestId = r.requestId ∧ x.2 = some r) := by
  obtain ⟨m, hm, hpresented⟩ := hunforged.presented_eq h.line hok
  have hbody : body = m.body := congrArg SignedRequest.body hpresented
  rcases List.mem_append.mp hm with hm | hm
  · obtain ⟨x, hx, rfl⟩ := List.mem_map.mp hm
    exact .inl ⟨x, hx, hbody ▸ (h.sent x hx).2.2.1, hpresented⟩
  · obtain ⟨-, r, hvalid, hr, hanswers⟩ := h.answered m hm
    exact .inr ⟨r, hvalid, hbody ▸ hr, hanswers⟩

theorem NetworkInv.sent_unique (h : NetworkInv e s) {x y : AgentCommand × Signed} (hx : x ∈ s.sent) (hy : y ∈ s.sent)
    (hid : x.1.requestId = y.1.requestId) : x = y :=
  List.inj_on_of_nodup_map h.distinct hx hy hid

/-- The agent refuses what it is given, or executes a command that was sent and that it has not executed. -/
theorem NetworkInv.deliver_cases (h : NetworkInv e s) (hp : e.pydantic.Reads) (hunforged : Unforged e s body headers)
    (processor : AgentCommand → Outcome D) (fresh : Uuid) (now : D) :
    let handled := executeCommand e s.agent body headers processor fresh now
    let agent' := s.agent.handle e.casing e.int e.hmac e.signer (.request body headers)
    Refuses e s.agent body headers handled ∨
    ∃ x ∈ s.sent, agent'.accepted = x.2.request e :: s.agent.accepted ∧ x.2.request e ∉ s.agent.accepted ∧
      handled = ⟨agent', some x.1.sorted, signedContractResponse e ((processor x.1.sorted).response x.1.sorted now).1
        ((processor x.1.sorted).response x.1.sorted now).2⟩ := by
  rcases executeCommand_cases hp s.agent body headers processor fresh now with hrefused |
    ⟨haccepted, command, hread, hexecuted⟩
  · exact .inl hrefused
  obtain ⟨seen, seen', hok⟩ := verify_of_not_rejects haccepted
  rcases h.verified hunforged hok with ⟨x, hx, hbody, hpresented⟩ | ⟨r, hvalid, hbody, -⟩
  · have hvalid := (h.sent x hx).1
    obtain rfl := Option.some.inj ((validate_command hp hvalid hbody fresh).symm.trans hread)
    have hexecuted := hexecuted.resolve_left fun hne => hne ((canonicalJson_sorted hvalid).trans hbody)
    rcases s.agent.request_cases e.casing e.int e.hmac e.signer body headers with ⟨hrejects, -⟩ | ⟨-, hagent, hchecked⟩
    · exact absurd (hrejects.symm.trans haccepted) (by decide)
    have hfresh := h.accept.fresh hchecked
    have haccepted' := congrArg Endpoint.accepted hagent
    rw [show signedRequest e.casing body headers = x.2.request e from hpresented] at hfresh haccepted'
    exact .inr ⟨x, hx, haccepted', hfresh, hexecuted⟩
  · have hnone := response_not_command hp hvalid hbody fresh
    exact absurd (hnone.symm.trans hread) (by simp)

/-- A command that the agent has not accepted is one that it has not executed. -/
theorem NetworkInv.not_executed (h : NetworkInv e s) {x : AgentCommand × Signed} (hx : x ∈ s.sent)
    (hfresh : x.2.request e ∉ s.agent.accepted) : x.1.requestId ∉ s.executed.map fun y => y.1.requestId := by
  intro hmem
  obtain ⟨y, hy, hid⟩ := List.mem_map.mp hmem
  obtain ⟨z, hz, hyz, haccepted⟩ := h.executed y hy
  have hid : z.1.requestId = x.1.requestId := by rw [← hid, hyz]; rfl
  obtain rfl := h.sent_unique hz hx hid
  exact hfresh haccepted

theorem accepted_mono (agent : Endpoint) (body : Bytes) (headers : List (PyStr × PyStr)) :
    agent.accepted ⊆ (agent.handle e.casing e.int e.hmac e.signer (.request body headers)).accepted := by
  rcases agent.request_cases e.casing e.int e.hmac e.signer body headers with ⟨-, d, hd, -⟩ | ⟨-, hd, -⟩ <;> rw [hd]
  · exact List.Subset.refl _
  · exact List.subset_cons_self _ _

/-- An answer that a call returns is the one that the agent gave to its command. -/
theorem NetworkInv.receive_cases (h : NetworkInv e s) (hp : e.pydantic.Reads) {command : AgentCommand}
    {response : HttpResponse} {result : AgentCommandResponse D}
    (hunforged : Unforged e s response.body response.headers) (hcommand : command ∈ s.sent.map Prod.fst)
    (hresult : receiveResponse e s.clientClock command response = some result) :
    ∃ x ∈ s.executed, x.1 = command.sorted ∧ ∃ r, x.2 = some r ∧ result = r.sorted := by
  obtain ⟨seen, hseen, hresult⟩ := bind_eq_some.mp hresult
  obtain ⟨result', hread, hresult⟩ := bind_eq_some.mp hresult
  obtain ⟨⟨-, hid⟩, hresult⟩ := Option.ite_none_right_eq_some.mp hresult
  obtain rfl := Option.some.inj hresult
  obtain ⟨y, hy, rfl⟩ := List.mem_map.mp hcommand
  have hok : e.signer.verify e.casing e.int e.hmac response.body response.headers s.clientClock none = .ok seen := by
    cases hverify : e.signer.verify e.casing e.int e.hmac response.body response.headers s.clientClock none with
    | error error =>
      rw [hverify] at hseen
      cases hseen
    | ok seen' =>
      rw [hverify] at hseen
      exact congrArg Except.ok (Option.some.inj hseen)
  rcases h.verified hunforged hok with ⟨x, hx, hbody, -⟩ | ⟨r, hvalid, hbody, hanswers⟩
  · have hnone := command_not_response hp (h.sent x hx).1 hbody
    exact absurd (hnone.symm.trans hread) (by simp)
  · obtain rfl := Option.some.inj ((validate_response hp hvalid hbody).symm.trans hread)
    have hid : r.requestId = y.1.requestId := hid
    rcases hanswers with hnull | ⟨x, hx, hxid, hanswer⟩
    · exact absurd (hid.symm.trans hnull) (h.sent y hy).2.1
    · obtain ⟨z, hz, hxz, -⟩ := h.executed x hx
      have hzid : z.1.requestId = y.1.requestId := by rw [← hid, ← hxid, hxz]; rfl
      obtain rfl := h.sent_unique hz hy hzid
      exact ⟨x, hx, hxz, r, hanswer, rfl⟩

/-! ### Steps -/

theorem NetworkInv.send (h : NetworkInv e s) {command : AgentCommand} {m : Signed} (hvalid : command.Valid e.pydantic)
    (hnull : command.requestId ≠ nullRequestId) (hnew : command.requestId ∉ s.sent.map (fun x => x.1.requestId))
    (hnonce : isUrlsafe m.nonce = true) (hbody : canonicalJson command.json = some m.body) :
    NetworkInv e { s with sent := (command, m) :: s.sent } := by
  refine ⟨h.accept, List.forall_mem_cons.mpr ⟨⟨hvalid, hnull, hbody, hnonce⟩, h.sent⟩,
    List.nodup_cons.mpr ⟨hnew, h.distinct⟩,
    h.answered, fun x hx => ?_, h.once⟩
  obtain ⟨y, hy, hxy⟩ := h.executed x hx
  exact ⟨y, List.mem_cons_of_mem _ hy, hxy⟩

theorem NetworkInv.init (agentStart clientStart : Int) : NetworkInv e (network e agentStart clientStart).init :=
  ⟨AcceptInv.init agentStart, nofun, List.nodup_nil, nofun, nofun, List.nodup_nil⟩

/-- Under another agent and with other answers: the part of the invariant that does not depend on what was executed. -/
theorem NetworkInv.after (h : NetworkInv e s) {handled : Handled D} {nonce : PyStr}
    (haccept : AcceptInv e.int e.signer handled.agent)
    (hmono : s.agent.accepted ⊆ handled.agent.accepted) (hnonce : isUrlsafe nonce = true)
    (hanswer : ∀ a ∈ handled.answer, a.response.Valid e.pydantic ∧
      canonicalJson (a.response.json e.pydantic) = some a.body ∧
      (a.response.requestId = nullRequestId ∨ ∃ c ∈ handled.executed, c.requestId = a.response.requestId))
    (hexecuted : ∀ c ∈ handled.executed, ∃ y ∈ s.sent, c = y.1.sorted ∧ y.2.request e ∈ handled.agent.accepted ∧
      y.1.requestId ∉ s.executed.map fun x => x.1.requestId) : NetworkInv e (s.after handled nonce) := by
  have hmem {x : AgentCommand × Option (AgentCommandResponse D)} : x ∈ (s.after handled nonce).executed ↔
      (∃ c, handled.executed = some c ∧ (c, handled.answer.map (·.response)) = x) ∨ x ∈ s.executed := by
    rw [Network.after, List.mem_append, Option.mem_toList, Option.map_eq_some_iff]
  refine ⟨haccept, h.sent, h.distinct, fun m hm => ?_, fun x hx => ?_, ?_⟩
  · rcases List.mem_append.mp hm with hm | hm
    · obtain ⟨a, ha, rfl⟩ := Option.map_eq_some_iff.mp (Option.mem_toList.mp hm)
      obtain ⟨hvalid, hbody, hanswers⟩ := hanswer a ha
      refine ⟨hnonce, a.response, hvalid, hbody, hanswers.imp_right fun ⟨c, hc, hid⟩ => ?_⟩
      exact ⟨_, hmem.mpr (.inl ⟨c, hc, rfl⟩), hid, congrArg (Option.map (·.response)) ha⟩
    · obtain ⟨hnonce, r, hvalid, hbody, hanswers⟩ := h.answered m hm
      refine ⟨hnonce, r, hvalid, hbody, hanswers.imp_right fun ⟨x, hx, hxr⟩ => ?_⟩
      exact ⟨x, hmem.mpr (.inr hx), hxr⟩
  · rcases hmem.mp hx with ⟨c, hc, rfl⟩ | hx
    · obtain ⟨y, hy, hcy, haccepted, -⟩ := hexecuted c hc
      exact ⟨y, hy, hcy, haccepted⟩
    · obtain ⟨y, hy, hxy, haccepted⟩ := h.executed x hx
      exact ⟨y, hy, hxy, hmono haccepted⟩
  · show (((handled.executed.map fun command => (command, handled.answer.map (·.response))).toList ++
      s.executed).map _).Nodup
    cases hhandled : handled.executed with
    | none => exact h.once
    | some c =>
      obtain ⟨y, hy, rfl, -, hnew⟩ := hexecuted c hhandled
      exact List.nodup_cons.mpr ⟨hnew, h.once⟩

theorem NetworkInv.deliver (h : NetworkInv e s) (hp : e.pydantic.Reads) (hunforged : Unforged e s body headers)
    {processor : AgentCommand → Outcome D} {now : D} {nonce : PyStr} (hnonce : isUrlsafe nonce = true)
    (hprocessor : ∀ command, command.requestId < 2 ^ 128 →
      ((processor command).response command now).1.Valid e.pydantic)
    (fresh : Uuid) : NetworkInv e (s.after (executeCommand e s.agent body headers processor fresh now) nonce) := by
  have haccept : AcceptInv e.int e.signer (s.agent.handle e.casing e.int e.hmac e.signer (.request body headers)) :=
    h.accept.step _
  rcases h.deliver_cases hp hunforged processor fresh now with ⟨hnone, hagent, hanswer⟩ |
    ⟨x, hx, haccepted, hfresh, hhandled⟩
  · have hnothing {c : AgentCommand}
        (hc : c ∈ (executeCommand e s.agent body headers processor fresh now).executed) : False := by
      rw [hnone] at hc
      cases hc
    refine h.after ?_ ?_ hnonce (fun a ha => ?_) fun c hc => (hnothing hc).elim
    · rcases hagent with hagent | hagent <;> rw [hagent]
      · exact h.accept
      · exact haccept
    · rcases hagent with hagent | hagent <;> rw [hagent]
      · exact List.Subset.refl _
      · exact accepted_mono _ _ _
    · obtain ⟨hid, hvalid, hbody⟩ := hanswer a ha
      exact ⟨hvalid, hbody, .inl hid⟩
  · rw [hhandled]
    refine h.after haccept (accepted_mono _ _ _) hnonce (fun a ha => ?_) fun c hc => ?_
    · obtain ⟨b, hb, rfl⟩ := Option.map_eq_some_iff.mp ha
      have hid : ((processor x.1.sorted).response x.1.sorted now).1.requestId = x.1.requestId := by
        cases processor x.1.sorted <;> rfl
      exact ⟨hprocessor _ (h.sent x hx).1.requestId, hb, .inr ⟨x.1.sorted, rfl, hid.symm⟩⟩
    · obtain rfl := Option.some.inj hc
      exact ⟨x, hx, rfl, haccepted ▸ List.mem_cons_self, h.not_executed hx hfresh⟩

variable {agentStart clientStart : Int}

theorem NetworkInv.step (h : NetworkInv e s) (hp : e.pydantic.Reads) {l : NetworkLabel D} {s' : Network D}
    (hs : (network e agentStart clientStart).step s l = some s') (hc : Assumed e s l s') : NetworkInv e s' := by
  cases l with
  | pass agentSeconds clientSeconds =>
    obtain rfl := Option.some.inj hs
    have haccept : AcceptInv e.int e.signer (s.agent.handle e.casing e.int e.hmac e.signer (.tick agentSeconds)) :=
      h.accept.step _
    exact ⟨haccept, h.sent, h.distinct, h.answered, h.executed, h.once⟩
  | send command nonce =>
    obtain ⟨b, hb, rfl⟩ := Option.map_eq_some_iff.mp hs
    obtain ⟨hvalid, hnull, hnew, hnonce⟩ := hc
    exact h.send hvalid hnull hnew hnonce hb
  | deliver b hd processor fresh now nonce =>
    obtain rfl := Option.some.inj hs
    obtain ⟨hunforged, hnonce, hprocessor⟩ := hc
    exact h.deliver hp hunforged hnonce hprocessor fresh
  | receive command response =>
    obtain ⟨-, hs⟩ := Option.ite_none_right_eq_some.mp hs
    split at hs
    · obtain rfl := Option.some.inj hs
      exact h
    · obtain rfl := Option.some.inj hs
      exact ⟨h.accept, h.sent, h.distinct, h.answered, h.executed, h.once⟩

/-! ## Refinement -/

variable [DecidableEq D]

/-- Each step is one of the channel, or none. -/
theorem NetworkInv.simulates (h : NetworkInv e s) (hp : e.pydantic.Reads) {l : NetworkLabel D} {s' : Network D}
    (hs : (network e agentStart clientStart).step s l = some s') (hc : Assumed e s l s') :
    (atMostOnce AgentCommand.requestId).Reaches s.channel s'.channel := by
  have hids : (s.sent.map (·.1.sorted)).map AgentCommand.requestId = s.sent.map fun x => x.1.requestId := List.map_map
  cases l with
  | pass agentSeconds clientSeconds =>
    obtain rfl := Option.some.inj hs
    exact .refl _
  | send command nonce =>
    obtain ⟨b, hb, rfl⟩ := Option.map_eq_some_iff.mp hs
    obtain ⟨-, -, hnew, -⟩ := hc
    exact .step (k := .send command.sorted) (if_neg fun hmem => hnew (hids ▸ hmem))
  | deliver b hd processor fresh now nonce =>
    obtain rfl := Option.some.inj hs
    rcases h.deliver_cases hp hc.1 processor fresh now with ⟨hnone, -, -⟩ | ⟨x, hx, -, hfresh, hhandled⟩
    · have hsame : (s.after (executeCommand e s.agent b hd processor fresh now) nonce).channel = s.channel := by
        rw [Network.channel, Network.after, hnone]
        rfl
      rw [hsame]
      exact .refl _
    · rw [hhandled]
      refine .step (k := .perform x.1.sorted _) (if_pos ⟨List.mem_map_of_mem hx, fun hmem => ?_⟩)
      refine h.not_executed hx hfresh ?_
      have := List.mem_map_of_mem (f := AgentCommand.requestId) hmem
      rwa [Network.channel, List.map_map, List.map_map] at this
  | receive command response =>
    obtain ⟨hcommand, hs⟩ := Option.ite_none_right_eq_some.mp hs
    split at hs
    · obtain rfl := Option.some.inj hs
      exact .refl _
    · rename_i result hresult
      obtain rfl := Option.some.inj hs
      obtain ⟨x, hx, hxc, r, hr, rfl⟩ := h.receive_cases hp hc hcommand hresult
      refine .step (k := .receive command.sorted r.sorted) (if_pos (List.mem_map.mpr ⟨x, hx, ?_⟩))
      rw [hxc, hr]
      rfl

end

/-- Whatever the adversary delivers, the two sides use a channel on which each command is performed at most once, only
if it was sent, and each call returns the answer to its own command. -/
theorem network_refines {D : Type} [DecidableEq D] {e : Surroundings D}
    (hp : e.pydantic.Reads) {agentStart clientStart : Int}
    {ls : List (NetworkLabel D)}
    (h : (network e agentStart clientStart).EachStep (Assumed e) (network e agentStart clientStart).init ls) :
    (network e agentStart clientStart).Always
      (fun s => (atMostOnce AgentCommand.requestId).Reaches (atMostOnce AgentCommand.requestId).init s.channel ∧
        s.channel.Genuine AgentCommand.requestId)
      (network e agentStart clientStart).init ls := by
  have hreaches := System.always_of_simulation Network.channel (fun hi hs hc => NetworkInv.step hi hp hs hc)
    (fun hi hs hc => NetworkInv.simulates hi hp hs hc) (NetworkInv.init agentStart clientStart) h
  exact hreaches.mono fun s hs => ⟨hs, Channel.genuine hs⟩

end OpenLLMOps.Wire
