import OpenLLMOps.Channel.Answering
import OpenLLMOps.Training.Observation

/-!
# An undisturbed call

A call that the network leaves alone, while the clocks of the two sides agree within the skew, is executed, and the
control plane takes what the command processor answers (`undisturbed_call`). `strictPydantic` reads what
`Pydantic.Reads` asks for.
-/

namespace OpenLLMOps.Wire

open Framework

/-! ## What the two sides send -/

section

variable {D : Type} (e : Surroundings D)

/-- What the libraries are asked for by a call that succeeds: `int` and `isdigit` know the decimal numerals, and
digests are ASCII. -/
structure Surroundings.Plain : Prop where
  int : ∀ n, e.int (strInt n) = some n
  isdigit : ∀ n : Nat, e.isdigit (decimal n) = true
  ascii : ∀ secret input, (e.hmac secret input).all (· < 128) = true

/-- The headers of a message, those of `sign` last. -/
def Signed.headers (m : Signed) : List (PyStr × PyStr) :=
  [(py "content-type", py "application/json"), (py "content-length", decimal m.body.length),
    (timestampHeader, strInt m.timestamp), (nonceHeader, m.nonce), (signatureHeader, (m.request e).signature)]

/-- The names of the headers that either side reads. -/
def readHeaders : List PyStr :=
  [py "content-length", py "x-openllmops-timestamp", py "x-openllmops-nonce", py "x-openllmops-signature"]

/-- The headers of a message with others that neither side reads, in any order. -/
structure Signed.CarriedBy (m : Signed) (headers : List (PyStr × PyStr)) : Prop where
  own : ∀ header ∈ m.headers e, header ∈ headers
  others : ∀ header ∈ headers, header ∈ m.headers e ∨ header.1.lower e.casing ∉ readHeaders

theorem Signed.carriedBy_headers (m : Signed) : m.CarriedBy e (m.headers e) := ⟨fun _ => id, fun _ => .inl⟩

end

section

variable {D : Type} {e : Surroundings D} {m : Signed} {headers : List (PyStr × PyStr)}

/-- The names of the headers of a message, as they are compared. -/
theorem lower_headers : Dict.mapKeys (PyStr.lower e.casing) (m.headers e) =
    [(py "content-type", py "application/json"), (py "content-length", decimal m.body.length),
      (py "x-openllmops-timestamp", strInt m.timestamp), (py "x-openllmops-nonce", m.nonce),
      (py "x-openllmops-signature", (m.request e).signature)] := rfl

/-- Headers of a name that is read have the value that the message has for it. -/
theorem Signed.CarriedBy.value (h : m.CarriedBy e headers) {header : PyStr × PyStr} (hmem : header ∈ headers)
    {name value : PyStr} (hname : name ∈ readHeaders) (hlower : header.1.lower e.casing = name)
    (hvalue : Dict.get? (Dict.mapKeys (PyStr.lower e.casing) (m.headers e)) name = some value) : header.2 = value := by
  have hown : header ∈ m.headers e := (h.others header hmem).resolve_right (not_not.mpr (hlower ▸ hname))
  have hkeys : (Dict.keys (Dict.mapKeys (PyStr.lower e.casing) (m.headers e))).Nodup := by
    rw [lower_headers]
    show [py "content-type", py "content-length", py "x-openllmops-timestamp", py "x-openllmops-nonce",
      py "x-openllmops-signature"].Nodup
    decide
  have hlowered : (name, header.2) ∈ Dict.mapKeys (PyStr.lower e.casing) (m.headers e) :=
    Dict.mem_mapKeys.mpr ⟨header.1, hown, hlower⟩
  exact Option.some.inj ((Dict.get?_of_mem hkeys hlowered).symm.trans hvalue)

/-- What is read of the headers is what the message says. -/
theorem Signed.CarriedBy.header? (h : m.CarriedBy e headers) {name value : PyStr}
    (hname : name.lower e.casing ∈ readHeaders) (hne : value ≠ [])
    (hvalue : Dict.get? (Dict.mapKeys (PyStr.lower e.casing) (m.headers e)) (name.lower e.casing) = some value) :
    header? e.casing headers name = some value := by
  obtain ⟨own, hown, hlower⟩ := Dict.mem_mapKeys.mp (Dict.mem_of_get? hvalue)
  refine Option.filter_eq_some_iff.mpr ⟨?_, decide_eq_true hne⟩
  rw [normalizedHeaders, Dict.get?_update_last, Dict.get?_nil, Option.or_none]
  cases hget : Dict.get? (Dict.mapKeys (PyStr.lower e.casing) headers).reverse (name.lower e.casing) with
  | none =>
    have hmem : name.lower e.casing ∈ Dict.keys (Dict.mapKeys (PyStr.lower e.casing) headers).reverse :=
      List.mem_map.mpr ⟨_, List.mem_reverse.mpr (Dict.mem_mapKeys.mpr ⟨own, h.own _ hown, hlower⟩), rfl⟩
    exact absurd hmem (Dict.get?_eq_none.mp hget)
  | some found =>
    obtain ⟨name', hmem, hname'⟩ := Dict.mem_mapKeys.mp (List.mem_reverse.mp (Dict.mem_of_get? hget))
    exact congrArg some (h.value hmem hname hname' hvalue)

theorem strInt_ne_nil (n : Int) : strInt n ≠ [] := by
  cases n with
  | ofNat n => exact decimal_ne_nil n
  | negSucc n => exact List.cons_ne_nil _ _

theorem signature_signed {input : Bytes} (hinput : m.input = some input) :
    (m.request e).signature = e.signature input := by
  rw [Signed.request, hinput]
  rfl

theorem header?_signed (h : m.CarriedBy e headers) (hnonce : m.nonce ≠ []) {input : Bytes}
    (hinput : m.input = some input) :
    header? e.casing headers timestampHeader = some (strInt m.timestamp) ∧
      header? e.casing headers nonceHeader = some m.nonce ∧
      header? e.casing headers signatureHeader = some (e.signature input) := by
  have hsignature := @signature_signed D e m input hinput
  have hne : e.signature input ≠ [] := List.cons_ne_nil _ _
  refine ⟨?_, ?_, ?_⟩
  · exact h.header? (show py "x-openllmops-timestamp" ∈ readHeaders by decide) (strInt_ne_nil _) rfl
  · exact h.header? (show py "x-openllmops-nonce" ∈ readHeaders by decide) hnonce rfl
  · exact h.header? (show py "x-openllmops-signature" ∈ readHeaders by decide) hne (congrArg some hsignature)

/-- What the headers present is what was signed. -/
theorem presented_signed (h : m.CarriedBy e headers) (hnonce : m.nonce ≠ []) {input : Bytes}
    (hinput : m.input = some input) : e.presented m.body headers = m.request e := by
  obtain ⟨htimestamp, hn, hsignature⟩ := header?_signed h hnonce hinput
  rw [Surroundings.presented, signedRequest, htimestamp, hn, hsignature, Signed.request, hinput]
  rfl

/-- Whatever was signed may be delivered. -/
theorem unforged_signed {s : Network D} (hm : m ∈ s.signed) (h : m.CarriedBy e headers)
    (htext : ∀ header ∈ headers, IsUnicode header.2) (hnonce : m.nonce ≠ []) {input : Bytes}
    (hinput : m.input = some input) : Unforged e s m.body headers := by
  refine ⟨htext, fun input' hinput' _ => ⟨m, hm, ?_⟩⟩
  rw [presented_signed h hnonce hinput] at hinput'
  exact hinput'

theorem headers_unicode (hnonce : IsUnicode m.nonce) (hsignature : IsUnicode (m.request e).signature) :
    ∀ header ∈ m.headers e, IsUnicode header.2 := by
  have hdecimal : IsUnicode (decimal m.body.length) := chars_decimal (fun c _ hc => by omega) _
  simp only [Signed.headers, List.forall_mem_cons]
  exact ⟨isUnicode_of_all (by decide), hdecimal, (strInt_line m.timestamp).1, hnonce, hsignature, nofun⟩

/-- A message that is signed is verified while it is new. -/
theorem verify_signed (hplain : e.Plain) (h : m.CarriedBy e headers) (hnonce : m.nonce ≠ []) {input : Bytes}
    (hinput : m.input = some input) {now : Int}
    (hskew : (now - m.timestamp).natAbs ≤ e.signer.maxClockSkewSeconds) {seen : Option (List PyStr)}
    (hnew : ∀ nonces ∈ seen, m.nonce ∉ nonces) :
    e.signer.verify e.casing e.int e.hmac m.body headers now seen = .ok (seen.map (m.nonce :: ·)) := by
  obtain ⟨htimestamp, hn, hsignature⟩ := header?_signed h hnonce hinput
  have hascii : (e.signature input).all (· < 128) = true := by
    rw [Surroundings.signature, List.all_append, hplain.ascii]
    rfl
  have hcompare : (e.signer.expectedSignature e.hmac m.body (strInt m.timestamp) m.nonce).bind
      (compareDigest (e.signature input)) = some true := by
    have hinput : signingInput m.body (strInt m.timestamp) m.nonce = some input := hinput
    rw [HMACSigner.expectedSignature, hinput, Option.map_some, Option.bind_some]
    show compareDigest (e.signature input) (e.signature input) = some true
    rw [compareDigest, if_pos (by rw [List.all_append, hascii]; rfl)]
    exact congrArg some (decide_eq_true rfl)
  have hnew : ¬ ∃ nonces ∈ seen, m.nonce ∈ nonces := fun ⟨nonces, hseen, hmem⟩ => hnew nonces hseen hmem
  unfold HMACSigner.verify
  rw [htimestamp, hn, hsignature]
  dsimp only
  rw [hplain.int]
  dsimp only
  rw [if_neg (by omega), if_neg hnew, hcompare]

/-- An agent that has not seen the nonce accepts it. -/
theorem cache_verify_signed (hplain : e.Plain) (h : m.CarriedBy e headers)
    (hlength : 8 ≤ m.nonce.length ∧ m.nonce.length ≤ 256) {input : Bytes} (hinput : m.input = some input)
    {agent : Endpoint} (hskew : (agent.clock - m.timestamp).natAbs ≤ e.signer.maxClockSkewSeconds)
    (hnew : m.nonce ∉ Dict.keys agent.live) :
    (agent.cache.verify e.casing e.int e.hmac e.signer m.body headers agent.clock).1 = .ok () := by
  have hne : m.nonce ≠ [] := List.ne_nil_of_length_pos (by omega)
  have hnonce : (Dict.get? (normalizedHeaders e.casing headers)
      (PyStr.lower e.casing nonceHeader)).getD [] = m.nonce := by
    have hget := (Option.filter_eq_some_iff.mp (header?_signed h hne hinput).2.1).1
    rw [hget, Option.getD_some]
  have hnew (nonces : List PyStr) (hseen : nonces ∈ some (Dict.keys agent.live)) : m.nonce ∉ nonces := by
    obtain rfl := Option.some.inj hseen
    exact hnew
  have hverify := verify_signed hplain h hne hinput hskew hnew
  unfold NonceReplayCache.verify
  rw [hnonce]
  dsimp only
  rw [if_neg (by omega), show unexpired agent.cache.expiresAt agent.clock = agent.live from rfl, hverify]

theorem declaredTooLarge_signed (hplain : e.Plain) (h : m.CarriedBy e headers)
    (hlength : m.body.length ≤ maxCommandBodyBytes) : declaredTooLarge e headers = some false := by
  obtain ⟨c, s, hdecimal, -⟩ := head_decimal m.body.length
  have hint : e.int (decimal m.body.length) = some (m.body.length : Int) := hplain.int m.body.length
  have hdigit := hplain.isdigit m.body.length
  unfold declaredTooLarge
  cases hfind : headers.find? (fun header => header.1.lower e.casing = py "content-length") with
  | none => rfl
  | some header =>
    have hlower : header.1.lower e.casing = py "content-length" := by simpa using List.find?_some hfind
    have hvalue : header.2 = decimal m.body.length :=
      h.value (List.mem_of_find?_eq_some hfind) (by decide) hlower rfl
    obtain ⟨name, value⟩ := header
    dsimp only at hvalue
    rw [hvalue]
    rw [hdecimal] at hint hdigit ⊢
    show (if e.isdigit (c :: s) then _ else _) = _
    rw [if_pos hdigit, hint]
    exact congrArg some (decide_eq_false (by omega))

theorem input_of_unicode {body : Bytes} {timestamp : Int} {nonce : PyStr} (hnonce : isUrlsafe nonce = true) :
    ∃ input, (⟨body, timestamp, nonce⟩ : Signed).input = some input := by
  have hascii : ∀ c ∈ nonce, c < 0x80 := by
    intro c hc
    have := List.all_eq_true.mp hnonce c hc
    simp only [isDigit, Bool.or_eq_true, Bool.and_eq_true, decide_eq_true_eq] at this
    omega
  have htime : ∀ c ∈ strInt timestamp, c < 0x80 := chars_strInt (Q := (· < 0x80)) (fun c _ hc => by omega) timestamp
  exact ⟨_, signingInput_eq_some.mpr ⟨_, _, encode_ascii htime, encode_ascii hascii, rfl⟩⟩

theorem step_send {agentStart clientStart : Int} {s : Network D} {command : AgentCommand} {nonce : PyStr} {body : Bytes}
    (hbody : canonicalJson command.json = some body) :
    (network e agentStart clientStart).step s (.send command nonce) =
      some { s with sent := (command, ⟨body, s.clientClock, nonce⟩) :: s.sent } := by
  simp only [network, hbody, Option.map_some]

theorem step_receive {agentStart clientStart : Int} {s : Network D} {command : AgentCommand} {response : HttpResponse}
    (hcommand : command ∈ s.sent.map Prod.fst) :
    (network e agentStart clientStart).step s (.receive command response) =
      some { s with
        received := ((receiveResponse e s.clientClock command response).map (command, ·)).toList ++ s.received } := by
  simp only [network, if_pos hcommand]
  cases receiveResponse e s.clientClock command response <;> rfl

end

/-! ## The call -/

/-- A call that the network leaves alone: with the clocks within the skew and a nonce that the agent has not seen, the
agent executes the command, and the control plane takes the answer of the processor, a rejection too; when an exception
escapes from the processor, the call raises. -/
theorem undisturbed_call {D F : Type} [DecidableEq F] {e : Surroundings D} (hp : e.pydantic.Reads) (hplain : e.Plain)
    {settings : AgentSettings} {fingerprint : Option Uuid → AgentCommand → F}
    {earlier : List ProcessorLabel} {store : CommandStateStore F}
    (hstore : (processor settings fingerprint).run (processor settings fingerprint).init earlier = some store)
    {agentStart clientStart : Int} {s : Network D} {command : AgentCommand} (hvalid : command.Valid e.pydantic)
    {body : Bytes} (hbody : canonicalJson command.json = some body) (hlength : body.length ≤ maxCommandBodyBytes)
    {nonce nonce' : PyStr} (hnonce : isUrlsafe nonce = true ∧ 8 ≤ nonce.length ∧ nonce.length ≤ 256)
    (hnew : nonce ∉ Dict.keys s.agent.live) (hnonce' : isUrlsafe nonce' = true ∧ nonce' ≠ [])
    (hskew : (s.agent.clock - s.clientClock).natAbs ≤ e.signer.maxClockSkewSeconds)
    {headers headers' : List (PyStr × PyStr)}
    (hheaders : (⟨body, s.clientClock, nonce⟩ : Signed).CarriedBy e headers) {around : OpenLLMOps.Surroundings}
    {world : World} {written : Bool} {observedAt now : D} {escaped : Option PyStr} {r : AgentCommandResponse D}
    {status : Nat}
    (houtcome : (answering settings fingerprint store around world written observedAt escaped command.sorted).response
      command.sorted now = (r, status))
    (hr : r.Valid e.pydantic) {answer : Bytes} (hanswer : canonicalJson (r.json e.pydantic) = some answer)
    (hheaders' : (⟨answer, s.agent.clock, nonce'⟩ : Signed).CarriedBy e headers') (fresh : Uuid) :
    ∃ s', (network e agentStart clientStart).run s
        [.send command nonce,
          .deliver body headers (answering settings fingerprint store around world written observedAt escaped) fresh
            now nonce',
          .receive command ⟨status, answer, headers'⟩] = some s' ∧
      s'.executed = (command.sorted, some r) :: s.executed ∧
      s'.received = ((answered settings fingerprint store around world written command.sorted).map
        fun _ => (command, r.sorted)).toList ++ s.received := by
  obtain ⟨input, hinput⟩ := @input_of_unicode body s.clientClock nonce hnonce.1
  obtain ⟨input', hinput'⟩ := @input_of_unicode answer s.agent.clock nonce' hnonce'.1
  have hverify := cache_verify_signed hplain hheaders hnonce.2 hinput hskew hnew
  have hskew' : (s.clientClock - s.agent.clock).natAbs ≤ e.signer.maxClockSkewSeconds := by omega
  have hverify' : e.signer.verify e.casing e.int e.hmac answer headers' s.clientClock none = .ok none :=
    verify_signed hplain hheaders' hnonce'.2 hinput' hskew' nofun
  have hexecute : executeCommand e s.agent body headers
      (answering settings fingerprint store around world written observedAt escaped) fresh now =
      ⟨s.agent.handle e.casing e.int e.hmac e.signer (.request body headers), some command.sorted,
        some ⟨r, status, answer⟩⟩ := by
    unfold executeCommand
    rw [declaredTooLarge_signed hplain hheaders hlength]
    dsimp only
    rw [if_neg (Nat.not_lt.mpr hlength), hverify]
    dsimp only
    rw [validate_command hp hvalid hbody fresh]
    dsimp only
    rw [canonicalJson_sorted hvalid, hbody]
    dsimp only
    rw [if_neg (not_not.mpr rfl), houtcome, signedContractResponse, hanswer]
    rfl
  have hid : r.sorted.requestId = command.requestId := by
    have := congrArg (fun x => x.1.requestId) houtcome
    cases houtcome' : answering settings fingerprint store around world written observedAt escaped command.sorted <;>
      rw [houtcome'] at this <;> exact this.symm
  have hdefinite : store.Definite := (processor_definite earlier).of_run hstore
  have hsettles := settles_outcome (fun _ hresult => answered_definite hdefinite hresult) houtcome answer headers'
  have hreceive : receiveResponse e s.clientClock command ⟨status, answer, headers'⟩ =
      (answered settings fingerprint store around world written command.sorted).map fun _ => r.sorted := by
    unfold receiveResponse
    rw [hverify', validate_response hp hr hanswer]
    show (if _ then some r.sorted else none) = _
    rw [hsettles]
    cases answered settings fingerprint store around world written command.sorted with
    | some result => exact if_pos ⟨rfl, hid⟩
    | none => rfl
  let sent : Network D := { s with sent := (command, ⟨body, s.clientClock, nonce⟩) :: s.sent }
  let handled := executeCommand e s.agent body headers
    (answering settings fingerprint store around world written observedAt escaped) fresh now
  let answered := sent.after handled nonce'
  have hsend : (network e agentStart clientStart).step s (.send command nonce) = some sent := step_send hbody
  have hmem : command ∈ answered.sent.map Prod.fst := List.mem_cons_self
  refine ⟨{ answered with
    received := ((receiveResponse e s.clientClock command ⟨status, answer, headers'⟩).map (command, ·)).toList ++
      s.received }, ?_, ?_, ?_⟩
  · rw [System.run, hsend, Option.bind_some, System.run]
    show (System.step _ answered _).bind _ = _
    rw [step_receive hmem]
    rfl
  · show (handled.executed.map fun c => (c, handled.answer.map (·.response))).toList ++ s.executed = _
    rw [show handled = _ from hexecute]
    rfl
  · show (_ : Option _).toList ++ s.received = _
    rw [hreceive, Option.map_map]
    rfl

/-! ## A parser -/

/-- The value of hexadecimal digits. -/
def ofHex (digits : PyStr) : Option Nat := digits.foldlM (fun n c => (hexDigit? c).map (16 * n + ·)) 0

theorem ofHex_hexDigits (width n : Nat) : ofHex (hexDigits width n) = some (n % 16 ^ width) := by
  have hdigit : ∀ d < 16, hexDigit? (if d < 10 then 48 + d else 87 + d) = some d := by decide
  induction width generalizing n with
  | zero => rw [Nat.pow_zero, Nat.mod_one]; rfl
  | succ width ih =>
    unfold ofHex at ih ⊢
    rw [hexDigits, List.foldlM_append, ih, Nat.pow_succ', Nat.mod_mul, Nat.add_comm (n % 16)]
    show ((hexDigit? _).map _).bind _ = _
    rw [hdigit _ (Nat.mod_lt n (by decide))]
    rfl

theorem hexDigits_append (width width' n : Nat) :
    hexDigits (width + width') n = hexDigits width (n / 16 ^ width') ++ hexDigits width' n := by
  induction width' generalizing n with
  | zero => simp [hexDigits]
  | succ width' ih =>
    rw [Nat.add_succ, hexDigits, ih, hexDigits, List.append_assoc, Nat.pow_succ', Nat.div_div_eq_div_mul]

theorem hexDigits_ne_dash {width n c : Nat} (h : c ∈ hexDigits width n) : c ≠ 45 := by
  induction width generalizing n with
  | zero => cases h
  | succ width ih =>
    rcases List.mem_append.mp h with h | h
    · exact ih h
    · rw [List.mem_singleton.mp h]
      split <;> omega

/-- A UUID of 32 hexadecimal digits, hyphens left out. -/
def uuidOf (text : PyStr) : Option Uuid :=
  let digits := text.filter (· ≠ 45)
  if digits.length = 32 then ofHex digits else none

theorem uuidOf_uuidText {u : Uuid} (hu : u < 2 ^ 128) : uuidOf (uuidText u) = some u := by
  have hkeep (width n : Nat) : (hexDigits width n).filter (· ≠ 45) = hexDigits width n :=
    List.filter_eq_self.mpr fun c hc => decide_eq_true (hexDigits_ne_dash hc)
  have hdigits : (uuidText u).filter (· ≠ 45) = hexDigits 32 u := by
    have hdash : (py "-").filter (· ≠ 45) = [] := by decide
    rw [Training.uuidText_eq]
    simp only [List.filter_append, hkeep, hdash, List.nil_append]
    rw [show 32 = 8 + 24 by rfl, hexDigits_append, show 24 = 4 + 20 by rfl, hexDigits_append, show 20 = 4 + 16 by rfl,
      hexDigits_append, show 16 = 4 + 12 by rfl, hexDigits_append]
    rfl
  unfold uuidOf
  rw [hdigits]
  show (if _ then _ else _) = _
  rw [if_pos (Training.length_hexDigits 32 u), ofHex_hexDigits,
    Nat.mod_eq_of_lt (Nat.lt_of_lt_of_eq hu (by decide))]

/-- `int` of a decimal numeral. -/
def intOf : PyStr → Option Int
  | 45 :: digits => some (-ofDecimal digits)
  | digits => some (ofDecimal digits)

theorem intOf_strInt (n : Int) : intOf (strInt n) = some n := by
  cases n with
  | ofNat n =>
    obtain ⟨c, s, hdecimal, hc⟩ := head_decimal n
    have hne : c ≠ 45 := by
      rintro rfl
      exact absurd hc (by decide)
    have hvalue := ofDecimal_decimal n
    show intOf (decimal n) = _
    rw [hdecimal] at hvalue ⊢
    unfold intOf
    split
    · rename_i heq
      exact absurd (List.cons.inj heq).1 hne
    · rw [hvalue]
      rfl
  | negSucc n =>
    show some (-(ofDecimal (decimal (n + 1)) : Int)) = _
    rw [ofDecimal_decimal]
    rfl

/-- The one time of the sample. -/
def epoch : PyStr := py "1970-01-01T00:00:00Z"

/-- A pydantic without coercions, for one time. -/
def strictPydantic : Pydantic Unit where
  json body := (loads (.plain fun _ => .nan) body).toOption
  float _ := .nan
  int := strictInt?
  bool
    | .bool b => some b
    | _ => none
  uuid v := (strictStr? v).bind uuidOf
  datetime v := if v = .str epoch then some () else none
  isoformat _ := epoch

theorem strictPydantic_json {v : Json} {body : Bytes} (hv : strictPydantic.Sound v) (hb : canonicalJson v = some body) :
    strictPydantic.json body = some (v.sorted .canonical) := by
  obtain ⟨text, htext, hbody⟩ := Option.bind_eq_some_iff.mp hb
  have hspace : Spaces [] := nofun
  have hloads := loads_dumps JsonStyle.spaced_canonical
    (JsonDecoder.plain_keepsDistinct _) hv.readable hv.unicode htext hspace
    ((List.append_nil text).symm ▸ hbody)
  exact congrArg Except.toOption hloads

theorem strictPydantic_uuid (text : PyStr) : strictPydantic.uuid (.str text) = uuidOf text := rfl

theorem strictPydantic_datetime (v : Json) : strictPydantic.datetime v = if v = .str epoch then some () else none := rfl

theorem strictPydantic_reads : strictPydantic.Reads := by
  refine ⟨strictPydantic_json, fun _ => rfl, fun _ => rfl, fun u hu => ?_, fun d => ?_, fun d => ?_⟩
  · rw [strictPydantic_uuid, uuidOf_uuidText hu]
  · rw [strictPydantic_datetime]
    exact if_pos rfl
  · show IsUnicode epoch
    exact isUnicode_of_all (by decide)

namespace Sample

def surroundings : Surroundings Unit where
  casing _ c _ := [c]
  int := intOf
  isdigit s := s.all isDigit
  hmac secret input := (secret ++ input).flatMap fun b => hexDigits 2 b.toNat
  pydantic := strictPydantic
  signer := OpenLLMOps.Sample.signer

theorem hmac_lt {secret input : Bytes} {c : Nat} (hc : c ∈ surroundings.hmac secret input) : c < 128 := by
  obtain ⟨b, -, hc⟩ := List.mem_flatMap.mp hc
  exact chars_hexDigits (Q := (· < 128)) (fun c _ hc => by omega) 2 b.toNat c hc

theorem surroundings_plain : surroundings.Plain := by
  refine ⟨intOf_strInt, fun n => List.all_eq_true.mpr (decimal_digits n), fun secret input => ?_⟩
  exact List.all_eq_true.mpr fun c hc => decide_eq_true (hmac_lt hc)

/-- STATUS of a deployment. -/
def status (execution : List (PyStr × Json)) : AgentCommand :=
  ⟨5, .status, ⟨.deployment, 7, py "qwen", 1⟩, [0], execution⟩

theorem status_valid {execution : List (PyStr × Json)}
    (hreadable : (Json.obj execution).Readable (.plain strictPydantic.float))
    (hunicode : (Json.obj execution).EachString IsUnicode) (hdepth : jsonDepth (.obj execution) ≤ 100) :
    (status execution).Valid strictPydantic := by
  have hname {name : String} (h : (py name).all (· < 0x110000) = true) : IsUnicode (py name) := isUnicode_of_all h
  have hid : 5 < 2 ^ 128 ∧ 7 < 2 ^ 128 := by decide
  have hqwen : 1 ≤ (py "qwen").length ∧ (py "qwen").length ≤ 128 := by decide
  refine ⟨hid.1, hid.2, hqwen, Nat.le_refl 1, Nat.le_refl 1, ⟨(status execution).nodup_fields, ?_⟩, ?_, ?_⟩
  · have howner : ((ownerFields (status execution).owner).map Prod.fst).Nodup := show (ownerNames.map py).Nodup by decide
    have hone : (decimal 1).length ≤ 4300 := by decide
    have hzero : (decimal 0).length ≤ 4300 := by decide
    exact ⟨trivial, trivial, trivial, ⟨howner, trivial, trivial, trivial, hone, trivial⟩,
      ⟨List.nodup_singleton _, ⟨hzero, trivial⟩, trivial⟩, hreadable, trivial⟩
  · exact ⟨hname (by decide), hname (by decide), hname (by decide), uuidText_unicode _, hname (by decide),
      hname (by decide), hname (by decide),
      ⟨hname (by decide), hname (by decide), hname (by decide), uuidText_unicode _, hname (by decide),
        hname (by decide), hname (by decide), trivial, trivial⟩,
      hname (by decide), ⟨hname (by decide), ⟨trivial, trivial⟩, trivial⟩, hname (by decide), hunicode, trivial⟩
  · have hfields : jsonDepth (status execution).json = max 2 (jsonDepth (.obj execution)) + 1 := by
      simp [jsonDepth, depthEntries, depthItems, AgentCommand.json, AgentCommand.fields, ownerFields, resourceFields,
        status]
    rw [hfields]
    omega

def command : AgentCommand := status []

theorem command_valid : command.Valid strictPydantic :=
  status_valid ⟨List.nodup_nil, trivial⟩ trivial (by decide)

/-- Its execution has to be empty. -/
def refused : AgentCommand := status [(py "runner", .str (py "vllm"))]

theorem refused_valid : refused.Valid strictPydantic := by
  have hrunner : IsUnicode (py "runner") ∧ IsUnicode (py "vllm") := by
    constructor <;> exact isUnicode_of_all (by decide)
  exact status_valid ⟨List.nodup_singleton _, trivial, trivial⟩ ⟨hrunner.1, hrunner.2, trivial⟩ (by decide)

def body : Bytes := (canonicalJson command.json).getD []

theorem canonicalJson_command : canonicalJson command.json = some body := by decide +kernel

/-- The agent's part fails, whatever it is asked to do. -/
def processor (_ : AgentCommand) : Outcome Unit := .fault

def nonce : PyStr := py "abcdefgh"

def signedAt (clock : Int) : Signed := ⟨body, clock, nonce⟩

/-- A request, and the same request again. -/
def replayed : List (NetworkLabel Unit) :=
  [.send command nonce, .deliver (signedAt 100).body
    ((signedAt 100).headers surroundings) processor 1 () nonce, .pass 5 3,
    .deliver (signedAt 100).body ((signedAt 100).headers surroundings) processor 2 () nonce]

theorem processor_valid (c : AgentCommand) (hc : c.requestId < 2 ^ 128) :
    ((processor c).response c ()).1.Valid strictPydantic := by
  show (contractError c.requestId () (py "node-agent 内部错误") (py "internal_error")).Valid surroundings.pydantic
  exact contractError_valid strictPydantic_reads hc () (isUnicode_of_all (by decide)) (isUnicode_of_all (by decide))

theorem signedAt_unforged {s : Network Unit} {clock : Int} (h : signedAt clock ∈ s.signed) :
    Unforged surroundings s (signedAt clock).body ((signedAt clock).headers surroundings) := by
  have hnonce : isUrlsafe nonce = true := by decide
  obtain ⟨input, hinput⟩ := @input_of_unicode body clock nonce hnonce
  have hv1 : IsUnicode (signatureVersion ++ py "=") := isUnicode_of_all (by decide)
  have hsignature : IsUnicode (((signedAt clock).request surroundings).signature) := by
    rw [@signature_signed Unit surroundings (signedAt clock) input hinput]
    refine List.forall_mem_append.mpr ⟨hv1, fun c hc => ?_⟩
    have := hmac_lt hc
    omega
  have htext := headers_unicode (isUrlsafe_line hnonce).1 hsignature
  have hne : nonce ≠ [] := by decide
  exact unforged_signed h ((signedAt clock).carriedBy_headers surroundings) htext hne hinput

theorem replayed_assumed : (network surroundings 100 100).EachStep (Assumed surroundings)
    (network surroundings 100 100).init replayed := by
  have hnonce : isUrlsafe nonce = true := by decide
  rw [replayed]
  intro s₁ hs₁
  rw [step_send canonicalJson_command] at hs₁
  obtain rfl := Option.some.inj hs₁
  have hid : command.requestId ≠ nullRequestId := by decide
  refine ⟨⟨command_valid, hid, List.not_mem_nil, hnonce⟩, fun s₂ hs₂ => ?_⟩
  obtain rfl := Option.some.inj hs₂
  refine ⟨⟨signedAt_unforged List.mem_cons_self, hnonce, processor_valid⟩, fun s₃ hs₃ => ?_⟩
  obtain rfl := Option.some.inj hs₃
  refine ⟨trivial, fun s₄ hs₄ => ?_⟩
  obtain rfl := Option.some.inj hs₄
  exact ⟨⟨signedAt_unforged List.mem_cons_self, hnonce, processor_valid⟩, trivial⟩

end Sample

theorem network_replayed : (network Sample.surroundings 100 100).Always
    (fun s => (atMostOnce AgentCommand.requestId).Reaches (atMostOnce AgentCommand.requestId).init s.channel ∧
      s.channel.Genuine AgentCommand.requestId)
    (network Sample.surroundings 100 100).init Sample.replayed :=
  network_refines strictPydantic_reads Sample.replayed_assumed

namespace Sample

/-- What the processor of a new agent finds, outside Docker. -/
def around : OpenLLMOps.Surroundings where
  now := 0
  validationErrors := []
  preflight := ⟨.error .other, .error .other, .error .other⟩
  busyGpuIds := some []
  training := ⟨.ok (), false, [], fun _ => [], .error []⟩
  evaluation := ⟨false, .error []⟩

/-- The processor of a new agent on an empty node, with what happens at its calls to Docker. -/
def newProcessor (events : List DockerEvent) : AgentCommand → Outcome Unit :=
  answering ⟨1800, 60, true⟩ Prod.mk .empty around ⟨∅, events, []⟩ true () (some (py "node-agent 执行器暂时不可用"))

/-- A call to it. -/
def call (events : List DockerEvent) (command : AgentCommand) (status : Nat) (answer : AgentCommandResponse Unit) :
    List (NetworkLabel Unit) :=
  let body := (canonicalJson command.json).getD []
  let answer := (canonicalJson (answer.json strictPydantic)).getD []
  [.send command nonce,
    .deliver body ((⟨body, 100, nonce⟩ : Signed).headers surroundings) (newProcessor events) 1 () nonce,
    .receive command ⟨status, answer, (⟨answer, 100, nonce⟩ : Signed).headers surroundings⟩]

/-- There is no container. -/
def absent : AgentCommandResponse Unit := ⟨5, true, .absent, (), none, none, []⟩

/-- The refusal. -/
def refusal : AgentCommandResponse Unit :=
  contractError 5 () (py "status 命令的 execution 必须为空对象") (py "invalid_workload")

/-- An exception has escaped. -/
def unavailable : AgentCommandResponse Unit :=
  contractError 5 () (py "node-agent 执行器暂时不可用") (py "runner_unavailable")

theorem absent_valid : absent.Valid strictPydantic := by
  have hname {name : String} (h : (py name).all (· < 0x110000) = true) : IsUnicode (py name) := isUnicode_of_all h
  have hepoch : IsUnicode epoch := isUnicode_of_all (by decide)
  refine ⟨by decide, ⟨absent.nodup_fields strictPydantic, ?_⟩, ?_, ?_⟩
  · exact ⟨trivial, trivial, trivial, trivial, trivial, trivial, trivial, ⟨List.nodup_nil, trivial⟩, trivial⟩
  · exact ⟨hname (by decide), hname (by decide), hname (by decide), uuidText_unicode _, hname (by decide), trivial,
      hname (by decide), workloadState_unicode _, hname (by decide), hepoch, hname (by decide), trivial,
      hname (by decide), trivial, hname (by decide), trivial, trivial⟩
  · show (2 : Nat) ≤ 200
    decide

theorem error_valid {message errorCode : PyStr} (hmessage : IsUnicode message) (hcode : IsUnicode errorCode) :
    (contractError 5 () message errorCode).Valid strictPydantic :=
  contractError_valid (e := surroundings) strictPydantic_reads (by decide) () hmessage hcode

/-- The canonical bytes of a value, which has some. -/
theorem canonicalJson_getD {v : Json} (h : (canonicalJson v).isSome = true) :
    canonicalJson v = some ((canonicalJson v).getD []) := by
  obtain ⟨body, hbody⟩ := Option.isSome_iff_exists.mp h
  rw [hbody, Option.getD_some]

end Sample

/-- An answer, a refusal, and an exception that escapes. -/
theorem undisturbed_status :
    (∃ s', (network Sample.surroundings 100 100).run (network Sample.surroundings 100 100).init
        (Sample.call [] Sample.command 200 Sample.absent) = some s' ∧
      s'.executed = [(Sample.command.sorted, some Sample.absent)] ∧
      s'.received = [(Sample.command, Sample.absent.sorted)]) ∧
    (∃ s', (network Sample.surroundings 100 100).run (network Sample.surroundings 100 100).init
        (Sample.call [] Sample.refused 422 Sample.refusal) = some s' ∧
      s'.executed = [(Sample.refused.sorted, some Sample.refusal)] ∧
      s'.received = [(Sample.refused, Sample.refusal.sorted)]) ∧
    ∃ s', (network Sample.surroundings 100 100).run (network Sample.surroundings 100 100).init
        (Sample.call [⟨[], 0, some .unknown⟩] Sample.command 503 Sample.unavailable) = some s' ∧
      s'.executed = [(Sample.command.sorted, some Sample.unavailable)] ∧ s'.received = [] := by
  have hcommand := Sample.canonicalJson_getD (v := Sample.command.json) (by decide +kernel)
  have hrefused := Sample.canonicalJson_getD (v := Sample.refused.json) (by decide +kernel)
  have habsent := Sample.canonicalJson_getD (v := Sample.absent.json strictPydantic) (by decide +kernel)
  have hrefusal := Sample.canonicalJson_getD (v := Sample.refusal.json strictPydantic) (by decide +kernel)
  have hunavailable := Sample.canonicalJson_getD (v := Sample.unavailable.json strictPydantic) (by decide +kernel)
  have hnonce : isUrlsafe Sample.nonce = true ∧ 8 ≤ Sample.nonce.length ∧ Sample.nonce.length ≤ 256 := by decide
  have hnonce' : isUrlsafe Sample.nonce = true ∧ Sample.nonce ≠ [] := by decide
  let fingerprint : Option Uuid → AgentCommand → Option Uuid × AgentCommand := Prod.mk
  have hstore : (processor ⟨1800, 60, true⟩ fingerprint).run (processor ⟨1800, 60, true⟩ fingerprint).init [] =
    some .empty := rfl
  have hanswer : (Sample.newProcessor [] Sample.command.sorted).response Sample.command.sorted () =
      (Sample.absent, 200) := rfl
  have hrefuse : (Sample.newProcessor [] Sample.refused.sorted).response Sample.refused.sorted () =
      (Sample.refusal, 422) := rfl
  have hescape : (Sample.newProcessor [⟨[], 0, some .unknown⟩] Sample.command.sorted).response
      Sample.command.sorted () = (Sample.unavailable, 503) := rfl
  refine ⟨?_, ?_, ?_⟩
  · exact undisturbed_call strictPydantic_reads Sample.surroundings_plain hstore Sample.command_valid hcommand
      (by decide +kernel) hnonce List.not_mem_nil hnonce' (by decide) (Signed.carriedBy_headers _ _) hanswer
      Sample.absent_valid habsent (Signed.carriedBy_headers _ _) 1
  · exact undisturbed_call strictPydantic_reads Sample.surroundings_plain hstore Sample.refused_valid hrefused
      (by decide +kernel) hnonce List.not_mem_nil hnonce' (by decide) (Signed.carriedBy_headers _ _) hrefuse
      (Sample.error_valid (isUnicode_of_all (by decide)) (isUnicode_of_all (by decide))) hrefusal
      (Signed.carriedBy_headers _ _) 1
  · exact undisturbed_call strictPydantic_reads Sample.surroundings_plain hstore Sample.command_valid hcommand
      (by decide +kernel) hnonce List.not_mem_nil hnonce' (by decide) (Signed.carriedBy_headers _ _) hescape
      (Sample.error_valid (isUnicode_of_all (by decide)) (isUnicode_of_all (by decide))) hunavailable
      (Signed.carriedBy_headers _ _) 1

end OpenLLMOps.Wire
