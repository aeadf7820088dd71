import OpenLLMOps.Framework.Dict
import OpenLLMOps.Framework.PyStr
import OpenLLMOps.Framework.System

/-!
# Replayed requests

`HMACSigner.verify` and `NonceReplayCache` of `agent_contract.py`, for a clock that does
not go back. HMAC-SHA256 is any function of key and signing input, and `int` any partial
function on strings.

* `AcceptInv`: the nonce of an accepted request is kept as long as its timestamp lies in
  the skew window;
* `Endpoint.live`: what the later verdicts depend on, which a rejected request leaves as
  it is;
* `replaySafe`: no request is accepted twice, and rejected requests can be left out of a
  run.
-/

namespace OpenLLMOps

open Framework

/-- `SIGNATURE_HEADER`, `TIMESTAMP_HEADER` and `NONCE_HEADER`. -/
def signatureHeader : PyStr := py "X-OpenLLMOps-Signature"

def timestampHeader : PyStr := py "X-OpenLLMOps-Timestamp"

def nonceHeader : PyStr := py "X-OpenLLMOps-Nonce"

/-- `SIGNATURE_VERSION`. -/
def signatureVersion : PyStr := py "v1"

inductive VerifyError
  /-- `SignatureVerificationError`. -/
  | signature (message : PyStr)
  /-- Another exception: a header that has no UTF-8, or a signature that is not ASCII. -/
  | escape
  deriving DecidableEq

structure HMACSigner where
  secret : Bytes
  maxClockSkewSeconds : Int
  /-- The constructor refuses a shorter secret. -/
  long : 16 ≤ secret.length

/-- `hmac.compare_digest` of two strings; `none` is a `TypeError`. -/
def compareDigest (a b : PyStr) : Option Bool :=
  if (a ++ b).all (· < 128) then some (a = b) else none

section Verify

variable (casing : Casing) (int : PyStr → Option Int) (hmac : Bytes → Bytes → PyStr)

/-- `{key.lower(): value for key, value in headers.items()}`. -/
def normalizedHeaders (headers : List (PyStr × PyStr)) : List (PyStr × PyStr) :=
  Dict.update [] (Dict.mapKeys (PyStr.lower casing) headers)

/-- A header, unless it is missing or empty. -/
def header? (headers : List (PyStr × PyStr)) (name : PyStr) : Option PyStr :=
  (Dict.get? (normalizedHeaders casing headers) (PyStr.lower casing name)).filter (· ≠ [])

/-- `_signing_input`; `none` is a `UnicodeEncodeError`. -/
def signingInput (body : Bytes) (timestamp nonce : PyStr) : Option Bytes := do
  let version ← signatureVersion.encode
  let timestamp ← timestamp.encode
  let nonce ← nonce.encode
  some (([10] : Bytes).intercalate [version, timestamp, nonce, body])

/-- The signature that `verify` expects. -/
def HMACSigner.expectedSignature (signer : HMACSigner) (body : Bytes) (timestamp nonce : PyStr) : Option PyStr :=
  (signingInput body timestamp nonce).map fun input => signatureVersion ++ py "=" ++ hmac signer.secret input

/-- `HMACSigner.verify`: the set of nonces afterwards. -/
def HMACSigner.verify (signer : HMACSigner) (body : Bytes) (headers : List (PyStr × PyStr)) (now : Int)
    (seenNonces : Option (List PyStr)) : Except VerifyError (Option (List PyStr)) :=
  match header? casing headers timestampHeader, header? casing headers nonceHeader,
    header? casing headers signatureHeader with
  | some timestamp, some nonce, some suppliedSignature =>
    match int timestamp with
    | none => .error (.signature (py "node-agent HMAC 时间戳无效"))
    | some signedAt =>
      if signer.maxClockSkewSeconds < (now - signedAt).natAbs then
        .error (.signature (py "node-agent HMAC 签名已过期"))
      else if ∃ nonces ∈ seenNonces, nonce ∈ nonces then
        .error (.signature (py "node-agent HMAC nonce 已被使用"))
      else
        match (signer.expectedSignature hmac body timestamp nonce).bind (compareDigest suppliedSignature) with
        | none => .error .escape
        | some false => .error (.signature (py "node-agent HMAC 签名不匹配"))
        | some true => .ok (seenNonces.map (nonce :: ·))
  | _, _, _ => .error (.signature (py "node-agent HMAC 请求头不完整"))

/-- `NonceReplayCache`. -/
structure NonceReplayCache where
  retentionSeconds : Int
  expiresAt : List (PyStr × Int)
  deriving DecidableEq

/-- `NonceReplayCache(max_clock_skew_seconds)`. -/
def NonceReplayCache.new (maxClockSkewSeconds : Int) : NonceReplayCache :=
  ⟨max 60 (2 * maxClockSkewSeconds + 1), []⟩

/-- The entries that have not expired. -/
def unexpired (expiresAt : List (PyStr × Int)) (now : Int) : List (PyStr × Int) :=
  expiresAt.filter fun item => now < item.2

/-- `NonceReplayCache.verify`. -/
def NonceReplayCache.verify (cache : NonceReplayCache) (signer : HMACSigner) (body : Bytes)
    (headers : List (PyStr × PyStr)) (now : Int) : Except VerifyError Unit × NonceReplayCache :=
  let nonce := (Dict.get? (normalizedHeaders casing headers) (PyStr.lower casing nonceHeader)).getD []
  if nonce.length < 8 ∨ 256 < nonce.length then
    (.error (.signature (py "node-agent HMAC nonce 长度无效")), cache)
  else
    let expiresAt := unexpired cache.expiresAt now
    match signer.verify casing int hmac body headers now (some (Dict.keys expiresAt)) with
    | .error e => (.error e, { cache with expiresAt := expiresAt })
    | .ok _ => (.ok (), { cache with expiresAt := Dict.set expiresAt nonce (now + cache.retentionSeconds) })

/-- What is signed, and the signature. -/
structure SignedRequest where
  body : Bytes
  timestamp : PyStr
  nonce : PyStr
  signature : PyStr
  deriving DecidableEq

/-- The signed request that the headers give. -/
def signedRequest (body : Bytes) (headers : List (PyStr × PyStr)) : SignedRequest :=
  ⟨body, (header? casing headers timestampHeader).getD [], (header? casing headers nonceHeader).getD [],
    (header? casing headers signatureHeader).getD []⟩

/-! ## The endpoint -/

/-- The cache, its clock, and the requests that have been accepted, newest first, which no step
reads. -/
structure Endpoint where
  clock : Int
  cache : NonceReplayCache
  accepted : List SignedRequest

inductive EndpointLabel
  /-- Time passes. -/
  | tick (seconds : Nat)
  | request (body : Bytes) (headers : List (PyStr × PyStr))
  deriving DecidableEq

/-- The label is a request that is rejected. -/
def Endpoint.rejects (signer : HMACSigner) (s : Endpoint) : EndpointLabel → Bool
  | .tick _ => false
  | .request body headers => !(s.cache.verify casing int hmac signer body headers s.clock).1.isOk

/-- The state after a label. -/
def Endpoint.handle (signer : HMACSigner) (s : Endpoint) : EndpointLabel → Endpoint
  | .tick seconds => { s with clock := s.clock + seconds }
  | .request body headers =>
    let (verdict, cache) := s.cache.verify casing int hmac signer body headers s.clock
    { s with
      cache := cache
      accepted := if verdict.isOk then signedRequest casing body headers :: s.accepted else s.accepted }

/-- The endpoint of a process that starts at `start`. -/
def endpoint (signer : HMACSigner) (start : Int) : System Endpoint EndpointLabel where
  init := ⟨start, .new signer.maxClockSkewSeconds, []⟩
  step s l := some (s.handle casing int hmac signer l)

/-- The run without the requests that it rejects. -/
def Endpoint.withoutRejected (signer : HMACSigner) : Endpoint → List EndpointLabel → List EndpointLabel
  | _, [] => []
  | s, l :: ls =>
    let rest := withoutRejected signer (s.handle casing int hmac signer l) ls
    if s.rejects casing int hmac signer l then rest else l :: rest

/-- The entries that have not expired: what the later verdicts depend on. -/
def Endpoint.live (s : Endpoint) : List (PyStr × Int) := unexpired s.cache.expiresAt s.clock

/-- A rejected request records nothing and removes no entry that has not expired. -/
def RejectsSilently (signer : HMACSigner) (s : Endpoint) (l : EndpointLabel) (s' : Endpoint) : Prop :=
  s.rejects casing int hmac signer l = true →
    s'.accepted = s.accepted ∧ s'.live = s.live ∧ s'.cache.expiresAt ⊆ s.cache.expiresAt

end Verify

/-! ## Verdicts -/

section Verdicts

variable {casing : Casing} {int : PyStr → Option Int} {hmac : Bytes → Bytes → PyStr} {signer : HMACSigner}
  {body : Bytes} {headers : List (PyStr × PyStr)} {now : Int}

/-- What an accepted request has been checked for. -/
structure Checked (int : PyStr → Option Int) (skew now : Int) (seen : List PyStr) (r : SignedRequest) : Prop where
  fresh : r.nonce ∉ seen
  signedAt : ∃ t, int r.timestamp = some t ∧ (now - t).natAbs ≤ skew

theorem HMACSigner.checked_of_verify {seen : List PyStr} {seen' : Option (List PyStr)}
    (h : signer.verify casing int hmac body headers now (some seen) = .ok seen') :
    Checked int signer.maxClockSkewSeconds now seen (signedRequest casing body headers) := by
  unfold HMACSigner.verify at h
  split at h <;> [skip; cases h]
  rename_i timestamp nonce signature ht hn hs
  split at h <;> [cases h; skip]
  rename_i t hint
  split at h <;> [cases h; skip]
  rename_i hskew
  split at h <;> [cases h; skip]
  rename_i hseen
  refine ⟨?_, t, ?_, Int.not_lt.mp hskew⟩
  · simp only [signedRequest, hn, Option.getD_some]
    exact fun hmem => hseen ⟨seen, rfl, hmem⟩
  · simp only [signedRequest, ht, Option.getD_some]
    exact hint

theorem unexpired_idem (d : List (PyStr × Int)) (now : Int) : unexpired (unexpired d now) now = unexpired d now := by
  simp only [unexpired, List.filter_filter, Bool.and_self]

/-- Of the entries that have not expired some expire later. -/
theorem unexpired_later (d : List (PyStr × Int)) {now later : Int} (h : now ≤ later) :
    unexpired (unexpired d now) later = unexpired d later := by
  rw [unexpired, unexpired, List.filter_filter, unexpired]
  refine List.filter_congr fun item _ => ?_
  by_cases hlater : later < item.2
  · simp only [hlater, decide_true, Bool.true_and, decide_eq_true_eq]
    omega
  · simp only [hlater, decide_false, Bool.false_and]

/-- A request is rejected, or checked and recorded. -/
theorem NonceReplayCache.verify_cases (casing : Casing) (int : PyStr → Option Int) (hmac : Bytes → Bytes → PyStr)
    (signer : HMACSigner) (cache : NonceReplayCache) (body : Bytes) (headers : List (PyStr × PyStr)) (now : Int) :
    (∃ e d, cache.verify casing int hmac signer body headers now = (.error e, { cache with expiresAt := d }) ∧
      (d = cache.expiresAt ∨ d = unexpired cache.expiresAt now)) ∨
    cache.verify casing int hmac signer body headers now =
        (.ok (), { cache with
          expiresAt := Dict.set (unexpired cache.expiresAt now) (signedRequest casing body headers).nonce
            (now + cache.retentionSeconds) }) ∧
      Checked int signer.maxClockSkewSeconds now (Dict.keys (unexpired cache.expiresAt now))
        (signedRequest casing body headers) := by
  unfold NonceReplayCache.verify
  dsimp only
  split
  · exact .inl ⟨_, _, rfl, .inl rfl⟩
  rename_i hlength
  split
  · exact .inl ⟨_, _, rfl, .inr rfl⟩
  rename_i hok
  refine .inr ⟨?_, HMACSigner.checked_of_verify hok⟩
  have hnonce : (signedRequest casing body headers).nonce =
      (Dict.get? (normalizedHeaders casing headers) (PyStr.lower casing nonceHeader)).getD [] := by
    simp only [signedRequest, header?]
    cases hget : Dict.get? (normalizedHeaders casing headers) (PyStr.lower casing nonceHeader) with
    | none => rfl
    | some nonce =>
      by_cases hnil : nonce = []
      · rw [hnil]
        rfl
      · simp [Option.filter, hnil]
  rw [hnonce]

/-- A verdict, and what has not expired afterwards, depend only on what has not expired before. -/
theorem NonceReplayCache.verify_congr (casing : Casing) (int : PyStr → Option Int) (hmac : Bytes → Bytes → PyStr)
    (signer : HMACSigner) (body : Bytes) (headers : List (PyStr × PyStr)) {cache cache' : NonceReplayCache}
    (hretention : cache.retentionSeconds = cache'.retentionSeconds)
    (hlive : unexpired cache.expiresAt now = unexpired cache'.expiresAt now) :
    let result := cache.verify casing int hmac signer body headers now
    let result' := cache'.verify casing int hmac signer body headers now
    result.1 = result'.1 ∧ result.2.retentionSeconds = result'.2.retentionSeconds ∧
      unexpired result.2.expiresAt now = unexpired result'.2.expiresAt now := by
  unfold NonceReplayCache.verify
  dsimp only
  rw [hlive]
  split
  · exact ⟨rfl, hretention, hlive⟩
  split
  · exact ⟨rfl, hretention, rfl⟩
  · rw [hretention]
    exact ⟨rfl, rfl, rfl⟩

end Verdicts

/-! ## Runs -/

section Runs

variable {casing : Casing} {int : PyStr → Option Int} {hmac : Bytes → Bytes → PyStr} {signer : HMACSigner}
  {s t : Endpoint}

/-- A request is rejected, and what has not expired stays; or it is checked and recorded. -/
theorem Endpoint.request_cases (casing : Casing) (int : PyStr → Option Int) (hmac : Bytes → Bytes → PyStr)
    (signer : HMACSigner) (s : Endpoint) (body : Bytes) (headers : List (PyStr × PyStr)) :
    s.rejects casing int hmac signer (.request body headers) = true ∧
      (∃ d, s.handle casing int hmac signer (.request body headers) = { s with cache := { s.cache with expiresAt := d } } ∧
        (d = s.cache.expiresAt ∨ d = s.live)) ∨
    s.rejects casing int hmac signer (.request body headers) = false ∧
      s.handle casing int hmac signer (.request body headers) =
        { s with
          cache := { s.cache with
            expiresAt := Dict.set s.live (signedRequest casing body headers).nonce (s.clock + s.cache.retentionSeconds) }
          accepted := signedRequest casing body headers :: s.accepted } ∧
      Checked int signer.maxClockSkewSeconds s.clock (Dict.keys s.live) (signedRequest casing body headers) := by
  simp only [Endpoint.rejects, Endpoint.handle]
  rcases s.cache.verify_cases casing int hmac signer body headers s.clock with ⟨e, d, h, hd⟩ | ⟨h, hc⟩ <;> rw [h]
  · exact .inl ⟨rfl, d, rfl, hd⟩
  · exact .inr ⟨rfl, rfl, hc⟩

/-- The nonce of an accepted request is kept as long as its timestamp may lie in the window. -/
def NonceKept (int : PyStr → Option Int) (skew : Int) (d : List (PyStr × Int)) (now : Int) (r : SignedRequest) : Prop :=
  ∃ t, int r.timestamp = some t ∧ ((∃ expiry, (r.nonce, expiry) ∈ d ∧ t + skew < expiry) ∨ t + skew < now)

theorem NonceKept.mono {skew : Int} {d d' : List (PyStr × Int)} {now now' : Int} {r : SignedRequest}
    (h : NonceKept int skew d now r) (hd : ∀ e ∈ d, now' < e.2 → e ∈ d') (hnow : now ≤ now') : NonceKept int skew d' now' r := by
  obtain ⟨t, ht, ⟨expiry, hmem, he⟩ | he⟩ := h
  · refine ⟨t, ht, ?_⟩
    by_cases hlive : now' < expiry
    · exact .inl ⟨expiry, hd _ hmem hlive, he⟩
    · right
      omega
  · refine ⟨t, ht, .inr ?_⟩
    omega

/-- The invariant: no request has been accepted twice, and the nonces of the accepted ones are kept. -/
structure AcceptInv (int : PyStr → Option Int) (signer : HMACSigner) (s : Endpoint) : Prop where
  retention : 2 * signer.maxClockSkewSeconds < s.cache.retentionSeconds
  nodup : s.accepted.Nodup
  kept : ∀ r ∈ s.accepted, NonceKept int signer.maxClockSkewSeconds s.cache.expiresAt s.clock r

theorem AcceptInv.init (start : Int) : AcceptInv int signer ⟨start, .new signer.maxClockSkewSeconds, []⟩ := by
  refine ⟨?_, List.nodup_nil, nofun⟩
  show _ < max 60 (2 * signer.maxClockSkewSeconds + 1)
  omega

theorem mem_live {e : PyStr × Int} (he : e ∈ s.cache.expiresAt) (hlive : s.clock < e.2) : e ∈ s.live :=
  List.mem_filter.mpr ⟨he, decide_eq_true hlive⟩

/-- A request that is checked has not been accepted before. -/
theorem AcceptInv.fresh (h : AcceptInv int signer s) {r : SignedRequest}
    (hc : Checked int signer.maxClockSkewSeconds s.clock (Dict.keys s.live) r) : r ∉ s.accepted := by
  intro hr
  obtain ⟨t, ht, hskew⟩ := hc.signedAt
  obtain ⟨t', ht', ⟨expiry, hmem, he⟩ | he⟩ := (h.kept r hr).mono (fun e he => mem_live he) (Int.le_refl _)
  · exact hc.fresh (List.mem_map_of_mem hmem)
  · have e : t = t' := Option.some.inj (ht.symm.trans ht')
    omega

theorem AcceptInv.step (h : AcceptInv int signer s) (l : EndpointLabel) :
    AcceptInv int signer (s.handle casing int hmac signer l) := by
  cases l with
  | tick seconds =>
    refine ⟨h.retention, h.nodup, fun r hr => (h.kept r hr).mono (fun e he _ => he) ?_⟩
    show s.clock ≤ s.clock + seconds
    omega
  | request body headers =>
    rcases s.request_cases casing int hmac signer body headers with
      ⟨-, d, hs, hd⟩ | ⟨-, hs, hc⟩ <;> rw [hs]
    · refine ⟨h.retention, h.nodup, fun r hr => (h.kept r hr).mono (fun e he hlive => ?_) (Int.le_refl _)⟩
      rcases hd with rfl | rfl
      · exact he
      · exact mem_live he hlive
    · have hset := Dict.set_of_notMem hc.fresh (s.clock + s.cache.retentionSeconds)
      refine ⟨h.retention, List.nodup_cons.mpr ⟨h.fresh hc, h.nodup⟩, fun r hr => ?_⟩
      show NonceKept int _ (Dict.set s.live _ _) s.clock r
      rw [hset]
      rcases List.mem_cons.mp hr with rfl | hr
      · obtain ⟨t, ht, hskew⟩ := hc.signedAt
        have hretention := h.retention
        refine ⟨t, ht, .inl ⟨_, List.mem_append_right _ List.mem_cons_self, ?_⟩⟩
        omega
      · exact (h.kept r hr).mono (fun e he hlive => List.mem_append_left _ (mem_live he hlive)) (Int.le_refl _)

/-- A rejected request leaves what has not expired. -/
theorem handle_live {l : EndpointLabel} (hl : s.rejects casing int hmac signer l = true) :
    (s.handle casing int hmac signer l).accepted = s.accepted ∧ (s.handle casing int hmac signer l).live = s.live ∧
      (s.handle casing int hmac signer l).cache.expiresAt ⊆ s.cache.expiresAt := by
  cases l with
  | tick seconds => cases hl
  | request body headers =>
    rcases s.request_cases casing int hmac signer body headers with
      ⟨-, d, he, rfl | rfl⟩ | ⟨hok, -⟩
    · rw [he]
      exact ⟨rfl, rfl, List.Subset.refl _⟩
    · rw [he]
      exact ⟨rfl, unexpired_idem s.cache.expiresAt s.clock, List.filter_sublist.subset⟩
    · rw [hl] at hok
      cases hok

/-! ### Runs without the rejected requests -/

/-- Endpoints that give the same verdicts from now on. -/
structure Same (s t : Endpoint) : Prop where
  clock : s.clock = t.clock
  retention : s.cache.retentionSeconds = t.cache.retentionSeconds
  accepted : s.accepted = t.accepted
  live : s.live = t.live

theorem Same.refl (s : Endpoint) : Same s s := ⟨rfl, rfl, rfl, rfl⟩

theorem Same.step (h : Same s t) (l : EndpointLabel) :
    Same (s.handle casing int hmac signer l) (t.handle casing int hmac signer l) := by
  obtain ⟨hclock, hretention, haccepted, hlive⟩ := h
  cases l with
  | tick seconds =>
    refine ⟨congrArg (· + (seconds : Int)) hclock, hretention, haccepted, ?_⟩
    show unexpired s.cache.expiresAt (s.clock + seconds) = unexpired t.cache.expiresAt (t.clock + seconds)
    have hlater (u : Endpoint) : unexpired u.live (u.clock + seconds) = unexpired u.cache.expiresAt (u.clock + seconds) :=
      unexpired_later u.cache.expiresAt (by omega)
    rw [← hlater s, ← hlater t, hlive, hclock]
  | request body headers =>
    have hlive : unexpired s.cache.expiresAt t.clock = unexpired t.cache.expiresAt t.clock := by
      rw [← hclock]
      exact hlive.trans (by rw [Endpoint.live, hclock])
    obtain ⟨hverdict, hretention', hlive'⟩ :=
      NonceReplayCache.verify_congr casing int hmac signer body headers hretention hlive
    refine ⟨hclock, ?_, ?_, ?_⟩
    · show (s.cache.verify casing int hmac signer body headers s.clock).2.retentionSeconds = _
      rw [hclock]
      exact hretention'
    · show (if (s.cache.verify casing int hmac signer body headers s.clock).1.isOk then _ else _) = _
      rw [hclock, hverdict, haccepted]
      rfl
    · show unexpired (s.cache.verify casing int hmac signer body headers s.clock).2.expiresAt s.clock = _
      rw [hclock]
      exact hlive'

theorem Same.rejects (h : Same s t) (l : EndpointLabel) :
    s.rejects casing int hmac signer l = t.rejects casing int hmac signer l := by
  cases l with
  | tick seconds => rfl
  | request body headers =>
    have hlive : unexpired s.cache.expiresAt t.clock = unexpired t.cache.expiresAt t.clock := by
      rw [← h.clock]
      exact h.live.trans (by rw [Endpoint.live, h.clock])
    have hverdict := (NonceReplayCache.verify_congr casing int hmac signer body headers h.retention hlive).1
    show (!(s.cache.verify casing int hmac signer body headers s.clock).1.isOk) = _
    rw [h.clock, hverdict]
    rfl

/-- After a rejected request. -/
theorem Same.of_rejects {l : EndpointLabel} (hl : s.rejects casing int hmac signer l = true) :
    Same (s.handle casing int hmac signer l) s := by
  obtain ⟨haccepted, hlive, -⟩ := @handle_live casing int hmac signer s l hl
  cases l with
  | tick seconds => cases hl
  | request body headers =>
    refine ⟨rfl, ?_, haccepted, hlive⟩
    rcases s.request_cases casing int hmac signer body headers with ⟨-, d, he, -⟩ | ⟨-, he, -⟩ <;> rw [he]

/-- A run, and the run without the requests that it rejects. -/
theorem Same.run {start : Int} (h : Same s t) (ls : List EndpointLabel) :
    let M := endpoint casing int hmac signer start
    let genuine := s.withoutRejected casing int hmac signer ls
    M.EachStep (fun t l _ => t.rejects casing int hmac signer l = false) t genuine ∧
      ∃ s' t', M.run s ls = some s' ∧ M.run t genuine = some t' ∧ Same s' t' := by
  induction ls generalizing s t with
  | nil => exact ⟨trivial, s, t, rfl, rfl, h⟩
  | cons l ls ih =>
    dsimp only
    rw [Endpoint.withoutRejected]
    split
    · rename_i hl
      have hsame : Same (s.handle casing int hmac signer l) t := by
        have hrejected := Same.of_rejects hl
        exact ⟨hrejected.clock.trans h.clock, hrejected.retention.trans h.retention,
          hrejected.accepted.trans h.accepted, hrejected.live.trans h.live⟩
      exact ih hsame
    · rename_i hl
      obtain ⟨heach, hrun⟩ := ih (h.step l)
      refine ⟨fun t' ht' => ?_, hrun⟩
      cases ht'
      exact ⟨(h.rejects l).symm.trans (Bool.eq_false_iff.mpr hl), heach⟩

end Runs

/-- In every run no request is accepted twice, and a rejected request leaves what has not expired; the
run without the rejected requests accepts the same requests, and ends with the same nonces. -/
theorem replaySafe (casing : Casing) (int : PyStr → Option Int) (hmac : Bytes → Bytes → PyStr) (signer : HMACSigner)
    (start : Int) (ls : List EndpointLabel) :
    let M := endpoint casing int hmac signer start
    let genuine := M.init.withoutRejected casing int hmac signer ls
    M.Always (fun s => s.accepted.Nodup) M.init ls ∧
      M.EachStep (RejectsSilently casing int hmac signer) M.init ls ∧
      M.EachStep (fun s l _ => s.rejects casing int hmac signer l = false) M.init genuine ∧
      ∃ s t, M.run M.init ls = some s ∧ M.run M.init genuine = some t ∧ t.accepted = s.accepted ∧ t.live = s.live := by
  have hstep {s l s'} (h : AcceptInv int signer s) (hs : (endpoint casing int hmac signer start).step s l = some s')
      (_ : True) : AcceptInv int signer s' := by
    cases hs
    exact h.step l
  have hsilent {s l s'} (hs : (endpoint casing int hmac signer start).step s l = some s') :
      RejectsSilently casing int hmac signer s l s' := by
    cases hs
    exact handle_live
  obtain ⟨hgenuine, s, t, hs, ht, hsame⟩ :=
    (Same.refl (endpoint casing int hmac signer start).init).run ls
  refine ⟨System.always_of_invariant hstep AcceptInv.nodup (AcceptInv.init start) (.of_true _ _), .of_step hsilent _ _,
    hgenuine, s, t, hs, ht, hsame.accepted.symm, hsame.live.symm⟩

section Sample

/-- A signer whose digests are empty. -/
def Sample.signer : HMACSigner := ⟨List.replicate 16 0, 30, by decide⟩

def Sample.headers : List (PyStr × PyStr) :=
  [(py "x-openllmops-timestamp", py "100"), (py "x-openllmops-nonce", py "abcdefgh"), (py "x-openllmops-signature", py "v1=")]

/-- A request is accepted; its replay at the end of the window is not. -/
example : ((endpoint (fun _ c _ => [c]) (fun _ => some 100) (fun _ _ => []) Sample.signer 70).run
    ⟨70, .new 30, []⟩ [.request [] Sample.headers, .tick 60, .request [] Sample.headers]).map (·.accepted.length) =
      some 1 := by
  decide +kernel

end Sample

end OpenLLMOps
