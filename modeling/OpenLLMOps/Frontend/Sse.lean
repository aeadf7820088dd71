import OpenLLMOps.Framework.Chunks
import OpenLLMOps.Framework.PyNumber

/-!
# The stream parser of the frontend

`createOpenAIStreamParser` of `sse.ts`. Texts are lists of UTF-16 code units; `JSON.parse` is a parameter. What the
callbacks are called with, and the first error, is an `Emitted`.

A push is a push of its parts, one after the other (`push_append`); so the chunks do not matter
(`stream_independent_of_chunks`).
-/

namespace OpenLLMOps.Frontend

open Framework

/-- A value of JavaScript, as far as `JSON.parse` and properties of its values give one. -/
inductive JsValue
  | undefined
  | null
  | boolean (b : Bool)
  | number (x : PyFloat)
  | string (s : PyStr)
  | array (xs : List JsValue)
  | object (entries : List (PyStr × JsValue))

/-- What is thrown: by `JSON.parse`, by a property of `null` or `undefined`, or with the message of an event. -/
inductive JsError (ε : Type)
  | parse (e : ε)
  | typeError
  | message (text : PyStr)
  deriving DecidableEq

namespace JsValue

/-- `if (value)`. -/
def truthy : JsValue → Bool
  | undefined | null => false
  | boolean b => b
  | number x => match x with
    | .finite _ m _ => m ≠ 0
    | .inf _ => true
    | .nan => false
  | string s => s ≠ []
  | array _ | object _ => true

/-- A property of its own that is not `length`, and not inherited. -/
def own (value : JsValue) (key : PyStr) : JsValue :=
  match value with
  | object entries => ((entries.find? fun entry => entry.1 = key).map Prod.snd).getD undefined
  | _ => undefined

/-- `value.key` raises a `TypeError`. -/
def isNullish : JsValue → Bool
  | undefined | null => true
  | _ => false

/-- `value?.key`. -/
def get? (value : JsValue) (key : PyStr) : JsValue := if value.isNullish then undefined else value.own key

/-- `value?.[0]`. -/
def first? (value : JsValue) : JsValue :=
  match value with
  | array (x :: _) => x
  | string (c :: _) => string [c]
  | value => value.get? (py "0")

/-- `value ?? other`. -/
def orElse (value other : JsValue) : JsValue :=
  if value.isNullish then other else value

end JsValue

/-- `Number.isInteger`. -/
def isInteger : PyFloat → Bool
  | .finite _ m e => 0 ≤ e || m % 10 ^ (-e).toNat = 0
  | _ => false

/-- `finiteNonNegativeInteger`. -/
def finiteNonNegativeInteger (value : JsValue) : Option PyFloat :=
  match value with
  | .number x => if isInteger x ∧ ¬ x.ltZero then some x else none
  | _ => none

/-- A call of `onToken` or `onUsage`. -/
inductive Call
  | token (token : JsValue)
  | usage (promptTokens completionTokens : Option PyFloat)

/-- White space and line terminators. -/
def isJsSpace (c : Nat) : Bool :=
  (9 ≤ c && c ≤ 13) || c = 32 || c = 0xA0 || c = 0x1680 || (0x2000 ≤ c && c ≤ 0x200A) || c = 0x2028 || c = 0x2029 ||
    c = 0x202F || c = 0x205F || c = 0x3000 || c = 0xFEFF

/-- `line.replace(/\r$/, '')`. -/
def dropReturn (line : PyStr) : PyStr := if line.getLast? = some 13 then line.dropLast else line

/-- `trim()`. -/
def trim (s : PyStr) : PyStr := (s.dropWhile isJsSpace).rdropWhile isJsSpace

section

variable {ε : Type} (parse : PyStr → Except ε JsValue) (hasOnUsage : Bool)

/-- The calls for an event. -/
def consumeEvent (event : JsValue) : Emitted (JsError ε) Call :=
  if event.isNullish then ⟨[], some .typeError⟩
  else
    match (event.own (py "error")).get? (py "message") with
    | .string text => ⟨[], some (.message text)⟩
    | _ =>
      let usage := event.own (py "usage")
      let usageCalls :=
        if usage.truthy ∧ hasOnUsage then
          [Call.usage (finiteNonNegativeInteger (usage.own (py "prompt_tokens")))
            (finiteNonNegativeInteger (usage.own (py "completion_tokens")))]
        else []
      let choice := (event.own (py "choices")).first?
      let token := ((choice.get? (py "delta")).get? (py "content")).orElse (choice.get? (py "text"))
      ⟨usageCalls ++ if token.truthy then [Call.token token] else [], none⟩

/-- `consumeLine`. -/
def consumeLine (line : PyStr) : Emitted (JsError ε) Call :=
  let normalized := trim (dropReturn line)
  if ¬ (py "data:").isPrefixOf normalized then .none
  else
    let payload := (normalized.drop 5).dropWhile isJsSpace
    if payload = [] ∨ payload = py "[DONE]" then .none
    else
      match parse payload with
      | .error e => ⟨[], some (.parse e)⟩
      | .ok event => consumeEvent hasOnUsage event

/-- The state of a parser: its `buffer`, which is a part of a line. -/
@[ext]
structure Parser where
  buffer : PyStr
  isOpen : 10 ∉ buffer
  deriving DecidableEq

/-- `createOpenAIStreamParser`. -/
def Parser.create : Parser := ⟨[], List.not_mem_nil⟩

namespace Parser

/-- `push`. -/
def push (parser : Parser) (chunk : PyStr) : Emitted (JsError ε) Call × Parser :=
  let lines := (parser.buffer ++ chunk).splitOn 10
  (.each (consumeLine parse hasOnUsage) lines.dropLast,
    ⟨lines.getLastD [], not_mem_last 10 _⟩)

/-- `finish`. The buffer stays after an error. -/
def finish (parser : Parser) : Emitted (JsError ε) Call × Parser :=
  let calls := if parser.buffer ≠ [] then consumeLine parse hasOnUsage parser.buffer else .none
  (calls, if calls.error.isSome then parser else create)

/-- The chunks are pushed in order, up to an error. -/
def pushAll (parser : Parser) : List PyStr → Emitted (JsError ε) Call × Parser
  | [] => (.none, parser)
  | chunk :: chunks =>
    let (calls, next) := push parse hasOnUsage parser chunk
    if calls.error.isSome then (calls, next)
    else
      let (rest, last) := pushAll next chunks
      (calls.andThen rest, last)

/-- The chunks are pushed in order, and then `finish` is called; all up to an error. -/
def stream (parser : Parser) (chunks : List PyStr) : Emitted (JsError ε) Call × Parser :=
  let (calls, next) := pushAll parse hasOnUsage parser chunks
  if calls.error.isSome then (calls, next)
  else
    let (rest, last) := next.finish parse hasOnUsage
    (calls.andThen rest, last)

end Parser

end

namespace Parser

variable {ε : Type} {parse : PyStr → Except ε JsValue} {hasOnUsage : Bool}

/-- Nothing is pushed. -/
theorem push_nil (parser : Parser) : push parse hasOnUsage parser [] = (.none, parser) := by
  obtain ⟨buffer, hopen⟩ := parser
  simp only [push, List.append_nil, splitOn_of_not_mem 10 hopen]
  rfl

/-- A push of two texts is a push of the first, and of the second unless there was an error. -/
theorem push_append (parser : Parser) (first second : PyStr) :
    push parse hasOnUsage parser (first ++ second) =
      ((push parse hasOnUsage parser first).1.andThen
          (push parse hasOnUsage (push parse hasOnUsage parser first).2 second).1,
        (push parse hasOnUsage (push parse hasOnUsage parser first).2 second).2) := by
  have hlines := splitOn_append 10 (parser.buffer ++ first) second
  rw [List.append_assoc] at hlines
  have hrest := splitOn_ne_nil 10 (((parser.buffer ++ first).splitOn 10).getLastD [] ++ second)
  refine Prod.ext ?_ (Parser.ext ?_)
  · show Emitted.each _ (List.dropLast (List.splitOn 10 _)) = _
    rw [hlines, List.dropLast_append_of_ne_nil hrest, Emitted.each_append]
    rfl
  · show (List.splitOn 10 _).getLastD [] = (List.splitOn 10 _).getLastD []
    rw [hlines, List.getLastD_eq_getLast?, List.getLast?_append_of_ne_nil _ hrest, ← List.getLastD_eq_getLast?]
    rfl

/-- Pushing chunks is pushing their text, up to an error. -/
theorem pushAll_eq (parser : Parser) (chunks : List PyStr) :
    (pushAll parse hasOnUsage parser chunks).1 = (push parse hasOnUsage parser chunks.flatten).1 ∧
      ((pushAll parse hasOnUsage parser chunks).1.error = none →
        (pushAll parse hasOnUsage parser chunks).2 = (push parse hasOnUsage parser chunks.flatten).2) := by
  induction chunks generalizing parser with
  | nil =>
    rw [List.flatten_nil, push_nil]
    exact ⟨rfl, fun _ => rfl⟩
  | cons chunk chunks ih =>
    rw [List.flatten_cons, push_append]
    obtain ⟨hcalls, hlast⟩ := ih (push parse hasOnUsage parser chunk).2
    unfold pushAll
    dsimp only
    cases herror : (push parse hasOnUsage parser chunk).1.error with
    | some e =>
      have hstop : (push parse hasOnUsage parser chunk).1.error ≠ none := by rw [herror]; exact Option.some_ne_none e
      rw [Option.isSome_some, if_pos rfl, Emitted.andThen_of_error hstop]
      exact ⟨rfl, fun hnone => absurd hnone hstop⟩
    | none =>
      rw [Option.isSome_none, if_neg Bool.false_ne_true]
      refine ⟨by rw [hcalls], fun hnone => hlast ?_⟩
      rwa [Emitted.error_andThen herror] at hnone

/-- A stream of chunks is the stream of their text. -/
theorem stream_flatten (parser : Parser) (chunks : List PyStr) :
    (stream parse hasOnUsage parser chunks).1 = (stream parse hasOnUsage parser [chunks.flatten]).1 := by
  obtain ⟨hcalls, hlast⟩ := @pushAll_eq _ parse hasOnUsage parser chunks
  obtain ⟨hcalls', hlast'⟩ := @pushAll_eq _ parse hasOnUsage parser [chunks.flatten]
  rw [List.flatten_singleton] at hcalls' hlast'
  have hsame := hcalls.trans hcalls'.symm
  unfold stream
  dsimp only
  rw [hsame]
  cases herror : (pushAll parse hasOnUsage parser [chunks.flatten]).1.error with
  | some e => rw [Option.isSome_some, if_pos rfl, if_pos rfl]
  | none =>
    rw [Option.isSome_none, if_neg Bool.false_ne_true, if_neg Bool.false_ne_true,
      hlast (hsame.symm ▸ herror), hlast' herror]

/-- After `finish`, unless it threw, the parser is as a new one. -/
theorem finish_renews (parser : Parser) (h : (finish parse hasOnUsage parser).1.error = none) :
    (finish parse hasOnUsage parser).2 = create := by
  unfold finish at h ⊢
  dsimp only at h ⊢
  rw [h, Option.isSome_none, if_neg Bool.false_ne_true]

end Parser

/-- The calls and the first error do not depend on the chunks, and `finish` leaves a new parser unless it throws. -/
theorem stream_independent_of_chunks {ε : Type} (parse : PyStr → Except ε JsValue) (hasOnUsage : Bool)
    (chunks : List PyStr) :
    (Parser.create.stream parse hasOnUsage chunks).1 = (Parser.create.stream parse hasOnUsage [chunks.flatten]).1 ∧
      ∀ parser : Parser, (parser.finish parse hasOnUsage).1.error = none →
        (parser.finish parse hasOnUsage).2 = .create :=
  ⟨Parser.stream_flatten .create chunks, Parser.finish_renews⟩

/-- The event of the payload `1`; other payloads are no JSON. -/
def Sample.parse (payload : PyStr) : Except Unit JsValue :=
  if payload = py "1" then .ok (.object [(py "choices", .array [.object [(py "text", .string (py "a"))]])])
  else .error ()

/-- A line is cut in its field name, and the last one has no newline. -/
theorem cut_lines_are_joined :
    (Parser.create.stream Sample.parse true [py "da", py "ta: 1\r\nda", [], py "ta: 1"]).1 =
        (Parser.create.stream Sample.parse true [py "data: 1\r\ndata: 1"]).1 ∧
      (Parser.create.stream Sample.parse true [py "data: 1\r\ndata: 1"]).1 =
        ⟨[.token (.string (py "a")), .token (.string (py "a"))], none⟩ ∧
      (Parser.create.finish Sample.parse true).2 = .create :=
  have h := stream_independent_of_chunks Sample.parse true [py "da", py "ta: 1\r\nda", [], py "ta: 1"]
  ⟨h.1, rfl, h.2 .create rfl⟩

end OpenLLMOps.Frontend
