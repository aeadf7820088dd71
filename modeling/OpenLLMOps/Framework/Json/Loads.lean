import OpenLLMOps.Framework.PyNumber

/-!
# Decoding JSON

`json.loads` of a byte string: the encoding is found (`detectEncoding`) and decoded with
`surrogatepass`, and the text is scanned. What the scanner leaves to its caller (constants
that are no JSON, the entries of an object, `float` of a numeral) is in a `JsonDecoder`.

The scanner recurses on a fuel, of which a value needs no more than two for each of its
characters. Python's limit on nesting is not modelled.
-/

namespace Framework

/-- Why a text is not decoded. -/
inductive JsonError
  /-- `UnicodeDecodeError`. -/
  | unicode
  /-- `JSONDecodeError`. -/
  | decode
  /-- The `ValueError` of `int` for more than 4300 digits. -/
  | digits
  /-- Raised by `parse_constant`. -/
  | constant (text : PyStr)
  /-- Raised by `object_pairs_hook`. -/
  | duplicate (key : PyStr)
  deriving DecidableEq

/-! ## Encodings -/

inductive JsonEncoding
  | utf8
  | utf16 (bigEndian : Bool)
  | utf32 (bigEndian : Bool)
  deriving DecidableEq

/-- `BOM_UTF32_BE`, `BOM_UTF32_LE`, `BOM_UTF16_BE`, `BOM_UTF16_LE` and `BOM_UTF8`, in the order of their tests. -/
def byteOrderMarks : List (Bytes × JsonEncoding) :=
  [([0x00, 0x00, 0xFE, 0xFF], .utf32 true), ([0xFF, 0xFE, 0x00, 0x00], .utf32 false), ([0xFE, 0xFF], .utf16 true),
    ([0xFF, 0xFE], .utf16 false), ([0xEF, 0xBB, 0xBF], .utf8)]

/-- The encoding of bytes without a mark, by their zeros. -/
def unmarkedEncoding : Bytes → JsonEncoding
  | b₀ :: b₁ :: b₂ :: b₃ :: _ =>
    if b₀ = 0 then (if b₁ = 0 then .utf32 true else .utf16 true)
    else if b₁ = 0 then (if b₂ = 0 ∧ b₃ = 0 then .utf32 false else .utf16 false)
    else .utf8
  | [b₀, b₁] => if b₀ = 0 then .utf16 true else if b₁ = 0 then .utf16 false else .utf8
  | _ => .utf8

/-- `detect_encoding`, and the bytes after a byte order mark. -/
def detectEncoding (b : Bytes) : JsonEncoding × Bytes :=
  match byteOrderMarks.find? fun mark => mark.1.isPrefixOf b with
  | some (mark, encoding) => (encoding, b.drop mark.length)
  | none => (unmarkedEncoding b, b)

/-- A continuation byte of UTF-8. -/
def isTail (b : UInt8) : Bool := 0x80 ≤ b && b ≤ 0xBF

/-- `decode("utf-8", "surrogatepass")`. -/
def decodeUtf8 : Bytes → Option PyStr
  | [] => some []
  | a :: rest =>
    if a < 0x80 then (decodeUtf8 rest).map (a.toNat :: ·)
    else
      match rest with
      | b :: rest =>
        if 0xC2 ≤ a ∧ a ≤ 0xDF then
          if isTail b then (decodeUtf8 rest).map (((a.toNat - 0xC0) * 0x40 + (b.toNat - 0x80)) :: ·) else none
        else
          match rest with
          | c :: rest =>
            if 0xE0 ≤ a ∧ a ≤ 0xEF then
              if isTail b ∧ isTail c ∧ (a = 0xE0 → 0xA0 ≤ b) then
                (decodeUtf8 rest).map
                  (((a.toNat - 0xE0) * 0x1000 + (b.toNat - 0x80) * 0x40 + (c.toNat - 0x80)) :: ·)
              else none
            else
              match rest with
              | d :: rest =>
                if 0xF0 ≤ a ∧ a ≤ 0xF4 ∧ isTail b ∧ isTail c ∧ isTail d ∧ (a = 0xF0 → 0x90 ≤ b) ∧
                    (a = 0xF4 → b ≤ 0x8F) then
                  (decodeUtf8 rest).map
                    (((a.toNat - 0xF0) * 0x40000 + (b.toNat - 0x80) * 0x1000 + (c.toNat - 0x80) * 0x40 +
                      (d.toNat - 0x80)) :: ·)
                else none
              | [] => none
          | [] => none
      | [] => none

/-- The code units of UTF-16. -/
def units16 (bigEndian : Bool) : Bytes → Option PyStr
  | [] => some []
  | [_] => none
  | a :: b :: rest =>
    (units16 bigEndian rest).map ((if bigEndian then a.toNat * 0x100 + b.toNat else b.toNat * 0x100 + a.toNat) :: ·)

def isHigh (c : Nat) : Bool := 0xD800 ≤ c && c ≤ 0xDBFF

def isLow (c : Nat) : Bool := 0xDC00 ≤ c && c ≤ 0xDFFF

/-- The code point of a surrogate pair. -/
def joinSurrogates (high low : Nat) : Nat := 0x10000 + (high - 0xD800) * 0x400 + (low - 0xDC00)

/-- Surrogate pairs are joined; others are left. -/
def joinPairs : PyStr → PyStr
  | [] => []
  | [c] => [c]
  | c :: d :: rest => if isHigh c ∧ isLow d then joinSurrogates c d :: joinPairs rest else c :: joinPairs (d :: rest)

/-- The code points of UTF-32. -/
def decodeUtf32 (bigEndian : Bool) : Bytes → Option PyStr
  | [] => some []
  | a :: b :: c :: d :: rest =>
    let n := if bigEndian then ((a.toNat * 0x100 + b.toNat) * 0x100 + c.toNat) * 0x100 + d.toNat
      else ((d.toNat * 0x100 + c.toNat) * 0x100 + b.toNat) * 0x100 + a.toNat
    if n < 0x110000 then (decodeUtf32 bigEndian rest).map (n :: ·) else none
  | _ => none

/-- `b.decode(detect_encoding(b), "surrogatepass")`. -/
def decodeText (b : Bytes) : Option PyStr :=
  match detectEncoding b with
  | (.utf8, b) => decodeUtf8 b
  | (.utf16 bigEndian, b) => (units16 bigEndian b).map joinPairs
  | (.utf32 bigEndian, b) => decodeUtf32 bigEndian b

/-! ## The scanner -/

/-- `WHITESPACE`. -/
def isJsonSpace (c : Nat) : Bool := c = 32 || c = 9 || c = 10 || c = 13

def skipSpace (s : PyStr) : PyStr := s.dropWhile isJsonSpace

def hexDigit? (c : Nat) : Option Nat :=
  if 48 ≤ c ∧ c ≤ 57 then some (c - 48)
  else if 97 ≤ c ∧ c ≤ 102 then some (c - 87)
  else if 65 ≤ c ∧ c ≤ 70 then some (c - 55)
  else none

/-- The value of four hexadecimal digits. -/
def hex4? (a b c d : Nat) : Option Nat := do
  let a ← hexDigit? a
  let b ← hexDigit? b
  let c ← hexDigit? c
  let d ← hexDigit? d
  pure (((a * 16 + b) * 16 + c) * 16 + d)

/-- The character of a simple escape. -/
def escape? (c : Nat) : Option Nat :=
  if c = 34 ∨ c = 92 ∨ c = 47 then some c
  else if c = 98 then some 8
  else if c = 102 then some 12
  else if c = 110 then some 10
  else if c = 114 then some 13
  else if c = 116 then some 9
  else none

/-- `scanstring` after the opening quote, strict, and the text after the closing quote. Escaped
surrogates are joined below, and then only among themselves. -/
def scanUnits : PyStr → Option (List (Nat × Bool) × PyStr)
  | [] => none
  | 34 :: rest => some ([], rest)
  | 92 :: 117 :: a :: b :: c :: d :: rest => do
    let n ← hex4? a b c d
    let (units, rest) ← scanUnits rest
    pure ((n, true) :: units, rest)
  | 92 :: c :: rest => do
    let c ← escape? c
    let (units, rest) ← scanUnits rest
    pure ((c, false) :: units, rest)
  | c :: rest =>
    if c < 32 ∨ c = 92 then none
    else do
      let (units, rest) ← scanUnits rest
      pure ((c, false) :: units, rest)

/-- Pairs of escaped surrogates are joined. -/
def joinEscapes : List (Nat × Bool) → PyStr
  | [] => []
  | [c] => [c.1]
  | c :: d :: rest =>
    if c.2 ∧ d.2 ∧ isHigh c.1 ∧ isLow d.1 then joinSurrogates c.1 d.1 :: joinEscapes rest
    else c.1 :: joinEscapes (d :: rest)

/-- `scanstring`. -/
def scanString (s : PyStr) : Option (PyStr × PyStr) := (scanUnits s).map fun r => (joinEscapes r.1, r.2)

/-- `_match_number`: the sign, the digits before the point, the rest of a float's numeral, and the
text behind. -/
def scanNumber (s : PyStr) : Option (Bool × PyStr × PyStr × PyStr) :=
  let (neg, s) := match s with
    | 45 :: s => (true, s)
    | s => (false, s)
  match s with
  | c :: rest =>
    if isDigit c then
      let (int, rest) := if c = 48 then ([c], rest) else (c :: rest.takeWhile isDigit, rest.dropWhile isDigit)
      let (frac, rest) := match rest with
        | 46 :: d :: rest => if isDigit d then (46 :: d :: rest.takeWhile isDigit, rest.dropWhile isDigit) else ([], 46 :: d :: rest)
        | rest => ([], rest)
      let (exp, rest) := scanExponent rest
      some (neg, int, frac ++ exp, rest)
    else none
  | [] => none
where
  scanExponent (s : PyStr) : PyStr × PyStr :=
    match s with
    | e :: rest =>
      if e = 69 ∨ e = 101 then
        let (sign, digits) := match rest with
          | 43 :: rest => ([43], rest)
          | 45 :: rest => ([45], rest)
          | rest => ([], rest)
        match digits with
        | d :: _ =>
          if isDigit d then (e :: sign ++ digits.takeWhile isDigit, digits.dropWhile isDigit) else ([], s)
        | [] => ([], s)
      else ([], s)
    | [] => ([], s)

/-- What `json.loads` leaves to its caller. -/
structure JsonDecoder where
  /-- `float` of a numeral. -/
  float : PyStr → PyFloat
  parseConstant : PyStr → Except JsonError Json
  objectPairs : List (PyStr × Json) → Except JsonError (List (PyStr × Json))

section Scan

variable (h : JsonDecoder)

/-- The value of a numeral. -/
def JsonDecoder.number (neg : Bool) (int rest : PyStr) : Except JsonError Json :=
  if rest ≠ [] then .ok (.float (h.float ((if neg then [45] else []) ++ int ++ rest)))
  else if 4300 < int.length then .error .digits
  else .ok (.int (if neg then -(ofDecimal int : Int) else ofDecimal int))

mutual

/-- `scan_once`. -/
def scanOnce : Nat → PyStr → Except JsonError (Json × PyStr)
  | 0, _ => .error .decode
  | fuel + 1, s =>
    match s with
    | 34 :: rest => ((scanString rest).map fun r => (Json.str r.1, r.2)).elim (.error .decode) .ok
    | 123 :: rest =>
      match skipSpace rest with
      | 125 :: rest => do
        let kvs ← h.objectPairs []
        .ok (.obj kvs, rest)
      | rest => do
        let (kvs, rest) ← scanMembers fuel rest
        let kvs ← h.objectPairs kvs
        .ok (.obj kvs, rest)
    | 91 :: rest =>
      match skipSpace rest with
      | 93 :: rest => .ok (.arr [], rest)
      | rest => do
        let (xs, rest) ← scanElements fuel rest
        .ok (.arr xs, rest)
    | 110 :: 117 :: 108 :: 108 :: rest => .ok (.null, rest)
    | 116 :: 114 :: 117 :: 101 :: rest => .ok (.bool true, rest)
    | 102 :: 97 :: 108 :: 115 :: 101 :: rest => .ok (.bool false, rest)
    | 78 :: 97 :: 78 :: rest => (h.parseConstant (py "NaN")).map fun v => (v, rest)
    | 73 :: 110 :: 102 :: 105 :: 110 :: 105 :: 116 :: 121 :: rest =>
      (h.parseConstant (py "Infinity")).map fun v => (v, rest)
    | 45 :: 73 :: 110 :: 102 :: 105 :: 110 :: 105 :: 116 :: 121 :: rest =>
      (h.parseConstant (py "-Infinity")).map fun v => (v, rest)
    | s =>
      match scanNumber s with
      | some (neg, int, numeral, rest) => (h.number neg int numeral).map fun v => (v, rest)
      | none => .error .decode

/-- The members of an object up to its closing brace. -/
def scanMembers : Nat → PyStr → Except JsonError (List (PyStr × Json) × PyStr)
  | 0, _ => .error .decode
  | fuel + 1, s =>
    match s with
    | 34 :: rest =>
      match scanString rest with
      | none => .error .decode
      | some (k, rest) =>
        match skipSpace rest with
        | 58 :: rest => do
          let (v, rest) ← scanOnce fuel (skipSpace rest)
          match skipSpace rest with
          | 125 :: rest => .ok ([(k, v)], rest)
          | 44 :: rest => do
            let (kvs, rest) ← scanMembers fuel (skipSpace rest)
            .ok ((k, v) :: kvs, rest)
          | _ => .error .decode
        | _ => .error .decode
    | _ => .error .decode

/-- The elements of an array up to its closing bracket. -/
def scanElements : Nat → PyStr → Except JsonError (List Json × PyStr)
  | 0, _ => .error .decode
  | fuel + 1, s => do
    let (v, rest) ← scanOnce fuel s
    match skipSpace rest with
    | 93 :: rest => .ok ([v], rest)
    | 44 :: rest => do
      let (xs, rest) ← scanElements fuel (skipSpace rest)
      .ok (v :: xs, rest)
    | _ => .error .decode

end

/-- `json.loads` of a string. -/
def loadsText (s : PyStr) : Except JsonError Json := do
  let (v, rest) ← scanOnce h (2 * s.length + 2) (skipSpace s)
  if skipSpace rest = [] then .ok v else .error .decode

/-- `json.loads` of a byte string. -/
def loads (b : Bytes) : Except JsonError Json :=
  match decodeText b with
  | none => .error .unicode
  | some s => loadsText h s

end Scan

/-- The hooks that refuse `NaN` and the infinities, and objects with a repeated key. -/
def JsonDecoder.strict (float : PyStr → PyFloat) : JsonDecoder where
  float := float
  parseConstant text := .error (.constant text)
  objectPairs kvs := uniqueKeys [] kvs
where
  /-- `_unique_json_object`. -/
  uniqueKeys (result : List (PyStr × Json)) : List (PyStr × Json) → Except JsonError (List (PyStr × Json))
    | [] => .ok result
    | (k, v) :: kvs =>
      if (result.map Prod.fst).contains k then .error (.duplicate k) else uniqueKeys (result ++ [(k, v)]) kvs

end Framework
