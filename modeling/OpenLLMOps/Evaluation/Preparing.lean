import OpenLLMOps.Evaluation.Manifest
import OpenLLMOps.Framework.System

/-!
# Preparing a benchmark

`prepare_builtin_benchmark` on its output directory, of which the state is the two files of the benchmark and the
temporary files left. Every operation on a file may raise an `OSError` (`Faults`), and a call may have any arguments
and any source.

A failed call that was not asked to replace anything changes neither file, and in every run of calls the dataset that
is in the directory is the one that the manifest beside it tells of (`dataset_is_described`).
-/

namespace OpenLLMOps.Benchmarks

open Framework Datasets Evaluation

/-! ## Files -/

inductive OutputFile
  | jsonl
  | manifest
  deriving DecidableEq

/-- An operation that may raise an `OSError`. -/
inductive OutputOperation
  | makeDirectory
  | makeTemporaryDirectory
  | create (file : OutputFile)
  | write (file : OutputFile)
  | replace (file : OutputFile)
  | removeTemporary (file : OutputFile)
  | removeJsonl

/-- Which operations raise. -/
abbrev Faults : Type := OutputOperation → Bool

structure Outputs where
  jsonl : Option Bytes
  manifest : Option Bytes
  temporaries : Nat

/-- An empty directory. -/
def Outputs.empty : Outputs := ⟨none, none, 0⟩

inductive PreparationError
  /-- A `BenchmarkPreparationError`. -/
  | preparation (text : PyStr)
  /-- A `LicenseAcceptanceRequired`, which is one. -/
  | license (text : PyStr)
  /-- An `OSError`. -/
  | operation
  /-- Another exception: of `encode` or `to_bytes`. -/
  | value

abbrev Preparing (α : Type) : Type := Effect Outputs PreparationError α

def Outputs.put (s : Outputs) : OutputFile → Bytes → Outputs
  | .jsonl, content => { s with jsonl := some content }
  | .manifest, content => { s with manifest := some content }

section

variable (faults : Faults)

def operation (op : OutputOperation) : Preparing Unit := if faults op then throw .operation else Pure.pure ()

def setTemporaries (change : Nat → Nat) : Preparing Unit := fun s =>
    (.ok (), { s with temporaries := change s.temporaries })

def replaceFile (file : OutputFile) (content : Bytes) : Preparing Unit := fun s => (.ok (), s.put file content)

/-- The body of the `try` behind the creation of the temporary file. -/
def writeTemporary (file : OutputFile) (content : Bytes) : Preparing Unit := do
  operation faults (.write file)
  operation faults (.replace file)
  setTemporaries (· - 1)
  replaceFile file content

/-- `_write_atomic`; `path` is what its error names. -/
def writeAtomic (path : PyStr) (file : OutputFile) (content : Bytes) : Preparing Unit :=
  let failed : Preparing Unit := throw (.preparation (py "无法写入输出文件: " ++ path))
  if faults (.create file) then failed
  else do
    setTemporaries (· + 1)
    tryCatch (writeTemporary faults file content) fun _ => do
      operation faults (.removeTemporary file)
      setTemporaries (· - 1)
      failed

end

/-! ## A call -/

/-- What `_read_source` returns. The readers have checked the sizes. -/
structure ReadSource where
  files : List SourceCsv
  sha256 : PyStr
  scope : PyStr
  small : ∀ source ∈ files, source.content.length ≤ maxCsvFileBytes
  unicode : IsUnicode sha256 ∧ IsUnicode scope

/-- The path of a source: its name, and what reading it comes to. -/
structure SourcePath where
  name : PyStr
  read : Prepared ReadSource
  unicode : IsUnicode name

/-- The arguments of a call, with what is found around it. -/
structure Call where
  online : Bool
  source : Option SourcePath
  sourceRevision : Option PyStr
  acceptNoncommercialLicense : Bool
  splits : Option (List PyStr)
  allowPartial : Bool
  overwrite : Bool
  /-- The SHA-256 that `_download` returns. -/
  download : Prepared PyStr
  /-- What reading the downloaded artifact comes to. -/
  artifact : Prepared ReadSource
  outputDirectory : PyStr
  faults : Faults
  unicode : ∀ revision ∈ sourceRevision, IsUnicode revision

/-- What is known of the source, and its files. -/
structure Input where
  mode : SourceMode
  read : ReadSource
  name : PyStr
  revision : PyStr
  verified : Bool

/-- `PreparedBenchmark`, without its paths. -/
structure PreparedBenchmark where
  recordCount : Nat
  jsonlSha256 : PyStr
  deriving DecidableEq

/-- The checks of the arguments. -/
def checkArguments (spec : BenchmarkSpec) (call : Call) : Except PreparationError Unit :=
  if call.online = call.source.isSome then .error (.preparation (py "必须且只能选择 online 或 source 之一"))
  else if call.online ∧ ¬call.acceptNoncommercialLicense then
    .error (.license (spec.title ++ py " 使用 " ++ licenseId ++ py " 非商业许可；在线下载前必须显式接受许可"))
  else if call.online ∧ call.sourceRevision.isSome then
    .error (.preparation (py "在线模式 revision 已固定，不能传入 source_revision"))
  else if call.source.isSome ∧ (call.sourceRevision.getD []).strip = [] then
    .error (.preparation (py "离线模式必须用 source_revision 记录管理员提供的版本"))
  else .ok ()

/-- What a `BenchmarkPreparationError` tells. -/
def Prepared.lift {α : Type} (p : Prepared α) : Except PreparationError α := p.mapError .preparation

/-- The source, downloaded or read. -/
def readInput (spec : BenchmarkSpec) (call : Call) : Except PreparationError Input :=
  match call.source with
  | none => do
    let sha256 ← (call.download : Prepared PyStr).lift
    let read ← (call.artifact : Prepared ReadSource).lift
    if read.sha256 ≠ sha256 then .error (.preparation (py "下载后读取制品时 SHA-256 发生变化"))
    else
      .ok ⟨.online, read, spec.downloadUrl.rtakeWhile (· ≠ 47), spec.onlineRevision, true⟩
  | some source => do
    let read ← (source.read : Prepared ReadSource).lift
    .ok ⟨.offline, read, source.name, (call.sourceRevision.getD []).strip, false⟩

/-- What is to be written. -/
structure Output where
  jsonl : Bytes
  manifest : Bytes
  prepared : PreparedBenchmark

section

variable (library : BenchmarkLibrary) (sha256 : Bytes → PyStr) (benchmark : Benchmark)

/-- The manifest of a conversion. -/
def manifestOf (call : Call) (splits : List Split) (input : Input) (contentSha256 : PyStr) (c : Converted)
    (jsonl : Bytes) : Manifest where
  benchmark := benchmark
  allowPartial := call.allowPartial
  isPartial := c.isPartial
  sourceFileCount := c.sourceFileCount
  splits := splits
  acceptedLicense := call.acceptNoncommercialLicense
  categoryCounts := c.categoryCounts
  recordCount := c.records.length
  jsonlSha256 := sha256 jsonl
  splitCounts := c.splitCounts
  contentSha256 := contentSha256
  inputName := input.name
  mode := input.mode
  revision := input.revision
  revisionVerified := input.verified
  sourceSha256 := input.read.sha256
  sha256Scope := input.read.scope

/-- An exception that is none of a preparation. -/
def orValue {α : Type} (x : Option α) : Except PreparationError α := x.elim (.error .value) .ok

/-- The contents of the two files. -/
def outputOf (call : Call) (splits : List Split) : Except PreparationError Output := do
  let input ← readInput benchmark.spec call
  let contentSha256 ← (benchmarkContentSha256 library benchmark.spec sha256 input.read.files).lift
  let contentSha256 ← orValue contentSha256
  let c ← (convert library benchmark.spec input.read.files splits call.allowPartial).lift
  let jsonl ← orValue (jsonlBytes c.records)
  let m := manifestOf sha256 benchmark call splits input contentSha256 c jsonl
  let manifest ← orValue m.bytes
  .ok ⟨jsonl, manifest, c.records.length, sha256 jsonl⟩

/-- A computation that touches no file. -/
def liftExcept {α : Type} (x : Except PreparationError α) : Preparing α := fun s => (x, s)

def anyOutput : Preparing Bool := fun s => (.ok (s.jsonl.isSome || s.manifest.isSome), s)

def unlinkJsonl : Preparing Unit := fun s => (.ok (), { s with jsonl := none })

/-- The path of a file, as an error names it. -/
def outputPath (call : Call) (suffix : String) : PyStr := call.outputDirectory ++ py "/" ++ benchmark.text ++ py suffix

/-- What is done when the manifest cannot be written. -/
def withdrawJsonl (faults : Faults) (e : PreparationError) : Preparing Unit :=
  match e with
  | .preparation _ => do
    operation faults .removeJsonl
    unlinkJsonl
    throw e
  | _ => throw e

/-- `prepare_builtin_benchmark`. -/
def prepareBuiltinBenchmark (call : Call) : Preparing PreparedBenchmark := do
  liftExcept (checkArguments benchmark.spec call)
  let splits ← liftExcept (normalizeSplits benchmark.spec call.splits).lift
  operation call.faults .makeDirectory
  if !call.overwrite && (← anyOutput) then
    throw (.preparation (py "输出已存在；确认替换时请显式使用 --overwrite"))
  else do
    operation call.faults .makeTemporaryDirectory
    let output ← liftExcept (outputOf library sha256 benchmark call splits)
    writeAtomic call.faults (outputPath benchmark call ".jsonl") .jsonl output.jsonl
    tryCatch (writeAtomic call.faults (outputPath benchmark call ".manifest.json") .manifest output.manifest)
      (withdrawJsonl call.faults)
    Pure.pure output.prepared

end

/-! ## What a call does -/

section

open Effect (wp wp_bind wp_ite wp_mono wp_tryCatch seq_ok)

variable {library : BenchmarkLibrary} {sha256 : Bytes → PyStr} {benchmark : Benchmark} {call : Call} {s : Outputs}

theorem wp_operation {faults : Faults} {op : OutputOperation} {Q : Except PreparationError Unit → Outputs → Prop}
    (hraise : faults op = true → Q (.error .operation) s) (hok : faults op = false → Q (.ok ()) s) :
    wp (operation faults op) Q s := by
  unfold operation
  split
  · rename_i h
    exact hraise h
  · rename_i h
    exact hok (Bool.eq_false_of_not_eq_true h)

theorem wp_setTemporaries {change : Nat → Nat} {Q : Except PreparationError Unit → Outputs → Prop} :
    wp (setTemporaries change) Q s ↔ Q (.ok ()) { s with temporaries := change s.temporaries } := Iff.rfl

theorem wp_anyOutput {Q : Except PreparationError Bool → Outputs → Prop} :
    wp anyOutput Q s ↔ Q (.ok (s.jsonl.isSome || s.manifest.isSome)) s := Iff.rfl

theorem wp_liftExcept {α : Type} {x : Except PreparationError α} {Q : Except PreparationError α → Outputs → Prop} :
    wp (liftExcept x) Q s ↔ Q x s := Iff.rfl

/-- What writing a file comes to. -/
def Written (faults : Faults) (file : OutputFile) (content : Bytes) (s : Outputs) :
    Except PreparationError Unit → Outputs → Prop
  | .ok _, s' => s' = s.put file content
  | .error e, s' => (∃ text, e = .preparation text) ∧ s' = s ∨
      faults (.removeTemporary file) = true ∧ s' = { s with temporaries := s.temporaries + 1 }

/-- The file is replaced, or nothing is done to it. -/
theorem wp_writeAtomic {faults : Faults} {path : PyStr} {file : OutputFile} {content : Bytes} :
    wp (writeAtomic faults path file content) (Written faults file content s) s := by
  have hremove : wp (do
      operation faults (.removeTemporary file)
      setTemporaries (· - 1)
      throw (.preparation (py "无法写入输出文件: " ++ path))) (Written faults file content s)
      { s with temporaries := s.temporaries + 1 } := by
    rw [wp_bind]
    exact wp_operation (fun hfault => .inr ⟨hfault, rfl⟩) fun _ => .inl ⟨⟨_, rfl⟩, rfl⟩
  unfold writeAtomic
  dsimp only
  rw [wp_ite]
  split
  · exact .inl ⟨⟨_, rfl⟩, rfl⟩
  · rw [wp_bind, wp_setTemporaries, seq_ok, wp_tryCatch, writeTemporary, wp_bind]
    refine wp_operation (fun _ => hremove) fun _ => ?_
    rw [seq_ok, wp_bind]
    refine wp_operation (fun _ => hremove) fun _ => ?_
    show _ = s.put file content
    cases file <;> rfl

/-- The faults of a call are those that it handles. -/
structure Call.Handled (call : Call) : Prop where
  removeTemporary : ∀ file, call.faults (.removeTemporary file) = false
  removeJsonl : call.faults .removeJsonl = false

/-- What a call comes to. -/
def Prepares (library : BenchmarkLibrary) (sha256 : Bytes → PyStr) (benchmark : Benchmark) (call : Call) (s : Outputs) :
    Except PreparationError PreparedBenchmark → Outputs → Prop
  | .ok r, s' => ∃ splits output, outputOf library sha256 benchmark call splits = .ok output ∧ r = output.prepared ∧
      s' = ⟨some output.jsonl, some output.manifest, s.temporaries⟩
  | .error _, s' => call.Handled → s' = s ∨ call.overwrite = true ∧ s' = { s with jsonl := none }

/-- The exception is raised again, or another; the dataset is gone, if it could be removed. -/
theorem wp_withdrawJsonl {faults : Faults} {e : PreparationError} :
    wp (withdrawJsonl faults e) (fun r s' => (∃ e', r = .error e') ∧
      ∀ text, e = .preparation text → faults .removeJsonl = false → s' = { s with jsonl := none }) s := by
  cases e with
  | preparation text =>
    show wp (operation faults .removeJsonl >>= _) _ s
    rw [wp_bind]
    refine wp_operation (fun hfault => ⟨⟨_, rfl⟩, fun _ _ hno => ?_⟩) fun _ => ⟨⟨_, rfl⟩, fun _ _ _ => rfl⟩
    rw [hfault] at hno
    cases hno
  | license text => exact ⟨⟨_, rfl⟩, fun _ he => by cases he⟩
  | operation => exact ⟨⟨_, rfl⟩, fun _ he => by cases he⟩
  | value => exact ⟨⟨_, rfl⟩, fun _ he => by cases he⟩

/-- What the two writes come to. -/
theorem wp_writeOutput {splits : List Split} {output : Output}
    (houtput : outputOf library sha256 benchmark call splits = .ok output)
    (hfree : call.overwrite = true ∨ s.jsonl = none) :
    wp (do
      writeAtomic call.faults (outputPath benchmark call ".jsonl") .jsonl output.jsonl
      tryCatch (writeAtomic call.faults (outputPath benchmark call ".manifest.json") .manifest output.manifest)
        (withdrawJsonl call.faults)
      Pure.pure output.prepared) (Prepares library sha256 benchmark call s) s := by
  have hcontra {file : OutputFile} (hfault : call.faults (.removeTemporary file) = true) :
    ¬call.Handled := fun hhandled => by
    rw [hhandled.removeTemporary file] at hfault
    cases hfault
  rw [wp_bind]
  refine wp_mono wp_writeAtomic fun r s₁ hfirst => ?_
  cases r with
  | error e =>
    rcases hfirst with ⟨-, rfl⟩ | ⟨hfault, -⟩
    · exact fun _ => .inl rfl
    · exact fun hhandled => absurd hhandled (hcontra hfault)
  | ok =>
    obtain rfl : s₁ = s.put .jsonl output.jsonl := hfirst
    rw [seq_ok, wp_bind, wp_tryCatch]
    refine wp_mono wp_writeAtomic fun r s₂ hsecond => ?_
    cases r with
    | ok =>
      obtain rfl : s₂ = (s.put .jsonl output.jsonl).put .manifest output.manifest := hsecond
      exact ⟨splits, output, houtput, rfl, rfl⟩
    | error e =>
      refine wp_mono wp_withdrawJsonl fun r s' hwithdrawn => ?_
      obtain ⟨⟨e', rfl⟩, hremoved⟩ := hwithdrawn
      intro hhandled
      rcases hsecond with ⟨⟨text, he⟩, rfl⟩ | ⟨hfault, -⟩
      · have hs' : s' = { s with jsonl := none } := hremoved text he hhandled.removeJsonl
        rcases hfree with hoverwrite | hnone
        · exact .inr ⟨hoverwrite, hs'⟩
        · refine .inl (hs'.trans ?_)
          rw [← hnone]
      · exact absurd hhandled (hcontra hfault)

theorem wp_prepareBuiltinBenchmark :
    wp (prepareBuiltinBenchmark library sha256 benchmark call) (Prepares library sha256 benchmark call s) s := by
  have hkept : Prepares library sha256 benchmark call s (.error .value) s := fun _ => .inl rfl
  unfold prepareBuiltinBenchmark
  rw [wp_bind, wp_liftExcept]
  cases checkArguments benchmark.spec call with
  | error e => exact hkept
  | ok =>
    rw [seq_ok, wp_bind, wp_liftExcept]
    cases Prepared.lift (normalizeSplits benchmark.spec call.splits) with
    | error e => exact hkept
    | ok splits =>
      rw [seq_ok, wp_bind]
      refine wp_operation (fun _ => hkept) fun _ => ?_
      rw [seq_ok, wp_bind, wp_anyOutput, seq_ok, wp_ite]
      split
      · exact hkept
      · rename_i hno
        have hfree : call.overwrite = true ∨ s.jsonl = none := by
          cases hoverwrite : call.overwrite
          · rw [hoverwrite] at hno
            cases hjsonl : s.jsonl
            · exact .inr rfl
            · rw [hjsonl] at hno
              exact absurd rfl hno
          · exact .inl rfl
        rw [wp_bind]
        refine wp_operation (fun _ => hkept) fun _ => ?_
        rw [seq_ok, wp_bind, wp_liftExcept]
        cases houtput : outputOf library sha256 benchmark call splits with
        | error e => exact hkept
        | ok output => exact wp_writeOutput houtput hfree

/-! ## Runs -/

/-- Calls on one directory, one after the other. -/
def preparations (library : BenchmarkLibrary) (sha256 : Bytes → PyStr) (benchmark : Benchmark) :
    System Outputs Call where
  init := .empty
  step s call := some (prepareBuiltinBenchmark library sha256 benchmark call s).2

/-- The manifest, as it is decoded, tells of the dataset beside it: its digest, and the number of its lines, of which
each is a sample to a reader. -/
def Described (reader : DatasetLibrary) (s : Outputs) : Prop :=
  ∀ b, s.jsonl = some b → ∃ manifest n, s.manifest = some manifest ∧ Tells reader.float manifest (reader.sha256 b) n ∧
    ((lines b).countP fun raw => !isBlank raw) = n ∧
    ∀ result, loadJsonl reader b = .ok result → result.1.length = n ∧ result.2 = reader.sha256 b

variable {reader : DatasetLibrary}

theorem Described.of_none (h : s.jsonl = none) : Described reader s := fun b hb => by
  rw [h] at hb
  cases hb

theorem readInput_unicode {input : Input} (h : readInput benchmark.spec call = .ok input) :
    IsUnicode input.name ∧ IsUnicode input.revision := by
  unfold readInput at h
  split at h
  · obtain ⟨sha256, -, h⟩ := bind_eq_ok.mp h
    obtain ⟨read, -, h⟩ := bind_eq_ok.mp h
    obtain ⟨-, h⟩ := ite_error_eq_ok.mp h
    obtain rfl := Except.ok.inj h
    have hname : (benchmark.spec.downloadUrl.rtakeWhile (· ≠ 47)).all (fun c => 32 < c && c < 127) = true := by
      cases benchmark <;> decide +kernel
    have hrevision : benchmark.spec.onlineRevision.all (fun c => 32 < c && c < 127) = true := by
      cases benchmark <;> decide +kernel
    exact ⟨graphic_unicode (chars_graphic hname), graphic_unicode (chars_graphic hrevision)⟩
  · rename_i source hsource
    obtain ⟨read, -, h⟩ := bind_eq_ok.mp h
    obtain rfl := Except.ok.inj h
    have hrevision : IsUnicode (call.sourceRevision.getD []) := by
      cases hsome : call.sourceRevision with
      | none => exact List.forall_mem_nil _
      | some revision => exact call.unicode revision hsome
    exact ⟨source.unicode, fun c hc => hrevision c (PyStr.mem_of_mem_strip hc)⟩

theorem orValue_eq_ok {α : Type} {x : Option α} {a : α} (h : orValue x = .ok a) : x = some a := by
  cases x with
  | none => cases h
  | some b => exact congrArg some (Except.ok.inj h)

/-- The two contents belong together. -/
theorem outputOf_described (hsha256 : ∀ b, IsUnicode (reader.sha256 b)) {splits : List Split} {output : Output}
    (h : outputOf library reader.sha256 benchmark call splits = .ok output) (n : Nat) :
    Described reader ⟨some output.jsonl, some output.manifest, n⟩ := by
  obtain ⟨input, hinput, h⟩ := bind_eq_ok.mp h
  obtain ⟨content, hcontent, h⟩ := bind_eq_ok.mp h
  obtain ⟨contentSha256, hcontentSha256, h⟩ := bind_eq_ok.mp h
  obtain ⟨c, hc, h⟩ := bind_eq_ok.mp h
  obtain ⟨jsonl, hjsonl, h⟩ := bind_eq_ok.mp h
  obtain ⟨manifest, hmanifest, h⟩ := bind_eq_ok.mp h
  obtain rfl := Except.ok.inj h
  have hsize := input.read.small
  have hc := mapError_eq_ok.mp hc
  have hjsonl := orValue_eq_ok hjsonl
  obtain ⟨hname, hrevision⟩ := readInput_unicode hinput
  obtain ⟨hsplitCounts, hcategoryCounts, hrecordCount, hfiles⟩ := convert_tallied hsize hc
  have hcontentSha256 : IsUnicode contentSha256 := by
    obtain ⟨files, -, hsha⟩ := bind_eq_ok.mp (mapError_eq_ok.mp hcontent)
    rw [← Except.ok.inj hsha] at hcontentSha256
    obtain ⟨tree, -, rfl⟩ := Option.map_eq_some_iff.mp (orValue_eq_ok hcontentSha256)
    exact hsha256 tree
  have hproper : (manifestOf reader.sha256 benchmark call splits input contentSha256 c jsonl).Proper :=
    ⟨hsha256 jsonl, hcontentSha256, hname, hrevision, input.read.unicode.1, input.read.unicode.2, hfiles, hrecordCount,
      hcategoryCounts, hsplitCounts⟩
  obtain ⟨questions, hrecords, hread⟩ := prepared_read reader hsize hc hjsonl
  intro b hb
  obtain rfl : jsonl = b := Option.some.inj hb
  refine ⟨manifest, c.records.length, rfl, hproper.tells (orValue_eq_ok hmanifest) reader.float,
    prepared_count hsize hc hjsonl, fun result hresult => ?_⟩
  obtain rfl := Except.ok.inj (hresult.symm.trans (hread (loadJsonl_short hresult)))
  refine ⟨?_, rfl⟩
  show (questions.map (Question.sample benchmark.spec)).length = c.records.length
  rw [hrecords, List.length_map, List.length_map]

/-- One call keeps the dataset described; and if it fails, it replaces nothing that it was not asked to. -/
theorem prepare_step (hsha256 : ∀ b, IsUnicode (reader.sha256 b)) (hhandled : call.Handled) (h : Described reader s) :
    let s' := (prepareBuiltinBenchmark library reader.sha256 benchmark call s).2
    Described reader s' ∧ s'.temporaries = s.temporaries ∧
      ((prepareBuiltinBenchmark library reader.sha256 benchmark call s).1.isOk = false →
        call.overwrite = false → s' = s) := by
  have hcall : wp (prepareBuiltinBenchmark library reader.sha256 benchmark call)
      (Prepares library reader.sha256 benchmark call s) s := wp_prepareBuiltinBenchmark
  unfold wp at hcall
  dsimp only
  cases hresult : (prepareBuiltinBenchmark library reader.sha256 benchmark call s).1 with
  | ok r =>
    rw [hresult] at hcall
    obtain ⟨splits, output, houtput, -, hs'⟩ := hcall
    rw [hs']
    exact ⟨outputOf_described hsha256 houtput _, rfl, fun hfailed => absurd hfailed (by simp [Except.isOk, Except.toBool])⟩
  | error e =>
    rw [hresult] at hcall
    rcases hcall hhandled with hs' | ⟨hoverwrite, hs'⟩
    · rw [hs']
      exact ⟨h, rfl, fun _ _ => rfl⟩
    · rw [hs', hoverwrite]
      exact ⟨.of_none rfl, rfl, fun _ hno => absurd hno (by decide)⟩

/-- In every run of calls with the faults that they handle, no temporary file is left, the dataset in the directory is
the one that its manifest tells of, and a failed call replaces nothing that it was not asked to. -/
theorem dataset_is_described (library : BenchmarkLibrary) (reader : DatasetLibrary) (benchmark : Benchmark)
    (hsha256 : ∀ b, IsUnicode (reader.sha256 b)) (calls : List Call) (hhandled : ∀ call ∈ calls, call.Handled) :
    (preparations library reader.sha256 benchmark).Always
      (fun s => Described reader s ∧ s.temporaries = 0) .empty calls ∧
      (preparations library reader.sha256 benchmark).EachStep (fun s call s' =>
        (prepareBuiltinBenchmark library reader.sha256 benchmark call s).1.isOk = false →
          call.overwrite = false → s' = s)
        .empty calls := by
  have hC (s : Outputs) :
      (preparations library reader.sha256 benchmark).EachStep (fun _ call _ => call.Handled) s calls := by
    induction calls generalizing s with
    | nil => trivial
    | cons call calls ih =>
      obtain ⟨hcall, hcalls⟩ := List.forall_mem_cons.mp hhandled
      exact fun s' _ => ⟨hcall, ih hcalls s'⟩
  have hstep {s s' : Outputs} {call : Call} (h : Described reader s ∧ s.temporaries = 0)
      (hs : (preparations library reader.sha256 benchmark).step s call = some s') (hcall : call.Handled) :
      Described reader s' ∧ s'.temporaries = 0 := by
    obtain rfl := Option.some.inj hs
    have hafter := @prepare_step library benchmark call s reader hsha256 hcall h.1
    exact ⟨hafter.1, hafter.2.1.trans h.2⟩
  have hempty : Described reader .empty ∧ Outputs.empty.temporaries = 0 := ⟨.of_none rfl, rfl⟩
  refine ⟨System.always_of_invariant hstep id hempty (hC _), ?_⟩
  refine System.eachStep_of_invariant hstep (fun h hs hcall => ?_) hempty (hC _)
  obtain rfl := Option.some.inj hs
  exact (prepare_step hsha256 hcall h.1).2.2

/-- The file of `lawFile`, read from a directory. -/
def lawSource : SourcePath where
  name := py "ceval"
  read := .ok ⟨[lawFile], py "0", py "canonical_csv_tree", lawFile_small,
    graphic_unicode (chars_graphic (by decide)), graphic_unicode (chars_graphic (by decide))⟩
  unicode := graphic_unicode (chars_graphic (by decide))

/-- The preparation of `lawFile` with these faults. -/
def lawCall (overwrite : Bool) (faults : Faults) : Call where
  online := false
  source := some lawSource
  sourceRevision := some (py "r1")
  acceptNoncommercialLicense := false
  splits := some [py "dev"]
  allowPartial := true
  overwrite := overwrite
  download := .error []
  artifact := .error []
  outputDirectory := py "out"
  faults := faults
  unicode := fun revision hrevision => Option.some.inj hrevision ▸ graphic_unicode (chars_graphic (by decide))

/-- The manifest cannot be replaced. -/
def manifestFails : Faults
  | .replace .manifest => true
  | _ => false

theorem lawCalls_handled : ∀ call ∈ [lawCall false fun _ => false, lawCall true manifestFails], call.Handled :=
  List.forall_mem_cons.mpr ⟨⟨fun _ => rfl, rfl⟩, List.forall_mem_singleton.mpr ⟨fun _ => rfl, rfl⟩⟩

theorem plainLibrary_sha256 (b : Bytes) : IsUnicode (plainLibrary.sha256 b) := by
  intro c hc
  obtain ⟨byte, -, rfl⟩ := List.mem_map.mp hc
  exact Nat.lt_trans byte.toNat_lt (by decide)

theorem law_is_described :
    (preparations asciiLibrary plainLibrary.sha256 .ceval).Always
      (fun s => Described plainLibrary s ∧ s.temporaries = 0)
      .empty [lawCall false fun _ => false, lawCall true manifestFails] ∧
    ((prepareBuiltinBenchmark asciiLibrary plainLibrary.sha256 .ceval
      (lawCall false fun _ => false) .empty).2.jsonl).isSome ∧
    ((prepareBuiltinBenchmark asciiLibrary plainLibrary.sha256 .ceval
      (lawCall false fun _ => false) .empty).2.manifest).isSome :=
  ⟨(dataset_is_described asciiLibrary plainLibrary .ceval plainLibrary_sha256 _ lawCalls_handled).1,
    by decide +kernel, by decide +kernel⟩

end

end OpenLLMOps.Benchmarks
