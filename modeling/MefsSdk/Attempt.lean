import MefsSdk.Api

/-! # One attempt of `executeMethod`

The body of the retry loop of `executeMethod` (lines 596-692), up to the cache.
Everything an attempt asks outside `api.go` is an input of the attempt
(`AttemptEnv`): the rewind of the request body, the send of lines 604-611, the
error decoder and the three retry classifiers. An attempt either leaves the loop
body, or stops at the `Get` of line 662, whose answer decides the rest.

`Exit.Fits` says what an attempt that leaves by each exit was answered and hands
back, guards included (`attempt_fits`); the inversion lemmas read the exit back
from the answers. -/

namespace MefsSdk.Attempt
open MefsSdk.Http MefsSdk.BucketCache MefsSdk.Api

/-- The dynamic type of `metadata.contentBody`, as far as `executeMethod` asks: one
of the standard streams, which are seekable files, or another reader, which may
implement `io.Seeker` and `io.Closer`. -/
inductive ContentBody where
  | stdin | stdout | stderr
  | reader (seeker closer : Bool)
  deriving DecidableEq, Repr

/-- `requestMetadata`, by the fields `executeMethod` reads. -/
structure RequestMetadata where
  bucketName : String
  objectName : String
  bucketLocation : String
  contentBody : Option ContentBody
  deriving DecidableEq, Repr

/-- Lines 563-567: the body is an `io.Seeker` other than `os.Stdin`, `os.Stdout`, `os.Stderr`. -/
def ContentBody.isRetryable : ContentBody → Bool
  | .reader seeker _ => seeker
  | _ => false

/-- Lines 557-571: whether each attempt rewinds the body, and `reqRetry`. -/
def retryBudget (MaxRetry : Nat) : Option ContentBody → Bool × Nat
  | none => (false, MaxRetry)
  | some b => (b.isRetryable, if b.isRetryable then MaxRetry else 1)

/-- Modelled from the spec: `newRetryTimer` (`retry.go`, not among the sources)
"produces a bounded sequence of go signals (one per allowed attempt)". Each tick
is the index of the attempt it starts; the delays between ticks are not modelled. -/
def newRetryTimer (maxRetry : Nat) : List Nat := List.range maxRetry

@[simp] theorem newRetryTimer_length (maxRetry : Nat) : (newRetryTimer maxRetry).length = maxRetry :=
  List.length_range maxRetry

/-- Tick `k` starts attempt `k`. -/
theorem newRetryTimer_getD {maxRetry k : Nat} (h : k < maxRetry) :
    (newRetryTimer maxRetry).getD k 0 = k := by
  simp [newRetryTimer, h]

/-- What one attempt's calls outside `api.go` return. `send` is lines 604-611, the
request built with the caller's context and `c.do(req)` (`sendOf` is what the
source computes there); `decode` is `ToErrorResponse(httpRespToErrorResponse(..))`
with the number of buffered body bytes it reads. -/
structure AttemptEnv where
  seek : Option GoError
  send : Except Panic (Except GoError Response)
  decode : Response → String → String → ErrorResponse × Nat
  isHTTPReqErrorRetryable : GoError → Bool
  isS3CodeRetryable : String → Bool
  isHTTPStatusRetryable : Int → Bool

/-- What the loop carries from one attempt to the next: the function's copy of
`metadata` and its named results. -/
structure LoopState where
  metadata : RequestMetadata
  res : Option Response
  err : Option GoError

/-- Where an attempt leaves the loop body; the `continue`s are the retried ones. -/
inductive Exit where
  | seekFailed | sendRetried | sendFailed | succeeded | readFailed
  | regionCached | locationCorrected | codeRetried | statusRetried | stopped | panicked
  deriving DecidableEq, Repr

def Exit.retried : Exit → Bool
  | .sendRetried | .regionCached | .locationCorrected | .codeRetried | .statusRetried => true
  | _ => false

/-- An attempt that has left the loop body: it returned (or broke out, or
panicked) with an outcome, or it continues with a state. -/
inductive Leave where
  | done (e : Exit) (o : Outcome)
  | next (e : Exit) (st : LoopState)

/-- An attempt up to the cache: it leaves, or it waits at line 662 to `Get` a
bucket; a hit `Set`s `location` and continues with `st`, a miss leaves as `miss`. -/
inductive Step where
  | leave (l : Leave)
  | lookup (bucketName location : String) (st : LoopState) (miss : Leave)

/-- Lines 636-645: buffer the body, decode it, rewind the buffer. -/
def bufferBody (env : AttemptEnv) (st : LoopState) (res : Response) (errBodyBytes : List UInt8) :
    ErrorResponse × Response :=
  let errBodySeeker := BytesReader.new errBodyBytes
  let res := { res with body := .buffered errBodySeeker }
  let (errResponse, consumed) := env.decode res st.metadata.bucketName st.metadata.objectName
  let errBodySeeker := errBodySeeker.skip consumed
  let errBodySeeker := match errBodySeeker.seek 0 0 with
    | .ok (_, r) => r
    | .error _ => errBodySeeker
  (errResponse, { res with body := .buffered errBodySeeker })

/-- Lines 681-692. -/
def classify (env : AttemptEnv) (st : LoopState) (code : String) (statusCode : Int) : Leave :=
  if env.isS3CodeRetryable code then .next .codeRetried st
  else if env.isHTTPStatusRetryable statusCode then .next .statusRetried st
  else .done .stopped (.returned st.res st.err)

/-- Lines 653-679, and lines 681-692 when no region correction retries. -/
def correctRegion (region : String) (env : AttemptEnv) (st : LoopState)
    (errResponse : ErrorResponse) (statusCode : Int) : Step :=
  let rest := classify env st errResponse.code statusCode
  if region = "" ∧ errResponse.code ∈ regionErrorCodes then
    if st.metadata.bucketName ≠ "" ∧ errResponse.region ≠ "" then
      .lookup st.metadata.bucketName errResponse.region st rest
    else if errResponse.region ≠ st.metadata.bucketLocation then
      .leave (.next .locationCorrected
        { st with metadata := { st.metadata with bucketLocation := errResponse.region } })
    else .leave rest
  else .leave rest

/-- Lines 596-679: one attempt, with `region` the client's and `isRetryable` the body's. -/
def attempt (region : String) (isRetryable : Bool) (env : AttemptEnv) (st : LoopState) : Step :=
  match isRetryable, env.seek with
  | true, some err => .leave (.done .seekFailed (.returned none (some err)))
  | _, _ =>
    match env.send with
    | .error p => .leave (.done .panicked (.panicked p))
    | .ok (.error err) =>
      if env.isHTTPReqErrorRetryable err then
        .leave (.next .sendRetried { st with res := none, err := some err })
      else .leave (.done .sendFailed (.returned none (some err)))
    | .ok (.ok res) =>
      if res.statusCode ∈ successStatus then .leave (.done .succeeded (.returned (some res) none))
      else
        match res.body.readAll with
        | .error err => .leave (.done .readFailed (.returned none (some err)))
        | .ok errBodyBytes =>
          let (errResponse, res) := bufferBody env st res errBodyBytes
          correctRegion region env { st with res := some res, err := none } errResponse res.statusCode

/-! ## What each attempt hands back -/

theorem bufferBody_eq (env : AttemptEnv) (st : LoopState) (res : Response) (bytes : List UInt8) :
    bufferBody env st res bytes =
      ((env.decode (res.buffered bytes) st.metadata.bucketName st.metadata.objectName).1,
        res.buffered bytes) := rfl

/-- `st` asks about the bucket and the object `md` names. -/
def LoopState.Names (md : RequestMetadata) (st : LoopState) : Prop :=
  st.metadata.bucketName = md.bucketName ∧ st.metadata.objectName = md.objectName

/-- The attempt was answered by a response that is not a success, whose body read
in full as `bytes`. -/
def ErrorRead (env : AttemptEnv) (res : Response) (bytes : List UInt8) : Prop :=
  env.send = .ok (.ok res) ∧ res.statusCode ∉ successStatus ∧ res.body.readAll = .ok bytes

/-- The error the attempt decodes from that body. -/
def decoded (env : AttemptEnv) (md : RequestMetadata) (res : Response) (bytes : List UInt8) :
    ErrorResponse :=
  (env.decode (res.buffered bytes) md.bucketName md.objectName).1

/-- What an attempt that leaves by `e` hands back, given what it was told: `o` is
its return value, or `(res, err)` after it when it continues. -/
def Exit.Fits (env : AttemptEnv) (md : RequestMetadata) : Exit → Outcome → Prop
  | .seekFailed, o => ∃ err, env.seek = some err ∧ o = .returned none (some err)
  | .sendRetried, o => ∃ err, env.send = .ok (.error err) ∧
      env.isHTTPReqErrorRetryable err = true ∧ o = .returned none (some err)
  | .sendFailed, o => ∃ err, env.send = .ok (.error err) ∧
      env.isHTTPReqErrorRetryable err = false ∧ o = .returned none (some err)
  | .succeeded, o => ∃ res, env.send = .ok (.ok res) ∧ res.statusCode ∈ successStatus ∧
      o = .returned (some res) none
  | .readFailed, o => ∃ res err, env.send = .ok (.ok res) ∧ res.statusCode ∉ successStatus ∧
      res.body.readAll = .error err ∧ o = .returned none (some err)
  | .stopped, o => ∃ res bytes, ErrorRead env res bytes ∧
      env.isS3CodeRetryable (decoded env md res bytes).code = false ∧
      env.isHTTPStatusRetryable res.statusCode = false ∧
      o = .returned (some (res.buffered bytes)) none
  | .panicked, o => ∃ p, o = .panicked p ∧
      (env.send = .error p ∨ ∃ res bytes, ErrorRead env res bytes ∧
        (decoded env md res bytes).code ∈ regionErrorCodes ∧ p = .nilDereference)
  | .regionCached, o | .locationCorrected, o => ∃ res bytes, ErrorRead env res bytes ∧
      (decoded env md res bytes).code ∈ regionErrorCodes ∧
      o = .returned (some (res.buffered bytes)) none
  | .codeRetried, o => ∃ res bytes, ErrorRead env res bytes ∧
      env.isS3CodeRetryable (decoded env md res bytes).code = true ∧
      o = .returned (some (res.buffered bytes)) none
  | .statusRetried, o => ∃ res bytes, ErrorRead env res bytes ∧
      env.isS3CodeRetryable (decoded env md res bytes).code = false ∧
      env.isHTTPStatusRetryable res.statusCode = true ∧
      o = .returned (some (res.buffered bytes)) none

/-- A leave fits when a `return` is not retried, a `continue` is, and each hands
back what `Exit.Fits` says. -/
def Leave.Fits (env : AttemptEnv) (md : RequestMetadata) : Leave → Prop
  | .done e o => e.retried = false ∧ e.Fits env md o
  | .next e st => e.retried = true ∧ e.Fits env md (.returned st.res st.err) ∧ st.Names md

/-- A lookup asks for the request's own, non-empty bucket, to be set to the non-empty
region hint of a region-mismatch error decoded from the attempt's response. -/
def Step.Fits (env : AttemptEnv) (md : RequestMetadata) : Step → Prop
  | .leave l => l.Fits env md
  | .lookup b loc st miss => miss.Fits env md ∧ st.Names md ∧ st.err = none ∧
      ∃ res bytes, ErrorRead env res bytes ∧ st.res = some (res.buffered bytes) ∧
        (decoded env md res bytes).code ∈ regionErrorCodes ∧
        (decoded env md res bytes).region = loc ∧ b = md.bucketName ∧ b ≠ "" ∧ loc ≠ ""

section
variable {env : AttemptEnv} {md : RequestMetadata} {st : LoopState} {res : Response}
  {bytes : List UInt8}

theorem classify_fits (hr : ErrorRead env res bytes) (hst : st.res = some (res.buffered bytes))
    (he : st.err = none) (hn : st.Names md) :
    (classify env st (decoded env md res bytes).code res.statusCode).Fits env md := by
  have ho : Outcome.returned st.res st.err = .returned (some (res.buffered bytes)) none := by
    rw [hst, he]
  unfold classify
  split_ifs with hc hs
  · exact ⟨rfl, ⟨res, bytes, hr, hc, ho⟩, hn⟩
  · exact ⟨rfl, ⟨res, bytes, hr, by simpa using hc, hs, ho⟩, hn⟩
  · exact ⟨rfl, res, bytes, hr, by simpa using hc, by simpa using hs, ho⟩

theorem correctRegion_fits (region : String) (hr : ErrorRead env res bytes)
    (hst : st.res = some (res.buffered bytes)) (he : st.err = none) (hn : st.Names md) :
    (correctRegion region env st (decoded env md res bytes) res.statusCode).Fits env md := by
  have ho : Outcome.returned st.res st.err = .returned (some (res.buffered bytes)) none := by
    rw [hst, he]
  have hc := classify_fits hr hst he hn
  unfold correctRegion
  split_ifs with hg hb
  · exact ⟨hc, hn, he, res, bytes, hr, hst, hg.2, rfl, hn.1, hn.1 ▸ hb.1, hb.2⟩
  · exact ⟨rfl, ⟨res, bytes, hr, hg.2, ho⟩, hn⟩
  · exact hc
  · exact hc

/-- Every attempt hands back what its exit says. -/
theorem attempt_fits (region : String) (isRetryable : Bool) (env : AttemptEnv) (hn : st.Names md) :
    (attempt region isRetryable env st).Fits env md := by
  unfold attempt
  split
  · exact ⟨rfl, _, ‹_›, rfl⟩
  · split
    · exact ⟨rfl, _, rfl, .inl ‹_›⟩
    · split
      · exact ⟨rfl, ⟨_, ‹_›, ‹_›, rfl⟩, hn⟩
      · next h => exact ⟨rfl, _, ‹_›, by simpa using h, rfl⟩
    · split
      · exact ⟨rfl, _, ‹_›, ‹_›, rfl⟩
      · split
        · exact ⟨rfl, _, _, ‹_›, ‹_›, ‹_›, rfl⟩
        · rw [bufferBody_eq]
          have hr : ErrorRead env _ _ := ⟨‹_›, ‹_›, ‹_›⟩
          have h := @correctRegion_fits env md { st with res := some _, err := none } _ _ region hr
            rfl rfl hn
          rwa [decoded, ← hn.1, ← hn.2] at h

end

/-- An attempt that hands back a response other than a success hands back the buffered
copy of the error response it read. -/
theorem Exit.fits_buffered {env : AttemptEnv} {md : RequestMetadata} {e : Exit} {res : Response}
    {err : Option GoError} (h : e.Fits env md (.returned (some res) err))
    (hs : res.statusCode ∉ successStatus) :
    ∃ orig bytes, ErrorRead env orig bytes ∧ res = orig.buffered bytes := by
  cases e with
  | seekFailed | sendRetried | sendFailed | readFailed | panicked => simp [Exit.Fits] at h
  | succeeded =>
    obtain ⟨r, -, hr, h⟩ := h
    cases h
    exact absurd hr hs
  | stopped | statusRetried =>
    obtain ⟨r, b, hr, -, -, h⟩ := h
    cases h
    exact ⟨r, b, hr, rfl⟩
  | regionCached | locationCorrected | codeRetried =>
    obtain ⟨r, b, hr, -, h⟩ := h
    cases h
    exact ⟨r, b, hr, rfl⟩

/-- An attempt whose rewind did not fail and whose send answered a success left by
`succeeded`. -/
theorem Exit.eq_succeeded_of_fits {env : AttemptEnv} {md : RequestMetadata} {e : Exit}
    {o : Outcome} {res : Response} (h : e.Fits env md o) (hseek : env.seek = none)
    (hsend : env.send = .ok (.ok res)) (hs : res.statusCode ∈ successStatus) : e = .succeeded := by
  cases e with
  | succeeded => rfl
  | seekFailed =>
    obtain ⟨err, h, -⟩ := h
    rw [hseek] at h
    cases h
  | sendRetried | sendFailed =>
    obtain ⟨err, h, -⟩ := h
    rw [hsend] at h
    cases h
  | readFailed =>
    obtain ⟨r, err, h, hr, -⟩ := h
    rw [hsend] at h
    cases h
    exact absurd hs hr
  | stopped | regionCached | locationCorrected | codeRetried | statusRetried =>
    obtain ⟨r, b, ⟨h, hr, -⟩, -⟩ := h
    rw [hsend] at h
    cases h
    exact absurd hs hr
  | panicked =>
    obtain ⟨p, -, h | ⟨r, b, ⟨h, hr, -⟩, -⟩⟩ := h <;> rw [hsend] at h <;> cases h
    exact absurd hs hr

/-- An attempt whose rewind did not fail, answered by an error response outside the
region family that neither classifier retries, left by `stopped`. -/
theorem Exit.eq_stopped_of_fits {env : AttemptEnv} {md : RequestMetadata} {e : Exit}
    {o : Outcome} {res : Response} {bytes : List UInt8} (h : e.Fits env md o)
    (hseek : env.seek = none) (hr : ErrorRead env res bytes)
    (hc : (decoded env md res bytes).code ∉ regionErrorCodes)
    (hcode : env.isS3CodeRetryable (decoded env md res bytes).code = false)
    (hstatus : env.isHTTPStatusRetryable res.statusCode = false) : e = .stopped := by
  obtain ⟨hsend, hs, hread⟩ := hr
  cases e with
  | stopped => rfl
  | seekFailed =>
    obtain ⟨err, h, -⟩ := h
    rw [hseek] at h
    cases h
  | sendRetried | sendFailed =>
    obtain ⟨err, h, -⟩ := h
    rw [hsend] at h
    cases h
  | succeeded =>
    obtain ⟨r, h, hr, -⟩ := h
    rw [hsend] at h
    cases h
    exact absurd hr hs
  | readFailed =>
    obtain ⟨r, err, h, -, hr, -⟩ := h
    rw [hsend] at h
    cases h
    rw [hread] at hr
    cases hr
  | regionCached | locationCorrected =>
    obtain ⟨r, b, ⟨h, -, hb⟩, hr, -⟩ := h
    rw [hsend] at h
    cases h
    rw [hread] at hb
    cases hb
    exact absurd hr hc
  | codeRetried =>
    obtain ⟨r, b, ⟨h, -, hb⟩, hr, -⟩ := h
    rw [hsend] at h
    cases h
    rw [hread] at hb
    cases hb
    rw [hcode] at hr
    cases hr
  | statusRetried =>
    obtain ⟨r, b, ⟨h, -, -⟩, -, hr, -⟩ := h
    rw [hsend] at h
    cases h
    rw [hstatus] at hr
    cases hr
  | panicked =>
    obtain ⟨p, -, h | ⟨r, b, ⟨h, -, hb⟩, hr, -⟩⟩ := h <;> rw [hsend] at h <;> cases h
    rw [hread] at hb
    cases hb
    exact absurd hr hc

/-- The exit of an attempt that has left the loop body. -/
def Leave.exit : Leave → Exit
  | .done e _ => e
  | .next e _ => e

/-- The exits of the region-correction branch. -/
def Exit.corrects : Exit → Bool
  | .regionCached | .locationCorrected => true
  | _ => false

theorem classify_exit (env : AttemptEnv) (st : LoopState) (code : String) (statusCode : Int) :
    (classify env st code statusCode).exit.corrects = false := by
  unfold classify
  split_ifs <;> rfl

/-- With a region configured, the guard of line 653 keeps every attempt out of the
region-correction branch: it never reaches the cache and never corrects the location. -/
theorem attempt_region_guard {region : String} (hr : region ≠ "") (isRetryable : Bool)
    (env : AttemptEnv) (st : LoopState) :
    ∃ l, attempt region isRetryable env st = .leave l ∧ l.exit.corrects = false := by
  unfold attempt
  split
  · exact ⟨_, rfl, rfl⟩
  · split
    · exact ⟨_, rfl, rfl⟩
    · split <;> exact ⟨_, rfl, rfl⟩
    · split
      · exact ⟨_, rfl, rfl⟩
      · split
        · exact ⟨_, rfl, rfl⟩
        · simp only [correctRegion, hr, false_and, if_false]
          exact ⟨_, rfl, classify_exit ..⟩

/-- Lines 597-602: the attempt rewinds a retryable body, and `Seek(0, 0)` fails. -/
def RewindFails (isRetryable : Bool) (env : AttemptEnv) : Prop :=
  isRetryable = true ∧ env.seek ≠ none

/-- An attempt leaves by `seekFailed` exactly when its rewind failed; one that stops
at the cache got past its rewind, and its miss leaves by another exit. -/
def Step.Rewinds (isRetryable : Bool) (env : AttemptEnv) : Step → Prop
  | .leave l => l.exit = .seekFailed ↔ RewindFails isRetryable env
  | .lookup _ _ _ miss => ¬ RewindFails isRetryable env ∧ miss.exit ≠ .seekFailed

theorem rewindFails_of_seek {env : AttemptEnv} {err : GoError} (h : env.seek = some err) :
    RewindFails true env :=
  ⟨rfl, by simp [h]⟩

theorem correctRegion_rewinds {isRetryable : Bool} {env : AttemptEnv}
    (h : ¬ RewindFails isRetryable env) (region : String) (st : LoopState)
    (errResponse : ErrorResponse) (statusCode : Int) :
    (correctRegion region env st errResponse statusCode).Rewinds isRetryable env := by
  have hc : (classify env st errResponse.code statusCode).exit ≠ .seekFailed := by
    unfold classify
    split_ifs <;> exact nofun
  unfold correctRegion
  split_ifs
  · exact ⟨h, hc⟩
  · exact iff_of_false nofun h
  · exact iff_of_false hc h
  · exact iff_of_false hc h

/-- Every attempt leaves by `seekFailed` exactly when its rewind failed. -/
theorem attempt_rewinds (region : String) (isRetryable : Bool) (env : AttemptEnv) (st : LoopState) :
    (attempt region isRetryable env st).Rewinds isRetryable env := by
  unfold attempt
  split
  · next hs => exact iff_of_true rfl (rewindFails_of_seek hs)
  · next r _ _ hn =>
    have h : ¬ RewindFails r env := fun ⟨hr, hs⟩ =>
      have ⟨err, he⟩ := Option.ne_none_iff_exists'.mp hs
      hn err hr he
    split
    · exact iff_of_false nofun h
    · split <;> exact iff_of_false nofun h
    · split
      · exact iff_of_false nofun h
      · split
        · exact iff_of_false nofun h
        · rw [bufferBody_eq]
          exact correctRegion_rewinds h region _ _ _

/-- The region an attempt's gateway names: the `Region` of the error decoded from the
error response the attempt was answered, when that response's body read in full. -/
def regionHint (env : AttemptEnv) (md : RequestMetadata) : Option String :=
  match env.send with
  | .ok (.ok res) =>
    if res.statusCode ∈ successStatus then none
    else
      match res.body.readAll with
      | .ok bytes => some (decoded env md res bytes).region
      | .error _ => none
  | _ => none

theorem regionHint_of_errorRead {env : AttemptEnv} {res : Response} {bytes : List UInt8}
    (md : RequestMetadata) (h : ErrorRead env res bytes) :
    regionHint env md = some (decoded env md res bytes).region := by
  obtain ⟨hs, hn, hr⟩ := h
  simp only [regionHint, hs, if_neg hn, hr]

/-- How an attempt that found `loc` in `metadata.bucketLocation` leaves it: a location
correction sets it to the region the gateway named, which is not `loc`, and
continues; every other exit keeps it. -/
def Leave.Moves (env : AttemptEnv) (md : RequestMetadata) (loc : String) : Leave → Prop
  | .done e _ => e ≠ .locationCorrected
  | .next e st => (e ≠ .locationCorrected ∧ st.metadata.bucketLocation = loc) ∨
      (e = .locationCorrected ∧ regionHint env md = some st.metadata.bucketLocation ∧
        st.metadata.bucketLocation ≠ loc)

/-- An attempt moves the location as `Leave.Moves` says, a lookup and its miss keep it,
and only the cache answers `regionCached`. -/
def Step.Moves (env : AttemptEnv) (md : RequestMetadata) (loc : String) : Step → Prop
  | .leave l => l.Moves env md loc ∧ l.exit ≠ .regionCached
  | .lookup _ _ st miss => st.metadata.bucketLocation = loc ∧ miss.Moves env md loc ∧
      miss.exit ≠ .regionCached

theorem classify_moves (env : AttemptEnv) (md : RequestMetadata) (st : LoopState) (code : String)
    (statusCode : Int) :
    (classify env st code statusCode).Moves env md st.metadata.bucketLocation ∧
      (classify env st code statusCode).exit ≠ .regionCached := by
  unfold classify
  split_ifs
  · exact ⟨.inl ⟨nofun, rfl⟩, nofun⟩
  · exact ⟨.inl ⟨nofun, rfl⟩, nofun⟩
  · exact ⟨nofun, nofun⟩

theorem correctRegion_moves (region : String) (env : AttemptEnv) (md : RequestMetadata)
    (st : LoopState) (errResponse : ErrorResponse) (statusCode : Int)
    (hh : regionHint env md = some errResponse.region) :
    (correctRegion region env st errResponse statusCode).Moves env md st.metadata.bucketLocation := by
  have hc := classify_moves env md st errResponse.code statusCode
  unfold correctRegion
  split_ifs with hg hb hl
  · exact ⟨rfl, hc⟩
  · exact ⟨.inr ⟨rfl, hh, hl⟩, nofun⟩
  · exact hc
  · exact hc

/-- Every attempt moves the location as `Step.Moves` says. -/
theorem attempt_moves (region : String) (isRetryable : Bool) (env : AttemptEnv)
    {md : RequestMetadata} {st : LoopState} (hn : st.Names md) :
    (attempt region isRetryable env st).Moves env md st.metadata.bucketLocation := by
  unfold attempt
  split
  · exact ⟨nofun, nofun⟩
  · split
    · exact ⟨nofun, nofun⟩
    · split
      · exact ⟨.inl ⟨nofun, rfl⟩, nofun⟩
      · exact ⟨nofun, nofun⟩
    · split
      · exact ⟨nofun, nofun⟩
      · split
        · exact ⟨nofun, nofun⟩
        · rw [bufferBody_eq]
          have hh := regionHint_of_errorRead md ⟨‹_›, ‹_›, ‹_›⟩
          rw [decoded, ← hn.1, ← hn.2] at hh
          exact correctRegion_moves region env md _ _ _ hh

end MefsSdk.Attempt
