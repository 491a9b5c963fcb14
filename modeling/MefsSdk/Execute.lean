import MefsSdk.Attempt

/-! # The retry loop of `executeMethod`

The loop runs one attempt per tick of the retry timer. An attempt that stopped at
line 662 is resolved against the client's bucket location cache; a nil cache
pointer is dereferenced there. The run records where each attempt left the loop
body, so the number of requests and the branch each took are part of the result.

`RetryContract` is what a run promises: one attempt per tick at most, every
attempt but the last retried, and the outcome what the last attempt handed back.
`execLoop_contract` proves it for every sequence of attempt answers, and
`execLoop_log_fits` that every exit of the log, not only the last, fits the answers
of its own attempt; an attempt that is not retried ends the run
(`executeMethod_ends_at`). -/

namespace MefsSdk.Execute
open MefsSdk.Http MefsSdk.BucketCache MefsSdk.Api MefsSdk.Attempt

/-- A run of the loop: how it ended, where each attempt left the body, and the
cache after it. -/
structure Run where
  outcome : Outcome
  log : List Exit
  cache : Option BucketLocationCache

/-- Lines 662-664 on the client's cache: a hit is `Set` and continues. -/
def resolve : Step → Option BucketLocationCache → Leave × Option BucketLocationCache
  | .leave l, σ => (l, σ)
  | .lookup .., none => (.done .panicked (.panicked .nilDereference), none)
  | .lookup b loc st miss, some c =>
    match c.get b with
    | some _ => (.next .regionCached st, some (c.set b loc))
    | none => (miss, some c)

/-- Finish an attempt that has left the body: return, or go on with `k`. -/
def finish (k : LoopState → Option BucketLocationCache → Run) :
    Leave → Option BucketLocationCache → Run
  | .done e o, σ => ⟨o, [e], σ⟩
  | .next e st, σ => let r := k st σ; { r with log := e :: r.log }

/-- Lines 591-693: the loop over the ticks still to come. -/
def execLoop (region : String) (isRetryable : Bool) (w : Nat → AttemptEnv) :
    List Nat → LoopState → Option BucketLocationCache → Run
  | [], st, σ => ⟨.returned st.res st.err, [], σ⟩
  | i :: ticks, st, σ =>
    let (l, σ) := resolve (attempt region isRetryable (w i) st) σ
    finish (execLoop region isRetryable w ticks) l σ

/-- `executeMethod`. `MaxRetry` is a constant of `retry.go`, which is not among the
sources; `ctx` reaches the loop only through the sends of `w`, and `method` is
not read. -/
def executeMethod (MaxRetry : Nat) (c : Client) (w : Nat → AttemptEnv)
    (metadata : RequestMetadata) : Run :=
  let (isRetryable, reqRetry) := retryBudget MaxRetry metadata.contentBody
  execLoop c.region isRetryable w (newRetryTimer reqRetry) ⟨metadata, none, none⟩
    c.bucketLocCache

theorem resolve_fits {env : AttemptEnv} {md : RequestMetadata} {s : Step}
    (h : s.Fits env md) (σ : Option BucketLocationCache) : (resolve s σ).1.Fits env md := by
  match s, σ, h with
  | .leave l, _, h => exact h
  | .lookup .., none, h =>
    obtain ⟨-, -, -, res, bytes, hr, -, hc, -⟩ := h
    exact ⟨rfl, _, rfl, .inr ⟨res, bytes, hr, hc, rfl⟩⟩
  | .lookup b loc st miss, some c, h =>
    obtain ⟨hm, hn, he, res, bytes, hr, hst, hc, -⟩ := h
    simp only [resolve]
    split
    · exact ⟨rfl, ⟨res, bytes, hr, hc, by rw [hst, he]⟩, hn⟩
    · exact hm

/-- The exit an attempt records is `seekFailed` exactly when its rewind failed. -/
theorem resolve_rewinds {isRetryable : Bool} {env : AttemptEnv} {s : Step}
    (h : s.Rewinds isRetryable env) (σ : Option BucketLocationCache) :
    (resolve s σ).1.exit = .seekFailed ↔ RewindFails isRetryable env := by
  match s, σ, h with
  | .leave _, _, h => exact h
  | .lookup .., none, h => exact iff_of_false nofun h.1
  | .lookup .., some c, h =>
    simp only [resolve]
    split
    · exact iff_of_false nofun h.1
    · exact iff_of_false h.2 h.1

/-- The retry contract of a run `r` from state `st` over `ticks`, for a body that is
rewound when `isRetryable`: at most one attempt per tick, every attempt but the last
retried, the last one not retried unless the ticks ran out, the outcome what the last
attempt handed back, and an attempt left by `seekFailed` exactly when its rewind
failed. -/
structure RetryContract (isRetryable : Bool) (w : Nat → AttemptEnv) (md : RequestMetadata)
    (st : LoopState) (ticks : List Nat) (r : Run) : Prop where
  budget : r.log.length ≤ ticks.length
  retried : ∀ e ∈ r.log.dropLast, e.retried = true
  stops : ∀ e ∈ r.log.getLast?, e.retried = true → r.log.length = ticks.length
  result : ∀ e ∈ r.log.getLast?, e.Fits (w (ticks.getD (r.log.length - 1) 0)) md r.outcome
  idle : r.log = [] → ticks = [] ∧ r.outcome = .returned st.res st.err
  rewinds : ∀ k e, r.log[k]? = some e →
    (e = .seekFailed ↔ RewindFails isRetryable (w (ticks.getD k 0)))

theorem rewinds_cons {isRetryable : Bool} {w : Nat → AttemptEnv} {i : Nat} {ticks : List Nat}
    {e : Exit} {log : List Exit} (he : e = .seekFailed ↔ RewindFails isRetryable (w i))
    (h : ∀ k e', log[k]? = some e' → (e' = .seekFailed ↔ RewindFails isRetryable (w (ticks.getD k 0)))) :
    ∀ k e', (e :: log)[k]? = some e' →
      (e' = .seekFailed ↔ RewindFails isRetryable (w ((i :: ticks).getD k 0)))
  | 0, _, hk => Option.some.inj (List.getElem?_cons_zero.symm.trans hk) ▸ he
  | k + 1, e', hk => h k e' (by rwa [List.getElem?_cons_succ] at hk)

theorem execLoop_contract (region : String) (isRetryable : Bool) (w : Nat → AttemptEnv)
    (md : RequestMetadata) :
    ∀ (ticks : List Nat) (st : LoopState) (σ : Option BucketLocationCache), st.Names md →
      RetryContract isRetryable w md st ticks (execLoop region isRetryable w ticks st σ)
  | [], st, σ, _ => ⟨le_rfl, by simp [execLoop], by simp [execLoop], by simp [execLoop],
      fun _ => ⟨rfl, rfl⟩, by simp [execLoop]⟩
  | i :: ticks, st, σ, hn => by
    have hl := resolve_fits (attempt_fits region isRetryable (w i) hn) σ
    have hw := resolve_rewinds (attempt_rewinds region isRetryable (w i) st) σ
    simp only [execLoop]
    generalize resolve (attempt region isRetryable (w i) st) σ = p at hl hw
    obtain ⟨l, σ'⟩ := p
    cases l with
    | done e o =>
      simp only [finish]
      exact ⟨by simp, by simp, by simp [hl.1], by simpa using hl.2, by simp, rewinds_cons hw (by simp)⟩
    | next e st' =>
      obtain ⟨he, hf, hn'⟩ := hl
      have ih := execLoop_contract region isRetryable w md ticks st' σ' hn'
      simp only [finish]
      generalize execLoop region isRetryable w ticks st' σ' = r at ih
      obtain ⟨hb, hr, hs, hres, hi, hrw⟩ := ih
      rcases Decidable.em (r.log = []) with h0 | h0
      · obtain ⟨rfl, ho⟩ := hi h0
        exact ⟨by simp [h0], by simp [h0], by simp [h0], by simpa [h0, ho] using hf, by simp,
          rewinds_cons hw hrw⟩
      · obtain ⟨a, l, hal⟩ := List.exists_cons_of_ne_nil h0
        have hlen : (e :: r.log).length - 1 = (r.log.length - 1) + 1 := by simp [hal]
        refine ⟨by simpa using hb, ?_, ?_, ?_, by simp, rewinds_cons hw hrw⟩
        · rw [hal, List.dropLast_cons₂]
          rintro x (_ | ⟨_, hx⟩)
          · exact he
          · exact hr x (by rwa [hal])
        · rw [hal, List.getLast?_cons_cons, ← hal]
          intro x hx hxr
          simpa using hs x hx hxr
        · rw [hal, List.getLast?_cons_cons, ← hal, hlen]
          exact hres

/-- Every attempt of a run hands back what its exit says: the `k`-th exit of the log
fits the answers of the `k`-th tick. -/
theorem execLoop_log_fits (region : String) (isRetryable : Bool) (w : Nat → AttemptEnv)
    (md : RequestMetadata) :
    ∀ (ticks : List Nat) (st : LoopState) (σ : Option BucketLocationCache), st.Names md →
      ∀ (k : Nat) (e : Exit), (execLoop region isRetryable w ticks st σ).log[k]? = some e →
        ∃ o, e.Fits (w (ticks.getD k 0)) md o
  | [], _, _, _, k, e, h => by simp [execLoop] at h
  | i :: ticks, st, σ, hn, k, e, h => by
    have hl := resolve_fits (attempt_fits region isRetryable (w i) hn) σ
    simp only [execLoop] at h
    generalize resolve (attempt region isRetryable (w i) st) σ = p at hl h
    obtain ⟨l, σ'⟩ := p
    cases l with
    | done e' o =>
      cases k with
      | zero =>
        obtain rfl : e' = e := by simpa [finish] using h
        exact ⟨o, hl.2⟩
      | succ k => simp [finish] at h
    | next e' st' =>
      cases k with
      | zero =>
        obtain rfl : e' = e := by simpa [finish] using h
        exact ⟨_, hl.2.1⟩
      | succ k =>
        simp only [finish, List.getElem?_cons_succ] at h
        exact execLoop_log_fits region isRetryable w md ticks st' σ' hl.2.2 k e h

theorem executeMethod_eq (MaxRetry : Nat) (c : Client) (w : Nat → AttemptEnv)
    (md : RequestMetadata) :
    executeMethod MaxRetry c w md =
      execLoop c.region (retryBudget MaxRetry md.contentBody).1 w
        (newRetryTimer (retryBudget MaxRetry md.contentBody).2) ⟨md, none, none⟩
        c.bucketLocCache := rfl

/-! ## What a run of `executeMethod` promises -/

/-- A client as `New` builds it for `127.0.0.1:6711`. -/
def plainClient : Client :=
  ⟨"127.0.0.1:6711", .staticV4 "ak" "sk" "", .default, false, none, false, false, "", .auto⟩

/-- A `503` whose body is three bytes long. -/
def slowDownResponse : Response := ⟨503, .wire (.ok [60, 69, 62])⟩

/-- An attempt answered `503 SlowDown`, a code the classifier retries; the decoder
reads the whole body. -/
def slowDown : AttemptEnv where
  seek := none
  send := .ok (.ok slowDownResponse)
  decode := fun _ _ _ => (⟨"SlowDown", ""⟩, 3)
  isHTTPReqErrorRetryable := fun _ => false
  isS3CodeRetryable := fun _ => true
  isHTTPStatusRetryable := fun _ => false

/-- A request whose body cannot seek, so `reqRetry` is `1`. -/
def unseekable : RequestMetadata := ⟨"photos", "cat.png", "", some (.reader false false)⟩

/-- A request that names no bucket, as `ListBuckets` does. -/
def listBuckets : RequestMetadata := ⟨"", "", "", none⟩

/-- A client whose cache already knows `photos`. -/
def cachedClient : Client :=
  { plainClient with bucketLocCache := some (newBucketLocationCache.set "photos" "us-east-1") }

/-- The `k`-th exit of a run of `executeMethod` fits the answers of attempt `k`. -/
theorem executeMethod_log_fits (MaxRetry : Nat) (c : Client) (w : Nat → AttemptEnv)
    (md : RequestMetadata) {k : Nat} {e : Exit}
    (hk : (executeMethod MaxRetry c w md).log[k]? = some e) : ∃ o, e.Fits (w k) md o := by
  rw [executeMethod_eq] at hk
  have hb := (execLoop_contract c.region (retryBudget MaxRetry md.contentBody).1 w md
    (newRetryTimer (retryBudget MaxRetry md.contentBody).2) ⟨md, none, none⟩ c.bucketLocCache
    ⟨rfl, rfl⟩).budget
  have hlt := (List.getElem?_eq_some_iff.mp hk).1
  rw [newRetryTimer_length] at hb
  rw [← newRetryTimer_getD (show k < (retryBudget MaxRetry md.contentBody).2 by omega)]
  exact execLoop_log_fits c.region _ w md _ ⟨md, none, none⟩ c.bucketLocCache ⟨rfl, rfl⟩ k e hk

/-- An attempt that is not retried is the last of its run, and the run returns what
that attempt hands back. -/
theorem executeMethod_ends_at (MaxRetry : Nat) (c : Client) (w : Nat → AttemptEnv)
    (md : RequestMetadata) {k : Nat} {e : Exit}
    (hk : (executeMethod MaxRetry c w md).log[k]? = some e) (he : e.retried = false) :
    (executeMethod MaxRetry c w md).log.length = k + 1 ∧
      e.Fits (w k) md (executeMethod MaxRetry c w md).outcome := by
  have hc := execLoop_contract c.region (retryBudget MaxRetry md.contentBody).1 w md
    (newRetryTimer (retryBudget MaxRetry md.contentBody).2) ⟨md, none, none⟩ c.bucketLocCache
    ⟨rfl, rfl⟩
  rw [← executeMethod_eq] at hc
  have hlt := (List.getElem?_eq_some_iff.mp hk).1
  have hlen : (executeMethod MaxRetry c w md).log.length = k + 1 := by
    by_contra hne
    have hm : e ∈ (executeMethod MaxRetry c w md).log.dropLast :=
      List.getElem?_mem (by rw [List.getElem?_dropLast _ k, if_pos (by omega), hk])
    exact absurd (hc.retried e hm) (by simp [he])
  have hlast : (executeMethod MaxRetry c w md).log.getLast? = some e := by
    rw [List.getLast?_eq_getElem?, hlen]
    exact hk
  have hf := hc.result e hlast
  have hb := hc.budget
  rw [newRetryTimer_length] at hb
  rw [hlen, Nat.add_sub_cancel, newRetryTimer_getD (by omega)] at hf
  exact ⟨hlen, hf⟩

/-- An attempt whose body rewinds and whose send answers a success ends the run: it
returns that response, and no attempt follows it, whatever budget is left. -/
theorem executeMethod_returns_success (MaxRetry : Nat) (c : Client) (w : Nat → AttemptEnv)
    (md : RequestMetadata) (k : Nat) (res : Response)
    (hk : k < (executeMethod MaxRetry c w md).log.length) (hseek : (w k).seek = none)
    (hsend : (w k).send = .ok (.ok res)) (hs : res.statusCode ∈ successStatus) :
    (executeMethod MaxRetry c w md).log.length = k + 1 ∧
      (executeMethod MaxRetry c w md).outcome = .returned (some res) none := by
  have he := List.getElem?_eq_getElem hk
  obtain ⟨o, ho⟩ := executeMethod_log_fits MaxRetry c w md he
  rw [Exit.eq_succeeded_of_fits ho hseek hsend hs] at he
  obtain ⟨hlen, res', hsend', -, hout⟩ := executeMethod_ends_at MaxRetry c w md he rfl
  rw [hsend] at hsend'
  cases hsend'
  exact ⟨hlen, hout⟩

/-- Two `503 SlowDown` answers, then `200`. -/
def slowThenOk (i : Nat) : AttemptEnv :=
  if i < 2 then slowDown else { slowDown with send := .ok (.ok ⟨200, .wire (.ok [])⟩) }

theorem slowThenOk_returns_third :
    2 < (executeMethod 5 plainClient slowThenOk listBuckets).log.length ∧ (slowThenOk 2).seek = none ∧
      (slowThenOk 2).send = .ok (.ok ⟨200, .wire (.ok [])⟩) ∧ (200 : Int) ∈ successStatus ∧
      (executeMethod 5 plainClient slowThenOk listBuckets).log.length = 2 + 1 ∧
      (executeMethod 5 plainClient slowThenOk listBuckets).outcome =
        .returned (some ⟨200, .wire (.ok [])⟩) none :=
  ⟨by decide, rfl, rfl, by decide,
    executeMethod_returns_success 5 plainClient slowThenOk listBuckets 2 _ (by decide) rfl rfl
      (by decide)⟩

/-- An attempt whose body rewinds, answered by an error response outside the region
family that neither classifier retries, ends the run: it returns that response with
its body buffered, and no attempt follows it, whatever budget is left. -/
theorem executeMethod_stops_at_error (MaxRetry : Nat) (c : Client) (w : Nat → AttemptEnv)
    (md : RequestMetadata) (k : Nat) (res : Response) (bytes : List UInt8)
    (hk : k < (executeMethod MaxRetry c w md).log.length) (hseek : (w k).seek = none)
    (hr : ErrorRead (w k) res bytes) (hc : (decoded (w k) md res bytes).code ∉ regionErrorCodes)
    (hcode : (w k).isS3CodeRetryable (decoded (w k) md res bytes).code = false)
    (hstatus : (w k).isHTTPStatusRetryable res.statusCode = false) :
    (executeMethod MaxRetry c w md).log.length = k + 1 ∧
      (executeMethod MaxRetry c w md).outcome = .returned (some (res.buffered bytes)) none := by
  have he := List.getElem?_eq_getElem hk
  obtain ⟨o, ho⟩ := executeMethod_log_fits MaxRetry c w md he
  rw [Exit.eq_stopped_of_fits ho hseek hr hc hcode hstatus] at he
  obtain ⟨hlen, res', bytes', ⟨hsend', -, hread'⟩, -, -, hout⟩ :=
    executeMethod_ends_at MaxRetry c w md he rfl
  rw [hr.1] at hsend'
  cases hsend'
  rw [hr.2.2] at hread'
  cases hread'
  exact ⟨hlen, hout⟩

/-- A `400 InvalidBucketName`, which nothing retries; the decoder reads two bytes. -/
def invalidBucketName : AttemptEnv where
  seek := none
  send := .ok (.ok ⟨400, .wire (.ok [1, 2])⟩)
  decode := fun _ _ _ => (⟨"InvalidBucketName", ""⟩, 2)
  isHTTPReqErrorRetryable := fun _ => false
  isS3CodeRetryable := fun _ => false
  isHTTPStatusRetryable := fun _ => false

theorem invalidBucketName_stops_first :
    0 < (executeMethod 5 plainClient (fun _ => invalidBucketName) listBuckets).log.length ∧
      invalidBucketName.seek = none ∧ ErrorRead invalidBucketName ⟨400, .wire (.ok [1, 2])⟩ [1, 2] ∧
      (decoded invalidBucketName listBuckets ⟨400, .wire (.ok [1, 2])⟩ [1, 2]).code ∉ regionErrorCodes ∧
      invalidBucketName.isS3CodeRetryable
          (decoded invalidBucketName listBuckets ⟨400, .wire (.ok [1, 2])⟩ [1, 2]).code = false ∧
      invalidBucketName.isHTTPStatusRetryable 400 = false ∧
      (executeMethod 5 plainClient (fun _ => invalidBucketName) listBuckets).log.length = 0 + 1 ∧
      (executeMethod 5 plainClient (fun _ => invalidBucketName) listBuckets).outcome =
        .returned (some ((⟨400, .wire (.ok [1, 2])⟩ : Response).buffered [1, 2])) none := by
  have hr : ErrorRead invalidBucketName ⟨400, .wire (.ok [1, 2])⟩ [1, 2] := ⟨rfl, by decide, rfl⟩
  have hc : (decoded invalidBucketName listBuckets ⟨400, .wire (.ok [1, 2])⟩ [1, 2]).code ∉
      regionErrorCodes := by decide
  exact ⟨by decide, rfl, hr, hc, rfl, rfl,
    executeMethod_stops_at_error 5 plainClient (fun _ => invalidBucketName) listBuckets 0 _ _
      (by decide) rfl hr hc rfl rfl⟩

/-! ## The error body a caller reads back -/

/-- A run that returns a response other than a success returns the buffered copy of
the error body one of its attempts read: reading it to the end gives every byte
`ReadAll` read, from the first, however much of it the decoder consumed. -/
theorem executeMethod_error_body_replayed (MaxRetry : Nat) (c : Client) (w : Nat → AttemptEnv)
    (md : RequestMetadata) (res : Response) (err : Option GoError)
    (h : (executeMethod MaxRetry c w md).outcome = .returned (some res) err)
    (hs : res.statusCode ∉ successStatus) :
    ∃ i < (retryBudget MaxRetry md.contentBody).2, ∃ orig bytes,
      (w i).send = .ok (.ok orig) ∧ orig.body.readAll = .ok bytes ∧
      res = orig.buffered bytes ∧ res.body.readAll = .ok bytes := by
  have hc := execLoop_contract c.region (retryBudget MaxRetry md.contentBody).1 w md
    (newRetryTimer (retryBudget MaxRetry md.contentBody).2) ⟨md, none, none⟩ c.bucketLocCache
    ⟨rfl, rfl⟩
  rw [← executeMethod_eq] at hc
  cases hl : (executeMethod MaxRetry c w md).log.getLast? with
  | none =>
    have ho := (hc.idle (List.getLast?_eq_none_iff.mp hl)).2
    rw [h] at ho
    cases ho
  | some e =>
    have hf := hc.result e hl
    rw [h] at hf
    obtain ⟨orig, bytes, ⟨hsend, -, hread⟩, rfl⟩ := Exit.fits_buffered hf hs
    have hpos : 0 < (executeMethod MaxRetry c w md).log.length :=
      List.length_pos_of_ne_nil fun h0 => by simp [h0] at hl
    have hb := hc.budget
    rw [newRetryTimer_length] at hb
    rw [newRetryTimer_getD (by omega)] at hsend
    exact ⟨_, by omega, orig, bytes, hsend, hread, rfl, rfl⟩

theorem slowDown_body_replayed :
    (executeMethod 10 plainClient (fun _ => slowDown) unseekable).outcome =
        .returned (some (slowDownResponse.buffered [60, 69, 62])) none ∧
      ∃ i < (retryBudget 10 unseekable.contentBody).2, ∃ orig bytes,
        slowDown.send = .ok (.ok orig) ∧ orig.body.readAll = .ok bytes ∧
        slowDownResponse.buffered [60, 69, 62] = orig.buffered bytes ∧
        (slowDownResponse.buffered [60, 69, 62]).body.readAll = .ok bytes := by
  have h : (executeMethod 10 plainClient (fun _ => slowDown) unseekable).outcome =
      .returned (some (slowDownResponse.buffered [60, 69, 62])) none := by decide
  exact ⟨h, executeMethod_error_body_replayed 10 plainClient (fun _ => slowDown) unseekable _ _ h
    (by decide)⟩

/-! ## The region guard -/

theorem execLoop_region_guard {region : String} (hr : region ≠ "") (isRetryable : Bool)
    (w : Nat → AttemptEnv) :
    ∀ (ticks : List Nat) (st : LoopState) (σ : Option BucketLocationCache),
      (∀ e ∈ (execLoop region isRetryable w ticks st σ).log, e.corrects = false) ∧
        (execLoop region isRetryable w ticks st σ).cache = σ
  | [], _, _ => ⟨by simp [execLoop], rfl⟩
  | i :: ticks, st, σ => by
    obtain ⟨l, hl, he⟩ := attempt_region_guard hr isRetryable (w i) st
    simp only [execLoop, hl, resolve]
    cases l with
    | done e o => exact ⟨by simpa [finish, Leave.exit] using he, rfl⟩
    | next e st' =>
      obtain ⟨ih, ihc⟩ := execLoop_region_guard hr isRetryable w ticks st' σ
      simp only [finish, List.mem_cons, forall_eq_or_imp]
      exact ⟨⟨he, ih⟩, ihc⟩

/-- A client configured with a region never runs the region correction, whatever the
gateway answers: no attempt leaves by it, and the cache is left as it was. -/
theorem executeMethod_region_guard (MaxRetry : Nat) (c : Client) (w : Nat → AttemptEnv)
    (md : RequestMetadata) (hr : c.region ≠ "") :
    (∀ e ∈ (executeMethod MaxRetry c w md).log, e.corrects = false) ∧
      (executeMethod MaxRetry c w md).cache = c.bucketLocCache :=
  execLoop_region_guard hr _ w _ _ _

/-- An attempt answered `403 AccessDenied` naming `eu-west-1`, which no classifier retries. -/
def accessDenied : AttemptEnv where
  seek := none
  send := .ok (.ok ⟨403, .wire (.ok [])⟩)
  decode := fun _ _ _ => (⟨"AccessDenied", "eu-west-1"⟩, 0)
  isHTTPReqErrorRetryable := fun _ => false
  isS3CodeRetryable := fun _ => false
  isHTTPStatusRetryable := fun _ => false

theorem regional_client_not_corrected :
    ({ plainClient with region := "us-east-1" } : Client).region ≠ "" ∧
      (∀ e ∈ (executeMethod 10 { plainClient with region := "us-east-1" } (fun _ => accessDenied)
        listBuckets).log, e.corrects = false) ∧
      (executeMethod 10 { plainClient with region := "us-east-1" } (fun _ => accessDenied)
        listBuckets).cache = none :=
  ⟨by decide, executeMethod_region_guard 10 _ _ listBuckets (by decide)⟩

/-- `NewWithRegion` drops its region, so the guard stays open: a `ListBuckets`-like
request answered `AccessDenied` with a region hint has its location corrected. -/
theorem newWithRegion_corrects_location :
    ∃ c, NewWithRegion plainHost "127.0.0.1:6711" "ak" "sk" false "us-east-1" = .ok c ∧
      ∀ MaxRetry, (executeMethod (MaxRetry + 1) c (fun _ => accessDenied) listBuckets).log.head? =
        some .locationCorrected := by
  refine ⟨_, rfl, fun MaxRetry => ?_⟩
  simp only [executeMethod_eq, listBuckets, retryBudget, newRetryTimer, List.range_succ_eq_map]
  rfl

/-- What a run with log `log` did to the cache `σ` it started with, leaving `σ'`, where
`hint k` is the region named to the `k`-th attempt: nothing, when no attempt left by a
cache hit; otherwise `σ` held bucket `B`, and the run left `B` mapped to the region
named to its last hit. -/
def CacheEffect (hint : Nat → Option String) (B : String) (σ : BucketLocationCache)
    (log : List Exit) (σ' : Option BucketLocationCache) : Prop :=
  (.regionCached ∉ log ∧ σ' = some σ) ∨
    (σ.get B ≠ none ∧ ∃ k loc, log[k]? = some .regionCached ∧ .regionCached ∉ log.drop (k + 1) ∧
      hint k = some loc ∧ σ' = some (σ.set B loc))

/-- The location corrections of a run with log `log` that started with location `loc`,
where `hint k` is the region named to the `k`-th attempt: the first was told a region
other than `loc`, and each later one a region other than the one before it. -/
def CorrectionsDiffer (hint : Nat → Option String) (loc : String) (log : List Exit) : Prop :=
  (∀ k, log[k]? = some .locationCorrected → .locationCorrected ∉ log.take k →
      ∃ h, hint k = some h ∧ h ≠ loc) ∧
    ∀ j k, j < k → log[j]? = some .locationCorrected → log[k]? = some .locationCorrected →
      .locationCorrected ∉ (log.take k).drop (j + 1) → hint j ≠ hint k

theorem CacheEffect.congr {hint hint' : Nat → Option String} {B : String}
    {σ : BucketLocationCache} {log : List Exit} {σ' : Option BucketLocationCache}
    (h : CacheEffect hint B σ log σ') (hh : ∀ k < log.length, hint k = hint' k) :
    CacheEffect hint' B σ log σ' := by
  rcases h with h | ⟨hg, k, loc, hk, hlast, hk', hc⟩
  · exact .inl h
  · exact .inr ⟨hg, k, loc, hk, hlast, hh k (List.getElem?_eq_some_iff.mp hk).1 ▸ hk', hc⟩

theorem CorrectionsDiffer.congr {hint hint' : Nat → Option String} {loc : String}
    {log : List Exit} (h : CorrectionsDiffer hint loc log)
    (hh : ∀ k < log.length, hint k = hint' k) : CorrectionsDiffer hint' loc log := by
  have hlt {k : Nat} (hk : log[k]? = some .locationCorrected) : k < log.length :=
    (List.getElem?_eq_some_iff.mp hk).1
  refine ⟨fun k hk hf => hh k (hlt hk) ▸ h.1 k hk hf, fun j k hjk hj hk hb => ?_⟩
  rw [← hh j (hlt hj), ← hh k (hlt hk)]
  exact h.2 j k hjk hj hk hb

theorem resolve_moves {env : AttemptEnv} {md : RequestMetadata} {loc : String} {s : Step}
    (h : s.Moves env md loc) (σ : Option BucketLocationCache) :
    (resolve s σ).1.Moves env md loc := by
  match s, σ, h with
  | .leave _, _, h => exact h.1
  | .lookup .., none, _ => exact nofun
  | .lookup .., some c, h =>
    simp only [resolve]
    split
    · exact .inl ⟨nofun, h.1⟩
    · exact h.2.1

/-- The cache after one attempt: kept, unless the attempt left by a hit, which found
the request's bucket and set it to the region the attempt's gateway named. -/
theorem resolve_cache {env : AttemptEnv} {md : RequestMetadata} {loc : String} {s : Step}
    (hf : s.Fits env md) (hm : s.Moves env md loc) (σ : BucketLocationCache) :
    ∃ σ₁, (resolve s (some σ)).2 = some σ₁ ∧
      (((resolve s (some σ)).1.exit ≠ .regionCached ∧ σ₁ = σ) ∨
        ((resolve s (some σ)).1.exit = .regionCached ∧ σ.get md.bucketName ≠ none ∧
          ∃ loc, regionHint env md = some loc ∧ σ₁ = σ.set md.bucketName loc)) := by
  match s, hf, hm with
  | .leave _, _, hm => exact ⟨σ, rfl, .inl ⟨hm.2, rfl⟩⟩
  | .lookup _ loc' _ _, hf, hm =>
    obtain ⟨-, -, -, res, bytes, hr, -, -, hl, rfl, -⟩ := hf
    simp only [resolve]
    split
    · next hg => exact ⟨_, rfl, .inr ⟨rfl, by simp [hg], loc', hl ▸ regionHint_of_errorRead md hr, rfl⟩⟩
    · exact ⟨σ, rfl, .inl ⟨hm.2.2, rfl⟩⟩

theorem CacheEffect.nil (hint : Nat → Option String) (B : String) (σ : BucketLocationCache) :
    CacheEffect hint B σ [] (some σ) :=
  .inl ⟨nofun, rfl⟩

/-- A log whose first exit keeps the cache, or is a hit that sets the bucket to the
region named to it, has the cache effect its rest has from the cache it left. -/
theorem CacheEffect.cons {hint : Nat → Option String} {B : String} {σ σ₁ : BucketLocationCache}
    {e : Exit} {log : List Exit} {σ' : Option BucketLocationCache}
    (he : (e ≠ .regionCached ∧ σ₁ = σ) ∨
      (e = .regionCached ∧ σ.get B ≠ none ∧ ∃ loc, hint 0 = some loc ∧ σ₁ = σ.set B loc))
    (h : CacheEffect (fun k => hint (k + 1)) B σ₁ log σ') :
    CacheEffect hint B σ (e :: log) σ' := by
  rcases he with ⟨he, rfl⟩ | ⟨rfl, hg, loc, hh, rfl⟩
  · rcases h with ⟨hno, hc⟩ | ⟨hg, k, loc, hk, hlast, hh, hc⟩
    · exact .inl ⟨List.not_mem_cons_of_ne_of_not_mem (Ne.symm he) hno, hc⟩
    · exact .inr ⟨hg, k + 1, loc, by rwa [List.getElem?_cons_succ], hlast, hh, hc⟩
  · rcases h with ⟨hno, hc⟩ | ⟨-, k, loc', hk, hlast, hh', hc⟩
    · exact .inr ⟨hg, 0, loc, List.getElem?_cons_zero, hno, hh, hc⟩
    · exact .inr ⟨hg, k + 1, loc', by rwa [List.getElem?_cons_succ], hlast, hh',
        by rw [hc, BucketLocationCache.set_set]⟩

theorem execLoop_cacheEffect (region : String) (isRetryable : Bool) (w : Nat → AttemptEnv)
    (md : RequestMetadata) :
    ∀ (ticks : List Nat) (st : LoopState) (σ : BucketLocationCache), st.Names md →
      CacheEffect (fun k => regionHint (w (ticks.getD k 0)) md) md.bucketName σ
        (execLoop region isRetryable w ticks st (some σ)).log
        (execLoop region isRetryable w ticks st (some σ)).cache
  | [], _, σ, _ => .nil _ _ σ
  | i :: ticks, st, σ, hn => by
    have hf := attempt_fits region isRetryable (w i) hn
    obtain ⟨σ₁, hσ, hr⟩ := resolve_cache hf (attempt_moves region isRetryable (w i) hn) σ
    have hl := resolve_fits hf (some σ)
    simp only [execLoop]
    generalize resolve (attempt region isRetryable (w i) st) (some σ) = p at hσ hr hl
    obtain ⟨l, σ'⟩ := p
    obtain rfl : σ' = some σ₁ := hσ
    cases l with
    | done e o => exact .cons hr (.nil _ _ σ₁)
    | next e st' => exact .cons hr (execLoop_cacheEffect region isRetryable w md ticks st' σ₁ hl.2.2)

theorem CorrectionsDiffer.nil (hint : Nat → Option String) (loc : String) :
    CorrectionsDiffer hint loc [] :=
  ⟨by simp, by simp⟩

/-- A log whose first exit keeps the location, or corrects it to the region named to
it, has its corrections differ when the rest of it does from the location it left. -/
theorem CorrectionsDiffer.cons {hint : Nat → Option String} {loc loc' : String} {e : Exit}
    {log : List Exit} (hm : (e ≠ .locationCorrected ∧ loc' = loc) ∨
      (e = .locationCorrected ∧ hint 0 = some loc' ∧ loc' ≠ loc))
    (h : CorrectionsDiffer (fun k => hint (k + 1)) loc' log) :
    CorrectionsDiffer hint loc (e :: log) := by
  refine ⟨fun k hk hfirst => ?_, fun j k hjk hj hk hb => ?_⟩
  · cases k with
    | zero =>
      rcases hm with ⟨hne, -⟩ | ⟨-, hh, hloc⟩
      · exact absurd (Option.some.inj (List.getElem?_cons_zero.symm.trans hk)) hne
      · exact ⟨_, hh, hloc⟩
    | succ k =>
      rw [List.getElem?_cons_succ] at hk
      rw [List.take_succ_cons, List.mem_cons, not_or] at hfirst
      rcases hm with ⟨-, rfl⟩ | ⟨rfl, -⟩
      · exact h.1 k hk hfirst.2
      · exact absurd rfl hfirst.1
  · obtain ⟨k, rfl⟩ : ∃ k', k = k' + 1 := ⟨k - 1, by omega⟩
    rw [List.getElem?_cons_succ] at hk
    cases j with
    | zero =>
      rcases hm with ⟨hne, -⟩ | ⟨-, hh, -⟩
      · exact absurd (Option.some.inj (List.getElem?_cons_zero.symm.trans hj)) hne
      · obtain ⟨h', hk', hne⟩ := h.1 k hk hb
        rw [hh, show hint (k + 1) = some h' from hk']
        exact fun he => hne (Option.some.inj he).symm
    | succ j =>
      rw [List.getElem?_cons_succ] at hj
      exact h.2 j k (by omega) hj hk hb

theorem execLoop_corrections (region : String) (isRetryable : Bool) (w : Nat → AttemptEnv)
    (md : RequestMetadata) :
    ∀ (ticks : List Nat) (st : LoopState) (σ : Option BucketLocationCache), st.Names md →
      CorrectionsDiffer (fun k => regionHint (w (ticks.getD k 0)) md) st.metadata.bucketLocation
        (execLoop region isRetryable w ticks st σ).log
  | [], _, _, _ => .nil _ _
  | i :: ticks, st, σ, hn => by
    have hm := resolve_moves (attempt_moves region isRetryable (w i) hn) σ
    have hl := resolve_fits (attempt_fits region isRetryable (w i) hn) σ
    simp only [execLoop]
    generalize resolve (attempt region isRetryable (w i) st) σ = p at hm hl
    obtain ⟨l, σ'⟩ := p
    cases l with
    | done e o => exact .cons (.inl ⟨hm, rfl⟩) (.nil _ _)
    | next e st' => exact .cons hm (execLoop_corrections region isRetryable w md ticks st' σ' hl.2.2)

/-- An attempt of a run of `executeMethod` comes within the budget. -/
theorem executeMethod_lt_budget (MaxRetry : Nat) (c : Client) (w : Nat → AttemptEnv)
    (md : RequestMetadata) {k : Nat} (hk : k < (executeMethod MaxRetry c w md).log.length) :
    k < (retryBudget MaxRetry md.contentBody).2 := by
  have hb := (execLoop_contract c.region (retryBudget MaxRetry md.contentBody).1 w md
    (newRetryTimer (retryBudget MaxRetry md.contentBody).2) ⟨md, none, none⟩ c.bucketLocCache
    ⟨rfl, rfl⟩).budget
  rw [newRetryTimer_length] at hb
  exact lt_of_lt_of_le hk hb

/-- What a run of `executeMethod` on a client with a cache does to that cache, whatever
each attempt is answered: nothing, when no attempt left by a cache hit; otherwise the
cache held the request's bucket before the run, and the run leaves it mapped to the
region the gateway named to the last hit. No other bucket changes, and none is added. -/
theorem executeMethod_cache_effect (MaxRetry : Nat) (c : Client) (w : Nat → AttemptEnv)
    (md : RequestMetadata) (σ : BucketLocationCache) (hc : c.bucketLocCache = some σ) :
    CacheEffect (fun k => regionHint (w k) md) md.bucketName σ
      (executeMethod MaxRetry c w md).log (executeMethod MaxRetry c w md).cache := by
  have h := execLoop_cacheEffect c.region (retryBudget MaxRetry md.contentBody).1 w md
    (newRetryTimer (retryBudget MaxRetry md.contentBody).2) ⟨md, none, none⟩ σ ⟨rfl, rfl⟩
  rw [← hc, ← executeMethod_eq] at h
  exact h.congr fun k hk => by rw [newRetryTimer_getD (executeMethod_lt_budget MaxRetry c w md hk)]

theorem cachedClient_photos_recached :
    cachedClient.bucketLocCache = some (newBucketLocationCache.set "photos" "us-east-1") ∧
      CacheEffect (fun k => regionHint ((fun _ => accessDenied) k) unseekable) unseekable.bucketName
        (newBucketLocationCache.set "photos" "us-east-1")
        (executeMethod 10 cachedClient (fun _ => accessDenied) unseekable).log
        (executeMethod 10 cachedClient (fun _ => accessDenied) unseekable).cache :=
  ⟨rfl, executeMethod_cache_effect 10 cachedClient _ unseekable _ rfl⟩

/-- The location corrections of a run of `executeMethod`, whatever each attempt is
answered: the first was told a region other than the request's own location, and each
later one a region other than the one the correction before it was told. -/
theorem executeMethod_corrections_differ (MaxRetry : Nat) (c : Client) (w : Nat → AttemptEnv)
    (md : RequestMetadata) :
    CorrectionsDiffer (fun k => regionHint (w k) md) md.bucketLocation
      (executeMethod MaxRetry c w md).log :=
  (execLoop_corrections c.region (retryBudget MaxRetry md.contentBody).1 w md
    (newRetryTimer (retryBudget MaxRetry md.contentBody).2) ⟨md, none, none⟩ c.bucketLocCache
    ⟨rfl, rfl⟩).congr fun k hk => by
      rw [newRetryTimer_getD (executeMethod_lt_budget MaxRetry c w md hk)]

/-- An exit that lies strictly between positions `j` and `k` of a log sits at an index
there. -/
theorem mem_between {log : List Exit} {x : Exit} {j k : Nat}
    (h : x ∈ (log.take k).drop (j + 1)) : ∃ i, j < i ∧ i < k ∧ log[i]? = some x := by
  obtain ⟨n, hn⟩ := List.mem_iff_getElem?.mp h
  rw [List.getElem?_drop, List.getElem?_take] at hn
  by_cases hlt : j + 1 + n < k
  · rw [if_pos hlt] at hn
    exact ⟨j + 1 + n, by omega, hlt, hn⟩
  · rw [if_neg hlt] at hn
    cases hn

/-- When every attempt is told the same region, no location correction follows another. -/
theorem CorrectionsDiffer.at_most_one {hint : Nat → Option String} {loc : String}
    {log : List Exit} (h : CorrectionsDiffer hint loc log) (hc : ∀ j k, hint j = hint k) {j : Nat}
    (hj : log[j]? = some .locationCorrected) :
    ∀ k, log[k]? = some .locationCorrected → j < k → False := by
  intro k
  induction k using Nat.strong_induction_on with
  | _ k ih =>
    intro hk hjk
    by_cases hb : .locationCorrected ∈ (log.take k).drop (j + 1)
    · obtain ⟨i, hji, hik, hi⟩ := mem_between hb
      exact ih i hik hi hji
    · exact h.2 j k hjk hj hk hb (hc j k)

/-- A gateway that names one region to every attempt has the location of a run of
`executeMethod` corrected once at most, whatever else it answers. -/
theorem executeMethod_corrected_once (MaxRetry : Nat) (c : Client) (w : Nat → AttemptEnv)
    (md : RequestMetadata) (h : String) (hw : ∀ k, regionHint (w k) md = some h) {j k : Nat}
    (hj : (executeMethod MaxRetry c w md).log[j]? = some .locationCorrected)
    (hk : (executeMethod MaxRetry c w md).log[k]? = some .locationCorrected) : j = k := by
  have hd : CorrectionsDiffer (fun k => regionHint (w k) md) md.bucketLocation
      (executeMethod MaxRetry c w md).log :=
    (execLoop_corrections c.region (retryBudget MaxRetry md.contentBody).1 w md
      (newRetryTimer (retryBudget MaxRetry md.contentBody).2) ⟨md, none, none⟩ c.bucketLocCache
      ⟨rfl, rfl⟩).congr fun k hk => by
        rw [newRetryTimer_getD (executeMethod_lt_budget MaxRetry c w md hk)]
  have hc : ∀ j k, regionHint (w j) md = regionHint (w k) md := fun j k => (hw j).trans (hw k).symm
  rcases lt_trichotomy j k with hjk | rfl | hkj
  · exact (hd.at_most_one hc hj k hk hjk).elim
  · rfl
  · exact (hd.at_most_one hc hk j hj hkj).elim

theorem accessDenied_corrected_once :
    (∀ _ : Nat, regionHint accessDenied listBuckets = some "eu-west-1") ∧
      (executeMethod 10 plainClient (fun _ => accessDenied) listBuckets).log[0]? =
        some .locationCorrected ∧ 0 = 0 :=
  have hw : ∀ _ : Nat, regionHint accessDenied listBuckets = some "eu-west-1" := fun _ => rfl
  have h0 : (executeMethod 10 plainClient (fun _ => accessDenied) listBuckets).log[0]? =
      some .locationCorrected := by decide
  ⟨hw, h0, executeMethod_corrected_once 10 plainClient _ listBuckets "eu-west-1" hw h0 h0⟩

/-! ## The send as the source builds it -/

end MefsSdk.Execute
