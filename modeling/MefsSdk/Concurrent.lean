import MefsSdk.Execute

/-! # Region correction among goroutines

`executeMethod` calls on clients that share one bucket location cache, and other
goroutines calling `Get`, `Set` and `Delete` on it. Each cache method is one atomic
step, as its lock makes it (`lock_linearizes`, in `CacheLock`). A call is a
goroutine whose steps are the `Get` of line 662, the `Set` of line 663, and the work
between them, folded into the step that follows it; an interleaving is any list of
steps.

Run alone, a goroutine computes `execLoop` (`runAlone_execLoop`). Among others,
each write a goroutine makes is the `Set` of its own request's bucket to the region
hint of a region-mismatch error, and it reaches that `Set` only by a `Get` that
found the bucket (`region_writes`). The two calls are atomic one by one, not
together: a `Delete` between them is undone by the `Set`
(`set_recreates_deleted_bucket`), and only a `Delete` can come between them to that
effect (`set_finds_bucket`). No bucket is ever added that was not cached at the
start or set by another goroutine (`cache_keys_origin`), and no location is written
that no gateway named for its bucket (`cache_locations_origin`).

A goroutine whose bucket no one else touches computes what it computes alone and
returns what `executeMethod` returns (`isolated_executeMethod`); any goroutine
returns only what one of its own attempts handed back: an error response is the
buffered copy that attempt made, replayed from its first byte
(`interleaved_error_body_replayed`). Whatever the schedule, a goroutine has
returned once it has taken three steps per attempt of its budget, and one more
(`returns_within`). -/

namespace MefsSdk.Concurrent
open MefsSdk.Http MefsSdk.BucketCache MefsSdk.Api MefsSdk.Attempt MefsSdk.Execute

/-- An `executeMethod` call, as the goroutine that runs it: what stays fixed. -/
structure Call where
  region : String
  isRetryable : Bool
  w : Nat → AttemptEnv
  ticks : List Nat
  metadata : RequestMetadata

/-- The goroutine of `executeMethod MaxRetry c w metadata`. -/
def Call.of (MaxRetry : Nat) (c : Client) (w : Nat → AttemptEnv) (metadata : RequestMetadata) :
    Call :=
  ⟨c.region, (retryBudget MaxRetry metadata.contentBody).1, w,
    newRetryTimer (retryBudget MaxRetry metadata.contentBody).2, metadata⟩

/-- Where a goroutine is: at the top of the loop, at the `Get` of line 662, at the
`Set` of line 663, or returned. -/
inductive Pc where
  | loop (ticks : List Nat) (st : LoopState)
  | get (ticks : List Nat) (bucketName location : String) (st : LoopState) (miss : Leave)
  | set (ticks : List Nat) (bucketName location : String) (st : LoopState)
  | done (o : Outcome)

def Pc.after (ticks : List Nat) : Leave → Pc
  | .done _ o => .done o
  | .next _ st => .loop ticks st

def Call.start (k : Call) : Pc := .loop k.ticks ⟨k.metadata, none, none⟩

/-- One atomic step of the goroutine running `k`, on the shared cache. -/
def Call.step (k : Call) (σ : BucketLocationCache) : Pc → Pc × BucketLocationCache
  | .loop [] st => (.done (.returned st.res st.err), σ)
  | .loop (i :: ticks) st =>
    match attempt k.region k.isRetryable (k.w i) st with
    | .leave l => (Pc.after ticks l, σ)
    | .lookup b loc st' miss => (.get ticks b loc st' miss, σ)
  | .get ticks b loc st miss =>
    match σ.get b with
    | some _ => (.set ticks b loc st, σ)
    | none => (Pc.after ticks miss, σ)
  | .set ticks b loc st => (.loop ticks st, σ.set b loc)
  | .done o => (.done o, σ)

/-- `n` steps of the goroutine with no other goroutine in between. -/
def Call.runAlone (k : Call) : Nat → Pc → BucketLocationCache → Pc × BucketLocationCache
  | 0, pc, σ => (pc, σ)
  | n + 1, pc, σ => k.runAlone n (k.step σ pc).1 (k.step σ pc).2

theorem runAlone_done (k : Call) (o : Outcome) :
    ∀ (n : Nat) (σ : BucketLocationCache), k.runAlone n (.done o) σ = (.done o, σ)
  | 0, _ => rfl
  | n + 1, σ => runAlone_done k o n σ

/-- Run alone for enough steps, a goroutine ends where `execLoop` ends, with the cache
`execLoop` leaves. -/
theorem runAlone_execLoop (k : Call) :
    ∀ (ticks : List Nat) (st : LoopState) (σ : BucketLocationCache) (n : Nat),
      3 * ticks.length + 1 ≤ n →
      (k.runAlone n (.loop ticks st) σ).1 =
          .done (execLoop k.region k.isRetryable k.w ticks st (some σ)).outcome ∧
        some (k.runAlone n (.loop ticks st) σ).2 =
          (execLoop k.region k.isRetryable k.w ticks st (some σ)).cache
  | [], st, σ, n + 1, _ => by simp [Call.runAlone, Call.step, runAlone_done, execLoop]
  | i :: ticks, st, σ, n + 1, hn => by
    have ih := runAlone_execLoop k ticks
    simp only [List.length_cons] at hn
    simp only [Call.runAlone, Call.step, execLoop]
    cases ha : attempt k.region k.isRetryable (k.w i) st with
    | leave l =>
      cases l with
      | done e o => simp [Pc.after, resolve, finish, runAlone_done]
      | next e st' => simpa [Pc.after, resolve, finish] using ih st' σ n (by omega)
    | lookup b loc st' miss =>
      obtain ⟨n, rfl⟩ : ∃ m, n = m + 2 := ⟨n - 2, by omega⟩
      simp only [Call.runAlone, Call.step, resolve]
      cases hg : σ.get b with
      | some _ => simpa [finish] using ih st' (σ.set b loc) n (by omega)
      | none =>
        cases miss with
        | done e o => simp [Pc.after, finish, runAlone_done]
        | next e st'' => simpa [Pc.after, finish] using ih st'' σ (n + 1) (by omega)

/-- The goroutine of a call on a client whose cache is `σ`, run alone, computes that
call of `executeMethod`. -/
theorem runAlone_executeMethod (MaxRetry : Nat) (c : Client) (w : Nat → AttemptEnv)
    (metadata : RequestMetadata) (σ : BucketLocationCache) (hc : c.bucketLocCache = some σ)
    (n : Nat) (hn : 3 * (retryBudget MaxRetry metadata.contentBody).2 + 1 ≤ n) :
    ((Call.of MaxRetry c w metadata).runAlone n (Call.of MaxRetry c w metadata).start σ).1 =
        .done (executeMethod MaxRetry c w metadata).outcome ∧
      some ((Call.of MaxRetry c w metadata).runAlone n (Call.of MaxRetry c w metadata).start σ).2 =
        (executeMethod MaxRetry c w metadata).cache := by
  rw [executeMethod_eq, hc]
  exact runAlone_execLoop _ _ _ σ n (by simpa [Call.of, newRetryTimer] using hn)

theorem cachedClient_runs_alone :
    cachedClient.bucketLocCache = some (newBucketLocationCache.set "photos" "us-east-1") ∧
      3 * (retryBudget 10 unseekable.contentBody).2 + 1 ≤ 4 ∧
      ((Call.of 10 cachedClient (fun _ => accessDenied) unseekable).runAlone 4
          (Call.of 10 cachedClient (fun _ => accessDenied) unseekable).start
          (newBucketLocationCache.set "photos" "us-east-1")).1 =
        .done (executeMethod 10 cachedClient (fun _ => accessDenied) unseekable).outcome ∧
      some ((Call.of 10 cachedClient (fun _ => accessDenied) unseekable).runAlone 4
          (Call.of 10 cachedClient (fun _ => accessDenied) unseekable).start
          (newBucketLocationCache.set "photos" "us-east-1")).2 =
        (executeMethod 10 cachedClient (fun _ => accessDenied) unseekable).cache :=
  ⟨rfl, by decide, runAlone_executeMethod 10 cachedClient _ unseekable _ rfl 4 (by decide)⟩

/-! ## Goroutines sharing the cache -/

/-- The shared cache, and where each `executeMethod` goroutine is. -/
structure Sys where
  cache : BucketLocationCache
  pcs : Nat → Pc

/-- One step of the system: goroutine `t` of `executeMethod` moves, or another
goroutine calls `Get`, `Set` or `Delete`. -/
inductive Act where
  | run (t : Nat)
  | get (bucketName : String)
  | set (bucketName location : String)
  | delete (bucketName : String)
  deriving DecidableEq

def Sys.step (calls : Nat → Call) (s : Sys) : Act → Sys
  | .run t =>
    let p := (calls t).step s.cache (s.pcs t)
    ⟨p.2, fun t' => if t' = t then p.1 else s.pcs t'⟩
  | .get _ => s
  | .set b loc => { s with cache := s.cache.set b loc }
  | .delete b => { s with cache := s.cache.delete b }

def Sys.init (calls : Nat → Call) (σ₀ : BucketLocationCache) : Sys :=
  ⟨σ₀, fun t => (calls t).start⟩

def Sys.exec (calls : Nat → Call) (s : Sys) (acts : List Act) : Sys :=
  acts.foldl (Sys.step calls) s

/-- The state the interleaving `acts` leads to from a cache `σ₀` and every goroutine
at its start. -/
def Sys.after (calls : Nat → Call) (σ₀ : BucketLocationCache) (acts : List Act) : Sys :=
  (Sys.init calls σ₀).exec calls acts

@[simp] theorem step_run_pcs (calls : Nat → Call) (s : Sys) (t : Nat) :
    (s.step calls (.run t)).pcs t = ((calls t).step s.cache (s.pcs t)).1 := if_pos rfl

/-- A region a gateway named to goroutine `k` for bucket `b`: the non-empty hint of a
region-mismatch error that one of the attempts `k` makes decoded, for its request's
own non-empty bucket, on a client with no region. -/
def Named (k : Call) (b loc : String) : Prop :=
  b = k.metadata.bucketName ∧ b ≠ "" ∧ loc ≠ "" ∧ k.region = "" ∧
    ∃ i ∈ k.ticks, ∃ res bytes, ErrorRead (k.w i) res bytes ∧
      (decoded (k.w i) k.metadata res bytes).code ∈ regionErrorCodes ∧
      (decoded (k.w i) k.metadata res bytes).region = loc

/-- What a goroutine at line 662 or 663 is about to write: its own request's bucket,
not empty, to a region its gateway named. -/
def Pending (k : Call) (b loc : String) (st : LoopState) : Prop :=
  st.Names k.metadata ∧ Named k b loc

def leaveNames (md : RequestMetadata) : Leave → Prop
  | .done .. => True
  | .next _ st => st.Names md

/-- The invariant of a goroutine at `pc`. -/
def Pc.Ok (k : Call) : Pc → Prop
  | .loop ticks st => ticks ⊆ k.ticks ∧ st.Names k.metadata
  | .get ticks b loc st miss => ticks ⊆ k.ticks ∧ Pending k b loc st ∧ leaveNames k.metadata miss
  | .set ticks b loc st => ticks ⊆ k.ticks ∧ Pending k b loc st
  | .done _ => True

theorem leaveNames_of_fits {env : AttemptEnv} {md : RequestMetadata} :
    ∀ {l : Leave}, l.Fits env md → leaveNames md l
  | .done .., _ => trivial
  | .next .., h => h.2.2

theorem after_ok (k : Call) {ticks : List Nat} (hs : ticks ⊆ k.ticks) :
    ∀ {l : Leave}, leaveNames k.metadata l → (Pc.after ticks l).Ok k
  | .done .., _ => trivial
  | .next .., h => ⟨hs, h⟩

theorem step_ok (k : Call) (σ : BucketLocationCache) {pc : Pc} (h : pc.Ok k) :
    (k.step σ pc).1.Ok k := by
  cases pc with
  | loop ticks st =>
    cases ticks with
    | nil => trivial
    | cons i ticks =>
      obtain ⟨hi, hs⟩ := List.cons_subset.mp h.1
      have hf := attempt_fits k.region k.isRetryable (k.w i) h.2
      simp only [Call.step]
      cases ha : attempt k.region k.isRetryable (k.w i) st with
      | leave l =>
        rw [ha] at hf
        exact after_ok k hs (leaveNames_of_fits hf)
      | lookup b loc st' miss =>
        rw [ha] at hf
        obtain ⟨hm, hn, -, res, bytes, hr, -, hc, hl, hb, hb', hl'⟩ := hf
        have hreg : k.region = "" := by
          by_contra hne
          obtain ⟨l, hl2, -⟩ := attempt_region_guard hne k.isRetryable (k.w i) st
          rw [ha] at hl2
          cases hl2
        exact ⟨hs, ⟨hn, hb, hb ▸ hb', hl', hreg, i, hi, res, bytes, hr, hc, hl⟩, leaveNames_of_fits hm⟩
  | get ticks b loc st miss =>
    simp only [Call.step]
    split
    · exact ⟨h.1, h.2.1⟩
    · exact after_ok k h.1 h.2.2
  | set ticks b loc st => exact ⟨h.1, h.2.1⟩
  | done o => trivial

/-- A goroutine writes the cache only at line 663. -/
theorem step_writes (k : Call) (σ : BucketLocationCache) {pc : Pc} (h : (k.step σ pc).2 ≠ σ) :
    ∃ ticks b loc st, pc = .set ticks b loc st ∧ (k.step σ pc).2 = σ.set b loc := by
  cases pc with
  | loop ticks st =>
    cases ticks with
    | nil => exact absurd rfl h
    | cons i ticks =>
      simp only [Call.step] at h
      split at h <;> exact absurd rfl h
  | get ticks b loc st miss =>
    simp only [Call.step] at h
    split at h <;> exact absurd rfl h
  | set ticks b loc st => exact ⟨ticks, b, loc, st, rfl, rfl⟩
  | done o => exact absurd rfl h

/-- A goroutine reaches line 663 only from line 662, by a `Get` that finds the bucket. -/
theorem step_enters_set (k : Call) (σ : BucketLocationCache) {pc : Pc} {ticks : List Nat}
    {b loc : String} {st : LoopState} (h : (k.step σ pc).1 = .set ticks b loc st) :
    ∃ miss, pc = .get ticks b loc st miss ∧ σ.get b ≠ none ∧ (k.step σ pc).2 = σ := by
  cases pc with
  | loop ticks' st' =>
    cases ticks' with
    | nil => cases h
    | cons i ticks' =>
      simp only [Call.step] at h
      split at h
      · next l _ => cases l <;> cases h
      · cases h
  | get ticks' b' loc' st' miss =>
    simp only [Call.step] at h ⊢
    split at h
    · next hg =>
      cases h
      exact ⟨miss, rfl, by simp [hg], rfl⟩
    · next => cases miss <;> cases h
  | set => cases h
  | done => cases h

def Sys.Ok (calls : Nat → Call) (s : Sys) : Prop := ∀ t, (s.pcs t).Ok (calls t)

theorem init_ok (calls : Nat → Call) (σ₀ : BucketLocationCache) : (Sys.init calls σ₀).Ok calls :=
  fun _ => ⟨fun _ hi => hi, rfl, rfl⟩

theorem sys_step_ok (calls : Nat → Call) {s : Sys} (h : s.Ok calls) :
    ∀ a : Act, (s.step calls a).Ok calls
  | .run t => by
    intro t'
    simp only [Sys.step]
    split
    · subst t'; exact step_ok _ _ (h _)
    · exact h t'
  | .get _ | .set .. | .delete _ => h

theorem exec_ok (calls : Nat → Call) :
    ∀ (acts : List Act) (s : Sys), s.Ok calls → (s.exec calls acts).Ok calls
  | [], _, h => h
  | a :: acts, s, h => exec_ok calls acts (s.step calls a) (sys_step_ok calls h a)

/-- A property of the system that every step allowed by `A` keeps from a state where
the goroutines are well formed holds after every interleaving of allowed steps. -/
theorem exec_inv (calls : Nat → Call) {I : Sys → Prop} {A : Act → Prop}
    (hstep : ∀ s a, s.Ok calls → I s → A a → I (s.step calls a)) :
    ∀ (acts : List Act) (s : Sys), s.Ok calls → I s → (∀ a ∈ acts, A a) → I (s.exec calls acts)
  | [], _, _, h, _ => h
  | a :: acts, s, hok, h, ha =>
    exec_inv calls hstep acts (s.step calls a) (sys_step_ok calls hok a)
      (hstep s a hok h (ha a (List.mem_cons_self a acts))) fun a' hm => ha a' (List.mem_cons_of_mem a hm)

/-- A property of each goroutine's own state that its own steps keep is kept by every
step of the system. -/
theorem step_pcs (calls : Nat → Call) {P : Nat → Pc → Prop} {s : Sys} (h : ∀ t, P t (s.pcs t))
    (hstep : ∀ t, P t (s.pcs t) → P t ((calls t).step s.cache (s.pcs t)).1) :
    ∀ a t, P t ((s.step calls a).pcs t)
  | .run t', t => by
    simp only [Sys.step]
    split
    · subst t; exact hstep _ (h _)
    · exact h t
  | .get _, t | .set .., t | .delete _, t => h t

/-- In every interleaving of `executeMethod` goroutines and other cache calls, a
goroutine's only writes to the shared cache are the `Set`s of line 663, each of its
own request's non-empty bucket to the non-empty region hint of a region-mismatch
error it decoded, on a client with no region; and it reaches line 663 only by a
`Get` at line 662 that found that bucket. -/
theorem region_writes (calls : Nat → Call) (σ₀ : BucketLocationCache) (acts : List Act)
    (t : Nat) :
    (((Sys.after calls σ₀ acts).step calls (.run t)).cache ≠ (Sys.after calls σ₀ acts).cache →
      ∃ ticks b loc st, (Sys.after calls σ₀ acts).pcs t = .set ticks b loc st ∧
        Pending (calls t) b loc st ∧
        ((Sys.after calls σ₀ acts).step calls (.run t)).cache =
          (Sys.after calls σ₀ acts).cache.set b loc) ∧
      ∀ ticks b loc st, ((Sys.after calls σ₀ acts).step calls (.run t)).pcs t = .set ticks b loc st →
        ∃ miss, (Sys.after calls σ₀ acts).pcs t = .get ticks b loc st miss ∧
          (Sys.after calls σ₀ acts).cache.get b ≠ none := by
  refine ⟨fun h => ?_, fun ticks b loc st h => ?_⟩
  · obtain ⟨ticks, b, loc, st, hpc, hw⟩ := step_writes _ _ h
    have hok : (Pc.set ticks b loc st).Ok (calls t) :=
      hpc ▸ exec_ok calls acts _ (init_ok calls σ₀) t
    exact ⟨ticks, b, loc, st, hpc, hok.2, hw⟩
  · obtain ⟨miss, hpc, hg, -⟩ := step_enters_set _ _ (by rwa [step_run_pcs] at h)
    exact ⟨miss, hpc, hg⟩

/-- The goroutine of a `photos` request on a client with no region, answered
`AccessDenied` naming `eu-west-1`. -/
def photosCall : Call := Call.of 10 plainClient (fun _ => accessDenied) unseekable

/-- The goroutine takes the `Get` of line 662 and finds `photos`; another goroutine
deletes `photos`; the `Set` of line 663 then puts it back. -/
theorem set_recreates_deleted_bucket :
    ¬ ∀ (calls : Nat → Call) (σ₀ : BucketLocationCache) (acts : List Act) (t : Nat)
        (ticks : List Nat) (b loc : String) (st : LoopState),
      (Sys.after calls σ₀ acts).pcs t = .set ticks b loc st →
      (Sys.after calls σ₀ acts).cache.get b = none →
      ((Sys.after calls σ₀ acts).step calls (.run t)).cache.get b = none := fun h =>
  absurd (h (fun _ => photosCall) (newBucketLocationCache.set "photos" "us-east-1")
    [.run 0, .run 0, .delete "photos"] 0 [] "photos" "eu-west-1" _ rfl rfl) (by decide)

/-! ## Without a `Delete`, the race does not show

The `Get` of line 662 and the `Set` of line 663 are two steps, but only a `Delete`
between them can remove the bucket the `Get` found: when no other goroutine deletes a
bucket an `executeMethod` goroutine asks about, each `Set` of line 663 finds its
bucket still cached, and so only changes the location of a cached bucket. -/

/-- Every goroutine about to `Set` a bucket at line 663 finds it in the cache. -/
def Sys.SetsCached (s : Sys) : Prop :=
  ∀ t ticks b loc st, s.pcs t = .set ticks b loc st → s.cache.get b ≠ none

theorem step_setsCached (calls : Nat → Call) {s : Sys} (hok : s.Ok calls) (h : s.SetsCached) :
    ∀ a : Act, (∀ b, a = .delete b → ∀ t, (calls t).metadata.bucketName ≠ b) →
      (s.step calls a).SetsCached
  | .run t, _ => fun t' ticks b loc st hpc => by
    simp only [Sys.step] at hpc ⊢
    split at hpc
    · subst t'
      obtain ⟨miss, -, hg, hc⟩ := step_enters_set _ _ hpc
      rw [hc]
      exact hg
    · have hb := h t' ticks b loc st hpc
      by_cases hc : ((calls t).step s.cache (s.pcs t)).2 = s.cache
      · rwa [hc]
      · obtain ⟨_, b', loc', _, _, hw⟩ := step_writes _ _ hc
        rw [hw]
        exact BucketLocationCache.get_set_ne_none b' loc' hb
  | .get _, _ => h
  | .set b' loc', _ => fun t ticks b loc st hpc =>
    BucketLocationCache.get_set_ne_none b' loc' (h t ticks b loc st hpc)
  | .delete b', hd => fun t ticks b loc st hpc => by
    have hpend : (Pc.set ticks b loc st).Ok (calls t) := hpc ▸ hok t
    have hb : b ≠ b' := hpend.2.2.1 ▸ hd b' rfl t
    rw [Sys.step, BucketLocationCache.get_delete_ne _ hb]
    exact h t ticks b loc st hpc

/-- In every interleaving in which no other goroutine deletes a bucket that an
`executeMethod` goroutine asks about, a goroutine about to `Set` its bucket at line
663 finds the bucket still cached: the `Get` and the `Set` behave as one step. -/
theorem set_finds_bucket (calls : Nat → Call) (σ₀ : BucketLocationCache) (acts : List Act)
    (hd : ∀ b, Act.delete b ∈ acts → ∀ t, (calls t).metadata.bucketName ≠ b)
    (t : Nat) (ticks : List Nat) (b loc : String) (st : LoopState)
    (h : (Sys.after calls σ₀ acts).pcs t = .set ticks b loc st) :
    (Sys.after calls σ₀ acts).cache.get b ≠ none :=
  exec_inv calls (I := Sys.SetsCached) (fun s a hok h ha => step_setsCached calls hok h a ha) acts
    (Sys.init calls σ₀) (init_ok calls σ₀) (fun _ _ _ _ _ h => by cases h)
    (fun a ha b hab => hd b (hab ▸ ha)) t ticks b loc st h

theorem photos_set_finds_bucket :
    (∀ b, Act.delete b ∈ [Act.run 0, .delete "videos", .run 0] →
        ∀ _ : Nat, photosCall.metadata.bucketName ≠ b) ∧
      (Sys.after (fun _ => photosCall) (newBucketLocationCache.set "photos" "us-east-1")
          [.run 0, .delete "videos", .run 0]).pcs 0 =
        .set [] "photos" "eu-west-1" ⟨unseekable, some ((⟨403, .wire (.ok [])⟩ : Response).buffered []), none⟩ ∧
      (Sys.after (fun _ => photosCall) (newBucketLocationCache.set "photos" "us-east-1")
          [.run 0, .delete "videos", .run 0]).cache.get "photos" ≠ none :=
  have hd : ∀ b, Act.delete b ∈ [Act.run 0, .delete "videos", .run 0] →
      ∀ _ : Nat, photosCall.metadata.bucketName ≠ b := by
    simp [photosCall, Call.of, unseekable]
  have h : (Sys.after (fun _ => photosCall) (newBucketLocationCache.set "photos" "us-east-1")
      [.run 0, .delete "videos", .run 0]).pcs 0 =
      .set [] "photos" "eu-west-1" ⟨unseekable, some ((⟨403, .wire (.ok [])⟩ : Response).buffered []), none⟩ :=
    rfl
  ⟨hd, h, set_finds_bucket _ _ _ hd 0 _ _ _ _ h⟩

/-! ## Region correction invents no bucket

The `Set` of line 663 can put back a bucket another goroutine deleted, but it never
adds one: every bucket the cache ever holds was there at the start or was `Set` by
another goroutine. -/

/-- Every bucket the cache holds, and every bucket a goroutine is about to `Set`,
satisfies `P`. -/
def Sys.KeysIn (P : String → Prop) (s : Sys) : Prop :=
  (∀ b, s.cache.get b ≠ none → P b) ∧ ∀ t ticks b loc st, s.pcs t = .set ticks b loc st → P b

theorem step_keysIn (calls : Nat → Call) {P : String → Prop} {s : Sys} (h : s.KeysIn P) :
    ∀ a : Act, (∀ b loc, a = .set b loc → P b) → (s.step calls a).KeysIn P
  | .run t, _ => by
    refine ⟨fun b hb => ?_, fun t' ticks b loc st hpc => ?_⟩
    · by_cases hc : ((calls t).step s.cache (s.pcs t)).2 = s.cache
      · exact h.1 b (by rwa [Sys.step, hc] at hb)
      · obtain ⟨ticks, b', loc, st, hpc, hw⟩ := step_writes _ _ hc
        rw [Sys.step, hw] at hb
        rcases BucketLocationCache.mem_of_get_set hb with rfl | hb
        · exact h.2 t ticks b loc st hpc
        · exact h.1 b hb
    · simp only [Sys.step] at hpc
      split at hpc
      · subst t'
        obtain ⟨miss, -, hg, -⟩ := step_enters_set _ _ hpc
        exact h.1 b hg
      · exact h.2 t' ticks b loc st hpc
  | .get _, _ => h
  | .set b loc, ha => ⟨fun b' hb => (BucketLocationCache.mem_of_get_set hb).elim
      (fun hb' => hb' ▸ ha b loc rfl) (h.1 b'), h.2⟩
  | .delete _, _ => ⟨fun b' hb => h.1 b' (BucketLocationCache.mem_of_get_delete hb), h.2⟩

theorem exec_keysIn (calls : Nat → Call) {P : String → Prop} :
    ∀ (acts : List Act) (s : Sys), s.KeysIn P → (∀ b loc, Act.set b loc ∈ acts → P b) →
      (s.exec calls acts).KeysIn P
  | [], _, h, _ => h
  | a :: acts, s, h, ha =>
    exec_keysIn calls acts (s.step calls a)
      (step_keysIn calls h a fun b loc hab => ha b loc (hab ▸ List.mem_cons_self _ _))
      fun b loc hm => ha b loc (List.mem_cons_of_mem _ hm)

/-- In every interleaving, every bucket the shared cache holds was in it at the start
or was `Set` by another goroutine: region correction never adds a bucket. -/
theorem cache_keys_origin (calls : Nat → Call) (σ₀ : BucketLocationCache) (acts : List Act)
    (b : String) (hb : (Sys.after calls σ₀ acts).cache.get b ≠ none) :
    σ₀.get b ≠ none ∨ ∃ loc, Act.set b loc ∈ acts := by
  have hi : (Sys.init calls σ₀).KeysIn fun b => σ₀.get b ≠ none ∨ ∃ loc, Act.set b loc ∈ acts :=
    ⟨fun b hb => .inl hb, fun _ _ _ _ _ h => by cases h⟩
  exact (exec_keysIn calls acts _ hi fun b loc hm => .inr ⟨loc, hm⟩).1 b hb

theorem recreated_photos_was_cached :
    (Sys.after (fun _ => photosCall) (newBucketLocationCache.set "photos" "us-east-1")
        [.run 0, .run 0, .delete "photos", .run 0]).cache.get "photos" ≠ none ∧
      ((newBucketLocationCache.set "photos" "us-east-1").get "photos" ≠ none ∨
        ∃ loc, Act.set "photos" loc ∈ [Act.run 0, .run 0, .delete "photos", .run 0]) := by
  have h : (Sys.after (fun _ => photosCall) (newBucketLocationCache.set "photos" "us-east-1")
      [.run 0, .run 0, .delete "photos", .run 0]).cache.get "photos" ≠ none := by decide
  exact ⟨h, cache_keys_origin _ _ _ _ h⟩

/-! ## Region correction writes only what a gateway named

Every location the shared cache holds was there at the start, was `Set` by another
goroutine, or is a region a gateway named, in a region-mismatch error, to a goroutine
whose request names that bucket. -/

/-- Every location the cache holds satisfies `P` with its bucket. -/
def Sys.LocationsIn (P : String → String → Prop) (s : Sys) : Prop :=
  ∀ b loc, s.cache.get b = some loc → P b loc

theorem step_locationsIn (calls : Nat → Call) {P : String → String → Prop} {s : Sys}
    (hok : s.Ok calls) (h : s.LocationsIn P) (hn : ∀ t b loc, Named (calls t) b loc → P b loc) :
    ∀ a : Act, (∀ b loc, a = .set b loc → P b loc) → (s.step calls a).LocationsIn P
  | .run t, _ => fun b loc hb => by
    by_cases hc : ((calls t).step s.cache (s.pcs t)).2 = s.cache
    · exact h b loc (by rwa [Sys.step, hc] at hb)
    · obtain ⟨ticks, b', loc', st, hpc, hw⟩ := step_writes _ _ hc
      have hpend : (Pc.set ticks b' loc' st).Ok (calls t) := hpc ▸ hok t
      rw [Sys.step, hw] at hb
      rcases BucketLocationCache.get_set_eq_some hb with ⟨rfl, rfl⟩ | hb
      · exact hn t _ _ hpend.2.2
      · exact h b loc hb
  | .get _, _ => h
  | .set _ _, ha => fun b loc hb => by
    rcases BucketLocationCache.get_set_eq_some hb with ⟨rfl, rfl⟩ | hb
    · exact ha _ _ rfl
    · exact h b loc hb
  | .delete _, _ => fun b loc hb => h b loc (BucketLocationCache.get_delete_eq_some hb)

/-- In every interleaving, every location the shared cache holds for a bucket was
there at the start, was `Set` by another goroutine, or was named for that bucket, in a
region-mismatch error, to an `executeMethod` goroutine whose request names it. -/
theorem cache_locations_origin (calls : Nat → Call) (σ₀ : BucketLocationCache) (acts : List Act)
    (b loc : String) (h : (Sys.after calls σ₀ acts).cache.get b = some loc) :
    σ₀.get b = some loc ∨ Act.set b loc ∈ acts ∨ ∃ t, Named (calls t) b loc :=
  exec_inv calls (I := Sys.LocationsIn fun b loc => σ₀.get b = some loc ∨ Act.set b loc ∈ acts ∨
      ∃ t, Named (calls t) b loc)
    (fun _ a hok h ha => step_locationsIn calls hok h (fun t _ _ hn => .inr (.inr ⟨t, hn⟩)) a ha)
    acts (Sys.init calls σ₀) (init_ok calls σ₀) (fun _ _ hb => .inl hb)
    (fun _ ha _ _ hab => .inr (.inl (hab ▸ ha))) b loc h

theorem photos_relocated_by_gateway :
    (Sys.after (fun _ => photosCall) (newBucketLocationCache.set "photos" "us-east-1")
        [.run 0, .run 0, .run 0]).cache.get "photos" = some "eu-west-1" ∧
      ((newBucketLocationCache.set "photos" "us-east-1").get "photos" = some "eu-west-1" ∨
        Act.set "photos" "eu-west-1" ∈ [Act.run 0, .run 0, .run 0] ∨
        ∃ _ : Nat, Named photosCall "photos" "eu-west-1") := by
  have h : (Sys.after (fun _ => photosCall) (newBucketLocationCache.set "photos" "us-east-1")
      [.run 0, .run 0, .run 0]).cache.get "photos" = some "eu-west-1" := by decide
  exact ⟨h, cache_locations_origin _ _ _ _ _ h⟩

/-! ## Goroutines on other buckets do not interfere

A goroutine reads and writes the cache only at its own request's bucket. When no
other goroutine and no other cache call touches that bucket, the goroutine computes,
step for step, what it computes alone, and returns what `executeMethod` returns. -/

/-- `a` leaves bucket `B` to goroutine `t`: it is a step of `t`, a step of a goroutine
whose request names another bucket, a `Get`, or a `Set` or `Delete` of another bucket. -/
def Act.Spares (calls : Nat → Call) (t : Nat) (B : String) : Act → Prop
  | .run t' => t' = t ∨ (calls t').metadata.bucketName ≠ B
  | .get _ => True
  | .set b _ | .delete b => b ≠ B

/-- A goroutine's step depends on the cache only at its own bucket, and changes the
cache there alike. -/
theorem step_congr (k : Call) {σ σ' : BucketLocationCache} {pc : Pc} (h : pc.Ok k)
    (hB : σ.get k.metadata.bucketName = σ'.get k.metadata.bucketName) :
    (k.step σ pc).1 = (k.step σ' pc).1 ∧
      (k.step σ pc).2.get k.metadata.bucketName = (k.step σ' pc).2.get k.metadata.bucketName := by
  cases pc with
  | loop ticks st =>
    cases ticks with
    | nil => exact ⟨rfl, hB⟩
    | cons i ticks =>
      simp only [Call.step]
      split <;> exact ⟨rfl, hB⟩
  | get ticks b loc st miss =>
    obtain ⟨rfl, -⟩ := h.2.1.2
    simp only [Call.step, hB]
    split <;> exact ⟨rfl, hB⟩
  | set ticks b loc st => exact ⟨rfl, by simp only [Call.step, BucketLocationCache.get_set, hB]⟩
  | done o => exact ⟨rfl, hB⟩

/-- A goroutine never changes the cache at a bucket its request does not name. -/
theorem step_get_other (k : Call) (σ : BucketLocationCache) {pc : Pc} (h : pc.Ok k) {B : String}
    (hB : k.metadata.bucketName ≠ B) : (k.step σ pc).2.get B = σ.get B := by
  by_cases hc : (k.step σ pc).2 = σ
  · rw [hc]
  · obtain ⟨ticks, b, loc, st, rfl, hw⟩ := step_writes k σ hc
    obtain ⟨-, -, rfl, -⟩ := h
    rw [hw, BucketLocationCache.get_set_ne _ _ (Ne.symm hB)]

/-- From a state where the goroutine's bucket reads as in `σ`, a schedule that spares
that bucket moves the goroutine as it moves alone from `σ`. -/
theorem exec_isolated (calls : Nat → Call) (t : Nat) :
    ∀ (acts : List Act) (s : Sys) (σ : BucketLocationCache), s.Ok calls →
      s.cache.get (calls t).metadata.bucketName = σ.get (calls t).metadata.bucketName →
      (∀ a ∈ acts, a.Spares calls t (calls t).metadata.bucketName) →
      (s.exec calls acts).pcs t = ((calls t).runAlone (acts.count (.run t)) (s.pcs t) σ).1 ∧
        (s.exec calls acts).cache.get (calls t).metadata.bucketName =
          ((calls t).runAlone (acts.count (.run t)) (s.pcs t) σ).2.get (calls t).metadata.bucketName
  | [], _, _, _, hB, _ => ⟨rfl, hB⟩
  | a :: acts, s, σ, hok, hB, hsp => by
    have hrest := exec_isolated calls t acts (s.step calls a)
    have hsp' : ∀ a ∈ acts, a.Spares calls t (calls t).metadata.bucketName :=
      fun a' ha' => hsp a' (List.mem_cons_of_mem _ ha')
    have hok' := sys_step_ok calls hok a
    simp only [Sys.exec, List.foldl_cons] at hrest ⊢
    cases a with
    | run t' =>
      by_cases ht : t' = t
      · subst t'
        obtain ⟨hpc, hc⟩ := step_congr (calls t) (hok t) hB
        have h := hrest ((calls t).step σ (s.pcs t)).2 hok' hc hsp'
        rw [step_run_pcs, hpc] at h
        rwa [List.count_cons_self, Call.runAlone]
      · have hne : (calls t').metadata.bucketName ≠ (calls t).metadata.bucketName :=
          (hsp _ (List.mem_cons_self _ _)).resolve_left ht
        have h := hrest σ hok' ((step_get_other (calls t') s.cache (hok t') hne).trans hB) hsp'
        have hpc : (s.step calls (.run t')).pcs t = s.pcs t := if_neg (Ne.symm ht)
        rw [hpc] at h
        simpa [List.count_cons, Ne.symm ht] using h
    | get _ => simpa [Sys.step, List.count_cons] using hrest σ hok' hB hsp'
    | set b loc =>
      have hb : (calls t).metadata.bucketName ≠ b := Ne.symm (hsp _ (List.mem_cons_self _ _))
      have h := hrest σ hok' ((BucketLocationCache.get_set_ne _ _ hb).trans hB) hsp'
      simpa [Sys.step, List.count_cons] using h
    | delete b =>
      have hb : (calls t).metadata.bucketName ≠ b := Ne.symm (hsp _ (List.mem_cons_self _ _))
      have h := hrest σ hok' ((BucketLocationCache.get_delete_ne _ hb).trans hB) hsp'
      simpa [Sys.step, List.count_cons] using h

/-- In every interleaving that leaves its request's bucket to it, the goroutine of an
`executeMethod` call on a client whose cache is the shared one returns what
`executeMethod` returns alone once it has taken its `3n + 1` steps, and the shared
cache holds at that bucket what `executeMethod` alone leaves there. -/
theorem isolated_executeMethod (calls : Nat → Call) (σ₀ : BucketLocationCache) (acts : List Act)
    (t MaxRetry : Nat) (c : Client) (w : Nat → AttemptEnv) (md : RequestMetadata)
    (hk : calls t = Call.of MaxRetry c w md) (hc : c.bucketLocCache = some σ₀)
    (hsp : ∀ a ∈ acts, a.Spares calls t md.bucketName)
    (hn : 3 * (retryBudget MaxRetry md.contentBody).2 + 1 ≤ acts.count (.run t)) :
    (Sys.after calls σ₀ acts).pcs t = .done (executeMethod MaxRetry c w md).outcome ∧
      ∃ σ, (executeMethod MaxRetry c w md).cache = some σ ∧
        σ.get md.bucketName = (Sys.after calls σ₀ acts).cache.get md.bucketName := by
  have hB : (calls t).metadata.bucketName = md.bucketName := by rw [hk]; rfl
  obtain ⟨hpc, hcache⟩ :=
    exec_isolated calls t acts (Sys.init calls σ₀) σ₀ (init_ok calls σ₀) rfl (by rwa [hB])
  obtain ⟨h1, h2⟩ := runAlone_execLoop (calls t) (calls t).ticks ⟨(calls t).metadata, none, none⟩ σ₀
    (acts.count (.run t)) (by rw [hk]; simpa [Call.of] using hn)
  have hex : execLoop (calls t).region (calls t).isRetryable (calls t).w (calls t).ticks
      ⟨(calls t).metadata, none, none⟩ (some σ₀) = executeMethod MaxRetry c w md := by
    rw [hk, executeMethod_eq, hc]
    rfl
  rw [hex] at h1 h2
  refine ⟨hpc.trans h1, _, h2.symm, ?_⟩
  rw [← hB]
  exact hcache.symm

/-- A `photos` call and a `ListBuckets`-like call on the client whose cache knows
`photos`, and a schedule that also deletes `videos`. -/
def photosBesideList (t : Nat) : Call :=
  if t = 0 then Call.of 10 cachedClient (fun _ => accessDenied) unseekable
  else Call.of 10 cachedClient (fun _ => accessDenied) listBuckets

def besideSchedule : List Act := [.run 1, .run 0, .delete "videos", .run 1, .run 0, .run 0, .run 0]

theorem photos_isolated :
    photosBesideList 0 = Call.of 10 cachedClient (fun _ => accessDenied) unseekable ∧
      cachedClient.bucketLocCache = some (newBucketLocationCache.set "photos" "us-east-1") ∧
      (∀ a ∈ besideSchedule, a.Spares photosBesideList 0 unseekable.bucketName) ∧
      3 * (retryBudget 10 unseekable.contentBody).2 + 1 ≤ besideSchedule.count (.run 0) ∧
      (Sys.after photosBesideList (newBucketLocationCache.set "photos" "us-east-1") besideSchedule).pcs 0 =
        .done (executeMethod 10 cachedClient (fun _ => accessDenied) unseekable).outcome ∧
      ∃ σ, (executeMethod 10 cachedClient (fun _ => accessDenied) unseekable).cache = some σ ∧
        σ.get unseekable.bucketName =
          (Sys.after photosBesideList (newBucketLocationCache.set "photos" "us-east-1")
            besideSchedule).cache.get unseekable.bucketName := by
  have hsp : ∀ a ∈ besideSchedule, a.Spares photosBesideList 0 unseekable.bucketName := by
    simp [besideSchedule, Act.Spares, photosBesideList, Call.of, listBuckets, unseekable]
  exact ⟨rfl, rfl, hsp, by decide, isolated_executeMethod photosBesideList _ besideSchedule 0 10
    cachedClient _ unseekable rfl rfl hsp (by decide)⟩

/-! ## What a goroutine returns among others

Whatever the schedule, a goroutine carries from attempt to attempt, and returns, only
what one of its own attempts handed back. So the error body a goroutine returns is
replayable in every interleaving, as it is when `executeMethod` runs alone. -/

/-- `o` is what one of the attempts of `k` handed back, or the nil pair it starts with. -/
def handedBack (k : Call) (o : Outcome) : Prop :=
  o = .returned none none ∨ ∃ i ∈ k.ticks, ∃ e : Exit, e.Fits (k.w i) k.metadata o

/-- A leave that hands back what attempt `i` of `k` was answered. -/
def leaveHanded (k : Call) (i : Nat) : Leave → Prop
  | .done e o => e.Fits (k.w i) k.metadata o
  | .next e st => e.Fits (k.w i) k.metadata (.returned st.res st.err)

/-- A goroutine at `pc` holds only what its attempts handed back, and has only ticks of
its call left. -/
def Pc.Handed (k : Call) : Pc → Prop
  | .loop _ st => handedBack k (.returned st.res st.err)
  | .get _ _ _ st miss => ∃ i ∈ k.ticks, leaveHanded k i miss ∧
      Exit.regionCached.Fits (k.w i) k.metadata (.returned st.res st.err)
  | .set _ _ _ st => ∃ i ∈ k.ticks, Exit.regionCached.Fits (k.w i) k.metadata (.returned st.res st.err)
  | .done o => handedBack k o

theorem leaveHanded_of_fits {k : Call} {i : Nat} : ∀ {l : Leave}, l.Fits (k.w i) k.metadata →
    leaveHanded k i l
  | .done .., h => h.2
  | .next .., h => h.2.1

theorem after_handed {k : Call} {i : Nat} (ticks : List Nat) (hi : i ∈ k.ticks) :
    ∀ {l : Leave}, leaveHanded k i l → (Pc.after ticks l).Handed k
  | .done e _, h => .inr ⟨i, hi, e, h⟩
  | .next e _, h => .inr ⟨i, hi, e, h⟩

theorem step_handed (k : Call) (σ : BucketLocationCache) {pc : Pc} (hok : pc.Ok k)
    (h : pc.Handed k) : (k.step σ pc).1.Handed k := by
  cases pc with
  | loop ticks st =>
    cases ticks with
    | nil => exact h
    | cons i ticks =>
      have hi : i ∈ k.ticks := hok.1 (List.mem_cons_self i ticks)
      have hf := attempt_fits k.region k.isRetryable (k.w i) hok.2
      simp only [Call.step]
      cases ha : attempt k.region k.isRetryable (k.w i) st with
      | leave l =>
        rw [ha] at hf
        exact after_handed ticks hi (leaveHanded_of_fits hf)
      | lookup b loc st' miss =>
        rw [ha] at hf
        obtain ⟨hm, -, he, res, bytes, hr, hst, hc, -⟩ := hf
        exact ⟨i, hi, leaveHanded_of_fits hm, res, bytes, hr, hc, by rw [hst, he]⟩
  | get ticks b loc st miss =>
    obtain ⟨i, hi, hm, hc⟩ := h
    simp only [Call.step]
    split
    · exact ⟨i, hi, hc⟩
    · exact after_handed ticks hi hm
  | set ticks b loc st =>
    obtain ⟨i, hi, hc⟩ := h
    exact .inr ⟨i, hi, .regionCached, hc⟩
  | done o => exact h

/-- In every interleaving of `executeMethod` goroutines and other cache calls, a
goroutine that returns a response other than a success returns the buffered copy of
the error body one of its own attempts read: reading it gives every byte `ReadAll`
read, from the first, as when `executeMethod` runs alone. -/
theorem interleaved_error_body_replayed (calls : Nat → Call) (σ₀ : BucketLocationCache)
    (acts : List Act) (t : Nat) (res : Response) (err : Option GoError)
    (h : (Sys.after calls σ₀ acts).pcs t = .done (.returned (some res) err))
    (hs : res.statusCode ∉ successStatus) :
    ∃ i ∈ (calls t).ticks, ∃ orig bytes, ((calls t).w i).send = .ok (.ok orig) ∧
      orig.body.readAll = .ok bytes ∧ res = orig.buffered bytes ∧
      res.body.readAll = .ok bytes := by
  have hh := exec_inv calls (I := fun s => ∀ t, (s.pcs t).Handed (calls t)) (A := fun _ => True)
    (fun s a hok h _ => step_pcs calls h (fun t => step_handed _ _ (hok t)) a) acts
    (Sys.init calls σ₀) (init_ok calls σ₀) (fun _ => .inl rfl) (fun _ _ => trivial) t
  rw [show (Sys.init calls σ₀).exec calls acts = Sys.after calls σ₀ acts from rfl, h] at hh
  rcases hh with hh | ⟨i, hi, e, hf⟩
  · cases hh
  · obtain ⟨orig, bytes, ⟨hsend, -, hread⟩, rfl⟩ := Exit.fits_buffered hf hs
    exact ⟨i, hi, orig, bytes, hsend, hread, rfl, rfl⟩

theorem photos_error_body_replayed :
    (Sys.after (fun _ => photosCall) (newBucketLocationCache.set "photos" "us-east-1")
        [.run 0, .delete "photos", .run 0, .run 0]).pcs 0 =
        .done (.returned (some ((⟨403, .wire (.ok [])⟩ : Response).buffered [])) none) ∧
      ((⟨403, .wire (.ok [])⟩ : Response).buffered []).statusCode ∉ successStatus ∧
      ∃ i ∈ photosCall.ticks, ∃ orig bytes, (photosCall.w i).send = .ok (.ok orig) ∧
        orig.body.readAll = .ok bytes ∧
        (⟨403, .wire (.ok [])⟩ : Response).buffered [] = orig.buffered bytes ∧
        ((⟨403, .wire (.ok [])⟩ : Response).buffered []).body.readAll = .ok bytes :=
  have h : (Sys.after (fun _ => photosCall) (newBucketLocationCache.set "photos" "us-east-1")
      [.run 0, .delete "photos", .run 0, .run 0]).pcs 0 =
      .done (.returned (some ((⟨403, .wire (.ok [])⟩ : Response).buffered [])) none) := rfl
  have hs : ((⟨403, .wire (.ok [])⟩ : Response).buffered []).statusCode ∉ successStatus := by
    decide
  ⟨h, hs, interleaved_error_body_replayed _ _ _ 0 _ _ h hs⟩

/-! ## Every goroutine returns -/

/-- Steps a goroutine at `pc` can still take: three per attempt left, and the return. -/
def Pc.measure : Pc → Nat
  | .loop ticks _ => 3 * ticks.length + 1
  | .get ticks .. => 3 * ticks.length + 3
  | .set ticks .. => 3 * ticks.length + 2
  | .done _ => 0

theorem measure_eq_zero {pc : Pc} (h : pc.measure = 0) : ∃ o, pc = .done o := by
  cases pc with
  | done o => exact ⟨o, rfl⟩
  | _ => simp [Pc.measure] at h

theorem after_measure (ticks : List Nat) (l : Leave) :
    (Pc.after ticks l).measure ≤ 3 * ticks.length + 1 := by
  cases l <;> simp [Pc.after, Pc.measure]

/-- Each step of a goroutine that has not returned brings it closer to returning,
whatever the cache holds. -/
theorem step_measure (k : Call) (σ : BucketLocationCache) (pc : Pc) :
    (k.step σ pc).1.measure ≤ pc.measure - 1 := by
  cases pc with
  | loop ticks st =>
    cases ticks with
    | nil => simp [Call.step, Pc.measure]
    | cons i ticks =>
      simp only [Call.step]
      split
      · exact (after_measure ticks _).trans (by simp only [Pc.measure, List.length_cons]; omega)
      · simp only [Pc.measure, List.length_cons]
        omega
  | get ticks b loc st miss =>
    simp only [Call.step]
    split
    · simp [Pc.measure]
    · exact (after_measure ticks miss).trans (by simp only [Pc.measure]; omega)
  | set ticks b loc st => simp [Call.step, Pc.measure]
  | done o => simp [Call.step, Pc.measure]

theorem exec_measure (calls : Nat → Call) (t : Nat) :
    ∀ (acts : List Act) (s : Sys),
      ((s.exec calls acts).pcs t).measure ≤ (s.pcs t).measure - acts.count (.run t)
  | [], _ => by simp [Sys.exec]
  | a :: acts, s => by
    have ih := exec_measure calls t acts (s.step calls a)
    simp only [Sys.exec, List.foldl_cons] at ih ⊢
    have hs : ((s.step calls a).pcs t).measure ≤ (s.pcs t).measure - if a = .run t then 1 else 0 := by
      cases a with
      | run t' =>
        by_cases ht : t = t'
        · subst ht
          simpa using step_measure (calls t) s.cache (s.pcs t)
        · simp [Sys.step, ht, Ne.symm ht]
      | _ => simp [Sys.step]
    have hc : (a :: acts).count (.run t) = acts.count (.run t) + if a = .run t then 1 else 0 := by
      simp [List.count_cons]
    rw [hc]
    generalize (if a = Act.run t then 1 else 0) = d at hs ⊢
    omega

/-- In every interleaving, an `executeMethod` goroutine has returned once it has taken
three steps per tick of its retry timer, and one more, however the others move. -/
theorem returns_within (calls : Nat → Call) (σ₀ : BucketLocationCache) (acts : List Act)
    (t : Nat) (h : 3 * (calls t).ticks.length + 1 ≤ acts.count (.run t)) :
    ∃ o, (Sys.after calls σ₀ acts).pcs t = .done o := by
  apply measure_eq_zero
  have h0 := exec_measure calls t acts (Sys.init calls σ₀)
  have h1 : ((Sys.init calls σ₀).pcs t).measure = 3 * (calls t).ticks.length + 1 := rfl
  show (((Sys.init calls σ₀).exec calls acts).pcs t).measure = 0
  omega

theorem photosCall_returns :
    3 * photosCall.ticks.length + 1 ≤ [Act.run 0, .delete "photos", .run 0, .run 0, .run 0].count (.run 0) ∧
      ∃ o, (Sys.after (fun _ => photosCall) newBucketLocationCache
        [.run 0, .delete "photos", .run 0, .run 0, .run 0]).pcs 0 = .done o :=
  ⟨by decide, returns_within (fun _ => photosCall) _ _ 0 (by decide)⟩

end MefsSdk.Concurrent
