import MefsSdk.Http

/-! # The bucket location cache

`bucketLocationCache` maps a bucket name to its region. Its `RWMutex` makes each
of `Get`, `Set` and `Delete` one atomic step, and that is how the model calls
them; nothing makes two calls atomic together. `processBucketLocationResponse`
turns a `GetBucketLocation` answer into the region to cache. -/

namespace MefsSdk.BucketCache
open MefsSdk.Http

/-- `bucketLocationCache`: the `items` map, as a function into `Option`. -/
structure BucketLocationCache where
  items : String → Option String

/-- `newBucketLocationCache()`. -/
def newBucketLocationCache : BucketLocationCache := ⟨fun _ => none⟩

/-- `Get`: the location, when the bucket has one (`ok`). -/
def BucketLocationCache.get (r : BucketLocationCache) (bucketName : String) : Option String :=
  r.items bucketName

/-- `Set`. -/
def BucketLocationCache.set (r : BucketLocationCache) (bucketName location : String) :
    BucketLocationCache :=
  ⟨fun k => if k = bucketName then some location else r.items k⟩

/-- `Delete`. -/
def BucketLocationCache.delete (r : BucketLocationCache) (bucketName : String) :
    BucketLocationCache :=
  ⟨fun k => if k = bucketName then none else r.items k⟩

namespace BucketLocationCache

@[ext] theorem ext {r q : BucketLocationCache} (h : ∀ b, r.get b = q.get b) : r = q := by
  cases r; cases q; congr; funext b; exact h b

@[simp] theorem get_new (b : String) : newBucketLocationCache.get b = none := rfl

@[simp] theorem get_set_self (r : BucketLocationCache) (b l : String) :
    (r.set b l).get b = some l := if_pos rfl

@[simp] theorem get_set_ne (r : BucketLocationCache) {b b' : String} (l : String) (h : b' ≠ b) :
    (r.set b l).get b' = r.get b' := if_neg h

@[simp] theorem get_delete_self (r : BucketLocationCache) (b : String) :
    (r.delete b).get b = none := if_pos rfl

@[simp] theorem get_delete_ne (r : BucketLocationCache) {b b' : String} (h : b' ≠ b) :
    (r.delete b).get b' = r.get b' := if_neg h

theorem get_set (r : BucketLocationCache) (b l b' : String) :
    (r.set b l).get b' = if b' = b then some l else r.get b' := rfl

/-- `Set` adds no bucket but its own. -/
theorem mem_of_get_set {r : BucketLocationCache} {b l b' : String} (h : (r.set b l).get b' ≠ none) :
    b' = b ∨ r.get b' ≠ none := by
  by_cases hb : b' = b
  · exact .inl hb
  · exact .inr (by rwa [get_set_ne r l hb] at h)

/-- `Delete` adds no bucket. -/
theorem mem_of_get_delete {r : BucketLocationCache} {b b' : String} (h : (r.delete b).get b' ≠ none) :
    r.get b' ≠ none := by
  by_cases hb : b' = b
  · subst hb
    simp at h
  · rwa [get_delete_ne r hb] at h

/-- `Set` removes no bucket. -/
theorem get_set_ne_none {r : BucketLocationCache} {b : String} (b' l : String) (h : r.get b ≠ none) :
    (r.set b' l).get b ≠ none := by
  by_cases hb : b = b'
  · rw [hb, get_set_self]
    exact Option.some_ne_none l
  · rwa [get_set_ne r l hb]

/-- A location read after a `Set` is the one set, or was there before. -/
theorem get_set_eq_some {r : BucketLocationCache} {b l b' l' : String}
    (h : (r.set b l).get b' = some l') : (b' = b ∧ l' = l) ∨ r.get b' = some l' := by
  by_cases hb : b' = b
  · subst hb
    exact .inl ⟨rfl, (Option.some.inj ((get_set_self r b' l).symm.trans h)).symm⟩
  · exact .inr (by rwa [get_set_ne r l hb] at h)

/-- A location read after a `Delete` was there before. -/
theorem get_delete_eq_some {r : BucketLocationCache} {b b' l : String}
    (h : (r.delete b).get b' = some l) : r.get b' = some l := by
  by_cases hb : b' = b
  · subst hb
    simp at h
  · rwa [get_delete_ne r hb] at h

/-- Of two `Set`s of one bucket, the later wins. -/
theorem set_set (r : BucketLocationCache) (b l l' : String) : (r.set b l).set b l' = r.set b l' := by
  ext b'
  by_cases h : b' = b <;> simp [h]

end BucketLocationCache

/-- The error codes that name a region mismatch, the `case`s that fall through to
one another in `processBucketLocationResponse` and `executeMethod`. -/
def regionErrorCodes : List String := ["AuthorizationHeaderMalformed", "InvalidRegion", "AccessDenied"]

/-- The decoders of `api-error-response.go` and `utils.go`, which are not among the
sources: taken as given. -/
structure Decoders where
  httpRespToErrorResponse : Response → String → String → GoError
  toErrorResponse : GoError → ErrorResponse
  xmlDecoder : Body → Except GoError String

/-- Lines 91-111: the `LocationConstraint` of a `200` answer, with its defaults. -/
def locationOf (d : Decoders) (body : Body) : Except GoError String :=
  match d.xmlDecoder body with
  | .error err => .error err
  | .ok locationConstraint =>
    if locationConstraint = "" then .ok "us-east-1"
    else if locationConstraint = "EU" then .ok "eu-west-1"
    else .ok locationConstraint

/-- `processBucketLocationResponse`. The `resp != nil` test guards only the error
branch: a nil response reaches `xmlDecoder(resp.Body, ..)`. -/
def processBucketLocationResponse (d : Decoders) (resp : Option Response) (bucketName : String) :
    Except Panic (Except GoError String) :=
  match resp with
  | none => .error .nilDereference
  | some r =>
    if r.statusCode ≠ 200 then
      let err := d.httpRespToErrorResponse r bucketName ""
      let errResp := d.toErrorResponse err
      if errResp.code ∈ regionErrorCodes then
        .ok (.ok (if errResp.region = "" then "us-east-1" else errResp.region))
      else .ok (.error err)
    else .ok (locationOf d r.body)

end MefsSdk.BucketCache
