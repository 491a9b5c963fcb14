import Mathlib.Data.List.Infix

/-! # Go values the client hands around

The errors, panics, contexts, requests and responses `api.go` passes between its
functions, and the `bytes.Reader` it buffers an error body in. Library code is
modelled only as far as the client relies on it: `(*http.Request).WithContext`,
and the reads and seeks of `bytes.Reader`. -/

namespace MefsSdk.Http

/-- A decoded gateway error (`ErrorResponse`), by the fields the client reads. -/
structure ErrorResponse where
  code : String
  region : String
  deriving DecidableEq, Repr

/-- A Go `error`. A `*url.Error` keeps its operation, its URL and the text of the
error it wraps; `response` is an `ErrorResponse` returned as an error, and
`invalidArgument` is `ErrInvalidArgument(message)`; any other error is known by
its text. -/
inductive GoError where
  | text (msg : String)
  | url (op url err : String)
  | response (e : ErrorResponse)
  | invalidArgument (message : String)
  deriving DecidableEq, Repr

/-- Why a goroutine panics. -/
inductive Panic where
  | nilDereference
  | nilContext
  | indexOutOfRange
  deriving DecidableEq, Repr

/-- A non-nil `context.Context`; the model tells contexts apart by a number. -/
structure Context where
  id : Nat
  deriving DecidableEq, Repr

/-- An `*http.Request`. The client never fills one in, so only its context is kept. -/
structure Request where
  ctx : Context
  deriving DecidableEq, Repr

/-- A `bytes.Reader`: the bytes it reads and the index of the next one. -/
structure BytesReader where
  s : List UInt8
  i : Nat
  deriving DecidableEq, Repr

/-- `bytes.NewReader(b)`. -/
def BytesReader.new (b : List UInt8) : BytesReader := ⟨b, 0⟩

/-- What reading the reader until `io.EOF` yields. -/
def BytesReader.rest (r : BytesReader) : List UInt8 := r.s.drop r.i

/-- The reader after `k` bytes of `Read` calls: each copies what is left, up to its buffer. -/
def BytesReader.skip (r : BytesReader) (k : Nat) : BytesReader :=
  { r with i := min (r.i + k) r.s.length }

/-- `r.Seek(offset, whence)`: the new position, or the error for a bad whence or a
negative position, in which case the index is left as it was. -/
def BytesReader.seek (r : BytesReader) (offset : Int) (whence : Nat) :
    Except GoError (Int × BytesReader) :=
  let abs : Option Int := match whence with
    | 0 => some offset
    | 1 => some (r.i + offset)
    | 2 => some (r.s.length + offset)
    | _ => none
  match abs with
  | none => .error (.text "bytes.Reader.Seek: invalid whence")
  | some a => if a < 0 then .error (.text "bytes.Reader.Seek: negative position")
    else .ok (a, { r with i := a.toNat })

@[simp] theorem seek_start (r : BytesReader) : r.seek 0 0 = .ok (0, { r with i := 0 }) := rfl

@[simp] theorem rest_new (b : List UInt8) : (BytesReader.new b).rest = b := rfl

@[simp] theorem skip_s (r : BytesReader) (k : Nat) : (r.skip k).s = r.s := rfl

/-- `Except` values are equal when their constructors and payloads are; `decide`
compares outcomes of the model with it. -/
instance instDecidableEqExcept {ε α : Type} [DecidableEq ε] [DecidableEq α] :
    DecidableEq (Except ε α)
  | .error a, .error b => decidable_of_iff (a = b) ⟨congrArg _, Except.error.inj⟩
  | .ok a, .ok b => decidable_of_iff (a = b) ⟨congrArg _, Except.ok.inj⟩
  | .error _, .ok _ => isFalse nofun
  | .ok _, .error _ => isFalse nofun

/-- A response body: as the transport delivered it, known by what `ioutil.ReadAll`
returns on it, or the client's buffered copy `ioutil.NopCloser(bytes.NewReader(..))`. -/
inductive Body where
  | wire (readAll : Except GoError (List UInt8))
  | buffered (r : BytesReader)
  deriving DecidableEq, Repr

/-- `ioutil.ReadAll(body)`. -/
def Body.readAll : Body → Except GoError (List UInt8)
  | .wire r => r
  | .buffered r => .ok r.rest

/-- An `*http.Response`, by the fields the client reads. -/
structure Response where
  statusCode : Int
  body : Body
  deriving DecidableEq, Repr

/-- The response with its body replaced by a reader over `bytes`, at the start. -/
def Response.buffered (r : Response) (bytes : List UInt8) : Response :=
  { r with body := .buffered (.new bytes) }

/-- How a call that returns `(*http.Response, error)` ends: it returns, or it panics. -/
inductive Outcome where
  | returned (res : Option Response) (err : Option GoError)
  | panicked (p : Panic)
  deriving DecidableEq, Repr

/-- `successStatus`: `http.StatusOK`, `http.StatusNoContent`, `http.StatusPartialContent`. -/
def successStatus : List Int := [200, 204, 206]

end MefsSdk.Http
