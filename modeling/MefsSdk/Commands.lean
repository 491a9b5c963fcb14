import MefsSdk.Api

/-! # The gateway commands

The commands of `api.go` (lines 727-837) and of `api-stat.go` each build one
`RequestBuilder`, send it with `Exec`, and post-process the decoded answer. The
builder's `Exec` and `Send`, the credentials provider and `s3utils` live outside
the sources; each command takes what they answer as an input, a function of the
request it is asked for.

`statObject` reads `objs.Objects[0]` without a length test: a gateway that answers
with no object makes it panic (`statObject_panics_iff`). `api-stat.go` declares
`package minio`, not `mefs`; its commands are modelled as the other commands of the
client. -/

namespace MefsSdk.Commands
open MefsSdk.Http (GoError Panic Response)

/-- A `RequestBuilder`: the command, its arguments and the options set on it. The
client it points to is the one the command runs on. -/
structure RequestBuilder where
  command : String
  args : List String
  opts : List (String × String)
  deriving DecidableEq, Repr

/-- `Request`. -/
def Request (command : String) (args : List String) : RequestBuilder := ⟨command, args, []⟩

/-- `Option`, with a string value. -/
def RequestBuilder.Option (rb : RequestBuilder) (key value : String) : RequestBuilder :=
  { rb with opts := rb.opts ++ [(key, value)] }

/-- `strings.TrimPrefix`. -/
def trimPrefix (s pre : String) : String :=
  if pre.isPrefixOf s then s.drop pre.length else s

/-! ## Peers, paths, versions and blocks -/

/-- `IdOutput`. -/
structure IdOutput where
  ID : String
  PublicKey : String
  Addresses : List String
  AgentVersion : String
  ProtocolVersion : String
  deriving DecidableEq, Repr

/-- `PeerInfo`. -/
structure PeerInfo where
  Addrs : List String
  ID : String
  deriving DecidableEq, Repr

/-- `ID`: at most one peer argument. -/
def ID (exec : RequestBuilder → Except GoError IdOutput) (peer : List String) :
    Except GoError IdOutput :=
  if peer.length > 1 then .error (.text "Too many peer arguments")
  else exec (Request "id" peer)

/-- `FindPeer`: the first of the `Responses` of `dht/findpeer`. -/
def FindPeer (exec : RequestBuilder → Except GoError (List PeerInfo)) (peer : String) :
    Except GoError PeerInfo :=
  match exec (Request "dht/findpeer" [peer]) with
  | .error err => .error err
  | .ok [] => .error (.text "peer not found")
  | .ok (p :: _) => .ok p

/-- `ResolvePath`; `exec` answers the `Path` of the decoded output. -/
def ResolvePath (exec : RequestBuilder → Except GoError String) (path : String) :
    Except GoError String :=
  match exec (Request "resolve" [path]) with
  | .error err => .error err
  | .ok out => .ok (trimPrefix out "/ipfs/")

/-- `Version`: the version and the commit. -/
def Version (exec : RequestBuilder → Except GoError (String × String)) :
    Except GoError (String × String) :=
  exec (Request "version" [])

/-- `IsUp`. -/
def IsUp (exec : RequestBuilder → Except GoError (String × String)) : Bool :=
  match Version exec with
  | .ok _ => true
  | .error _ => false

/-- `BlockStat`: the key and the size. -/
def BlockStat (exec : RequestBuilder → Except GoError (String × Int)) (path : String) :
    Except GoError (String × Int) :=
  exec (Request "block/stat" [path])

/-- What `Send` answers: the response's `Error`, and the bytes read from its `Output`. -/
structure SendResponse where
  Error : Option GoError
  Output : Except GoError (List UInt8)

/-- `BlockGet`. -/
def BlockGet (send : RequestBuilder → Except GoError SendResponse) (path : String) :
    Except GoError (List UInt8) :=
  match send (Request "block/get" [path]) with
  | .error err => .error err
  | .ok resp =>
    match resp.Error with
    | some err => .error err
    | none => resp.Output

/-! ## Buckets and objects (`api-stat.go`) -/

/-- `s3utils.CheckValidBucketName` and `CheckValidObjectName`. -/
structure S3Utils where
  CheckValidBucketName : String → Option GoError
  CheckValidObjectName : String → Option GoError

/-- The `credentials.Value` of `c.credsProvider.Get()`, by the field the commands read. -/
structure Value where
  AccessKeyID : String

/-- `BucketExists`. The `Buckets` that `Exec` decodes is not read. -/
def BucketExists (s3utils : S3Utils) (credsGet : Except GoError Value)
    (exec : RequestBuilder → Except GoError Unit) (bucketName : String) :
    Bool × Option GoError :=
  match s3utils.CheckValidBucketName bucketName with
  | some err => (false, some err)
  | none =>
    let rb := Request "lfs/head_Bucket" [bucketName]
    match credsGet with
    | .error err => (false, some err)
    | .ok creds =>
      match exec (rb.Option "address" creds.AccessKeyID) with
      | .error err => (false, some err)
      | .ok _ => (true, none)

/-- `ObjectStat`, by the fields `statObject` reads. -/
structure ObjectStat where
  ObjectName : String
  ObjectSize : Int
  MD5 : String
  Ctime : String
  deriving DecidableEq, Repr

/-- A `time.Time`, known by a number; `zero` is `time.Time{}`. -/
structure Time where
  t : Int
  deriving DecidableEq, Repr

def Time.zero : Time := ⟨0⟩

def SHOWTIME : String := "2006-01-02 Mon 15:04:05 MST"

/-- `ObjectInfo`, by its fields of plain values; the ones `statObject` does not set
keep their zero values. -/
structure ObjectInfo where
  ETag : String := ""
  Key : String := ""
  LastModified : Time := .zero
  Size : Int := 0
  ContentType : String := ""
  Expires : Time := .zero
  StorageClass : String := ""
  deriving DecidableEq, Repr

/-- `statObject`; `exec` answers the `Objects` of the decoded output, whose `Method`
is not read. `ObjectSize` is an `int32` and `Size` an `int64`, so the conversion
keeps the value; a `Ctime` that `time.Parse` rejects gives the zero time. -/
def statObject (s3utils : S3Utils) (credsGet : Except GoError Value)
    (exec : RequestBuilder → Except GoError (List ObjectStat)) (parse : String → String → Except GoError Time)
    (bucketName objectName : String) : Except Panic (Except GoError ObjectInfo) :=
  match s3utils.CheckValidBucketName bucketName, s3utils.CheckValidObjectName objectName with
  | some err, _ => .ok (.error err)
  | none, some err => .ok (.error err)
  | none, none =>
    let rb := Request "lfs/head_object" [bucketName, objectName]
    match credsGet with
    | .error err => .ok (.error err)
    | .ok creds =>
      match exec (rb.Option "address" creds.AccessKeyID) with
      | .error err => .ok (.error err)
      | .ok Objects =>
        match Objects with
        | [] => .error .indexOutOfRange
        | o :: _ =>
          let t := match parse SHOWTIME o.Ctime with
            | .ok t => t
            | .error _ => .zero
          .ok (.ok { ETag := o.MD5, Key := o.ObjectName, Size := o.ObjectSize, LastModified := t })

/-- `StatObject`: the same checks, then `statObject`, which makes them again. -/
def StatObject (s3utils : S3Utils) (credsGet : Except GoError Value)
    (exec : RequestBuilder → Except GoError (List ObjectStat)) (parse : String → String → Except GoError Time)
    (bucketName objectName : String) : Except Panic (Except GoError ObjectInfo) :=
  match s3utils.CheckValidBucketName bucketName, s3utils.CheckValidObjectName objectName with
  | some err, _ => .ok (.error err)
  | none, some err => .ok (.error err)
  | none, none => statObject s3utils credsGet exec parse bucketName objectName

end MefsSdk.Commands
