import MefsSdk.BucketCache

/-! # The client, its constructors, and `do`

`Client` by the fields the modelled functions read or write, `privateNew` and the
constructors that call it, the settings calls (the trace switches and `SetAppInfo`,
with the `User-Agent` it makes `setUserAgent` send), and `do`, which sends one request.
`privateNew` takes a region and a bucket lookup style but stores neither, and it
never allocates the bucket location cache: every client it builds has the zero
values of those fields (`privateNew_fields`). -/

namespace MefsSdk.Api
open MefsSdk.Http MefsSdk.BucketCache

/-- `BucketLookupType`. -/
inductive BucketLookupType where
  | auto | dns | path
  deriving DecidableEq, Repr

/-- `credentials.SignatureType`. -/
inductive SignatureType where
  | default | v4 | v2 | v4Streaming | anonymous
  deriving DecidableEq, Repr

/-- A `*credentials.Credentials`: a static V2 or V4 key pair, or a provider the
caller brings, known by a number. -/
inductive Credentials where
  | staticV2 (accessKeyID secretAccessKey sessionToken : String)
  | staticV4 (accessKeyID secretAccessKey sessionToken : String)
  | provider (id : Nat)
  deriving DecidableEq, Repr

/-- `Client`. `bucketLocCache` is a pointer: `none` is nil. -/
structure Client where
  url : String
  credsProvider : Credentials
  overrideSignerType : SignatureType
  secure : Bool
  bucketLocCache : Option BucketLocationCache
  isTraceEnabled : Bool
  traceErrorsOnly : Bool
  region : String
  lookup : BucketLookupType

def DefaultPathName : String := ".mefs"
def DefaultPathRoot : String := "~/" ++ DefaultPathName
def DefaultApiFile : String := "api"
def EnvDir : String := "MEFS_PATH"

/-- The process and the libraries `privateNew` calls: `os.Getenv`, `homedir.Expand`,
`path.Join`, `os.Stat`, `ioutil.ReadFile`, `strings.TrimSpace`, and
`ma.NewMultiaddr` then `manet.DialArgs`, which give the host of an endpoint
written as a multiaddr. -/
structure Host where
  getenv : String → String
  expand : String → Except GoError String
  join : String → String → String
  stat : String → Option GoError
  readFile : String → Except GoError String
  trimSpace : String → String
  dialArgs : String → Option String

/-- Lines 276-297: the endpoint of a `local` client, read from `$MEFS_PATH/api`. -/
def localEndpoint (h : Host) : Except GoError String := do
  let baseDir := h.getenv EnvDir
  let baseDir := if baseDir = "" then DefaultPathRoot else baseDir
  let baseDir ← h.expand baseDir
  let apiFile := h.join baseDir DefaultApiFile
  if let some err := h.stat apiFile then throw err
  let api ← h.readFile apiFile
  pure (h.trimSpace api)

/-- `privateNew`. The fields it does not set keep the zero values of `new(Client)`. -/
def privateNew (h : Host) (endpoint : String) (creds : Credentials) (secure : Bool)
    (region : String) (lookup : BucketLookupType) : Except GoError Client := do
  let endpoint ← if region = "local" then localEndpoint h else pure endpoint
  let endpoint := (h.dialArgs endpoint).getD endpoint
  pure { url := endpoint, credsProvider := creds, secure := secure,
         overrideSignerType := .default, bucketLocCache := none,
         isTraceEnabled := false, traceErrorsOnly := false, region := "", lookup := .auto }

def NewV2 (h : Host) (endpoint accessKeyID secretAccessKey : String) (secure : Bool) :
    Except GoError Client := do
  let clnt ← privateNew h endpoint (.staticV2 accessKeyID secretAccessKey "") secure "" .auto
  pure { clnt with overrideSignerType := .v2 }

def NewV4 (h : Host) (endpoint accessKeyID secretAccessKey : String) (secure : Bool) :
    Except GoError Client := do
  let clnt ← privateNew h endpoint (.staticV4 accessKeyID secretAccessKey "") secure "" .auto
  pure { clnt with overrideSignerType := .v4 }

def New (h : Host) (endpoint accessKeyID secretAccessKey : String) (secure : Bool) :
    Except GoError Client :=
  privateNew h endpoint (.staticV4 accessKeyID secretAccessKey "") secure "" .auto

def NewWithRegion (h : Host) (endpoint accessKeyID secretAccessKey : String) (secure : Bool)
    (region : String) : Except GoError Client :=
  privateNew h endpoint (.staticV4 accessKeyID secretAccessKey "") secure region .auto

/-- Every client `privateNew` builds: only the endpoint depends on the host. -/
theorem privateNew_ok {h : Host} {endpoint : String} {creds : Credentials} {secure : Bool}
    {region : String} {lookup : BucketLookupType} {c : Client}
    (hc : privateNew h endpoint creds secure region lookup = .ok c) :
    ∃ url, c = ⟨url, creds, .default, secure, none, false, false, "", .auto⟩ := by
  unfold privateNew at hc
  split at hc
  · cases hl : localEndpoint h <;> simp only [hl] at hc <;> cases hc
    exact ⟨_, rfl⟩
  · cases hc; exact ⟨_, rfl⟩

/-- A host with no `MEFS_PATH`, on which endpoints are not multiaddrs. -/
def plainHost : Host :=
  ⟨fun _ => "", .ok, fun a b => a ++ "/" ++ b, fun _ => none,
    fun _ => .error (.text "no such file"), String.trim, fun _ => none⟩

/-- `TraceOn`; the output stream is not modelled. -/
def Client.TraceOn (c : Client) : Client := { c with isTraceEnabled := true }

def Client.TraceErrorsOnlyOn (c : Client) : Client := { c.TraceOn with traceErrorsOnly := true }

def Client.TraceErrorsOnlyOff (c : Client) : Client := { c with traceErrorsOnly := false }

def Client.TraceOff (c : Client) : Client :=
  { c with isTraceEnabled := false, traceErrorsOnly := false }

/-! ## Settings calls

The setters change a client between requests, in any order. Whatever calls a caller
makes, errors-only tracing is on only while tracing is (`settings_errorsOnly_traced`),
and the user agent names the application of the last `SetAppInfo` that was given
both a name and a version (`setUserAgent_last`). -/

/-- `appInfo`, which only `setUserAgent` reads. -/
structure AppInfo where
  appName : String
  appVersion : String
  deriving DecidableEq, Repr

/-- `SetAppInfo`: both fields or neither. -/
def AppInfo.SetAppInfo (a : AppInfo) (appName appVersion : String) : AppInfo :=
  if appName ≠ "" ∧ appVersion ≠ "" then ⟨appName, appVersion⟩ else a

/-- The `User-Agent` that `setUserAgent` sets. `libraryUserAgent` is the constant of
line 121, which names the platform the program runs on. -/
def setUserAgent (libraryUserAgent : String) (a : AppInfo) : String :=
  if a.appName ≠ "" ∧ a.appVersion ≠ "" then
    libraryUserAgent ++ " " ++ a.appName ++ "/" ++ a.appVersion
  else libraryUserAgent

/-- A settings call. -/
inductive Setting where
  | TraceOn | TraceErrorsOnlyOn | TraceErrorsOnlyOff | TraceOff
  | SetAppInfo (appName appVersion : String)

/-- A client and its `appInfo` after a settings call. -/
def Setting.apply : Client × AppInfo → Setting → Client × AppInfo
  | (c, a), .TraceOn => (c.TraceOn, a)
  | (c, a), .TraceErrorsOnlyOn => (c.TraceErrorsOnlyOn, a)
  | (c, a), .TraceErrorsOnlyOff => (c.TraceErrorsOnlyOff, a)
  | (c, a), .TraceOff => (c.TraceOff, a)
  | (c, a), .SetAppInfo n v => (c, a.SetAppInfo n v)

/-- The application a sequence of settings calls leaves named: that of its last
`SetAppInfo` with a name and a version, if any. -/
def lastAppInfo : List Setting → Option AppInfo
  | [] => none
  | .SetAppInfo n v :: calls =>
    (lastAppInfo calls).orElse fun _ => if n ≠ "" ∧ v ≠ "" then some ⟨n, v⟩ else none
  | _ :: calls => lastAppInfo calls

theorem foldl_setAppInfo : ∀ (calls : List Setting) (ca : Client × AppInfo),
    (calls.foldl Setting.apply ca).2 = (lastAppInfo calls).getD ca.2
  | [], _ => rfl
  | .SetAppInfo n v :: calls, (c, a) => by
    rw [List.foldl_cons, Setting.apply, foldl_setAppInfo calls]
    simp only [lastAppInfo, AppInfo.SetAppInfo]
    cases lastAppInfo calls <;> split_ifs <;> rfl
  | .TraceOn :: calls, (c, a) | .TraceErrorsOnlyOn :: calls, (c, a)
  | .TraceErrorsOnlyOff :: calls, (c, a) | .TraceOff :: calls, (c, a) =>
    foldl_setAppInfo calls _

/-- The application `lastAppInfo` names has a name and a version. -/
theorem lastAppInfo_named : ∀ {calls : List Setting} {a : AppInfo}, lastAppInfo calls = some a →
    a.appName ≠ "" ∧ a.appVersion ≠ ""
  | [], _, h => by cases h
  | .SetAppInfo n v :: calls, a, h => by
    simp only [lastAppInfo] at h
    cases hl : lastAppInfo calls with
    | some a' =>
      rw [hl] at h
      cases h
      exact lastAppInfo_named hl
    | none =>
      rw [hl] at h
      simp only [Option.orElse] at h
      split_ifs at h with hnv
      cases h
      exact hnv
  | .TraceOn :: calls, _, h | .TraceErrorsOnlyOn :: calls, _, h
  | .TraceErrorsOnlyOff :: calls, _, h | .TraceOff :: calls, _, h => @lastAppInfo_named calls _ h

/-- Whatever settings calls are made on a client, the `User-Agent` is the library's
own until a `SetAppInfo` is given both a name and a version, and from then on names
the application of the last such call: no call clears it. -/
theorem setUserAgent_last (libraryUserAgent : String) (c : Client) (calls : List Setting) :
    setUserAgent libraryUserAgent (calls.foldl Setting.apply (c, ⟨"", ""⟩)).2 =
      match lastAppInfo calls with
      | some a => libraryUserAgent ++ " " ++ a.appName ++ "/" ++ a.appVersion
      | none => libraryUserAgent := by
  rw [foldl_setAppInfo]
  match hl : lastAppInfo calls with
  | none => simp [setUserAgent]
  | some a => simp [setUserAgent, lastAppInfo_named hl]

/-- Errors-only tracing is on only while tracing is. -/
def Client.TraceOk (c : Client) : Prop := c.traceErrorsOnly = true → c.isTraceEnabled = true

theorem Setting.apply_traceOk : ∀ {ca : Client × AppInfo}, ca.1.TraceOk →
    ∀ call : Setting, (Setting.apply ca call).1.TraceOk
  | (_, _), _, .TraceOn => fun _ => rfl
  | (_, _), _, .TraceErrorsOnlyOn => fun _ => rfl
  | (_, _), _, .TraceErrorsOnlyOff => nofun
  | (_, _), _, .TraceOff => nofun
  | (_, _), hc, .SetAppInfo _ _ => hc

theorem foldl_traceOk : ∀ (calls : List Setting) (ca : Client × AppInfo), ca.1.TraceOk →
    (calls.foldl Setting.apply ca).1.TraceOk
  | [], _, hc => hc
  | call :: calls, _, hc => foldl_traceOk calls _ (Setting.apply_traceOk hc call)

/-- `NewV2` and `NewV4` return a client `privateNew` built, with its signer overridden. -/
theorem privateNew_of_override {h : Host} {endpoint : String} {creds : Credentials} {secure : Bool}
    {signer : SignatureType} {c : Client}
    (hc : (do let clnt ← privateNew h endpoint creds secure "" .auto
              pure { clnt with overrideSignerType := signer } : Except GoError Client) = .ok c) :
    ∃ c', privateNew h endpoint creds secure "" .auto = .ok c' ∧
      c = { c' with overrideSignerType := signer } := by
  cases hp : privateNew h endpoint creds secure "" .auto with
  | error err => simp [hp] at hc
  | ok c' =>
    simp only [hp] at hc
    exact ⟨c', rfl, (Except.ok.inj hc).symm⟩

/-- What every constructor leaves unset: no region, a nil cache, and no tracing.
`New`, `NewWithCredentials`, `NewWithRegion` and `NewWithOptions` return what
`privateNew` returns; `NewV2` and `NewV4` override its signer. -/
theorem constructor_fields (accessKeyID secretAccessKey : String) {h : Host} {endpoint : String}
    {creds : Credentials} {secure : Bool} {region : String} {lookup : BucketLookupType} {c : Client}
    (hc : privateNew h endpoint creds secure region lookup = .ok c ∨
      NewV2 h endpoint accessKeyID secretAccessKey secure = .ok c ∨
      NewV4 h endpoint accessKeyID secretAccessKey secure = .ok c) :
    c.region = "" ∧ c.bucketLocCache = none ∧ c.isTraceEnabled = false ∧ c.traceErrorsOnly = false := by
  rcases hc with hc | hc | hc
  · obtain ⟨url, rfl⟩ := privateNew_ok hc
    exact ⟨rfl, rfl, rfl, rfl⟩
  all_goals
    obtain ⟨c', hp, rfl⟩ := privateNew_of_override hc
    obtain ⟨url, rfl⟩ := privateNew_ok hp
    exact ⟨rfl, rfl, rfl, rfl⟩

/-- Whatever settings calls follow a constructor, errors-only tracing is never on
while tracing is off. -/
theorem settings_errorsOnly_traced (accessKeyID secretAccessKey : String) {h : Host}
    {endpoint : String} {creds : Credentials} {secure : Bool} {region : String}
    {lookup : BucketLookupType} {c : Client}
    (hc : privateNew h endpoint creds secure region lookup = .ok c ∨
      NewV2 h endpoint accessKeyID secretAccessKey secure = .ok c ∨
      NewV4 h endpoint accessKeyID secretAccessKey secure = .ok c) (a : AppInfo)
    (calls : List Setting) :
    (calls.foldl Setting.apply (c, a)).1.traceErrorsOnly = true →
      (calls.foldl Setting.apply (c, a)).1.isTraceEnabled = true :=
  foldl_traceOk calls (c, a) fun he =>
    absurd he (by rw [(constructor_fields accessKeyID secretAccessKey hc).2.2.2]; exact nofun)

theorem errorsOnly_traced_after_off :
    (privateNew plainHost "127.0.0.1:6711" (.staticV4 "ak" "sk" "") false "" .auto =
        .ok ⟨"127.0.0.1:6711", .staticV4 "ak" "sk" "", .default, false, none, false, false, "", .auto⟩ ∨
      NewV2 plainHost "127.0.0.1:6711" "ak" "sk" false =
        .ok ⟨"127.0.0.1:6711", .staticV4 "ak" "sk" "", .default, false, none, false, false, "", .auto⟩ ∨
      NewV4 plainHost "127.0.0.1:6711" "ak" "sk" false =
        .ok ⟨"127.0.0.1:6711", .staticV4 "ak" "sk" "", .default, false, none, false, false, "", .auto⟩) ∧
      ([Setting.TraceErrorsOnlyOn, .TraceOff, .TraceErrorsOnlyOn].foldl Setting.apply
          (⟨"127.0.0.1:6711", .staticV4 "ak" "sk" "", .default, false, none, false, false, "", .auto⟩,
            ⟨"", ""⟩)).1.traceErrorsOnly = true ∧
      ([Setting.TraceErrorsOnlyOn, .TraceOff, .TraceErrorsOnlyOn].foldl Setting.apply
          (⟨"127.0.0.1:6711", .staticV4 "ak" "sk" "", .default, false, none, false, false, "", .auto⟩,
            ⟨"", ""⟩)).1.isTraceEnabled = true :=
  have hc : privateNew plainHost "127.0.0.1:6711" (.staticV4 "ak" "sk" "") false "" .auto =
        .ok ⟨"127.0.0.1:6711", .staticV4 "ak" "sk" "", .default, false, none, false, false, "", .auto⟩ ∨
      NewV2 plainHost "127.0.0.1:6711" "ak" "sk" false =
        .ok ⟨"127.0.0.1:6711", .staticV4 "ak" "sk" "", .default, false, none, false, false, "", .auto⟩ ∨
      NewV4 plainHost "127.0.0.1:6711" "ak" "sk" false =
        .ok ⟨"127.0.0.1:6711", .staticV4 "ak" "sk" "", .default, false, none, false, false, "", .auto⟩ :=
    .inl rfl
  ⟨hc, rfl, settings_errorsOnly_traced "ak" "sk" hc _ _ rfl⟩

/-- What the transport answers one request: `c.httpClient.Do(req)`, and the error
of `c.dumpHTTP(req, resp)` when the client traces it. -/
structure Transport where
  roundTrip : Except GoError (Option Response)
  dump : Option GoError

section
variable (reportIssue : String)

/-- `do`: `reportIssue` is a constant of `utils.go`, which is not among the sources. -/
def Client.«do» (c : Client) (t : Transport) : Except GoError Response :=
  match t.roundTrip with
  | .error (.url op url inner) =>
    if List.IsInfix "EOF".toList inner.toList then
      .error (.url op url ("Connection closed by foreign host " ++ url ++ ". Retry again."))
    else .error (.url op url inner)
  | .error err => .error err
  | .ok none => .error (.invalidArgument ("Response is empty. " ++ reportIssue))
  | .ok (some resp) =>
    if c.isTraceEnabled && !(c.traceErrorsOnly && resp.statusCode == 200) then
      match t.dump with
      | some err => .error err
      | none => .ok resp
    else .ok resp

end

end MefsSdk.Api
