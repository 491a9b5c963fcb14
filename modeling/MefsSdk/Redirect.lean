import MefsSdk.Api

/-! # Re-signing a redirect

`redirectHeaders` is the redirect hook `api.go` keeps for re-signing a redirected
request (`privateNew` installs one that refuses every redirect instead). It copies
onto the new request each header of the last request that the new one lacks, but
not `Authorization` when the host changes, and it refuses to re-sign for a V2
signer. The copy loop ranges over a Go map, in no fixed order: `copyHeaders_spec`
says what it computes for every order, and `copyHeaders_perm` that all orders of
the map's keys give the same result. -/

namespace MefsSdk.Redirect
open MefsSdk.Http MefsSdk.Api

/-- A request in `via`: its host, and its headers in the order `range` visits them. -/
structure Sent where
  host : String
  header : List (String × List String)

/-- Lines 220-229: the loop over `lastRequest.Header`, writing the new request's
header and noting whether it skipped an `Authorization` for another host. -/
def copyHeaders (reqHost lastHost : String) :
    List (String × List String) → (String → Option (List String)) → Bool →
      (String → Option (List String)) × Bool
  | [], header, reAuth => (header, reAuth)
  | (attr, val) :: rest, header, reAuth =>
    if attr = "Authorization" ∧ reqHost ≠ lastHost then
      copyHeaders reqHost lastHost rest header true
    else if header attr = none then
      copyHeaders reqHost lastHost rest (fun k => if k = attr then some val else header k) reAuth
    else copyHeaders reqHost lastHost rest header reAuth

/-- Lines 237-250: the signer of the redirect, from the signer type the credentials
provider answered: the client's override, unless the credentials are anonymous. -/
def signerTypeOf (c : Client) (valueSignerType : SignatureType) : SignatureType :=
  let signerType :=
    if c.overrideSignerType ≠ .default then c.overrideSignerType else valueSignerType
  if valueSignerType = .anonymous then .anonymous else signerType

/-- `redirectHeaders`: the error it returns, and the new request's header after it.
`credsGet` is the signer type `c.credsProvider.Get()` answers, or its error;
`IsV2` is a test for `SignatureV2`. -/
def redirectHeaders (c : Client) (credsGet : Except GoError SignatureType) (reqHost : String)
    (reqHeader : String → Option (List String)) (via : List Sent) :
    Option GoError × (String → Option (List String)) :=
  if via.length ≥ 5 then (some (.text "stopped after 5 redirects"), reqHeader)
  else
    match via.getLast? with
    | none => (none, reqHeader)
    | some lastRequest =>
      let (header, reAuth) :=
        copyHeaders reqHost lastRequest.host lastRequest.header reqHeader false
      match credsGet with
      | .error err => (some err, header)
      | .ok valueSignerType =>
        if reAuth ∧ signerTypeOf c valueSignerType = .v2 then
          (some (.text "signature V2 cannot support redirection"), header)
        else (none, header)

/-- What the copy loop leaves, said without the loop: the new request keeps each
header it has, and gains the first value of each one it lacks, except an
`Authorization` for another host. -/
def merged (reqHost lastHost : String) (entries : List (String × List String))
    (header : String → Option (List String)) (k : String) : Option (List String) :=
  match header k with
  | some v => some v
  | none => if k = "Authorization" ∧ reqHost ≠ lastHost then none else entries.lookup k

theorem merged_cons_of_ne {reqHost lastHost attr k : String} (h : k ≠ attr)
    (val : List String) (rest : List (String × List String))
    (header : String → Option (List String)) :
    merged reqHost lastHost ((attr, val) :: rest) header k = merged reqHost lastHost rest header k := by
  simp only [merged, List.lookup_cons, beq_false_of_ne h]

theorem reAuth_cons {reqHost lastHost attr : String}
    (ha : ¬(attr = "Authorization" ∧ reqHost ≠ lastHost)) (val : List String)
    (rest : List (String × List String)) :
    (reqHost ≠ lastHost ∧ "Authorization" ∈ ((attr, val) :: rest).map Prod.fst) ↔
      (reqHost ≠ lastHost ∧ "Authorization" ∈ rest.map Prod.fst) := by
  simp only [List.map_cons, List.mem_cons]
  constructor
  · rintro ⟨hh, rfl | hm⟩
    · exact absurd ⟨rfl, hh⟩ ha
    · exact ⟨hh, hm⟩
  · exact fun ⟨hh, hm⟩ => ⟨hh, .inr hm⟩

theorem copyHeaders_spec (reqHost lastHost : String) :
    ∀ (entries : List (String × List String)) (header : String → Option (List String))
      (reAuth : Bool),
      (copyHeaders reqHost lastHost entries header reAuth).1 = merged reqHost lastHost entries header ∧
      ((copyHeaders reqHost lastHost entries header reAuth).2 = true ↔
        reAuth = true ∨ (reqHost ≠ lastHost ∧ "Authorization" ∈ entries.map Prod.fst))
  | [], header, reAuth => by
    refine ⟨funext fun k => ?_, by simp [copyHeaders]⟩
    cases h : header k <;> simp [copyHeaders, merged, h]
  | (attr, val) :: rest, header, reAuth => by
    simp only [copyHeaders]
    split_ifs with ha hn
    · obtain ⟨ih, ihr⟩ := copyHeaders_spec reqHost lastHost rest header true
      refine ⟨ih.trans (funext fun k => ?_), by simp [ihr, ha]⟩
      by_cases hk : k = attr
      · subst hk
        cases header k <;> simp [merged, ha]
      · exact (merged_cons_of_ne hk val rest header).symm
    · obtain ⟨ih, ihr⟩ := copyHeaders_spec reqHost lastHost rest
        (fun k => if k = attr then some val else header k) reAuth
      refine ⟨ih.trans (funext fun k => ?_), by rw [ihr, reAuth_cons ha]⟩
      by_cases hk : k = attr
      · subst hk
        simp [merged, hn, ha]
      · simp only [merged_cons_of_ne hk]
        simp [merged, hk]
    · obtain ⟨ih, ihr⟩ := copyHeaders_spec reqHost lastHost rest header reAuth
      refine ⟨ih.trans (funext fun k => ?_), by rw [ihr, reAuth_cons ha]⟩
      by_cases hk : k = attr
      · subst hk
        obtain ⟨v, hv⟩ := Option.ne_none_iff_exists'.mp hn
        simp [merged, hv]
      · exact (merged_cons_of_ne hk val rest header).symm

/-- A lookup in a list with distinct keys does not depend on the order of the list. -/
theorem lookup_perm {l l' : List (String × List String)} (hp : l.Perm l')
    (hn : (l.map Prod.fst).Nodup) (k : String) : l.lookup k = l'.lookup k := by
  induction hp with
  | nil => rfl
  | cons x _ ih =>
    obtain ⟨a, v⟩ := x
    simp only [List.map_cons, List.nodup_cons] at hn
    simp only [List.lookup_cons, ih hn.2]
  | swap x y l =>
    obtain ⟨a, v⟩ := x
    obtain ⟨b, u⟩ := y
    simp only [List.map_cons, List.nodup_cons, List.mem_cons, not_or] at hn
    simp only [List.lookup_cons]
    cases hka : (k == a) <;> cases hkb : (k == b) <;> try rfl
    exact absurd ((beq_iff_eq.mp hkb).symm.trans (beq_iff_eq.mp hka)) hn.1.1
  | trans h₁ _ ih₁ ih₂ => exact (ih₁ hn).trans (ih₂ ((h₁.map Prod.fst).nodup_iff.mp hn))

/-- The copy loop computes the same header and the same `reAuth` in every order a Go
map of the last request's headers can be visited in. -/
theorem copyHeaders_perm (reqHost lastHost : String) {entries entries' : List (String × List String)}
    (hp : entries.Perm entries') (hn : (entries.map Prod.fst).Nodup)
    (header : String → Option (List String)) (reAuth : Bool) :
    copyHeaders reqHost lastHost entries header reAuth =
      copyHeaders reqHost lastHost entries' header reAuth := by
  obtain ⟨h1, h2⟩ := copyHeaders_spec reqHost lastHost entries header reAuth
  obtain ⟨h1', h2'⟩ := copyHeaders_spec reqHost lastHost entries' header reAuth
  refine Prod.ext (h1.trans (h1'.trans (funext fun k => ?_)).symm) (Bool.eq_iff_iff.mpr ?_)
  · simp only [merged, lookup_perm hp hn k]
  · rw [h2, h2', (hp.map Prod.fst).mem_iff]

theorem copyHeaders_swapped :
    [("Authorization", ["AWS ak:sig"]), ("Date", ["Mon, 02 Jan 2006"])].Perm
        [("Date", ["Mon, 02 Jan 2006"]), ("Authorization", ["AWS ak:sig"])] ∧
      ([("Authorization", ["AWS ak:sig"]), ("Date", ["Mon, 02 Jan 2006"])].map Prod.fst).Nodup ∧
      copyHeaders "10.0.0.2:5080" "10.0.0.1:5080"
          [("Authorization", ["AWS ak:sig"]), ("Date", ["Mon, 02 Jan 2006"])] (fun _ => none) false =
        copyHeaders "10.0.0.2:5080" "10.0.0.1:5080"
          [("Date", ["Mon, 02 Jan 2006"]), ("Authorization", ["AWS ak:sig"])] (fun _ => none) false :=
  have hp : [("Authorization", ["AWS ak:sig"]), ("Date", ["Mon, 02 Jan 2006"])].Perm
      [("Date", ["Mon, 02 Jan 2006"]), ("Authorization", ["AWS ak:sig"])] := List.Perm.swap _ _ _
  ⟨hp, by decide, copyHeaders_perm "10.0.0.2:5080" "10.0.0.1:5080" hp (by decide) _ _⟩

/-- The new request's header after `redirectHeaders`: the merge with the last
request's header, when there is a last request and fewer than five. -/
theorem redirectHeaders_header (c : Client) (credsGet : Except GoError SignatureType)
    (reqHost : String) (reqHeader : String → Option (List String)) (via : List Sent) :
    (redirectHeaders c credsGet reqHost reqHeader via).2 =
      match via.getLast? with
      | some last => if via.length < 5 then merged reqHost last.host last.header reqHeader else reqHeader
      | none => reqHeader := by
  unfold redirectHeaders
  by_cases h5 : via.length ≥ 5
  · rw [if_pos h5]
    cases via.getLast? <;> simp [show ¬via.length < 5 by omega]
  · rw [if_neg h5]
    cases via.getLast? with
    | none => rfl
    | some last =>
      have hc := (copyHeaders_spec reqHost last.host last.header reqHeader false).1
      cases credsGet <;> simp [apply_ite Prod.snd, hc, show via.length < 5 by omega]

/-- Why `redirectHeaders` refuses a redirect: too many of them, the credentials
provider's own error, or a V2 signer asked to follow an `Authorization` to
another host. -/
theorem redirectHeaders_error {c : Client} {credsGet : Except GoError SignatureType}
    {reqHost : String} {reqHeader : String → Option (List String)} {via : List Sent}
    {e : GoError} (he : (redirectHeaders c credsGet reqHost reqHeader via).1 = some e) :
    (5 ≤ via.length ∧ e = .text "stopped after 5 redirects") ∨ credsGet = .error e ∨
      (e = .text "signature V2 cannot support redirection" ∧
        (∃ value, credsGet = .ok value ∧ signerTypeOf c value = .v2) ∧
        ∃ last, via.getLast? = some last ∧
          reqHost ≠ last.host ∧ "Authorization" ∈ last.header.map Prod.fst) := by
  unfold redirectHeaders at he
  by_cases h5 : via.length ≥ 5
  · rw [if_pos h5] at he
    exact .inl ⟨h5, (Option.some.inj he).symm⟩
  · rw [if_neg h5] at he
    cases hl : via.getLast? with
    | none => simp [hl] at he
    | some last =>
      have hr := (copyHeaders_spec reqHost last.host last.header reqHeader false).2
      cases credsGet with
      | error err => simp only [hl] at he; exact .inr (.inl (congrArg _ (Option.some.inj he)))
      | ok value =>
        simp only [hl, apply_ite Prod.fst] at he
        rcases ite_eq_iff.mp he with ⟨⟨hv, hs⟩, he⟩ | ⟨-, he⟩
        · exact .inr (.inr ⟨(Option.some.inj he).symm, ⟨value, rfl, hs⟩, last, rfl,
            by simpa using hr.mp hv⟩)
        · cases he

/-- A client that signs V2, and a request sent to `host` with its signature. -/
def v2Client : Client :=
  ⟨"10.0.0.1:5080", .staticV2 "ak" "sk" "", .v2, false, none, false, false, "", .auto⟩

def signedTo (host : String) : Sent :=
  ⟨host, [("Authorization", ["AWS ak:sig"]), ("Date", ["Mon, 02 Jan 2006"])]⟩

theorem v2Client_refuses_cross_host :
    (redirectHeaders v2Client (.ok .v2) "10.0.0.2:5080" (fun _ => none) [signedTo "10.0.0.1:5080"]).1 =
        some (.text "signature V2 cannot support redirection") ∧
      ((5 ≤ [signedTo "10.0.0.1:5080"].length ∧
          GoError.text "signature V2 cannot support redirection" = .text "stopped after 5 redirects") ∨
        (.ok .v2 : Except GoError SignatureType) = .error (.text "signature V2 cannot support redirection") ∨
        (GoError.text "signature V2 cannot support redirection" =
            .text "signature V2 cannot support redirection" ∧
          (∃ value, (.ok .v2 : Except GoError SignatureType) = .ok value ∧
            signerTypeOf v2Client value = .v2) ∧
          ∃ last, [signedTo "10.0.0.1:5080"].getLast? = some last ∧ "10.0.0.2:5080" ≠ last.host ∧
            "Authorization" ∈ last.header.map Prod.fst)) := by
  have h : (redirectHeaders v2Client (.ok .v2) "10.0.0.2:5080" (fun _ => none)
      [signedTo "10.0.0.1:5080"]).1 = some (.text "signature V2 cannot support redirection") := rfl
  exact ⟨h, redirectHeaders_error h⟩

/-- `redirectHeaders` never overwrites a header the new request already has. -/
theorem redirectHeaders_keeps_header (c : Client) (credsGet : Except GoError SignatureType)
    (reqHost : String) {reqHeader : String → Option (List String)} (via : List Sent)
    {k : String} {v : List String} (hk : reqHeader k = some v) :
    (redirectHeaders c credsGet reqHost reqHeader via).2 k = some v := by
  rw [redirectHeaders_header]
  cases via.getLast? with
  | none => exact hk
  | some last => split_ifs <;> simp [merged, hk]

theorem redirect_keeps_own_date :
    (fun k => if k = "Date" then some ["Tue, 03 Jan 2006"] else none : String → Option (List String))
        "Date" = some ["Tue, 03 Jan 2006"] ∧
      (redirectHeaders v2Client (.ok .v4) "10.0.0.1:5080"
        (fun k => if k = "Date" then some ["Tue, 03 Jan 2006"] else none) [signedTo "10.0.0.1:5080"]).2
        "Date" = some ["Tue, 03 Jan 2006"] :=
  ⟨rfl, @redirectHeaders_keeps_header v2Client (.ok .v4) "10.0.0.1:5080"
    (fun k => if k = "Date" then some ["Tue, 03 Jan 2006"] else none) [signedTo "10.0.0.1:5080"]
    "Date" ["Tue, 03 Jan 2006"] rfl⟩

/-- `redirectHeaders` never carries `Authorization` to another host: the new request
has the one it had, unless the last request went to the same host. -/
theorem redirectHeaders_authorization_same_host (c : Client)
    (credsGet : Except GoError SignatureType) (reqHost : String)
    (reqHeader : String → Option (List String)) (via : List Sent) :
    (redirectHeaders c credsGet reqHost reqHeader via).2 "Authorization" = reqHeader "Authorization" ∨
      ∃ last, via.getLast? = some last ∧ last.host = reqHost := by
  rw [redirectHeaders_header]
  cases via.getLast? with
  | none => exact .inl rfl
  | some last =>
    by_cases hh : reqHost = last.host
    · exact .inr ⟨last, rfl, hh.symm⟩
    · left
      split_ifs
      · cases h : reqHeader "Authorization" <;> simp [merged, h, hh]
      · rfl

end MefsSdk.Redirect
