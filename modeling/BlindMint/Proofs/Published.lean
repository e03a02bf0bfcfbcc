import BlindMint.Proofs.Ledger.Request
import BlindMint.Proofs.RoundTrip.KeySet

/-!
# The published documents hold the keys in use

Two endpoints publish keys: one those that check anonymous tokens, the other those that check session tokens.
Whoever reads the body of such an answer finds the keys that the service itself checks with at that
instant, in their order and with nothing added or lost on the way through base64 and JSON.

## Results

* `ValidationKey.publicKey?_toJwk`, `CredentialKey.publicKey?_toJwk`: the record of a key holds the key.
* `Service.published_of_get`: what a successful answer of such an endpoint holds.
* **`published_keys_read_back`**: the keys in the answers of both endpoints.
-/

namespace BlindMint

/-! ## Records of keys -/

theorem ValidationKey.publicKey?_toJwk (key : ValidationKey) :
    key.toJwk.publicKey? Base64.standard = some (.curve key.curve key.point) :=
  Jwk.publicKey?_ofPoint Base64.Dialect.standard_invertible key.kid key.curve key.point

namespace CredentialKey

theorem toJwk_algorithm (key : CredentialKey) :
    key.toJwk.alg.bind (Algorithm.names.lookup ·) = some key.algorithm :=
  Algorithm.lookup_name key.algorithm

theorem publicKey?_toJwk (key : CredentialKey) :
    key.toJwk.publicKey? Base64.urlSafe = some key.key := by
  obtain ⟨-, -, kid, publicKey⟩ := key
  cases publicKey with
  | curve curve point => exact Jwk.publicKey?_ofPoint Base64.Dialect.urlSafe_invertible kid curve point
  | rsa rsa => exact Jwk.publicKey?_ofRsa Base64.Dialect.urlSafe_invertible kid rsa

theorem toJwk_onlyOwn (key : CredentialKey) : key.toJwk.OnlyOwn := by
  obtain ⟨-, -, kid, publicKey⟩ := key
  cases publicKey with
  | curve curve point => exact Jwk.ofPoint_onlyOwn kid curve point
  | rsa rsa => exact Jwk.ofRsa_onlyOwn kid _ _

end CredentialKey

/-! ## Key sets of stores -/

theorem KeyStore.keySet_ok {k : KeyStore} {w : World} {set : KeySet} (h : (k.keySet w).1 = .ok set) :
    ∃ keys, (k.validationKeys w).1 = .ok keys ∧ set.keys = keys.map ValidationKey.toJwk := by
  unfold keySet at h
  split at h
  · cases h
  · next keys _ heq =>
    obtain rfl := Except.ok.inj h
    exact ⟨keys, congrArg Prod.fst heq, rfl⟩

theorem CredentialStore.keySet_ok {s : CredentialSettings} {w : World} {set : KeySet}
    (h : (keySet s w).1 = .ok set) :
    ∃ keys, (validationKeys s w).1 = .ok keys ∧ set.keys = keys.map CredentialKey.toJwk := by
  unfold keySet at h
  split at h
  · cases h
  · next keys _ heq =>
    obtain rfl := Except.ok.inj h
    exact ⟨keys, congrArg Prod.fst heq, rfl⟩

namespace Http

variable {s : Service} {r : Request} {w : World} {answer : Response}

namespace Service

/-- A published key set, if the answer is a success. -/
theorem body_of_publish {text : String} {keys : Except (Failure KeyError) KeySet × World}
    (h : Response.ofReply (publish text keys).1 = some answer) (hstatus : answer.status = 200) :
    ∃ set, keys.1 = .ok set ∧ answer.body = some set.render := by
  obtain ⟨result, v⟩ := keys
  cases result with
  | ok set =>
    obtain rfl := Option.some.inj h
    exact ⟨set, rfl, rfl⟩
  | error failure =>
    cases failure with
    | overflow => cases h
    | failed e =>
      obtain rfl := Option.some.inj h
      have : (500 : Nat) = 200 := hstatus
      omega

/-- An endpoint that is only read answers a request that reads it. -/
theorem respond_of_get {e : Endpoint} (hpath : Endpoint.paths.lookup r.path = some e)
    (hread : e.isRead = true) (hget : r.method = "GET") : s.respond r w = s.answer e r w := by
  have hmethods : e.methods.contains r.method = true := by
    unfold Endpoint.methods
    rw [hget, if_pos hread]
    decide
  unfold respond
  rw [hpath]
  dsimp only
  rw [if_pos hmethods, if_neg (by rw [hget]; decide)]

/-- A successful answer to a request for the keys of anonymous tokens holds their key set. -/
theorem body_of_anonymousKeys (hget : r.method = "GET") (hpath : r.path = "/v1/anonymous-tokens/keys")
    (h : (s.respond r w).1 = some answer) (hstatus : answer.status = 200) :
    ∃ set, (s.keys.keySet w).1 = .ok set ∧ answer.body = some set.render := by
  rw [respond_of_get (e := .anonymousKeys) (by rw [hpath]; decide) rfl hget] at h
  exact body_of_publish h hstatus

/-- A successful answer to a request for the keys of session tokens holds their key set. -/
theorem body_of_sessionKeys (hget : r.method = "GET") (hpath : r.path = "/.well-known/jwks.json")
    (h : (s.respond r w).1 = some answer) (hstatus : answer.status = 200) :
    ∃ set, (CredentialStore.keySet s.credentials w).1 = .ok set ∧ answer.body = some set.render := by
  rw [respond_of_get (e := .sessionKeys) (by rw [hpath]; decide) rfl hget] at h
  exact body_of_publish h hstatus

end Service

/-- **Published documents are read back as the keys in use.** Every key set is what is read from its text. A
successful answer to a request for the keys of anonymous tokens is read as the keys that are accepted, and one
to a request for the keys of session tokens as the keys that check them, each with its algorithm and with no
members but those of its type; both in order. -/
theorem published_keys_read_back :
    (∀ set : KeySet, KeySet.parse set.render = .ok set) ∧
    ∀ (s : Service) (r : Request) (w : World) (answer : Response), r.method = "GET" →
      (s.respond r w).1 = some answer → answer.status = 200 →
      (r.path = "/v1/anonymous-tokens/keys" →
        ∃ keys body set, (s.keys.validationKeys w).1 = .ok keys ∧ answer.body = some body ∧
          KeySet.parse body = .ok set ∧
          set.keys.map (fun jwk => (jwk.kid, jwk.publicKey? Base64.standard)) =
            keys.map fun key => (key.kid, some (.curve key.curve key.point))) ∧
      (r.path = "/.well-known/jwks.json" →
        ∃ keys body set, (CredentialStore.validationKeys s.credentials w).1 = .ok keys ∧
          answer.body = some body ∧ KeySet.parse body = .ok set ∧
          set.keys.map (fun jwk =>
              (jwk.kid, jwk.alg.bind (Algorithm.names.lookup ·), jwk.publicKey? Base64.urlSafe)) =
            keys.map (fun key => (key.kid, some key.algorithm, some key.key)) ∧
          ∀ jwk ∈ set.keys, jwk.OnlyOwn) := by
  refine ⟨KeySet.parse_render, fun s r w answer hget h hstatus => ⟨fun hpath => ?_, fun hpath => ?_⟩⟩
  · obtain ⟨set, hset, hbody⟩ := Service.body_of_anonymousKeys hget hpath h hstatus
    obtain ⟨keys, hkeys, hrecords⟩ := KeyStore.keySet_ok hset
    refine ⟨keys, _, set, hkeys, hbody, set.parse_render, ?_⟩
    rw [hrecords, List.map_map]
    refine List.map_congr_left fun key _ => ?_
    exact Prod.ext rfl key.publicKey?_toJwk
  · obtain ⟨set, hset, hbody⟩ := Service.body_of_sessionKeys hget hpath h hstatus
    obtain ⟨keys, hkeys, hrecords⟩ := CredentialStore.keySet_ok hset
    refine ⟨keys, _, set, hkeys, hbody, set.parse_render, ?_, ?_⟩
    · rw [hrecords, List.map_map]
      refine List.map_congr_left fun key _ => ?_
      exact Prod.ext key.toJwk_kid (Prod.ext key.toJwk_algorithm key.publicKey?_toJwk)
    · rw [hrecords]
      intro jwk hjwk
      obtain ⟨key, -, rfl⟩ := List.mem_map.mp hjwk
      exact key.toJwk_onlyOwn

namespace Sample

/-- An RSA key that only checks. -/
def legacy : CertificateVersion := ⟨"legacy", "v1", 0, .rsa ⟨⟨3233, 17⟩, none⟩⟩

/-- A service that checks session tokens with the RSA key too. -/
def publisher : Service := { credentials := { additionalIds := ["legacy"] } }

/-- The certificates of that service, two and a third days after the epoch. -/
def library : World :=
  let shelf : Shelf := {}
  { now := 201600,
    locator := .shelf (((shelf.insert (certificate "signing") true).insert (certificate "master") true).insert
      legacy true) }

/-- The requests that read the two endpoints. -/
def readAnonymous : Request := { target := "/v1/anonymous-tokens/keys" }

def readSession : Request := { target := "/.well-known/jwks.json" }

set_option maxRecDepth 100000 in
/-- Both are answered; there are keys of two intervals, and keys of both types. -/
theorem read_answers :
    (publisher.respond readAnonymous library).1.map Response.status = some 200 ∧
      (publisher.respond readSession library).1.map Response.status = some 200 ∧
      (publisher.keys.validationKeys library).1.toOption.map (·.map ValidationKey.kid) =
        some ["0", "1"] ∧
      (CredentialStore.validationKeys publisher.credentials library).1.toOption.map
        (·.map CredentialKey.key) = some [.curve .p256 point, .rsa ⟨3233, 17⟩] := by
  decide +kernel

end Sample

/-- The bodies of two answers: the keys of two intervals, and a key of each type. -/
theorem published_keys_read_back_sample :
    ∃ anonymous session : Response,
      (Sample.publisher.respond Sample.readAnonymous Sample.library).1 = some anonymous ∧
      (Sample.publisher.respond Sample.readSession Sample.library).1 = some session ∧
      anonymous.status = 200 ∧ session.status = 200 ∧
      (∃ body set, anonymous.body = some body ∧ KeySet.parse body = .ok set ∧
        set.keys.map Jwk.kid = ["0", "1"]) ∧
      ∃ body set, session.body = some body ∧ KeySet.parse body = .ok set ∧
        set.keys.map (·.publicKey? Base64.urlSafe) =
          [some (.curve .p256 Sample.point), some (.rsa ⟨3233, 17⟩)] := by
  obtain ⟨hanonymous, hsession, hkids, hpublic⟩ := Sample.read_answers
  obtain ⟨anonymous, hanswer, hstatus⟩ := Option.map_eq_some_iff.mp hanonymous
  obtain ⟨session, hanswer', hstatus'⟩ := Option.map_eq_some_iff.mp hsession
  have hread := published_keys_read_back.2 Sample.publisher
  obtain ⟨keys, body, set, hkeys, hbody, hparse, hsame⟩ :=
    (hread Sample.readAnonymous Sample.library anonymous rfl hanswer hstatus).1 (by decide)
  obtain ⟨keys', body', set', hkeys', hbody', hparse', hsame', -⟩ :=
    (hread Sample.readSession Sample.library session rfl hanswer' hstatus').2 (by decide)
  refine ⟨anonymous, session, hanswer, hanswer', hstatus, hstatus', ⟨body, set, hbody, hparse, ?_⟩,
    body', set', hbody', hparse', ?_⟩
  · have hfirst := congrArg (List.map Prod.fst) hsame
    rw [List.map_map, List.map_map] at hfirst
    rw [hkeys] at hkids
    exact hfirst.trans (Option.some.inj hkids)
  · have hlast := congrArg (List.map fun entry => entry.2.2) hsame'
    rw [List.map_map, List.map_map] at hlast
    rw [hkeys'] at hpublic
    have hsome := congrArg (List.map some) (Option.some.inj hpublic)
    rw [List.map_map] at hsome
    exact hlast.trans hsome

end Http

end BlindMint
