import BlindMint.World

/-!
# The credentials in use

What signs and what checks is read from the certificates at one time, as one snapshot, and kept for a
while. Reading lists the signing certificate first, chooses the active version, and then lists the
certificates that only check; the first failure ends it and nothing is kept.
-/

namespace BlindMint

namespace CredentialStore

/-- The name of the cache in its counter. -/
def cacheName : String := "signing_credential"

/-- The cache key of a certificate. -/
def cacheKey (s : CredentialSettings) : String :=
  "credentials:" ++ s.certificateId

/-- The enabled versions of several certificates, one after the other. -/
def listAll : List String → World → Except KeyError (List CertificateVersion) × World
  | [], w => (.ok [], w)
  | id :: ids, w =>
    match w.listVersions id with
    | (.error e, w) => (.error e, w)
    | (.ok versions, w) =>
      match listAll ids w with
      | (.error e, w) => (.error e, w)
      | (.ok more, w) => (.ok (versions ++ more), w)

/-- Read a snapshot from the certificates (`load_snapshot`). -/
def load (s : CredentialSettings) (w : World) : Except KeyError Snapshot × World :=
  match w.listVersions s.certificateId with
  | (.error e, w) => (.error e, w)
  | (.ok primary, w) =>
    match Credential.active s.certificateId primary w.now s.keyRollover with
    | .error e => (.error e, w)
    | .ok active =>
      match listAll s.additionalIds w with
      | (.error e, w) => (.error e, w)
      | (.ok additional, w) => (.ok ⟨active, collectKeys (newestFirst primary ++ additional)⟩, w)

/-- Serve the kept snapshot, or drop an old one. -/
def begin (s : CredentialSettings) (w : World) : Option Snapshot × World :=
  let (served, cache) := w.snapshots.begin (cacheKey s) w.timer
  (served, { w with snapshots := cache })

/-- Keep a snapshot that has been read. -/
def keep (s : CredentialSettings) (snapshot : Snapshot) (w : World) :
    Except (Failure KeyError) Snapshot × World :=
  match w.snapshots.finish (cacheKey s) snapshot w.timer (s.cacheTtl.toNat * 1000) with
  | none => (.error .overflow, w)
  | some cache =>
    (.ok snapshot, ({ w with snapshots := cache } : World).count (.cacheFills cacheName) 1)

/-- Read a snapshot and keep it. -/
def fill (s : CredentialSettings) (w : World) : Except (Failure KeyError) Snapshot × World :=
  match load s w with
  | (.error e, w) => (.error (.failed e), w)
  | (.ok snapshot, w) => keep s snapshot w

/-- The snapshot in use, from the cache or read anew. -/
def snapshot (s : CredentialSettings) (w : World) : Except (Failure KeyError) Snapshot × World :=
  match begin s w with
  | (some snapshot, w) => (.ok snapshot, w)
  | (none, w) => fill s w

/-- The credential that signs (`active_credential`). -/
def activeCredential (s : CredentialSettings) (w : World) :
    Except (Failure KeyError) Credential × World :=
  match snapshot s w with
  | (.error e, w) => (.error e, w)
  | (.ok snapshot, w) => (.ok snapshot.active, w)

/-- The keys that check (`validation_keys`). -/
def validationKeys (s : CredentialSettings) (w : World) :
    Except (Failure KeyError) (List CredentialKey) × World :=
  match snapshot s w with
  | (.error e, w) => (.error e, w)
  | (.ok snapshot, w) => (.ok snapshot.keys, w)

/-- The document in which the keys that check are published (`jwks`). -/
def keySet (s : CredentialSettings) (w : World) : Except (Failure KeyError) KeySet × World :=
  match validationKeys s w with
  | (.error e, w) => (.error e, w)
  | (.ok keys, w) => (.ok ⟨keys.map CredentialKey.toJwk⟩, w)

end CredentialStore

end BlindMint
