import BlindMint.Cache
import BlindMint.Certificate.Locator
import BlindMint.Counters
import BlindMint.Credential
import BlindMint.KeyPair
import BlindMint.Store

/-!
# What changes while the service runs

The world holds both clocks, the certificates, the two tables of records, the two caches, the counters,
and how often the outside collaborators were asked. It also holds the faults under which the outside
works at the moment: each store operation and the certificate source may fail, and the ledger's lookup
may miss rows that are there. Every operation of the service takes the world and yields it changed.

Results:
* the operations on records leave their table as it is when they fail
  (`World.saveIssue_error`, `World.saveVerification_error`).
-/

namespace BlindMint

/-- The faults of the outside; an operation without one works. -/
structure Faults where
  issueSave : Option StoreError := none
  issueFind : Option StoreError := none
  issueDelete : Option StoreError := none
  verificationSave : Option StoreError := none
  verificationFind : Option StoreError := none
  verificationDelete : Option StoreError := none
  health : Option StoreError := none
  /-- Whether the lookup of issue records finds nothing. -/
  issueBlind : Bool := false
  /-- What every lookup of certificates fails with. -/
  locator : Option KeyError := none
  deriving DecidableEq, Repr

/-- How often the outside collaborators were asked. -/
structure Activity where
  /-- Lookups of a certificate's newest version. -/
  certificateLookups : Nat := 0
  /-- Listings of a certificate's versions. -/
  versionListings : Nat := 0
  identityChecks : Nat := 0
  /-- Calls of the expander. -/
  expansions : Nat := 0
  /-- Calls of the signing primitive. -/
  primitiveCalls : Nat := 0
  deriving DecidableEq, Repr

/-- What changes while the service runs. -/
structure World where
  /-- The business clock. -/
  now : Instant
  /-- The timer, in milliseconds. -/
  timer : Nat := 0
  locator : Locator
  faults : Faults := {}
  issues : IssueTable := {}
  verifications : VerificationTable := {}
  keyPairs : Cache KeyPair := {}
  snapshots : Cache Snapshot := {}
  counters : Counters := {}
  activity : Activity := {}
  deriving DecidableEq, Repr

namespace World

/-- Add to a counter. -/
def count (w : World) (counter : Counter) (amount : Nat) : World :=
  { w with counters := w.counters.add counter amount }

/-- Whether the record store works (`health_check`). -/
def checkHealth (w : World) : Except StoreError Unit :=
  match w.faults.health with
  | some e => .error e
  | none => .ok ()

/-! ## Certificates -/

/-- Look up a certificate's newest enabled version (`get_certificate`). -/
def lookUpCertificate (w : World) (id : String) : Except KeyError (Option CertificateVersion) × World :=
  let asked := { w with activity.certificateLookups := w.activity.certificateLookups + 1 }
  match w.faults.locator with
  | some e => (.error e, asked)
  | none => (w.locator.newest id, asked)

/-- List a certificate's enabled versions (`get_all_enabled_versions`). -/
def listVersions (w : World) (id : String) : Except KeyError (List CertificateVersion) × World :=
  let asked := { w with activity.versionListings := w.activity.versionListings + 1 }
  match w.faults.locator with
  | some e => (.error e, asked)
  | none => (w.locator.versions id, asked)

/-! ## Issue records -/

/-- The issue records of a session (`find_by_session_token_id`). -/
def findIssues (w : World) (session : String) : Except StoreError (List IssueRecord) :=
  match w.faults.issueFind with
  | some e => .error e
  | none => .ok (if w.faults.issueBlind then [] else w.issues.find session)

/-- Save an issue record (`save`). -/
def saveIssue (w : World) (record : IssueRecord) : Except StoreError Unit × World :=
  match w.faults.issueSave with
  | some e => (.error e, w)
  | none =>
    match w.issues.save record with
    | .error e => (.error e, w)
    | .ok table => (.ok (), { w with issues := table })

/-- Delete the issue records whose expiry is reached, and count them (`delete_expired`). -/
def purgeIssues (w : World) (now : Instant) : Except StoreError Nat × World :=
  match w.faults.issueDelete with
  | some e => (.error e, w)
  | none =>
    let (deleted, table) := w.issues.deleteExpired now
    (.ok deleted, { w with issues := table })

/-! ## Verification records -/

/-- The verification records of a pseudonym from a cutoff on (`find_for_identity`). -/
def findVerifications (w : World) (pseudonym : String) (cutoff : Instant) :
    Except StoreError (List VerificationRecord) :=
  match w.faults.verificationFind with
  | some e => .error e
  | none => .ok (w.verifications.find pseudonym cutoff)

/-- Save a verification record (`save`). -/
def saveVerification (w : World) (record : VerificationRecord) : Except StoreError Unit × World :=
  match w.faults.verificationSave with
  | some e => (.error e, w)
  | none => (.ok (), { w with verifications := w.verifications.save record })

/-- Delete the verification records older than a cutoff, and count them (`delete_expired`). -/
def purgeVerificationsBefore (w : World) (cutoff : Instant) : Except StoreError Nat × World :=
  match w.faults.verificationDelete with
  | some e => (.error e, w)
  | none =>
    let (deleted, table) := w.verifications.deleteExpired cutoff
    (.ok deleted, { w with verifications := table })

theorem saveIssue_error {w v : World} {record : IssueRecord} {e : StoreError}
    (h : w.saveIssue record = (.error e, v)) : v = w := by
  unfold saveIssue at h
  split at h
  · exact (Prod.mk.inj h).2.symm
  · split at h
    · exact (Prod.mk.inj h).2.symm
    · simp at h

theorem saveVerification_error {w v : World} {record : VerificationRecord} {e : StoreError}
    (h : w.saveVerification record = (.error e, v)) : v = w := by
  unfold saveVerification at h
  split at h
  · exact (Prod.mk.inj h).2.symm
  · simp at h

end World

end BlindMint
