import BlindMint.Certificate.Folder
import BlindMint.Certificate.Shelf

/-!
# Where certificates are found

Certificates are held in memory or in a folder. Either way the enabled versions of a certificate can be
listed, and its newest enabled version is the certificate itself.
-/

namespace BlindMint

/-- A source of certificates (`CertificateLocator`). -/
inductive Locator where
  | shelf (s : Shelf)
  | folder (f : Folder)
  deriving DecidableEq, Repr

namespace Locator

/-- The enabled versions of a certificate (`get_all_enabled_versions`). -/
def versions (l : Locator) (id : String) : Except KeyError (List CertificateVersion) :=
  match l with
  | .shelf s => .ok (s.enabledVersions id)
  | .folder f => f.versions id

/-- The newest enabled version of a certificate (`get_certificate`). -/
def newest (l : Locator) (id : String) : Except KeyError (Option CertificateVersion) :=
  match l.versions id with
  | .error e => .error e
  | .ok versions => .ok (CertificateVersion.newest? versions)

end Locator

end BlindMint
