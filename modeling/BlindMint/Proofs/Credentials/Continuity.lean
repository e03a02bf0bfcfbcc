import BlindMint.Proofs.Credentials.Run
import BlindMint.Proofs.Ledger.Request
import BlindMint.Proofs.RoundTrip.Token

/-!
# How long a token is good

A token that was minted with the key of a version is verified as long as the version stays enabled, whatever
happens to other versions: the key that checks it is in every snapshot that is read, under a thumbprint that is
its own, and the claims that were signed are the claims that are read back. What ends it is its expiry.

The version has to be enabled from the time at which the snapshot was read that the token was minted from. By
`Bounded` this is any time at which no earlier snapshot is served any more.

## Results

* `Keeps.holds`: what is read while a version is enabled holds its key, and no other one of its thumbprint.
* `Readable.exists_readSnapshot`: a snapshot can be read while a version with a private key is enabled.
* **`minted_verifies`**: a minted token yields its claims until its expiry and is rejected as expired after it.
-/

namespace BlindMint.CredentialStore

open Session

/-- A version is enabled for signing, and no two public keys on the shelf have the same thumbprint. -/
def Keeps (s : CredentialSettings) (v : CertificateVersion) (w : World) : Prop :=
  ∃ shelf, w.locator = .shelf shelf ∧ v ∈ shelf.enabledVersions s.certificateId ∧
    ∀ a ∈ shelf.slots, ∀ b ∈ shelf.slots, ∀ kid, a.content.key.thumbprint = .ok kid →
      b.content.key.thumbprint = .ok kid → publicKey? a.content.key = publicKey? b.content.key

/-- A snapshot can be read and kept: the certificates can be reached, every private key on the shelf can be
encoded for signing, and the timer is in range. -/
structure Readable (s : CredentialSettings) (w : World) : Prop where
  encodable : ∃ shelf, w.locator = .shelf shelf ∧
    ∀ slot ∈ shelf.slots, slot.content.key.hasPrivate = true →
      ∃ key, signingKey slot.content = .ok key
  reachable : w.faults.locator = none
  timer : w.timer + keptFor s < Cache.horizon

/-- A snapshot checks a thumbprint with one public key. -/
def Holds (kid : String) (pub : PublicKey) (snap : Snapshot) : Prop :=
  ∃ key, snap.keys.filter (·.kid == kid) = [key] ∧ key.key = pub

variable {s : CredentialSettings} {v : CertificateVersion} {c : Credential} {pub : PublicKey}
  {w : World} {snap : Snapshot}

/-! ## What is read -/

theorem Keeps.source {u : World} (h : Keeps s v w) (hs : SameSource w u) : Keeps s v u := by
  obtain ⟨shelf, hshelf, hkeeps⟩ := h
  exact ⟨shelf, hs.locator.trans hshelf, hkeeps⟩

theorem exists_slot_of_mem_enabledVersions {shelf : Shelf} {id : String}
    (h : v ∈ shelf.enabledVersions id) : ∃ slot ∈ shelf.slots, slot.content = v := by
  obtain ⟨slot, hslot, hv⟩ := List.mem_map.mp h
  exact ⟨slot, (List.mem_filter.mp hslot).1, hv⟩

/-- **What is read while a version is enabled holds its key.** -/
theorem Keeps.holds (h : Keeps s v w) {kid : String} (hkid : v.key.thumbprint = .ok kid)
    (hpub : publicKey? v.key = some pub) (hread : w.readSnapshot s = .ok snap) :
    Holds kid pub snap := by
  obtain ⟨shelf, hshelf, hv, hdistinct⟩ := h
  rw [World.readSnapshot_of_shelf s hshelf] at hread
  split at hread
  · cases hread
  · obtain ⟨-, hkeys⟩ := Shelf.snapshot_ok hread
    have hpublished : v ∈ shelf.published s :=
      Shelf.mem_published.mpr ⟨s.certificateId, List.mem_cons_self, hv⟩
    obtain ⟨key, hkey, rfl⟩ := exists_mem_collectKeys hpublished hkid
    refine ⟨key, hkeys ▸ filter_eq_singleton (collectKeys_nodup _) hkey, ?_⟩
    -- The key may be of another version with this thumbprint; its public key is the same.
    obtain ⟨u, hu, hof⟩ := exists_of_mem_collectKeys hkey
    obtain ⟨hukid, hupub⟩ := CredentialKey.of_ofVersion? hof
    obtain ⟨id, -, hu⟩ := Shelf.mem_published.mp hu
    obtain ⟨a, ha, rfl⟩ := exists_slot_of_mem_enabledVersions hu
    obtain ⟨b, hb, rfl⟩ := exists_slot_of_mem_enabledVersions hv
    have hsame := hdistinct a ha b hb key.kid hukid hkid
    rw [hupub, hpub] at hsame
    exact Option.some.inj hsame

theorem hasPrivate_of_signingKey {key : SigningKey} (h : signingKey v = .ok key) :
    v.key.hasPrivate = true := by
  unfold signingKey at h
  cases hkey : v.key with
  | curve key =>
    rw [hkey] at h
    dsimp only at h
    show key.scalar.isSome = true
    cases hscalar : key.scalar with
    | none =>
      rw [hscalar] at h
      cases h
    | some scalar => rfl
  | rsa key =>
    rw [hkey] at h
    dsimp only at h
    show key.secret.isSome = true
    cases hsecret : key.secret with
    | none =>
      have hnone : key.private? = none := by
        unfold RsaKey.private?
        rw [hsecret]
        rfl
      rw [hnone] at h
      cases h
    | some secret => rfl
  | unsupported algorithm =>
    rw [hkey] at h
    cases h

theorem signingKey_of_ofVersion (h : Credential.ofVersion v = .ok c) : signingKey v = .ok c.key := by
  unfold Credential.ofVersion at h
  split at h
  · cases h
  · next hkey =>
    split at h
    · cases h
    · obtain rfl := Except.ok.inj h
      exact hkey

/-- A version whose key can be encoded for signing has a credential. -/
theorem exists_ofVersion {key : SigningKey} (h : signingKey v = .ok key) :
    ∃ c, Credential.ofVersion v = .ok c := by
  unfold Credential.ofVersion
  rw [h]
  have hprivate := hasPrivate_of_signingKey h
  cases hkey : v.key with
  | curve key => exact ⟨_, rfl⟩
  | rsa key => exact ⟨_, rfl⟩
  | unsupported algorithm =>
    rw [hkey] at hprivate
    cases hprivate

theorem select_isSome {versions : List CertificateVersion} (hv : v ∈ versions)
    (hprivate : v.key.hasPrivate = true) (now : Instant) (rollover : Duration) :
    ∃ u, select versions now rollover = some u := by
  have hmem : v ∈ versions.filter (·.key.hasPrivate) := List.mem_filter.mpr ⟨hv, hprivate⟩
  obtain ⟨head, rest, hcons⟩ := List.exists_cons_of_ne_nil (List.ne_nil_of_mem hmem)
  unfold select
  dsimp only
  rw [hcons]
  cases (head :: rest).find? (·.isSettled now rollover) with
  | some u => exact ⟨u, rfl⟩
  | none => exact ⟨head, rfl⟩

/-- **A snapshot can be read while a version with a private key is enabled.** -/
theorem Readable.exists_readSnapshot (hr : Readable s w) (h : Keeps s v w)
    (hc : Credential.ofVersion v = .ok c) : ∃ snap, w.readSnapshot s = .ok snap := by
  obtain ⟨shelf, hshelf, hv, -⟩ := h
  obtain ⟨_, hshelf', hencodable⟩ := hr.encodable
  obtain rfl := Locator.shelf.inj (hshelf.symm.trans hshelf')
  have hprivate := hasPrivate_of_signingKey (signingKey_of_ofVersion hc)
  obtain ⟨u, hselect⟩ := select_isSome (mem_newestFirst.mpr hv) hprivate w.now s.keyRollover
  obtain ⟨hu, huprivate⟩ := select_mem hselect
  obtain ⟨slot, hslot, rfl⟩ := exists_slot_of_mem_enabledVersions (mem_newestFirst.mp hu)
  obtain ⟨key, hkey⟩ := hencodable slot hslot huprivate
  obtain ⟨active, hactive⟩ := exists_ofVersion hkey
  have hnonempty : (shelf.enabledVersions s.certificateId).isEmpty = false := by
    rw [List.isEmpty_eq_false_iff]
    exact List.ne_nil_of_mem hv
  rw [World.readSnapshot_of_shelf s hshelf, hr.reachable]
  unfold Shelf.snapshot Credential.active
  simp only [hnonempty, hselect, hactive]
  exact ⟨_, rfl⟩

/-! ## What is verified -/

/-- A snapshot is served while a version is enabled, and it holds the version's key. -/
theorem Readable.exists_snapshot (hr : Readable s w) (h : Keeps s v w)
    (hc : Credential.ofVersion v = .ok c) {limit : Nat} {C : Snapshot → Prop}
    (hbounded : Bounded s limit C w) (hread : ∀ snap, w.readSnapshot s = .ok snap → C snap)
    (hlate : limit ≤ w.timer) : ∃ snap, (snapshot s w).1 = .ok snap ∧ C snap := by
  have hserved : ∀ snap, (snapshotIn s 0 w).1 = .ok snap → C snap :=
    fun snap => hbounded.served hread hlate
  rw [← snapshotIn_zero]
  rcases snapshotIn_cases s 0 w with ⟨snap, _, -, -, hcall⟩ | ⟨-, _, e, hfail, -⟩ |
    ⟨-, _, _, -, hlarge, -⟩ | ⟨-, _, snap, -, hcall, -⟩
  · rw [hcall] at hserved ⊢
    exact ⟨snap, rfl, hserved snap rfl⟩
  · obtain ⟨snap, hsnap⟩ := hr.exists_readSnapshot h hc
    rw [hfail] at hsnap
    cases hsnap
  · exact absurd hr.timer (Nat.not_lt.mpr hlarge)
  · rw [hcall] at hserved ⊢
    exact ⟨snap, rfl, hserved snap rfl⟩

theorem algorithm_publicKey? {key : SigningKey} (hkey : signingKey v = .ok key)
    (hpub : publicKey? v.key = some pub) : pub.algorithm = key.algorithm := by
  unfold signingKey at hkey
  split at hkey
  · next heq =>
    rw [heq] at hpub
    obtain rfl := Option.some.inj hpub
    split at hkey
    · split at hkey
      · obtain rfl := Except.ok.inj hkey
        rfl
      · cases hkey
    · cases hkey
  · next heq =>
    rw [heq] at hpub
    obtain rfl := Option.some.inj hpub
    split at hkey
    · split at hkey
      · split at hkey
        · obtain rfl := Except.ok.inj hkey
          rfl
        · cases hkey
      · obtain rfl := Except.ok.inj hkey
        rfl
    · cases hkey
  · cases hkey

/-- By the keys of a snapshot that holds the signer's key, a token yields its claims until its expiry. -/
theorem acceptedClaims_sign {scheme : Scheme} {claims : SessionClaims} {token : String}
    (hsign : sign scheme c claims = .ok token) (haccepts : scheme.Accepts c.key pub)
    (halgorithm : pub.algorithm = c.algorithm) (hholds : Holds c.kid pub snap)
    {expected : Expectation} (hissuer : claims.iss = expected.issuer)
    (haudience : claims.aud = expected.audience) (hexp : 0 ≤ claims.exp) (now : Instant) :
    acceptedClaims scheme expected token ⟨c.algorithm, some c.kid⟩ snap.keys now =
      if isExpired claims expected.leeway now then .error (.tokenRejected "session token expired")
      else .ok claims := by
  obtain ⟨key, hkeys, rfl⟩ := hholds
  have hcandidates : candidates ⟨c.algorithm, some c.kid⟩ snap.keys = [key] := hkeys
  have hchecked : checkClaims expected claims = .ok claims := by
    unfold checkClaims
    rw [if_neg (Int64.not_lt.mpr hexp), if_neg (fun h => h hissuer), if_neg (fun h => h haudience)]
  unfold acceptedClaims
  rw [hcandidates]
  unfold firstAccepted
  rw [decode_sign hsign halgorithm haccepts, hchecked]

/-- **A minted token is good until its expiry, as long as the version that signed it stays enabled.** Let
versions be inserted and disabled, snapshots be read anew or not, calls fail or be given up, and clocks move.
Let `v` have been enabled since a time `loaded` at which there was no snapshot to serve, such as the time at
which the snapshot was read that the token was minted from. A token that was minted with the key of `v` is then
verified at every later time at which `v` is still enabled and the certificates can be read: it yields exactly
the claims that were minted, or is rejected as expired if its expiry and the leeway are over. -/
theorem minted_verifies {scheme : Scheme} {minting : Minting} {expected : Expectation}
    {subject jti : String} {loaded w w' : World} {minted : Minted}
    (hc : Credential.ofVersion v = .ok c) (hpub : publicKey? v.key = some pub)
    (haccepts : scheme.Accepts c.key pub)
    (hissuer : expected.issuer = minting.issuer) (haudience : expected.audience = minting.audience)
    (hloaded : Expired s loaded) (hkeeps : Keeps s v loaded)
    (hbefore : Relation.ReflTransGen (StepWithin s (Keeps s v)) loaded w)
    (hactive : (activeCredential s w).1 = .ok c)
    (hmint : (mint scheme s minting subject jti w).1 = .ok minted)
    (hexp : 0 ≤ (minting.claims subject jti w.now).exp)
    (hafter : Relation.ReflTransGen (StepWithin s (Keeps s v))
      (mint scheme s minting subject jti w).2 w')
    (hreadable : Readable s w') :
    (verify scheme s expected minted.token w').1 =
      if (minting.claims subject jti w.now).exp.later expected.leeway.wrapped < w'.now then
        .error (.failed (.tokenRejected "session token expired"))
      else .ok (minting.claims subject jti w.now) := by
  have hkid := thumbprint_of_ofVersion hc
  have hread : ∀ u snap, Keeps s v u → u.readSnapshot s = .ok snap → Holds c.kid pub snap :=
    fun u snap hu => hu.holds hkid hpub
  -- From `loaded` on every snapshot that is still served holds the key of `v`.
  have hstart : Bounded s loaded.timer (Holds c.kid pub) loaded := fun entry h => .inl (hloaded entry h)
  obtain ⟨hw, hkeepsw, -⟩ := hstart.run hkeeps hread hbefore
  have hstep : Step s w (mint scheme s minting subject jti w).2 := .mint ..
  have hkeepsm : Keeps s v (mint scheme s minting subject jti w).2 := by
    rw [mint_snd]
    exact hkeepsw.source (snapshot_sameSource s w)
  have hrun := (hbefore.tail ⟨hstep, hkeepsm⟩).trans hafter
  obtain ⟨hw', hkeeps', hlate⟩ := hstart.run hkeeps hread hrun
  obtain ⟨snap, hsnap, hholds⟩ :=
    hreadable.exists_snapshot hkeeps' hc hw' (fun snap => hread w' snap hkeeps') hlate
  -- The token was signed with `c`, so its header names the thumbprint of `v`.
  have hsigned : sign scheme c (minting.claims subject jti w.now) = .ok minted.token := by
    obtain ⟨served, hserved, hsign⟩ := mint_ok hmint
    rw [activeCredential_fst, hserved] at hactive
    obtain rfl : served.active = c := Except.ok.inj hactive
    exact hsign
  have halgorithm := algorithm_publicKey? (signingKey_of_ofVersion hc) hpub
  rw [verify_fst (readHeader_sign hsigned), hsnap]
  dsimp only [Except.bind]
  rw [acceptedClaims_sign hsigned haccepts halgorithm hholds hissuer.symm haudience.symm hexp]
  unfold isExpired
  by_cases hexpired : (minting.claims subject jti w.now).exp.later expected.leeway.wrapped < w'.now
  · rw [decide_eq_true hexpired, if_pos rfl, if_pos hexpired]
    rfl
  · rw [decide_eq_false hexpired, if_neg Bool.false_ne_true, if_neg hexpired]
    rfl

namespace Sample

/-- The credential of the old version. -/
def oldCredential : Credential := ⟨"signing", "v1", oldKid, .curve .p256 Http.Sample.scalar⟩

theorem old_ofVersion : Credential.ofVersion old = .ok oldCredential := by
  unfold Credential.ofVersion
  rw [old_thumbprint]
  rfl

/-- The public key of the old version. -/
def oldPublic : PublicKey := .curve .p256 Http.Sample.point

/-- A scheme that also accepts, under one public key, what it signs itself with one private key. -/
def trusting (base : Scheme) (key : SigningKey) (pub : PublicKey) : Scheme where
  sign := base.sign
  checks other message signature :=
    base.checks other message signature ||
      other == pub && (base.sign key message).toOption == some signature

theorem trusting_accepts (base : Scheme) (key : SigningKey) (pub : PublicKey) :
    (trusting base key pub).Accepts key pub := by
  intro message signature hsign
  have hsigned : base.sign key message = .ok signature := hsign
  simp [trusting, hsigned, Except.toOption]

/-- The scheme in use, which trusts the old version's key. -/
def scheme : Scheme := trusting .standard oldCredential.key oldPublic

/-- No snapshot has been read yet. -/
def fresh : World := { now := 0, locator := .shelf shelf }

/-- A token is minted, and then the successor is there. -/
def succeeded : World :=
  { (mint scheme settings {} "user" "j" fresh).2 with
    locator := .shelf (shelf.insert next true) }

/-- More than a day later, by which time the token is about to expire. -/
def expiring : World := { succeeded.pass 86400001 with now := 3660 }

theorem keeps_of_slots {w : World} {slots : List Shelf.Slot} (hw : w.locator = .shelf ⟨slots⟩)
    (hold : old ∈ Shelf.enabledVersions ⟨slots⟩ "signing")
    (hslots : ∀ slot ∈ slots, slot.content = old ∨ slot.content = next) : Keeps settings old w := by
  have hsame : ∀ {x y : CertificateVersion} {kid : String}, x = old ∨ x = next → y = old ∨ y = next →
      x.key.thumbprint = .ok kid → y.key.thumbprint = .ok kid → x = y := by
    rintro x y kid (rfl | rfl) (rfl | rfl) hx hy
    · rfl
    · rw [old_thumbprint] at hx
      rw [next_thumbprint] at hy
      exact absurd ((Except.ok.inj hx).trans (Except.ok.inj hy).symm) (by decide)
    · rw [next_thumbprint] at hx
      rw [old_thumbprint] at hy
      exact absurd ((Except.ok.inj hx).trans (Except.ok.inj hy).symm) (by decide)
    · rfl
  refine ⟨⟨slots⟩, hw, hold, fun a ha b hb kid hkida hkidb => ?_⟩
  rw [hsame (hslots a ha) (hslots b hb) hkida hkidb]

theorem fresh_keeps : Keeps settings old fresh :=
  have hslots : fresh.locator = .shelf ⟨[⟨old, true⟩]⟩ := rfl
  keeps_of_slots hslots (by decide +kernel) (by simp)

theorem both_keeps {w : World} (hw : w.locator = .shelf (shelf.insert next true)) :
    Keeps settings old w := by
  have hslots : shelf.insert next true = ⟨[⟨old, true⟩, ⟨next, true⟩]⟩ := by decide +kernel
  rw [hslots] at hw
  exact keeps_of_slots hw (by decide +kernel) (by simp)

theorem succeeded_source : SameSource fresh (mint scheme settings {} "user" "j" fresh).2 := by
  rw [mint_snd]
  exact snapshot_sameSource settings fresh

theorem readable_later {w : World} (hfaults : w.faults.locator = none) (htimer : w.timer = 0) :
    Readable settings
      { ({ w with locator := .shelf (shelf.insert next true) } : World).pass 86400001 with
        now := 3660 } := by
  have hslots : shelf.insert next true = ⟨[⟨old, true⟩, ⟨next, true⟩]⟩ := by decide +kernel
  refine ⟨⟨⟨[⟨old, true⟩, ⟨next, true⟩]⟩, congrArg Locator.shelf hslots, ?_⟩, hfaults, ?_⟩
  · intro slot hslot _
    rcases List.mem_cons.mp hslot with rfl | hslot
    · exact ⟨_, rfl⟩
    · obtain rfl := List.mem_singleton.mp hslot
      exact ⟨_, rfl⟩
  · show w.timer + 86400001 + keptFor settings < Cache.horizon
    rw [htimer]
    decide

theorem expiring_readable : Readable settings expiring :=
  readable_later (congrArg Faults.locator succeeded_source.faults) succeeded_source.timer

end Sample

/-- A token that is minted at the epoch with the only version is verified after a day on the timer, with a
snapshot that holds its successor as well, and one second before its expiry and the leeway are over. -/
theorem minted_verifies_succeeded :
    ∃ minted, (mint Sample.scheme Sample.settings {} "user" "j" Sample.fresh).1 = .ok minted ∧
      (verify Sample.scheme Sample.settings {} minted.token Sample.expiring).1 =
        .ok { iss := "anontoken", aud := "anontoken-clients", sub := "user", exp := 3600, iat := 0,
              jti := "j" } := by
  have hmints : (mint Sample.scheme Sample.settings {} "user" "j" Sample.fresh).1.toOption.map
      Minted.jti = some "j" := by
    decide +kernel
  have hsigner : (activeCredential Sample.settings Sample.fresh).1.toOption.map id =
      some Sample.oldCredential := by
    decide +kernel
  obtain ⟨minted, hmint, -⟩ := exists_ok_of_toOption hmints
  obtain ⟨_, hactive, rfl⟩ := exists_ok_of_toOption hsigner
  have hinserted : StepWithin Sample.settings (Keeps Sample.settings Sample.old)
      (mint Sample.scheme Sample.settings {} "user" "j" Sample.fresh).2 Sample.succeeded :=
    ⟨.insert Sample.succeeded_source.locator Sample.next true, Sample.both_keeps rfl⟩
  have hpass : ∀ w : World, Step Sample.settings w { w.pass 86400001 with now := 3660 } :=
    fun w => .beside rfl rfl (Nat.le_add_right ..)
  have hpassed : StepWithin Sample.settings (Keeps Sample.settings Sample.old)
      Sample.succeeded Sample.expiring := ⟨hpass Sample.succeeded, Sample.both_keeps rfl⟩
  refine ⟨minted, hmint, ?_⟩
  have hissuer : ({} : Expectation).issuer = ({} : Minting).issuer := rfl
  have hverified := minted_verifies Sample.old_ofVersion rfl
    (Sample.trusting_accepts .standard Sample.oldCredential.key Sample.oldPublic) hissuer rfl
    (fun entry h => by cases h) Sample.fresh_keeps .refl hactive hmint (by decide)
    (.tail (.single hinserted) hpassed) Sample.expiring_readable
  rw [if_neg (by decide)] at hverified
  exact hverified

end BlindMint.CredentialStore
