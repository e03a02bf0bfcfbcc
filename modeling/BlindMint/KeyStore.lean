import BlindMint.MasterSecret

/-!
# The key pairs in use

Key pairs are derived on demand and kept in a cache by interval. `activeKeyPair` is the pair that signs
at the present instant; `validationKeys` are the public keys that are accepted at it.

An operation that may fill the cache is made of two steps: `KeyStore.begin` serves a kept pair or drops
an old one, and `KeyStore.fill` derives a pair and keeps it.

Results:
* `KeyStore.keyPair_of_begin`: a pair that is served needs nothing else.
-/

namespace BlindMint

/-- What the key pairs depend on beside the world (`AnonymousTokenKeyStore`). -/
structure KeyStore where
  settings : KeySettings := {}
  expander : Expander := .hkdf

namespace KeyStore

/-- The name of the cache in its counter. -/
def cacheName : String := "anonymous_token_key"

/-- The cache key of an interval. -/
def cacheKey (interval : UInt64) : String :=
  "signing:" ++ Decimal.ofNat interval.toNat

/-- Serve the key pair of an interval from the cache, or drop an old one. -/
def begin (interval : UInt64) (w : World) : Option KeyPair × World :=
  let (served, cache) := w.keyPairs.begin (cacheKey interval) w.timer
  (served, { w with keyPairs := cache })

/-- Derive the key pair of an interval from the master certificate. -/
def compute (k : KeyStore) (interval : UInt64) (w : World) : Except KeyError KeyPair × World :=
  match w.loadMasterSecret k.settings.masterId with
  | (.error e, w) => (.error e, w)
  | (.ok secret, w) =>
    let (derived, calls) := derive k.expander w.activity.expansions secret interval k.settings.curve
    let w := { w with activity.expansions := w.activity.expansions + calls.length }
    match derived with
    | .error e => (.error e, w)
    | .ok key => (.ok (.ofDerived interval k.settings.curve key), w)

/-- Keep a key pair that has been derived for an interval. -/
def keep (k : KeyStore) (interval : UInt64) (pair : KeyPair) (w : World) :
    Except (Failure KeyError) KeyPair × World :=
  match w.keyPairs.finish (cacheKey interval) pair w.timer (k.settings.cacheTtl.toNat * 1000) with
  | none => (.error .overflow, w)
  | some cache => (.ok pair, ({ w with keyPairs := cache } : World).count (.cacheFills cacheName) 1)

/-- Derive the key pair of an interval and keep it. -/
def fill (k : KeyStore) (interval : UInt64) (w : World) : Except (Failure KeyError) KeyPair × World :=
  match k.compute interval w with
  | (.error e, w) => (.error (.failed e), w)
  | (.ok pair, w) => k.keep interval pair w

/-- The key pair of an interval, from the cache or derived anew (`keypair_for_interval`). -/
def keyPair (k : KeyStore) (interval : UInt64) (w : World) :
    Except (Failure KeyError) KeyPair × World :=
  match begin interval w with
  | (some pair, w) => (.ok pair, w)
  | (none, w) => k.fill interval w

/-- The key pair that signs at the present instant (`active_signing_keypair`). -/
def activeKeyPair (k : KeyStore) (w : World) : Except (Failure KeyError) KeyPair × World :=
  k.keyPair (k.settings.intervalAt w.now) w

/-- The public keys of intervals, in order; the first failure ends the list. -/
def publicKeys (k : KeyStore) : List UInt64 → World →
    Except (Failure KeyError) (List ValidationKey) × World
  | [], w => (.ok [], w)
  | interval :: intervals, w =>
    match k.keyPair interval w with
    | (.error e, w) => (.error e, w)
    | (.ok pair, w) =>
      match k.publicKeys intervals w with
      | (.error e, w) => (.error e, w)
      | (.ok keys, w) => (.ok (pair.validationKey :: keys), w)

/-- The public keys that are accepted at the present instant, in the order of their intervals
(`active_validation_keys`). -/
def validationKeys (k : KeyStore) (w : World) :
    Except (Failure KeyError) (List ValidationKey) × World :=
  k.publicKeys (k.settings.validationIntervals w.now) w

/-- The document in which the accepted keys are published (`validation_key_set`). -/
def keySet (k : KeyStore) (w : World) : Except (Failure KeyError) KeySet × World :=
  match k.validationKeys w with
  | (.error e, w) => (.error e, w)
  | (.ok keys, w) => (.ok ⟨keys.map ValidationKey.toJwk⟩, w)

theorem keyPair_of_begin (k : KeyStore) {interval : UInt64} {w v : World} {pair : KeyPair}
    (h : begin interval w = (some pair, v)) : k.keyPair interval w = (.ok pair, v) := by
  simp [keyPair, h]

end KeyStore

end BlindMint
