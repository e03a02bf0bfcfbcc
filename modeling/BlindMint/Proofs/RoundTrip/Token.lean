import BlindMint.Proofs.RoundTrip.Base64
import BlindMint.Proofs.RoundTrip.Record
import BlindMint.Session

/-!
# A session token says what it was signed for

The header and the claims of a token are written as documents, whose text is encoded and put in base64. Reading
a token that was signed undoes each of these: the header comes back with the algorithm and the key of the
credential, and the claims come back whatever texts they hold.

## Results

* `readPart_writePart`: a record is read back from the part of a token that was made for it.
* `readHeader_sign`: the header of a signed token.
* **`decode_sign`**: a key that accepts the signature yields the claims, if they are the expected ones.
-/

namespace BlindMint.Session

open Json

/-! ## Parts -/

/-- A record is read back from the part of a token that was made for it. -/
theorem readPart_writePart {ρ α : Type} {record : Record ρ α} {entries : List (String × Document)}
    (last : ρ) {value : α} (h : ReadsMembers record.members record.empty entries last)
    (hfinish : record.finish last = some value) :
    readPart (readRecord record) (writePart (.object entries)) = .ok value := by
  unfold readPart writePart
  rw [Base64.Dialect.decode?_encode Base64.Dialect.urlSafe_invertible]
  dsimp only
  rw [Utf8.scan_encode, readWhole_write h hfinish]

theorem dot_not_mem_writePart (document : Document) : '.' ∉ writePart document :=
  Base64.Dialect.dot_not_mem_encode _

/-- The header of a token is read back. -/
theorem readPart_header (h : Header) : readPart Header.read (writePart h.document) = .ok h := by
  obtain ⟨algorithm, kid⟩ := h
  have halgorithm : Reads (readChoice Algorithm.names) (.text algorithm.name) algorithm :=
    reads_choice algorithm.lookup_name
  unfold Header.read Header.document
  cases kid with
  | none =>
    refine readPart_writePart { typ := some (some "JWT"), algorithm := some algorithm } ?_ rfl
    exact .known _ rfl rfl (reads_member (reads_optional_text "JWT") _)
      (.known _ rfl rfl (reads_member halgorithm _) (.nil _))
  | some kid =>
    refine readPart_writePart
      { typ := some (some "JWT"), algorithm := some algorithm, kid := some (some kid) } ?_ rfl
    exact .known _ rfl rfl (reads_member (reads_optional_text "JWT") _)
      (.known _ rfl rfl (reads_member halgorithm _)
        (.known _ rfl rfl (reads_member (reads_optional_text kid) _) (.nil _)))

theorem reads_instant (t : Instant) : Reads SessionClaims.readInstant (.integer t.toInt) t.toInt := by
  have hlow := Int64.le_toInt t
  have hhigh := Int64.toInt_lt t
  refine reads_integer ⟨hlow, hhigh⟩ ?_
  unfold Instant.minSeconds Instant.maxSeconds
  omega

/-- The claims of a token are read back. -/
theorem readPart_claims (c : SessionClaims) :
    readPart SessionClaims.read (writePart c.document) = .ok c := by
  refine readPart_writePart
    { iss := some c.iss, aud := some c.aud, sub := some c.sub, exp := some c.exp.toInt,
      iat := some c.iat.toInt, jti := some c.jti } ?_ ?_
  · exact .known _ rfl rfl (reads_member (reads_text c.iss) _)
      (.known _ rfl rfl (reads_member (reads_text c.aud) _)
        (.known _ rfl rfl (reads_member (reads_text c.sub) _)
          (.known _ rfl rfl (reads_member (reads_instant c.exp) _)
            (.known _ rfl rfl (reads_member (reads_instant c.iat) _)
              (.known _ rfl rfl (reads_member (reads_text c.jti) _) (.nil _))))))
  · show some _ = some _
    simp

/-- The claims that every token may have are read from the claims of a signed token: an object whose members
are all passed over. -/
theorem readPart_registered (c : SessionClaims) :
    readPart readRegistered (writePart c.document) = .ok () := by
  have htext : ∀ s tail, Delimited tail →
      skipValue ((Document.text s).write.map some ++ tail) = .ok tail :=
    fun s tail _ => skipValue_text s tail
  have hinstant : ∀ (t : Instant) tail, Delimited tail →
      skipValue ((Document.integer t.toInt).write.map some ++ tail) = .ok tail :=
    fun t tail htail => skipValue_integer ⟨Int64.le_toInt t, Int64.toInt_lt t⟩ htail.endsNumber
  have hmembers : ReadsMembers [.of "nbf" true skipNotBefore id fun _ _ => some ()] none
      [("iss", .text c.iss), ("aud", .text c.aud), ("sub", .text c.sub), ("exp", .integer c.exp.toInt),
        ("iat", .integer c.iat.toInt), ("jti", .text c.jti)] none :=
    .unknown rfl (htext _) (.unknown rfl (htext _) (.unknown rfl (htext _)
      (.unknown rfl (hinstant _) (.unknown rfl (hinstant _) (.unknown rfl (htext _) (.nil _))))))
  have hread : readRegistered (c.document.write.map some) = .ok ((), []) := by
    rw [← List.append_nil (c.document.write.map some)]
    exact readRecord_write hmembers rfl []
  unfold readPart writePart
  rw [Base64.Dialect.decode?_encode Base64.Dialect.urlSafe_invertible]
  dsimp only
  rw [Utf8.scan_encode]
  unfold readWhole
  rw [hread]
  rfl

/-- The payload of a signed token is its claims. -/
theorem readPayload_claims (c : SessionClaims) : readPayload (writePart c.document) = .ok c := by
  unfold readPayload
  rw [readPart_claims, readPart_registered]

/-! ## Whole tokens -/

/-- The parts of a signed token. -/
theorem parts_of_sign {scheme : Scheme} {credential : Credential} {claims : SessionClaims}
    {token : String} (h : sign scheme credential claims = .ok token) :
    ∃ parts signature, Parts.ofText? token.toList = some parts ∧
      parts.header = writePart (Header.document ⟨credential.algorithm, some credential.kid⟩) ∧
      parts.payload = writePart claims.document ∧
      Base64.urlSafe.decode? parts.signature = some signature ∧
      scheme.sign credential.key (Utf8.encode parts.message) = .ok signature := by
  unfold sign at h
  dsimp only at h
  split at h
  · cases h
  · next signature hsign =>
    obtain rfl := Except.ok.inj h
    have hsignature := Base64.Dialect.decode?_encode Base64.Dialect.urlSafe_invertible signature
    refine ⟨⟨_, _, Base64.urlSafe.encode signature⟩, signature, ?_, rfl, rfl, hsignature, hsign⟩
    rw [String.toList_ofList]
    exact Parts.ofText?_text _ (dot_not_mem_writePart _) (Base64.Dialect.dot_not_mem_encode signature)

/-- **The header of a signed token** names the algorithm and the key of its credential. -/
theorem readHeader_sign {scheme : Scheme} {credential : Credential} {claims : SessionClaims}
    {token : String} (h : sign scheme credential claims = .ok token) :
    readHeader token = .ok ⟨credential.algorithm, some credential.kid⟩ := by
  obtain ⟨parts, signature, hparts, hheader, -⟩ := parts_of_sign h
  unfold readHeader
  rw [hparts]
  dsimp only
  rw [hheader, readPart_header]

/-- **A key that accepts the signature yields the claims** that the token was signed for, if they are the
expected ones. -/
theorem decode_sign {scheme : Scheme} {credential : Credential} {claims : SessionClaims}
    {token : String} (h : sign scheme credential claims = .ok token) {key : CredentialKey}
    (halgorithm : key.algorithm = credential.algorithm)
    (haccepts : scheme.Accepts credential.key key.key) (expected : Expectation) :
    decode scheme expected token key = checkClaims expected claims := by
  obtain ⟨parts, signature, hparts, hheader, hpayload, hdecode, hsign⟩ := parts_of_sign h
  unfold decode
  rw [hparts]
  dsimp only
  rw [hheader, readPart_header, hpayload, readPayload_claims, hdecode]
  dsimp only
  rw [if_neg (fun hne => hne halgorithm.symm), if_pos (haccepts _ _ hsign)]

end BlindMint.Session
