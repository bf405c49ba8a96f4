import Pactra.AuditLedger.Ledger

/-!
# Authorization lifecycle

`services/security_kernel/authorization.py` and `approval.py`: issue, prove, activate, consume,
revoke, expire. Every privileged transition is one conditional update whose condition carries the
whole precondition; the number of rows it changed decides.
-/

namespace Pactra

/-- `DIGEST_LOG_PREFIX` characters of a digest. -/
def digestPrefix (digest : String) : String := String.ofList (digest.toList.take 16)

namespace SecurityKernel

/-- `ACTOR`. -/
def actor : String := "security-kernel"

-- ════════════════════════════════════════════════════════════════════════
-- Approval proofs
-- ════════════════════════════════════════════════════════════════════════

/-- The value of a hexadecimal digit. -/
def hexValue (c : Char) : Nat :=
  if '0' ≤ c ∧ c ≤ '9' then c.toNat - 48 else c.toNat - 87

/-- `bytes.fromhex` of a text that is lowercase hexadecimal of even length. -/
def fromHex : List Char → List Nat
  | a :: b :: rest => (16 * hexValue a + hexValue b) :: fromHex rest
  | _ => []

/-- Whether a text is ASCII, which `secrets.compare_digest` requires. -/
def isAscii (s : String) : Bool := s.toList.all (fun c => c.toNat < 128)

/-- `_trusted_demo_public_key`: the bytes of the one pre-enrolled key. -/
def trustedDemoPublicKey {σ : Type} (env : Env) (signingKeyId : String) :
    Tx σ Exc (List Nat) :=
  if !(isAscii signingKeyId && isAscii env.demoApproverSigningKeyId) then
    Tx.raise (.other "TypeError" "comparing strings with non-ASCII characters is not supported")
  else if signingKeyId ≠ env.demoApproverSigningKeyId then
    Tx.raise (.approvalVerification .authorizationSigningKeyUnknown
      "signing_key_id is not the pre-enrolled demo approver key")
  else
    match env.demoApproverPublicKeyHex with
    | none =>
      Tx.raise (.approvalVerification .authorizationSigningKeyUnknown
        "the demo approver public key is not configured")
    | some encoded =>
      if encoded = "" then
        Tx.raise (.approvalVerification .authorizationSigningKeyUnknown
          "the demo approver public key is not configured")
      else if !isLowerHex 64 encoded then
        Tx.raise (.approvalVerification .authorizationSigningKeyUnknown
          "the configured demo approver public key is malformed")
      else pure (fromHex encoded.toList)

/-- `verify_user_ed25519_signature`. Every malformed signature is refused with the same reason
code. -/
def verifyUserEd25519Signature {σ : Type} (env : Env) (authorizationId missionId : Uuid)
    (version transactionDigest signingKeyId signatureHex : String) : Tx σ Exc Unit := do
  if !isLowerHex 128 signatureHex then
    Tx.raise (.approvalVerification .authorizationSignatureMalformed
      "signature must be exactly 128 lowercase hexadecimal characters")
  else do
    let publicKey ← trustedDemoPublicKey env signingKeyId
    require (isLowerHex 64 transactionDigest)
      "approval.transaction_digest_is_lowercase_sha256_hex"
      "transaction_digest must be exactly 64 lowercase hexadecimal characters"
    require (version ≠ "") "approval.binding_version_present" "binding_version is empty"
    require (signingKeyId ≠ "") "approval.signing_key_id_present" "signing_key_id is empty"
    if env.ed25519Verify publicKey (fromHex signatureHex.toList)
        (approvalMessage authorizationId missionId version transactionDigest signingKeyId) then
      pure ()
    else
      Tx.raise (.approvalVerification .authorizationSignatureInvalid
        "signature does not verify for this authorization challenge")

/-- A signature that verifies under the configured approval key for an authorization, its
mission, its binding version, its digest and its key id. -/
def SignatureVerifies (env : Env) (row : AuthorizationRow)
    (signingKeyId signatureHex : String) : Prop :=
  signingKeyId = env.demoApproverSigningKeyId ∧
    ∃ encoded, env.demoApproverPublicKeyHex = some encoded ∧
      env.ed25519Verify (fromHex encoded.toList) (fromHex signatureHex.toList)
        (approvalMessage row.authorizationId row.missionId row.bindingVersion
          row.transactionDigest signingKeyId) = true

theorem trustedDemoPublicKey_ok {σ : Type} {env : Env} {signingKeyId : String} {s s' : σ}
    {key : List Nat} (h : (trustedDemoPublicKey env signingKeyId).run s = (.ok key, s')) :
    s' = s ∧ signingKeyId = env.demoApproverSigningKeyId ∧
      ∃ encoded, env.demoApproverPublicKeyHex = some encoded ∧ key = fromHex encoded.toList := by
  unfold trustedDemoPublicKey at h
  split at h
  · simp at h
  · split at h
    · simp at h
    · next hid =>
      split at h
      · simp at h
      · next encoded henc =>
        split at h
        · simp at h
        · split at h
          · simp at h
          · simp only [Tx.run_pure, Prod.mk.injEq, Except.ok.injEq] at h
            exact ⟨h.2.symm, not_not.mp hid, encoded, henc, h.1.symm⟩

/-- A verification that returns leaves the state alone and proves the signature. -/
theorem verifyUserEd25519Signature_ok {σ : Type} {env : Env} {row : AuthorizationRow}
    {signingKeyId signatureHex : String} {s s' : σ}
    (h : (verifyUserEd25519Signature env row.authorizationId row.missionId row.bindingVersion
      row.transactionDigest signingKeyId signatureHex).run s = (.ok (), s')) :
    s' = s ∧ SignatureVerifies env row signingKeyId signatureHex := by
  unfold verifyUserEd25519Signature at h
  split at h
  · simp at h
  · obtain ⟨key, s₁, hkey, h⟩ := Tx.bind_ok.mp h
    obtain ⟨rfl, hid, encoded, henc, rfl⟩ := trustedDemoPublicKey_ok hkey
    obtain ⟨-, h⟩ := require_bind_ok.mp h
    obtain ⟨-, h⟩ := require_bind_ok.mp h
    obtain ⟨-, h⟩ := require_bind_ok.mp h
    split at h
    · next hv =>
      simp only [Tx.run_pure, Prod.mk.injEq, true_and] at h
      exact ⟨h.symm, hid, encoded, henc, hv⟩
    · simp at h

-- ════════════════════════════════════════════════════════════════════════
-- Helpers
-- ════════════════════════════════════════════════════════════════════════

/-- `_apply_transition`: a conditional update of one row, reporting whether it changed it. -/
def applyTransition (authorizationId : Uuid) (condition : AuthorizationRow → Bool)
    (change : AuthorizationRow → AuthorizationRow) : DbTx Bool := fun db =>
  match db.getAuthorization authorizationId with
  | some row =>
    if condition row then (.ok true, db.updateAuthorization authorizationId change)
    else (.ok false, db)
  | none => (.ok false, db)

/-- `_reload`. -/
def reload (authorizationId : Uuid) : DbTx (Option AuthorizationRow) :=
  Tx.gets (fun db => db.getAuthorization authorizationId)

/-- `_audit`. -/
def audit (env : Env) (missionId : Uuid) (eventType : EventType) (payload : Dict) : DbTx Unit :=
  appendEvent env missionId ⟨eventType, actor, payload⟩

/-- `rebuild_bound_transaction`: reconstruct the approved transaction from the row's own columns
and check it against the recorded digest. -/
def rebuildBoundTransaction {σ : Type} (env : Env) (row : AuthorizationRow) :
    Tx σ Exc BoundTransaction := do
  match BoundTransaction.make env.upper
      { merchantId := row.boundMerchantId, productId := row.boundProductId,
        quantity := row.boundQuantity, amountInr := row.boundAmountInr,
        currency := row.boundCurrency, policyVersion := row.policyVersion,
        offerVersion := row.offerVersion, expiresAt := row.expiresAt, nonce := row.nonce } with
  | none => Tx.raise (.validationError "BoundTransaction")
  | some transaction => do
    require (row.transactionDigest == transaction.digest)
      "authorization.rebuilt_transaction_matches_digest"
      ("authorization " ++ row.authorizationId.str
        ++ " does not re-derive to its recorded digest")
    pure transaction

/-- The transaction a row's bound columns describe, when it hashes to the recorded digest. -/
def Rebuilds (env : Env) (row : AuthorizationRow) (t : BoundTransaction) : Prop :=
  row.transactionDigest = t.digest ∧ t.merchantId = row.boundMerchantId ∧
    t.productId = row.boundProductId ∧ t.quantity = row.boundQuantity ∧
    t.amountInr = row.boundAmountInr ∧ t.currency = env.upper row.boundCurrency

theorem rebuildBoundTransaction_ok {σ : Type} {env : Env} {row : AuthorizationRow} {s s' : σ}
    {t : BoundTransaction} (h : (rebuildBoundTransaction env row).run s = (.ok t, s')) :
    s' = s ∧ Rebuilds env row t := by
  unfold rebuildBoundTransaction at h
  split at h
  · simp at h
  · next t' ht =>
    obtain ⟨hd, h⟩ := require_bind_ok.mp h
    simp only [Tx.run_pure, Prod.mk.injEq, Except.ok.injEq] at h
    obtain ⟨rfl, rfl⟩ := h
    obtain ⟨h₁, h₂, h₃, h₄, h₅, -⟩ := BoundTransaction.make_eq_some ht
    exact ⟨rfl, by simpa using hd, h₁, h₂, h₃, h₄, h₅⟩

/-- `_require_policy_scheme`: cross-check the stored origin against the policy decision. -/
def requirePolicyScheme (row : AuthorizationRow) : DbTx Unit := do
  let db ← Tx.get
  let decision := Table.best (fun a b => decide (b.createdAt < a.createdAt))
    (db.policyDecisions.filter (fun d =>
      decide (d.missionId = row.missionId ∧ d.policyVersion = row.policyVersion)))
  let expected : Option ApprovalScheme := match decision.map PolicyDecisionRow.decision with
    | some .allow => some .policyAuto
    | some .requireApproval => some .userEd25519
    | _ => none
  if expected = some row.approvalScheme then pure ()
  else
    Tx.raise (.authorizationFailure
      (.proof ReasonCode.authorizationApprovalSchemeInvalid.value) row.authorizationId
      "authorization approval scheme does not match its persisted policy decision")

/-- `_audit_proof_failure`. -/
def auditProofFailure (env : Env) (row : AuthorizationRow) (reasonCode : String)
    (signingKeyId : Option String) : DbTx Unit :=
  audit env row.missionId .securityViolation
    [("reason_code", .str reasonCode),
     ("authorization_id", .str row.authorizationId.str),
     ("approval_scheme", .str row.approvalScheme.value),
     ("signing_key_id", .ofOptStr signingKeyId),
     ("transaction_digest", .str row.transactionDigest),
     ("proof_accepted", .bool false)]

/-- `_verify_supplied_user_proof`. -/
def verifySuppliedUserProof {σ : Type} (env : Env) (row : AuthorizationRow)
    (signingKeyId signatureHex : String) : Tx σ Exc Unit :=
  tryCatch (verifyUserEd25519Signature env row.authorizationId row.missionId row.bindingVersion
      row.transactionDigest signingKeyId signatureHex) fun exc =>
    match exc with
    | .approvalVerification reasonCode detail =>
      Tx.raise (.authorizationFailure (.proof reasonCode.value) row.authorizationId detail)
    | exc => Tx.raise exc

-- ════════════════════════════════════════════════════════════════════════
-- Lifecycle
-- ════════════════════════════════════════════════════════════════════════

/-- `expire_if_stale`. -/
def expireIfStale (env : Env) (authorizationId : Uuid) (now : Datetime) : DbTx Bool := do
  let changed ← applyTransition authorizationId
    (fun row => (row.status = .pending ∨ row.status = .active) ∧ row.expiresAt ≤ now)
    (fun row => { row with status := .expired })
  if !changed then pure false
  else
    match ← reload authorizationId with
    | none => pure false
    | some row => do
      audit env row.missionId .authorizationExpired
        [("authorization_id", .str row.authorizationId.str),
         ("status", .str row.status.value),
         ("expires_at", .str row.expiresAt.isoformat)]
      pure true

/-- `_classify_and_raise`: explain a refused transition and record it, then raise. -/
def classifyAndRaise {α : Type} (env : Env) (authorizationId : Uuid)
    (transaction : Option BoundTransaction) (now : Datetime)
    (expectedStatus : AuthorizationStatus) : DbTx α := do
  match ← reload authorizationId with
  | none => Tx.raise (.authorizationFailure .notFound authorizationId "no such authorization")
  | some row =>
    if row.status = .consumed then do
      audit env row.missionId .authorizationReplayDetected
        [("authorization_id", .str row.authorizationId.str),
         ("status", .str row.status.value),
         ("reason_code", .str ReasonCode.authorizationReplayDetected.value),
         ("consumed_at", .ofOptStr (row.consumedAt.map Datetime.isoformat))]
      Tx.raise (.authorizationFailure .replayDetected authorizationId
        "authorization was already consumed and cannot be reused")
    else
      match transaction.filter (fun t => row.transactionDigest ≠ t.digest) with
      | some t => do
        audit env row.missionId .transactionBindingFailure
          [("authorization_id", .str row.authorizationId.str),
           ("status", .str row.status.value),
           ("reason_code", .str ReasonCode.transactionBindingFailure.value),
           ("bound_digest_prefix", .str (digestPrefix row.transactionDigest)),
           ("presented_digest_prefix", .str (digestPrefix t.digest))]
        Tx.raise (.authorizationFailure .bindingFailure authorizationId
          "the presented transaction does not match the approved transaction")
      | none =>
        if row.expiresAt ≤ now then do
          let _ ← expireIfStale env authorizationId now
          Tx.raise (.authorizationFailure .expired authorizationId
            ("authorization expired at " ++ row.expiresAt.isoformat))
        else
          Tx.raise (.authorizationFailure .notActive authorizationId
            ("authorization is " ++ row.status.value ++ ", expected " ++ expectedStatus.value))

/-- `issue_authorization`: mint a PENDING authorization bound to a transaction. -/
def issueAuthorization (env : Env) (missionId : Uuid) (transaction : BoundTransaction)
    (approvalScheme : ApprovalScheme) : DbTx AuthorizationRow := do
  require (approvalScheme ≠ .legacyServer) "authorization.new_scheme_is_not_legacy"
    "new authorizations cannot use the migration-only LEGACY_SERVER scheme"
  let now ← drawNow env
  require (now < transaction.expiresAt) "authorization.issued_before_expiry"
    ("transaction expires at " ++ transaction.expiresAt.isoformat
      ++ ", which is not after issuance at " ++ now.isoformat)
  let digest := transaction.digest
  let authorizationId ← drawUuid env
  let row : AuthorizationRow :=
    { authorizationId := authorizationId, missionId := missionId, transactionDigest := digest,
      nonce := transaction.nonce, bindingVersion := bindingVersion,
      policyVersion := transaction.policyVersion, offerVersion := transaction.offerVersion,
      approvalScheme := approvalScheme, signingKeyId := none, approvalSignature := none,
      status := .pending, issuedAt := now, expiresAt := transaction.expiresAt, consumedAt := none,
      boundMerchantId := transaction.merchantId, boundProductId := transaction.productId,
      boundQuantity := transaction.quantity, boundAmountInr := transaction.amountInr,
      boundCurrency := transaction.currency }
  let db ← Tx.get
  -- primary key and `uq_authorizations_nonce`
  if (db.getAuthorization authorizationId).isSome ∨
      (db.authorizations.any (fun a => a.nonce == row.nonce)) = true then
    Tx.raise .integrityError
  else do
    Tx.modify fun db => { db with authorizations := db.authorizations ++ [row] }
    audit env missionId .authorizationCreated
      [("authorization_id", .str row.authorizationId.str),
       ("status", .str row.status.value),
       ("transaction_digest_prefix", .str (digestPrefix digest)),
       ("policy_version", .str transaction.policyVersion),
       ("offer_version", .str transaction.offerVersion),
       ("binding_version", .str bindingVersion),
       ("approval_scheme", .str approvalScheme.value),
       ("expires_at", .str transaction.expiresAt.isoformat),
       ("bound_merchant_id", .str transaction.merchantId),
       ("bound_product_id", .str transaction.productId),
       ("bound_quantity", .int transaction.quantity),
       ("bound_amount_inr", .int transaction.amountInr),
       ("bound_currency", .str transaction.currency)]
    pure row

/-- `activate_authorization`: activate only a deterministic POLICY_AUTO authorization. -/
def activateAuthorization (env : Env) (authorizationId : Uuid) : DbTx Unit := do
  let now ← drawNow env
  let changed ← applyTransition authorizationId
    (fun row => row.approvalScheme = .policyAuto ∧ row.status = .pending ∧ now < row.expiresAt ∧
      row.signingKeyId = none ∧ row.approvalSignature = none)
    (fun row => { row with status := .active })
  if !changed then classifyAndRaise env authorizationId none now .pending
  else
    match ← reload authorizationId with
    | none =>
      Tx.raise (.authorizationFailure .notFound authorizationId
        "authorization vanished after activation")
    | some row =>
      audit env row.missionId .authorizationActivated
        [("authorization_id", .str row.authorizationId.str),
         ("status", .str row.status.value),
         ("transaction_digest_prefix", .str (digestPrefix row.transactionDigest)),
         ("approval_scheme", .str ApprovalScheme.policyAuto.value)]

/-- `approve_authorization_with_signature`: verify a USER_ED25519 proof, then move
PENDING to ACTIVE. The row is held under a lock throughout. -/
def approveAuthorizationWithSignature (env : Env) (missionId authorizationId : Uuid)
    (signingKeyId signatureHex : String) (now : Datetime) : DbTx Unit := do
  match ← reload authorizationId with
  | none => Tx.raise (.authorizationFailure .notFound authorizationId "no such authorization")
  | some row =>
    if row.missionId ≠ missionId then
      Tx.raise (.authorizationFailure .notFound authorizationId
        "authorization does not belong to mission")
    else if row.status ≠ .pending ∨ row.expiresAt ≤ now then
      classifyAndRaise env authorizationId none now .pending
    else if row.approvalScheme ≠ .userEd25519 then do
      auditProofFailure env row ReasonCode.authorizationApprovalSchemeInvalid.value
        (some signingKeyId)
      Tx.raise (.authorizationFailure
        (.proof ReasonCode.authorizationApprovalSchemeInvalid.value) authorizationId
        "only USER_ED25519 authorizations accept a user signature")
    else do
      let _ ← rebuildBoundTransaction env row
      if row.bindingVersion ≠ bindingVersion then
        Tx.raise (.authorizationFailure .bindingFailure authorizationId
          ("unsupported binding version " ++ env.repr row.bindingVersion))
      else do
        tryCatch
          (do
            requirePolicyScheme row
            verifySuppliedUserProof env row signingKeyId signatureHex)
          fun exc =>
            match exc with
            | .authorizationFailure (.proof reasonCode) id detail => do
              auditProofFailure env row reasonCode (some signingKeyId)
              Tx.raise (.authorizationFailure (.proof reasonCode) id detail)
            | exc => Tx.raise exc
        let changed ← applyTransition authorizationId
          (fun r => r.missionId = missionId ∧ r.approvalScheme = .userEd25519 ∧
            r.status = .pending ∧ now < r.expiresAt ∧ r.bindingVersion = bindingVersion ∧
            r.transactionDigest = row.transactionDigest ∧ r.signingKeyId = none ∧
            r.approvalSignature = none)
          (fun r => { r with
            status := .active
            signingKeyId := some signingKeyId
            approvalSignature := some signatureHex })
        if !changed then classifyAndRaise env authorizationId none now .pending
        else
          match ← reload authorizationId with
          | none =>
            Tx.raise (.authorizationFailure .notFound authorizationId
              "authorization vanished after activation")
          | some activated =>
            audit env activated.missionId .authorizationActivated
              [("authorization_id", .str activated.authorizationId.str),
               ("status", .str activated.status.value),
               ("approval_scheme", .str ApprovalScheme.userEd25519.value),
               ("signing_key_id", .str signingKeyId),
               ("transaction_digest", .str activated.transactionDigest)]

/-- `verify_authorization_for_payment`: rebuild, classify and re-verify an authorization before
payment work. Expiry is a precondition only while an ACTIVE authorization is consumed. -/
def verifyAuthorizationForPayment (env : Env) (row : AuthorizationRow)
    (expectedStatus : AuthorizationStatus) (now : Datetime) : DbTx BoundTransaction := do
  let transaction ← rebuildBoundTransaction env row
  if row.bindingVersion ≠ bindingVersion then
    Tx.raise (.authorizationFailure .bindingFailure row.authorizationId
      ("unsupported binding version " ++ env.repr row.bindingVersion))
  else if row.status ≠ expectedStatus then
    if expectedStatus = .active then
      classifyAndRaise env row.authorizationId (some transaction) now expectedStatus
    else
      Tx.raise (.authorizationFailure .notActive row.authorizationId
        ("authorization is " ++ row.status.value ++ ", expected " ++ expectedStatus.value))
  else if expectedStatus = .active ∧ row.expiresAt ≤ now then do
    let _ ← expireIfStale env row.authorizationId now
    Tx.raise (.authorizationFailure .expired row.authorizationId
      ("authorization expired at " ++ row.expiresAt.isoformat))
  else do
    requirePolicyScheme row
    match row.approvalScheme with
    | .policyAuto =>
      if row.signingKeyId ≠ none ∨ row.approvalSignature ≠ none then
        Tx.raise (.authorizationFailure
          (.proof ReasonCode.authorizationApprovalSchemeInvalid.value) row.authorizationId
          "POLICY_AUTO authorization unexpectedly carries proof metadata")
      else pure transaction
    | .legacyServer =>
      Tx.raise (.authorizationFailure
        (.proof ReasonCode.authorizationApprovalSchemeInvalid.value) row.authorizationId
        "migration-only or unknown authorization origin cannot authorize payment")
    | .userEd25519 =>
      match row.signingKeyId, row.approvalSignature with
      | some signingKeyId, some signatureHex => do
        verifySuppliedUserProof env row signingKeyId signatureHex
        pure transaction
      | _, _ =>
        Tx.raise (.authorizationFailure (.proof ReasonCode.authorizationProofMissing.value)
          row.authorizationId "USER_ED25519 authorization is missing its durable proof")

/-- `consume_authorization`: move ACTIVE to CONSUMED, one time only. -/
def consumeAuthorization (env : Env) (authorizationId : Uuid) (transaction : BoundTransaction)
    (now : Datetime) : DbTx Unit := do
  let digest := transaction.digest
  let changed ← applyTransition authorizationId
    (fun row => row.status = .active ∧ row.transactionDigest = digest ∧ now < row.expiresAt)
    (fun row => { row with status := .consumed, consumedAt := some now })
  if !changed then classifyAndRaise env authorizationId (some transaction) now .active
  else
    match ← reload authorizationId with
    | none =>
      Tx.raise (.authorizationFailure .notFound authorizationId
        "authorization vanished after consumption")
    | some row =>
      audit env row.missionId .authorizationConsumed
        [("authorization_id", .str row.authorizationId.str),
         ("status", .str row.status.value),
         ("transaction_digest_prefix", .str (digestPrefix digest)),
         ("consumed_at", .str now.isoformat)]

/-- `revoke_authorization`: move PENDING or ACTIVE to REVOKED. -/
def revokeAuthorization (env : Env) (authorizationId : Uuid) (reason : String)
    (now : Datetime) : DbTx Unit := do
  let changed ← applyTransition authorizationId
    (fun row => row.status = .pending ∨ row.status = .active)
    (fun row => { row with status := .revoked })
  if !changed then classifyAndRaise env authorizationId none now .active
  else
    match ← reload authorizationId with
    | none =>
      Tx.raise (.authorizationFailure .notFound authorizationId
        "authorization vanished after revocation")
    | some row =>
      audit env row.missionId .authorizationRevoked
        [("authorization_id", .str row.authorizationId.str),
         ("status", .str row.status.value),
         ("reason", .str reason)]

-- ════════════════════════════════════════════════════════════════════════
-- Exceptions of the checks
-- ════════════════════════════════════════════════════════════════════════

/-- The exceptions that the reconstruction of a transaction and the verification of a proof raise. -/
inductive OfCheck : Exc → Prop
  | schema (model : String) : OfCheck (.validationError model)
  | invariant (invariantId detail : String) : OfCheck (.invariantViolation invariantId detail)
  | verification (reasonCode : ReasonCode) (detail : String) :
    OfCheck (.approvalVerification reasonCode detail)
  | proof (reasonCode : String) (id : Uuid) (detail : String) :
    OfCheck (.authorizationFailure (.proof reasonCode) id detail)
  | other (name text : String) : OfCheck (.other name text)

section OfCheck

variable {σ : Type} (env : Env)

lemma raises_require (condition : Bool) (name detail : String) :
    Tx.Raises OfCheck (require condition name detail : Tx σ Exc Unit) :=
  Tx.Raises.ite (.pure _) (.raise (.invariant _ _))

lemma raises_rebuild (row : AuthorizationRow) :
    Tx.Raises OfCheck (rebuildBoundTransaction env row : Tx σ Exc BoundTransaction) := by
  unfold rebuildBoundTransaction
  split
  · exact .raise (.schema _)
  · exact (raises_require _ _ _).bind fun _ => .pure _

lemma raises_requirePolicyScheme (row : AuthorizationRow) :
    Tx.Raises OfCheck (requirePolicyScheme row) :=
  Tx.Raises.get.bind fun _ => .ite (.pure _) (.raise (.proof _ _ _))

lemma raises_trustedKey (signingKeyId : String) :
    Tx.Raises OfCheck (trustedDemoPublicKey env signingKeyId : Tx σ Exc (List Nat)) := by
  unfold trustedDemoPublicKey
  refine .ite (.raise (.other _ _)) (.ite (.raise (.verification _ _)) ?_)
  split
  · exact .raise (.verification _ _)
  · exact .ite (.raise (.verification _ _)) (.ite (.raise (.verification _ _)) (.pure _))

lemma raises_verifySuppliedUserProof (row : AuthorizationRow) (signingKeyId signatureHex : String) :
    Tx.Raises OfCheck
      (verifySuppliedUserProof env row signingKeyId signatureHex : Tx σ Exc Unit) := by
  have hsignature : Tx.Raises OfCheck (verifyUserEd25519Signature env row.authorizationId
      row.missionId row.bindingVersion row.transactionDigest signingKeyId signatureHex :
      Tx σ Exc Unit) := by
    unfold verifyUserEd25519Signature
    refine .ite (.raise (.verification _ _)) ((raises_trustedKey env signingKeyId).bind fun _ => ?_)
    exact (raises_require _ _ _).bind fun _ => (raises_require _ _ _).bind fun _ =>
      (raises_require _ _ _).bind fun _ => .ite (.pure _) (.raise (.verification _ _))
  intro s
  refine Tx.RaisesAt.tryCatch fun exc s' hexc => ?_
  split
  · exact Tx.Raises.raise (.proof _ _ _) s'
  · exact Tx.Raises.raise (hsignature s _ s' hexc) s'

end OfCheck

end SecurityKernel

end Pactra
