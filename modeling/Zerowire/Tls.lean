/-
**Mutual authentication by the pairing code** (`desktop-linux/src/tls.rs`).

Both peers derive the same key and the same self-signed certificate from the pairing code, present
that certificate, and pin the peer's certificate to it.  The certificate itself is no secret: a
server shows it to whoever connects.  What authenticates a peer is the signature over the handshake,
and which callback checks it depends on the protocol version.  `PinnedPeerVerifier` checks it for
TLS 1.3, and accepts every signature for TLS 1.2, which its comment takes to be disabled.  It is
not: the configurations name no versions, and the crate enables the `tls12` feature.

The cryptography is not part of the source; it is the parameter `Zerowire.TlsLibs`.

Main definitions:

* `Zerowire.TlsLibs` — what the code uses of `hkdf`, `ed25519-dalek`, `rcgen` and `rustls`;
* `Zerowire.PskIdentity.derive` — the identity of a pairing code;
* `Zerowire.PinnedPeerVerifier` — the verifier, with the callbacks of its two trait
  implementations;
* `Zerowire.serverConfig`, `Zerowire.clientConfig`, `Zerowire.TlsConfig.accepts` — the
  configurations, and when rustls accepts a peer.

Main results:

* `Zerowire.PinnedPeerVerifier.matches_iff` — the comparison is equality of the certificates;
* `Zerowire.accepts_tls13_iff`, `Zerowire.accepts_tls12_iff` — whom a configuration accepts;
* `Zerowire.possession_iff_tls13` — **acceptance proves possession of the key exactly under
  TLS 1.3**.
-/

import Zerowire.Bytes

set_option relaxedAutoImplicit false
set_option autoImplicit false

namespace Zerowire

/-! ### The identity -/

/-- What goes into the certificate (`rcgen::CertificateParams`). -/
structure CertParams where
  subjectAltName : String
  commonName : String
  keyUsages : List String
  /-- Year, month, day. -/
  notBefore : ℕ × ℕ × ℕ
  notAfter : ℕ × ℕ × ℕ
  serialNumber : List UInt8
  deriving Repr, DecidableEq

/-- What the code uses of its cryptographic libraries. -/
structure TlsLibs where
  /-- `Hkdf::<Sha256>::new(salt, ikm)`, expanded to 32 bytes. -/
  hkdf : (salt ikm info : List UInt8) → List UInt8
  /-- `Sha256::digest`. -/
  sha256 : List UInt8 → List UInt8
  /-- `SigningKey::from_bytes(seed).to_pkcs8_der()`. -/
  pkcs8 : List UInt8 → Option (List UInt8)
  /-- `params.self_signed(KeyPair::try_from(key))`. -/
  selfSigned : CertParams → List UInt8 → Option (List UInt8)
  /-- Whether rustls takes a certificate and its key into a configuration. -/
  takesIdentity : (cert key : List UInt8) → Bool
  /-- `DigitallySignedStruct`. -/
  Dss : Type
  /-- `rustls::crypto::verify_tls13_signature` with the algorithms of `ring`. -/
  verifyTls13Signature : (message cert : List UInt8) → Dss → Bool
  /-- The signature over the message verifies under the key of the certificate. -/
  SignatureValid : (message cert : List UInt8) → Dss → Prop

variable (libs : TlsLibs)

def pskSalt : List UInt8 := "zerowire/v1/psk".toUTF8.data.toList
def tlsCertKeyInfo : List UInt8 := "zerowire/v1/tls-cert-key".toUTF8.data.toList

/-- `derive_with_info` (`protocol/src/psk.rs`). -/
def deriveWithInfo (pairingCode : String) (info : List UInt8) : List UInt8 :=
  libs.hkdf pskSalt pairingCode.toUTF8.data.toList info

/-- `derive_tls_cert_seed`. -/
def deriveTlsCertSeed (pairingCode : String) : List UInt8 :=
  deriveWithInfo libs pairingCode tlsCertKeyInfo

/-- How `derive` and the configurations fail. -/
inductive TlsError where
  /-- "encoding Ed25519 key as PKCS8 DER". -/
  | encodeKey
  /-- rcgen rejected the key or failed to sign. -/
  | selfSign
  /-- "building rustls ServerConfig", "building rustls ClientConfig". -/
  | config
  /-- `CertificateError::ApplicationVerificationFailure`. -/
  | certificate
  /-- The signature does not verify. -/
  | signature
  deriving Repr, DecidableEq

/-- `PskIdentity`. -/
structure PskIdentity where
  certDer : List UInt8
  keyDer : List UInt8
  fingerprint : List UInt8
  deriving Repr, DecidableEq

/-- The parameters that `derive` sets; all of them but the serial number are constants. -/
def certParams (seed : List UInt8) : CertParams where
  subjectAltName := "zerowire-psk.local"
  commonName := "zerowire-psk"
  keyUsages := ["DigitalSignature", "KeyAgreement"]
  notBefore := (2020, 1, 1)
  notAfter := (2099, 12, 31)
  serialNumber := (libs.sha256 seed).take 16

/-- `PskIdentity::derive`. -/
def PskIdentity.derive (pairingCode : String) : Except TlsError PskIdentity :=
  let seed := deriveTlsCertSeed libs pairingCode
  match libs.pkcs8 seed with
  | none => .error .encodeKey
  | some key =>
      match libs.selfSigned (certParams libs seed) key with
      | none => .error .selfSign
      | some cert => .ok ⟨cert, key, libs.sha256 cert⟩

/-! ### The verifier -/

/-- The versions of the protocol. -/
inductive TlsVersion where
  | tls12
  | tls13
  deriving Repr, DecidableEq

/-- The cargo features of rustls that the crate enables. -/
inductive RustlsFeature where
  | ring
  | std
  | tls12
  deriving Repr, DecidableEq

/-- `features` of the rustls dependency in `desktop-linux/Cargo.toml`. -/
def rustlsFeatures : List RustlsFeature := [.ring, .std, .tls12]

/-- The versions that are compiled in, which a builder enables unless it is told otherwise. -/
def compiledVersions (features : List RustlsFeature) : List TlsVersion :=
  if .tls12 ∈ features then [.tls13, .tls12] else [.tls13]

/-- The callbacks through which rustls asks about a peer. -/
structure PeerVerifier where
  verifyCert : (endEntity : List UInt8) → Except TlsError Unit
  verifyTls12Signature : (message cert : List UInt8) → libs.Dss → Except TlsError Unit
  verifyTls13Signature : (message cert : List UInt8) → libs.Dss → Except TlsError Unit

/-- `PinnedPeerVerifier`: the certificate that the peer must present. -/
structure PinnedPeerVerifier where
  expected : List UInt8
  deriving Repr, DecidableEq

namespace PinnedPeerVerifier

/-- `PinnedPeerVerifier::matches`: the bytewise differences, collected. -/
def «matches» (v : PinnedPeerVerifier) (presented : List UInt8) : Bool :=
  if v.expected.length ≠ presented.length then false
  else (v.expected.zip presented).foldl (fun diff p => diff ||| (p.1 ^^^ p.2)) 0 == 0

/-- The body that `verify_server_cert` and `verify_client_cert` share. -/
def verifyCert (v : PinnedPeerVerifier) (endEntity : List UInt8) : Except TlsError Unit :=
  if v.matches endEntity then .ok () else .error .certificate

/-- The body of `verify_tls13_signature` in both implementations. -/
def verifyTls13 (message cert : List UInt8) (dss : libs.Dss) : Except TlsError Unit :=
  if libs.verifyTls13Signature message cert dss then .ok () else .error .signature

/-- `impl ServerCertVerifier`, which a client uses. -/
def asServerCertVerifier (v : PinnedPeerVerifier) : PeerVerifier libs where
  verifyCert := v.verifyCert
  -- "We're TLS 1.3-only in `supported_protocol_versions` below, so this shouldn't be called."
  verifyTls12Signature _ _ _ := .ok ()
  verifyTls13Signature := verifyTls13 libs

/-- `impl ClientCertVerifier`, which a server uses. -/
def asClientCertVerifier (v : PinnedPeerVerifier) : PeerVerifier libs where
  verifyCert := v.verifyCert
  verifyTls12Signature _ _ _ := .ok ()
  verifyTls13Signature := verifyTls13 libs

end PinnedPeerVerifier

/-! ### The configurations -/

/-- A rustls configuration: how it judges the peer, what it presents, and the versions it
negotiates. -/
structure TlsConfig where
  verifier : PeerVerifier libs
  certChain : List (List UInt8)
  key : List UInt8
  versions : List TlsVersion

/-- The end of both configuration functions: install the own certificate, which can fail.  No
versions are named, so all that are compiled in are enabled. -/
def buildConfig (verifier : PeerVerifier libs) (identity : PskIdentity) :
    Except TlsError (TlsConfig libs) :=
  if libs.takesIdentity identity.certDer identity.keyDer then
    .ok ⟨verifier, [identity.certDer], identity.keyDer, compiledVersions rustlsFeatures⟩
  else .error .config

/-- `server_config`. -/
def serverConfig (identity : PskIdentity) : Except TlsError (TlsConfig libs) :=
  buildConfig libs (PinnedPeerVerifier.asClientCertVerifier libs ⟨identity.certDer⟩) identity

/-- `client_config`. -/
def clientConfig (identity : PskIdentity) : Except TlsError (TlsConfig libs) :=
  buildConfig libs (PinnedPeerVerifier.asServerCertVerifier libs ⟨identity.certDer⟩) identity

/-- The two ends of a connection. -/
inductive TlsRole where
  | server
  | client
  deriving Repr, DecidableEq

/-- The configuration of an end. -/
def TlsRole.config (identity : PskIdentity) : TlsRole → Except TlsError (TlsConfig libs)
  | .server => serverConfig libs identity
  | .client => clientConfig libs identity

/-- rustls accepts a peer when the certificate callback and the signature callback of the
negotiated version both return `Ok`. -/
def TlsConfig.accepts {libs : TlsLibs} (c : TlsConfig libs) (v : TlsVersion)
    (cert message : List UInt8) (dss : libs.Dss) : Prop :=
  c.verifier.verifyCert cert = .ok () ∧
    match v with
    | .tls12 => c.verifier.verifyTls12Signature message cert dss = .ok ()
    | .tls13 => c.verifier.verifyTls13Signature message cert dss = .ok ()

/-! ### Who is accepted -/

/-- No difference was collected: there was none before, and there is none in the rest. -/
theorem foldl_xor_eq_zero_iff (ps : List (UInt8 × UInt8)) (d : UInt8) :
    ps.foldl (fun diff p => diff ||| (p.1 ^^^ p.2)) d = 0 ↔ d = 0 ∧ ∀ p ∈ ps, p.1 = p.2 := by
  induction ps generalizing d with
  | nil => simp
  | cons p ps ih => simp [ih, and_assoc]

/-- **The comparison is equality.** -/
theorem PinnedPeerVerifier.matches_iff (v : PinnedPeerVerifier) (presented : List UInt8) :
    v.matches presented = true ↔ presented = v.expected := by
  rw [PinnedPeerVerifier.matches]
  by_cases hlen : v.expected.length ≠ presented.length
  · rw [if_pos hlen]
    constructor
    · intro h
      cases h
    · rintro rfl
      exact absurd rfl hlen
  · rw [if_neg hlen, beq_iff_eq, foldl_xor_eq_zero_iff]
    rw [not_not] at hlen
    constructor
    · rintro ⟨-, hall⟩
      apply List.ext_getElem hlen.symm
      intro i h₁ h₂
      have hi : i < (v.expected.zip presented).length := by rw [List.length_zip]; omega
      have := hall _ (List.getElem_mem hi)
      rw [List.getElem_zip] at this
      exact this.symm
    · rintro rfl
      refine ⟨rfl, ?_⟩
      intro p hp
      obtain ⟨i, hi, rfl⟩ := List.getElem_of_mem hp
      rw [List.getElem_zip]

theorem PinnedPeerVerifier.verifyCert_eq_ok_iff (v : PinnedPeerVerifier) (cert : List UInt8) :
    v.verifyCert cert = .ok () ↔ cert = v.expected := by
  rw [← v.matches_iff cert, PinnedPeerVerifier.verifyCert]
  cases v.matches cert <;> simp

/-- Both configurations have the callbacks of `PinnedPeerVerifier` for the derived certificate, and
negotiate both versions. -/
theorem config_eq_ok {libs : TlsLibs} {identity : PskIdentity} {role : TlsRole}
    {config : TlsConfig libs} (h : role.config libs identity = .ok config) :
    (∀ cert, config.verifier.verifyCert cert = .ok () ↔ cert = identity.certDer) ∧
    (∀ message cert dss, config.verifier.verifyTls12Signature message cert dss = .ok ()) ∧
    (∀ message cert dss, config.verifier.verifyTls13Signature message cert dss = .ok () ↔
      libs.verifyTls13Signature message cert dss = true) ∧
    ∀ v, v ∈ config.versions := by
  have hsig (message cert : List UInt8) (dss : libs.Dss) :
      PinnedPeerVerifier.verifyTls13 libs message cert dss = .ok () ↔
        libs.verifyTls13Signature message cert dss = true := by
    rw [PinnedPeerVerifier.verifyTls13]
    cases libs.verifyTls13Signature message cert dss <;> simp
  have hversions : ∀ v, v ∈ compiledVersions rustlsFeatures := by
    intro v
    cases v <;> decide
  -- both roles differ in the type of their verifier only
  have hbuild (verifier : PeerVerifier libs) (hb : buildConfig libs verifier identity = .ok config) :
      config.verifier = verifier ∧ config.versions = compiledVersions rustlsFeatures := by
    rw [buildConfig] at hb
    split_ifs at hb
    cases hb
    exact ⟨rfl, rfl⟩
  cases role with
  | server =>
      obtain ⟨hverifier, hv⟩ := hbuild _ h
      rw [hverifier, hv]
      exact ⟨PinnedPeerVerifier.verifyCert_eq_ok_iff ⟨identity.certDer⟩, fun _ _ _ => rfl, hsig,
        hversions⟩
  | client =>
      obtain ⟨hverifier, hv⟩ := hbuild _ h
      rw [hverifier, hv]
      exact ⟨PinnedPeerVerifier.verifyCert_eq_ok_iff ⟨identity.certDer⟩, fun _ _ _ => rfl, hsig,
        hversions⟩

section Accepts

variable {libs} {identity : PskIdentity} {role : TlsRole} {config : TlsConfig libs}

/-- Under TLS 1.3 a peer is accepted for its certificate and its signature. -/
theorem accepts_tls13_iff (h : role.config libs identity = .ok config) (cert message : List UInt8)
    (dss : libs.Dss) :
    config.accepts .tls13 cert message dss ↔
      cert = identity.certDer ∧ libs.verifyTls13Signature message cert dss = true := by
  obtain ⟨hcert, -, hsig, -⟩ := config_eq_ok h
  exact and_congr (hcert cert) (hsig message cert dss)

/-- Under TLS 1.2 a peer is accepted for its certificate alone. -/
theorem accepts_tls12_iff (h : role.config libs identity = .ok config) (cert message : List UInt8)
    (dss : libs.Dss) :
    config.accepts .tls12 cert message dss ↔ cert = identity.certDer := by
  obtain ⟨hcert, hsig, -, -⟩ := config_eq_ok h
  rw [TlsConfig.accepts, hcert]
  exact and_iff_left (hsig message cert dss)

/-- **Acceptance proves possession of the key exactly under TLS 1.3.**  For both ends, and for each
version that their configurations negotiate (which are both): that every accepted peer has presented
the certificate of the pairing code and signed the message with its key, is true of TLS 1.3 and
of no other version.  Of rustls it is assumed that `verify_tls13_signature` is right, and of
signatures that not every one is valid. -/
theorem possession_iff_tls13 {pairingCode : String}
    (hderive : PskIdentity.derive libs pairingCode = .ok identity)
    (hconfig : role.config libs identity = .ok config)
    (hverify : ∀ message cert dss,
      libs.verifyTls13Signature message cert dss = true ↔ libs.SignatureValid message cert dss)
    (hforged : ∃ message dss, ¬ libs.SignatureValid message identity.certDer dss)
    (v : TlsVersion) :
    v ∈ config.versions ∧
    ((∀ cert message dss, config.accepts v cert message dss →
      (PskIdentity.derive libs pairingCode).map PskIdentity.certDer = .ok cert ∧
        libs.SignatureValid message cert dss) ↔ v = .tls13) := by
  refine ⟨(config_eq_ok hconfig).2.2.2 v, ?_⟩
  cases v with
  | tls12 =>
      constructor
      · intro hall
        -- the callback for TLS 1.2 accepts any signature, a forged one as well
        obtain ⟨message, dss, hinvalid⟩ := hforged
        have haccept := (accepts_tls12_iff hconfig identity.certDer message dss).2 rfl
        exact absurd (hall _ _ _ haccept).2 hinvalid
      · intro hne
        cases hne
  | tls13 =>
      refine iff_of_true ?_ rfl
      intro cert message dss haccept
      obtain ⟨rfl, hsig⟩ := (accepts_tls13_iff hconfig cert message dss).1 haccept
      rw [hderive]
      exact ⟨rfl, (hverify _ _ _).1 hsig⟩

end Accepts

/-! ### An instance -/

/-- Libraries in which the signature of a message under a certificate is the two together. -/
def plainLibs : TlsLibs where
  hkdf _ ikm _ := ikm
  sha256 bytes := bytes
  pkcs8 seed := some seed
  selfSigned _ key := some key
  takesIdentity cert key := cert == key
  Dss := List UInt8
  verifyTls13Signature message cert dss := dss == message ++ cert
  SignatureValid message cert dss := dss = message ++ cert

/-- The identity of the pairing code `7`. -/
def plainIdentity : PskIdentity := ⟨[0x37], [0x37], [0x37]⟩

/-- The configuration of the server. -/
def plainConfig : TlsConfig plainLibs where
  verifier := PinnedPeerVerifier.asClientCertVerifier plainLibs ⟨[0x37]⟩
  certChain := [[0x37]]
  key := [0x37]
  versions := [.tls13, .tls12]

theorem possession_iff_tls13_plain :
    plainConfig.accepts .tls13 [0x37] [0] [0, 0x37] ∧
    (PskIdentity.derive plainLibs "7").map PskIdentity.certDer = .ok [0x37] ∧
    plainLibs.SignatureValid [0] [0x37] [0, 0x37] := by
  have hderive : PskIdentity.derive plainLibs "7" = .ok plainIdentity := rfl
  have hconfig : TlsRole.server.config plainLibs plainIdentity = .ok plainConfig := rfl
  have haccept : plainConfig.accepts .tls13 [0x37] [0] [0, 0x37] := ⟨rfl, rfl⟩
  refine ⟨haccept, ?_⟩
  exact (possession_iff_tls13 hderive hconfig (fun _ _ _ => beq_iff_eq)
    ⟨[0], [], by simp [plainLibs]⟩ .tls13).2.2 rfl _ _ _ haccept

/-- A peer that has only seen the certificate, and sends an empty signature, is accepted by a
server that negotiates TLS 1.2. -/
theorem tls12_accepts_forgery :
    serverConfig plainLibs plainIdentity = .ok plainConfig ∧ .tls12 ∈ plainConfig.versions ∧
    plainConfig.accepts .tls12 [0x37] [0] [] ∧ ¬ plainLibs.SignatureValid [0] [0x37] [] := by
  have hconfig : TlsRole.server.config plainLibs plainIdentity = .ok plainConfig := rfl
  exact ⟨hconfig, by decide, (accepts_tls12_iff hconfig _ _ _).2 rfl, by simp [plainLibs]⟩

end Zerowire
