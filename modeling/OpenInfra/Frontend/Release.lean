import OpenInfra.Frame.Hex

namespace OpenInfra.FrontendRelease
open Frame List

def releaseDomain : Bytes := utf8 "openinfra-frontend-release-v1\x00"

structure ManifestFile where
  path : String
  sha256 : String
  size : Int64
  deriving DecidableEq

/-- The encoding tells a nil slice, `none`, from an empty one. -/
structure Manifest where
  schemaVersion : Int64
  releaseID : String
  cid : String
  files : Option (List ManifestFile)
  manifestSHA256 : String
  apiOrigin : String
  allowedLoginOrigins : Option (List String)
  previousCID : String
  releasedAt : String
  signature : String
  deriving DecidableEq

inductive Error where
  | emptyCID
  | unhashed
  | manifestTampered
  | invalidSignature
  deriving DecidableEq

/-- `encoding/json`, `crypto/sha256` and `crypto/ed25519` with one key pair. -/
structure Library where
  marshal : Manifest → Bytes
  sha256 : Bytes → Bytes
  sign : Bytes → Bytes
  verify : Bytes → Bytes → Bool
  sha256_size : (sha256 b).length = 32
  sign_size : (sign b).length = 64
  verify_sign : verify b (sign b) = true

def copied (xs : List A) : Option (List A) := if xs.isEmpty then none else some xs

def Manifest.blanked (m : Manifest) : Manifest :=
  { m with releaseID := "", manifestSHA256 := "", signature := "" }

def signingMessage (manifestSHA256Hex cid : String) : Bytes :=
  releaseDomain ++ utf8 manifestSHA256Hex ++ utf8 cid

namespace Library
variable (lib : Library)

def contentHash (m : Manifest) : String := hexEncode (lib.sha256 (lib.marshal m.blanked))

def buildManifest (cid : String) (files : List ManifestFile) (apiOrigin : String)
    (allowedLoginOrigins : List String) (previousCID releasedAt : String) :
    Except Error Manifest :=
  if cid = "" then .error .emptyCID
  else
    let m : Manifest := {
      schemaVersion := 1, releaseID := "", cid, manifestSHA256 := "", apiOrigin
      files := copied (files.mergeSort fun a b => a.path ≤ b.path)
      allowedLoginOrigins := copied allowedLoginOrigins
      previousCID, releasedAt, signature := "" }
    let hash := lib.contentHash m
    .ok { m with
      manifestSHA256 := hash
      releaseID := m.releasedAt ++ "-" ++ String.ofList (hash.toList.take 12) }

def signManifest (m : Manifest) : Except Error Manifest :=
  if m.manifestSHA256 = "" then .error .unhashed
  else .ok { m with
    signature := hexEncode (lib.sign (signingMessage m.manifestSHA256 m.cid)) }

def verifyManifest (m : Manifest) : Except Error Unit :=
  if lib.contentHash m ≠ m.manifestSHA256 then .error .manifestTampered
  else
    match hexDecode m.signature.toList with
    | none => .error .invalidSignature
    | some signature =>
      if signature.length = 64 ∧ lib.verify (signingMessage m.manifestSHA256 m.cid) signature then
        .ok ()
      else .error .invalidSignature

end Library

theorem signingMessage_inj (h : signingMessage a cid = signingMessage b cid')
    (hlength : a.length = b.length) : a = b ∧ cid = cid' := by
  simp only [signingMessage, append_assoc, append_cancel_left_eq, ← utf8_append] at h
  have hlist := congrArg String.toList (utf8_injective h)
  rw [String.toList_append, String.toList_append] at hlist
  obtain ⟨ha, hcid⟩ := append_inj hlist hlength
  exact ⟨String.toList_inj.1 ha, String.toList_inj.1 hcid⟩

variable {lib : Library} {m m' : Manifest}

theorem verifyManifest_eq_ok (hm : m.signature = hexEncode signature) :
    lib.verifyManifest m = .ok () ↔ lib.contentHash m = m.manifestSHA256 ∧
      signature.length = 64 ∧ lib.verify (signingMessage m.manifestSHA256 m.cid) signature := by
  unfold Library.verifyManifest
  rw [hm, hexDecode_hexEncode]
  split
  · exact ⟨nofun, fun h => absurd h.1 ‹_›⟩
  · rename_i hhash
    dsimp only
    split
    · exact ⟨fun _ => ⟨not_not.1 hhash, ‹_›⟩, fun _ => rfl⟩
    · exact ⟨nofun, fun h => absurd h.2 ‹_›⟩

theorem length_contentHash (m : Manifest) : (lib.contentHash m).length = 64 := by
  rw [Library.contentHash, length_hexEncode, lib.sha256_size]

theorem manifestSHA256_of_built (h : lib.buildManifest cid files apiOrigin allowedLoginOrigins
    previousCID releasedAt = .ok m) : lib.contentHash m = m.manifestSHA256 := by
  unfold Library.buildManifest at h
  split at h
  · cases h
  · cases h
    rfl

theorem signed_of_signManifest (h : lib.signManifest built = .ok m) : m = { built with
    signature := hexEncode (lib.sign (signingMessage built.manifestSHA256 built.cid)) } := by
  unfold Library.signManifest at h
  split at h
  · cases h
  · cases h
    rfl

theorem eq_of_blanked (h : m'.blanked = m.blanked) (hhash : m'.manifestSHA256 = m.manifestSHA256)
    (hsignature : m'.signature = m.signature) : m' = { m with releaseID := m'.releaseID } := by
  cases m'
  simp only [Manifest.blanked, Manifest.mk.injEq] at *
  simp only [h, hhash, hsignature, and_self]

/-- Accepted exactly if it is the signed manifest up to the release id, without collisions. -/
theorem verified_up_to_release_id (lib : Library) (built m : Manifest)
    (hbuilt : lib.buildManifest cid files apiOrigin allowedLoginOrigins previousCID releasedAt =
      .ok built) (hsigned : lib.signManifest built = .ok m) (hunforgeable : ∀ message,
      lib.verify message (lib.sign (signingMessage m.manifestSHA256 m.cid)) →
        message = signingMessage m.manifestSHA256 m.cid)
    (hfree : ∀ m' : Manifest, lib.sha256 (lib.marshal m'.blanked) =
      lib.sha256 (lib.marshal m.blanked) → m'.blanked = m.blanked) :
    lib.verifyManifest m = .ok () ∧ ∀ m' : Manifest, m'.signature = m.signature →
      (lib.verifyManifest m' = .ok () ↔ m' = { m with releaseID := m'.releaseID }) := by
  have hhash := manifestSHA256_of_built hbuilt
  obtain rfl := signed_of_signManifest hsigned
  refine ⟨(verifyManifest_eq_ok rfl).2 ⟨hhash, lib.sign_size, lib.verify_sign⟩, ?_⟩
  intro m' hsignature
  rw [verifyManifest_eq_ok hsignature]
  constructor
  · rintro ⟨hhash', _, hverify⟩
    have hlength : m'.manifestSHA256.length = built.manifestSHA256.length := by
      rw [← hhash', ← hhash, length_contentHash, length_contentHash]
    obtain ⟨hsame, _⟩ := signingMessage_inj (hunforgeable _ hverify) hlength
    have hdigest := hexEncode_injective (hhash'.trans (hsame.trans hhash.symm))
    exact eq_of_blanked (hfree m' hdigest) hsame hsignature
  · generalize m'.releaseID = releaseID
    rintro rfl
    exact ⟨hhash, lib.sign_size, lib.verify_sign⟩

private def sample : Manifest where
  schemaVersion := 1
  releaseID := ""
  cid := "bafy"
  files := none
  manifestSHA256 := ""
  apiOrigin := "https://api"
  allowedLoginOrigins := none
  previousCID := ""
  releasedAt := "now"
  signature := ""

private def sampleHash : String := hexEncode (replicate 32 0)

private def sampleSign (b : Bytes) : Bytes :=
  replicate 64 (if b = signingMessage sampleHash "bafy" then 0 else 1)

private def sampleLibrary : Library where
  marshal m := if m = sample then [0] else []
  sha256 b := replicate 32 (if b = [0] then 0 else 1)
  sign := sampleSign
  verify b signature := signature = sampleSign b
  sha256_size := length_replicate
  sign_size := length_replicate
  verify_sign := decide_eq_true rfl

private def sampleBuilt : Manifest :=
  { sample with
    manifestSHA256 := sampleHash
    releaseID := "now-" ++ String.ofList (sampleHash.toList.take 12) }

private def sampleSigned : Manifest :=
  { sampleBuilt with signature := hexEncode (sampleSign (signingMessage sampleHash "bafy")) }

private theorem sample_built :
    sampleLibrary.buildManifest "bafy" [] "https://api" [] "" "now" = .ok sampleBuilt := by
  decide +kernel

private theorem sample_signed : sampleLibrary.signManifest sampleBuilt = .ok sampleSigned := by
  decide +kernel

theorem verified_up_to_release_id_sample : sampleLibrary.verifyManifest sampleSigned = .ok () := by
  refine (verified_up_to_release_id sampleLibrary sampleBuilt _ sample_built sample_signed ?_ ?_).1
  · intro message h
    have hsign : replicate 64 0 = sampleSign message := of_decide_eq_true h
    unfold sampleSign at hsign
    split at hsign
    · rename_i hmessage
      exact hmessage
    · exact absurd hsign (by decide)
  · intro m' h
    have hdigest : sampleLibrary.sha256 (if m'.blanked = sample then [0] else []) =
        replicate 32 0 := h
    split at hdigest
    · rename_i hcontent
      exact hcontent
    · exact absurd hdigest (by decide)

theorem release_id_unsigned : sampleLibrary.signManifest sampleBuilt = .ok sampleSigned ∧
    ∃ m', m'.signature = sampleSigned.signature ∧ sampleLibrary.verifyManifest m' = .ok () ∧
      m' ≠ sampleSigned := by
  refine ⟨sample_signed, { sampleSigned with releaseID := "other" }, rfl, ?_, by decide +kernel⟩
  decide +kernel

end OpenInfra.FrontendRelease
