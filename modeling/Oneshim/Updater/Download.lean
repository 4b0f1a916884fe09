/-
  Downloading an update (`src-tauri/src/updater/install.rs`, `delta.rs`).

  A download streams the asset to a fresh temporary file and then checks it: the URL's host is on
  the allow list, the digest is the one published beside the asset (`{url}.sha256`), and, when the
  configuration asks for it, the signature (`{url}.sig`) is valid under a trusted key.

  The `url`, `sha2`, `base64`, `ed25519_dalek` and `bsdiff` crates are parameters (`Crates`), and so
  is the network.  A temporary file remembers where its bytes come from (`Origin`); the code reads
  only its name and its bytes.
-/
import Oneshim.Lib.Hex
import Oneshim.Updater.Release

namespace Oneshim

open Lib

/-! ## Data -/

/-- `reqwest::Url`, as far as it is read. -/
structure Url where
  text : String
  scheme : String
  host : Option String
  pathSegments : Option (List String)

/-- What the updater uses of other crates. -/
structure Crates where
  /-- `Url::parse`. -/
  parseUrl : String → Except String Url
  /-- `Sha256::digest`. -/
  sha256 : List UInt8 → List UInt8
  /-- `STANDARD.decode`. -/
  base64Decode : String → Except String (List UInt8)
  /-- Is it a valid signature under the key?  Key, payload, signature. -/
  ed25519Verify : List UInt8 → List UInt8 → List UInt8 → Bool
  /-- The text of a `FromUtf8Error`. -/
  utf8Error : List UInt8 → String

/-- A response, with its whole body. -/
structure HttpResponse where
  status : HttpStatus
  body : Except String (List UInt8)

/-- The network: what a `GET` of a URL gives. -/
abbrev Network := String → Except String HttpResponse

/-- Where the bytes of a temporary file come from. -/
inductive Origin where
  | downloaded (url : String)
  | patched (patch : Origin)
deriving DecidableEq

/-- A file in the temporary directory. -/
structure TempFile where
  fileName : String
  bytes : List UInt8
  origin : Origin
deriving DecidableEq

/-- Creating a temporary file: the time stamp in its name, and how the file operations end. -/
structure TempDir where
  unique : Int
  write : Except String Unit

/-! ## URLs -/

/-- `ALLOWED_DOWNLOAD_HOSTS`. -/
def allowedDownloadHosts : List String :=
  ["github.com", "api.github.com", "objects.githubusercontent.com", "githubusercontent.com"]

/-- `is_allowed_download_host`: one of the hosts, or below one. -/
def isAllowedDownloadHost (host : String) : Bool :=
  allowedDownloadHosts.any fun allowed =>
    host = allowed || ("." ++ allowed).toList.isSuffixOf host.toList

/-- `validate_download_url`. -/
def validateDownloadUrl (crates : Crates) (url : String) : Except UpdateError Url :=
  match crates.parseUrl url with
  | .error e => .error (.download ("Failed to parse download URL: " ++ e))
  | .ok parsed =>
    match parsed.host with
    | none => .error (.download "Download URL host is missing")
    | some host =>
      if parsed.scheme ≠ "https" then
        .error (.download ("Only HTTPS download URLs are allowed: " ++ parsed.text))
      else if !isAllowedDownloadHost host then
        .error (.download ("Disallowed download host: " ++ host))
      else .ok parsed

/-! ## Checksums -/

/-- `sha256_hex`. -/
def sha256Hex (crates : Crates) (bytes : List UInt8) : String :=
  Hex.encodeLower (crates.sha256 bytes)

/-- `is_ascii_hexdigit`. -/
def isAsciiHexdigit (c : Char) : Bool :=
  c.isDigit || ('a' ≤ c && c ≤ 'f') || ('A' ≤ c && c ≤ 'F')

/-- `parse_sha256_manifest`: the first word, in lower case, when it is 64 hex digits. -/
def parseSha256Manifest (content : String) : Except UpdateError String :=
  match Text.firstWord content.toList with
  | none => .error (.integrity "Checksum file is empty")
  | some word =>
    let hash := Text.lower word
    if hash.length = 64 ∧ hash.all isAsciiHexdigit then .ok (String.ofList hash)
    else .error (.integrity ("Invalid SHA-256 format: " ++ String.ofList hash))

/-- A file published beside an asset: its text, at the asset's URL with an ending. -/
def fetchSidecar (crates : Crates) (network : Network) (downloadUrl : Url)
    (ending kind : String) : Except UpdateError String :=
  match crates.parseUrl (downloadUrl.text ++ ending) with
  | .error e => .error (.integrity ("Failed to parse " ++ kind ++ " URL: " ++ e))
  | .ok url =>
    match validateDownloadUrl crates url.text with
    | .error e => .error e
    | .ok _ =>
      match network url.text with
      | .error e => .error (.apiRequest e)
      | .ok response =>
        if !response.status.isSuccess then
          .error (.integrity ("Failed to download " ++ kind ++ " file: HTTP " ++
            response.status.display ++ " (" ++ url.text ++ ")"))
        else
          match response.body with
          | .error e => .error (.apiRequest e)
          | .ok bytes =>
            match String.fromUTF8? ⟨bytes.toArray⟩ with
            | none =>
              .error (.integrity ("Invalid " ++ kind ++ " file encoding: " ++
                crates.utf8Error bytes))
            | some content => .ok content

/-- `fetch_expected_sha256`. -/
def fetchExpectedSha256 (crates : Crates) (network : Network) (downloadUrl : Url) :
    Except UpdateError String :=
  match fetchSidecar crates network downloadUrl ".sha256" "checksum" with
  | .error e => .error e
  | .ok content => parseSha256Manifest content

/-! ## Signatures -/

/-- `TRUSTED_PUBLIC_KEYS`. -/
def trustedPublicKeys : List String := ["GIdf7Wg4kvvvoT7jR0xwKLKna8hUR1kvowONbHbPz1E="]

/-- `fetch_signature`. -/
def fetchSignature (crates : Crates) (network : Network) (downloadUrl : Url) :
    Except UpdateError (List UInt8) :=
  match fetchSidecar crates network downloadUrl ".sig" "signature" with
  | .error e => .error e
  | .ok content =>
    match Text.firstWord content.toList with
    | none => .error (.integrity "Signature file is empty")
    | some word =>
      match crates.base64Decode (String.ofList word) with
      | .error e => .error (.integrity ("Failed to decode signature base64: " ++ e))
      | .ok signature => .ok signature

/-- `try_verify_with_key_b64`: did the key validate the signature? -/
def tryVerifyWithKeyB64 (crates : Crates) (keyB64 : String) (payload signature : List UInt8) :
    Bool :=
  match crates.base64Decode keyB64 with
  | .error _ => false
  | .ok key => decide (key.length = 32) && crates.ed25519Verify key payload signature

/-- `verify_signature_with_keys`: a trusted key, or a configured one that is not among them. -/
def verifySignatureWithKeys (crates : Crates) (trusted : List String) (configured : Option String)
    (payload signature : List UInt8) : Except UpdateError Unit :=
  if signature.length ≠ 64 then
    .error (.integrity ("Invalid signature length: " ++ toString signature.length ++
      " bytes (expected 64)"))
  else if trusted.any (tryVerifyWithKeyB64 crates · payload signature) then .ok ()
  else
    match configured with
    | some key =>
      if !trusted.contains key && tryVerifyWithKeyB64 crates key payload signature then .ok ()
      else .error (.integrity "no trusted key validated the signature")
    | none => .error (.integrity "no trusted key validated the signature")

/-- `verify_signature`. -/
def verifySignature (crates : Crates) (config : UpdateConfig) (payload signature : List UInt8) :
    Except UpdateError Unit :=
  let configured := (Text.firstWord config.signaturePublicKey.toList).map String.ofList
  verifySignatureWithKeys crates trustedPublicKeys configured payload signature

/-! ## The download -/

/-- The name of the temporary file for a URL: its last path segment, made unique. -/
def tempFileName (unique : Int) (url : Url) : String :=
  let fileName := (url.pathSegments.bind List.getLast?).getD "oneshim-update"
  "oneshim-" ++ toString unique ++ "-" ++ String.ofList (Text.trim fileName.toList)

/-- The integrity checks of a download. -/
def verifyDownload (crates : Crates) (config : UpdateConfig) (network : Network) (url : Url)
    (bytes : List UInt8) : Except UpdateError Unit :=
  match fetchExpectedSha256 crates network url with
  | .error e => .error e
  | .ok expected =>
    if sha256Hex crates bytes ≠ expected then
      .error (.integrity ("Checksum mismatch: expected=" ++ expected ++ ", actual=" ++
        sha256Hex crates bytes))
    else if config.requireSignatureVerification then
      match fetchSignature crates network url with
      | .error e => .error e
      | .ok signature => verifySignature crates config bytes signature
    else .ok ()

/-- `download_update_with_progress`. -/
def downloadUpdateWithProgress (crates : Crates) (config : UpdateConfig) (network : Network)
    (temp : TempDir) (downloadUrl : String) : Except UpdateError TempFile :=
  match validateDownloadUrl crates downloadUrl with
  | .error e => .error e
  | .ok url =>
    match network url.text with
    | .error e => .error (.apiRequest e)
    | .ok response =>
      if !response.status.isSuccess then
        .error (.download ("Download failed: HTTP " ++ response.status.display))
      else
        match temp.write with
        | .error e => .error (.filesystem e)
        | .ok () =>
          match response.body with
          | .error e => .error (.download ("Stream error: " ++ e))
          | .ok bytes =>
            match verifyDownload crates config network url bytes with
            | .error e => .error e
            | .ok () => .ok ⟨tempFileName temp.unique url, bytes, .downloaded downloadUrl⟩

/-- **A download succeeds only for what was asked for**, from an allowed host, and after the
    integrity checks. -/
theorem download_ok {crates : Crates} {config : UpdateConfig} {network : Network} {temp : TempDir}
    {downloadUrl : String} {file : TempFile}
    (h : downloadUpdateWithProgress crates config network temp downloadUrl = .ok file) :
    file.origin = .downloaded downloadUrl ∧
      ∃ url, validateDownloadUrl crates downloadUrl = .ok url ∧
        verifyDownload crates config network url file.bytes = .ok () := by
  unfold downloadUpdateWithProgress at h
  split at h
  · nomatch h
  next url hurl =>
  split at h
  · nomatch h
  split at h
  · nomatch h
  split at h
  · nomatch h
  split at h
  · nomatch h
  split at h
  · nomatch h
  next hverified =>
  injection h with h
  subst h
  exact ⟨rfl, url, hurl, hverified⟩

end Oneshim
