import TechniqueScan.Catalogue.BuiltIn.Clause

/-!
The built-in signatures that show where stored credentials are reached,
and the rules over them.
-/

namespace TechniqueScan.BuiltIn

open Arithmetic

variable {α : Type} [Arithmetic α]

/-- What is declared for the category `keychain`. -/
def keychain : CatalogueFile α where
  version := 1
  category := "keychain"
  signatures :=
    [ { id := "keychain.secitem_read"
        description := "Reads keychain items"
        weight := decimal 55 2
        clauses := [symbols ["SecItemCopyMatching"]] },
      { id := "keychain.secitem_write"
        description := "Adds, updates or deletes keychain items"
        weight := decimal 4 1
        clauses := [symbols ["SecItemAdd", "SecItemUpdate", "SecItemDelete"]] },
      { id := "keychain.legacy_keychain"
        description := "Legacy SecKeychain API usage"
        weight := decimal 5 1
        clauses := [regex .symbol "^SecKeychain(FindGenericPassword|FindInternetPassword|ItemCopyContent|Unlock|CopyDefault)"] },
      { id := "keychain.common_crypto"
        description := "CommonCrypto primitives"
        weight := decimal 2 1
        clauses := [symbols ["CCCrypt", "CCHmac", "CCKeyDerivationPBKDF", "CCCryptorCreate"]] },
      { id := "keychain.local_authentication"
        description := "Biometric or passcode authentication"
        weight := decimal 25 2
        clauses := [strings ["LAContext", "evaluatePolicy:localizedReason:reply:"]] },
      { id := "keychain.certificate_identity"
        description := "Certificate and identity management"
        weight := decimal 25 2
        clauses := [regex .symbol "^Sec(Certificate|Identity|Trust)[A-Z]"] },
      { id := "keychain.credential_strings"
        description := "Credential-related string constants"
        weight := decimal 3 1
        clauses := [regex .string "(?i)(password|passwd|api[_-]?key|secret[_-]?key|auth[_-]?token)"] },
      { id := "keychain.secure_enclave"
        description := "Secure Enclave key generation"
        weight := decimal 3 1
        clauses := [strings ["kSecAttrTokenIDSecureEnclave"]] },
      { id := "keychain.keychain_dump_paths"
        description := "Direct access to keychain database files"
        weight := decimal 65 2
        clauses := [strings ["login.keychain", "keychain-2.db", "/Library/Keychains/"]] } ]
  rules :=
    [ { id := "keychain.credential_harvest"
        description := "Keychain reads combined with credential strings"
        signatures := ["keychain.secitem_read", "keychain.credential_strings"]
        boost := decimal 1 1 } ]

end TechniqueScan.BuiltIn
