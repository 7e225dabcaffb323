import TechniqueScan.Catalogue.BuiltIn.Clause

/-!
The built-in signatures that show where a program is commanded from outside,
and the rules over them.
-/

namespace TechniqueScan.BuiltIn

open Arithmetic

variable {α : Type} [Arithmetic α]

/-- What is declared for the category `c2`. -/
def commandAndControl : CatalogueFile α where
  version := 1
  category := "c2"
  signatures :=
    [ { id := "c2.cobalt_strike_markers"
        description := "Cobalt Strike beacon markers"
        weight := decimal 85 2
        clauses := [strings ["beacon.dll", "ReflectiveLoader", "%s as %s\\%s: %d", "MSSE-"]] },
      { id := "c2.metasploit_markers"
        description := "Metasploit / Meterpreter markers"
        weight := decimal 8 1
        clauses := [strings ["meterpreter", "metsrv", "stdapi_", "ext_server_"]] },
      { id := "c2.empire_markers"
        description := "Empire or Sliver framework markers"
        weight := decimal 8 1
        clauses := [strings ["EmPyre", "empire_agent", "sliverpb", "sliver-client"]] },
      { id := "c2.beacon_sleep"
        description := "Sleep calls typical of periodic beaconing"
        weight := decimal 2 1
        clauses := [symbols ["sleep", "usleep", "nanosleep"]] },
      { id := "c2.jitter_random"
        description := "Random jitter source near sleep intervals"
        weight := decimal 15 2
        clauses := [symbols ["arc4random", "arc4random_uniform", "random"]] },
      { id := "c2.base64_codec"
        description := "Base64 encoding of traffic"
        weight := decimal 2 1
        clauses := [regex .symbol "(?i)base64(encode|decode|EncodedString)?"] },
      { id := "c2.symmetric_crypto"
        description := "Symmetric crypto over payload data"
        weight := decimal 25 2
        clauses := [symbols ["CCCrypt", "CCCryptorCreate", "EVP_EncryptInit_ex", "AES_encrypt"]] },
      { id := "c2.dns_resolution"
        description := "Direct DNS queries"
        weight := decimal 2 1
        clauses := [symbols ["res_query", "res_search", "DNSServiceQueryRecord", "getaddrinfo"]] },
      { id := "c2.dga_hashing"
        description := "Hash-derived hostnames (domain generation)"
        weight := decimal 35 2
        clauses := [symbols ["CC_MD5", "CC_SHA1", "MD5", "SHA1"],
                    regex .string "%[0-9]*[sx]\\.(com|net|org|info|biz)"] },
      { id := "c2.compression"
        description := "Data compression before exfiltration"
        weight := decimal 15 2
        clauses := [symbols ["compress", "compress2", "deflate", "compression_encode_buffer"]] },
      { id := "c2.http_client"
        description := "HTTP client request construction"
        weight := decimal 2 1
        clauses := [symbols ["NSURLSession", "CFHTTPMessageCreateRequest", "curl_easy_perform"]] } ]
  rules :=
    [ { id := "c2.beacon_loop"
        description := "Sleep with random jitter in one routine"
        signatures := ["c2.beacon_sleep", "c2.jitter_random"]
        boost := decimal 15 2 },
      { id := "c2.encrypted_beacon"
        description := "Encrypted and encoded outbound traffic"
        signatures := ["c2.symmetric_crypto", "c2.base64_codec", "c2.http_client"]
        boost := decimal 2 1 } ]

end TechniqueScan.BuiltIn
