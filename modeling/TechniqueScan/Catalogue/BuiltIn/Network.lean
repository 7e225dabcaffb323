import TechniqueScan.Catalogue.BuiltIn.Clause

/-!
The built-in signatures that show where a program communicates over the network,
and the rules over them.
-/

namespace TechniqueScan.BuiltIn

open Arithmetic

variable {α : Type} [Arithmetic α]

/-- What is declared for the category `network`. -/
def network : CatalogueFile α where
  version := 1
  category := "network"
  signatures :=
    [ { id := "network.bsd_socket"
        description := "BSD socket creation"
        weight := decimal 3 1
        clauses := [symbols ["socket"]] },
      { id := "network.socket_connect"
        description := "Outbound socket connection"
        weight := decimal 35 2
        clauses := [symbols ["connect", "connectx"]] },
      { id := "network.socket_listen"
        description := "Listening socket (bind / listen / accept)"
        weight := decimal 4 1
        clauses := [symbols ["bind"],
                    symbols ["listen", "accept"]] },
      { id := "network.raw_io"
        description := "Socket send and receive"
        weight := decimal 2 1
        clauses := [symbols ["send", "sendto", "sendmsg", "recv", "recvfrom", "recvmsg"]] },
      { id := "network.nsurlsession"
        description := "Foundation URL loading"
        weight := decimal 25 2
        clauses := [strings ["NSURLSession", "NSURLConnection",
                             "dataTaskWithRequest:completionHandler:"]] },
      { id := "network.cfnetwork"
        description := "CFNetwork streams and HTTP messages"
        weight := decimal 25 2
        clauses := [regex .symbol "^CF(Stream|HTTPMessage|ReadStream|WriteStream|Socket)"] },
      { id := "network.network_framework"
        description := "Network.framework connections"
        weight := decimal 25 2
        clauses := [regex .symbol "^nw_(connection|listener|endpoint|parameters)_"] },
      { id := "network.tls"
        description := "TLS via SecureTransport or OpenSSL"
        weight := decimal 2 1
        clauses := [symbols ["SSLHandshake", "SSLCreateContext", "SSL_connect", "SSL_CTX_new",
                             "sec_protocol_options_set_verify_block"]] },
      { id := "network.urls"
        description := "Embedded HTTP(S) or WebSocket URLs"
        weight := decimal 15 2
        clauses := [regex .string "(?i)\\b(https?|wss?)://[a-z0-9.-]+"] },
      { id := "network.ipv4_literals"
        description := "Embedded IPv4 address literals"
        weight := decimal 2 1
        clauses := [regex .string "\\b(25[0-5]|2[0-4][0-9]|1?[0-9]?[0-9])(\\.(25[0-5]|2[0-4][0-9]|1?[0-9]?[0-9]))\x7b3\x7d\\b"] },
      { id := "network.dns_lookup"
        description := "Hostname resolution"
        weight := decimal 15 2
        clauses := [symbols ["getaddrinfo", "gethostbyname", "CFHostStartInfoResolution"]] } ]
  rules :=
    [ { id := "network.client_connection"
        description := "Resolves, opens and connects a socket in one routine"
        signatures := ["network.dns_lookup", "network.bsd_socket", "network.socket_connect"]
        boost := decimal 1 1 },
      { id := "network.bind_shell"
        description := "Listening socket with socket I/O"
        signatures := ["network.socket_listen", "network.raw_io"]
        boost := decimal 15 2 } ]

end TechniqueScan.BuiltIn
