import WebsocketClient.Utils
import WebsocketClient.Http
import WebsocketClient.Transport

/-! `impl/wshandshake.cpp`: the texts of the opening handshake and their parsers.
The hash and the random bytes of a key come from outside and are parameters. -/

namespace WebsocketClient.Handshake
open ByteString Http Utils Transports

abbrev Digest := { digest : Bytes // digest.length = 20 }
abbrev Key := { key : Bytes // key.length = 16 }

structure WsHandshake where
  mHost : Bytes := []
  mPath : Bytes := []
  mProtocols : List Bytes := []
  mKey : Bytes := []
  deriving DecidableEq, Repr

def WsHandshake.new (host path : Bytes) (protocols : List Bytes) : Except Exception WsHandshake :=
  if host = [] then .error (.invalidArgument (text "WebSocket HTTP host cannot be empty"))
  else if path = [] then .error (.invalidArgument (text "WebSocket HTTP path cannot be empty"))
  else .ok { mHost := host, mPath := path, mProtocols := protocols }

def crlf : Bytes := [cr, lf]

def protocolHeader (protocols : List Bytes) : Bytes :=
  if protocols = [] then []
  else text "Sec-WebSocket-Protocol: " ++ implode protocols comma ++ crlf

def generateKey (random : Key) : Bytes := base64Encode random

def computeAcceptKey (sha1 : Bytes → Digest) (key : Bytes) : Bytes :=
  base64Encode (sha1 (key ++ text "258EAFA5-E914-47DA-95CA-C5AB0DC85B11"))

def WsHandshake.generateHttpRequest (h : WsHandshake) (random : Key) : WsHandshake × Bytes :=
  let key := generateKey random
  ({ h with mKey := key },
    text "GET " ++ h.mPath ++ text " HTTP/1.1" ++ crlf ++
    text "Host: " ++ h.mHost ++ crlf ++
    text "Connection: Upgrade" ++ crlf ++
    text "Upgrade: websocket" ++ crlf ++
    text "Sec-WebSocket-Version: 13" ++ crlf ++
    text "Sec-WebSocket-Key: " ++ key ++ crlf ++
    protocolHeader h.mProtocols ++
    crlf)

def WsHandshake.generateHttpResponse (sha1 : Bytes → Digest) (h : WsHandshake) : Bytes :=
  text "HTTP/1.1 101 Switching Protocols" ++ crlf ++
  text "Server: libdatachannel" ++ crlf ++
  text "Connection: Upgrade" ++ crlf ++
  text "Upgrade: websocket" ++ crlf ++
  text "Sec-WebSocket-Accept: " ++ computeAcceptKey sha1 h.mKey ++ crlf ++
  protocolHeader h.mProtocols ++
  crlf

def getHttpErrorName : Nat → Bytes
  | 400 => text "Bad Request"
  | 404 => text "Not Found"
  | 405 => text "Method Not Allowed"
  | 426 => text "Upgrade Required"
  | 500 => text "Internal Server Error"
  | _ => text "Error"

def generateHttpError (responseCode : Nat) : Bytes :=
  let error := text (toString responseCode) ++ text " " ++ getHttpErrorName responseCode
  text "HTTP/1.1 " ++ error ++ crlf ++
  text "Server: libdatachannel" ++ crlf ++
  text "Content-Type: text/plain" ++ crlf ++
  text "Content-Length: " ++ text (toString error.length) ++ crlf ++
  text "Access-Control-Allow-Origin: *" ++ crlf ++ crlf ++
  error

/-- The part of `parseHttpRequest` behind the complete head. Fields set before an
exception keep their new values. -/
def WsHandshake.readRequest (h : WsHandshake) :
    List Bytes → WsHandshake × Except Exception Unit
  | [] => (h, .error (.requestError (text "Invalid HTTP request for WebSocket") 400))
  | requestLine :: lines =>
      let (method, stream) := extractWord requestLine
      let (path, _) := extractWord stream
      if method ≠ text "GET" then
        (h, .error (.requestError
          (text "Invalid request method \"" ++ method ++ text "\" for WebSocket") 405))
      else
        let h := { h with mPath := path }
        let headers := parseHttpHeaders lines
        match find headers (text "host") with
        | none => (h, .error (.requestError (text "WebSocket host header missing in request") 400))
        | some host =>
          let h := { h with mHost := host }
          match find headers (text "upgrade") with
          | none =>
            (h, .error (.requestError (text "WebSocket upgrade header missing in request") 426))
          | some upgrade =>
            if upgrade.map toLower ≠ text "websocket" then
              (h, .error (.requestError (text "WebSocket upgrade header mismatching") 426))
            else
              match find headers (text "sec-websocket-key") with
              | none =>
                (h, .error (.requestError (text "WebSocket key header missing in request") 400))
              | some key =>
                let h := { h with mKey := key }
                match find headers (text "sec-websocket-protocol") with
                | none => (h, .ok ())
                | some protocols => ({ h with mProtocols := explode protocols comma }, .ok ())

/-- The length of the request, zero while its head is incomplete. -/
def WsHandshake.parseHttpRequest (h : WsHandshake) (buffer : Bytes) :
    WsHandshake × Except Exception Nat :=
  if isHttpRequest buffer = false then
    (h, .error (.requestError (text "Invalid HTTP request for WebSocket") 400))
  else
    let (length, lines) := parseHttpLines buffer
    if length = 0 then (h, .ok 0)
    else
      let (h, result) := h.readRequest lines
      (h, result.map (fun _ => length))

/-- The part of `parseHttpResponse` behind the complete head. -/
def WsHandshake.readResponse (sha1 : Bytes → Digest) (h : WsHandshake) :
    List Bytes → Except Exception Unit
  | [] => .error (.handshakeError (text "Invalid HTTP response for WebSocket"))
  | status :: lines =>
      let (_, stream) := extractWord status
      let code := extractUnsigned stream
      if code ≠ 101 then
        .error (.runtimeError
          (text "Unexpected response code " ++ text (toString code) ++ text " for WebSocket"))
      else
        let headers := parseHttpHeaders lines
        match find headers (text "upgrade") with
        | none => .error (.handshakeError (text "WebSocket update header missing"))
        | some upgrade =>
          if upgrade.map toLower ≠ text "websocket" then
            .error (.handshakeError (text "WebSocket update header mismatching"))
          else
            match find headers (text "sec-websocket-accept") with
            | none => .error (.handshakeError (text "WebSocket accept header missing"))
            | some accept =>
              if accept ≠ computeAcceptKey sha1 h.mKey then
                .error (.handshakeError (text "WebSocket accept header is invalid"))
              else .ok ()

/-- The length of the response, zero while its head is incomplete. -/
def WsHandshake.parseHttpResponse (sha1 : Bytes → Digest) (h : WsHandshake) (buffer : Bytes) :
    Except Exception Nat :=
  let (length, lines) := parseHttpLines buffer
  if length = 0 then .ok 0
  else (h.readResponse sha1 lines).map (fun _ => length)

end WebsocketClient.Handshake
