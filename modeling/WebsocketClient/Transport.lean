import WebsocketClient.ByteString

/-! `impl/transport.hpp`: the states that every transport of the stack goes through, and the
exceptions its layers throw. -/

namespace WebsocketClient.Transports
open ByteString

inductive State where
  | disconnected
  | connecting
  | connected
  | completed
  | failed
  deriving DecidableEq, Repr

/-- `RequestError` carries the code of the
HTTP answer; what is not caught by its own type ends as `runtimeError`. -/
inductive Exception where
  | invalidArgument (what : Bytes)
  | runtimeError (what : Bytes)
  | handshakeError (what : Bytes)
  | requestError (what : Bytes) (responseCode : Nat)
  deriving DecidableEq, Repr

end WebsocketClient.Transports
