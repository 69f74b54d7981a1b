/-!
# Faults of the protocol

What can be wrong with a message of the service, apart from how it was carried.
-/

namespace RemoteFiles

/-- A fault in what the service sent or in what can be answered to it. -/
inductive ProtocolError
  /-- A challenge without any text. -/
  | emptyChallenge
  /-- A challenge for a scheme that has no answer here. -/
  | unsupportedScheme (name : String)
  /-- A challenge without a directive that its answer needs. -/
  | malformedChallenge (directive : String)
  /-- A digest challenge for an unknown hash function. -/
  | unsupportedAlgorithm (name : String)
  /-- A body that is not the listing, entry or identity it should be. -/
  | malformedListing (reason : String)
  /-- A text that no header can carry. -/
  | invalidHeader (value : String)
  deriving DecidableEq, Repr

/-- The text shown for a fault. -/
def ProtocolError.message : ProtocolError → String
  | .emptyChallenge => "empty authentication challenge"
  | .unsupportedScheme name => "unsupported authentication scheme: " ++ name
  | .malformedChallenge directive => "malformed challenge: missing " ++ directive
  | .unsupportedAlgorithm name => "unsupported digest algorithm: " ++ name
  | .malformedListing reason => "malformed listing: " ++ reason
  | .invalidHeader value => "invalid header value: " ++ value

end RemoteFiles
