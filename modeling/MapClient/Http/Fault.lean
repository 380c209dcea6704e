/-!
# What can be wrong with an answer

The reasons for which no answer can be read from a connection: there is no
connection, the head of the response is malformed or missing, or its body ends
too early.
-/

set_option autoImplicit false

namespace MapClient.Http

inductive ConnectFault where
  | refused
  | unreachable
  deriving DecidableEq, Repr

def ConnectFault.message : ConnectFault → String
  | .refused => "Connection refused (os error 111)"
  | .unreachable => "Network is unreachable (os error 101)"

inductive HeadFault where
  | closed
  | version
  | status
  | header
  | contentLength
  | transferEncoding
  | tooLarge
  deriving DecidableEq, Repr

def HeadFault.message : HeadFault → String
  | .closed => "connection closed before message completed"
  | .version => "invalid HTTP version parsed"
  | .status => "invalid HTTP status-code parsed"
  | .header => "invalid HTTP header parsed"
  | .contentLength => "invalid content-length parsed"
  | .transferEncoding => "unexpected transfer-encoding parsed"
  | .tooLarge => "message head is too large"

inductive BodyFault where
  | cutShort
  | sizeLineCutShort
  | sizeMissing
  | sizeMalformed
  | sizeTooLarge
  | sizeBlank
  | sizeLineFeed
  | extensionLineFeed
  | extensionsTooLong
  | dataReturn
  | dataLineFeed
  | trailerLineFeed
  | endLineFeed
  deriving DecidableEq, Repr

def BodyFault.message : BodyFault → String
  | .cutShort => "end of file before message length reached"
  | .sizeLineCutShort => "unexpected EOF during chunk size line"
  | .sizeMissing => "Invalid chunk size line: missing size digit"
  | .sizeMalformed => "Invalid chunk size line: Invalid Size"
  | .sizeTooLarge => "invalid chunk size: overflow"
  | .sizeBlank => "Invalid chunk size linear white space"
  | .sizeLineFeed => "Invalid chunk size LF"
  | .extensionLineFeed => "invalid chunk extension contains newline"
  | .extensionsTooLong => "chunk extensions over limit"
  | .dataReturn => "Invalid chunk body CR"
  | .dataLineFeed => "Invalid chunk body LF"
  | .trailerLineFeed => "Invalid trailer end LF"
  | .endLineFeed => "Invalid chunk end LF"

end MapClient.Http
