import ReplicaBootstrap.Fault
import ReplicaBootstrap.Text.Blank
import ReplicaBootstrap.Text.Quoted
import ReplicaBootstrap.Text.Utf8

/-! # Connection parameters

The parameters that a connection string can set, in the order in which they are listed, and what can
be wrong with such a string.
-/

namespace ReplicaBootstrap.Conninfo

abbrev Params := List (String × String)

def keywords : List String := [
    "service", "user", "password", "passfile", "channel_binding", "connect_timeout", "dbname",
    "host", "hostaddr", "port", "client_encoding", "options", "application_name",
    "fallback_application_name", "keepalives", "keepalives_idle", "keepalives_interval",
    "keepalives_count", "tcp_user_timeout", "sslmode", "sslnegotiation", "sslcompression",
    "sslcert", "sslkey", "sslcertmode", "sslpassword", "sslrootcert", "sslcrl", "sslcrldir",
    "sslsni", "requirepeer", "require_auth", "min_protocol_version", "max_protocol_version",
    "ssl_min_protocol_version", "ssl_max_protocol_version", "gssencmode", "krbsrvname", "gsslib",
    "gssdelegation", "replication", "target_session_attrs", "load_balance_hosts",
    "scram_client_key", "scram_server_key", "oauth_issuer", "oauth_client_id",
    "oauth_client_secret", "oauth_scope", "sslkeylogfile"]

inductive Error where
  | missingEquals (keyword : String)
  | unterminatedQuote
  | invalidOption (keyword : String)
  | unclosedAddress (uri : String)
  | emptyAddress (uri : String)
  | unexpectedCharacter (c : Char) (position : Nat) (uri : String)
  | missingSeparator (keyword : String)
  | extraSeparator (keyword : String)
  | invalidParameter (keyword : String)
  | invalidToken (text : String)
  | zeroByte (text : String)
  | unexpectedSpaces (text : String)
  /-- the string is well formed but a value of it is no text -/
  | notText (error : Text.Utf8Error)
  deriving DecidableEq, Repr

/-- A byte that is not ASCII has no character of its own. -/
def byteText (c : Char) : String :=
  if c.toNat < 128 then String.singleton c else "\ufffd"

def utf8Message : Text.Utf8Error → String
  | .badStart b position => one b position "invalid start byte"
  | .badContinuation b position length => many b position length "invalid continuation byte"
  | .truncated b position length => many b position length "unexpected end of data"
where
  one (b : UInt8) (position : Nat) (reason : String) : String :=
    s!"'utf-8' codec can't decode byte 0x{String.ofList (Text.hexDigits 2 b.toNat)} in position " ++
      s!"{position}: {reason}"
  many (b : UInt8) (position length : Nat) (reason : String) : String :=
    if length = 1 then one b position reason
    else s!"'utf-8' codec can't decode bytes in position {position}-{position + length - 1}: {reason}"

def Error.sentence : Error → String
  | .missingEquals keyword => s!"missing \"=\" after \"{keyword}\" in connection info string"
  | .unterminatedQuote => "unterminated quoted string in connection info string"
  | .invalidOption keyword => s!"invalid connection option \"{keyword}\""
  | .unclosedAddress uri =>
    "end of string reached when looking for matching \"]\" in IPv6 host address in URI: " ++
      s!"\"{uri}\""
  | .emptyAddress uri => s!"IPv6 host address may not be empty in URI: \"{uri}\""
  | .unexpectedCharacter c position uri =>
    s!"unexpected character \"{byteText c}\" at position {position} in URI " ++
      s!"(expected \":\" or \"/\"): \"{uri}\""
  | .missingSeparator keyword =>
    s!"missing key/value separator \"=\" in URI query parameter: \"{keyword}\""
  | .extraSeparator keyword =>
    s!"extra key/value separator \"=\" in URI query parameter: \"{keyword}\""
  | .invalidParameter keyword => s!"invalid URI query parameter: \"{keyword}\""
  | .invalidToken text => s!"invalid percent-encoded token: \"{text}\""
  | .zeroByte text => s!"forbidden value %00 in percent-encoded value: \"{text}\""
  | .unexpectedSpaces text =>
    s!"unexpected spaces found in \"{text}\", use percent-encoded spaces (%20) instead"
  | .notText error => utf8Message error

def Error.fault : Error → Fault
  | .notText error => .host .badEncoding (utf8Message error)
  | error => .driver .programming (error.sentence ++ "\n")

abbrev Entry := String × Except Text.Utf8Error String

/-- Accepts a setting by its keyword. The old switch for encryption stands for a mode of it. -/
def accept (keyword value : String) : Option (String × String) :=
  if keyword = "requiressl" then
    some ("sslmode", if value.front? = some '1' then "require" else "prefer")
  else if keywords.contains keyword then some (keyword, value)
  else none

/-- The settings in the order of `keywords`; of two settings of one keyword the later counts. -/
def collect (entries : List Entry) : Except Error Params :=
  (keywords.filterMap fun k => (entries.reverse.lookup k).map (k, ·)).mapM fun
    | (k, .ok v) => .ok (k, v)
    | (_, .error e) => .error (.notText e)

end ReplicaBootstrap.Conninfo
