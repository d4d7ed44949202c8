import StorageGateway.Text.Decimal

/-!
# Settings

The gateway is configured by eight settings. Each may be given as an argument or by a variable of
the environment, and most have a default. A setting is a text or a number of a range.

## Main definitions

* `Setting`: the settings with their names.
* `Setting.check`: which texts a setting accepts.
* `Options`: the values of all settings.
-/

namespace StorageGateway

/-- The settings, in the order in which they are looked up. -/
inductive Setting where
  | host
  | port
  | gateway
  | sessionLifetime
  | requestTimeout
  | uploadLimit
  | certificate
  | privateKey
  deriving DecidableEq, Repr

namespace Setting

/-- All settings. -/
def all : List Setting :=
  [.host, .port, .gateway, .sessionLifetime, .requestTimeout, .uploadLimit, .certificate,
    .privateKey]

/-- The name of a setting in an argument. -/
def longName : Setting → String
  | .host => "host"
  | .port => "port"
  | .gateway => "gateway-host"
  | .sessionLifetime => "session-expire-secs"
  | .requestTimeout => "request-timeout-secs"
  | .uploadLimit => "upload-max-size"
  | .certificate => "tls-cert"
  | .privateKey => "tls-key"

/-- The letter of a setting in an argument. -/
def letter? : Setting → Option Char
  | .host => some 'b'
  | .port => some 'p'
  | .gateway => some 'g'
  | .certificate => some 'c'
  | .privateKey => some 'k'
  | _ => none

/-- The variable of the environment that gives a setting. -/
def environmentName : Setting → String
  | .host => "FS_BIND"
  | .port => "FS_PORT"
  | .gateway => "FS_GATEWAY_HOST"
  | .sessionLifetime => "FS_SESSION_EXPIRE_PERIOD_SEC"
  | .requestTimeout => "FS_REQUEST_TIMEOUT_SECS"
  | .uploadLimit => "FS_UPLOAD_MAX_SIZE"
  | .certificate => "FS_TLS_CERT"
  | .privateKey => "FS_TLS_KEY"

/-- What stands for the value of a setting in a message. -/
def placeholder (s : Setting) : String :=
  String.ofList (s.longName.toList.map fun c => if c = '-' then '_' else c.toUpper)

/-- The setting as it is named in a message. -/
def display (s : Setting) : String := "--" ++ s.longName ++ " <" ++ s.placeholder ++ ">"

/-- What the values of a setting are. -/
inductive Kind where
  | text
  /-- A number of a port. -/
  | port
  /-- A number of 64 bits. -/
  | natural
  deriving DecidableEq, Repr

/-- The kind of a setting. -/
def kind : Setting → Kind
  | .host | .gateway | .certificate | .privateKey => .text
  | .port => .port
  | .sessionLifetime | .requestTimeout | .uploadLimit => .natural

/-- A text as a port; it is first read as a number and then compared with the range of ports. -/
def readPort (text : String) : Except String Nat :=
  match Decimal.integer text with
  | .error r => .error r.message
  | .ok n =>
    if 0 ≤ n ∧ n ≤ 65535 then .ok n.toNat else .error (toString n ++ " is not in 0..=65535")

/-- A text as a number. -/
def readNumber (text : String) : Except String Nat :=
  match Decimal.natural text with
  | .error r => .error r.message
  | .ok n => .ok n

/-- Refuses a text that is no value of the setting, and says why. -/
def check (s : Setting) (text : String) : Except String Unit :=
  match s.kind with
  | .text => .ok ()
  | .port => (readPort text).map fun _ => ()
  | .natural => (readNumber text).map fun _ => ()

end Setting

/-- The values of all settings. -/
structure Options where
  /-- The address to listen at. -/
  host : String := "0.0.0.0"
  /-- The port to listen at. -/
  port : Nat := 8080
  /-- The base URL of the storage service. -/
  gateway : String
  /-- The lifetime of a session in seconds. -/
  sessionLifetime : Nat := 86400
  /-- How many seconds a call may take; zero allows any number. -/
  requestTimeout : Nat := 0
  /-- The largest size of an upload; zero allows any. -/
  uploadLimit : Nat := 536870912
  /-- The file that holds the certificate. -/
  certificate : Option String := none
  /-- The file that holds the private key. -/
  privateKey : Option String := none
  deriving DecidableEq, Repr

/-- The options given by texts that were checked; only the base URL has no default. -/
def Options.ofTexts? (text? : Setting → Option String) : Option Options :=
  (text? .gateway).map fun gateway =>
    let number (s : Setting) (read : String → Except String Nat) (default : Nat) : Nat :=
      ((text? s).bind fun text => (read text).toOption).getD default
    { host := (text? .host).getD "0.0.0.0"
      port := number .port Setting.readPort 8080
      gateway
      sessionLifetime := number .sessionLifetime Setting.readNumber 86400
      requestTimeout := number .requestTimeout Setting.readNumber 0
      uploadLimit := number .uploadLimit Setting.readNumber 536870912
      certificate := text? .certificate
      privateKey := text? .privateKey }

end StorageGateway
