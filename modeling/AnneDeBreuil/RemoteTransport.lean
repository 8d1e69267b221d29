import AnneDeBreuil.PortalRepository

namespace AnneDeBreuil

/-- Failure using a transport against a remote host. A timeout is in
nanoseconds; the errors of other crates are their texts. -/
inductive TransportError
  | connect (message : String)
  | transfer (message : String)
  | exec (message : String)
  | remove (message : String)
  | timeout (nanos : Nat)
  | invalidPath (path : String)
  | integrityMismatch
  | unknownHostKey (fingerprint : String)
  | hostKeyChanged
  | hostKeyCertificateUnsupported
  | outputCapExceeded
  | jsonDecode (message : String)
  | ssh (message : String)
  | sftp (message : String)
deriving DecidableEq, Repr

/-- The `Debug` forms the error texts use. -/
structure DebugText where
  duration : Nat → String
  text : String → String

def TransportError.display (debug : DebugText) : TransportError → String
  | .connect message => "connecting to remote host failed: " ++ message
  | .transfer message => "transferring a file failed: " ++ message
  | .exec message => "executing a remote command failed: " ++ message
  | .remove message => "removing a remote artifact failed: " ++ message
  | .timeout nanos => "remote transport timed out after " ++ debug.duration nanos
  | .invalidPath path => "invalid remote path: " ++ debug.text path
  | .integrityMismatch => "remote artifact hash did not match the expected local hash"
  | .unknownHostKey fingerprint =>
    "host key is not in known_hosts (fingerprint " ++ fingerprint ++
      "); re-run with an explicit accept-new option after verifying it out of band"
  | .hostKeyChanged => "host key has changed since it was last recorded in known_hosts"
  | .hostKeyCertificateUnsupported =>
    "host presented an OpenSSH certificate, which this transport cannot verify"
  | .outputCapExceeded => "remote stdout exceeded the configured capture cap"
  | .jsonDecode message => "decoding remote JSON output failed: " ++ message
  | .ssh message => "ssh session error: " ++ message
  | .sftp message => "sftp error: " ++ message

/-- Failure scanning or persisting one host. -/
inductive HostError
  | timeout
  | retryable (message : String)
  | fatal (message : String)
  | panicked (message : String)
  | store (error : StoreError)
deriving DecidableEq, Repr

def mapTransportError (debug : DebugText) (err : TransportError) : HostError :=
  match err with
  | .timeout _ => .timeout
  | .connect _ => .retryable (err.display debug)
  | .transfer _ => .retryable (err.display debug)
  | .exec _ => .retryable (err.display debug)
  | .remove _ => .retryable (err.display debug)
  | .jsonDecode _ => .retryable (err.display debug)
  | .ssh _ => .retryable (err.display debug)
  | .sftp _ => .retryable (err.display debug)
  | .integrityMismatch => .fatal (err.display debug)
  | .unknownHostKey _ => .fatal (err.display debug)
  | .hostKeyChanged => .fatal (err.display debug)
  | .hostKeyCertificateUnsupported => .fatal (err.display debug)
  | .outputCapExceeded => .fatal (err.display debug)
  | .invalidPath _ => .fatal (err.display debug)

end AnneDeBreuil
