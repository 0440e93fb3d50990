import Mathlib.Logic.Function.Basic
import OcppSimu.Hist
/-!
# Certificates — the requests and the certificates of the charge points of a host

Every charge point has its working directory; the private key of a request waits in one file of the host for the
certificate that answers it.  A call of a handler is in flight between its two accesses to files: `generateCsr` writes
the key and then hands out the request, the certificate handlers save the certificate and then copy the key.  The other
calls, of this charge point and of the others, run in between.  Call `n` is the `n`-th of the host.
-/
namespace Certificates

/-- What a certificate is for: the connection to the Central System, or ISO 15118. -/
inductive Kind
  | chargePoint | iso15118
  deriving DecidableEq

/-- A certificate, with the key pair it certifies. -/
structure Certificate where
  pem : String
  key : Nat
  deriving DecidableEq

inductive File
  | certificate (c : Certificate)
  | key (k : Nat)
  deriving DecidableEq

/-- What the host does not choose: the key pair a call generates, and the hash of a text. -/
structure System where
  keys : Nat → Nat
  sha256 : String → String

def Kind.filename (sys : System) (kind : Kind) (c : Certificate) : String :=
  match kind with
  | .chargePoint => "cp_" ++ sys.sha256 c.pem ++ ".pem"
  | .iso15118 => "iso_cp_" ++ sys.sha256 c.pem ++ ".pem"

/-- A charge point: its working directory, and the two parameters of its stack that name files of it. -/
structure ChargePoint where
  directory : String → Option File := fun _ => none
  tlsClientCertificate : String := ""
  tlsClientCertificatePrivateKey : String := ""

inductive Call
  | generating (cp : Nat) (kind : Kind)
  | installing (cp : Nat) (kind : Kind) (c : Certificate)
  deriving DecidableEq

/-- One entry of the log: a key was or was not written, a request was handed out, a certificate was delivered, and a
certificate handler returned `true` with the file it left beside the certificate, returned `false`, or threw. -/
inductive Entry
  | keyWritten (call : Nat) (success : Bool)
  | csrIssued (call : Nat) (cp : Nat) (kind : Kind)
  | received (call : Nat) (cp : Nat) (kind : Kind) (c : Certificate)
  | installed (call : Nat) (c : Certificate) (saved : Option File)
  | notInstalled (call : Nat)
  | threw (call : Nat)
  deriving DecidableEq

/-- A host, `temporaryKey` being `/tmp/charge_point_key.key`. -/
structure Host where
  temporaryKey : Option Nat
  chargePoints : Nat → ChargePoint
  calls : Nat → Option Call
  next : Nat
  log : List Entry

namespace Host

def note (h : Host) (e : Entry) : Host := { h with log := e :: h.log }

@[simp] theorem log_note (h : Host) (e : Entry) : (h.note e).log = e :: h.log := rfl

def enter (h : Host) (call : Call) : Host :=
  { h with calls := Function.update h.calls h.next (some call), next := h.next + 1 }

def leave (h : Host) (n : Nat) : Host := { h with calls := Function.update h.calls n none }

/-- `toFile`, and `copy` to a file that is not there. -/
def save (h : Host) (cp : Nat) (name : String) (f : File) : Host :=
  let x := { h.chargePoints cp with directory := Function.update (h.chargePoints cp).directory name (some f) }
  { h with chargePoints := Function.update h.chargePoints cp x }

/-- The two `setStackConfigValue` of `chargePointCertificateReceived`. -/
def useCertificate (h : Host) (cp : Nat) (filename keyFilename : String) : Host :=
  let x := { h.chargePoints cp with tlsClientCertificate := filename, tlsClientCertificatePrivateKey := keyFilename }
  { h with chargePoints := Function.update h.chargePoints cp x }

/-- `generateCsr` up to its request; `iso15118GenerateCsr` calls it.  The answer of `privateToFile` is not looked at. -/
def generateCsr (sys : System) (h : Host) (cp : Nat) (kind : Kind) (written : Bool) : Host :=
  ({ h with temporaryKey := if written then some (sys.keys h.next) else h.temporaryKey }.enter
    (.generating cp kind)).note (.keyWritten h.next written)

/-- `chargePointCertificateReceived`, and `iso15118ChargePointCertificateReceived`, up to the copy of the key. -/
def certificateReceived (sys : System) (h : Host) (cp : Nat) (kind : Kind) (c : Certificate) (saved : Bool) : Host :=
  let n := h.next
  let h := (h.enter (.installing cp kind c)).note (.received n cp kind c)
  if saved then h.save cp (kind.filename sys c) (.certificate c) else (h.leave n).note (.notInstalled n)

/-- The copy of the key, which throws where there is no key or the file is there already, and what follows it. -/
def copyKey (sys : System) (h : Host) (n cp : Nat) (kind : Kind) (c : Certificate) : Host :=
  let filename := kind.filename sys c
  let keyFilename := filename ++ ".key"
  match h.temporaryKey, (h.chargePoints cp).directory keyFilename with
  | some k, none =>
    let h := h.save cp keyFilename (.key k)
    let h := match kind with
      | .chargePoint => h.useCertificate cp filename keyFilename
      | .iso15118 => h
    (h.leave n).note (.installed n c ((h.chargePoints cp).directory keyFilename))
  | _, _ => (h.leave n).note (.threw n)

end Host

inductive Event
  | generateCsr (cp : Nat) (kind : Kind) (written : Bool)
  | certificateReceived (cp : Nat) (kind : Kind) (c : Certificate) (saved : Bool)
  | resume (n : Nat)

def Host.step (sys : System) (h : Host) : Event → Host
  | .generateCsr cp kind written => h.generateCsr sys cp kind written
  | .certificateReceived cp kind c saved => h.certificateReceived sys cp kind c saved
  | .resume n =>
    match h.calls n with
    | some (.generating cp kind) => (h.leave n).note (.csrIssued n cp kind)
    | some (.installing cp kind c) => h.copyKey sys n cp kind c
    | none => h

def Host.run (sys : System) (h : Host) (events : List Event) : Host := events.foldl (Host.step sys) h

/-- A host on which no call was made; a key of an earlier run may be there. -/
def Host.initial (temporaryKey : Option Nat) (chargePoints : Nat → ChargePoint) : Host :=
  ⟨temporaryKey, chargePoints, fun _ => none, 0, []⟩

end Certificates
