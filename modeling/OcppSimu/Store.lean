import Mathlib.Algebra.GroupWithZero.Nat
import Mathlib.Data.List.AList
import OcppSimu.Hist
import OcppSimu.Paths
/-!
# Store — the certificates in the working directory of a charge point

The handlers keep every certificate as a file of one directory, and the name of the file says what it is for.  Every
question about certificates is answered by a scan of that directory, which picks files by the beginning and the end of
their names.  A `State` is the directory, the configuration and the log of the calls, newest first; the answers of the
file system, of SHA-2 and of the certificate library come from outside.
-/
namespace Store

/-- A certificate, by its text. -/
structure Certificate where
  pem : String
  deriving DecidableEq

inductive HashAlgorithm
  | sha256 | sha384 | sha512
  deriving DecidableEq

/-- What a deletion request says of the certificate it means. -/
structure Request where
  hashAlgorithm : HashAlgorithm
  issuerNameHash : String
  issuerKeyHash : String
  serialNumber : String
  deriving DecidableEq

inductive CertificateUse
  | manufacturerRootCertificate | centralSystemRootCertificate
  deriving DecidableEq

/-- The two roots of ISO 15118; what is not the first is treated as the second. -/
inductive InstallCertificateUse
  | v2gRootCertificate | moRootCertificate
  deriving DecidableEq

inductive GetCertificateIdUse
  | v2gRootCertificate | moRootCertificate | v2gCertificateChain
  deriving DecidableEq

/-- The answer to an installation. -/
inductive CertificateStatus
  | accepted | failed | rejected
  deriving DecidableEq

inductive DeleteCertificateStatus
  | accepted | failed | notFound
  deriving DecidableEq

/-- **What a run finds in place**: its working directory, SHA-2 and the certificate library. -/
structure System where
  workingDir : String
  sha : HashAlgorithm → String → String
  isValid : Certificate → Bool
  serialNumberHexString : Certificate → String
  issuerString : Certificate → String
  publicKey : Certificate → String
  verify : Certificate → List Certificate → Bool

/-- What stands in the working directory: a file, or a directory, in which there may be a `charge_point_key.key`. -/
inductive Node
  | file (text : String)
  | directory (keyed : Bool)
  deriving DecidableEq

abbrev Directory := AList (fun _ : String => Node)

structure Config where
  tlsServerCertificateCa : String := ""
  tlsClientCertificate : String := ""
  tlsClientCertificatePrivateKey : String := ""
  certificateStoreMaxLength : Nat

/-- One entry of the log.  A deletion leaves what it asked for, the files whose removal was reported, the files it
matched and left, and its answer; a call that threw has no answer. -/
inductive Entry
  | caCertificateReceived (use : CertificateUse) (c : Certificate) (answer : CertificateStatus)
  | iso15118CertificateReceived (use : InstallCertificateUse) (c : Certificate) (answer : CertificateStatus)
  | chargePointCertificateReceived (c : Certificate) (answer : Option Bool)
  | iso15118ChargePointCertificateReceived (c : Certificate) (answer : Option Bool)
  | deleteCertificate (r : Request) (removed left : List String) (answer : Option DeleteCertificateStatus)
  deriving DecidableEq

/-- A charge point's store, `temporaryKey` being `/tmp/charge_point_key.key`. -/
structure State where
  directory : Directory
  temporaryKey : Option String := none
  config : Config
  log : List Entry := []

/-! ## Scans -/

def startsWith (name start : String) : Bool := start.toList.isPrefixOf name.toList

def endsWith (name ending : String) : Bool := ending.toList.isSuffixOf name.toList

/-- The test of a scan for the certificates of a kind. -/
def isPem (start name : String) : Bool := startsWith name start && endsWith name ".pem"

/-- The files of a directory, each read as a certificate; its directories are left out. -/
def filesOf (d : Directory) : List (String × Certificate) :=
  d.entries.filterMap (fun e => match e.2 with
    | .file text => some (e.1, ⟨text⟩)
    | .directory _ => none)

def certificatesOf (start : String) (d : Directory) : List Certificate :=
  ((filesOf d).filter (fun f => isPem start f.1)).map Prod.snd

def getNumberOfCaCertificateInstalled (manufacturer centralSystem iso15118 : Bool) (d : Directory) : Nat :=
  ((filesOf d).map (fun f => (manufacturer && isPem "fw_" f.1).toNat + (centralSystem && isPem "cs_" f.1).toNat +
    (iso15118 && isPem "iso_" f.1).toNat)).sum

def hasCentralSystemCaCertificateInstalled (st : State) : Bool :=
  decide (getNumberOfCaCertificateInstalled false true false st.directory ≠ 0) &&
    decide (st.config.tlsServerCertificateCa ≠ "")

def getInstalledCertificates (use : CertificateUse) (st : State) : List Certificate :=
  match use with
  | .manufacturerRootCertificate => certificatesOf "fw_" st.directory
  | .centralSystemRootCertificate => certificatesOf "cs_" st.directory

/-- The certificates `checkFirmwareSigningCertificate` loads. -/
def caCertificates (st : State) : List Certificate := certificatesOf "fw_" st.directory

/-- `iso15118GetInstalledCertificates`: each file is tried for the three kinds in turn. -/
def iso15118GetInstalledCertificates (v2gRoot moRoot v2gChain : Bool) (st : State) :
    List (GetCertificateIdUse × Certificate) :=
  (filesOf st.directory).flatMap (fun f =>
    (if v2gRoot && isPem "iso_v2g_root_" f.1 then [(.v2gRootCertificate, f.2)] else []) ++
    (if moRoot && isPem "iso_mo_root_" f.1 then [(.moRootCertificate, f.2)] else []) ++
    (if v2gChain && isPem "iso_v2g_chain_" f.1 then [(.v2gCertificateChain, f.2)] else []))

/-! ## Writes -/

namespace State

def note (st : State) (e : Entry) : State := { st with log := e :: st.log }

/-- `toFile`, which fails where a directory has the name. -/
def toFile (st : State) (name : String) (c : Certificate) (saved : Bool) : Option State :=
  if saved = true ∧ ∀ keyed, st.directory.lookup name ≠ some (.directory keyed) then
    some { st with directory := st.directory.insert name (.file c.pem) }
  else none

/-- `std::filesystem::copy` of the key: it throws where there is no key or the file is there already; where the name is
that of a directory the copy goes into it, under its own name, and throws where that is there. -/
def copyKey (st : State) (name : String) : Option State :=
  match st.temporaryKey, st.directory.lookup name with
  | some k, none => some { st with directory := st.directory.insert name (.file k) }
  | some _, some (.directory false) => some { st with directory := st.directory.insert name (.directory true) }
  | _, _ => none

end State

section

variable (sys : System)

/-- `checkFirmwareSigningCertificate`, `true` for `Accepted`. -/
def checkFirmwareSigningCertificate (st : State) (c : Certificate) : Bool :=
  decide (caCertificates st ≠ []) && sys.verify c (caCertificates st)

/-- `(m_working_dir / name).string()`. -/
def path (name : String) : String := String.ofList (Paths.join sys.workingDir.toList name.toList)

def caName (use : CertificateUse) (c : Certificate) : String :=
  match use with
  | .manufacturerRootCertificate => "fw_" ++ sys.sha .sha256 c.pem ++ ".pem"
  | .centralSystemRootCertificate => "cs_" ++ sys.sha .sha256 c.pem ++ ".pem"

def isoName (use : InstallCertificateUse) (c : Certificate) : String :=
  match use with
  | .v2gRootCertificate => "iso_v2g_root_" ++ sys.sha .sha256 c.pem ++ ".pem"
  | .moRootCertificate => "iso_mo_root_" ++ sys.sha .sha256 c.pem ++ ".pem"

def cpName (c : Certificate) : String := "cp_" ++ sys.sha .sha256 c.pem ++ ".pem"

def isoCpName (c : Certificate) : String := "iso_cp_" ++ sys.sha .sha256 c.pem ++ ".pem"

/-- The test on the number of certificates the installations begin with. -/
def hasRoom (st : State) : Bool :=
  decide (getNumberOfCaCertificateInstalled true true true st.directory < st.config.certificateStoreMaxLength)

/-- `caCertificateReceived`, `saved` being what the write answers. -/
def caCertificateReceived (st : State) (use : CertificateUse) (c : Certificate) (saved : Bool) :
    CertificateStatus × State :=
  if hasRoom st then
    match st.toFile (caName sys use c) c saved with
    | none => (.failed, st)
    | some st =>
      match use with
      | .manufacturerRootCertificate => (.accepted, st)
      | .centralSystemRootCertificate =>
        (.accepted, { st with config := { st.config with tlsServerCertificateCa := path sys (caName sys use c) } })
  else (.rejected, st)

def iso15118CertificateReceived (st : State) (use : InstallCertificateUse) (c : Certificate) (saved : Bool) :
    CertificateStatus × State :=
  if hasRoom st then
    match st.toFile (isoName sys use c) c saved with
    | none => (.failed, st)
    | some st => (.accepted, st)
  else (.rejected, st)

/-- `chargePointCertificateReceived`; it has no answer where the copy of the key throws. -/
def chargePointCertificateReceived (st : State) (c : Certificate) (saved : Bool) : Option Bool × State :=
  match st.toFile (cpName sys c) c saved with
  | none => (some false, st)
  | some st =>
    match st.copyKey (cpName sys c ++ ".key") with
    | none => (none, st)
    | some st => (some true, { st with config := { st.config with
        tlsClientCertificate := path sys (cpName sys c)
        tlsClientCertificatePrivateKey := path sys (cpName sys c) ++ ".key" } })

def iso15118ChargePointCertificateReceived (st : State) (c : Certificate) (saved : Bool) : Option Bool × State :=
  match st.toFile (isoCpName sys c) c saved with
  | none => (some false, st)
  | some st =>
    match st.copyKey (isoCpName sys c ++ ".key") with
    | none => (none, st)
    | some st => (some true, st)

/-! ## Deletion -/

/-- What a call of `remove` answers: `true`, `false`, or it throws. -/
inductive Removal
  | removed | refused | threw
  deriving DecidableEq

/-- **A request means a certificate.** -/
def Certificate.answers (r : Request) (c : Certificate) : Bool :=
  sys.isValid c && decide (sys.serialNumberHexString c = r.serialNumber) &&
    decide (r.issuerNameHash = sys.sha r.hashAlgorithm (sys.issuerString c)) &&
    decide (r.issuerKeyHash = sys.sha r.hashAlgorithm (sys.publicKey c))

/-- The files a deletion looks at, and whether it matches them. -/
def hit (r : Request) (d : Directory) (name : String) : Bool :=
  (startsWith name "fw_" || startsWith name "cs_") && endsWith name ".pem" &&
    match d.lookup name with
    | some (.file text) => Certificate.answers sys r ⟨text⟩
    | _ => false

/-- The loop of `deleteCertificate` over the names of the directory, `ca` being `TlsServerCertificateCa`: the files whose
removal was reported, and the answer.  A removal touches no other file, so each is read as it was at first. -/
def deleteLoop (r : Request) (d : Directory) (ca : String) (remove : String → Removal) :
    List String → DeleteCertificateStatus → List String × Option DeleteCertificateStatus
  | [], ret => ([], some ret)
  | name :: rest, ret =>
    if hit sys r d name then
      if name = ca then deleteLoop r d ca remove rest .failed
      else
        match remove name with
        | .removed =>
          let x := deleteLoop r d ca remove rest .accepted
          (name :: x.1, x.2)
        | .refused => deleteLoop r d ca remove rest .failed
        | .threw => ([], none)
    else deleteLoop r d ca remove rest ret

def eraseAll (d : Directory) (names : List String) : Directory := names.foldl (fun d name => d.erase name) d

/-- `deleteCertificate`, `scan` being the order in which the iterator meets the names. -/
def deleteCertificate (st : State) (r : Request) (scan : List String) (remove : String → Removal) :
    Option DeleteCertificateStatus × State :=
  let x := deleteLoop sys r st.directory st.config.tlsServerCertificateCa remove scan .notFound
  (x.2, { st with directory := eraseAll st.directory x.1 }.note
    (.deleteCertificate r x.1 ((scan.filter (hit sys r st.directory)).filter (fun name => decide (name ∉ x.1))) x.2))

def iso15118DeleteCertificate (st : State) (r : Request) (scan : List String) (remove : String → Removal) :
    Option DeleteCertificateStatus × State := deleteCertificate sys st r scan remove

end

/-! ## Runs -/

inductive Call
  | caCertificateReceived (use : CertificateUse) (c : Certificate) (saved : Bool)
  | iso15118CertificateReceived (use : InstallCertificateUse) (c : Certificate) (saved : Bool)
  | chargePointCertificateReceived (c : Certificate) (saved : Bool)
  | iso15118ChargePointCertificateReceived (c : Certificate) (saved : Bool)
  | deleteCertificate (r : Request) (scan : List String) (remove : String → Removal)
  | iso15118DeleteCertificate (r : Request) (scan : List String) (remove : String → Removal)

/-- **One call.**  A scan meets every name of the directory once. -/
def State.step (sys : System) (st : State) : Call → State
  | .caCertificateReceived use c saved =>
    let x := Store.caCertificateReceived sys st use c saved
    x.2.note (.caCertificateReceived use c x.1)
  | .iso15118CertificateReceived use c saved =>
    let x := Store.iso15118CertificateReceived sys st use c saved
    x.2.note (.iso15118CertificateReceived use c x.1)
  | .chargePointCertificateReceived c saved =>
    let x := Store.chargePointCertificateReceived sys st c saved
    x.2.note (.chargePointCertificateReceived c x.1)
  | .iso15118ChargePointCertificateReceived c saved =>
    let x := Store.iso15118ChargePointCertificateReceived sys st c saved
    x.2.note (.iso15118ChargePointCertificateReceived c x.1)
  | .deleteCertificate r scan remove =>
    if scan.Perm st.directory.keys then (Store.deleteCertificate sys st r scan remove).2 else st
  | .iso15118DeleteCertificate r scan remove =>
    if scan.Perm st.directory.keys then (Store.iso15118DeleteCertificate sys st r scan remove).2 else st

def State.run (sys : System) (st : State) (calls : List Call) : State := calls.foldl (State.step sys) st

/-- A system whose hashes are the texts themselves, for the runs on fixed inputs. -/
def System.sample : System where
  workingDir := "wd"
  sha _ text := text
  isValid _ := true
  serialNumberHexString c := c.pem
  issuerString c := c.pem
  publicKey c := c.pem
  verify c cas := decide (c ∈ cas)

/-- The request that means a certificate of the sample system. -/
def Request.sample (pem : String) : Request := ⟨.sha256, pem, pem, pem⟩

def State.empty : State where
  directory := ∅
  config := { certificateStoreMaxLength := 10 }

/-! ## What a directory holds -/

theorem mem_filesOf {d : Directory} {name : String} {c : Certificate} :
    (name, c) ∈ filesOf d ↔ d.lookup name = some (.file c.pem) := by
  unfold filesOf
  rw [List.mem_filterMap]
  constructor
  · rintro ⟨⟨n, node⟩, hm, he⟩
    cases node with
    | directory => cases he
    | file text =>
      obtain ⟨rfl, rfl⟩ := Prod.mk.inj (Option.some.inj he)
      exact AList.mem_lookup_iff.2 hm
  · intro h
    exact ⟨⟨name, .file c.pem⟩, AList.mem_lookup_iff.1 h, rfl⟩

theorem mem_certificatesOf {start : String} {d : Directory} {c : Certificate} :
    c ∈ certificatesOf start d ↔ ∃ name, isPem start name = true ∧ d.lookup name = some (.file c.pem) := by
  unfold certificatesOf
  constructor
  · intro h
    obtain ⟨⟨name, x⟩, hm, rfl⟩ := List.mem_map.1 h
    obtain ⟨hf, hp⟩ := List.mem_filter.1 hm
    exact ⟨name, hp, mem_filesOf.1 hf⟩
  · rintro ⟨name, hp, hl⟩
    exact List.mem_map.2 ⟨(name, c), List.mem_filter.2 ⟨mem_filesOf.2 hl, hp⟩, rfl⟩

theorem lookup_eraseAll (names : List String) (d : Directory) (name : String) :
    (eraseAll d names).lookup name = if name ∈ names then none else d.lookup name := by
  induction names generalizing d with
  | nil => rfl
  | cons n names ih =>
    have hs : eraseAll d (n :: names) = eraseAll (d.erase n) names := rfl
    rw [hs, ih]
    by_cases hn : name = n
    · subst hn
      simp
    · simp [hn, AList.lookup_erase_ne hn]

/-- **Two beginnings of which neither begins with the other**: no name has both. -/
theorem startsWith_disjoint {p q : String} (h : (p.toList.isPrefixOf q.toList || q.toList.isPrefixOf p.toList) = false)
    {name : String} (hp : startsWith name p = true) : startsWith name q = false := by
  rw [Bool.eq_false_iff]
  intro hq
  rw [Bool.or_eq_false_iff] at h
  have hp' : p.toList <+: name.toList := List.isPrefixOf_iff_prefix.1 hp
  have hq' : q.toList <+: name.toList := List.isPrefixOf_iff_prefix.1 hq
  rcases List.prefix_or_prefix_of_prefix hp' hq' with hpq | hpq
  · rw [List.isPrefixOf_iff_prefix.2 hpq] at h
    cases h.1
  · rw [List.isPrefixOf_iff_prefix.2 hpq] at h
    cases h.2

theorem startsWith_append (start rest : String) : startsWith (start ++ rest) start = true := by
  unfold startsWith
  rw [List.isPrefixOf_iff_prefix, String.toList_append]
  exact List.prefix_append _ _

theorem isPem_of_append (start middle : String) : isPem start (start ++ middle ++ ".pem") = true := by
  unfold isPem startsWith endsWith
  rw [Bool.and_eq_true, List.isPrefixOf_iff_prefix, List.isSuffixOf_iff_suffix]
  constructor
  · exact ⟨middle.toList ++ ".pem".toList, by simp⟩
  · exact ⟨start.toList ++ middle.toList, by simp⟩

end Store
