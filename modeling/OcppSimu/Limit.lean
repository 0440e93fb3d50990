import OcppSimu.Deletion
/-!
# Limit — how many root certificates the store takes

An installation of a root is rejected where `getNumberOfCaCertificateInstalled` has reached `CertificateStoreMaxLength`.
It counts every file named `iso_….pem`, and so the ISO 15118 certificates of the charge point itself.  The number of roots
never exceeds the limit, and a rejection comes too early exactly where those certificates make up the difference
(`rejections_exact_iff`).
-/
namespace Store

variable {sys : System}

/-! ## Roots -/

/-- How the names of the roots begin: manufacturer, Central System, V2G and MO. -/
def rootStarts : List String := ["fw_", "cs_", "iso_v2g_root_", "iso_mo_root_"]

def isRoot (name : String) : Bool := rootStarts.any (fun start => isPem start name)

/-- The number of files whose name has `p`. -/
def filed (p : String → Bool) (d : Directory) : Nat := (filesOf d).countP (fun f => p f.1)

/-- **The root certificates installed.** -/
def roots (d : Directory) : Nat := filed isRoot d

/-- The ISO 15118 certificates of the charge point. -/
def isoChargePoints (d : Directory) : Nat := filed (isPem "iso_cp_") d

/-- **An install request for a root is rejected exactly where the limit is reached.** -/
def RejectsAtLimit (sys : System) (st : State) : Call → Prop
  | .caCertificateReceived use c saved =>
    (caCertificateReceived sys st use c saved).1 = .rejected ↔ st.config.certificateStoreMaxLength ≤ roots st.directory
  | .iso15118CertificateReceived use c saved =>
    (iso15118CertificateReceived sys st use c saved).1 = .rejected ↔ st.config.certificateStoreMaxLength ≤ roots st.directory
  | _ => True

/-- The certificates of the charge point do not make up the difference to the limit. -/
def Uncrowded (st : State) : Prop :=
  roots st.directory < st.config.certificateStoreMaxLength →
    roots st.directory + isoChargePoints st.directory < st.config.certificateStoreMaxLength

/-- **Where a root is to be installed**, the store is not crowded. -/
def RoomFor (st : State) : Call → Prop
  | .caCertificateReceived _ _ _ | .iso15118CertificateReceived _ _ _ => Uncrowded st
  | _ => True

/-! ## Counting -/

theorem filesOf_insert (d : Directory) (name text : String) :
    filesOf (d.insert name (.file text)) = (name, ⟨text⟩) :: filesOf (d.erase name) := by
  unfold filesOf
  rw [AList.entries_insert]
  rfl

theorem filesOf_insert_directory (d : Directory) (name : String) (keyed : Bool) :
    filesOf (d.insert name (.directory keyed)) = filesOf (d.erase name) := by
  unfold filesOf
  rw [AList.entries_insert]
  rfl

theorem filesOf_erase (d : Directory) (name : String) : (filesOf (d.erase name)).Sublist (filesOf d) :=
  (List.kerase_sublist name d.entries).filterMap _

theorem filed_erase_le (p : String → Bool) (d : Directory) (name : String) : filed p (d.erase name) ≤ filed p d :=
  (filesOf_erase d name).countP_le

theorem filed_insert_le (p : String → Bool) (d : Directory) (name : String) (node : Node) :
    filed p (d.insert name node) ≤ filed p d + (p name).toNat := by
  have he := filed_erase_le p d name
  unfold filed at he ⊢
  cases node with
  | file text =>
    rw [filesOf_insert, List.countP_cons]
    cases p name with
    | true => simpa using he
    | false => simpa using he
  | directory keyed =>
    rw [filesOf_insert_directory]
    exact Nat.le_trans he (Nat.le_add_right _ _)

theorem mem_filesOf_insert {d : Directory} {name : String} {node : Node} {f : String × Certificate}
    (h : f ∈ filesOf (d.insert name node)) : f.1 = name ∨ f ∈ filesOf d := by
  cases node with
  | file text =>
    rw [filesOf_insert] at h
    rcases List.mem_cons.1 h with rfl | h
    · exact .inl rfl
    · exact .inr ((filesOf_erase d name).subset h)
  | directory keyed =>
    rw [filesOf_insert_directory] at h
    exact .inr ((filesOf_erase d name).subset h)

theorem filesOf_eraseAll (names : List String) (d : Directory) : (filesOf (eraseAll d names)).Sublist (filesOf d) := by
  induction names generalizing d with
  | nil => exact List.Sublist.refl _
  | cons name names ih => exact (ih (d.erase name)).trans (filesOf_erase d name)

/-! ## Names -/

/-- A file of ISO 15118 is a root, or a certificate of the charge point. -/
def Known (name : String) : Prop := isPem "iso_" name = true → isRoot name = true ∨ isPem "iso_cp_" name = true

theorem isPem_of_prefix {p q name : String} (h : q.toList.isPrefixOf p.toList = true) (hp : isPem p name = true) :
    isPem q name = true := by
  unfold isPem startsWith at hp ⊢
  rw [Bool.and_eq_true, List.isPrefixOf_iff_prefix] at hp ⊢
  exact ⟨(List.isPrefixOf_iff_prefix.1 h).trans hp.1, hp.2⟩

theorem isPem_eq_false {p q name : String} (h : (p.toList.isPrefixOf q.toList || q.toList.isPrefixOf p.toList) = false)
    (hp : isPem p name = true) : isPem q name = false := by
  unfold isPem
  rw [isPem_disjoint h hp, Bool.false_and]

theorem isPem_append_eq_false {start : String} (rest : String) {q : String}
    (h : (start.toList.isPrefixOf q.toList || q.toList.isPrefixOf start.toList) = false) : isPem q (start ++ rest) = false := by
  unfold isPem
  rw [startsWith_disjoint h (startsWith_append start rest), Bool.false_and]

/-- **What the count counts**: a file of a known name is counted once, as a root or as a charge point's. -/
theorem counted_once {name : String} (h : Known name) :
    (isPem "fw_" name).toNat + (isPem "cs_" name).toNat + (isPem "iso_" name).toNat =
      (isRoot name).toNat + (isPem "iso_cp_" name).toNat := by
  have apart : ∀ {p q : String}, (p.toList.isPrefixOf q.toList || q.toList.isPrefixOf p.toList) = false →
      isPem p name = true → isPem q name = false := fun h => isPem_eq_false h
  have within : ∀ {p q : String}, q.toList.isPrefixOf p.toList = true → isPem p name = true → isPem q name = true :=
    fun h => isPem_of_prefix h
  have h₁ := apart (p := "fw_") (q := "cs_") (by decide +kernel)
  have h₂ := apart (p := "fw_") (q := "iso_") (by decide +kernel)
  have h₃ := apart (p := "cs_") (q := "iso_") (by decide +kernel)
  have h₄ := apart (p := "iso_v2g_root_") (q := "iso_mo_root_") (by decide +kernel)
  have h₅ := apart (p := "iso_v2g_root_") (q := "iso_cp_") (by decide +kernel)
  have h₆ := apart (p := "iso_mo_root_") (q := "iso_cp_") (by decide +kernel)
  have h₇ := within (p := "iso_v2g_root_") (q := "iso_") (by decide +kernel)
  have h₈ := within (p := "iso_mo_root_") (q := "iso_") (by decide +kernel)
  have h₉ := within (p := "iso_cp_") (q := "iso_") (by decide +kernel)
  have hr : isRoot name = (isPem "fw_" name || isPem "cs_" name || isPem "iso_v2g_root_" name || isPem "iso_mo_root_" name) := by
    simp [isRoot, rootStarts, Bool.or_assoc]
  unfold Known at h
  rw [hr] at h ⊢
  generalize isPem "fw_" name = fw at *
  generalize isPem "cs_" name = cs at *
  generalize isPem "iso_" name = iso at *
  generalize isPem "iso_v2g_root_" name = v2g at *
  generalize isPem "iso_mo_root_" name = mo at *
  generalize isPem "iso_cp_" name = cp at *
  clear hr apart within
  revert fw cs iso v2g mo cp
  decide

theorem installed_eq {d : Directory} (h : ∀ f ∈ filesOf d, Known f.1) :
    getNumberOfCaCertificateInstalled true true true d = roots d + isoChargePoints d := by
  unfold getNumberOfCaCertificateInstalled roots isoChargePoints filed
  simp only [Bool.true_and]
  generalize filesOf d = files at h
  induction files with
  | nil => rfl
  | cons f files ih =>
    have hf := counted_once (h f List.mem_cons_self)
    have hi := ih (fun x hx => h x (List.mem_cons_of_mem f hx))
    rw [List.map_cons, List.sum_cons, hi, hf, List.countP_cons, List.countP_cons]
    cases isRoot f.1 <;> cases isPem "iso_cp_" f.1 <;> simp <;> omega

/-! ## The invariant -/

/-- **A store with that limit**: its files of ISO 15118 are known, and its roots are within the limit. -/
structure Filled (n : Nat) (st : State) : Prop where
  limit : st.config.certificateStoreMaxLength = n
  known : ∀ f ∈ filesOf st.directory, Known f.1
  le : roots st.directory ≤ n

namespace Filled

variable {n : Nat} {st : State}

theorem of_eq {st' : State} (h : Filled n st) (hl : st'.config.certificateStoreMaxLength = st.config.certificateStoreMaxLength)
    (hd : st'.directory = st.directory) : Filled n st' :=
  ⟨hl.trans h.limit, hd ▸ h.known, hd ▸ h.le⟩

theorem hasRoom_iff (h : Filled n st) : hasRoom st = true ↔ roots st.directory + isoChargePoints st.directory < n := by
  unfold hasRoom
  rw [decide_eq_true_iff, installed_eq h.known, h.limit]

/-- A file that is no root, or for which there is room. -/
theorem insert (h : Filled n st) {name : String} (hk : Known name) (hr : isRoot name = true → hasRoom st = true)
    (node : Node) : Filled n { st with directory := st.directory.insert name node } := by
  refine ⟨h.limit, fun f hf => ?_, ?_⟩
  · rcases mem_filesOf_insert hf with he | hf
    · rwa [he]
    · exact h.known f hf
  · have hle := filed_insert_le isRoot st.directory name node
    apply Nat.le_trans hle
    cases hn : isRoot name with
    | false => exact h.le
    | true =>
      have hroom := h.hasRoom_iff.1 (hr hn)
      unfold roots at hroom
      rw [Bool.toNat_true]
      omega

theorem toFile {st' : State} (h : Filled n st) {name : String} (hk : Known name)
    (hr : isRoot name = true → hasRoom st = true) {c : Certificate} {saved : Bool}
    (hs : st.toFile name c saved = some st') : Filled n st' := by
  rw [toFile_eq_some hs]
  exact h.insert hk hr _

theorem copyKey {st' : State} (h : Filled n st) {name : String} (hk : Known name) (hr : isRoot name = false)
    (hs : st.copyKey name = some st') : Filled n st' := by
  obtain ⟨node, -, rfl⟩ := copyKey_eq_some hs
  exact h.insert hk (fun ht => by rw [hr] at ht; cases ht) node

/-! ### One call -/

/-- No name that begins otherwise is one of ISO 15118. -/
theorem known_of_start {start : String} (rest : String)
    (h : (start.toList.isPrefixOf "iso_".toList || "iso_".toList.isPrefixOf start.toList) = false) : Known (start ++ rest) := by
  intro hi
  rw [isPem_append_eq_false rest h] at hi
  cases hi

theorem isRoot_eq_false {start : String} (rest : String) (h : rootStarts.all (fun q =>
    !(start.toList.isPrefixOf q.toList || q.toList.isPrefixOf start.toList)) = true) : isRoot (start ++ rest) = false := by
  unfold isRoot
  rw [List.any_eq_false]
  intro q hq
  have hd := List.all_eq_true.1 h q hq
  rw [Bool.not_eq_true'] at hd
  rw [isPem_append_eq_false rest hd]
  exact Bool.false_ne_true

theorem isRoot_isoName (use : InstallCertificateUse) (c : Certificate) : isRoot (isoName sys use c) = true := by
  unfold isRoot
  rw [List.any_eq_true]
  cases use with
  | v2gRootCertificate => exact ⟨"iso_v2g_root_", by simp [rootStarts], isPem_of_append _ _⟩
  | moRootCertificate => exact ⟨"iso_mo_root_", by simp [rootStarts], isPem_of_append _ _⟩

theorem caCertificateReceived (h : Filled n st) (use : CertificateUse) (c : Certificate) (saved : Bool) :
    Filled n (Store.caCertificateReceived sys st use c saved).2 := by
  have hk : Known (caName sys use c) := by
    cases use with
    | manufacturerRootCertificate =>
      have hn : caName sys .manufacturerRootCertificate c = "fw_" ++ (sys.sha .sha256 c.pem ++ ".pem") :=
        String.append_assoc
      rw [hn]
      exact known_of_start _ (by decide +kernel)
    | centralSystemRootCertificate =>
      have hn : caName sys .centralSystemRootCertificate c = "cs_" ++ (sys.sha .sha256 c.pem ++ ".pem") :=
        String.append_assoc
      rw [hn]
      exact known_of_start _ (by decide +kernel)
  unfold Store.caCertificateReceived
  split
  · rename_i hroom
    split
    · exact h
    · rename_i st' hs
      have hf := h.toFile hk (fun _ => hroom) hs
      cases use with
      | manufacturerRootCertificate => exact hf
      | centralSystemRootCertificate => exact hf.of_eq rfl rfl
  · exact h

theorem iso15118CertificateReceived (h : Filled n st) (use : InstallCertificateUse) (c : Certificate) (saved : Bool) :
    Filled n (Store.iso15118CertificateReceived sys st use c saved).2 := by
  unfold Store.iso15118CertificateReceived
  split
  · rename_i hroom
    split
    · exact h
    · rename_i st' hs
      exact h.toFile (fun _ => .inl (isRoot_isoName use c)) (fun _ => hroom) hs
  · exact h

theorem chargePointCertificateReceived (h : Filled n st) (c : Certificate) (saved : Bool) :
    Filled n (Store.chargePointCertificateReceived sys st c saved).2 := by
  have hk : ∀ rest, Known ("cp_" ++ rest) := fun rest => known_of_start rest (by decide +kernel)
  have hr : ∀ rest, isRoot ("cp_" ++ rest) = false := fun rest => isRoot_eq_false rest (by decide +kernel)
  unfold Store.chargePointCertificateReceived cpName
  rw [String.append_assoc, String.append_assoc]
  split
  · exact h
  · rename_i hs
    have hf := h.toFile (hk _) (fun ht => by rw [hr] at ht; cases ht) hs
    split
    · exact hf
    · rename_i hs'
      exact (hf.copyKey (hk _) (hr _) hs').of_eq rfl rfl

theorem iso15118ChargePointCertificateReceived (h : Filled n st) (c : Certificate) (saved : Bool) :
    Filled n (Store.iso15118ChargePointCertificateReceived sys st c saved).2 := by
  have hk : ∀ rest, Known ("iso_cp_" ++ rest) := fun rest hi => by
    refine .inr ?_
    unfold isPem at hi ⊢
    rw [Bool.and_eq_true] at hi ⊢
    refine ⟨?_, hi.2⟩
    unfold startsWith
    rw [List.isPrefixOf_iff_prefix, String.toList_append]
    exact List.prefix_append _ _
  have hr : ∀ rest, isRoot ("iso_cp_" ++ rest) = false := fun rest => isRoot_eq_false rest (by decide +kernel)
  unfold Store.iso15118ChargePointCertificateReceived isoCpName
  rw [String.append_assoc, String.append_assoc]
  split
  · exact h
  · rename_i hs
    have hf := h.toFile (hk _) (fun ht => by rw [hr] at ht; cases ht) hs
    split
    · exact hf
    · rename_i hs'
      exact hf.copyKey (hk _) (hr _) hs'

theorem deleteCertificate (h : Filled n st) (r : Request) (scan : List String) (remove : String → Removal) :
    Filled n (Store.deleteCertificate sys st r scan remove).2 := by
  have hs := filesOf_eraseAll (removedBy sys st r scan remove) st.directory
  exact ⟨h.limit, fun f hf => h.known f (hs.subset hf), Nat.le_trans hs.countP_le h.le⟩

/-- **One call** keeps the roots within the limit. -/
theorem step (h : Filled n st) (call : Call) : Filled n (st.step sys call) := by
  cases call with
  | caCertificateReceived use c saved => exact (h.caCertificateReceived use c saved).of_eq rfl rfl
  | iso15118CertificateReceived use c saved => exact (h.iso15118CertificateReceived use c saved).of_eq rfl rfl
  | chargePointCertificateReceived c saved => exact (h.chargePointCertificateReceived c saved).of_eq rfl rfl
  | iso15118ChargePointCertificateReceived c saved =>
    exact (h.iso15118ChargePointCertificateReceived c saved).of_eq rfl rfl
  | deleteCertificate r scan remove =>
    unfold State.step
    dsimp only
    split
    · exact h.deleteCertificate r scan remove
    · exact h
  | iso15118DeleteCertificate r scan remove =>
    unfold State.step
    dsimp only
    split
    · exact h.deleteCertificate r scan remove
    · exact h

theorem run (h : Filled n st) (calls : List Call) : Filled n (st.run sys calls) :=
  List.foldlRecOn (motive := Filled n) calls _ h (fun _ h call _ => h.step call)

end Filled

/-! ## Rejections -/

theorem caCertificateReceived_rejected {st : State} {use : CertificateUse} {c : Certificate} {saved : Bool} :
    (caCertificateReceived sys st use c saved).1 = .rejected ↔ ¬hasRoom st = true := by
  unfold caCertificateReceived
  by_cases hr : hasRoom st = true
  · rw [if_pos hr]
    cases st.toFile (caName sys use c) c saved <;> cases use <;> simp [hr]
  · simp [hr]

theorem iso15118CertificateReceived_rejected {st : State} {use : InstallCertificateUse} {c : Certificate} {saved : Bool} :
    (iso15118CertificateReceived sys st use c saved).1 = .rejected ↔ ¬hasRoom st = true := by
  unfold iso15118CertificateReceived
  by_cases hr : hasRoom st = true
  · rw [if_pos hr]
    cases st.toFile (isoName sys use c) c saved <;> simp [hr]
  · simp [hr]

/-- **One request** is rejected as it should be exactly where the store is not crowded. -/
theorem Filled.rejectsAtLimit_iff {n : Nat} {st : State} (h : Filled n st) (call : Call) :
    RejectsAtLimit sys st call ↔ RoomFor st call := by
  have exact : ∀ {rejected : Prop}, (rejected ↔ ¬hasRoom st = true) →
      ((rejected ↔ st.config.certificateStoreMaxLength ≤ roots st.directory) ↔ Uncrowded st) := by
    intro rejected hr
    unfold Uncrowded
    rw [hr, h.hasRoom_iff, h.limit]
    omega
  cases call with
  | caCertificateReceived use c saved => exact exact caCertificateReceived_rejected
  | iso15118CertificateReceived use c saved => exact exact iso15118CertificateReceived_rejected
  | _ => exact Iff.rfl

theorem Filled.rejections {n : Nat} {st : State} (h : Filled n st) (calls : List Call) :
    AllCalls sys (RejectsAtLimit sys) st calls ↔ AllCalls sys RoomFor st calls := by
  induction calls generalizing st with
  | nil => exact Iff.rfl
  | cons call calls ih => exact and_congr (h.rejectsAtLimit_iff call) (ih (h.step call))

theorem filled_empty {st : State} (h : st.directory = ∅) : Filled st.config.certificateStoreMaxLength st := by
  refine ⟨rfl, fun f hf => ?_, ?_⟩
  · rw [h] at hf
    cases hf
  · rw [h]
    exact Nat.zero_le _

/-- A store for one certificate, a certificate of the charge point and then a root. -/
def State.single : State := { State.empty with temporaryKey := some "key", config := { certificateStoreMaxLength := 1 } }

def sampleCrowding : List Call :=
  [.iso15118ChargePointCertificateReceived ⟨"A"⟩ true, .caCertificateReceived .manufacturerRootCertificate ⟨"B"⟩ true]

/-- **A root is rejected by a store that has none.** -/
theorem root_rejected_below_limit :
    (State.single.run .sample sampleCrowding).log.head? =
        some (.caCertificateReceived .manufacturerRootCertificate ⟨"B"⟩ .rejected) ∧
      roots (State.single.run .sample sampleCrowding).directory = 0 ∧
      ¬∀ (sys : System) (calls : List Call) (st : State), st.directory = ∅ →
        AllCalls sys (RejectsAtLimit sys) st calls := by
  refine ⟨by decide +kernel, by decide +kernel, fun h => ?_⟩
  have hr := (h .sample sampleCrowding State.single rfl).2.1
  have hs : (caCertificateReceived .sample (State.single.step .sample (.iso15118ChargePointCertificateReceived ⟨"A"⟩ true))
      .manufacturerRootCertificate ⟨"B"⟩ true).1 = .rejected := by decide +kernel
  have hn : roots (State.single.step .sample (.iso15118ChargePointCertificateReceived ⟨"A"⟩ true)).directory = 0 := by
    decide +kernel
  have hl := hr.1 hs
  rw [hn] at hl
  exact absurd hl (by decide)

/-- **The requests of a run are rejected exactly at the limit if and only if none finds the store crowded**; and the
number of roots never exceeds it. -/
theorem rejections_exact_iff (sys : System) (calls : List Call) (st : State) (h : st.directory = ∅) :
    (AllCalls sys (RejectsAtLimit sys) st calls ↔ AllCalls sys RoomFor st calls) ∧
      roots (st.run sys calls).directory ≤ st.config.certificateStoreMaxLength :=
  ⟨(filled_empty h).rejections calls, ((filled_empty h).run calls).le⟩

/-- Two roots for a store of one certificate. -/
def sampleFilling : List Call :=
  [.caCertificateReceived .manufacturerRootCertificate ⟨"A"⟩ true, .caCertificateReceived .centralSystemRootCertificate ⟨"B"⟩ true]

/-- The second root is rejected, and rightly. -/
theorem rejections_exact_sample :
    AllCalls .sample (RejectsAtLimit .sample) State.single sampleFilling ∧
      roots (State.single.run .sample sampleFilling).directory ≤ 1 ∧
      (State.single.run .sample sampleFilling).log.head? =
        some (.caCertificateReceived .centralSystemRootCertificate ⟨"B"⟩ .rejected) := by
  obtain ⟨hiff, hle⟩ := rejections_exact_iff .sample sampleFilling State.single rfl
  have hroom : AllCalls .sample RoomFor State.single sampleFilling := by
    refine ⟨fun _ => by decide +kernel, fun hlt => ?_, trivial⟩
    exact absurd hlt (by decide +kernel)
  exact ⟨hiff.2 hroom, hle, by decide +kernel⟩

end Store
