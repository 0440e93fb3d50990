import OcppSimu.Installing
import OcppSimu.Trust
/-!
# Permanence — what no request takes back

Two questions are answered by a scan of files that no deletion looks at: whether the certificate of an electric vehicle is
verified by one of the mobility operators' roots, and whether the charge point has a certificate of its own.  So the
answer to the first follows the installations that were accepted, all of them (`ev_verified_iff`), and from the first
installation on the TLS settings name the last certificate accepted, which is in place with its key
(`client_certificate_in_place`).
-/
namespace Store

open Hist

variable {sys : System} {st : State}

/-! ## The two questions -/

/-- `iso15118CheckEvCertificate`: each root is tried alone, with what `certificateChain` gives for it. -/
def iso15118CheckEvCertificate (sys : System) (certificateChain : Certificate → List Certificate) (st : State)
    (c : Certificate) : Bool :=
  (filesOf st.directory).any (fun f => isPem "iso_mo_root_" f.1 && sys.verify c (certificateChain f.2))

/-- `hasChargePointCertificateInstalled`: the settings are tested once a certificate and its key are found, and need not
name these. -/
def hasChargePointCertificateInstalled (st : State) : Bool :=
  (filesOf st.directory).any (fun f => isPem "cp_" f.1 && ((st.directory.lookup (f.1 ++ ".key")).isSome &&
    decide (st.config.tlsClientCertificate ≠ "") && decide (st.config.tlsClientCertificatePrivateKey ≠ "")))

theorem ev_iff {chain : Certificate → List Certificate} {c : Certificate} :
    iso15118CheckEvCertificate sys chain st c = true ↔ ∃ root ∈ certificatesOf "iso_mo_root_" st.directory,
      sys.verify c (chain root) = true := by
  unfold iso15118CheckEvCertificate certificatesOf
  simp only [List.any_eq_true, Bool.and_eq_true, List.mem_map, List.mem_filter]
  constructor
  · rintro ⟨f, hf, hp, hv⟩
    exact ⟨f.2, ⟨f, ⟨hf, hp⟩, rfl⟩, hv⟩
  · rintro ⟨root, ⟨f, ⟨hf, hp⟩, rfl⟩, hv⟩
    exact ⟨f, hf, hp, hv⟩

/-! ## What a call may touch -/

/-- The beginnings of the names that a call writes or removes. -/
def Call.starts : Call → List String
  | .caCertificateReceived .manufacturerRootCertificate _ _ => ["fw_"]
  | .caCertificateReceived .centralSystemRootCertificate _ _ => ["cs_"]
  | .iso15118CertificateReceived .v2gRootCertificate _ _ => ["iso_v2g_root_"]
  | .iso15118CertificateReceived .moRootCertificate _ _ => ["iso_mo_root_"]
  | .chargePointCertificateReceived _ _ => ["cp_"]
  | .iso15118ChargePointCertificateReceived _ _ => ["iso_cp_"]
  | .deleteCertificate _ _ _ | .iso15118DeleteCertificate _ _ _ => ["fw_", "cs_"]

/-- The entries that a call may leave. -/
def Call.leaves : Call → Entry → Bool
  | .caCertificateReceived _ _ _, .caCertificateReceived _ _ _ => true
  | .iso15118CertificateReceived use c _, .iso15118CertificateReceived use' c' _ => decide (use' = use ∧ c' = c)
  | .chargePointCertificateReceived _ _, .chargePointCertificateReceived _ _ => true
  | .iso15118ChargePointCertificateReceived _ _, .iso15118ChargePointCertificateReceived _ _ => true
  | .deleteCertificate _ _ _, .deleteCertificate _ _ _ _ => true
  | .iso15118DeleteCertificate _ _ _, .deleteCertificate _ _ _ _ => true
  | _, _ => false

/-- **Certificates have names of their own** under each beginning. -/
theorem name_injective (h : Function.Injective (sys.sha .sha256)) (start : String) {c c' : Certificate}
    (hn : start ++ sys.sha .sha256 c.pem ++ ".pem" = start ++ sys.sha .sha256 c'.pem ++ ".pem") : c = c' := by
  have hl := congrArg String.toList hn
  simp only [String.toList_append, List.append_cancel_left_eq, List.append_cancel_right_eq] at hl
  have hs : sys.sha .sha256 c.pem = sys.sha .sha256 c'.pem := String.toList_inj.1 hl
  cases c
  cases c'
  exact congrArg Certificate.mk (h hs)

theorem ne_of_not_startsWith {name start : String} (hn : startsWith name start = false) (rest : String) :
    name ≠ start ++ rest := by
  rintro rfl
  rw [startsWith_append] at hn
  cases hn

theorem lookup_toFile {st' : State} {name start rest : String} {c : Certificate} {saved : Bool}
    (hn : startsWith name start = false) (hf : st.toFile (start ++ rest) c saved = some st') :
    st'.directory.lookup name = st.directory.lookup name := by
  rw [toFile_eq_some hf]
  exact AList.lookup_insert_ne (ne_of_not_startsWith hn rest)

theorem lookup_copyKey {st' : State} {name start rest : String} (hn : startsWith name start = false)
    (hk : st.copyKey (start ++ rest) = some st') : st'.directory.lookup name = st.directory.lookup name := by
  obtain ⟨node, -, rfl⟩ := copyKey_eq_some hk
  exact AList.lookup_insert_ne (ne_of_not_startsWith hn rest)

theorem lookup_delete {name : String} (h₁ : startsWith name "fw_" = false) (h₂ : startsWith name "cs_" = false) (r : Request)
    (scan : List String) (remove : String → Removal) :
    (deleteCertificate sys st r scan remove).2.directory.lookup name = st.directory.lookup name := by
  refine (lookup_deleteCertificate st scan name).trans (if_neg (fun hm => ?_))
  have hh := (removed_of_mem hm).2.1
  unfold hit at hh
  rw [h₁, h₂] at hh
  cases hh

/-- **A call touches no file whose name begins otherwise.** -/
theorem lookup_step {name : String} (call : Call) (hn : ∀ start ∈ call.starts, startsWith name start = false) :
    (st.step sys call).directory.lookup name = st.directory.lookup name := by
  cases call with
  | caCertificateReceived use c saved =>
    show (caCertificateReceived sys st use c saved).2.directory.lookup name = _
    unfold caCertificateReceived
    split
    · split
      · rfl
      · rename_i st' hf
        have hw : st'.directory.lookup name = st.directory.lookup name := by
          cases use <;>
          · simp only [caName, String.append_assoc] at hf
            exact lookup_toFile (hn _ List.mem_cons_self) hf
        cases use <;> exact hw
    · rfl
  | iso15118CertificateReceived use c saved =>
    show (iso15118CertificateReceived sys st use c saved).2.directory.lookup name = _
    unfold iso15118CertificateReceived
    split
    · split
      · rfl
      · rename_i hf
        cases use <;>
        · simp only [isoName, String.append_assoc] at hf
          exact lookup_toFile (hn _ List.mem_cons_self) hf
    · rfl
  | chargePointCertificateReceived c saved =>
    show (chargePointCertificateReceived sys st c saved).2.directory.lookup name = _
    unfold chargePointCertificateReceived
    split
    · rfl
    · rename_i hf
      simp only [cpName, String.append_assoc] at hf
      have hw := lookup_toFile (hn _ List.mem_cons_self) hf
      split
      · exact hw
      · rename_i hk
        simp only [cpName, String.append_assoc] at hk
        exact (lookup_copyKey (hn _ List.mem_cons_self) hk).trans hw
  | iso15118ChargePointCertificateReceived c saved =>
    show (iso15118ChargePointCertificateReceived sys st c saved).2.directory.lookup name = _
    unfold iso15118ChargePointCertificateReceived
    split
    · rfl
    · rename_i hf
      simp only [isoCpName, String.append_assoc] at hf
      have hw := lookup_toFile (hn _ List.mem_cons_self) hf
      split
      · exact hw
      · rename_i hk
        simp only [isoCpName, String.append_assoc] at hk
        exact (lookup_copyKey (hn _ List.mem_cons_self) hk).trans hw
  | deleteCertificate r scan remove | iso15118DeleteCertificate r scan remove =>
    have h₁ : startsWith name "fw_" = false := hn "fw_" List.mem_cons_self
    have h₂ : startsWith name "cs_" = false := hn "cs_" (List.mem_cons_of_mem _ List.mem_cons_self)
    show (if scan.Perm st.directory.keys then (deleteCertificate sys st r scan remove).2 else st).directory.lookup name = _
    split
    · exact lookup_delete h₁ h₂ r scan remove
    · rfl

/-- **A call leaves one entry of its own, or none.** -/
theorem log_step (call : Call) :
    (st.step sys call).log = st.log ∨ ∃ e, call.leaves e = true ∧ (st.step sys call).log = e :: st.log := by
  cases call with
  | caCertificateReceived use c saved =>
    refine .inr ⟨_, rfl, congrArg (List.cons _) ?_⟩
    rcases caCertificateReceived_cases st use c saved with ⟨-, -, hs⟩ | ⟨-, ha⟩
    · rw [hs]
    · exact ha.log
  | iso15118CertificateReceived use c saved =>
    refine .inr ⟨.iso15118CertificateReceived use c (iso15118CertificateReceived sys st use c saved).1, ?_,
      congrArg (List.cons _) (apart_iso15118CertificateReceived st use c saved).log⟩
    exact decide_eq_true ⟨rfl, rfl⟩
  | chargePointCertificateReceived c saved =>
    exact .inr ⟨_, rfl, congrArg (List.cons _) (apart_chargePointCertificateReceived st c saved).log⟩
  | iso15118ChargePointCertificateReceived c saved =>
    exact .inr ⟨_, rfl, congrArg (List.cons _) (apart_iso15118ChargePointCertificateReceived st c saved).log⟩
  | deleteCertificate r scan remove | iso15118DeleteCertificate r scan remove =>
    show (if scan.Perm st.directory.keys then (deleteCertificate sys st r scan remove).2 else st).log = _ ∨
      ∃ e, _ ∧ (if scan.Perm st.directory.keys then (deleteCertificate sys st r scan remove).2 else st).log = _
    split
    · refine .inr ⟨_, ?_, deleteCertificate_log st r scan remove⟩
      rfl
    · exact .inl rfl

theorem mem_log_step {e : Entry} (call : Call) (he : call.leaves e = false) : e ∈ (st.step sys call).log ↔ e ∈ st.log := by
  rcases @log_step sys st call with hl | ⟨e', he', hl⟩
  · rw [hl]
  · rw [hl, List.mem_cons, or_iff_right]
    rintro rfl
    rw [he] at he'
    cases he'

theorem log_run_mono {e : Entry} (calls : List Call) (he : e ∈ st.log) : e ∈ (st.run sys calls).log := by
  induction calls generalizing st with
  | nil => exact he
  | cons call calls ih =>
    apply ih
    rcases @log_step sys st call with hl | ⟨e', -, hl⟩ <;> rw [hl]
    · exact he
    · exact List.mem_cons_of_mem e' he

/-! ## The roots of the mobility operators -/

/-- **The roots in the directory are those that were accepted**, each under its own name. -/
def Rooted (sys : System) (st : State) : Prop :=
  ∀ name text, isPem "iso_mo_root_" name = true → (st.directory.lookup name = some (.file text) ↔
    name = isoName sys .moRootCertificate ⟨text⟩ ∧
      .iso15118CertificateReceived .moRootCertificate ⟨text⟩ .accepted ∈ st.log)

theorem iso15118CertificateReceived_cases (st : State) (use : InstallCertificateUse) (c : Certificate) (saved : Bool) :
    let x := iso15118CertificateReceived sys st use c saved
    (x.1 = .accepted ∧ x.2 = { st with directory := st.directory.insert (isoName sys use c) (.file c.pem) }) ∨
      (x.1 ≠ .accepted ∧ x.2 = st) := by
  unfold iso15118CertificateReceived
  split
  · split
    · exact .inr ⟨by simp, rfl⟩
    · rename_i hf
      exact .inl ⟨rfl, toFile_eq_some hf⟩
  · exact .inr ⟨by simp, rfl⟩

/-- A call that begins no name like a root. -/
theorem Rooted.still (h : Rooted sys st) (call : Call)
    (hs : ∀ start ∈ call.starts,
      ("iso_mo_root_".toList.isPrefixOf start.toList || start.toList.isPrefixOf "iso_mo_root_".toList) = false)
    (he : ∀ c, call.leaves (.iso15118CertificateReceived .moRootCertificate c .accepted) = false) :
    Rooted sys (st.step sys call) := by
  intro name text hp
  rw [lookup_step call (fun start hm => isPem_disjoint (hs start hm) hp), h name text hp, mem_log_step call (he _)]

theorem Rooted.accept (hinj : Function.Injective (sys.sha .sha256)) (h : Rooted sys st) (c : Certificate) :
    Rooted sys ({ st with directory := st.directory.insert (isoName sys .moRootCertificate c) (.file c.pem) }.note
      (.iso15118CertificateReceived .moRootCertificate c .accepted)) := by
  intro name text hp
  show (st.directory.insert (isoName sys .moRootCertificate c) (.file c.pem)).lookup name = _ ↔ _ ∧ _ ∈ _ :: st.log
  rw [List.mem_cons]
  by_cases hn : name = isoName sys .moRootCertificate c
  · rw [hn, AList.lookup_insert]
    constructor
    · intro ht
      cases ht
      exact ⟨rfl, .inl rfl⟩
    · rintro ⟨hn', -⟩
      rw [name_injective hinj "iso_mo_root_" hn']
  · rw [AList.lookup_insert_ne hn, h name text hp]
    refine and_congr_right (fun hn' => (or_iff_right ?_).symm)
    intro he
    cases he
    exact hn hn'

theorem Rooted.step (hinj : Function.Injective (sys.sha .sha256)) (h : Rooted sys st) (call : Call) :
    Rooted sys (st.step sys call) := by
  cases call with
  | iso15118CertificateReceived use c saved =>
    cases use with
    | v2gRootCertificate => exact h.still _ (by simp only [Call.starts]; decide +kernel) (fun _ => rfl)
    | moRootCertificate =>
      unfold State.step
      rcases @iso15118CertificateReceived_cases sys st .moRootCertificate c saved with ⟨hx, hs⟩ | ⟨hx, hs⟩
      · dsimp only
        rw [hx, hs]
        exact h.accept hinj c
      · dsimp only
        rw [hs]
        intro name text hp
        refine (h name text hp).trans (and_congr_right (fun _ => ⟨List.mem_cons_of_mem _, fun hm => ?_⟩))
        refine (List.mem_cons.1 hm).resolve_left ?_
        intro he
        injection he with _ _ ha
        exact hx ha.symm
  | caCertificateReceived use c saved => cases use <;> exact h.still _ (by simp only [Call.starts]; decide +kernel) (fun _ => rfl)
  | chargePointCertificateReceived c saved => exact h.still _ (by simp only [Call.starts]; decide +kernel) (fun _ => rfl)
  | iso15118ChargePointCertificateReceived c saved => exact h.still _ (by simp only [Call.starts]; decide +kernel) (fun _ => rfl)
  | deleteCertificate r scan remove => exact h.still _ (by simp only [Call.starts]; decide +kernel) (fun _ => rfl)
  | iso15118DeleteCertificate r scan remove => exact h.still _ (by simp only [Call.starts]; decide +kernel) (fun _ => rfl)

theorem Rooted.run (hinj : Function.Injective (sys.sha .sha256)) (calls : List Call) (h : Rooted sys st) :
    Rooted sys (st.run sys calls) := by
  induction calls generalizing st with
  | nil => exact h
  | cons call calls ih => exact ih (h.step hinj call)

/-- **Vehicles are verified by the roots that were accepted, by all of them and for good**: from a directory without such
roots, whatever is installed and deleted. -/
theorem ev_verified_iff (hinj : Function.Injective (sys.sha .sha256)) (chain : Certificate → List Certificate)
    (calls : List Call) (st : State)
    (hp : ∀ name text, isPem "iso_mo_root_" name = true → st.directory.lookup name ≠ some (.file text)) (hl : st.log = [])
    (c : Certificate) :
    (iso15118CheckEvCertificate sys chain (st.run sys calls) c = true ↔
      ∃ root, .iso15118CertificateReceived .moRootCertificate root .accepted ∈ (st.run sys calls).log ∧
        sys.verify c (chain root) = true) ∧
    (iso15118CheckEvCertificate sys chain (st.run sys calls) c = true →
      ∀ later, iso15118CheckEvCertificate sys chain (st.run sys (calls ++ later)) c = true) := by
  have hr : Rooted sys st := fun name text hn => iff_of_false (hp name text hn) (by rw [hl]; simp)
  have hiff : ∀ calls, iso15118CheckEvCertificate sys chain (st.run sys calls) c = true ↔
      ∃ root, .iso15118CertificateReceived .moRootCertificate root .accepted ∈ (st.run sys calls).log ∧
        sys.verify c (chain root) = true := by
    intro calls
    rw [ev_iff]
    refine exists_congr (fun root => and_congr_left (fun _ => ?_))
    rw [mem_certificatesOf]
    constructor
    · rintro ⟨name, hn, hf⟩
      exact (((hr.run hinj calls) name root.pem hn).1 hf).2
    · intro hm
      have hn : isPem "iso_mo_root_" (isoName sys .moRootCertificate root) = true := isPem_of_append "iso_mo_root_" _
      exact ⟨_, hn, ((hr.run hinj calls) _ root.pem hn).2 ⟨rfl, hm⟩⟩
  refine ⟨hiff calls, fun h later => (hiff _).2 ?_⟩
  obtain ⟨root, hm, hv⟩ := (hiff calls).1 h
  have happ : st.run sys (calls ++ later) = (st.run sys calls).run sys later := List.foldl_append
  rw [happ]
  exact ⟨root, log_run_mono later hm, hv⟩

/-- A root is accepted and the vehicle verified, whatever is asked to be deleted. -/
theorem ev_verified_iff_kept :
    iso15118CheckEvCertificate .sample (fun c => [c]) (State.empty.run .sample
      ([.iso15118CertificateReceived .moRootCertificate ⟨"A"⟩ true] ++
        [.iso15118DeleteCertificate (.sample "A") ["iso_mo_root_A.pem"] (fun _ => .removed)])) ⟨"A"⟩ = true :=
  (ev_verified_iff (fun _ _ h => h) (fun c => [c]) [.iso15118CertificateReceived .moRootCertificate ⟨"A"⟩ true] State.empty
    (fun _ _ _ h => nomatch h) rfl ⟨"A"⟩).2 (by decide +kernel) _

/-! ## The certificate of the charge point -/

/-- The certificate that a call installed. -/
def Entry.installs : Entry → Option Certificate
  | .chargePointCertificateReceived c (some true) => some c
  | _ => none

/-- **The settings name the last certificate installed**, if any, which is in place; nothing stands where a key goes. -/
structure Equipped (sys : System) (st : State) : Prop where
  keys : ∀ c keyed, st.directory.lookup (keyName sys c) ≠ some (.directory keyed)
  unset : last Entry.installs st.log = none →
    st.config.tlsClientCertificate = "" ∧ st.config.tlsClientCertificatePrivateKey = ""
  installed : ∀ c, last Entry.installs st.log = some c → Installed sys c st

theorem startsWith_keyName (c : Certificate) : startsWith (keyName sys c) "cp_" = true := by
  unfold keyName cpName
  rw [String.append_assoc, String.append_assoc]
  exact startsWith_append _ _

/-- A key is not named like a certificate. -/
theorem keyName_ne_cpName (c c' : Certificate) : keyName sys c ≠ cpName sys c' := by
  have hk : (keyName sys c).toList.getLast? = some 'y' := by
    unfold keyName
    rw [String.toList_append, List.getLast?_append]
    rfl
  have hc : (cpName sys c').toList.getLast? = some 'm' := by
    unfold cpName
    rw [String.toList_append, List.getLast?_append]
    rfl
  intro h
  rw [h, hc] at hk
  cases hk

theorem Equipped.of_same {st' : State} (h : Equipped sys st)
    (hf : ∀ name, startsWith name "cp_" = true → st'.directory.lookup name = st.directory.lookup name)
    (h₁ : st'.config.tlsClientCertificate = st.config.tlsClientCertificate)
    (h₂ : st'.config.tlsClientCertificatePrivateKey = st.config.tlsClientCertificatePrivateKey)
    (hl : last Entry.installs st'.log = last Entry.installs st.log) : Equipped sys st' where
  keys c := by
    rw [hf _ (startsWith_keyName c)]
    exact h.keys c
  unset hn := by
    rw [h₁, h₂]
    exact h.unset (hl ▸ hn)
  installed c hc := by
    have hi := h.installed c (hl ▸ hc)
    refine ⟨?_, ?_, h₁.trans hi.tlsClientCertificate, h₂.trans hi.tlsClientCertificatePrivateKey⟩
    · rw [hf _ startsWith_cpName]
      exact hi.certificate
    · rw [hf _ (startsWith_keyName c)]
      exact hi.key

/-- A call of another kind. -/
theorem Equipped.still (h : Equipped sys st) (call : Call)
    (hs : ∀ start ∈ call.starts, ("cp_".toList.isPrefixOf start.toList || start.toList.isPrefixOf "cp_".toList) = false)
    (he : ∀ e, call.leaves e = true → e.installs = none)
    (h₁ : (st.step sys call).config.tlsClientCertificate = st.config.tlsClientCertificate)
    (h₂ : (st.step sys call).config.tlsClientCertificatePrivateKey = st.config.tlsClientCertificatePrivateKey) :
    Equipped sys (st.step sys call) := by
  refine h.of_same (fun name hn => lookup_step call (fun start hm => startsWith_disjoint (hs start hm) hn)) h₁ h₂ ?_
  rcases @log_step sys st call with hl | ⟨e, hm, hl⟩
  · rw [hl]
  · rw [hl, last_cons, he e hm, Option.none_or]

/-- **A certificate is saved, and no key with it**: the last one installed is still in place. -/
theorem Equipped.halfway (hinj : Function.Injective (sys.sha .sha256)) (h : Equipped sys st) (c : Certificate) :
    Equipped sys (halfway sys st c) where
  keys c' := by
    have hk : (Store.halfway sys st c).directory.lookup (keyName sys c') = st.directory.lookup (keyName sys c') :=
      AList.lookup_insert_ne (keyName_ne_cpName c' c)
    rw [hk]
    exact h.keys c'
  unset := h.unset
  installed c' hc := by
    have hi := h.installed c' hc
    refine ⟨?_, ?_, hi.tlsClientCertificate, hi.tlsClientCertificatePrivateKey⟩
    · by_cases hn : cpName sys c' = cpName sys c
      · rw [hn, name_injective hinj "cp_" hn]
        exact AList.lookup_insert _
      · exact (AList.lookup_insert_ne hn).trans hi.certificate
    · obtain ⟨text, ht⟩ := hi.key
      exact ⟨text, (AList.lookup_insert_ne (keyName_ne_cpName c' c)).trans ht⟩

theorem Equipped.note (h : Equipped sys st) {e : Entry} (he : e.installs = none) : Equipped sys (st.note e) :=
  h.of_same (fun _ _ => rfl) rfl rfl (by
    show (e.installs).or _ = _
    rw [he, Option.none_or])

/-- A key is copied where no directory is. -/
theorem copyKey_of_ne {st' : State} {name : String} (h : st.copyKey name = some st')
    (hd : ∀ keyed, st.directory.lookup name ≠ some (.directory keyed)) :
    ∃ k, st' = { st with directory := st.directory.insert name (.file k) } := by
  unfold State.copyKey at h
  split at h
  · rename_i k _ _
    exact ⟨k, (Option.some.inj h).symm⟩
  · exact absurd ‹_› (hd false)
  · cases h

/-- **A certificate is received**: it is installed with its key, or the one before stays in place. -/
theorem Equipped.receive (hinj : Function.Injective (sys.sha .sha256)) (h : Equipped sys st) (c : Certificate) (saved : Bool) :
    Equipped sys (st.step sys (.chargePointCertificateReceived c saved)) := by
  show Equipped sys ((chargePointCertificateReceived sys st c saved).2.note
    (.chargePointCertificateReceived c (chargePointCertificateReceived sys st c saved).1))
  by_cases hs : st.toFile (cpName sys c) c saved = none
  · rw [received_of_not_saved hs]
    exact h.note rfl
  · have hh := h.halfway hinj c
    rw [received_of_saved hs]
    cases hk : (Store.halfway sys st c).copyKey (keyName sys c) with
    | none => exact hh.note rfl
    | some st' =>
      obtain ⟨k, rfl⟩ := copyKey_of_ne hk (hh.keys c)
      refine ⟨fun c' keyed => ?_, nofun, fun c' hc => ?_⟩
      · show ((Store.halfway sys st c).directory.insert (keyName sys c) (.file k)).lookup (keyName sys c') ≠ _
        by_cases hn : keyName sys c' = keyName sys c
        · rw [hn, AList.lookup_insert]
          exact nofun
        · rw [AList.lookup_insert_ne hn]
          exact hh.keys c' keyed
      · cases hc
        refine ⟨?_, ⟨k, AList.lookup_insert _⟩, rfl, rfl⟩
        exact (AList.lookup_insert_ne (keyName_ne_cpName c c).symm).trans (AList.lookup_insert _)

theorem Equipped.step (hinj : Function.Injective (sys.sha .sha256)) (h : Equipped sys st) (call : Call) :
    Equipped sys (st.step sys call) := by
  have silent : ∀ {call : Call}, (∀ c saved, call ≠ .chargePointCertificateReceived c saved) →
      ∀ e, call.leaves e = true → e.installs = none := by
    intro call hc e he
    cases e with
    | chargePointCertificateReceived c a => cases call <;> first | exact absurd rfl (hc _ _) | cases he
    | _ => rfl
  cases call with
  | chargePointCertificateReceived c saved => exact h.receive hinj c saved
  | caCertificateReceived use c saved =>
    have hcfg : (caCertificateReceived sys st use c saved).2.config.tlsClientCertificate = st.config.tlsClientCertificate ∧
        (caCertificateReceived sys st use c saved).2.config.tlsClientCertificatePrivateKey =
          st.config.tlsClientCertificatePrivateKey := by
      unfold caCertificateReceived
      split
      · split
        · exact ⟨rfl, rfl⟩
        · rename_i hf
          rw [toFile_eq_some hf]
          cases use <;> exact ⟨rfl, rfl⟩
      · exact ⟨rfl, rfl⟩
    cases use <;>
    exact h.still _ (by simp only [Call.starts]; decide +kernel) (silent nofun) hcfg.1 hcfg.2
  | iso15118CertificateReceived use c saved =>
    have hcfg : (iso15118CertificateReceived sys st use c saved).2.config = st.config := by
      rcases @iso15118CertificateReceived_cases sys st use c saved with ⟨-, hx⟩ | ⟨-, hx⟩ <;> rw [hx]
    cases use <;>
    exact h.still _ (by simp only [Call.starts]; decide +kernel) (silent nofun) (congrArg _ hcfg) (congrArg _ hcfg)
  | iso15118ChargePointCertificateReceived c saved =>
    have hcfg : (iso15118ChargePointCertificateReceived sys st c saved).2.config = st.config := by
      unfold iso15118ChargePointCertificateReceived
      split
      · rfl
      · rename_i hf
        split
        · rw [toFile_eq_some hf]
        · rename_i hk
          obtain ⟨node, -, rfl⟩ := copyKey_eq_some hk
          rw [toFile_eq_some hf]
    exact h.still _ (by simp only [Call.starts]; decide +kernel) (silent nofun) (congrArg _ hcfg) (congrArg _ hcfg)
  | deleteCertificate r scan remove | iso15118DeleteCertificate r scan remove =>
    have hcfg : (if scan.Perm st.directory.keys then (deleteCertificate sys st r scan remove).2 else st).config = st.config := by
      split <;> rfl
    exact h.still _ (by simp only [Call.starts]; decide +kernel) (silent nofun) (congrArg _ hcfg) (congrArg _ hcfg)

theorem Equipped.run (hinj : Function.Injective (sys.sha .sha256)) (calls : List Call) (h : Equipped sys st) :
    Equipped sys (st.run sys calls) := by
  induction calls generalizing st with
  | nil => exact h
  | cons call calls ih => exact ih (h.step hinj call)

theorem path_ne_empty {name : String} (h : name ≠ "") : path sys name ≠ "" := by
  intro hp
  have hl : Paths.join sys.workingDir.toList name.toList = [] := by
    have := congrArg String.toList hp
    rwa [path, String.toList_ofList] at this
  have hn : name.toList ≠ [] := fun he => h (String.toList_inj.1 he)
  unfold Paths.join at hl
  split at hl
  · exact hn hl
  · split at hl
    · exact hn (List.append_eq_nil_iff.1 hl).2
    · exact List.cons_ne_nil _ _ (List.append_eq_nil_iff.1 hl).2

/-- **Where the settings name a certificate that is in place, it is reported.** -/
theorem has_of_installed {c : Certificate} (h : Installed sys c st) : hasChargePointCertificateInstalled st = true := by
  have hn : cpName sys c ≠ "" := by
    intro he
    have hl := congrArg String.toList he
    simp [cpName] at hl
  obtain ⟨text, ht⟩ := h.key
  have hkey : (st.directory.lookup (cpName sys c ++ ".key")).isSome = true := by
    rw [show cpName sys c ++ ".key" = keyName sys c from rfl, ht]
    rfl
  unfold hasChargePointCertificateInstalled
  refine List.any_eq_true.2 ⟨(cpName sys c, c), mem_filesOf.2 h.certificate, ?_⟩
  have hp : isPem "cp_" (cpName sys c) = true := isPem_of_append "cp_" _
  rw [hp, hkey, h.tlsClientCertificate, h.tlsClientCertificatePrivateKey]
  have h₁ : path sys (cpName sys c) ≠ "" := path_ne_empty hn
  have h₂ : path sys (cpName sys c) ++ ".key" ≠ "" := by
    intro he
    have hl := congrArg String.toList he
    simp at hl
  simp [h₁, h₂]

theorem last_installs_eq_none {h : List Entry} :
    last Entry.installs h = none ↔ ∀ c, .chargePointCertificateReceived c (some true) ∉ h := by
  rw [last_eq_none_iff]
  constructor
  · intro hh c hm
    cases hh _ hm
  · intro hh e he
    unfold Entry.installs
    split
    · exact absurd he (hh _)
    · rfl

/-- **The client certificate stays in place**: the settings name the last certificate that was installed, whose file and
key are there whatever was asked since, and the charge point reports a certificate exactly once one was installed. -/
theorem client_certificate_in_place (hinj : Function.Injective (sys.sha .sha256)) (calls : List Call) (st : State)
    (hk : ∀ c keyed, st.directory.lookup (keyName sys c) ≠ some (.directory keyed))
    (hs : st.config.tlsClientCertificate = "" ∧ st.config.tlsClientCertificatePrivateKey = "") (hl : st.log = []) :
    (∀ c, last Entry.installs (st.run sys calls).log = some c → Installed sys c (st.run sys calls)) ∧
    (hasChargePointCertificateInstalled (st.run sys calls) = true ↔
      ∃ c, .chargePointCertificateReceived c (some true) ∈ (st.run sys calls).log) := by
  have h : Equipped sys (st.run sys calls) := by
    refine Equipped.run hinj calls ⟨hk, fun _ => hs, fun c hc => ?_⟩
    rw [hl] at hc
    cases hc
  refine ⟨h.installed, fun hh => ?_, fun ⟨c, hc⟩ => ?_⟩
  · by_contra hno
    have hu := h.unset (last_installs_eq_none.2 (fun c hc => hno ⟨c, hc⟩))
    unfold hasChargePointCertificateInstalled at hh
    rw [hu.1, hu.2] at hh
    simp at hh
  · cases hlast : last Entry.installs (st.run sys calls).log with
    | none => exact absurd hc (last_installs_eq_none.1 hlast c)
    | some c' => exact has_of_installed (h.installed c' hlast)

/-- A certificate with its key, received again, and a deletion that means it. -/
theorem client_certificate_in_place_sample :
    Installed .sample ⟨"A"⟩ ({ State.empty with temporaryKey := some "key" }.run .sample
      [.chargePointCertificateReceived ⟨"A"⟩ true, .chargePointCertificateReceived ⟨"A"⟩ true,
       .deleteCertificate (.sample "A") ["cp_A.pem", "cp_A.pem.key"] (fun _ => .removed)]) :=
  (client_certificate_in_place (fun _ _ h => h) _ { State.empty with temporaryKey := some "key" } (fun _ _ h => nomatch h)
    ⟨rfl, rfl⟩ rfl).1 ⟨"A"⟩ (by decide +kernel)

end Store
