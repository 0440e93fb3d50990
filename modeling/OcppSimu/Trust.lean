import OcppSimu.Deletion
/-!
# Trust — the roots firmware is checked against

`checkFirmwareSigningCertificate` loads the files named `fw_….pem` each time it is called.  Five operations write into
that directory, under five other beginnings; what the log says of the manufacturer roots is what a scan finds, in every
run from a directory without certificates (`trusted_iff`).
-/
namespace Store

open Hist

variable {sys : System}

/-- A certificate is accepted as a manufacturer root. -/
def acceptsRoot (c : Certificate) (e : Entry) : Bool :=
  decide (e = .caCertificateReceived .manufacturerRootCertificate c .accepted)

/-- A deletion means a certificate. -/
def meansRoot (sys : System) (c : Certificate) : Entry → Bool
  | .deleteCertificate r _ _ _ => Certificate.answers sys r c
  | _ => false

/-- A deletion means a certificate, and reports the removal of its file as a manufacturer root. -/
def takesRoot (sys : System) (c : Certificate) : Entry → Bool
  | .deleteCertificate r removed _ _ =>
    Certificate.answers sys r c && decide (caName sys .manufacturerRootCertificate c ∈ removed)
  | _ => false

/-- The files a deletion matched and left. -/
def Entry.left : Entry → List String
  | .deleteCertificate _ _ left _ => left
  | _ => []

/-- **A deletion removes whatever it matches**: every removal works, and no matched file is spared by its bare name. -/
def Removes (sys : System) (st : State) (call : Call) : Prop :=
  ∀ r scan remove, call.deletion = some (r, scan, remove) → ∀ name, hit sys r st.directory name = true →
    name ≠ st.config.tlsServerCertificateCa ∧ remove name = .removed

/-- **The manufacturer roots of a store**: the files named as such are those of the certificates accepted and not taken
since; and where deletions left nothing they matched, of those not meant since. -/
structure Trusted (sys : System) (st : State) : Prop where
  files : ∀ name text, isPem "fw_" name = true → (st.directory.lookup name = some (.file text) ↔
    name = caName sys .manufacturerRootCertificate ⟨text⟩ ∧ since (acceptsRoot ⟨text⟩) (takesRoot sys ⟨text⟩) st.log = true)
  meant : (∀ e ∈ st.log, e.left = []) → ∀ c,
    since (acceptsRoot c) (takesRoot sys c) st.log = since (acceptsRoot c) (meansRoot sys c) st.log

/-! ## Names -/

theorem isPem_caName (c : Certificate) : isPem "fw_" (caName sys .manufacturerRootCertificate c) = true :=
  isPem_of_append "fw_" _

theorem caName_injective (h : Function.Injective (sys.sha .sha256)) {c c' : Certificate}
    (hn : caName sys .manufacturerRootCertificate c = caName sys .manufacturerRootCertificate c') : c = c' := by
  unfold caName at hn
  have hl := congrArg String.toList hn
  simp only [String.toList_append, List.append_cancel_left_eq, List.append_cancel_right_eq] at hl
  have hs : sys.sha .sha256 c.pem = sys.sha .sha256 c'.pem := String.toList_inj.1 hl
  cases c
  cases c'
  exact congrArg Certificate.mk (h hs)

/-- **No file of another kind is named as a manufacturer root.** -/
theorem ne_of_start {start rest name : String}
    (h : (start.toList.isPrefixOf "fw_".toList || "fw_".toList.isPrefixOf start.toList) = false)
    (hp : isPem "fw_" name = true) : name ≠ start ++ rest := by
  rintro rfl
  unfold isPem at hp
  rw [startsWith_disjoint h (startsWith_append start rest)] at hp
  cases hp

/-! ## One call -/

/-- An entry says nothing of a manufacturer root. -/
def Quiet (sys : System) (e : Entry) : Prop :=
  ∀ c, acceptsRoot c e = false ∧ takesRoot sys c e = false ∧ meansRoot sys c e = false

/-- A call that has logged nothing yet has touched no file named as a manufacturer root. -/
structure Apart (st st' : State) : Prop where
  log : st'.log = st.log
  files : ∀ name, isPem "fw_" name = true → st'.directory.lookup name = st.directory.lookup name

theorem Apart.refl (st : State) : Apart st st := ⟨rfl, fun _ _ => rfl⟩

theorem Apart.trans {st st' st'' : State} (h : Apart st st') (h' : Apart st' st'') : Apart st st'' :=
  ⟨h'.log.trans h.log, fun name hn => (h'.files name hn).trans (h.files name hn)⟩

theorem apart_toFile {st st' : State} {start rest : String} {c : Certificate} {saved : Bool}
    (h : (start.toList.isPrefixOf "fw_".toList || "fw_".toList.isPrefixOf start.toList) = false)
    (hf : st.toFile (start ++ rest) c saved = some st') : Apart st st' := by
  rw [toFile_eq_some hf]
  exact ⟨rfl, fun name hn => AList.lookup_insert_ne (ne_of_start h hn)⟩

theorem apart_copyKey {st st' : State} {start rest : String}
    (h : (start.toList.isPrefixOf "fw_".toList || "fw_".toList.isPrefixOf start.toList) = false)
    (hk : st.copyKey (start ++ rest) = some st') : Apart st st' := by
  obtain ⟨node, -, rfl⟩ := copyKey_eq_some hk
  exact ⟨rfl, fun name hn => AList.lookup_insert_ne (ne_of_start h hn)⟩

theorem apart_iso15118CertificateReceived (st : State) (use : InstallCertificateUse) (c : Certificate) (saved : Bool) :
    Apart st (iso15118CertificateReceived sys st use c saved).2 := by
  unfold iso15118CertificateReceived
  split
  · split
    · exact Apart.refl st
    · rename_i hf
      cases use <;>
      · simp only [isoName, String.append_assoc] at hf
        exact apart_toFile (by decide +kernel) hf
  · exact Apart.refl st

theorem apart_chargePointCertificateReceived (st : State) (c : Certificate) (saved : Bool) :
    Apart st (chargePointCertificateReceived sys st c saved).2 := by
  have hstart : ("cp_".toList.isPrefixOf "fw_".toList || "fw_".toList.isPrefixOf "cp_".toList) = false := by
    decide +kernel
  unfold chargePointCertificateReceived
  split
  · exact Apart.refl st
  · rename_i hf
    unfold cpName at hf
    rw [String.append_assoc] at hf
    have hw := apart_toFile hstart hf
    split
    · exact hw
    · rename_i hk
      unfold cpName at hk
      rw [String.append_assoc, String.append_assoc] at hk
      have hc := apart_copyKey hstart hk
      exact hw.trans ⟨hc.log, hc.files⟩

theorem apart_iso15118ChargePointCertificateReceived (st : State) (c : Certificate) (saved : Bool) :
    Apart st (iso15118ChargePointCertificateReceived sys st c saved).2 := by
  have hstart : ("iso_cp_".toList.isPrefixOf "fw_".toList || "fw_".toList.isPrefixOf "iso_cp_".toList) = false := by
    decide +kernel
  unfold iso15118ChargePointCertificateReceived
  split
  · exact Apart.refl st
  · rename_i hf
    unfold isoCpName at hf
    rw [String.append_assoc] at hf
    have hw := apart_toFile hstart hf
    split
    · exact hw
    · rename_i hk
      unfold isoCpName at hk
      rw [String.append_assoc, String.append_assoc] at hk
      exact hw.trans (apart_copyKey hstart hk)

/-- **What `caCertificateReceived` does to the manufacturer roots**: it writes one and accepts it, or touches none. -/
theorem caCertificateReceived_cases (st : State) (use : CertificateUse) (c : Certificate) (saved : Bool) :
    let x := caCertificateReceived sys st use c saved
    (use = .manufacturerRootCertificate ∧ x.1 = .accepted ∧
      x.2 = { st with directory := st.directory.insert (caName sys .manufacturerRootCertificate c) (.file c.pem) }) ∨
    ((use = .centralSystemRootCertificate ∨ x.1 ≠ .accepted) ∧ Apart st x.2) := by
  unfold caCertificateReceived
  split
  · split
    · exact .inr ⟨.inr (by simp), Apart.refl st⟩
    · rename_i hf
      cases use with
      | manufacturerRootCertificate => exact .inl ⟨rfl, rfl, toFile_eq_some hf⟩
      | centralSystemRootCertificate =>
        simp only [caName, String.append_assoc] at hf
        have hw := apart_toFile (by decide +kernel) hf
        exact .inr ⟨.inl rfl, hw.log, hw.files⟩
  · exact .inr ⟨.inr (by simp), Apart.refl st⟩

theorem Trusted.apart {st st' : State} (h : Trusted sys st) {e : Entry} (hq : Quiet sys e) (ha : Apart st st') :
    Trusted sys (st'.note e) := by
  have hl : (st'.note e).log = e :: st.log := congrArg _ ha.log
  constructor
  · intro name text hn
    obtain ⟨hacc, ht, -⟩ := hq ⟨text⟩
    have hd : (st'.note e).directory.lookup name = st.directory.lookup name := ha.files name hn
    rw [hd, h.files name text hn, hl, since_cons, hacc, ht]
    simp
  · intro hleft c
    obtain ⟨hacc, ht, hm⟩ := hq c
    rw [hl] at hleft
    rw [hl, since_cons, since_cons, hacc, ht, hm, h.meant (fun e he => hleft e (List.mem_cons_of_mem _ he)) c]

/-- **A manufacturer root comes in**: its file is the one the name says, and no other is touched. -/
theorem Trusted.accept (hinj : Function.Injective (sys.sha .sha256)) {st st' : State} (h : Trusted sys st) {c : Certificate}
    (hl : st'.log = .caCertificateReceived .manufacturerRootCertificate c .accepted :: st.log)
    (hd : st'.directory = st.directory.insert (caName sys .manufacturerRootCertificate c) (.file c.pem)) :
    Trusted sys st' := by
  constructor
  · intro name text hn
    rw [hd, hl, since_cons]
    by_cases hc : c = ⟨text⟩
    · have ha : acceptsRoot ⟨text⟩ (.caCertificateReceived .manufacturerRootCertificate c .accepted) = true := by
        rw [hc]
        simp [acceptsRoot]
      rw [ha, Bool.true_or]
      by_cases hname : name = caName sys .manufacturerRootCertificate c
      · rw [hname, AList.lookup_insert, hc]
        simp
      · rw [AList.lookup_insert_ne hname, h.files name text hn, ← hc]
        simp [hname]
    · have ha : acceptsRoot ⟨text⟩ (.caCertificateReceived .manufacturerRootCertificate c .accepted) = false := by
        simp [acceptsRoot, hc]
      have ht : takesRoot sys ⟨text⟩ (.caCertificateReceived .manufacturerRootCertificate c .accepted) = false := rfl
      rw [ha, ht, Bool.false_or, Bool.not_false, Bool.true_and]
      by_cases hname : name = caName sys .manufacturerRootCertificate c
      · rw [hname, AList.lookup_insert]
        constructor
        · intro hs
          exact absurd (congrArg Certificate.mk (Node.file.inj (Option.some.inj hs))) hc
        · rintro ⟨hs, -⟩
          exact absurd (caName_injective hinj hs) hc
      · rw [AList.lookup_insert_ne hname, h.files name text hn]
  · intro hleft c'
    rw [hl] at hleft
    rw [hl, since_cons, since_cons, h.meant (fun e he => hleft e (List.mem_cons_of_mem _ he)) c']
    rfl

/-- The names a deletion matches and leaves. -/
def leftBy (sys : System) (st : State) (r : Request) (scan : List String) (remove : String → Removal) : List String :=
  (scan.filter (hit sys r st.directory)).filter (fun name => decide (name ∉ removedBy sys st r scan remove))

theorem deleteCertificate_log (st : State) (r : Request) (scan : List String) (remove : String → Removal) :
    (deleteCertificate sys st r scan remove).2.log =
      .deleteCertificate r (removedBy sys st r scan remove) (leftBy sys st r scan remove)
        (deleteCertificate sys st r scan remove).1 :: st.log := rfl

/-- The file of a certificate that is meant is matched. -/
theorem hit_caName {r : Request} {d : Directory} {c : Certificate} (ha : Certificate.answers sys r c = true)
    (hl : d.lookup (caName sys .manufacturerRootCertificate c) = some (.file c.pem)) :
    hit sys r d (caName sys .manufacturerRootCertificate c) = true := by
  have hp : isPem "fw_" (caName sys .manufacturerRootCertificate c) = true := isPem_caName c
  unfold isPem at hp
  rw [Bool.and_eq_true] at hp
  unfold hit
  rw [hl, hp.1, hp.2]
  simpa using ha

/-- A file is still there exactly where its root is still accepted. -/
theorem Trusted.delete_files {st : State} (h : Trusted sys st) (r : Request) (scan : List String) (remove : String → Removal)
    (name text : String) (hn : isPem "fw_" name = true) :
    (deleteCertificate sys st r scan remove).2.directory.lookup name = some (.file text) ↔
      name = caName sys .manufacturerRootCertificate ⟨text⟩ ∧
        since (acceptsRoot ⟨text⟩) (takesRoot sys ⟨text⟩) (deleteCertificate sys st r scan remove).2.log = true := by
  rw [lookup_deleteCertificate, deleteCertificate_log, since_cons]
  have ha : acceptsRoot ⟨text⟩ (.deleteCertificate r (removedBy sys st r scan remove) (leftBy sys st r scan remove)
      (deleteCertificate sys st r scan remove).1) = false := by simp [acceptsRoot]
  rw [ha, Bool.false_or, Bool.and_eq_true, Bool.not_eq_true']
  constructor
  · intro hf
    split at hf
    · cases hf
    · rename_i hm
      obtain ⟨hname, hsince⟩ := (h.files name text hn).1 hf
      refine ⟨hname, ?_, hsince⟩
      rw [hname] at hm
      simp [takesRoot, hm]
  · rintro ⟨hname, ht, hsince⟩
    have hf := (h.files name text hn).2 ⟨hname, hsince⟩
    rw [if_neg, hf]
    intro hm
    -- a removed file was matched, so its text is meant
    obtain ⟨-, hh, -⟩ := removed_of_mem hm
    obtain ⟨t, hlt, hat⟩ := lookup_of_hit hh
    rw [hf] at hlt
    rw [← Node.file.inj (Option.some.inj hlt)] at hat
    rw [hname] at hm
    simp [takesRoot, hat, hm] at ht

/-- Where nothing matched is left, the root of an accepted certificate is taken by the requests that mean it. -/
theorem Trusted.takes_eq_answers {st : State} (h : Trusted sys st) (r : Request) {scan : List String} (hs : scan.Perm st.directory.keys)
    (remove : String → Removal) (hempty : leftBy sys st r scan remove = []) {c : Certificate}
    (hsince : since (acceptsRoot c) (takesRoot sys c) st.log = true) :
    takesRoot sys c (.deleteCertificate r (removedBy sys st r scan remove) (leftBy sys st r scan remove)
      (deleteCertificate sys st r scan remove).1) = Certificate.answers sys r c := by
  cases ha : Certificate.answers sys r c with
  | false => simp [takesRoot, ha]
  | true =>
    have hf := (h.files _ c.pem (isPem_caName c)).2 ⟨rfl, hsince⟩
    have hh := hit_caName ha hf
    have hm : caName sys .manufacturerRootCertificate c ∈ removedBy sys st r scan remove := by
      by_contra hm
      have hl : caName sys .manufacturerRootCertificate c ∈ leftBy sys st r scan remove :=
        List.mem_filter.2 ⟨List.mem_filter.2 ⟨mem_scan_of_hit hs hh, hh⟩, by simpa using hm⟩
      rw [hempty] at hl
      cases hl
    simp [takesRoot, ha, hm]

/-- **A deletion takes the roots whose removal it reports.** -/
theorem Trusted.delete {st : State} (h : Trusted sys st) (r : Request) {scan : List String} (hs : scan.Perm st.directory.keys)
    (remove : String → Removal) : Trusted sys (deleteCertificate sys st r scan remove).2 := by
  refine ⟨h.delete_files r scan remove, fun hleft c => ?_⟩
  rw [deleteCertificate_log] at hleft
  have hempty : leftBy sys st r scan remove = [] := hleft _ List.mem_cons_self
  have hih := h.meant (fun e he => hleft e (List.mem_cons_of_mem _ he)) c
  rw [deleteCertificate_log, since_cons, since_cons, ← hih]
  cases hsince : since (acceptsRoot c) (takesRoot sys c) st.log with
  | false => simp
  | true =>
    rw [h.takes_eq_answers r hs remove hempty hsince]
    rfl

/-- **Every call keeps the manufacturer roots.** -/
theorem Trusted.step (hinj : Function.Injective (sys.sha .sha256)) {st : State} (h : Trusted sys st) (call : Call) :
    Trusted sys (st.step sys call) := by
  have hdelete : ∀ r scan remove, Trusted sys
      (if scan.Perm st.directory.keys then (deleteCertificate sys st r scan remove).2 else st) := by
    intro r scan remove
    split
    · rename_i hs
      exact h.delete r hs remove
    · exact h
  cases call with
  | caCertificateReceived use c saved =>
    rcases caCertificateReceived_cases st use c saved with ⟨rfl, hx, hs⟩ | ⟨hx, ha⟩
    · unfold State.step
      dsimp only
      rw [hx, hs]
      exact h.accept hinj rfl rfl
    · refine h.apart (fun c' => ⟨?_, rfl, rfl⟩) ha
      rcases hx with hx | hx <;> simp [acceptsRoot, hx]
  | iso15118CertificateReceived use c saved =>
    exact h.apart (fun _ => ⟨by simp [acceptsRoot], rfl, rfl⟩) (apart_iso15118CertificateReceived st use c saved)
  | chargePointCertificateReceived c saved =>
    exact h.apart (fun _ => ⟨by simp [acceptsRoot], rfl, rfl⟩) (apart_chargePointCertificateReceived st c saved)
  | iso15118ChargePointCertificateReceived c saved =>
    exact h.apart (fun _ => ⟨by simp [acceptsRoot], rfl, rfl⟩) (apart_iso15118ChargePointCertificateReceived st c saved)
  | deleteCertificate r scan remove => exact hdelete r scan remove
  | iso15118DeleteCertificate r scan remove => exact hdelete r scan remove

/-! ## Runs -/

theorem Trusted.run (hinj : Function.Injective (sys.sha .sha256)) (calls : List Call) {st : State} (h : Trusted sys st) :
    Trusted sys (st.run sys calls) := by
  induction calls generalizing st with
  | nil => exact h
  | cons call calls ih => exact ih (h.step hinj call)

theorem trusted_of_no_pem {st : State} (hp : ∀ name text, endsWith name ".pem" = true → st.directory.lookup name ≠ some (.file text))
    (hl : st.log = []) : Trusted sys st := by
  constructor
  · intro name text hn
    unfold isPem at hn
    rw [Bool.and_eq_true] at hn
    rw [hl]
    simp [hp name text hn.2]
  · intro _ c
    rw [hl]
    rfl

/-- A deletion that removes whatever it matches leaves nothing. -/
theorem leftBy_of_removes {st : State} {r : Request} {scan : List String} {remove : String → Removal}
    (h : ∀ name, hit sys r st.directory name = true → name ≠ st.config.tlsServerCertificateCa ∧ remove name = .removed) :
    leftBy sys st r scan remove = [] := by
  have ho : ∀ name, hit sys r st.directory name = true → outcome st.config.tlsServerCertificateCa remove name = .removed := by
    intro name hh
    unfold outcome
    rw [if_neg (h name hh).1, (h name hh).2]
  have he : Ends sys r st.directory st.config.tlsServerCertificateCa remove scan := by
    intro name _ hh
    rw [ho name hh]
    simp
  refine List.filter_eq_nil_iff.2 (fun name hm => ?_)
  obtain ⟨hm, hh⟩ := List.mem_filter.1 hm
  have hr : name ∈ removedBy sys st r scan remove := (deleteLoop_of_ends he .notFound).1 name hm hh (ho name hh)
  simpa using hr

theorem left_of_removes (calls : List Call) {st : State} (h : AllCalls sys (Removes sys) st calls)
    (hl : ∀ e ∈ st.log, e.left = []) : ∀ e ∈ (st.run sys calls).log, e.left = [] := by
  induction calls generalizing st with
  | nil => exact hl
  | cons call calls ih =>
    refine ih h.2 (fun e he => ?_)
    have hdelete : ∀ r scan remove, call.deletion = some (r, scan, remove) →
        e ∈ (if scan.Perm st.directory.keys then (deleteCertificate sys st r scan remove).2 else st).log → e.left = [] := by
      intro r scan remove hd he
      split at he
      · rw [deleteCertificate_log] at he
        rcases List.mem_cons.1 he with rfl | he
        · exact leftBy_of_removes (h.1 r scan remove hd)
        · exact hl e he
      · exact hl e he
    have hnote : ∀ {st' : State} {e' : Entry}, st'.log = st.log → e'.left = [] → e ∈ (st'.note e').log → e.left = [] := by
      intro st' e' hlog he' he
      rcases List.mem_cons.1 he with rfl | he
      · exact he'
      · exact hl e (hlog ▸ he)
    cases call with
    | caCertificateReceived use c saved =>
      have hlog : (caCertificateReceived sys st use c saved).2.log = st.log := by
        rcases caCertificateReceived_cases st use c saved with ⟨-, -, hs⟩ | ⟨-, ha⟩
        · rw [hs]
        · exact ha.log
      exact hnote hlog rfl he
    | iso15118CertificateReceived use c saved => exact hnote (apart_iso15118CertificateReceived st use c saved).log rfl he
    | chargePointCertificateReceived c saved => exact hnote (apart_chargePointCertificateReceived st c saved).log rfl he
    | iso15118ChargePointCertificateReceived c saved =>
      exact hnote (apart_iso15118ChargePointCertificateReceived st c saved).log rfl he
    | deleteCertificate r scan remove => exact hdelete r scan remove rfl he
    | iso15118DeleteCertificate r scan remove => exact hdelete r scan remove rfl he

/-- The certificates firmware is checked against are those accepted and not taken since. -/
theorem Trusted.mem_caCertificates {st : State} (h : Trusted sys st) (c : Certificate) :
    c ∈ caCertificates st ↔ since (acceptsRoot c) (takesRoot sys c) st.log = true := by
  unfold caCertificates
  rw [mem_certificatesOf]
  constructor
  · rintro ⟨name, hn, hf⟩
    exact ((h.files name c.pem hn).1 hf).2
  · intro hs
    exact ⟨_, isPem_caName c, (h.files _ c.pem (isPem_caName c)).2 ⟨rfl, hs⟩⟩

/-- **A firmware certificate is accepted** where the library verifies it against the certificates of the store, and one was
accepted as a manufacturer root and not taken since. -/
theorem checkFirmwareSigningCertificate_iff (hinj : Function.Injective (sys.sha .sha256)) (calls : List Call) (st : State)
    (hp : ∀ name text, endsWith name ".pem" = true → st.directory.lookup name ≠ some (.file text)) (hl : st.log = [])
    (firmware : Certificate) :
    checkFirmwareSigningCertificate sys (st.run sys calls) firmware = true ↔
      (∃ root, since (acceptsRoot root) (takesRoot sys root) (st.run sys calls).log = true) ∧
        sys.verify firmware (caCertificates (st.run sys calls)) = true := by
  have ht : Trusted sys (st.run sys calls) := (trusted_of_no_pem hp hl).run hinj calls
  unfold checkFirmwareSigningCertificate
  rw [Bool.and_eq_true, decide_eq_true_eq]
  refine and_congr_left (fun _ => ?_)
  constructor
  · intro hne
    obtain ⟨root, hr⟩ := List.exists_mem_of_ne_nil _ hne
    exact ⟨root, (ht.mem_caCertificates root).1 hr⟩
  · rintro ⟨root, hs⟩
    exact List.ne_nil_of_mem ((ht.mem_caCertificates root).2 hs)

/-- **What firmware is checked against is what is listed, and what the log says**: the certificates accepted as
manufacturer roots and not taken since, and, where every deletion removes whatever it matches, not meant since. -/
theorem trusted_iff (hinj : Function.Injective (sys.sha .sha256)) (calls : List Call) (st : State)
    (hp : ∀ name text, endsWith name ".pem" = true → st.directory.lookup name ≠ some (.file text)) (hl : st.log = [])
    (c : Certificate) :
    (c ∈ caCertificates (st.run sys calls) ↔
      c ∈ getInstalledCertificates .manufacturerRootCertificate (st.run sys calls)) ∧
    (c ∈ caCertificates (st.run sys calls) ↔
      since (acceptsRoot c) (takesRoot sys c) (st.run sys calls).log = true) ∧
    (c ∈ caCertificates (st.run sys calls) →
      .caCertificateReceived .manufacturerRootCertificate c .accepted ∈ (st.run sys calls).log) ∧
    (AllCalls sys (Removes sys) st calls → (c ∈ caCertificates (st.run sys calls) ↔
      since (acceptsRoot c) (meansRoot sys c) (st.run sys calls).log = true)) := by
  have ht : Trusted sys (st.run sys calls) := (trusted_of_no_pem hp hl).run hinj calls
  have hmem := ht.mem_caCertificates c
  refine ⟨Iff.rfl, hmem, fun hc => ?_, fun hr => ?_⟩
  · obtain ⟨newer, e, older, hlog, he, -⟩ := (since_iff _ _ _).1 (hmem.1 hc)
    have he' : e = .caCertificateReceived .manufacturerRootCertificate c .accepted := by simpa [acceptsRoot] using he
    rw [hlog, ← he']
    simp
  · rw [hmem, ht.meant (left_of_removes calls hr (by simp [hl])) c]

/-- Two roots, of which one is deleted, and a central system root that stays out. -/
theorem trusted_iff_run :
    ⟨"B"⟩ ∈ caCertificates (State.empty.run .sample
      [.caCertificateReceived .manufacturerRootCertificate ⟨"A"⟩ true,
       .caCertificateReceived .manufacturerRootCertificate ⟨"B"⟩ true,
       .caCertificateReceived .centralSystemRootCertificate ⟨"C"⟩ true,
       .deleteCertificate (.sample "A") ["fw_A.pem", "fw_B.pem", "cs_C.pem"] (fun _ => .removed)]) := by
  have hinj : Function.Injective (System.sample.sha .sha256) := fun _ _ h => h
  refine ((trusted_iff hinj _ State.empty ?_ rfl ⟨"B"⟩).2.2.2 ?_).2 (by decide +kernel)
  · intro name text _ hl
    cases hl
  · refine ⟨?_, ?_, ?_, ?_, trivial⟩
    · intro r scan remove hd
      cases hd
    · intro r scan remove hd
      cases hd
    · intro r scan remove hd
      cases hd
    · intro r scan remove hd name hh
      obtain ⟨rfl, rfl, rfl⟩ : Request.sample "A" = r ∧ ["fw_A.pem", "fw_B.pem", "cs_C.pem"] = scan ∧
          (fun _ => .removed) = remove := by simpa [Call.deletion] using hd
      refine ⟨?_, rfl⟩
      rintro rfl
      exact absurd hh (by decide +kernel)

/-- **A root that a deletion means stays where its removal is refused, or where its bare name is
`TlsServerCertificateCa`.** -/
theorem matched_root_kept :
    let install : Call := .caCertificateReceived .manufacturerRootCertificate ⟨"A"⟩ true
    let refused := State.empty.run .sample
      [install, .deleteCertificate (.sample "A") ["fw_A.pem"] (fun _ => .refused)]
    let spared := { State.empty with config := { tlsServerCertificateCa := "fw_A.pem", certificateStoreMaxLength := 10 } }.run
      .sample [install, .deleteCertificate (.sample "A") ["fw_A.pem"] (fun _ => .removed)]
    ∀ st ∈ [refused, spared], caCertificates st = [⟨"A"⟩] ∧ since (acceptsRoot ⟨"A"⟩) (meansRoot .sample ⟨"A"⟩) st.log = false ∧
      .deleteCertificate (.sample "A") [] ["fw_A.pem"] (some .failed) ∈ st.log := by
  intro install refused spared st hst
  rcases List.mem_pair.1 hst with rfl | rfl
  · decide +kernel
  · decide +kernel

end Store
