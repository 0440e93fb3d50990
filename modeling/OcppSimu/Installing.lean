import OcppSimu.Deletion
/-!
# Installing — a charge point certificate and its key

`chargePointCertificateReceived` saves the certificate, copies the key beside it and then writes the two TLS settings.
The copy throws where there is no key, or where a key is there already, and nothing takes the certificate back.  So a call
does all of it or nothing exactly where it fails at once, or has a key to copy and room for it, or finds the same
certificate saved before (`all_or_nothing_iff`).
-/
namespace Store

/-- The name of the key beside a certificate. -/
def keyName (sys : System) (c : Certificate) : String := cpName sys c ++ ".key"

/-- **Everything is installed**: the certificate and a key are there, and the TLS settings name them. -/
structure Installed (sys : System) (c : Certificate) (st : State) : Prop where
  certificate : st.directory.lookup (cpName sys c) = some (.file c.pem)
  key : ∃ text, st.directory.lookup (keyName sys c) = some (.file text)
  tlsClientCertificate : st.config.tlsClientCertificate = path sys (cpName sys c)
  tlsClientCertificatePrivateKey : st.config.tlsClientCertificatePrivateKey = path sys (cpName sys c) ++ ".key"

/-- **Nothing is changed**: neither the files of the charge point's certificates nor the TLS settings. -/
structure Unchanged (st st' : State) : Prop where
  files : ∀ name, startsWith name "cp_" = true → st'.directory.lookup name = st.directory.lookup name
  tlsClientCertificate : st'.config.tlsClientCertificate = st.config.tlsClientCertificate
  tlsClientCertificatePrivateKey : st'.config.tlsClientCertificatePrivateKey = st.config.tlsClientCertificatePrivateKey

theorem Unchanged.refl (st : State) : Unchanged st st := ⟨fun _ _ => rfl, rfl, rfl⟩

/-- **All or nothing.** -/
def AllOrNothing (sys : System) (st : State) (c : Certificate) (saved : Bool) : Prop :=
  let x := chargePointCertificateReceived sys st c saved
  (x.1 = some true ∧ Installed sys c x.2) ∨ (x.1 ≠ some true ∧ Unchanged st x.2)

/-- **The call does not stop halfway**: the certificate cannot be saved, or there is a key and nothing has the name of its
copy, or the copy throws where the same certificate was saved before. -/
def Uninterrupted (sys : System) (st : State) (c : Certificate) (saved : Bool) : Prop :=
  saved = false ∨ (∃ keyed, st.directory.lookup (cpName sys c) = some (.directory keyed)) ∨
    (st.temporaryKey ≠ none ∧ st.directory.lookup (keyName sys c) = none) ∨
    ((st.temporaryKey = none ∨ (∃ text, st.directory.lookup (keyName sys c) = some (.file text)) ∨
        st.directory.lookup (keyName sys c) = some (.directory true)) ∧
      st.directory.lookup (cpName sys c) = some (.file c.pem))

section

variable {sys : System} {st : State} {c : Certificate} {saved : Bool}

theorem keyName_ne : keyName sys c ≠ cpName sys c := by
  intro h
  have hl := congrArg (fun s : String => s.toList.length) h
  simp [keyName] at hl

theorem startsWith_cpName : startsWith (cpName sys c) "cp_" = true := by
  have h := isPem_of_append "cp_" (sys.sha .sha256 c.pem)
  unfold isPem at h
  rw [Bool.and_eq_true] at h
  exact h.1

theorem toFile_eq_none : st.toFile (cpName sys c) c saved = none ↔
    saved = false ∨ ∃ keyed, st.directory.lookup (cpName sys c) = some (.directory keyed) := by
  unfold State.toFile
  by_cases h : saved = true ∧ ∀ keyed, st.directory.lookup (cpName sys c) ≠ some (.directory keyed)
  · obtain ⟨hs, hn⟩ := h
    rw [if_pos ⟨hs, hn⟩]
    refine iff_of_false nofun ?_
    rintro (hf | ⟨keyed, hk⟩)
    · rw [hs] at hf
      cases hf
    · exact hn keyed hk
  · rw [if_neg h]
    refine iff_of_true rfl ?_
    rw [not_and_or, Bool.not_eq_true, not_forall] at h
    simpa using h

/-- The store between the two files. -/
def halfway (sys : System) (st : State) (c : Certificate) : State :=
  { st with directory := st.directory.insert (cpName sys c) (.file c.pem) }

theorem lookup_halfway_key : (halfway sys st c).directory.lookup (keyName sys c) = st.directory.lookup (keyName sys c) :=
  AList.lookup_insert_ne keyName_ne

/-- **What is left halfway** is what was there before only where the same certificate was. -/
theorem unchanged_halfway_iff :
    Unchanged st (halfway sys st c) ↔ st.directory.lookup (cpName sys c) = some (.file c.pem) := by
  constructor
  · intro h
    rw [← h.files (cpName sys c) startsWith_cpName]
    exact AList.lookup_insert _
  · intro h
    refine ⟨fun name _ => ?_, rfl, rfl⟩
    by_cases hn : name = cpName sys c
    · rw [hn, h]
      exact AList.lookup_insert _
    · exact AList.lookup_insert_ne hn

theorem received_of_not_saved (h : st.toFile (cpName sys c) c saved = none) :
    chargePointCertificateReceived sys st c saved = (some false, st) := by
  unfold chargePointCertificateReceived
  rw [h]

theorem received_of_saved (h : st.toFile (cpName sys c) c saved ≠ none) : chargePointCertificateReceived sys st c saved =
    match (halfway sys st c).copyKey (keyName sys c) with
    | none => (none, halfway sys st c)
    | some st => (some true, { st with config := { st.config with
        tlsClientCertificate := path sys (cpName sys c)
        tlsClientCertificatePrivateKey := path sys (cpName sys c) ++ ".key" } }) := by
  obtain ⟨st', hs⟩ := Option.ne_none_iff_exists'.1 h
  unfold chargePointCertificateReceived
  rw [hs, toFile_eq_some hs]
  rfl

end

/-- **Without a key the certificate is left behind.** -/
theorem certificate_without_key :
    chargePointCertificateReceived .sample State.empty ⟨"A"⟩ true = (none, halfway .sample State.empty ⟨"A"⟩) ∧
      (halfway .sample State.empty ⟨"A"⟩).directory.lookup "cp_A.pem" = some (.file "A") ∧
      ¬∀ (sys : System) (st : State) (c : Certificate) (saved : Bool), AllOrNothing sys st c saved := by
  have hx : chargePointCertificateReceived .sample State.empty ⟨"A"⟩ true = (none, halfway .sample State.empty ⟨"A"⟩) :=
    received_of_saved (by decide +kernel)
  refine ⟨hx, by decide +kernel, fun h => ?_⟩
  have ha := h .sample State.empty ⟨"A"⟩ true
  unfold AllOrNothing at ha
  rw [hx] at ha
  rcases ha with ⟨ha, -⟩ | ⟨-, hu⟩
  · cases ha
  · have hl := unchanged_halfway_iff.1 hu
    cases hl

/-- **Installing a charge point certificate is all or nothing exactly where the call does not stop halfway.** -/
theorem all_or_nothing_iff (sys : System) (st : State) (c : Certificate) (saved : Bool) :
    AllOrNothing sys st c saved ↔ Uninterrupted sys st c saved := by
  by_cases hs : st.toFile (cpName sys c) c saved = none
  · have hu : Uninterrupted sys st c saved := (toFile_eq_none.1 hs).imp_right Or.inl
    unfold AllOrNothing
    rw [received_of_not_saved hs]
    exact iff_of_true (.inr ⟨by simp, Unchanged.refl st⟩) hu
  · have hc : ¬(saved = false ∨ ∃ keyed, st.directory.lookup (cpName sys c) = some (.directory keyed)) :=
      fun h => hs (toFile_eq_none.2 h)
    obtain ⟨h₁, h₂⟩ := not_or.1 hc
    have hk : (halfway sys st c).directory.lookup (keyName sys c) = st.directory.lookup (keyName sys c) := lookup_halfway_key
    unfold AllOrNothing Uninterrupted
    rw [received_of_saved hs]
    unfold State.copyKey
    rw [hk, show (halfway sys st c).temporaryKey = st.temporaryKey from rfl]
    have threw : (none = some true ∧ Installed sys c (halfway sys st c) ∨ none ≠ some true ∧ Unchanged st (halfway sys st c)) ↔
        st.directory.lookup (cpName sys c) = some (.file c.pem) := by
      rw [← unchanged_halfway_iff]
      simp
    cases st.temporaryKey with
    | none =>
      dsimp only
      rw [threw]
      simp [h₁, h₂]
    | some k =>
      cases hl : st.directory.lookup (keyName sys c) with
      | none =>
        -- the only way through: both files are written
        refine iff_of_true (.inl ⟨rfl, ?_, ⟨k, AList.lookup_insert _⟩, rfl, rfl⟩) (by simp)
        exact (AList.lookup_insert_ne keyName_ne.symm).trans (AList.lookup_insert _)
      | some node =>
        cases node with
        | file text =>
          dsimp only
          rw [threw]
          simp [h₁, h₂]
        | directory keyed =>
          cases keyed with
          | true =>
            dsimp only
            rw [threw]
            simp [h₁, h₂]
          | false =>
            -- the copy goes into the directory, and there is no key beside the certificate
            refine iff_of_false ?_ (by simp [h₁, h₂])
            rintro (⟨-, hi⟩ | ⟨hn, -⟩)
            · obtain ⟨text, ht⟩ := hi.key
              cases (AList.lookup_insert _).symm.trans ht
            · exact hn rfl

end Store
