import OcppSimu.Store
/-!
# Deletion — what a deletion request removes

`deleteCertificate` looks at the files named `fw_….pem` and `cs_….pem`, and spares the one whose bare name is
`TlsServerCertificateCa`.  That parameter is the path `caCertificateReceived` built, so nothing is spared, and the
certificate in use goes like any other (`protected_iff_spared`).  And no file of ISO 15118 is looked at at all, though
`iso15118DeleteCertificate` is the same function (`iso15118_not_deleted`).
-/
namespace Store

variable {sys : System} {r : Request} {d : Directory} {ca : String} {remove : String → Removal}

/-! ## The loop -/

/-- What becomes of a matched file: the one spared by name is as good as refused. -/
def outcome (ca : String) (remove : String → Removal) (name : String) : Removal :=
  if name = ca then .refused else remove name

theorem deleteLoop_of_hit {name : String} (h : hit sys r d name = true) (scan : List String)
    (ret : DeleteCertificateStatus) : deleteLoop sys r d ca remove (name :: scan) ret =
      match outcome ca remove name with
      | .removed => (name :: (deleteLoop sys r d ca remove scan .accepted).1, (deleteLoop sys r d ca remove scan .accepted).2)
      | .refused => deleteLoop sys r d ca remove scan .failed
      | .threw => ([], none) := by
  rw [deleteLoop, if_pos h]
  unfold outcome
  by_cases hc : name = ca
  · rw [if_pos hc, if_pos hc]
  · cases remove name <;> simp only [if_neg hc]

theorem deleteLoop_of_not_hit {name : String} (h : ¬hit sys r d name = true) (scan : List String)
    (ret : DeleteCertificateStatus) :
    deleteLoop sys r d ca remove (name :: scan) ret = deleteLoop sys r d ca remove scan ret := by
  rw [deleteLoop, if_neg h]

/-- **What is removed was matched, and its removal was reported.** -/
theorem removed_of_mem {scan : List String} {ret : DeleteCertificateStatus} {name : String}
    (h : name ∈ (deleteLoop sys r d ca remove scan ret).1) :
    name ∈ scan ∧ hit sys r d name = true ∧ outcome ca remove name = .removed := by
  induction scan generalizing ret with
  | nil => cases h
  | cons n scan ih =>
    have later : ∀ {ret}, name ∈ (deleteLoop sys r d ca remove scan ret).1 →
        name ∈ n :: scan ∧ hit sys r d name = true ∧ outcome ca remove name = .removed := fun h =>
      ⟨List.mem_cons_of_mem n (ih h).1, (ih h).2⟩
    by_cases hh : hit sys r d n = true
    · rw [deleteLoop_of_hit hh] at h
      cases ho : outcome ca remove n with
      | removed =>
        rw [ho] at h
        rcases List.mem_cons.1 h with rfl | h
        · exact ⟨List.mem_cons_self, hh, ho⟩
        · exact later h
      | refused =>
        rw [ho] at h
        exact later h
      | threw =>
        rw [ho] at h
        cases h
    · rw [deleteLoop_of_not_hit hh] at h
      exact later h

/-- The loop comes to its end: no removal throws. -/
def Ends (sys : System) (r : Request) (d : Directory) (ca : String) (remove : String → Removal) (scan : List String) :
    Prop := ∀ name ∈ scan, hit sys r d name = true → outcome ca remove name ≠ .threw

/-- The answer a matched file gives, unless a later one does. -/
def answerOf (ca : String) (remove : String → Removal) (name : String) : DeleteCertificateStatus :=
  if outcome ca remove name = .refused then .failed else .accepted

/-- **What a loop that comes to its end does**: it removes every matched file whose removal works, and the last matched
file gives the answer. -/
theorem deleteLoop_of_ends {scan : List String} (he : Ends sys r d ca remove scan) (ret : DeleteCertificateStatus) :
    (∀ name ∈ scan, hit sys r d name = true → outcome ca remove name = .removed →
      name ∈ (deleteLoop sys r d ca remove scan ret).1) ∧
    (deleteLoop sys r d ca remove scan ret).2 =
      some (((scan.filter (hit sys r d)).getLast?.map (answerOf ca remove)).getD ret) := by
  induction scan generalizing ret with
  | nil => exact ⟨fun _ h _ _ => (by cases h), rfl⟩
  | cons n scan ih =>
    have ht : Ends sys r d ca remove scan := fun name hm => he name (List.mem_cons_of_mem n hm)
    by_cases hh : hit sys r d n = true
    · have hl : ((n :: scan).filter (hit sys r d)).getLast?.map (answerOf ca remove) =
          some (((scan.filter (hit sys r d)).getLast?.map (answerOf ca remove)).getD (answerOf ca remove n)) := by
        rw [List.filter_cons_of_pos hh, List.getLast?_cons]
        cases (scan.filter (hit sys r d)).getLast? <;> rfl
      rw [hl, Option.getD_some, deleteLoop_of_hit hh]
      unfold answerOf
      cases ho : outcome ca remove n with
      | removed =>
        obtain ⟨h₁, h₂⟩ := ih ht .accepted
        refine ⟨fun name hm hn hr => ?_, h₂⟩
        rcases List.mem_cons.1 hm with rfl | hm
        · exact List.mem_cons_self
        · exact List.mem_cons_of_mem n (h₁ name hm hn hr)
      | refused =>
        obtain ⟨h₁, h₂⟩ := ih ht .failed
        refine ⟨fun name hm hn hr => ?_, h₂⟩
        rcases List.mem_cons.1 hm with rfl | hm
        · rw [ho] at hr
          cases hr
        · exact h₁ name hm hn hr
      | threw => exact absurd ho (he n List.mem_cons_self hh)
    · rw [List.filter_cons_of_neg hh, deleteLoop_of_not_hit hh]
      obtain ⟨h₁, h₂⟩ := ih ht ret
      refine ⟨fun name hm hn hr => ?_, h₂⟩
      rcases List.mem_cons.1 hm with rfl | hm
      · exact absurd hn hh
      · exact h₁ name hm hn hr

theorem ends_of_answer {scan : List String} {ret : DeleteCertificateStatus}
    (h : (deleteLoop sys r d ca remove scan ret).2 ≠ none) : Ends sys r d ca remove scan := by
  induction scan generalizing ret with
  | nil => exact fun _ hm => by cases hm
  | cons n scan ih =>
    intro name hm hn
    by_cases hh : hit sys r d n = true
    · rw [deleteLoop_of_hit hh] at h
      cases ho : outcome ca remove n with
      | removed | refused =>
        rw [ho] at h
        rcases List.mem_cons.1 hm with rfl | hm
        · rw [ho]
          simp
        · exact ih h name hm hn
      | threw =>
        rw [ho] at h
        exact absurd rfl h
    · rw [deleteLoop_of_not_hit hh] at h
      rcases List.mem_cons.1 hm with rfl | hm
      · exact absurd hn hh
      · exact ih h name hm hn

/-- The names whose removal a deletion reports. -/
def removedBy (sys : System) (st : State) (r : Request) (scan : List String) (remove : String → Removal) : List String :=
  (deleteLoop sys r st.directory st.config.tlsServerCertificateCa remove scan .notFound).1

theorem lookup_deleteCertificate (st : State) (scan : List String) (name : String) :
    (deleteCertificate sys st r scan remove).2.directory.lookup name =
      if name ∈ removedBy sys st r scan remove then none else st.directory.lookup name := lookup_eraseAll _ _ _

/-! ## The certificate in use -/

/-- **The file system around the working directory**: which paths name an entry of it, and what the others name, which
no call touches.  The path an installation records names the file it has written. -/
structure FileSystem (sys : System) where
  locate : String → Option String
  elsewhere : String → Option String
  locate_path : ∀ c, locate (path sys (caName sys .centralSystemRootCertificate c)) =
    some (caName sys .centralSystemRootCertificate c)

/-- The text of the file a path names. -/
def FileSystem.read (fs : FileSystem sys) (d : Directory) (p : String) : Option String :=
  match fs.locate p with
  | some name =>
    match d.lookup name with
    | some (.file text) => some text
    | _ => none
  | none => fs.elsewhere p

/-- The text of the certificate in use. -/
def FileSystem.used (fs : FileSystem sys) (st : State) : Option String :=
  if st.config.tlsServerCertificateCa = "" then none else fs.read st.directory st.config.tlsServerCertificateCa

/-- **`TlsServerCertificateCa` is empty or names an existing file.** -/
def FileSystem.InPlace (fs : FileSystem sys) (st : State) : Prop :=
  st.config.tlsServerCertificateCa = "" ∨ (fs.used st).isSome = true

/-- A deletion, under either of its names. -/
def Call.deletion : Call → Option (Request × List String × (String → Removal))
  | .deleteCertificate r scan remove | .iso15118DeleteCertificate r scan remove => some (r, scan, remove)
  | _ => none

/-- **A call protects the certificate in use**: it is in place afterwards, and a deletion that means it answers `Failed`
and leaves its file. -/
def FileSystem.Protected (fs : FileSystem sys) (st : State) (call : Call) : Prop :=
  fs.InPlace (st.step sys call) ∧
    ∀ r scan remove, call.deletion = some (r, scan, remove) → scan.Perm st.directory.keys →
      ∀ text, fs.used st = some text → Certificate.answers sys r ⟨text⟩ = true →
        (deleteCertificate sys st r scan remove).1 = some .failed ∧ fs.used (st.step sys call) = some text

/-- **A deletion does not mean the certificate in use, or fails for it**: no removal throws, the last file it matches is
the one whose bare name is `TlsServerCertificateCa` or is refused its removal, and the file in use is not removed. -/
def FileSystem.Spared (fs : FileSystem sys) (st : State) (call : Call) : Prop :=
  ∀ r scan remove, call.deletion = some (r, scan, remove) → scan.Perm st.directory.keys →
    ∀ text, fs.used st = some text → Certificate.answers sys r ⟨text⟩ = true →
      (∀ name ∈ scan, hit sys r st.directory name = true →
        name = st.config.tlsServerCertificateCa ∨ remove name ≠ .threw) ∧
      (∃ name, (scan.filter (hit sys r st.directory)).getLast? = some name ∧
        (name = st.config.tlsServerCertificateCa ∨ remove name = .refused)) ∧
      ∀ name, fs.locate st.config.tlsServerCertificateCa = some name → hit sys r st.directory name = true →
        name = st.config.tlsServerCertificateCa ∨ remove name ≠ .removed

/-- What holds of every call of a run, in the state it is made in. -/
def AllCalls (sys : System) (P : State → Call → Prop) : State → List Call → Prop
  | _, [] => True
  | st, call :: calls => P st call ∧ AllCalls sys P (st.step sys call) calls

/-! ## Installations -/

variable {fs : FileSystem sys}

/-- Every file of `d` is one of `d'`, whatever is in it. -/
def Grows (d d' : Directory) : Prop :=
  ∀ name text, d.lookup name = some (.file text) → ∃ text', d'.lookup name = some (.file text')

theorem Grows.refl (d : Directory) : Grows d d := fun _ text h => ⟨text, h⟩

theorem grows_insert (d : Directory) (name text : String) : Grows d (d.insert name (.file text)) := by
  intro n t hl
  by_cases hn : n = name
  · subst hn
    exact ⟨text, AList.lookup_insert d⟩
  · exact ⟨t, by rw [AList.lookup_insert_ne hn, hl]⟩

theorem grows_insert_of_not_file {d : Directory} {name : String} (h : ∀ text, d.lookup name ≠ some (.file text)) (node : Node) :
    Grows d (d.insert name node) := by
  intro n t hl
  by_cases hn : n = name
  · subst hn
    exact absurd hl (h t)
  · exact ⟨t, by rw [AList.lookup_insert_ne hn, hl]⟩

theorem toFile_eq_some {st st' : State} {name : String} {c : Certificate} {saved : Bool}
    (h : st.toFile name c saved = some st') : st' = { st with directory := st.directory.insert name (.file c.pem) } := by
  unfold State.toFile at h
  split at h
  · exact (Option.some.inj h).symm
  · cases h

/-- The copy stands where no file was. -/
theorem copyKey_eq_some {st st' : State} {name : String} (h : st.copyKey name = some st') :
    ∃ node, (∀ text, st.directory.lookup name ≠ some (.file text)) ∧
      st' = { st with directory := st.directory.insert name node } := by
  unfold State.copyKey at h
  split at h
  · rename_i k _ hn
    refine ⟨.file k, fun text => ?_, (Option.some.inj h).symm⟩
    rw [hn]
    exact nofun
  · rename_i hn
    refine ⟨.directory true, fun text => ?_, (Option.some.inj h).symm⟩
    rw [hn]
    exact nofun
  · cases h

theorem read_grows {d d' : Directory} (h : Grows d d') {p : String} (hp : (fs.read d p).isSome = true) :
    (fs.read d' p).isSome = true := by
  unfold FileSystem.read at hp ⊢
  cases hl : fs.locate p with
  | none =>
    rw [hl] at hp
    exact hp
  | some name =>
    rw [hl] at hp
    dsimp only at hp ⊢
    split at hp
    · rename_i text ht
      obtain ⟨text', ht'⟩ := h name text ht
      rw [ht']
      rfl
    · cases hp

theorem FileSystem.InPlace.grows {st st' : State} (h : fs.InPlace st)
    (hc : st'.config.tlsServerCertificateCa = st.config.tlsServerCertificateCa) (hg : Grows st.directory st'.directory) :
    fs.InPlace st' := by
  unfold FileSystem.InPlace FileSystem.used at h ⊢
  rw [hc]
  by_cases h₀ : st.config.tlsServerCertificateCa = ""
  · exact .inl h₀
  · rw [if_neg h₀] at h ⊢
    rcases h with h | h
    · exact .inl h
    · exact .inr (read_grows hg h)

theorem FileSystem.InPlace.toFile {st st' : State} {name : String} {c : Certificate} {saved : Bool} (h : fs.InPlace st)
    (hf : st.toFile name c saved = some st') : fs.InPlace st' := by
  have hs := toFile_eq_some hf
  subst hs
  exact h.grows rfl (grows_insert _ _ _)

theorem FileSystem.InPlace.caCertificateReceived {st : State} (h : fs.InPlace st) (use : CertificateUse) (c : Certificate)
    (saved : Bool) : fs.InPlace (Store.caCertificateReceived sys st use c saved).2 := by
  unfold Store.caCertificateReceived
  split
  · split
    · exact h
    · rename_i st' hf
      have hs := toFile_eq_some hf
      subst hs
      cases use with
      | manufacturerRootCertificate => exact h.grows rfl (grows_insert _ _ _)
      | centralSystemRootCertificate =>
        -- the path recorded is that of the file just written
        unfold FileSystem.InPlace FileSystem.used
        by_cases h₀ : path sys (caName sys .centralSystemRootCertificate c) = ""
        · exact .inl h₀
        · refine .inr ?_
          dsimp only
          rw [if_neg h₀, FileSystem.read, fs.locate_path]
          simp
  · exact h

theorem FileSystem.InPlace.iso15118CertificateReceived {st : State} (h : fs.InPlace st) (use : InstallCertificateUse)
    (c : Certificate) (saved : Bool) : fs.InPlace (Store.iso15118CertificateReceived sys st use c saved).2 := by
  unfold Store.iso15118CertificateReceived
  split
  · split
    · exact h
    · rename_i st' hf
      exact h.toFile hf
  · exact h

theorem grows_copyKey {st st' : State} {name : String} (h : st.copyKey name = some st') :
    st'.config = st.config ∧ Grows st.directory st'.directory := by
  obtain ⟨node, hn, rfl⟩ := copyKey_eq_some h
  exact ⟨rfl, grows_insert_of_not_file hn node⟩

theorem FileSystem.InPlace.copyKey {st st' : State} {name : String} (h : fs.InPlace st) (hk : st.copyKey name = some st') :
    fs.InPlace st' := by
  obtain ⟨hc, hg⟩ := grows_copyKey hk
  exact h.grows (by rw [hc]) hg

theorem FileSystem.InPlace.chargePointCertificateReceived {st : State} (h : fs.InPlace st) (c : Certificate) (saved : Bool) :
    fs.InPlace (Store.chargePointCertificateReceived sys st c saved).2 := by
  unfold Store.chargePointCertificateReceived
  split
  · exact h
  · rename_i st₁ hf
    split
    · exact h.toFile hf
    · rename_i st₂ hk
      exact ((h.toFile hf).copyKey hk).grows rfl (Grows.refl _)

theorem FileSystem.InPlace.iso15118ChargePointCertificateReceived {st : State} (h : fs.InPlace st) (c : Certificate)
    (saved : Bool) : fs.InPlace (Store.iso15118ChargePointCertificateReceived sys st c saved).2 := by
  unfold Store.iso15118ChargePointCertificateReceived
  split
  · exact h
  · rename_i st₁ hf
    split
    · exact h.toFile hf
    · rename_i st₂ hk
      exact (h.toFile hf).copyKey hk

/-! ## Deletions -/

theorem outcome_eq_refused {name : String} : outcome ca remove name = .refused ↔ name = ca ∨ remove name = .refused := by
  unfold outcome
  by_cases h : name = ca <;> simp [h]

theorem answerOf_eq_failed {name : String} : answerOf ca remove name = .failed ↔ name = ca ∨ remove name = .refused := by
  rw [← outcome_eq_refused]
  unfold answerOf
  by_cases h : outcome ca remove name = .refused <;> simp [h]

theorem outcome_ne {name : String} {x : Removal} (hx : x ≠ .refused) :
    outcome ca remove name ≠ x ↔ name = ca ∨ remove name ≠ x := by
  unfold outcome
  by_cases h : name = ca
  · simp [h, hx.symm]
  · simp [h]

theorem lookup_of_hit {name : String} (h : hit sys r d name = true) :
    ∃ text, d.lookup name = some (.file text) ∧ Certificate.answers sys r ⟨text⟩ = true := by
  unfold hit at h
  rw [Bool.and_eq_true] at h
  obtain ⟨-, h⟩ := h
  split at h
  · rename_i text ht
    exact ⟨text, ht, h⟩
  · cases h

theorem mem_scan_of_hit {scan : List String} (hs : scan.Perm d.keys) {name : String} (h : hit sys r d name = true) :
    name ∈ scan := by
  obtain ⟨text, ht, -⟩ := lookup_of_hit h
  have hm : name ∈ d := AList.lookup_isSome.1 (by rw [ht]; rfl)
  exact hs.mem_iff.2 (AList.mem_keys.1 hm)

theorem used_deleteCertificate {st : State} {scan : List String} (h : ∀ name,
    fs.locate st.config.tlsServerCertificateCa = some name → name ∉ removedBy sys st r scan remove) :
    fs.used (deleteCertificate sys st r scan remove).2 = fs.used st := by
  have hr : fs.read (deleteCertificate sys st r scan remove).2.directory st.config.tlsServerCertificateCa =
      fs.read st.directory st.config.tlsServerCertificateCa := by
    unfold FileSystem.read
    cases hl : fs.locate st.config.tlsServerCertificateCa with
    | none => rfl
    | some name =>
      dsimp only
      rw [lookup_deleteCertificate, if_neg (h name hl)]
  have hc : (deleteCertificate sys st r scan remove).2.config = st.config := rfl
  unfold FileSystem.used
  rw [hc, hr]

theorem removed_of_used {st : State} {scan : List String} {text : String}
    (hu : fs.used (deleteCertificate sys st r scan remove).2 = some text) {name : String}
    (hl : fs.locate st.config.tlsServerCertificateCa = some name) : name ∉ removedBy sys st r scan remove := by
  intro hm
  have hn : fs.read (deleteCertificate sys st r scan remove).2.directory st.config.tlsServerCertificateCa = none := by
    unfold FileSystem.read
    rw [hl]
    dsimp only
    rw [lookup_deleteCertificate, if_pos hm]
  have hc : (deleteCertificate sys st r scan remove).2.config = st.config := rfl
  unfold FileSystem.used at hu
  rw [hc, hn] at hu
  split at hu <;> cases hu

/-- A deletion that does not mean the certificate in use leaves its file. -/
theorem used_of_not_answers {st : State} {scan : List String} {text : String} (hu : fs.used st = some text)
    (ha : ¬Certificate.answers sys r ⟨text⟩ = true) :
    fs.used (deleteCertificate sys st r scan remove).2 = some text := by
  rw [used_deleteCertificate, hu]
  intro name hl hm
  obtain ⟨-, hh, -⟩ := removed_of_mem hm
  obtain ⟨t, ht, hat⟩ := lookup_of_hit hh
  have hr : fs.read st.directory st.config.tlsServerCertificateCa = some t := by
    unfold FileSystem.read
    rw [hl]
    dsimp only
    rw [ht]
  unfold FileSystem.used at hu
  rw [hr] at hu
  split at hu
  · cases hu
  · rw [Option.some.inj hu] at hat
    exact ha hat

/-- **A deletion fails for the certificate in use exactly where it is spared.** -/
theorem failed_iff {st : State} {scan : List String} (hs : scan.Perm st.directory.keys) {text : String}
    (hu : fs.used st = some text) :
    ((deleteCertificate sys st r scan remove).1 = some .failed ∧
      fs.used (deleteCertificate sys st r scan remove).2 = some text) ↔
    (∀ name ∈ scan, hit sys r st.directory name = true →
      name = st.config.tlsServerCertificateCa ∨ remove name ≠ .threw) ∧
    (∃ name, (scan.filter (hit sys r st.directory)).getLast? = some name ∧
      (name = st.config.tlsServerCertificateCa ∨ remove name = .refused)) ∧
    ∀ name, fs.locate st.config.tlsServerCertificateCa = some name → hit sys r st.directory name = true →
      name = st.config.tlsServerCertificateCa ∨ remove name ≠ .removed := by
  have hends : Ends sys r st.directory st.config.tlsServerCertificateCa remove scan ↔
      ∀ name ∈ scan, hit sys r st.directory name = true → name = st.config.tlsServerCertificateCa ∨ remove name ≠ .threw :=
    forall₃_congr (fun name _ _ => outcome_ne (by simp))
  have hanswer : Ends sys r st.directory st.config.tlsServerCertificateCa remove scan →
      ((deleteCertificate sys st r scan remove).1 = some .failed ↔
        ∃ name, (scan.filter (hit sys r st.directory)).getLast? = some name ∧
          (name = st.config.tlsServerCertificateCa ∨ remove name = .refused)) := by
    intro he
    have ha : (deleteCertificate sys st r scan remove).1 = _ := (deleteLoop_of_ends he .notFound).2
    rw [ha]
    cases (scan.filter (hit sys r st.directory)).getLast? with
    | none => simp
    | some name =>
      simp only [Option.map_some, Option.getD_some, Option.some.injEq, exists_eq_left']
      exact answerOf_eq_failed
  constructor
  · rintro ⟨hf, hu'⟩
    have he : Ends sys r st.directory st.config.tlsServerCertificateCa remove scan :=
      @ends_of_answer _ _ _ _ _ _ .notFound (by rw [show (deleteLoop _ _ _ _ _ _ _).2 = _ from hf]; simp)
    refine ⟨hends.1 he, (hanswer he).1 hf, fun name hl hh => ?_⟩
    refine (outcome_ne (by simp)).1 (fun ho => ?_)
    exact removed_of_used hu' hl ((deleteLoop_of_ends he .notFound).1 name (mem_scan_of_hit hs hh) hh ho)
  · rintro ⟨he, hl, hk⟩
    refine ⟨(hanswer (hends.2 he)).2 hl, ?_⟩
    rw [used_deleteCertificate, hu]
    intro name hn hm
    obtain ⟨-, hh, ho⟩ := removed_of_mem hm
    exact absurd ho ((outcome_ne (by simp)).2 (hk name hn hh))

/-- **A call protects the certificate in use exactly where it spares it.** -/
theorem protected_iff {st : State} (h : fs.InPlace st) (call : Call) : fs.Protected st call ↔ fs.Spared st call := by
  have installed : call.deletion = none → fs.InPlace (st.step sys call) → (fs.Protected st call ↔ fs.Spared st call) := by
    intro hd hi
    refine ⟨fun _ r scan remove hc => ?_, fun _ => ⟨hi, fun r scan remove hc => ?_⟩⟩ <;>
    · rw [hd] at hc
      cases hc
  have deleted : ∀ r scan remove, call.deletion = some (r, scan, remove) →
      st.step sys call = (if scan.Perm st.directory.keys then (deleteCertificate sys st r scan remove).2 else st) →
      (fs.Protected st call ↔ fs.Spared st call) := by
    intro r scan remove hd hstep
    constructor
    · rintro ⟨-, hp⟩ r' scan' remove' hd' hs text hu ha
      obtain ⟨rfl, rfl, rfl⟩ : r = r' ∧ scan = scan' ∧ remove = remove' := by simpa [hd] using hd'
      have hf := hp r scan remove hd hs text hu ha
      rw [hstep, if_pos hs] at hf
      exact (failed_iff hs hu).1 hf
    · intro hsp
      by_cases hs : scan.Perm st.directory.keys
      · unfold FileSystem.Protected
        rw [hstep, if_pos hs]
        refine ⟨?_, fun r' scan' remove' hd' _ text hu ha => ?_⟩
        · rcases h with h | h
          · exact .inl h
          · obtain ⟨text, hu⟩ := Option.isSome_iff_exists.1 h
            refine .inr ?_
            by_cases ha : Certificate.answers sys r ⟨text⟩ = true
            · rw [((failed_iff hs hu).2 (hsp r scan remove hd hs text hu ha)).2]
              rfl
            · rw [used_of_not_answers hu ha]
              rfl
        · obtain ⟨rfl, rfl, rfl⟩ : r = r' ∧ scan = scan' ∧ remove = remove' := by simpa [hd] using hd'
          exact (failed_iff hs hu).2 (hsp r scan remove hd hs text hu ha)
      · unfold FileSystem.Protected
        rw [hstep, if_neg hs]
        refine ⟨h, fun r' scan' remove' hd' hs' => ?_⟩
        obtain ⟨rfl, rfl, rfl⟩ : r = r' ∧ scan = scan' ∧ remove = remove' := by simpa [hd] using hd'
        exact absurd hs' hs
  cases call with
  | caCertificateReceived use c saved => exact installed rfl (h.caCertificateReceived use c saved)
  | iso15118CertificateReceived use c saved => exact installed rfl (h.iso15118CertificateReceived use c saved)
  | chargePointCertificateReceived c saved => exact installed rfl (h.chargePointCertificateReceived c saved)
  | iso15118ChargePointCertificateReceived c saved =>
    exact installed rfl (h.iso15118ChargePointCertificateReceived c saved)
  | deleteCertificate r scan remove => exact deleted r scan remove rfl rfl
  | iso15118DeleteCertificate r scan remove => exact deleted r scan remove rfl rfl

/-- **The certificate in use is protected in a run exactly where every deletion spares it**, whatever else is installed
and deleted; and then `TlsServerCertificateCa` is empty or names a file to the end. -/
theorem protected_iff_spared (fs : FileSystem sys) (calls : List Call) (st : State) (h : fs.InPlace st) :
    (AllCalls sys fs.Protected st calls ↔ AllCalls sys fs.Spared st calls) ∧
      (AllCalls sys fs.Spared st calls → fs.InPlace (st.run sys calls)) := by
  induction calls generalizing st with
  | nil => exact ⟨Iff.rfl, fun _ => h⟩
  | cons call calls ih =>
    have hc := protected_iff h call
    constructor
    · constructor
      · rintro ⟨hp, hps⟩
        exact ⟨hc.1 hp, (ih _ hp.1).1.1 hps⟩
      · rintro ⟨hs, hss⟩
        have hp := hc.2 hs
        exact ⟨hp, (ih _ hp.1).1.2 hss⟩
    · rintro ⟨hs, hss⟩
      exact (ih _ (hc.2 hs).1).2 hss

def FileSystem.sample : FileSystem .sample where
  locate p := if "wd/".toList.isPrefixOf p.toList then some (String.ofList (p.toList.drop 3)) else none
  elsewhere _ := none
  locate_path c := by
    have hp : (path .sample (caName .sample .centralSystemRootCertificate c)).toList =
        "wd/".toList ++ (caName .sample .centralSystemRootCertificate c).toList := by
      simp [path, Paths.join, Paths.isAbsolute, caName, System.sample]
    rw [hp]
    simp

/-- **The certificate in use is deleted, and the answer is `Accepted`**: `TlsServerCertificateCa` is its path, the scan
compares bare names. -/
theorem certificate_in_use_deleted :
    let st := State.empty.run .sample [.caCertificateReceived .centralSystemRootCertificate ⟨"A"⟩ true]
    let x := deleteCertificate .sample st (.sample "A") ["cs_A.pem"] (fun _ => .removed)
    FileSystem.sample.used st = some "A" ∧ Certificate.answers .sample (.sample "A") ⟨"A"⟩ = true ∧
      x.1 = some .accepted ∧ ¬FileSystem.sample.InPlace x.2 ∧ hasCentralSystemCaCertificateInstalled x.2 = false := by
  refine ⟨by decide +kernel, by decide +kernel, by decide +kernel, ?_, by decide +kernel⟩
  rintro (h | h)
  · exact absurd h (by decide +kernel)
  · exact absurd h (by decide +kernel)

/-- A manufacturer root is installed and deleted beside the certificate in use. -/
theorem protected_iff_spared_run :
    FileSystem.sample.InPlace (State.empty.run .sample
      [.caCertificateReceived .centralSystemRootCertificate ⟨"A"⟩ true,
       .caCertificateReceived .manufacturerRootCertificate ⟨"B"⟩ true,
       .deleteCertificate (.sample "B") ["fw_B.pem", "cs_A.pem"] (fun _ => .removed)]) := by
  refine (protected_iff_spared FileSystem.sample _ State.empty (.inl rfl)).2 ⟨?_, ?_, ?_, trivial⟩
  · intro r scan remove hd
    cases hd
  · intro r scan remove hd
    cases hd
  · intro r scan remove hd hs text hu ha
    obtain ⟨rfl, rfl, rfl⟩ : Request.sample "B" = r ∧ ["fw_B.pem", "cs_A.pem"] = scan ∧ (fun _ => .removed) = remove := by
      simpa [Call.deletion] using hd
    have hA : text = "A" := by
      refine Option.some.inj (hu.symm.trans ?_)
      decide +kernel
    subst hA
    exact absurd ha (by decide +kernel)

/-! ## ISO 15118 -/

/-- The request that names a certificate by what it is. -/
def requestFor (sys : System) (a : HashAlgorithm) (c : Certificate) : Request :=
  ⟨a, sys.sha a (sys.issuerString c), sys.sha a (sys.publicKey c), sys.serialNumberHexString c⟩

/-- `iso15118GetInstalledCertificates`, asked for both roots, lists a certificate. -/
def Reported (chain : Bool) (c : Certificate) (st : State) : Prop :=
  ∃ use, (use, c) ∈ iso15118GetInstalledCertificates true true chain st

/-- **Listing and deletion agree on a certificate**: the deletion that names it answers `Accepted`, it is no longer
listed, and every `fw_` and `cs_` certificate is still there. -/
def IsoAgrees (sys : System) (chain : Bool) (a : HashAlgorithm) (c : Certificate) (scan : List String) (st : State) :
    Prop :=
  let x := iso15118DeleteCertificate sys st (requestFor sys a c) scan (fun _ => .removed)
  x.1 = some .accepted ∧ ¬Reported chain c x.2 ∧
    ∀ name, (isPem "fw_" name || isPem "cs_" name) = true → x.2.directory.lookup name = st.directory.lookup name

/-- The names listed: all begin with `iso_`. -/
def isIso (chain : Bool) (name : String) : Bool :=
  isPem "iso_v2g_root_" name || isPem "iso_mo_root_" name || (chain && isPem "iso_v2g_chain_" name)

theorem reported_iff {chain : Bool} {c : Certificate} {st : State} :
    Reported chain c st ↔ ∃ name, isIso chain name = true ∧ st.directory.lookup name = some (.file c.pem) := by
  unfold Reported iso15118GetInstalledCertificates isIso
  constructor
  · rintro ⟨use, hm⟩
    obtain ⟨⟨name, x⟩, hf, hm⟩ := List.mem_flatMap.1 hm
    have hx : c = x ∧ (isPem "iso_v2g_root_" name || isPem "iso_mo_root_" name || (chain && isPem "iso_v2g_chain_" name)) =
        true := by
      simp only [List.mem_append, List.mem_ite_nil_right, List.mem_singleton, Prod.mk.injEq, Bool.true_and] at hm
      rcases hm with (⟨hp, -, hc⟩ | ⟨hp, -, hc⟩) | ⟨hp, -, hc⟩
      · exact ⟨hc, by rw [hp, Bool.true_or, Bool.true_or]⟩
      · exact ⟨hc, by rw [hp, Bool.or_true, Bool.true_or]⟩
      · exact ⟨hc, by rw [hp, Bool.or_true]⟩
    obtain ⟨rfl, hp⟩ := hx
    exact ⟨name, hp, mem_filesOf.1 hf⟩
  · rintro ⟨name, hp, hl⟩
    have hf : (name, c) ∈ filesOf st.directory := mem_filesOf.2 hl
    rw [Bool.or_eq_true, Bool.or_eq_true] at hp
    rcases hp with (hp | hp) | hp
    · exact ⟨.v2gRootCertificate, List.mem_flatMap.2 ⟨_, hf, by simp [hp]⟩⟩
    · exact ⟨.moRootCertificate, List.mem_flatMap.2 ⟨_, hf, by simp [hp]⟩⟩
    · exact ⟨.v2gCertificateChain, List.mem_flatMap.2 ⟨_, hf, by simp [hp]⟩⟩

theorem isPem_disjoint {p q name : String} (h : (p.toList.isPrefixOf q.toList || q.toList.isPrefixOf p.toList) = false)
    (hp : isPem p name = true) : startsWith name q = false := by
  unfold isPem at hp
  rw [Bool.and_eq_true] at hp
  exact startsWith_disjoint h hp.1

/-- **No deletion looks at a file of ISO 15118.** -/
theorem not_hit_of_isIso {chain : Bool} {name : String} (h : isIso chain name = true) : hit sys r d name = false := by
  have hs : startsWith name "fw_" = false ∧ startsWith name "cs_" = false := by
    unfold isIso at h
    rw [Bool.or_eq_true, Bool.or_eq_true, Bool.and_eq_true] at h
    rcases h with (h | h) | ⟨-, h⟩ <;>
    exact ⟨isPem_disjoint (by decide +kernel) h, isPem_disjoint (by decide +kernel) h⟩
  unfold hit
  rw [hs.1, hs.2]
  rfl

/-- Where every removal works, the files removed are those matched, but for the one spared by name. -/
theorem mem_removedBy_iff {st : State} {scan : List String} (hs : scan.Perm st.directory.keys) {name : String} :
    name ∈ removedBy sys st r scan (fun _ => .removed) ↔
      hit sys r st.directory name = true ∧ name ≠ st.config.tlsServerCertificateCa := by
  have hr : outcome st.config.tlsServerCertificateCa (fun _ => Removal.removed) name = .removed ↔
      name ≠ st.config.tlsServerCertificateCa := by
    unfold outcome
    by_cases h : name = st.config.tlsServerCertificateCa <;> simp [h]
  constructor
  · intro hm
    obtain ⟨-, hh, ho⟩ := removed_of_mem hm
    exact ⟨hh, hr.1 ho⟩
  · rintro ⟨hh, hn⟩
    have he : Ends sys r st.directory st.config.tlsServerCertificateCa (fun _ => .removed) scan := by
      intro n _ _
      unfold outcome
      split <;> simp
    exact (deleteLoop_of_ends he .notFound).1 name (mem_scan_of_hit hs hh) hh (hr.2 hn)

/-- **A certificate of ISO 15118 that is listed stays so whatever is deleted**: `iso15118DeleteCertificate` looks at the
`fw_` and `cs_` files alone, and removes those the request means. -/
theorem iso15118_not_deleted (chain : Bool) (a : HashAlgorithm) (c : Certificate) (scan : List String) (st : State)
    (hs : scan.Perm st.directory.keys) (h : Reported chain c st) :
    let x := iso15118DeleteCertificate sys st (requestFor sys a c) scan (fun _ => .removed)
    ¬IsoAgrees sys chain a c scan st ∧ Reported chain c x.2 ∧
      ∀ name text, (isPem "fw_" name || isPem "cs_" name) = true → st.directory.lookup name = some (.file text) →
        (x.2.directory.lookup name = none ↔
          Certificate.answers sys (requestFor sys a c) ⟨text⟩ = true ∧ name ≠ st.config.tlsServerCertificateCa) := by
  intro x
  have hx : ∀ name, x.2.directory.lookup name =
      if name ∈ removedBy sys st (requestFor sys a c) scan (fun _ => .removed) then none else st.directory.lookup name :=
    lookup_deleteCertificate st scan
  have hr : Reported chain c x.2 := by
    obtain ⟨name, hi, hl⟩ := reported_iff.1 h
    refine reported_iff.2 ⟨name, hi, ?_⟩
    rw [hx, if_neg, hl]
    rw [mem_removedBy_iff hs, not_hit_of_isIso hi]
    simp
  refine ⟨fun hg => hg.2.1 hr, hr, fun name text hp hl => ?_⟩
  have hh : hit sys (requestFor sys a c) st.directory name = Certificate.answers sys (requestFor sys a c) ⟨text⟩ := by
    unfold isPem at hp
    rw [← Bool.and_or_distrib_right] at hp
    unfold hit
    rw [hp, hl, Bool.true_and]
  rw [hx, ← hh, ← mem_removedBy_iff hs, hl]
  simp

/-- A root of ISO 15118, alone and beside a manufacturer root with the same text. -/
theorem iso15118_not_deleted_run :
    let st := State.empty.run .sample [.iso15118CertificateReceived .v2gRootCertificate ⟨"A"⟩ true]
    ¬IsoAgrees .sample false .sha256 ⟨"A"⟩ ["iso_v2g_root_A.pem"] st :=
  (iso15118_not_deleted false .sha256 ⟨"A"⟩ ["iso_v2g_root_A.pem"]
    (State.empty.run .sample [.iso15118CertificateReceived .v2gRootCertificate ⟨"A"⟩ true])
    (by decide +kernel) ⟨.v2gRootCertificate, by decide +kernel⟩).1

/-- **An accepted root is still listed after the deletion that names it**: the answer is `NotFound`, or `Accepted` for the
manufacturer root of the same text, which is gone. -/
theorem iso15118_root_not_deleted :
    let alone := State.empty.run .sample [.iso15118CertificateReceived .v2gRootCertificate ⟨"A"⟩ true]
    let both := alone.run .sample [.caCertificateReceived .manufacturerRootCertificate ⟨"A"⟩ true]
    let x := iso15118DeleteCertificate .sample alone (requestFor .sample .sha256 ⟨"A"⟩) ["iso_v2g_root_A.pem"]
      (fun _ => .removed)
    let y := iso15118DeleteCertificate .sample both (requestFor .sample .sha256 ⟨"A"⟩) ["iso_v2g_root_A.pem", "fw_A.pem"]
      (fun _ => .removed)
    alone.log = [.iso15118CertificateReceived .v2gRootCertificate ⟨"A"⟩ .accepted] ∧
      x.1 = some .notFound ∧ iso15118GetInstalledCertificates true true false x.2 = [(.v2gRootCertificate, ⟨"A"⟩)] ∧
      y.1 = some .accepted ∧ iso15118GetInstalledCertificates true true false y.2 = [(.v2gRootCertificate, ⟨"A"⟩)] ∧
      both.directory.lookup "fw_A.pem" = some (.file "A") ∧ y.2.directory.lookup "fw_A.pem" = none := by
  decide +kernel

end Store
