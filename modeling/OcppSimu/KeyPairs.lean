import OcppSimu.Certificates
/-!
# KeyPairs — the key saved beside a certificate is the one it certifies

A certificate handler copies whatever key the temporary file holds.  That is the key of the certificate if the call
that wrote it last is the one whose request the certificate answers (`Entry.undisturbed`).
-/
namespace Certificates

open Hist

/-! ## What the log says of a key -/

def Entry.writes : Entry → Option Nat
  | .keyWritten n true => some n
  | _ => none

def writer (h : List Entry) : Option Nat := last Entry.writes h

def Entry.issues (cp : Nat) (kind : Kind) : Entry → Option Nat
  | .csrIssued n d k => if d = cp ∧ k = kind then some n else none
  | _ => none

/-- The call that issued the latest request of a kind of a charge point. -/
def issuer (cp : Nat) (kind : Kind) (h : List Entry) : Option Nat := last (Entry.issues cp kind) h

/-- The call that issued the request which the certificate delivered to call `n` answers. -/
def answered (n : Nat) : List Entry → Option Nat
  | [] => none
  | .received m cp kind _ :: h => if m = n then issuer cp kind h else answered n h
  | _ :: h => answered n h

/-- **What is assumed of the Central System**: a certificate certifies the key of the latest request of its kind. -/
def Entry.answers (sys : System) : Entry → List Entry → Bool
  | .received _ cp kind c, h => decide ((issuer cp kind h).map sys.keys = some c.key)
  | _, _ => true

def Answered (sys : System) (h : List Entry) : Prop := Always (fun e h => e.answers sys h = true) h

instance (sys : System) (h : List Entry) : Decidable (Answered sys h) := Hist.decidableAlways _ h

/-- **No other key was written**: the temporary file was last written by the call whose request the certificate
answers. -/
def Entry.undisturbed : Entry → List Entry → Bool
  | .installed n _ _, h => decide (writer h = answered n h)
  | _, _ => true

def Undisturbed (h : List Entry) : Prop := Always (fun e h => e.undisturbed h = true) h

instance (h : List Entry) : Decidable (Undisturbed h) := Hist.decidableAlways _ h

def Entry.matched : Entry → Bool
  | .installed _ c saved => decide (saved = some (.key c.key))
  | _ => true

def Matched (h : List Entry) : Prop := Always (fun e _ => e.matched = true) h

instance (h : List Entry) : Decidable (Matched h) := Hist.decidableAlways _ h

/-! ## The invariant -/

variable {sys : System}

structure Kept (sys : System) (h : Host) : Prop where
  key : ∀ n, writer h.log = some n → h.temporaryKey = some (sys.keys n)
  fresh : ∀ n, h.calls n ≠ none → n < h.next
  installing : ∀ n cp kind c, h.calls n = some (.installing cp kind c) → Answered sys h.log →
    (answered n h.log).map sys.keys = some c.key
  matched : Answered sys h.log → Undisturbed h.log → Matched h.log

theorem Kept.initial (k : Option Nat) (cps : Nat → ChargePoint) : Kept sys (Host.initial k cps) where
  key n hn := by cases hn
  fresh n hn := absurd rfl hn
  installing n cp kind c hn := by cases hn
  matched _ _ := .nil

theorem Kept.of_eq {h h' : Host} (hk : h'.temporaryKey = h.temporaryKey) (hl : h'.log = h.log) (hn : h'.next = h.next)
    (hc : ∀ n, h'.calls n = none ∨ h'.calls n = h.calls n) (hi : Kept sys h) : Kept sys h' where
  key n hw := by
    rw [hl] at hw
    rw [hk]
    exact hi.key n hw
  fresh n hf := by
    rw [hn]
    rcases hc n with h₀ | h₀
    · exact absurd h₀ hf
    · exact hi.fresh n (h₀ ▸ hf)
  installing n cp kind c hs := by
    rw [hl]
    rcases hc n with h₀ | h₀
    · cases h₀.symm.trans hs
    · exact hi.installing n cp kind c (h₀.symm.trans hs)
  matched := by
    rw [hl]
    exact hi.matched

theorem Kept.leave {h : Host} (n : Nat) (hi : Kept sys h) : Kept sys (h.leave n) := by
  refine Kept.of_eq (h := h) rfl rfl rfl (fun m => ?_) hi
  by_cases hm : m = n
  · subst hm
    exact .inl (Function.update_self _ _ _)
  · exact .inr (Function.update_of_ne hm _ _)

theorem Kept.save {h : Host} (cp : Nat) (name : String) (f : File) (hi : Kept sys h) : Kept sys (h.save cp name f) :=
  Kept.of_eq (h := h) rfl rfl rfl (fun _ => .inr rfl) hi

theorem Kept.useCertificate {h : Host} (cp : Nat) (x y : String) (hi : Kept sys h) : Kept sys (h.useCertificate cp x y) :=
  Kept.of_eq (h := h) rfl rfl rfl (fun _ => .inr rfl) hi

def Entry.silent : Entry → Bool
  | .keyWritten _ _ | .received _ _ _ _ => false
  | _ => true

theorem writer_cons {e : Entry} {h : List Entry} (he : e.silent = true) : writer (e :: h) = writer h := by
  cases e <;> first | rfl | cases he

theorem answered_cons {e : Entry} {h : List Entry} (n : Nat) (he : e.silent = true) :
    answered n (e :: h) = answered n h := by
  cases e <;> first | rfl | cases he

theorem Kept.note {h : Host} {e : Entry} (he : e.silent = true)
    (hm : Answered sys h.log → e.undisturbed h.log = true → e.matched = true) (hi : Kept sys h) : Kept sys (h.note e) where
  key n hw := hi.key n ((writer_cons he).symm.trans hw)
  fresh := hi.fresh
  installing n cp kind c hs ha := by
    rw [Host.log_note, answered_cons n he]
    exact hi.installing n cp kind c hs ha.tail
  matched ha hu := .cons (hm ha.tail hu.head) (hi.matched ha.tail hu.tail)

/-! ## The steps -/

theorem Kept.fresh_enter {h : Host} (hi : Kept sys h) {call : Call} {n : Nat}
    (hf : Function.update h.calls h.next (some call) n ≠ none) : n < h.next + 1 := by
  by_cases hn : n = h.next
  · omega
  · rw [Function.update_of_ne hn] at hf
    have hlt := hi.fresh n hf
    omega

theorem Kept.generateCsr {h : Host} (cp : Nat) (kind : Kind) (written : Bool) (hi : Kept sys h) :
    Kept sys (h.generateCsr sys cp kind written) where
  key n hw := by
    cases written with
    | true =>
      have hn : h.next = n := Option.some.inj hw
      rw [← hn]
      rfl
    | false => exact hi.key n hw
  fresh n hf := hi.fresh_enter hf
  installing n cp' kind' c hs ha := by
    have hu : Function.update h.calls h.next (some (.generating cp kind)) n = some (.installing cp' kind' c) := hs
    by_cases hn : n = h.next
    · rw [hn, Function.update_self] at hu
      cases hu
    · rw [Function.update_of_ne hn] at hu
      exact hi.installing n cp' kind' c hu ha.tail
  matched ha hu := .cons rfl (hi.matched ha.tail hu.tail)

/-- **A delivered certificate answers the request its key was generated for.** -/
theorem Kept.received {h : Host} (cp : Nat) (kind : Kind) (c : Certificate) (hi : Kept sys h) :
    Kept sys ((h.enter (.installing cp kind c)).note (.received h.next cp kind c)) where
  key n hw := hi.key n hw
  fresh n hf := hi.fresh_enter hf
  installing n cp' kind' c' hs ha := by
    have hu : Function.update h.calls h.next (some (.installing cp kind c)) n = some (.installing cp' kind' c') := hs
    show (if h.next = n then issuer cp kind h.log else answered n h.log).map sys.keys = some c'.key
    by_cases hn : n = h.next
    · subst hn
      rw [Function.update_self] at hu
      cases hu
      rw [if_pos rfl]
      exact of_decide_eq_true ha.head
    · rw [Function.update_of_ne hn] at hu
      rw [if_neg (Ne.symm hn)]
      exact hi.installing n cp' kind' c' hu ha.tail
  matched ha hu := .cons rfl (hi.matched ha.tail hu.tail)

theorem Kept.certificateReceived {h : Host} (cp : Nat) (kind : Kind) (c : Certificate) (saved : Bool) (hi : Kept sys h) :
    Kept sys (h.certificateReceived sys cp kind c saved) := by
  have hr := hi.received cp kind c
  unfold Host.certificateReceived
  cases saved with
  | true => exact hr.save cp (kind.filename sys c) (.certificate c)
  | false => exact (hr.leave h.next).note rfl (fun _ _ => rfl)

/-- **The key that is copied is the key of the certificate**, where the last call that wrote it issued the request. -/
theorem Kept.copyKey {h : Host} {n cp : Nat} {kind : Kind} {c : Certificate} (hc : h.calls n = some (.installing cp kind c))
    (hi : Kept sys h) : Kept sys (h.copyKey sys n cp kind c) := by
  unfold Host.copyKey
  cases hk : h.temporaryKey with
  | none => exact (hi.leave n).note rfl (fun _ _ => rfl)
  | some k =>
    dsimp only
    cases (h.chargePoints cp).directory (kind.filename sys c ++ ".key") with
    | some f => exact (hi.leave n).note rfl (fun _ _ => rfl)
    | none =>
      dsimp only
      have hkey : Answered sys h.log → decide (writer h.log = answered n h.log) = true → k = c.key := by
        intro ha hu
        have hw := of_decide_eq_true hu
        have hcert := hi.installing n cp kind c hc ha
        -- the writer and the issuer are one call, which generates one key
        cases hn : answered n h.log with
        | none =>
          rw [hn] at hcert
          cases hcert
        | some m =>
          rw [hn] at hcert
          have hm := hi.key m (hw.trans hn)
          rw [hk] at hm
          exact (Option.some.inj hm).trans (Option.some.inj hcert)
      have hs := hi.save cp (kind.filename sys c ++ ".key") (.key k)
      cases kind with
      | chargePoint =>
        refine ((hs.useCertificate cp _ _).leave n).note rfl (fun ha hu => decide_eq_true ?_)
        rw [← hkey ha hu]
        simp [Host.save, Host.useCertificate]
      | iso15118 =>
        refine (hs.leave n).note rfl (fun ha hu => decide_eq_true ?_)
        rw [← hkey ha hu]
        simp [Host.save]

theorem Kept.step {h : Host} (e : Event) (hi : Kept sys h) : Kept sys (h.step sys e) := by
  cases e with
  | generateCsr cp kind written => exact hi.generateCsr cp kind written
  | certificateReceived cp kind c saved => exact hi.certificateReceived cp kind c saved
  | resume n =>
    unfold Host.step
    dsimp only
    cases hc : h.calls n with
    | none => exact hi
    | some call =>
      cases call with
      | generating cp kind => exact (hi.leave n).note rfl (fun _ _ => rfl)
      | installing cp kind c => exact hi.copyKey hc

theorem Kept.run {h : Host} (events : List Event) (hi : Kept sys h) : Kept sys (h.run sys events) :=
  List.foldlRecOn (motive := Kept sys) events _ hi (fun _ hh e _ => hh.step e)

/-- **Whenever a certificate handler returns `true`, the key beside the certificate is the one it certifies**, in every
run in which the certificates answer the latest request of their kind and the temporary file is copied while it holds
the key of that request. -/
theorem matched_of_undisturbed (sys : System) (k : Option Nat) (cps : Nat → ChargePoint) (events : List Event)
    (ha : Answered sys ((Host.initial k cps).run sys events).log)
    (hu : Undisturbed ((Host.initial k cps).run sys events).log) :
    Matched ((Host.initial k cps).run sys events).log :=
  ((Kept.initial k cps).run events).matched ha hu

def System.sample : System := ⟨fun n => n, fun s => s⟩

/-- Two charge points, one after the other, request a certificate and are given it. -/
theorem matched_of_undisturbed_exchange :
    Matched ((Host.initial none fun _ => {}).run .sample
      [.generateCsr 1 .chargePoint true, .resume 0, .certificateReceived 1 .chargePoint ⟨"A", 0⟩ true, .resume 1,
       .generateCsr 2 .iso15118 true, .resume 2, .certificateReceived 2 .iso15118 ⟨"B", 2⟩ true, .resume 3]).log :=
  matched_of_undisturbed .sample none _ _ (by decide +kernel) (by decide +kernel)

/-- **Two requests of one charge point, and the first is answered**: the key saved beside its certificate is that of the
second. -/
theorem mismatched_of_two_requests :
    let log := ((Host.initial none fun _ => {}).run .sample
      [.generateCsr 1 .chargePoint true, .resume 0, .generateCsr 1 .iso15118 true, .resume 1,
       .certificateReceived 1 .chargePoint ⟨"A", 0⟩ true, .resume 2]).log
    Answered .sample log ∧ log.head? = some (.installed 2 ⟨"A", 0⟩ (some (.key 1))) ∧ ¬Matched log := by
  decide +kernel

end Certificates
