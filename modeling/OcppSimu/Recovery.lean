import OcppSimu.Presence
/-!
# Recovery — the connection loop finds its way back

From wherever `main` is when its connection is gone, good steps lead it round the loop to a new connection, and a measure
of how far it is from there goes down with each of them (`presence_recovers`).
-/
namespace Launcher

open Paho Vouching Main

/-- Everything succeeds and arrives. -/
def good : Answers := ⟨true, true, true, true⟩

/-- How many good steps `main` is from waiting over a new connection. -/
def Pc.toReady (up : Bool) : Pc → Nat
  | .setWill | .loopTest => 5
  | .connect => 4
  | .subscribeStatus => if up then 3 else 8
  | .subscribeCmd => if up then 2 else 8
  | .alive => if up then 1 else 10
  | .ready => if up then 0 else 9
  | .report => 8
  | .retry => 7
  | .close => 6
  | .farewell | .release | .released => 0

/-- **`main` is on its way**: its connection is gone, or it is a new one over which everything was heard. -/
structure OnWay (k : Nat) (s : Main) : Prop where
  working : Working s
  going : s.isEndOfApplication = false
  whole : s.line.up = s.line.link
  loud : s.line.link = true → s.pc = .ready → loud s.line.marks = true
  amid : s.line.link = true → s.pc = .subscribeStatus ∨ s.pc = .subscribeCmd ∨ s.pc = .alive ∨ s.pc = .ready
  near : s.pc.toReady s.line.up ≤ k

theorem host_step (s : Main) (a : Answers) : (s.step a).host = s.host := by
  unfold Main.step
  cases s.pc <;> simp only [Main.request, Main.becomes]
  split <;> rfl

/-- A step that goes well ends as it should where the launcher was not told to end. -/
theorem Working.goes {s : Main} (h : Working s) (he : s.isEndOfApplication = false) (a : Answers) :
    Working (s.step a) ∧ (s.step a).isEndOfApplication = false := by
  have hs : (s.step a).isEndOfApplication = false := by rw [Main.isEndOfApplication, host_step]; exact he
  exact ⟨(h.step a).resolve_right fun hg => Bool.false_ne_true (hs.symm.trans hg.ended), hs⟩

/-- `main` is at `pc` and has no connection. -/
def Off (pc : Pc) (s : Main) : Prop := s.pc = pc ∧ s.line.link = false ∧ s.line.up = false

namespace Off

variable {s : Main} {pc : Pc}

theorem refused (h : Off pc s) {r : Request} (arrives : Bool) (yes no : Pc) (hr : s.mqtt.step r = (s.mqtt, false)) :
    Off no (s.request arrives r yes no) := by
  rw [s.request_refused arrives yes no hr]
  exact ⟨rfl, h.2⟩

theorem subscribe (h : Off pc s) (arrives : Bool) {t : String} (ht : cString t = t) (yes no : Pc) :
    Off no (s.request arrives (.subscribe t .qos0 false) yes no) := by
  cases hc : s.mqtt.client with
  | none => exact h.refused arrives yes no (by simp [PahoMqttClient.step, PahoMqttClient.subscribe, hc])
  | some n =>
    obtain ⟨c, -, -, he⟩ := s.request_subscribe arrives ht false yes no hc
    have hl : s.line.react arrives (.subscribe n t .qos0 false) = s.line := by simp [Line.react, h.2.1]
    rw [he, hl]
    exact ⟨rfl, h.2⟩

theorem publish (h : Off pc s) (arrives : Bool) (m : String) (completed : Bool) (no : Pc) :
    Off no (s.request arrives (.publish LAUNCHER_STATUS_TOPIC m .qos0 true false completed) no no) := by
  cases hc : s.mqtt.client with
  | none => exact h.refused arrives no no (by simp [PahoMqttClient.step, PahoMqttClient.publish, hc])
  | some n =>
    obtain ⟨c, -, -, he⟩ := s.request_publish arrives m false completed no hc
    rw [he]
    exact ⟨rfl, h.2⟩

theorem isConnected (h : Off pc s) (arrives : Bool) (yes no : Pc) :
    Off no (s.request arrives (.isConnected false) yes no) := by
  cases hc : s.mqtt.client with
  | none => exact h.refused arrives yes no (by simp [PahoMqttClient.step, PahoMqttClient.isConnected, hc])
  | some n =>
    obtain ⟨c, -, -, he⟩ := s.request_isConnected arrives false yes no hc
    rw [he]
    exact ⟨rfl, h.2⟩

theorem close (h : Off pc s) (arrives : Bool) (no : Pc) : Off no (s.request arrives .close no no) := by
  cases hc : s.mqtt.client with
  | none => exact h.refused arrives no no (by simp [PahoMqttClient.step, PahoMqttClient.close, hc])
  | some n =>
    obtain ⟨c, -, -, he⟩ := s.request_close arrives no hc
    rw [he]
    exact ⟨rfl, rfl, rfl⟩

end Off

namespace OnWay

variable {k : Nat} {s : Main}

theorem of_off {pc : Pc} (h : Off pc s) (hw : Working s) (he : s.isEndOfApplication = false) (hk : pc.toReady false ≤ k) :
    OnWay k s where
  working := hw
  going := he
  whole := h.2.2.trans h.2.1.symm
  loud hl := absurd (h.2.1.symm.trans hl) Bool.false_ne_true
  amid hl := absurd (h.2.1.symm.trans hl) Bool.false_ne_true
  near := by rw [h.1, h.2.2]; exact hk

/-- **Off the line** `main` goes round until it connects. -/
theorem step_down (h : OnWay (k + 1) s) (hu : s.line.up = false) : OnWay k (s.step good) := by
  have hoff : Off s.pc s := ⟨rfl, h.whole.symm.trans hu, hu⟩
  obtain ⟨hw, he⟩ := h.working.goes h.going good
  have hn := h.near
  rw [hu] at hn
  have off {pc : Pc} (ho : Off pc (s.step good)) (hk : pc.toReady false ≤ k) : OnWay k (s.step good) := of_off ho hw he hk
  cases hp : s.pc with
  | setWill =>
    rw [hp] at hn
    obtain ⟨c, -, -, hr⟩ := s.request_setWill true .connect (h.working.closed (by rw [hp]; rfl))
    have ho : Off .connect (s.step good) := by
      rw [show s.step good = _ from (step_setWill good hp).trans hr]
      exact ⟨rfl, hoff.2⟩
    exact off ho (Nat.le_of_succ_le_succ hn)
  | connect =>
    rw [hp] at hn
    obtain ⟨w, hw', hwill⟩ := h.working.will (by rw [hp]; nofun) (by rw [hp]; nofun)
    obtain ⟨c, -, -, hr⟩ := s.request_connect true .subscribeStatus .retry (h.working.closed (by rw [hp]; rfl)) hw' hwill
    have hs : s.step good = _ := (step_connect good hp).trans hr
    refine ⟨hw, he, ?_, fun _ hq => ?_, fun _ => ?_, ?_⟩ <;> rw [hs] at *
    · cases hq
    · exact .inl rfl
    · exact Nat.le_of_succ_le_succ hn
  | subscribeStatus =>
    rw [hp] at hn
    have ho : Off .retry (s.step good) := by
      rw [step_subscribeStatus good hp, hoff.2.1]
      exact hoff.subscribe true cString_chargePoints .subscribeCmd .retry
    exact off ho (Nat.le_of_succ_le_succ hn)
  | subscribeCmd =>
    rw [hp] at hn
    have ho : Off .retry (s.step good) := by
      rw [step_subscribeCmd good hp, hoff.2.1]
      exact hoff.subscribe true cString_cmd .alive .retry
    exact off ho (Nat.le_of_succ_le_succ hn)
  | alive =>
    rw [hp] at hn
    have ho : Off .ready (s.step good) := by
      rw [step_alive good hp, hu]
      exact hoff.publish true "Alive" true .ready
    exact off ho (Nat.le_of_succ_le_succ hn)
  | ready =>
    rw [hp] at hn
    have ho : Off .report (s.step good) := by
      rw [step_ready good hp, h.going, hu]
      exact hoff.isConnected true .ready .report
    exact off ho (Nat.le_of_succ_le_succ hn)
  | report =>
    rw [hp] at hn
    have ho : Off .retry (s.step good) := by
      rw [step_report good hp, hu]
      exact hoff.isConnected true .retry .retry
    exact off ho (Nat.le_of_succ_le_succ hn)
  | retry =>
    rw [hp] at hn
    have ho : Off .close (s.step good) := by
      rw [step_retry good hp, h.going]
      exact ⟨rfl, hoff.2⟩
    exact off ho (Nat.le_of_succ_le_succ hn)
  | close =>
    rw [hp] at hn
    have ho : Off .loopTest (s.step good) := by
      rw [step_close good hp]
      exact hoff.close true .loopTest
    exact off ho (Nat.le_of_succ_le_succ hn)
  | loopTest =>
    rw [hp] at hn
    have ho : Off .connect (s.step good) := by
      rw [step_loopTest good hp, h.going]
      exact ⟨rfl, hoff.2⟩
    exact off ho (Nat.le_of_succ_le_succ hn)
  | farewell | release | released =>
    have hf := h.working.final (by rw [hp]; rfl)
    exact absurd (h.going.symm.trans hf) Bool.false_ne_true

/-- A new connection over which `main` goes on. -/
theorem of_on (hw : Working s) (he : s.isEndOfApplication = false) (hl : s.line.link = true) (hu : s.line.up = true)
    (hpc : s.pc = .subscribeCmd ∨ s.pc = .alive ∨ s.pc = .ready ∧ Launcher.loud s.line.marks = true)
    (hk : s.pc.toReady true ≤ k) : OnWay k s where
  working := hw
  going := he
  whole := hu.trans hl.symm
  loud _ hp := by
    rw [hp] at hpc
    simpa using hpc
  amid _ := .inr (hpc.imp id (.imp id And.left))
  near := by rw [hu]; exact hk

/-- **Over a new connection** `main` goes on until it waits, and then waits. -/
theorem step_up (h : OnWay k s) (hu : s.line.up = true) : OnWay (k - 1) (s.step good) := by
  have hl : s.line.link = true := h.whole.symm.trans hu
  obtain ⟨hw, he⟩ := h.working.goes h.going good
  have hn := h.near
  rw [hu] at hn
  obtain ⟨n, hc⟩ : ∃ n, s.mqtt.client = some n := Option.ne_none_iff_exists'.1 fun hc =>
    absurd ((h.working.idle hc).1.symm.trans hl) Bool.false_ne_true
  rcases h.amid hl with hp | hp | hp | hp
  · rw [hp] at hn
    obtain ⟨c, -, -, hr⟩ := s.request_subscribe true cString_chargePoints true .subscribeCmd .retry hc
    have hs := step_subscribeStatus good hp
    rw [hl] at hs
    rw [hs.trans hr] at hw he ⊢
    exact of_on hw he (by simp [Line.react, hl]) (by simp [Line.react, hl, hu]) (.inl rfl) (Nat.le_sub_one_of_lt hn)
  · rw [hp] at hn
    obtain ⟨c, -, -, hr⟩ := s.request_subscribe true cString_cmd true .alive .retry hc
    have hs := step_subscribeCmd good hp
    rw [hl] at hs
    rw [hs.trans hr] at hw he ⊢
    exact of_on hw he (by simp [Line.react, hl]) (by simp [Line.react, hl, hu]) (.inr (.inl rfl)) (Nat.le_sub_one_of_lt hn)
  · rw [hp] at hn
    obtain ⟨c, -, -, hr⟩ := s.request_publish true "Alive" true true .ready hc
    have hs := step_alive good hp
    rw [hu] at hs
    rw [hs.trans hr] at hw he ⊢
    refine of_on hw he hl hu (.inr (.inr ⟨rfl, ?_⟩)) (Nat.le_sub_one_of_lt hn)
    simp [Line.react, hl, Launcher.loud]
  · obtain ⟨c, -, -, hr⟩ := s.request_isConnected true true .ready .report hc
    have hs := step_ready good hp
    rw [h.going, hu] at hs
    rw [hs.trans hr] at hw he ⊢
    exact of_on hw he hl hu (.inr (.inr ⟨rfl, h.loud hl hp⟩)) (Nat.zero_le _)

theorem step (h : OnWay k s) : OnWay (k - 1) (s.step good) := by
  cases hu : s.line.up with
  | true => exact h.step_up hu
  | false =>
    cases k with
    | succ k => exact h.step_down hu
    | zero =>
      -- nothing is at no distance off the line
      have hn := h.near
      rw [hu] at hn
      have hf : s.pc.final = true := by
        cases hp : s.pc <;> rw [hp] at hn <;> first | rfl | cases hn
      exact absurd (h.going.symm.trans (h.working.final hf)) Bool.false_ne_true

theorem run (sys : System) (h : OnWay k s) (n : Nat) : OnWay (k - n) (s.run sys (List.replicate n (.step good))) := by
  induction n generalizing k s with
  | zero => exact h
  | succ n ih =>
    rw [List.replicate_succ, Nat.sub_add_eq, Nat.sub_right_comm]
    exact ih h.step

/-- **There.** -/
theorem arrived (h : OnWay 0 s) : s.pc = .ready ∧ s.line.link = true := by
  have hn := Nat.le_zero.1 h.near
  have hf : s.pc.final = false := Bool.eq_false_iff.2 fun hf =>
    absurd (h.going.symm.trans (h.working.final hf)) Bool.false_ne_true
  cases hu : s.line.up <;> cases hp : s.pc <;> rw [hu, hp] at hn <;> rw [hp] at hf <;> cases hn <;> cases hf
  exact ⟨rfl, h.whole.symm.trans hu⟩

end OnWay

/-- **The loop finds its way back**: wherever `main` is when its connection is gone, unless it was told to end, ten good
steps are enough for it to wait over a new one, shown alive and getting the messages; and so it stays. -/
theorem presence_recovers (sys : System) (url : String) (host : Host) (server : Server String String)
    (hv : Vouched LAUNCHER_STATUS_TOPIC "Dead" server) (happenings : List Happening)
    (hu : ((Main.start url host server).run sys happenings).line.up = false)
    (he : ((Main.start url host server).run sys happenings).isEndOfApplication = false) (n : Nat) (hn : 10 ≤ n) :
    let s := (Main.start url host server).run sys (happenings ++ List.replicate n (.step good))
    s.pc = .ready ∧ s.line.link = true ∧ s.line.server.kept LAUNCHER_STATUS_TOPIC = some "Alive" ∧
      Listens s.line (CHARGE_POINTS_TOPIC ++ "+/status") ∧ Listens s.line LAUNCHER_CMD_TOPIC := by
  intro s
  have hw : Working ((Main.start url host server).run sys happenings) :=
    (run_sound sys happenings (.inl (start_working url host hv))).resolve_right fun hg =>
      absurd (he.symm.trans hg.ended) Bool.false_ne_true
  have hl := Bool.eq_false_iff.2 fun hl => absurd (hu.symm.trans (hw.fits.up hl)) Bool.false_ne_true
  have h₁₀ : OnWay 10 ((Main.start url host server).run sys happenings) :=
    .of_off ⟨rfl, hl, hu⟩ hw he (by cases ((Main.start url host server).run sys happenings).pc <;> decide)
  have h₀ := h₁₀.run sys n
  rw [Nat.sub_eq_zero_of_le hn, Main.run, Main.run, ← List.foldl_append] at h₀
  obtain ⟨hp, hl⟩ := h₀.arrived
  exact ⟨hp, hl, h₀.working.fits.loud hl (h₀.loud hl hp)⟩

/-- The connection breaks while the launcher waits. -/
def broken : List Happening := List.replicate 5 (.step good) ++ [.cut, .noticed, .lost]

theorem presence_recovers_broken :
    let s := (Main.start "tcp://localhost:1883" Host.initial {}).run ⟨fun n => n, fun _ _ => true⟩
      (broken ++ List.replicate 10 (.step good))
    s.pc = .ready ∧ s.line.link = true ∧ s.line.server.kept LAUNCHER_STATUS_TOPIC = some "Alive" ∧
      Listens s.line (CHARGE_POINTS_TOPIC ++ "+/status") ∧ Listens s.line LAUNCHER_CMD_TOPIC :=
  presence_recovers ⟨fun n => n, fun _ _ => true⟩ "tcp://localhost:1883" Host.initial {} ⟨nofun, nofun⟩ broken
    (by decide +kernel) (by decide +kernel) 10 (Nat.le_refl 10)

end Launcher
