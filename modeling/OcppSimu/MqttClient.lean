import OcppSimu.Lifecycle
/-!
# MqttClient — `PahoMqttClient`, by the calls it makes of its library

The client holds a handle of the Paho library while it is connected, and the two texts of its will, allocated on the
heap, from the first `setWill` on.  What the library answers is part of a request; what it is asked is the list of
calls.  Whatever is requested, in whatever order and with whatever answers, no handle is used before it is created or
after it is destroyed, no text is freed twice or read once freed, messages go to handles whose connection was made, and
once the client is deleted nothing is left (`client_lifecycle`).
-/
namespace Paho

open Hist Lifecycle

inductive QoS
  | qos0 | qos1 | qos2
  deriving DecidableEq

structure Will where
  topic : String
  message : String
  qos : QoS
  retained : Bool
  deriving DecidableEq

/-- A handle of the library or a text on the heap, numbered as they are given out. -/
inductive Resource
  | handle (n : Nat)
  | block (n : Nat)
  deriving DecidableEq

/-- A call of the library, or of the allocator; `reads` is what the library does with the texts of the will. -/
inductive Call
  | alloc (block : Nat) (text : String)
  | free (block : Nat)
  | create (handle : Nat) (url id : String)
  | createFailed
  | setCallbacks (handle : Nat)
  | reads (block : Nat)
  | connect (handle : Nat) (cleanSession : Bool) (timeout keepAlive : Nat) (will : Option Will) (success : Bool)
  | publish (handle : Nat) (topic message : String) (qos : QoS) (retained success : Bool)
  | waitForCompletion (handle : Nat) (success : Bool)
  | subscribe (handle : Nat) (topic : String) (qos : QoS) (success : Bool)
  | unsubscribe (handle : Nat) (topic : String) (success : Bool)
  | isConnected (handle : Nat) (answer : Bool)
  | disconnect (handle : Nat)
  | destroy (handle : Nat)
  deriving DecidableEq

def Call.use : Call → Use Resource
  | .alloc n _ => .acquires (.block n)
  | .free n => .releases (.block n)
  | .reads n => .touches (.block n)
  | .create n _ _ => .acquires (.handle n)
  | .createFailed => .nothing
  | .setCallbacks n | .connect n _ _ _ _ _ | .publish n _ _ _ _ _ | .waitForCompletion n _ | .subscribe n _ _ _
  | .unsubscribe n _ _ | .isConnected n _ | .disconnect n => .touches (.handle n)
  | .destroy n => .releases (.handle n)

def Call.connects (n : Nat) : Call → Bool
  | .connect m _ _ _ _ success => decide (m = n) && success
  | _ => false

def Call.disconnects (n : Nat) : Call → Bool
  | .disconnect m => decide (m = n)
  | _ => false

def connected (n : Nat) (h : List Call) : Bool := since (Call.connects n) (Call.disconnects n) h

/-- What the library asks of the order of its calls. -/
def Call.inOrder : Call → List Call → Bool
  | .connect n _ _ _ _ _, h => !connected n h
  | .publish n _ _ _ _ _, h | .waitForCompletion n _, h | .subscribe n _ _ _, h | .unsubscribe n _ _, h
  | .isConnected n _, h => connected n h
  | _, _ => true

/-! ## The client -/

/-- The text a C function reads, up to the first null. -/
def cString (s : String) : String := String.ofList (s.toList.takeWhile (fun c => decide (c ≠ Char.ofNat 0)))

/-- `m_will`, with its two texts on the heap. -/
structure StoredWill where
  will : Will
  topicName : Nat
  message : Nat

structure PahoMqttClient where
  id : String
  url : String := ""
  client : Option Nat := none
  will : Option StoredWill := none
  handles : Nat := 0
  blocks : Nat := 0
  calls : List Call := []

namespace PahoMqttClient

def note (c : PahoMqttClient) (e : Call) : PahoMqttClient := { c with calls := e :: c.calls }

/-- `delete[]` of the two texts, where there are any. -/
def releaseWill (c : PahoMqttClient) : PahoMqttClient :=
  match c.will with
  | some w => { (c.note (.free w.topicName)).note (.free w.message) with will := none }
  | none => c

def setWill (c : PahoMqttClient) (w : Will) : PahoMqttClient × Bool :=
  match c.client with
  | some _ => (c, false)
  | none =>
    let c := c.releaseWill
    let c' := (c.note (.alloc c.blocks w.topic)).note (.alloc (c.blocks + 1) w.message)
    ({ c' with will := some ⟨w, c.blocks, c.blocks + 1⟩, blocks := c.blocks + 2 }, true)

def close (c : PahoMqttClient) : PahoMqttClient × Bool :=
  match c.client with
  | some n => ({ (c.note (.disconnect n)).note (.destroy n) with client := none, url := "" }, true)
  | none => (c, false)

/-- The will as the library reads it. -/
def StoredWill.read (w : StoredWill) : Will :=
  { w.will with topic := cString w.will.topic, message := cString w.will.message }

/-- `MQTTClient_connect`, which reads the will where there is one. -/
def connectHandle (c : PahoMqttClient) (n : Nat) (cleanSession : Bool) (timeout keepAlive : Nat) (success : Bool) :
    PahoMqttClient :=
  match c.will with
  | some w => ((c.note (.reads w.topicName)).note (.reads w.message)).note
      (.connect n cleanSession timeout keepAlive (some (StoredWill.read w)) success)
  | none => c.note (.connect n cleanSession timeout keepAlive none success)

def connect (c : PahoMqttClient) (url : String) (cleanSession : Bool) (timeout keepAlive : Nat) (created success : Bool) :
    PahoMqttClient × Bool :=
  match c.client with
  | some _ => (c, false)
  | none =>
    if created then
      let n := c.handles
      let c := ({ c with client := some n, handles := n + 1 }.note (.create n (cString url) (cString c.id))).note (.setCallbacks n)
      let c := c.connectHandle n cleanSession timeout keepAlive success
      if success then ({ c with url := url }, true) else (c.close.1, false)
    else (c.note .createFailed, false)

def publish (c : PahoMqttClient) (topic message : String) (qos : QoS) (retained published completed : Bool) :
    PahoMqttClient × Bool :=
  match c.client with
  | some n =>
    let c := c.note (.publish n (cString topic) message qos retained published)
    if published then (c.note (.waitForCompletion n completed), completed) else (c, false)
  | none => (c, false)

def subscribe (c : PahoMqttClient) (topic : String) (qos : QoS) (success : Bool) : PahoMqttClient × Bool :=
  match c.client with
  | some n => (c.note (.subscribe n (cString topic) qos success), success)
  | none => (c, false)

def unsubscribe (c : PahoMqttClient) (topic : String) (success : Bool) : PahoMqttClient × Bool :=
  match c.client with
  | some n => (c.note (.unsubscribe n (cString topic) success), success)
  | none => (c, false)

def isConnected (c : PahoMqttClient) (answer : Bool) : PahoMqttClient × Bool :=
  match c.client with
  | some n => (c.note (.isConnected n answer), answer)
  | none => (c, false)

/-- The destructor. -/
def delete (c : PahoMqttClient) : PahoMqttClient := c.close.1.releaseWill

end PahoMqttClient

/-- A member function, with what the library answers. -/
inductive Request
  | setWill (w : Will)
  | connect (url : String) (cleanSession : Bool) (timeout keepAlive : Nat) (created success : Bool)
  | publish (topic message : String) (qos : QoS) (retained published completed : Bool)
  | subscribe (topic : String) (qos : QoS) (success : Bool)
  | unsubscribe (topic : String) (success : Bool)
  | isConnected (answer : Bool)
  | close

namespace PahoMqttClient

def step (c : PahoMqttClient) : Request → PahoMqttClient × Bool
  | .setWill w => c.setWill w
  | .connect url cleanSession timeout keepAlive created success => c.connect url cleanSession timeout keepAlive created success
  | .publish topic message qos retained published completed => c.publish topic message qos retained published completed
  | .subscribe topic qos success => c.subscribe topic qos success
  | .unsubscribe topic success => c.unsubscribe topic success
  | .isConnected answer => c.isConnected answer
  | .close => c.close

def run (c : PahoMqttClient) (requests : List Request) : PahoMqttClient := requests.foldl (fun c r => (c.step r).1) c

end PahoMqttClient

/-! ## What every call keeps -/

/-- **The calls so far are in order**, what is held is `S`, and the handle whose connection was made is `o`. -/
structure Sound (S : Set Resource) (o : Option Nat) (calls : List Call) (handles blocks : Nat) : Prop where
  holds : Holds Call.use S calls
  handles : ∀ n, calls.any (acquires Call.use (.handle n)) = true → n < handles
  blocks : ∀ n, calls.any (acquires Call.use (.block n)) = true → n < blocks
  order : Always (fun e h => e.inOrder h = true) calls
  connected : ∀ n, Paho.connected n calls = true ↔ o = some n

namespace Sound

variable {S : Set Resource} {o : Option Nat} {calls : List Call} {handles blocks : Nat}

theorem nil : Sound ∅ none [] 0 0 where
  holds := .nil
  handles _ h := by cases h
  blocks _ h := by cases h
  order := .nil
  connected _ := iff_of_false Bool.false_ne_true (fun h => by cases h)

theorem connected_of_silent {e : Call} {n : Nat} (hc : e.connects n = false) (hd : e.disconnects n = false) :
    Paho.connected n (e :: calls) = Paho.connected n calls := by
  unfold Paho.connected
  rw [since_cons, hc, hd]
  rfl

theorem not_acquires {e : Call} {r : Resource} (hu : ∀ r, e.use ≠ .acquires r) : acquires Call.use r e = false :=
  decide_eq_false (hu r)

/-- A call that acquires nothing, on something held or on nothing. -/
theorem plain {e : Call} {T : Set Resource} {p : Option Nat} (hu : ∀ r, e.use ≠ .acquires r)
    (ht : Holds Call.use T (e :: calls)) (ho : e.inOrder calls = true)
    (hc : ∀ n, Paho.connected n (e :: calls) = true ↔ p = some n) (h : Sound S o calls handles blocks) :
    Sound T p (e :: calls) handles blocks where
  holds := ht
  handles n hn := h.handles n (by rwa [List.any_cons, not_acquires hu, Bool.false_or] at hn)
  blocks n hn := h.blocks n (by rwa [List.any_cons, not_acquires hu, Bool.false_or] at hn)
  order := .cons ho h.order
  connected := hc

theorem touch {e : Call} {r : Resource} (hu : e.use = .touches r) (hr : r ∈ S) (ho : e.inOrder calls = true)
    (hc : ∀ n, e.connects n = false) (hd : ∀ n, e.disconnects n = false) (h : Sound S o calls handles blocks) :
    Sound S o (e :: calls) handles blocks :=
  h.plain (fun s hs => by rw [hu] at hs; cases hs) (h.holds.touch hu hr) ho
    (fun n => by rw [connected_of_silent (hc n) (hd n)]; exact h.connected n)

theorem free {n : Nat} (hr : .block n ∈ S) (h : Sound S o calls handles blocks) :
    Sound (S \ {.block n}) o (.free n :: calls) handles blocks :=
  h.plain (fun _ hs => by cases hs) (h.holds.release rfl hr) rfl
    (fun m => by rw [connected_of_silent rfl rfl]; exact h.connected m)

theorem fresh {b : Nat} {r : Resource} (hb : calls.any (acquires Call.use r) = true → b < b) :
    calls.any (acquires Call.use r) = false := Bool.eq_false_iff.2 fun h => Nat.lt_irrefl b (hb h)

theorem alloc {text : String} (h : Sound S o calls handles blocks) :
    Sound (insert (.block blocks) S) o (.alloc blocks text :: calls) handles (blocks + 1) where
  holds := h.holds.acquire rfl (fresh (h.blocks blocks))
  handles n hn := h.handles n (by simpa [acquires, Call.use] using hn)
  blocks n hn := by
    rw [List.any_cons, Bool.or_eq_true] at hn
    rcases hn with hn | hn
    · have he : Use.acquires (Resource.block blocks) = .acquires (.block n) := of_decide_eq_true hn
      cases he
      exact Nat.lt_succ_self _
    · exact Nat.lt_succ_of_lt (h.blocks n hn)
  order := .cons rfl h.order
  connected n := by
    rw [connected_of_silent rfl rfl]
    exact h.connected n

theorem create {url id : String} (h : Sound S o calls handles blocks) :
    Sound (insert (.handle handles) S) o (.create handles url id :: calls) (handles + 1) blocks where
  holds := h.holds.acquire rfl (fresh (h.handles handles))
  handles n hn := by
    rw [List.any_cons, Bool.or_eq_true] at hn
    rcases hn with hn | hn
    · have he : Use.acquires (Resource.handle handles) = .acquires (.handle n) := of_decide_eq_true hn
      cases he
      exact Nat.lt_succ_self _
    · exact Nat.lt_succ_of_lt (h.handles n hn)
  blocks n hn := h.blocks n (by simpa [acquires, Call.use] using hn)
  order := .cons rfl h.order
  connected n := by
    rw [connected_of_silent rfl rfl]
    exact h.connected n

/-- **A connection is tried** on a handle while there is none. -/
theorem connect {n timeout keepAlive : Nat} {cleanSession success : Bool} {will : Option Will} (hr : .handle n ∈ S)
    (h : Sound S none calls handles blocks) :
    Sound S (if success then some n else none) (.connect n cleanSession timeout keepAlive will success :: calls) handles
      blocks := by
  have hn : ∀ m, Paho.connected m calls = false := fun m => Bool.eq_false_iff.2 fun hm => by
    have hc := (h.connected m).1 hm
    cases hc
  refine h.plain (fun _ hs => by cases hs) (h.holds.touch rfl hr) (by simp [Call.inOrder, hn]) (fun m => ?_)
  have hm := hn m
  unfold Paho.connected at hm ⊢
  rw [since_cons, hm]
  cases success <;> simp [Call.connects]

/-- **A handle is given up**, whether or not its connection was made. -/
theorem giveUp {n : Nat} (hr : .handle n ∈ S) (ho : o = some n ∨ o = none) (h : Sound S o calls handles blocks) :
    Sound (S \ {.handle n}) none (.destroy n :: .disconnect n :: calls) handles blocks := by
  have hd : Sound S none (.disconnect n :: calls) handles blocks := by
    refine h.plain (fun _ hs => by cases hs) (h.holds.touch rfl hr) rfl (fun m => iff_of_false (fun hm => ?_) (fun hm => by cases hm))
    unfold Paho.connected at hm
    rw [since_cons] at hm
    have hc := h.connected m
    unfold Paho.connected at hc
    simp only [Call.connects, Call.disconnects, Bool.false_or, Bool.and_eq_true, Bool.not_eq_true',
      decide_eq_false_iff_not] at hm
    have hm' := hc.1 hm.2
    rcases ho with rfl | rfl
    · exact hm.1 (Option.some.inj hm')
    · cases hm'
  exact hd.plain (fun _ hs => by cases hs) (hd.holds.release rfl hr) rfl
    (fun m => by rw [connected_of_silent rfl rfl]; exact hd.connected m)

end Sound

/-! ## The member functions -/

namespace PahoMqttClient

/-- What the client holds. -/
def owned (client : Option Nat) (will : Option StoredWill) : Set Resource :=
  {r | (∃ n, client = some n ∧ r = .handle n) ∨ ∃ w, will = some w ∧ (r = .block w.topicName ∨ r = .block w.message)}

/-- **Between two requests.** -/
structure Rests (c : PahoMqttClient) : Prop where
  sound : Sound (owned c.client c.will) c.client c.calls c.handles c.blocks
  apart : ∀ w, c.will = some w → w.topicName ≠ w.message

variable {c : PahoMqttClient}

theorem rests_new (id : String) : Rests { id := id } where
  sound := by
    have h : owned none none = ∅ := by
      ext r
      simp [owned]
    show Sound (owned none none) none [] 0 0
    rw [h]
    exact Sound.nil
  apart _ h := by cases h

theorem mem_owned_handle {n : Nat} (will : Option StoredWill) : .handle n ∈ owned (some n) will := .inl ⟨n, rfl, rfl⟩

theorem Rests.note {e : Call} {n : Nat} (hc : c.client = some n) (hu : e.use = .touches (.handle n))
    (ho : ∀ h, e.inOrder h = connected n h) (h₁ : ∀ m, e.connects m = false) (h₂ : ∀ m, e.disconnects m = false)
    (h : Rests c) : Rests (c.note e) where
  sound := by
    refine h.sound.touch hu (.inl ⟨n, hc, rfl⟩) ?_ h₁ h₂
    · rw [ho]
      exact (h.sound.connected n).2 hc
  apart := h.apart

/-- **The texts of the will are freed**, and nothing else is given up. -/
theorem releaseWill_sound (h : Rests c) :
    Sound (owned c.client none) c.client c.releaseWill.calls c.handles c.blocks := by
  unfold releaseWill
  cases hw : c.will with
  | none =>
    have hs := h.sound
    rwa [hw] at hs
  | some w =>
    have hs := h.sound
    rw [hw] at hs
    have h₁ := hs.free (n := w.topicName) (.inr ⟨w, rfl, .inl rfl⟩)
    have hm : Resource.block w.message ∈ owned c.client (some w) \ {.block w.topicName} :=
      ⟨.inr ⟨w, rfl, .inr rfl⟩, fun he => h.apart w hw (Resource.block.inj he).symm⟩
    have h₂ := h₁.free hm
    have hset : owned c.client none = (owned c.client (some w) \ {.block w.topicName}) \ {.block w.message} := by
      ext r
      constructor
      · rintro (⟨n, hn, rfl⟩ | ⟨w', hw', -⟩)
        · exact ⟨⟨.inl ⟨n, hn, rfl⟩, fun he => by cases he⟩, fun he => by cases he⟩
        · cases hw'
      · rintro ⟨⟨⟨n, hn, rfl⟩ | ⟨w', hw', hr⟩, h₁⟩, h₂⟩
        · exact .inl ⟨n, hn, rfl⟩
        · obtain rfl := Option.some.inj hw'
          rcases hr with rfl | rfl
          · exact absurd rfl h₁
          · exact absurd rfl h₂
    rw [hset]
    exact h₂

theorem releaseWill_fields (c : PahoMqttClient) : c.releaseWill.client = c.client ∧ c.releaseWill.handles = c.handles ∧
    c.releaseWill.blocks = c.blocks := by
  unfold releaseWill
  split <;> exact ⟨rfl, rfl, rfl⟩

theorem Rests.setWill (w : Will) (h : Rests c) : Rests (c.setWill w).1 := by
  unfold PahoMqttClient.setWill
  cases hc : c.client with
  | some n => exact h
  | none =>
    obtain ⟨h₁, h₂, h₃⟩ := c.releaseWill_fields
    have hs := releaseWill_sound h
    rw [hc] at hs h₁
    rw [← h₂, ← h₃] at hs
    refine ⟨?_, fun w' hw' => ?_⟩
    · have ha := @Sound.alloc _ _ _ _ _ w.message (@Sound.alloc _ _ _ _ _ w.topic hs)
      have hset : owned none (some ⟨w, c.releaseWill.blocks, c.releaseWill.blocks + 1⟩) =
          insert (.block (c.releaseWill.blocks + 1)) (insert (.block c.releaseWill.blocks) (owned none none)) := by
        ext r
        simp [owned, or_comm]
      show Sound (owned c.releaseWill.client (some ⟨w, c.releaseWill.blocks, c.releaseWill.blocks + 1⟩)) c.releaseWill.client _ _ _
      rw [h₁, hset]
      exact ha
    · obtain rfl := Option.some.inj hw'
      exact (Nat.lt_succ_self _).ne

theorem owned_diff (n : Nat) (will : Option StoredWill) : owned (some n) will \ {.handle n} = owned none will := by
  ext r
  constructor
  · rintro ⟨⟨m, hm, rfl⟩ | hw, hr⟩
    · exact absurd (congrArg Resource.handle (Option.some.inj hm).symm) hr
    · exact .inr hw
  · rintro (⟨m, hm, -⟩ | ⟨w, hw, hr⟩)
    · cases hm
    · refine ⟨.inr ⟨w, hw, hr⟩, ?_⟩
      rcases hr with rfl | rfl <;> exact fun he => by cases he

theorem Rests.close (h : Rests c) : Rests c.close.1 := by
  unfold PahoMqttClient.close
  cases hc : c.client with
  | none => exact h
  | some n =>
    refine ⟨?_, h.apart⟩
    have hs := h.sound
    rw [hc] at hs
    have hg := hs.giveUp (mem_owned_handle c.will) (.inl rfl)
    rw [owned_diff] at hg
    exact hg

theorem connectHandle_fields (c : PahoMqttClient) (n : Nat) (cleanSession : Bool) (timeout keepAlive : Nat) (success : Bool) :
    let c' := c.connectHandle n cleanSession timeout keepAlive success
    c'.client = c.client ∧ c'.will = c.will ∧ c'.handles = c.handles ∧ c'.blocks = c.blocks := by
  unfold connectHandle
  dsimp only
  split <;> exact ⟨rfl, rfl, rfl, rfl⟩

theorem connectHandle_sound {n timeout keepAlive : Nat} {cleanSession success : Bool}
    (h : Sound (owned (some n) c.will) none c.calls c.handles c.blocks) :
    Sound (owned (some n) c.will) (if success then some n else none)
      (c.connectHandle n cleanSession timeout keepAlive success).calls c.handles c.blocks := by
  unfold connectHandle
  cases hw : c.will with
  | none =>
    rw [hw] at h
    exact h.connect (mem_owned_handle none)
  | some w =>
    rw [hw] at h
    have h₁ := h.touch (e := .reads w.topicName) rfl (.inr ⟨w, rfl, .inl rfl⟩) rfl (fun _ => rfl) (fun _ => rfl)
    have h₂ := h₁.touch (e := .reads w.message) rfl (.inr ⟨w, rfl, .inr rfl⟩) rfl (fun _ => rfl) (fun _ => rfl)
    exact h₂.connect (mem_owned_handle (some w))

theorem insert_owned (n : Nat) (will : Option StoredWill) : insert (.handle n) (owned none will) = owned (some n) will := by
  ext r
  simp [owned]

theorem Rests.connect (url : String) (cleanSession : Bool) (timeout keepAlive : Nat) (created success : Bool) (h : Rests c) :
    Rests (c.connect url cleanSession timeout keepAlive created success).1 := by
  unfold PahoMqttClient.connect
  cases hc : c.client with
  | some n => exact h
  | none =>
    have hs := h.sound
    rw [hc] at hs
    cases created with
    | false =>
      refine ⟨?_, h.apart⟩
      have hn := hs.plain (e := .createFailed) (fun _ hu => by cases hu) (hs.holds.other rfl) rfl
        (fun n => by rw [Sound.connected_of_silent rfl rfl]; exact hs.connected n)
      show Sound (owned c.client c.will) c.client _ _ _
      rw [hc]
      exact hn
    | true =>
      have h₁ := @Sound.create _ _ _ _ _ (cString url) (cString c.id) hs
      rw [insert_owned] at h₁
      have h₂ := h₁.touch (e := .setCallbacks c.handles) rfl (mem_owned_handle c.will) rfl (fun _ => rfl) (fun _ => rfl)
      let c₂ : PahoMqttClient := ({ c with client := some c.handles, handles := c.handles + 1 }.note
        (.create c.handles (cString url) (cString c.id))).note (.setCallbacks c.handles)
      have h₃ := @connectHandle_sound c₂ c.handles timeout keepAlive cleanSession success h₂
      obtain ⟨f₁, f₂, f₃, f₄⟩ := c₂.connectHandle_fields c.handles cleanSession timeout keepAlive success
      cases success with
      | true =>
        refine ⟨?_, fun w hw => h.apart w ?_⟩
        · let c₃ := c₂.connectHandle c.handles cleanSession timeout keepAlive true
          show Sound (owned c₃.client c₃.will) c₃.client c₃.calls c₃.handles c₃.blocks
          rw [f₁, f₂, f₃, f₄]
          exact h₃
        · rw [← show _ = c.will from f₂]
          exact hw
      | false =>
        show Rests (c₂.connectHandle c.handles cleanSession timeout keepAlive false).close.1
        unfold PahoMqttClient.close
        rw [show _ = some c.handles from f₁]
        refine ⟨?_, fun w hw => h.apart w ?_⟩
        · have hg := h₃.giveUp (mem_owned_handle c.will) (.inr rfl)
          rw [owned_diff] at hg
          show Sound (owned none (c₂.connectHandle c.handles cleanSession timeout keepAlive false).will) none _
            (c₂.connectHandle c.handles cleanSession timeout keepAlive false).handles
            (c₂.connectHandle c.handles cleanSession timeout keepAlive false).blocks
          rw [f₂, f₃, f₄]
          exact hg
        · rw [← show _ = c.will from f₂]
          exact hw

theorem Rests.step (r : Request) (h : Rests c) : Rests (c.step r).1 := by
  cases r with
  | setWill w => exact h.setWill w
  | connect url cleanSession timeout keepAlive created success =>
    exact h.connect url cleanSession timeout keepAlive created success
  | close => exact h.close
  | publish topic message qos retained published completed =>
    unfold PahoMqttClient.step publish
    cases hc : c.client with
    | none => exact h
    | some n =>
      have hp := h.note (e := .publish n (cString topic) message qos retained published) hc rfl (fun _ => rfl)
        (fun _ => rfl) (fun _ => rfl)
      cases published with
      | false => exact hp
      | true => exact hp.note (e := .waitForCompletion n completed) hc rfl (fun _ => rfl) (fun _ => rfl) (fun _ => rfl)
  | subscribe topic qos success =>
    unfold PahoMqttClient.step subscribe
    cases hc : c.client with
    | none => exact h
    | some n => exact h.note hc rfl (fun _ => rfl) (fun _ => rfl) (fun _ => rfl)
  | unsubscribe topic success =>
    unfold PahoMqttClient.step unsubscribe
    cases hc : c.client with
    | none => exact h
    | some n => exact h.note hc rfl (fun _ => rfl) (fun _ => rfl) (fun _ => rfl)
  | isConnected answer =>
    unfold PahoMqttClient.step isConnected
    cases hc : c.client with
    | none => exact h
    | some n => exact h.note hc rfl (fun _ => rfl) (fun _ => rfl) (fun _ => rfl)

theorem Rests.run (requests : List Request) (h : Rests c) : Rests (c.run requests) := by
  induction requests generalizing c with
  | nil => exact h
  | cons r requests ih => exact ih (h.step r)

theorem client_close (c : PahoMqttClient) : c.close.1.client = none := by
  unfold close
  cases hc : c.client with
  | none => exact hc
  | some n => rfl

/-- **The destructor leaves nothing.** -/
theorem Rests.delete (h : Rests c) :
    Holds Call.use (∅ : Set Resource) c.delete.calls ∧ Always (fun e h => e.inOrder h = true) c.delete.calls := by
  have hs := releaseWill_sound h.close
  rw [client_close] at hs
  have hset : owned none none = ∅ := by
    ext r
    simp [owned]
  rw [hset] at hs
  exact ⟨hs.holds, hs.order⟩

end PahoMqttClient

open PahoMqttClient

/-- **The life of a client**: whatever is requested of it, in any order and with any answers, until it is deleted, every
call uses only what is held, the library's order is kept, and every handle and text is released once. -/
theorem client_lifecycle (id : String) (requests : List Request) :
    let calls := ((PahoMqttClient.run { id := id } requests).delete).calls
    Disciplined Call.use calls ∧ Always (fun e h => e.inOrder h = true) calls ∧
      ∀ r, calls.countP (releases Call.use r) = calls.countP (acquires Call.use r) ∧ calls.countP (acquires Call.use r) ≤ 1 := by
  obtain ⟨hh, ho⟩ := ((rests_new id).run requests).delete
  exact ⟨hh.disciplined, ho, hh.balanced⟩

end Paho
