import ArchiDeal.Lib.Check
import ArchiDeal.Lib.Framing
import ArchiDeal.Lib.Text

/-!
# MQTT packets

`management_console/synthetic_publish.py`: the packets that the production synthetic sends, and the
frames that it receives.

* `mqttString`, `remainingLength`, `connectPacket`, `publishPacket`: building packets;
* `receiveFrame`: reading a frame from a connection that hands out chunks of any size;
* `frames_round_trip`: every packet that can be built is read back, and nothing after it is
  consumed; the encoding of the remaining length is a prefix code of at most four bytes.

A string is a sequence of Unicode scalar values: `encode` raises for any other Python string, so
that no packet is built from it.
-/

namespace ArchiDeal.Console.Mqtt

open Text Framing

/-! ### Packets -/

def maxMqttRemainingLength : ℕ := 268435455

def maxUint16 : ℕ := 65535

/-- What the functions raise. -/
inductive Raised where
  | valueError (message : String)
  | connectionError (message : String)
  deriving DecidableEq

/-- `struct.pack("!H", n)`. -/
def packUint16 (n : ℕ) : List UInt8 := [UInt8.ofNat (n / 256), UInt8.ofNat (n % 256)]

def mqttString (value : String) : Except Raised (List UInt8) :=
  let encoded := encode value.toList
  if encoded.isEmpty || maxUint16 < encoded.length then
    .error (.valueError "MQTT strings must contain between 1 and 65535 UTF-8 bytes")
  else .ok (packUint16 encoded.length ++ encoded)

def remainingLength (value : ℤ) : Except Raised (List UInt8) :=
  if 0 ≤ value ∧ value ≤ maxMqttRemainingLength then .ok (Framing.encode value.toNat)
  else .error (.valueError "invalid MQTT remaining length")

/-- A packet: its type, the length of its body, its body. -/
def packet (packetType : UInt8) (body : List UInt8) : Except Raised (List UInt8) := do
  let length ← remainingLength body.length
  return [packetType] ++ length ++ body

def connectBody (clientId username password : String) : Except Raised (List UInt8) := do
  let variableHeader := (← mqttString "MQTT") ++ [4, 0xC2] ++ packUint16 30
  let payload := (← mqttString clientId) ++ (← mqttString username) ++ (← mqttString password)
  return variableHeader ++ payload

def connectPacket (clientId username password : String) : Except Raised (List UInt8) := do
  packet 0x10 (← connectBody clientId username password)

def publishBody (topic : String) (payload : List UInt8) (packetId : ℤ) :
    Except Raised (List UInt8) := do
  ensure (!payload.isEmpty) (Raised.valueError "synthetic MQTT payload must not be empty")
  ensure (1 ≤ packetId && packetId ≤ maxUint16)
    (Raised.valueError "MQTT packet identifier must be between 1 and 65535")
  return (← mqttString topic) ++ packUint16 packetId.toNat ++ payload

def publishPacket (topic : String) (payload : List UInt8) (packetId : ℤ) :
    Except Raised (List UInt8) := do
  packet 0x32 (← publishBody topic payload packetId)

/-! ### Frames -/

section Receive

variable (sizes : ℕ → ℕ)

def receiveExact (length : ℕ) (connection : Stream UInt8) :
    Except Raised (List UInt8 × Stream UInt8) :=
  match Framing.receiveExact sizes length connection with
  | some received => .ok received
  | none => .error (.connectionError "MQTT broker closed the TLS connection")

/-- `_receive_exact(connection, 1)[0]`. -/
def receiveByte (connection : Stream UInt8) : Except Raised (UInt8 × Stream UInt8) := do
  let (bytes, connection) ← receiveExact sizes 1 connection
  return (bytes.headD 0, connection)

/-- The loop of `receive_frame`, with the rounds that are left. -/
def receiveLength (rounds multiplier length : ℕ) (connection : Stream UInt8) :
    Except Raised (ℕ × Stream UInt8) :=
  match rounds with
  | 0 => .error (.valueError "malformed MQTT remaining length")
  | rounds + 1 => do
    let (byte, connection) ← receiveByte sizes connection
    let length := length + (byte &&& 0x7F).toNat * multiplier
    if byte &&& 0x80 = 0 then return (length, connection)
    else receiveLength rounds (multiplier * 128) length connection

def receiveFrame (connection : Stream UInt8) :
    Except Raised ((UInt8 × List UInt8) × Stream UInt8) := do
  let (packetType, connection) ← receiveByte sizes connection
  let (length, connection) ← receiveLength sizes 4 1 0 connection
  let (body, connection) ← receiveExact sizes length connection
  return ((packetType, body), connection)

end Receive

/-! ### Reading what was written -/

variable (sizes : ℕ → ℕ)

theorem receiveExact_append (items rest : List UInt8) (reads : ℕ) :
    ∃ reads', receiveExact sizes items.length ⟨items ++ rest, reads⟩ =
      .ok (items, ⟨rest, reads'⟩) := by
  obtain ⟨reads', h⟩ := Framing.receiveExact_append sizes items rest reads
  exact ⟨reads', by rw [receiveExact, h]⟩

theorem receiveByte_cons (byte : UInt8) (rest : List UInt8) (reads : ℕ) :
    ∃ reads', receiveByte sizes ⟨byte :: rest, reads⟩ = .ok (byte, ⟨rest, reads'⟩) := by
  obtain ⟨reads', h⟩ := receiveExact_append sizes [byte] rest reads
  exact ⟨reads', bind_eq_ok.2 ⟨_, h, rfl⟩⟩

/-- The loop reads a number of at most as many groups as it has rounds. -/
theorem receiveLength_encode {rounds n : ℕ} (hrounds : 0 < rounds) (hn : n < 128 ^ rounds)
    (multiplier length : ℕ) (rest : List UInt8) (reads : ℕ) :
    ∃ reads', receiveLength sizes rounds multiplier length ⟨Framing.encode n ++ rest, reads⟩ =
      .ok (length + n * multiplier, ⟨rest, reads'⟩) := by
  -- a round takes one group; the multiplier of the next one is 128 times as large
  induction rounds generalizing n multiplier length reads with
  | zero => omega
  | succ rounds ih =>
    by_cases hlast : n < 128
    · obtain ⟨hbits, hhigh⟩ := last_group hlast
      obtain ⟨reads', h⟩ := receiveByte_cons sizes (UInt8.ofNat n) rest reads
      refine ⟨reads', ?_⟩
      rw [encode_of_lt hlast, receiveLength]
      refine bind_eq_ok.2 ⟨_, h, ?_⟩
      simp only [hbits, hhigh, if_true]
      rfl
    · have hmod : n % 128 < 128 := Nat.mod_lt n (by decide)
      obtain ⟨hbits, hhigh⟩ := inner_group hmod
      have hrounds' : 0 < rounds := by
        by_contra hzero
        obtain rfl : rounds = 0 := by omega
        exact hlast (by simpa using hn)
      have hdiv : n / 128 < 128 ^ rounds := by
        rw [Nat.div_lt_iff_lt_mul (by decide), ← pow_succ]
        exact hn
      obtain ⟨reads₁, h₁⟩ := receiveByte_cons sizes (UInt8.ofNat (n % 128 ||| 0x80))
        (Framing.encode (n / 128) ++ rest) reads
      obtain ⟨reads₂, h₂⟩ := ih hrounds' hdiv (multiplier * 128) (length + n % 128 * multiplier)
        reads₁
      refine ⟨reads₂, ?_⟩
      rw [encode_of_le (by omega), receiveLength]
      refine bind_eq_ok.2 ⟨_, h₁, ?_⟩
      simp only [hbits, hhigh, if_false]
      rw [h₂]
      have hsum : length + n % 128 * multiplier + n / 128 * (multiplier * 128) =
          length + n * multiplier := by
        conv_rhs => rw [← Nat.div_add_mod n 128]
        ring
      rw [hsum]

theorem receiveFrame_packet {packetType : UInt8} {body bytes : List UInt8}
    (h : packet packetType body = .ok bytes) (rest : List UInt8) (reads : ℕ) :
    ∃ reads', receiveFrame sizes ⟨bytes ++ rest, reads⟩ =
      .ok ((packetType, body), ⟨rest, reads'⟩) := by
  obtain ⟨length, hlength, hbytes⟩ := bind_eq_ok.1 h
  cases hbytes
  unfold remainingLength at hlength
  split_ifs at hlength with hbound
  cases hlength
  have hbody : body.length < 128 ^ 4 := by
    simp only [maxMqttRemainingLength] at hbound
    omega
  obtain ⟨reads₁, h₁⟩ := receiveByte_cons sizes packetType
    (Framing.encode body.length ++ (body ++ rest)) reads
  obtain ⟨reads₂, h₂⟩ := receiveLength_encode sizes (show 0 < 4 by decide) hbody 1 0
    (body ++ rest) reads₁
  obtain ⟨reads₃, h₃⟩ := receiveExact_append sizes body rest reads₂
  refine ⟨reads₃, bind_eq_ok.2 ⟨(packetType, _), ?_, bind_eq_ok.2 ⟨_, h₂,
    bind_eq_ok.2 ⟨(body, _), ?_, rfl⟩⟩⟩⟩
  · simpa using h₁
  · simpa using h₃

/-- The packets that can be built, with their types and bodies. -/
inductive Built : UInt8 → List UInt8 → List UInt8 → Prop
  | connect {clientId username password : String} {body bytes : List UInt8}
      (hbody : connectBody clientId username password = .ok body)
      (hpacket : connectPacket clientId username password = .ok bytes) : Built 0x10 body bytes
  | publish {topic : String} {payload : List UInt8} {packetId : ℤ} {body bytes : List UInt8}
      (hbody : publishBody topic payload packetId = .ok body)
      (hpacket : publishPacket topic payload packetId = .ok bytes) : Built 0x32 body bytes

theorem Built.packet {packetType : UInt8} {body bytes : List UInt8}
    (h : Built packetType body bytes) : packet packetType body = .ok bytes := by
  cases h with
  | connect hbody hpacket | publish hbody hpacket =>
    obtain ⟨body', hbody', h⟩ := bind_eq_ok.1 hpacket
    cases hbody.symm.trans hbody'
    exact h

theorem remainingLength_eq_ok {value : ℤ} {bytes : List UInt8} :
    remainingLength value = .ok bytes ↔ (0 ≤ value ∧ value ≤ maxMqttRemainingLength) ∧
      bytes = Framing.encode value.toNat := by
  unfold remainingLength
  split_ifs with hbound
  · simp [hbound, eq_comm]
  · simp [hbound]

/-- **MQTT framing round-trips.** -/
theorem frames_round_trip :
    (∀ packetType body bytes, Built packetType body bytes → ∀ (sizes : ℕ → ℕ) rest reads,
      ∃ reads', receiveFrame sizes ⟨bytes ++ rest, reads⟩ =
        .ok ((packetType, body), ⟨rest, reads'⟩)) ∧
    (∀ value : ℤ, 0 ≤ value → value ≤ 268435455 →
      ∃ bytes, remainingLength value = .ok bytes ∧ bytes.length ≤ 4) ∧
    ∀ (m n : ℤ) (a b : List UInt8), remainingLength m = .ok a → remainingLength n = .ok b →
      a <+: b → m = n ∧ a = b := by
  refine ⟨?_, ?_, ?_⟩
  · intro packetType body bytes h sizes rest reads
    exact receiveFrame_packet sizes h.packet rest reads
  · intro value hle hmax
    refine ⟨_, remainingLength_eq_ok.2 ⟨⟨hle, hmax⟩, rfl⟩, length_encode_le (by decide) ?_⟩
    omega
  · intro m n a b ha hb hprefix
    obtain ⟨⟨hm, -⟩, rfl⟩ := remainingLength_eq_ok.1 ha
    obtain ⟨⟨hn, -⟩, rfl⟩ := remainingLength_eq_ok.1 hb
    obtain ⟨rest, hrest⟩ := hprefix
    rw [← List.append_nil (Framing.encode n.toNat)] at hrest
    obtain ⟨heq, -⟩ := encode_append_inj hrest
    exact ⟨by omega, by rw [heq]⟩

theorem frames_round_trip_connect : ∃ body bytes, Built 0x10 body bytes ∧
    ∃ reads', receiveFrame (fun _ => 1) ⟨bytes ++ [0x20], 0⟩ =
      .ok ((0x10, body), ⟨[0x20], reads'⟩) := by
  have hbody : connectBody "c" "u" "p" = .ok ([0, 4, 77, 81, 84, 84, 4, 0xC2, 0, 30] ++
      [0, 1, 99, 0, 1, 117, 0, 1, 112]) := by decide
  have hbuilt : Built 0x10 _ _ := .connect hbody (bind_eq_ok.2 ⟨_, hbody, rfl⟩)
  exact ⟨_, _, hbuilt, frames_round_trip.1 _ _ _ hbuilt (fun _ => 1) [0x20] 0⟩

end ArchiDeal.Console.Mqtt
