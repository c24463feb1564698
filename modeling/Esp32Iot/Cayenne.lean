import Esp32Iot.Mqtt.Connect

/-!
# Connecting to Cayenne

`CayenneInit` and `connectClient` (`Cayenne/esp32iot_cayenne.c`) with the parts of
`CayenneMQTTClient.c` and `MQTTClient.c` below them. The network and the broker are the environment:
whether `NetworkConnect` and `sendPacket` succeed and what `CONNACK` comes back are an argument
(`Broker`), and results hold for all of them.

The return code of `connectClient` goes to an `err_t` of eight bits. The codes of the network are
smaller than 256 in absolute value, and so is the code of a `CONNACK`, so none of them becomes
`CAYENNE_SUCCESS` there.
-/

namespace Esp32Iot

/-- `CAYENNE_MAX_MESSAGE_SIZE`, the size of the send buffer. -/
def cayenneMaxMessageSize : Nat := 134

/-- How the network and the broker answer one attempt to connect. -/
structure Broker where
  /-- the return code of `NetworkConnect`, 0 for success -/
  networkConnect : Int
  /-- `sendPacket` succeeds -/
  sendPacket : Bool
  /-- the code of the `CONNACK` that comes in time and can be decoded -/
  connack : Option UInt8
  deriving DecidableEq

/-- What of `CayenneMQTTClient` decides about a connection. -/
structure CayenneMqttClient where
  username : CStr
  password : CStr
  clientID : CStr
  isconnected : Bool
  deriving DecidableEq

/-- `CayenneInit`: the client starts over. -/
def cayenneInit (username password clientID : CStr) : CayenneMqttClient where
  username := username
  password := password
  clientID := clientID
  isconnected := false

theorem cayenneInit_isconnected (username password clientID : CStr) :
    (cayenneInit username password clientID).isconnected = false := rfl

/-- `CAYENNE_SUCCESS` and `MQTT_SUCCESS`. -/
def cayenneSuccess : Int := 0

/-- `MQTT_FAILURE`. -/
def mqttFailure : Int := -1

/-- `MQTTConnect`: its return code and the client after it. A client that is connected already is
not connected again, and that is a failure. -/
def mqttConnect (client : CayenneMqttClient) (options : MqttConnectData) (broker : Broker) :
    Int × CayenneMqttClient :=
  if client.isconnected then (mqttFailure, client)
  else
    match mqttSerializeConnect cayenneMaxMessageSize options with
    | .error _ => (mqttFailure, client)
    | .ok packet =>
        if packet.length = 0 then (mqttFailure, client)
        else if !broker.sendPacket then (mqttFailure, client)
        else
          match broker.connack with
          | none => (mqttFailure, client)
          | some code => (code.toNat, { client with isconnected := code = 0 })

/-- The options of `CayenneMQTTConnect`. -/
def cayenneConnectData (client : CayenneMqttClient) : MqttConnectData :=
  { MqttConnectData.initializer with
    mqttVersion := 3
    clientID := .ofCString client.clientID
    username := .ofCString client.username
    password := .ofCString client.password }

/-- `CayenneMQTTConnect`. -/
def cayenneMqttConnect (client : CayenneMqttClient) (broker : Broker) : Int × CayenneMqttClient :=
  mqttConnect client (cayenneConnectData client) broker

/-- `connectClient`. The device information it publishes at the end does not change its result. -/
def connectClient (client : CayenneMqttClient) (broker : Broker) : Int × CayenneMqttClient :=
  if broker.networkConnect ≠ 0 then (broker.networkConnect, client)
  else if (cayenneMqttConnect client broker).1 ≠ cayenneSuccess then
    cayenneMqttConnect client broker
  else (cayenneSuccess, (cayenneMqttConnect client broker).2)

/-! ## When a connection succeeds -/

/-- The broker accepts whatever reaches it. -/
def Broker.Accepts (broker : Broker) : Prop :=
  broker.networkConnect = 0 ∧ broker.sendPacket = true ∧ broker.connack = some 0

instance (broker : Broker) : Decidable broker.Accepts := inferInstanceAs (Decidable (_ ∧ _ ∧ _))

/-- The credentials fit the connect packet: 113 bytes are left to them. -/
def FitsPacket (username password clientID : CStr) : Prop :=
  username.length + password.length + clientID.length ≤ 113

instance (username password clientID : CStr) : Decidable (FitsPacket username password clientID) :=
  inferInstanceAs (Decidable (_ ≤ _))

theorem cayenneConnectData_length (client : CayenneMqttClient) :
    mqttSerializeConnectLength (cayenneConnectData client) =
      18 + (client.username.length + client.password.length + client.clientID.length) := by
  simp only [mqttSerializeConnectLength, cayenneConnectData, mqttStrlen_ofCString, given_ofCString,
    MqttConnectData.initializer]
  simp only [if_true, Bool.false_eq_true, if_false]
  omega

theorem fitsPacket_iff (client : CayenneMqttClient) :
    mqttPacketLen (mqttSerializeConnectLength (cayenneConnectData client)) ≤ cayenneMaxMessageSize ↔
      FitsPacket client.username client.password client.clientID := by
  rw [cayenneMaxMessageSize, mqttPacketLen_le_iff, cayenneConnectData_length, FitsPacket]
  omega

theorem cayenneMqttConnect_success_iff {client : CayenneMqttClient}
    (hc : client.isconnected = false) (broker : Broker) :
    (cayenneMqttConnect client broker).1 = cayenneSuccess ↔
      broker.sendPacket = true ∧ broker.connack = some 0 ∧
        FitsPacket client.username client.password client.clientID := by
  rw [← fitsPacket_iff, cayenneMqttConnect, mqttConnect, hc, cayenneSuccess]
  rcases mqttSerializeConnect_cases cayenneMaxMessageSize (cayenneConnectData client) with
    ⟨hlong, hser⟩ | ⟨hfits, packet, hser, hne⟩
  · simp [hser, mqttFailure, Nat.not_le.2 hlong]
  · cases hsend : broker.sendPacket with
    | false => simp [hser, hne, mqttFailure]
    | true =>
        cases hack : broker.connack with
        | none => simp [hser, hne, mqttFailure]
        | some code =>
            have hzero : code.toNat = 0 ↔ code = 0 := by
              rw [← UInt8.toNat_inj]; rfl
            simp [hser, hne, hfits, hzero]

/-- **A connection succeeds** exactly when the credentials fit the packet and the broker accepts
them. -/
theorem connectClient_success_iff (username password clientID : CStr) (broker : Broker) :
    (connectClient (cayenneInit username password clientID) broker).1 = cayenneSuccess ↔
      broker.Accepts ∧ FitsPacket username password clientID := by
  have hmqtt := cayenneMqttConnect_success_iff (cayenneInit_isconnected username password clientID)
    broker
  by_cases hnet : broker.networkConnect = 0
  · have hcode : (connectClient (cayenneInit username password clientID) broker).1 =
        (cayenneMqttConnect (cayenneInit username password clientID) broker).1 := by
      rw [connectClient, if_neg (not_not.2 hnet)]
      split
      · rfl
      · next h => exact (not_not.1 h).symm
    rw [hcode, hmqtt, Broker.Accepts]
    simp only [hnet, true_and, and_assoc]
    rfl
  · have hcode : (connectClient (cayenneInit username password clientID) broker).1 ≠ 0 := by
      rw [connectClient, if_pos hnet]
      exact hnet
    exact iff_of_false hcode fun h => hnet h.1.1

end Esp32Iot
