import Esp32Iot.Lib.Search
import Esp32Iot.Lib.Runs
import Esp32Iot.Lib.Feed
import Esp32Iot.Lib.Source
import Esp32Iot.Lib.Parse
import Esp32Iot.Lib.Halting
import Esp32Iot.Lib.Cells
import Esp32Iot.Lib.Trunc
import Esp32Iot.Lib.Scan
import Esp32Iot.CString
import Esp32Iot.Http.Route
import Esp32Iot.Http.Form
import Esp32Iot.Http.Arrays
import Esp32Iot.Storage.Nvs
import Esp32Iot.Storage.Settings
import Esp32Iot.Storage.Records
import Esp32Iot.Mqtt.Packet
import Esp32Iot.Mqtt.Decode
import Esp32Iot.Network.Read
import Esp32Iot.Network.Reset
import Esp32Iot.Network.Stale
import Esp32Iot.Mqtt.Connect
import Esp32Iot.Cayenne
import Esp32Iot.Storage.Replacement
import Esp32Iot.Wifi.Event
import Esp32Iot.Wifi.Configure
import Esp32Iot.Boot
import Esp32Iot.Http.Serve
import Esp32Iot.Http.Release
import Esp32Iot.Http.Isolation
import Esp32Iot.Http.StoredAccount
import Esp32Iot.Wifi.Race
import Esp32Iot.Bluetooth.Scan
import Esp32Iot.Bluetooth.Discovery
import Esp32Iot.Bluetooth.Notify
import Esp32Iot.Bluetooth.Sensor
import Esp32Iot.Bluetooth.Value
import Esp32Iot.Network.Socket
import Esp32Iot.Wifi.Publisher
import Esp32Iot.CFormat
import Esp32Iot.CNumber
import Esp32Iot.Cayenne.Topic
import Esp32Iot.Cayenne.Suffix
import Esp32Iot.Cayenne.ParseTopic
import Esp32Iot.Cayenne.Grammar
import Esp32Iot.Cayenne.Lookahead
import Esp32Iot.Cayenne.Payload
import Esp32Iot.Cayenne.ParsePayload
import Esp32Iot.Cayenne.ValueCount
import Esp32Iot.Cayenne.Arrived
import Esp32Iot.Cayenne.DataArray
import Esp32Iot.Mqtt.Publish
import Esp32Iot.Mqtt.Send
import Esp32Iot.Cayenne.Publish
import Esp32Iot.Cayenne.Room
import Esp32Iot.Cayenne.Subscribe
import Esp32Iot.Cayenne.Task
import Esp32Iot.Bluetooth.History
import Esp32Iot.Bluetooth.Attribution
import Esp32Iot.Mqtt.Receive
import Esp32Iot.Cayenne.Levels
import Esp32Iot.Mqtt.Length
import Esp32Iot.Mqtt.Requests
import Esp32Iot.Mqtt.RoundTrip
import Esp32Iot.Mqtt.Ack
import Esp32Iot.Mqtt.Malformed
import Esp32Iot.Mqtt.Session
import Esp32Iot.Mqtt.Timer
import Esp32Iot.Mqtt.Keepalive
import Esp32Iot.Mqtt.Protocol
import Esp32Iot.Mqtt.Answers
import Esp32Iot.Mqtt.Matching
import Esp32Iot.Mqtt.Nested
import Esp32Iot.Mqtt.Framing
import Esp32Iot.Mqtt.NonBlocking
import Esp32Iot.Mqtt.Checked
import Esp32Iot.Mqtt.Wire
import Esp32Iot.Cayenne.Outgoing
import Esp32Iot.Cayenne.Telemetry
import Esp32Iot.Cayenne.Relay
import Esp32Iot.Cayenne.Responses
