import MqttLink.Inbox
import MqttLink.Main
import MqttLink.Rehearsal.Folder
import MqttLink.Rehearsal.Offline
import MqttLink.Rehearsal.Solo
import MqttLink.Rehearsal.Stage
import MqttLink.Session.Summary
import MqttLink.Text.Lossy
import MqttLink.Proofs.Runs
import MqttLink.Proofs.Steps
import MqttLink.Proofs.Coherence
import MqttLink.Proofs.Outage
import MqttLink.Proofs.Ownership
import MqttLink.Proofs.TearDown
import MqttLink.Proofs.Queueing
import MqttLink.Proofs.Framing
import MqttLink.Proofs.Input
import MqttLink.Proofs.Traffic
import MqttLink.Proofs.NewClients
import MqttLink.Proofs.Willing
import MqttLink.Proofs.Replies
import MqttLink.Proofs.Restoration
import MqttLink.Proofs.Bursts
import MqttLink.Proofs.Decoding
import MqttLink.Proofs.ReadBack
import MqttLink.Proofs.Exchanges
import MqttLink.Proofs.Delivery
import MqttLink.Proofs.Faults
import MqttLink.Proofs.Tracking
import MqttLink.Proofs.Intake
import MqttLink.Proofs.Redelivery
import MqttLink.Proofs.KeepAlive
import MqttLink.Proofs.Parting
import MqttLink.Proofs.Discipline
import MqttLink.Proofs.Speech
import MqttLink.Proofs.Waits
import MqttLink.Proofs.Handshakes
import MqttLink.Proofs.Conversations
import MqttLink.Proofs.Spared
import MqttLink.Proofs.Dials
import MqttLink.Proofs.OneStream
import MqttLink.Proofs.Connecting
import MqttLink.Proofs.Subscriptions
import MqttLink.Proofs.Publication
import MqttLink.Proofs.Effects
import MqttLink.Proofs.Fidelity
import MqttLink.Proofs.Timing
import MqttLink.Proofs.Promptness
import MqttLink.Proofs.Delays
import MqttLink.Proofs.Punctuality
import MqttLink.Proofs.Timetable
import MqttLink.Proofs.Requests
import MqttLink.Proofs.Precedence
import MqttLink.Proofs.Refusals
import MqttLink.Proofs.Boundaries
import MqttLink.Proofs.Bounds
import MqttLink.Proofs.Quotations
import MqttLink.Proofs.Numerals
import MqttLink.Proofs.Documents
import MqttLink.Proofs.Sections
import MqttLink.Proofs.Fields
import MqttLink.Proofs.RoundTrip
