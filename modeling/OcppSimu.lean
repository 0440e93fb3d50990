import OcppSimu.Hist
import OcppSimu.Script
import OcppSimu.Meter
import OcppSimu.Loop
import OcppSimu.Rules
import OcppSimu.Session
import OcppSimu.Authorize
import OcppSimu.Mailbox
import OcppSimu.StopRequest
import OcppSimu.RemoteStart
import OcppSimu.StartRequest
import OcppSimu.Availability
import OcppSimu.Setpoints
import OcppSimu.Consumption
import OcppSimu.Energy
import OcppSimu.Stability
import OcppSimu.Fault
import OcppSimu.Status
import OcppSimu.Launcher
import OcppSimu.Removal
import OcppSimu.Instances
import OcppSimu.Certificates
import OcppSimu.KeyPairs
import OcppSimu.Store
import OcppSimu.Deletion
import OcppSimu.Trust
import OcppSimu.Publications
import OcppSimu.Restart
import OcppSimu.Shell
import OcppSimu.CommandLine
import OcppSimu.Curtailment
import OcppSimu.Inoperative
import OcppSimu.StopCauses
import OcppSimu.WholeChargePoint
import OcppSimu.Fates
import OcppSimu.Window
import OcppSimu.Access
import OcppSimu.Handlers
import OcppSimu.Registry
import OcppSimu.Shutdown
import OcppSimu.Accuracy
import OcppSimu.Installing
import OcppSimu.Limit
import OcppSimu.Roster
import OcppSimu.Sampling
import OcppSimu.Independence
import OcppSimu.CarMessage
import OcppSimu.Arrival
import OcppSimu.Withdrawal
import OcppSimu.Arguments
import OcppSimu.Configuration
import OcppSimu.Secrecy
import OcppSimu.Diagram
import OcppSimu.Fleet
import OcppSimu.Lifecycle
import OcppSimu.MqttClient
import OcppSimu.Ledger
import OcppSimu.Billing
import OcppSimu.Presence
import OcppSimu.Recovery
import OcppSimu.Words
import OcppSimu.Transfers
import OcppSimu.Screen
import OcppSimu.Joining
import OcppSimu.Service
import OcppSimu.Permanence
import OcppSimu.Startup
