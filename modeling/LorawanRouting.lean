import LorawanRouting.Application.Applications
import LorawanRouting.Config.Load
import LorawanRouting.Device.Devices
import LorawanRouting.Network.Basic
import LorawanRouting.Network.Frames
import LorawanRouting.Stream.Consumers
import LorawanRouting.Proofs.Identifier
import LorawanRouting.Proofs.IdentifierTexts
import LorawanRouting.Proofs.Readers
import LorawanRouting.Proofs.TomlStrings
import LorawanRouting.Proofs.TomlLines
import LorawanRouting.Proofs.ConfigFile
import LorawanRouting.Proofs.ConfigSettings
import LorawanRouting.Proofs.ConfigResolution
import LorawanRouting.Proofs.Rfc3339
import LorawanRouting.Proofs.Json
import LorawanRouting.Proofs.OrderedMaps
import LorawanRouting.Proofs.DeviceFields
import LorawanRouting.Proofs.FieldMaps
import LorawanRouting.Proofs.FieldDecoding
import LorawanRouting.Proofs.DeviceCalls
import LorawanRouting.Proofs.MemoryStore
import LorawanRouting.Proofs.DeviceHistory
import LorawanRouting.Proofs.Contents
import LorawanRouting.Proofs.DeviceIndex
import LorawanRouting.Proofs.RecordStore
import LorawanRouting.Proofs.StoreParity
import LorawanRouting.Proofs.StoreFaults
import LorawanRouting.Proofs.Race
import LorawanRouting.Proofs.StoredDevices
import LorawanRouting.Proofs.Runs
import LorawanRouting.Proofs.BackendCalls
import LorawanRouting.Proofs.StreamHistory
import LorawanRouting.Proofs.Connections
import LorawanRouting.Proofs.FirstWindow
import LorawanRouting.Proofs.Offers
import LorawanRouting.Proofs.Downlinks
import LorawanRouting.Proofs.Requests
import LorawanRouting.Proofs.Activation
import LorawanRouting.Proofs.AddressRange
import LorawanRouting.Proofs.Directory
import LorawanRouting.Proofs.Uplinks
import LorawanRouting.Proofs.RaceSchedules
import LorawanRouting.Proofs.RouterCalls
import LorawanRouting.Proofs.ConnectionHistory
import LorawanRouting.Proofs.Traffic
import LorawanRouting.Proofs.Refusals
import LorawanRouting.Proofs.IndexRecovery
import LorawanRouting.Proofs.TidyBackends
import LorawanRouting.Proofs.ApplicationStores
import LorawanRouting.Proofs.ApplicationCalls
import LorawanRouting.Proofs.SharedBackend
import LorawanRouting.Proofs.BrokerRuns
import LorawanRouting.Proofs.Servers
import LorawanRouting.Proofs.NetworkRuns
import LorawanRouting.Proofs.JoinThenUplink
import LorawanRouting.Proofs.Batches
import LorawanRouting.Proofs.RewrittenTexts
import LorawanRouting.Proofs.RecordTexts
import LorawanRouting.Proofs.DamagedRecords
import LorawanRouting.Proofs.FieldCopies
import LorawanRouting.Proofs.ServerRuns
import LorawanRouting.Proofs.GrantedAddresses
import LorawanRouting.Proofs.CountedFrames
