import Guildkeep.House
import Guildkeep.Main
import Guildkeep.Proofs.Bus.Reception
import Guildkeep.Proofs.Engine.Lifecycle
import Guildkeep.Proofs.Engine.Reconstruction
import Guildkeep.Proofs.Engine.Rejection
import Guildkeep.Proofs.Event.RoundTrip
import Guildkeep.Proofs.Event.Vocabulary
import Guildkeep.Proofs.Game.Combat
import Guildkeep.Proofs.Game.Damage
import Guildkeep.Proofs.Game.Inventory
import Guildkeep.Proofs.Game.Levels
import Guildkeep.Proofs.Game.Points
import Guildkeep.Proofs.House.Autosave
import Guildkeep.Proofs.Save.Atomicity
import Guildkeep.Proofs.Save.Attendance
import Guildkeep.Proofs.Save.Channels
import Guildkeep.Proofs.Save.EventLog
import Guildkeep.Proofs.Save.Health
import Guildkeep.Proofs.Save.Ordering
import Guildkeep.Proofs.Save.Payload
import Guildkeep.Proofs.Save.Persistence
import Guildkeep.Proofs.Save.Protection
import Guildkeep.Proofs.Save.Reference
import Guildkeep.Proofs.Save.Removal
import Guildkeep.Proofs.Save.Rereading
import Guildkeep.Proofs.Save.Session
import Guildkeep.Proofs.Settings.Reading
import Guildkeep.Proofs.Store.Confinement
import Guildkeep.Proofs.Store.Footprint
import Guildkeep.Proofs.Tool.Frame
import Guildkeep.Proofs.Tool.Size
