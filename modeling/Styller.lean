import Styller.Money.RemoveExact
import Styller.Trade.Safety
import Styller.World.MoveAtomic
import Styller.Script.Isolation
import Styller.Event.Chains
import Styller.House.Framing
import Styller.Network.Reads
import Styller.Party.Membership
import Styller.Party.Channels
import Styller.World.ContainerRuns
import Styller.World.CapacityRuns
import Styller.Map.WalkAgrees
import Styller.Network.View
import Styller.Network.KnownCreatures
import Styller.Network.WaitList
import Styller.Otb.Loader
import Styller.Database.AccountStorage
import Styller.House.Rent
import Styller.Player.Experience
import Styller.Player.EquipmentLedger
import Styller.Database.PlayerSave
import Styller.Map.PathStraight
import Styller.Condition.Defense
import Styller.Tile.OwnTile
import Styller.Database.Batching
import Styller.Condition.Light
import Styller.Player.ManaSpent
import Styller.Player.SkillTries
import Styller.Player.RemoveItemOfType
import Styller.House.AccessList
import Styller.Player.Depots
import Styller.Combat.BlockedHits
import Styller.Player.SaleList
import Styller.Tile.StackPositions
import Styller.World.TeleportChain
import Styller.Event.RaidRuns
import Styller.Monster.SpawnRuns
import Styller.House.Beds
import Styller.Monster.TargetRuns
import Styller.Network.Ban
import Styller.Player.WildcardSearch
import Styller.Combat.MatrixArea
import Styller.Tools.Adler
import Styller.Tools.Token
import Styller.Player.PrivateChannels
import Styller.Item.AttributeStore
import Styller.Trade.OfflineReturns
import Styller.Script.EventCallback
import Styller.Combat.TargetCombat
import Styller.Script.AccountManager
import Styller.Npc.TaskTrader
import Styller.Event.Duca
import Styller.Player.Autoloot
import Styller.Npc.Gambler
import Styller.Guild.War
import Styller.Npc.HuntingTask
import Styller.Item.ContainerIterator
import Styller.Monster.Summons
import Styller.Network.PacketStream
import Styller.Network.WriteQueue
