import Tinygame.Base.Obj
import Tinygame.Base.Rounding
import Tinygame.Base.Remainder
import Tinygame.Base.Run
import Tinygame.Base.Keyed
import Tinygame.Net.Broker
import Tinygame.Net.Delivery
import Tinygame.Net.BrokerLoad
import Tinygame.Net.Session
import Tinygame.Net.Sessions
import Tinygame.Net.SessionLives
import Tinygame.Net.Callback
import Tinygame.Pvp.Bracket
import Tinygame.Dataprocess.Agent
import Tinygame.Pvp.EnrollRuns
import Tinygame.Pvp.PowerRuns
import Tinygame.Dataprocess.StoreKeys
import Tinygame.Pvp.DayFight
import Tinygame.Pvp.DayRanking
import Tinygame.Dataprocess.Codecs
import Tinygame.Dataprocess.Confinement
import Tinygame.Bag.Award
import Tinygame.Bag.Capacity
import Tinygame.Bag.Equips
import Tinygame.Bag.Worn
import Tinygame.Bag.WornOnce
import Tinygame.Mail.Attach
import Tinygame.Mail.GlobalMail
import Tinygame.Player.Currency
import Tinygame.Player.CurrencyRange
import Tinygame.Pvp.SngAccounts
import Tinygame.Conn.OneLive
import Tinygame.Conn.LoadNums
import Tinygame.Fight.CastBound
import Tinygame.Fight.StatusFaults
import Tinygame.Fight.Creation
import Tinygame.Fight.SearchFaults
import Tinygame.Fight.SkillFaults
import Tinygame.Fight.Faultless
import Tinygame.Fight.StatusMarks
import Tinygame.Fight.LifeRun
import Tinygame.Fight.Targets
import Tinygame.Fight.Expiry
import Tinygame.Luanode.Values
import Tinygame.Luanode.Bridge
import Tinygame.Luanode.Stack
import Tinygame.Map.WorldMap
import Tinygame.Map.Building
import Tinygame.Map.MapImp
import Tinygame.Map.Areas
import Tinygame.Map.Clicks
import Tinygame.Map.OpenNodes
import Tinygame.Map.Buildings
import Tinygame.Map.Exploration
import Tinygame.Map.Progress
import Tinygame.Map.Timers
import Tinygame.Map.Preconditions
import Tinygame.Map.Walking
import Tinygame.Client.Communicator
import Tinygame.Client.Replies
import Tinygame.Player.Derived
import Tinygame.Pvp.DayReward
import Tinygame.Player.Payment
import Tinygame.Bag.Amounts
import Tinygame.Bag.Compose
import Tinygame.Bag.Selling
import Tinygame.Bag.Splitting
import Tinygame.Bag.Melting
import Tinygame.Bag.EquipIndex
import Tinygame.Bag.ItemLaws
import Tinygame.Robot.Robot
import Tinygame.Robot.Sharing
import Tinygame.Pvp.SngMatch
import Tinygame.Pvp.SngOpponents
import Tinygame.Pvp.FinalOrder
import Tinygame.Mail.Delivery
import Tinygame.Client.Offline
import Tinygame.Fight.ServerFight
import Tinygame.Dataprocess.Saving
import Tinygame.Fight.PairsOrder
import Tinygame.Fight.Combos
import Tinygame.Fight.RandomNumbers
import Tinygame.Base.Loop
import Tinygame.Hero.Experience
import Tinygame.Hero.Summons
import Tinygame.Player.Drops
import Tinygame.Hero.Wash
import Tinygame.Hero.Lineup
import Tinygame.Hero.Shop
import Tinygame.Hero.Offers
import Tinygame.Player.StoredCurrency
import Tinygame.Player.Undo
import Tinygame.Player.AfkTime
import Tinygame.Player.AfkExperience
import Tinygame.Net.Websocket
import Tinygame.Fight.SkillSlot
import Tinygame.Fight.WearsOut
import Tinygame.Base.Lifetime
import Tinygame.Base.LimitKeys
import Tinygame.Dataprocess.Recency
import Tinygame.Hero.Upgrades
import Tinygame.Hero.Suit
import Tinygame.Client.Experience
import Tinygame.Client.Rewards
import Tinygame.Client.Storage
import Tinygame.Client.BagRefinement
import Tinygame.Client.Equip
import Tinygame.Net.Heartbeats
import Tinygame.Net.Requests
import Tinygame.Net.Rpc
import Tinygame.Conn.Gate
import Tinygame.Net.BrokerBalance
import Tinygame.Fight.Verdict
import Tinygame.Conn.Delivery
import Tinygame.Client.Wire
