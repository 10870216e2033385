import P2pstream.StreamCapacityWakeup
import P2pstream.StreamCapacityFairness
import P2pstream.StreamCapacityHeadroom
import P2pstream.PathConfinement
import P2pstream.AgentUpdateRetention
import P2pstream.AgentUpdateRecovery
import P2pstream.SignedPayloads
import P2pstream.UpdaterRetention
import P2pstream.UpdaterFloor
import P2pstream.UpdaterRollbackCrashes
import P2pstream.UpdaterCommands
import P2pstream.LaneReservations
import P2pstream.LaneReplacement
import P2pstream.DestinationConfinement
import P2pstream.IdentityHeaders
import P2pstream.AgentUpdateCohorts
import P2pstream.AgentDrain
import P2pstream.SlidingWindow
import P2pstream.RateLimitKeys
import P2pstream.TrafficShaperBound
import P2pstream.AgentCapacityHeadroom
import P2pstream.AgentUpdateReplay
import P2pstream.SiteIsolation
import P2pstream.SiteAuthority
import P2pstream.CacheLifetime
import P2pstream.WafHysteresis
import P2pstream.SmoothRoundRobin
import P2pstream.ForwardedLayout
import P2pstream.ScavengeHandoff
import P2pstream.ShapedWrites
import P2pstream.ReceiveWindowGrowth
import P2pstream.LaneRetirement
