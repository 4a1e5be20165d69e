import Xcache.Basic
import Xcache.GoFloat
import Xcache.Cache
import Xcache.Multi
import Xcache.Multi.Calls
import Xcache.Multi.Coherence
import Xcache.Redis.Info
import Xcache.Redis.ClusterStats
import Xcache.Freecache
import Xcache.Memory
import Xcache.Memory.Xconf
import Xcache.Multi.Sim
import Xcache.Multi.MemoryTiers
import Xcache.Reload
import Xcache.Memory.Reload
import Xcache.Memory.Run
import Xcache.Redis.Reload
import Xcache.Redis.Config
import Xcache.Redis.Cache
import Xcache.Multi.MixedTiers
import Xcache.Multi.ReadRepair
import Xcache.StatsWatcher
import Xcache.StatsString
