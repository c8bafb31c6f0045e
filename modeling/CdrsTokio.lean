import CdrsTokio.Types.Wire
import CdrsTokio.Types.StringMap
import CdrsTokio.Frame.Startup
import CdrsTokio.Frame.StartupEncode
import CdrsTokio.Frame.StartupDecode
import CdrsTokio.Frame.StartupRead
import CdrsTokio.Cluster.Prog
import CdrsTokio.Cluster.Session
import CdrsTokio.Cluster.Concurrent
import CdrsTokio.Cluster.LoadBalancing
import CdrsTokio.Cluster.Dispatch
