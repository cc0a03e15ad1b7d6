import Envisilab.Basic
import Envisilab.Subscriber
import Envisilab.Subscriber.WellFormed
import Envisilab.Topology
import Envisilab.Topology.Interleaving
import Envisilab.Subscription
import Envisilab.Session
import Envisilab.Broadcast
import Envisilab.Wire
import Envisilab.Message
import Envisilab.Memory
import Envisilab.Endpoint
import Envisilab.Connection
import Envisilab.Handler
