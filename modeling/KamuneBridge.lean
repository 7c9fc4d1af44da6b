import KamuneBridge.Json
import KamuneBridge.JsonRead
import KamuneBridge.Wire
import KamuneBridge.Binary
import KamuneBridge.Reader
import KamuneBridge.Bridge
import KamuneBridge.System
import KamuneBridge.Invariant
import KamuneBridge.PendingTable
import KamuneBridge.ReaderThread
import KamuneBridge.Calls
import KamuneBridge.Requests
import KamuneBridge.Forwarding
import KamuneBridge.Delivery
import KamuneBridge.Progress
