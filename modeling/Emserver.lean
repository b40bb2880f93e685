import Emserver.BufferProcessor.Bounds
import Emserver.BaseProtocol.RoundTrip
import Emserver.BaseProtocol.Stability
import Emserver.BaseProtocol.Corruption
import Emserver.BufferProcessor.Accounting
import Emserver.BufferProcessor.Resynchronization
import Emserver.CommonProcessor.Delivery
import Emserver.CommonProcessor.Layers
import Emserver.CommonProcessor.Linearization
import Emserver.CommonProcessor.Shutdown
import Emserver.EmserverProcessor.Dispatch
import Emserver.Requests
import Emserver.Requests.SensorLists
import Emserver.Requests.Ids
import Emserver.CServer.NativeSensors
import Emserver.CServer.Fidelity
import Emserver.CServer.Results
import Emserver.DataConverter.Configurations
import Emserver.DataConverter.States
import Emserver.EmserverAdapter.Activations
import Emserver.TcpSession.Serialization
import Emserver.TcpSession.Receiving
import Emserver.System.Calls
import Emserver.System.Replica
import Emserver.System.Losses
import Emserver.EndToEnd.Delivery
import Emserver.ClientConnection.Close
import Emserver.ClientConnection.Reconnect
import Emserver.ClientConnection.Lifetime
import Emserver.ServerConnection.Close
import Emserver.ServerConnection.Listening
import Emserver.ServerConnection.Reports
import Emserver.ServerConnection.Lifetime
import Emserver.Threads.CircularWait
