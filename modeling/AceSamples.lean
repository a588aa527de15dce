import AceSamples.ScriptedRun
import AceSamples.ClientService
import AceSamples.ClientServiceEffects
import AceSamples.ClientServiceRegistration
import AceSamples.ClientServiceEchoOrder
import AceSamples.ClientAcceptor
import AceSamples.ClientAcceptorLifecycle
import AceSamples.ClientServiceEndOfStream
import AceSamples.Client5
import AceSamples.Client5Effects
import AceSamples.Client5Wakeup
import AceSamples.Client5Conservation
import AceSamples.Client5CloseWriter
import AceSamples.Client4
import AceSamples.LogSwitcher
import AceSamples.Server1
import AceSamples.EchoSession
import AceSamples.LogManager
import AceSamples.ClientServiceAccounting
import AceSamples.LogManagerCallback
import AceSamples.LogManagerExclusive
import AceSamples.ClientServiceFlowControl
import AceSamples.ClientServicePutBack
import AceSamples.ByteBuffer
import AceSamples.Server2
import AceSamples.Server1EchoLoop
import AceSamples.Udp
import AceSamples.ResourceLedger
import AceSamples.Server1Release
import AceSamples.ClientServiceTally
import AceSamples.Interleaving
import AceSamples.ClientAcceptorIsolation
import AceSamples.Client5Lifecycle
import AceSamples.Client5Session
import AceSamples.Client4Release
import AceSamples.ClientAcceptorMain
import AceSamples.EchoNetwork
import AceSamples.Client1Session
import AceSamples.ClientServiceProgress
import AceSamples.Client5Progress
import AceSamples.UdpNetwork
import AceSamples.ClientServiceCatchUp
import AceSamples.Client5SessionEnd
import AceSamples.EchoSessionFaults
