import InternetCourse.BlockStream
import InternetCourse.ByteLayout
import InternetCourse.MessagePassing
import InternetCourse.ByteMem
import InternetCourse.StateTriple
import InternetCourse.SlotTable
import InternetCourse.RouterRun
import InternetCourse.RouterMapping
import InternetCourse.RouterTransit
import InternetCourse.RouterErrors
import InternetCourse.RouterRetry
import InternetCourse.RouterSweep
import InternetCourse.RouterForward
import InternetCourse.RouterResolve
import InternetCourse.RouterReplies
import InternetCourse.RouterDuplicates
import InternetCourse.RouterAlive
import InternetCourse.RouterNextHop
import InternetCourse.RouterWindow
import InternetCourse.RouterDelivery
import InternetCourse.RouterBounds
import InternetCourse.RouterLeak
import InternetCourse.RouterFraming
import InternetCourse.RouterMessages
import InternetCourse.SenderController
import InternetCourse.SlidingWindow
import InternetCourse.SenderLoop
import InternetCourse.SenderThroughput
import InternetCourse.RouterPrefix
import InternetCourse.OnesComplement
import InternetCourse.RouterChecksum
import InternetCourse.RouterValidation
import InternetCourse.RouterEcho
import InternetCourse.RouterExchange
import InternetCourse.RouterEnvelope
import InternetCourse.RouterConfig
import InternetCourse.RouterRefusal
import InternetCourse.RouterSilence
import InternetCourse.RouterRetransmit
import InternetCourse.RouterQuotes
import InternetCourse.RouterHardware
import InternetCourse.RouterTable
import InternetCourse.RouterEndless
import InternetCourse.RouterReader
import InternetCourse.RouterSha1
import InternetCourse.RouterDigest
import InternetCourse.RouterAuth
import InternetCourse.RouterDump
import InternetCourse.RouterNetwork
import InternetCourse.RouterOpen
import InternetCourse.RouterSession
import InternetCourse.RouterProgram
