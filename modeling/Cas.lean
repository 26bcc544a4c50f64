import Cas.Streamer.Invariant
import Cas.Streamer.Refinement
import Cas.Lib.BigEndian
import Cas.Nitro.Signature
import Cas.Nitro.VerifyBatch
import Cas.MockRollup
import Cas.Streamer.Retention
import Cas.Streamer.Provenance
import Cas.Nitro.Payload
import Cas.Streamer.Promotion
import Cas.Streamer.FirstSeen
import Cas.Nitro.StillQueued
import Cas.Streamer.Overflow
import Cas.Nitro.Authenticity
import Cas.Streamer.Broadcast
import Cas.Nitro.BuildPayload
import Cas.Submitter
import Cas.Nitro.FeedClient
import Cas.Nitro.FeedServer
import Cas.Nitro.FeedDelivery
import Cas.Lib.Rlp
import Cas.Nitro.BatchParsing
import Cas.Nitro.Certificate
import Cas.Nitro.L1Monitor
import Cas.DaApi.Certificate
import Cas.Streamer.Poller
import Cas.DaApi.Server
import Cas.DaApi.StoreRecover
import Cas.Lib.RlpItems
import Cas.Nitro.MessageRlp
import Cas.Nitro.PayloadFormats
import Cas.Nitro.BaseFee
import Cas.Nitro.Malleability
import Cas.Streamer.Arrival
import Cas.Streamer.Coalesce
import Cas.Streamer.WindowLoop
import Cas.Lib.BroadcastRing
import Cas.Lib.Mpsc
import Cas.Lib.Watch
import Cas.Nitro.FeedHub
import Cas.Nitro.FeedRelay
import Cas.Nitro.Finality
import Cas.Nitro.OutputService
import Cas.Nitro.Restart
import Cas.Nitro.FeedHandshake
import Cas.Nitro.Intake
import Cas.DaApi.Agreement
import Cas.Nitro.Ingest
import Cas.Registration
import Cas.Streamer.Inbound
import Cas.DaApi.Availability
import Cas.DaApi.Gateway
import Cas.DaApi.GatewayProtocol
