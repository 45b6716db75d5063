import DnsProxy.Infra.Machine
import DnsProxy.Infra.Text
import DnsProxy.Cache
import DnsProxy.Cache.Handler
import DnsProxy.Client.UpstreamConfig
import DnsProxy.Client.Upstream
import DnsProxy.Client.UpstreamUrl
import DnsProxy.Listener.Io
import DnsProxy.Listener.DnsCrypt
import DnsProxy.Listener.Doh
import DnsProxy.Properties.Cache
import DnsProxy.Properties.CacheServed
import DnsProxy.Properties.UpstreamParse
import DnsProxy.Properties.Failover
import DnsProxy.Properties.Routing
import DnsProxy.Properties.RoundRobin
import DnsProxy.Properties.LongestSuffix
import DnsProxy.Main
import DnsProxy.Properties.PrivateZones
import DnsProxy.Properties.PrivateUpstream
import DnsProxy.Properties.Exchange
import DnsProxy.Properties.Panic
import DnsProxy.Properties.CertRefresh
import DnsProxy.Properties.DnsCryptEndToEnd
import DnsProxy.Properties.StampRoundTrip
import DnsProxy.Properties.DohAuth
import DnsProxy.Properties.DohListeners
import DnsProxy.Properties.DohWire
import DnsProxy.Properties.UdpSize
import DnsProxy.Infra.Frames
import DnsProxy.Infra.Retry
import DnsProxy.Listener.Dot
import DnsProxy.Properties.TcpStream
import DnsProxy.Properties.LoadBalance
import DnsProxy.Properties.RetrySlots
import DnsProxy.Properties.DoqRetry
import DnsProxy.Properties.Userinfo
import DnsProxy.Properties.StampGrammar
import DnsProxy.Client.DnsCrypt.Config
import DnsProxy.Properties.ConfigRoundTrip
import DnsProxy.Properties.CertBatch
import DnsProxy.Client.Resolvers
import DnsProxy.Properties.LookupOrigin
import DnsProxy.Properties.LiteralHost
import DnsProxy.Properties.CacheTtl
import DnsProxy.Properties.H3Probe
import DnsProxy.Properties.ParallelLookup
import DnsProxy.Infra.Recency
import DnsProxy.Properties.CacheRecency
import DnsProxy.Infra.Relay
import DnsProxy.Listener.Doq
import DnsProxy.Properties.ProxyChain
import DnsProxy.Infra.Hoare
import DnsProxy.Infra.Settle
import DnsProxy.Properties.DnsCryptChannel
import DnsProxy.Infra.Ledger
import DnsProxy.Infra.Lease
import DnsProxy.Properties.ResolverLifecycle
import DnsProxy.Infra.Launch
import DnsProxy.Listener.Serve
import DnsProxy.Main.Run
import DnsProxy.Properties.Startup
import DnsProxy.Infra.Serial
import DnsProxy.Listener.UdpLoop
import DnsProxy.Properties.UdpLoop
import DnsProxy.Properties.Boundary
import DnsProxy.Properties.Confinement
import DnsProxy.Properties.Deadline
