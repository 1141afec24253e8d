import SocksProxy.Properties.Interest
import SocksProxy.Properties.Streams
import SocksProxy.Properties.Teardown
import SocksProxy.Properties.Gate
import SocksProxy.Properties.Replies
import SocksProxy.Properties.Origins
import SocksProxy.Properties.Lifetime
import SocksProxy.Properties.Resolver
import SocksProxy.Properties.Deny
import SocksProxy.Properties.Capacity
import SocksProxy.Properties.Accounts
import SocksProxy.Properties.Delimited
import SocksProxy.Properties.Framing
import SocksProxy.Properties.Login
import SocksProxy.Properties.Pipelining
import SocksProxy.Properties.Quit
import SocksProxy.Properties.Segments
import SocksProxy.Properties.Directory
import SocksProxy.Properties.Usernames
import SocksProxy.Properties.LogOrder
import SocksProxy.Properties.SessionIds
import SocksProxy.Properties.Credentials
import SocksProxy.Properties.Encoding
import SocksProxy.Properties.InStep
import SocksProxy.Properties.JumpTable
import SocksProxy.Properties.StaleEvents
import SocksProxy.Properties.Fallback
import SocksProxy.Properties.RequestCodec
import SocksProxy.Properties.AuthCodec
import SocksProxy.Properties.Negotiation
import SocksProxy.Properties.Refused
import SocksProxy.Properties.Fields
import SocksProxy.Properties.HalfClose
import SocksProxy.Properties.DenySets
import SocksProxy.Properties.Room
import SocksProxy.Properties.Expiry
import SocksProxy.Properties.Connections
import SocksProxy.Properties.Progress
import SocksProxy.Properties.Engine
import SocksProxy.Socks.StateTable
import SocksProxy.Properties.Queue
import SocksProxy.Properties.Startup
import SocksProxy.Properties.Service
import SocksProxy.Properties.Authority
import SocksProxy.Properties.Settings
import SocksProxy.Client.Answers
import SocksProxy.Lib.Atomic
import SocksProxy.Properties.Direct
import SocksProxy.Properties.Remote
