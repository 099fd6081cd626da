import H2ts.Lib.BigEndian
import H2ts.Lib.Bits
import H2ts.Lib.Scanner
import H2ts.Lib.Utf8
import H2ts.Lib.Utf8Syntax
import H2ts.Lib.Runes
import H2ts.Lib.Eviction
import H2ts.Lib.KeyMap
import H2ts.Lib.Machine
import H2ts.Lib.Watch
import H2ts.Lib.Js
import H2ts.Lib.JsObject
import H2ts.Lib.Bufio
import H2ts.Lib.WebSocket
import H2ts.Errors
import H2ts.Bytes
import H2ts.Frames
import H2ts.FrameCodec
import H2ts.FramePadding
import H2ts.FrameStream
import H2ts.FrameSafety
import H2ts.Hpack.Tables
import H2ts.Hpack.Huffman
import H2ts.Hpack.Primitives
import H2ts.Hpack.Integers
import H2ts.Hpack.Coder
import H2ts.Hpack.DynamicTable
import H2ts.Hpack.Representation
import H2ts.Hpack.RoundTrip
import H2ts.Hpack.Reference
import H2ts.Hpack.Safety
import H2ts.Hpack.Canonical
import H2ts.Hpack.Robust
import H2ts.Hpack.SizeUpdate
import H2ts.Flow
import H2ts.Messages
import H2ts.Connection.State
import H2ts.Connection.Dispatch
import H2ts.Connection.Client
import H2ts.Connection.Slots
import H2ts.Connection.History
import H2ts.Connection.View
import H2ts.Connection.Refine
import H2ts.Connection.WellFormed
import H2ts.Connection.FlowControl
import H2ts.Connection.Admission
import H2ts.Connection.Upload
import H2ts.Connection.Download
import H2ts.Connection.Complete
import H2ts.Connection.Abandon
import H2ts.Connection.HeaderBlocks
import H2ts.Connection.SendPath
import H2ts.Connection.Isolation
import H2ts.Connection.Turns
import H2ts.Connection.Callers
import H2ts.Connection.Heads
import H2ts.Connection.Erasure
import H2ts.Connection.Interim
import H2ts.Connection.Teardown
import H2ts.Connection.Credit
import H2ts.Connection.Conservation
import H2ts.Connection.Padding
import H2ts.Connection.Chunks
import H2ts.Connection.Board
import H2ts.Connection.Deeds
import H2ts.Connection.Wakeups
import H2ts.Connection.Forsaken
import H2ts.Connection.Readers
import H2ts.Connection.WindowLimit
import H2ts.Connection.SendWindows
import H2ts.Connection.Unterminated
import H2ts.Connection.WireIds
import H2ts.Connection.Resets
import H2ts.Connection.TableSize
import H2ts.Pool.Routing
import H2ts.Pool.SingleFlight
import H2ts.Pool.Departing
import H2ts.Typescript.Codec
import H2ts.Typescript.Agreement
import H2ts.Typescript.Stream
import H2ts.Typescript.HeaderMap
import H2ts.Typescript.Connection
import H2ts.Typescript.Sections
import H2ts.Typescript.Steps
import H2ts.Typescript.Admission
import H2ts.Typescript.Heads
import H2ts.Typescript.HeadersFirst
import H2ts.Go.Conn
import H2ts.Go.Frames
import H2ts.Go.ByteStream
import H2ts.Go.Goroutines
import H2ts.Go.Closing
import H2ts.Go.KeepAlive
import H2ts.Go.Outbound
import H2ts.Server.Handshake
import H2ts.Go.Handshake
import H2ts.Server.Echo
import H2ts.Server.SameHandshake
import H2ts.Server.Idle
import H2ts.Server.Bridge
import H2ts.Server.Responsive
import H2ts.Wslay.Utf8d
import H2ts.Wslay.Frame
import H2ts.Wslay.Event
import H2ts.Wslay.Reader
import H2ts.Wslay.Send
import H2ts.Wslay.Stream
import H2ts.Wslay.Framing
import H2ts.Wslay.Receive
import H2ts.Wslay.Deliver
import H2ts.Wslay.Follow
import H2ts.Server.Moves
import H2ts.Server.Tunnel
import H2ts.Server.Upstream
import H2ts.Lib.Utf16
import H2ts.Typescript.Hpack
import H2ts.Typescript.HpackSync
import H2ts.Connection.Outbound
import H2ts.Server.EndToEnd
import H2ts.Server.SameTunnel
import H2ts.Typescript.Credit
