import ChatRelay.Ambient
import ChatRelay.Backend.Basic
import ChatRelay.Backend.Call
import ChatRelay.Backend.Reply
import ChatRelay.Caller
import ChatRelay.Channel
import ChatRelay.Conversation.Assembly
import ChatRelay.Conversation.Codec.Message
import ChatRelay.Conversation.Codec.Request
import ChatRelay.Conversation.Codec.Response
import ChatRelay.Conversation.Message
import ChatRelay.Conversation.Request
import ChatRelay.Conversation.Response
import ChatRelay.Conversation.Turn
import ChatRelay.Decimal.Shortest
import ChatRelay.Decorator
import ChatRelay.Dialect.Anthropic.Block
import ChatRelay.Dialect.Anthropic.BlockStream
import ChatRelay.Dialect.Anthropic.Collected
import ChatRelay.Dialect.Anthropic.Fragments
import ChatRelay.Dialect.Anthropic.Lift
import ChatRelay.Dialect.Anthropic.Lower
import ChatRelay.Dialect.Anthropic.Stream
import ChatRelay.Dialect.Anthropic.Wire
import ChatRelay.Dialect.OpenAi.Lift
import ChatRelay.Dialect.OpenAi.Lower
import ChatRelay.Dialect.OpenAi.Stream
import ChatRelay.Dialect.OpenAi.Wire
import ChatRelay.Dialect.OpenRouter
import ChatRelay.Fault
import ChatRelay.Feed.Basic
import ChatRelay.Feed.Handle
import ChatRelay.HostName.Basic
import ChatRelay.HostName.Label
import ChatRelay.HostName.Mapping
import ChatRelay.HostName.MappingTable
import ChatRelay.HostName.Punycode
import ChatRelay.Http
import ChatRelay.Hub
import ChatRelay.Json.Basic
import ChatRelay.Json.Number
import ChatRelay.Json.Printer
import ChatRelay.Json.Reader
import ChatRelay.Json.Record
import ChatRelay.Json.Value
import ChatRelay.Proofs.Anthropic.BlockKinds
import ChatRelay.Proofs.Anthropic.BlockOrder
import ChatRelay.Proofs.Anthropic.BlockTurn
import ChatRelay.Proofs.Anthropic.FragmentTurn
import ChatRelay.Proofs.Anthropic.Gathered
import ChatRelay.Proofs.Anthropic.Mirror
import ChatRelay.Proofs.Anthropic.Passage
import ChatRelay.Proofs.Anthropic.Settled
import ChatRelay.Proofs.Anthropic.StreamOrder
import ChatRelay.Proofs.Assembly
import ChatRelay.Proofs.Attempts
import ChatRelay.Proofs.Configured
import ChatRelay.Proofs.OpenAi.Recorded
import ChatRelay.Proofs.SlotOrder
import ChatRelay.Proofs.StreamFaults
import ChatRelay.Proofs.TokenCap
import ChatRelay.Relay
import ChatRelay.RetryPolicy
import ChatRelay.ServerEvent
import ChatRelay.Settings.Basic
import ChatRelay.Settings.Codec
import ChatRelay.Settings.File
import ChatRelay.Settings.Placeholder
import ChatRelay.Slots
import ChatRelay.Text.Blank
import ChatRelay.Text.CompositeTable
import ChatRelay.Text.Composition
import ChatRelay.Text.Cut
import ChatRelay.Text.Runs
import ChatRelay.Text.Trait
import ChatRelay.Text.TraitTable
import ChatRelay.Text.Utf8
import ChatRelay.TokenCount
import ChatRelay.Toml.Document
import ChatRelay.Toml.Reader
import ChatRelay.Toml.Scalar
import ChatRelay.Url.Basic
import ChatRelay.Url.Host
import ChatRelay.Url.Percent
import ChatRelay.Proofs.EndMarker
import ChatRelay.Proofs.Anthropic.Standing
import ChatRelay.Proofs.Anthropic.Streamed
import ChatRelay.Proofs.Anthropic.ToolInput
import ChatRelay.Proofs.CanonicalRecord
import ChatRelay.Proofs.Acceptance
import ChatRelay.Proofs.Anthropic.StopReason
import ChatRelay.Proofs.Anthropic.Seals
import ChatRelay.Proofs.Anthropic.SentTurns
import ChatRelay.Proofs.Anthropic.ReadTurns
import ChatRelay.Proofs.Anthropic.ImpliedCall
import ChatRelay.Proofs.ChannelCalls
import ChatRelay.Proofs.Secrecy
import ChatRelay.Proofs.Anthropic.Images
import ChatRelay.Proofs.Anthropic.ImageAddress
import ChatRelay.Proofs.OpenAi.Reread
import ChatRelay.Proofs.Addresses
import ChatRelay.Proofs.Anthropic.Answered
import ChatRelay.Proofs.CheckedSettings
import ChatRelay.Proofs.OpenAi.Answered
import ChatRelay.Proofs.OpenAi.Rechunked
import ChatRelay.Proofs.Anthropic.ThinkingRoom
import ChatRelay.Proofs.Choices
import ChatRelay.Proofs.ErrorPassage
import ChatRelay.Feed.Pump
import ChatRelay.Proofs.Stacks
import ChatRelay.Proofs.Reports
import ChatRelay.Proofs.Owners
import ChatRelay.Proofs.Anthropic.CacheShare
import ChatRelay.Proofs.Anthropic.Counts
import ChatRelay.Proofs.Anthropic.CallNumbers
import ChatRelay.Proofs.ChainEdits
import ChatRelay.Proofs.ChainRuns
import ChatRelay.Proofs.DecoratorOrder
import ChatRelay.Proofs.Placeholders
import ChatRelay.Proofs.EventText
import ChatRelay.Proofs.WrittenForm
import ChatRelay.Proofs.Anthropic.WrittenEvents
import ChatRelay.Proofs.Anthropic.LoneChunk
import ChatRelay.Proofs.Url.Spelling
import ChatRelay.Proofs.Url.Hosts
import ChatRelay.Proofs.Url.Labels
import ChatRelay.Proofs.Url.Names
import ChatRelay.Proofs.Url.Numbers
import ChatRelay.Proofs.Url.Authority
import ChatRelay.Proofs.Url.Layout
import ChatRelay.Proofs.Endpoints
